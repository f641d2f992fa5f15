import Mathlib.Data.List.Basic
import Mathlib.Data.String.Basic

/-!
# Texts that can be read back

When a text is put together from pieces, it determines its pieces if each of them
shows where it ends. Two ways of showing it are used here: a piece is *delimited*
if no two different pieces start the same text (`Rossoctl.Json.Delimited`) – a
string literal shows its end by its closing quote – and a piece over a limited
alphabet ends where the first other character comes
(`Rossoctl.Json.append_cancel_of_alphabet`), which is how numbers end.

`Rossoctl.Json.quote` is the string literal that Go's `encoding/json` writes, with
its escapes for quotes, backslashes, control characters, the three HTML
characters and the two line separators; `Rossoctl.Json.quote_delimited` says that it
can be read back.
-/

namespace Rossoctl.Json

open List

variable {α : Type*}

/-- **Delimited pieces**: a text starts with at most one of them. -/
def Delimited (enc : α → List Char) : Prop :=
  ∀ a a' rest rest', enc a ++ rest = enc a' ++ rest' → a = a' ∧ rest = rest'

variable {c : Char} {rest rest' : List Char}

/-- Two words over an alphabet that are followed by something outside it, or by
nothing, are the same if the texts are. -/
theorem append_cancel_of_alphabet {p : Char → Prop} {w w' : List Char} (hw : ∀ c ∈ w, p c)
    (hw' : ∀ c ∈ w', p c) (hr : ∀ c ∈ rest.head?, ¬ p c) (hr' : ∀ c ∈ rest'.head?, ¬ p c)
    (h : w ++ rest = w' ++ rest') : w = w' ∧ rest = rest' := by
  induction w generalizing w' with
  | nil =>
    cases w' with
    | nil => exact ⟨rfl, h⟩
    | cons c w' =>
      exact absurd (hw' c mem_cons_self) (hr c (by rw [← nil_append rest, h]; rfl))
  | cons c w ih =>
    cases w' with
    | nil =>
      exact absurd (hw c mem_cons_self) (hr' c (by rw [← nil_append rest', ← h]; rfl))
    | cons d w' =>
      rw [cons_append, cons_append, List.cons.injEq] at h
      obtain ⟨hww, hrr⟩ := ih (fun e he => hw e (mem_cons_of_mem _ he))
        (fun e he => hw' e (mem_cons_of_mem _ he)) h.2
      exact ⟨by rw [h.1, hww], hrr⟩

/-! ### Characters in a string literal -/

/-- The characters with an escape of one letter. -/
def shortEscapes : List (Char × Char) :=
  [('"', '"'), ('\\', '\\'), ('\x08', 'b'), ('\x0c', 'f'), ('\n', 'n'), ('\r', 'r'), ('\t', 't')]

/-- The characters that are written by their number. -/
def byNumber (c : Char) : Bool :=
  c.toNat < 32 || c = '<' || c = '>' || c = '&' || c.toNat = 0x2028 || c.toNat = 0x2029

/-- A hexadecimal digit. -/
def hexDigit (n : ℕ) : Char := (Nat.digitChar (n % 16))

/-- The number of a character, in four hexadecimal digits. -/
def hex4 (n : ℕ) : List Char :=
  [hexDigit (n / 4096), hexDigit (n / 256), hexDigit (n / 16), hexDigit n]

/-- A character inside a string literal. -/
def encodeChar (c : Char) : List Char :=
  match shortEscapes.lookup c with
  | some e => ['\\', e]
  | none => if byNumber c then '\\' :: 'u' :: hex4 c.toNat else [c]

theorem mem_of_lookup {e : Char} {l : List (Char × Char)} (h : l.lookup c = some e) :
    (c, e) ∈ l := by
  induction l with
  | nil => cases h
  | cons p l ih =>
    rw [lookup_cons] at h
    split at h
    · rename_i hc
      cases h
      rw [eq_of_beq hc]
      exact mem_cons_self
    · exact mem_cons_of_mem _ (ih h)

theorem shortEscapes_inj {c' e : Char} (h : shortEscapes.lookup c = some e)
    (h' : shortEscapes.lookup c' = some e) : c = c' := by
  have inj : ∀ p ∈ shortEscapes, ∀ q ∈ shortEscapes, p.2 = q.2 → p.1 = q.1 := by decide
  exact inj _ (mem_of_lookup h) _ (mem_of_lookup h') rfl

theorem shortEscapes_ne_u {e : Char} (h : shortEscapes.lookup c = some e) : e ≠ 'u' := by
  have ne : ∀ p ∈ shortEscapes, p.2 ≠ 'u' := by decide
  exact ne _ (mem_of_lookup h)

theorem ne_of_lookup_eq_none (h : shortEscapes.lookup c = none) : c ≠ '"' ∧ c ≠ '\\' := by
  constructor <;> rintro rfl <;> cases h

theorem hexDigit_inj {m n : ℕ} (h : hexDigit m = hexDigit n) : m % 16 = n % 16 := by
  have inj : ∀ a < 16, ∀ b < 16, Nat.digitChar a = Nat.digitChar b → a = b := by decide
  exact inj _ (Nat.mod_lt _ (by decide)) _ (Nat.mod_lt _ (by decide)) h

theorem hex4_inj {m n : ℕ} (hm : m < 65536) (hn : n < 65536) (h : hex4 m = hex4 n) : m = n := by
  simp only [hex4, List.cons.injEq, and_true] at h
  obtain ⟨h1, h2, h3, h4⟩ := h
  have h1 := hexDigit_inj h1
  have h2 := hexDigit_inj h2
  have h3 := hexDigit_inj h3
  have h4 := hexDigit_inj h4
  omega

theorem toNat_lt_of_byNumber (h : byNumber c = true) : c.toNat < 65536 := by
  simp only [byNumber, Bool.or_eq_true, decide_eq_true_eq] at h
  rcases h with ((((h | rfl) | rfl) | rfl) | h) | h <;> first | omega | decide

theorem hex4_append_inj {m n : ℕ} (hm : m < 65536) (hn : n < 65536)
    (h : hex4 m ++ rest = hex4 n ++ rest') : m = n ∧ rest = rest' := by
  obtain ⟨hh, hr⟩ := append_inj h rfl
  exact ⟨hex4_inj hm hn hh, hr⟩

/-- **A character can be read back**, and never looks like the closing quote. -/
theorem encodeChar_delimited : Delimited encodeChar := by
  intro c c' rest rest' h
  unfold encodeChar at h
  split at h
  · rename_i e he
    split at h
    · rename_i e' he'
      simp only [cons_append, nil_append, List.cons.injEq, true_and] at h
      obtain ⟨rfl, hr⟩ := h
      exact ⟨shortEscapes_inj he he', hr⟩
    · rename_i he'
      split at h
      · simp only [cons_append, nil_append, List.cons.injEq, true_and] at h
        exact absurd h.1 (shortEscapes_ne_u he)
      · simp only [cons_append, List.cons.injEq] at h
        exact absurd h.1.symm (ne_of_lookup_eq_none he').2
  · rename_i he
    split at h
    · rename_i hn
      split at h
      · rename_i e' he'
        simp only [cons_append, nil_append, List.cons.injEq, true_and] at h
        exact absurd h.1.symm (shortEscapes_ne_u he')
      · rename_i he'
        split at h
        · rename_i hn'
          simp only [cons_append, List.cons.injEq, true_and] at h
          obtain ⟨hc, hr⟩ := hex4_append_inj (toNat_lt_of_byNumber hn) (toNat_lt_of_byNumber hn') h
          exact ⟨Char.toNat_inj.mp hc, hr⟩
        · simp only [cons_append, List.cons.injEq] at h
          exact absurd h.1.symm (ne_of_lookup_eq_none he').2
    · split at h
      · simp only [cons_append, nil_append, List.cons.injEq] at h
        exact absurd h.1 (ne_of_lookup_eq_none he).2
      · split at h
        · simp only [cons_append, nil_append, List.cons.injEq] at h
          exact absurd h.1 (ne_of_lookup_eq_none he).2
        · simp only [cons_append, nil_append, List.cons.injEq] at h
          exact h

theorem encodeChar_ne_quote (c : Char) (rest rest' : List Char) :
    encodeChar c ++ rest ≠ '"' :: rest' := by
  intro h
  unfold encodeChar at h
  split at h
  · simp at h
  · rename_i he
    split at h
    · simp at h
    · simp only [cons_append, List.cons.injEq] at h
      exact (ne_of_lookup_eq_none he).1 h.1

/-- The inside of a string literal, up to the closing quote. -/
def encodeChars : List Char → List Char
  | [] => ['"']
  | c :: cs => encodeChar c ++ encodeChars cs

/-- **The string literal** for a string. -/
def quote (s : String) : List Char := '"' :: encodeChars s.toList

theorem encodeChars_delimited : Delimited encodeChars := by
  intro cs
  induction cs with
  | nil =>
    intro cs' rest rest' h
    cases cs' with
    | nil => exact ⟨rfl, (List.cons.inj h).2⟩
    | cons c cs' =>
      rw [encodeChars, encodeChars, append_assoc] at h
      exact absurd h.symm (encodeChar_ne_quote c _ _)
  | cons c cs ih =>
    intro cs' rest rest' h
    cases cs' with
    | nil =>
      rw [encodeChars, encodeChars, append_assoc] at h
      exact absurd h (encodeChar_ne_quote c _ _)
    | cons c' cs' =>
      rw [encodeChars, encodeChars, append_assoc, append_assoc] at h
      obtain ⟨rfl, hcs⟩ := encodeChar_delimited _ _ _ _ h
      obtain ⟨rfl, hr⟩ := ih _ _ _ hcs
      exact ⟨rfl, hr⟩

/-- **A string literal can be read back.** -/
theorem quote_delimited : Delimited quote := by
  intro s s' rest rest' h
  obtain ⟨hs, hr⟩ := encodeChars_delimited _ _ _ _ (List.cons.inj h).2
  exact ⟨String.toList_inj.mp hs, hr⟩

/-! ### Numbers -/

/-- The characters a number is written with. -/
def isNumberChar (c : Char) : Bool :=
  c.isDigit || c = '+' || c = '-' || c = '.' || c = 'e' || c = 'E'

/-- A text that does not go on with a number. -/
def Stops (rest : List Char) : Prop := ∀ c ∈ rest.head?, ¬ isNumberChar c = true

theorem stops_cons (h : isNumberChar c = false) (rest : List Char) : Stops (c :: rest) := by
  rintro _ ⟨⟩
  simp [h]

/-- A piece that can be read back where no number goes on. -/
def ReadBack (enc : α → List Char) (a : α) : Prop :=
  ∀ a' rest rest', Stops rest → Stops rest' → enc a ++ rest = enc a' ++ rest' →
    a = a' ∧ rest = rest'

/-! ### Lists -/

/-- Texts with a comma before every one but the first. -/
def commaSeparated : List (List Char) → List Char
  | [] => []
  | t :: ts => t ++ ts.flatMap fun u => ',' :: u

/-- **A list can be read back** if its elements can, and if none of them looks like
the closing character. -/
theorem commaSeparated_readBack {enc : α → List Char} {close : Char} (hcomma : close ≠ ',')
    (hclose : isNumberChar close = false) (hne : ∀ a t t', enc a ++ t ≠ close :: t')
    {l l' : List α} (h : ∀ a ∈ l, ReadBack enc a)
    (heq : commaSeparated (l.map enc) ++ close :: rest =
      commaSeparated (l'.map enc) ++ close :: rest') : l = l' ∧ rest = rest' := by
  have hstop : ∀ (m : List α) (r : List Char),
      Stops ((m.map enc).flatMap (fun u => ',' :: u) ++ close :: r) := by
    intro m r
    cases m with
    | nil => exact stops_cons hclose r
    | cons b m => exact stops_cons (by decide) _
  -- the elements after the first one
  have htail : ∀ (m m' : List α) (r r' : List Char), (∀ a ∈ m, ReadBack enc a) →
      (m.map enc).flatMap (fun u => ',' :: u) ++ close :: r =
        (m'.map enc).flatMap (fun u => ',' :: u) ++ close :: r' → m = m' ∧ r = r' := by
    intro m
    induction m with
    | nil =>
      intro m' r r' _ he
      cases m' with
      | nil => exact ⟨rfl, (List.cons.inj he).2⟩
      | cons b m' => exact absurd (List.cons.inj he).1 hcomma
    | cons b m ih =>
      intro m' r r' hm he
      cases m' with
      | nil => exact absurd (List.cons.inj he).1.symm hcomma
      | cons b' m' =>
        simp only [map_cons, flatMap_cons, cons_append, append_assoc,
          List.cons.injEq, true_and] at he
        obtain ⟨rfl, ht⟩ := hm b mem_cons_self b' _ _ (hstop m r) (hstop m' r') he
        obtain ⟨rfl, hr⟩ := ih m' r r' (fun a ha => hm a (mem_cons_of_mem _ ha)) ht
        exact ⟨rfl, hr⟩
  cases l with
  | nil =>
    cases l' with
    | nil => exact ⟨rfl, (List.cons.inj heq).2⟩
    | cons b' l' =>
      simp only [map_cons, commaSeparated, append_assoc] at heq
      exact absurd heq.symm (hne b' _ _)
  | cons b l =>
    cases l' with
    | nil =>
      simp only [map_cons, commaSeparated, append_assoc] at heq
      exact absurd heq (hne b _ _)
    | cons b' l' =>
      simp only [map_cons, commaSeparated, append_assoc] at heq
      obtain ⟨rfl, he⟩ := h b mem_cons_self b' _ _ (hstop l rest) (hstop l' rest') heq
      obtain ⟨rfl, hr⟩ := htail l l' rest rest' (fun a ha => h a (mem_cons_of_mem _ ha)) he
      exact ⟨rfl, hr⟩

end Rossoctl.Json
