import Rossoctl.Json.Text
import Rossoctl.Signature.Card

/-!
# The canonical payload of an agent card

The model of `CreateCanonicalCardJSON` (`internal/signature/verifier.go`), the
payload that is signed. The card is written as JSON, read back into generic
values – numbers become doubles here, objects become maps –, the signatures are
deleted, what is null or empty is removed, and the rest is written in a canonical
form.

Tamper evidence is the converse: the payload determines the card, up to what is
null or empty (`Rossoctl.Signature.Agree`). The canonical writer can be read back
(`Rossoctl.Signature.marshalValue_readBack`) and the removal leaves the essence alone
(`Rossoctl.Signature.essence_removeEmptyFields`), so the payload determines everything but what
the doubles have lost (`Rossoctl.Signature.essence_eq_of_payload_eq`). And they have lost
something whenever there is a number at all: `Rossoctl.Signature.tamperEvident_iff`.
-/

namespace Rossoctl.Signature

open Json List

/-- A generic value, as `json.Unmarshal` makes it: its numbers are doubles. -/
abbrev Value := JTree Float64

/-- How `json.Marshal` writes a double. What is assumed of it is what
`strconv.FormatFloat` promises with the shortest precision: the text is a number,
and it determines the double. -/
structure FloatText where
  format : Float64 → List Char
  format_inj : ∀ f g, format f = format g → f = g
  format_ne_nil : ∀ f, format f ≠ []
  format_chars : ∀ f, ∀ c ∈ format f, isNumberChar c = true

/-! ### Removing what is empty -/

mutual

/-- `removeEmptyFields`, one round of its loop for every member. -/
def removeEmptyFields : List (String × Value) → List (String × Value)
  | [] => []
  | (k, v) :: m =>
    match cleanMember v with
    | none => removeEmptyFields m
    | some v' => (k, v') :: removeEmptyFields m

/-- What is left of the value of a member. -/
def cleanMember : Value → Option Value
  | .null => none
  | .obj m => JTree.nonempty? .obj (removeEmptyFields m)
  | .arr xs => JTree.nonempty? .arr (cleanElems xs)
  | .str s => if s = "" then none else some (.str s)
  | v => some v

/-- What is left of the elements of an array. -/
def cleanElems : List Value → List Value
  | [] => []
  | x :: xs =>
    match cleanElem x with
    | none => cleanElems xs
    | some x' => x' :: cleanElems xs

/-- What is left of an element; an array inside an array is taken as it is. -/
def cleanElem : Value → Option Value
  | .null => none
  | .obj m => JTree.nonempty? .obj (removeEmptyFields m)
  | .str s => if s = "" then none else some (.str s)
  | v => some v

end

/-! ### Writing -/

section Marshal

variable (ft : FloatText)

mutual

/-- `marshalValue`; the members are in order already. -/
def marshalValue : Value → List Char
  | .null => "null".toList
  | .bool true => "true".toList
  | .bool false => "false".toList
  | .num f => ft.format f
  | .str s => quote s
  | .arr xs => '[' :: commaSeparated (marshalElems xs) ++ [']']
  | .obj m => '\x7b' :: commaSeparated (marshalMembers m) ++ ['\x7d']

/-- The texts of the elements of an array. -/
def marshalElems : List Value → List (List Char)
  | [] => []
  | x :: xs => marshalValue x :: marshalElems xs

/-- The texts of the members of an object. -/
def marshalMembers : List (String × Value) → List (List Char)
  | [] => []
  | (k, v) :: m => (quote k ++ ':' :: marshalValue v) :: marshalMembers m

end

/-- `marshalCanonical`. A map is represented by its members in the order of their
names, which is the order `sort.Strings` puts the keys in. -/
def marshalCanonical (m : List (String × Value)) : List Char := marshalValue ft (.obj m)

/-- `json.Unmarshal` into generic values: it fails on a number that is out of the
range of doubles. -/
def unmarshal (d : Document) : Except String Value :=
  if d.nums.all Literal.inRange then .ok (d.map Literal.nearest).resolve
  else .error "failed to unmarshal to map"

/-- **`CreateCanonicalCardJSON`.** -/
def createCanonicalCardJSON (c : AgentCardData) : Except String (List Char) := do
  match ← unmarshal c.marshal with
  | .obj cardMap =>
    let cardMap := cardMap.filter fun p => p.1 ≠ "signatures"
    .ok (marshalCanonical ft (removeEmptyFields cardMap))
  | _ => .error "failed to unmarshal to map"

end Marshal

/-! ### The writer can be read back -/

section ReadBack

variable {ft : FloatText}

theorem marshalElems_eq (xs : List Value) : marshalElems ft xs = xs.map (marshalValue ft) := by
  induction xs with
  | nil => rfl
  | cons x xs ih => rw [marshalElems, ih, map_cons]

/-- The text of a member. -/
def marshalMember (ft : FloatText) (p : String × Value) : List Char :=
  quote p.1 ++ ':' :: marshalValue ft p.2

theorem marshalMembers_eq (m : List (String × Value)) :
    marshalMembers ft m = m.map (marshalMember ft) := by
  induction m with
  | nil => rfl
  | cons p m ih => rw [marshalMembers, ih, map_cons, marshalMember]

/-- The kind of a value, by the character its text starts with; numbers have
several. -/
def kind : Value → Option Char
  | .null => some 'n'
  | .bool b => some (if b then 't' else 'f')
  | .num _ => none
  | .str _ => some '"'
  | .arr _ => some '['
  | .obj _ => some '\x7b'

theorem marshalValue_head (ft : FloatText) (v : Value) :
    ∃ c t, marshalValue ft v = c :: t ∧ kind v = if isNumberChar c then none else some c := by
  cases v with
  | bool b => cases b <;> exact ⟨_, _, rfl, rfl⟩
  | num f =>
    obtain ⟨c, t, h⟩ := exists_cons_of_ne_nil (ft.format_ne_nil f)
    refine ⟨c, t, h, ?_⟩
    rw [if_pos (ft.format_chars f c (h ▸ mem_cons_self))]
    rfl
  | _ => exact ⟨_, _, rfl, rfl⟩

theorem kind_eq_of_append_eq {v v' : Value} {rest rest' : List Char}
    (h : marshalValue ft v ++ rest = marshalValue ft v' ++ rest') : kind v = kind v' := by
  obtain ⟨c, t, hv, hk⟩ := marshalValue_head ft v
  obtain ⟨c', t', hv', hk'⟩ := marshalValue_head ft v'
  rw [hv, hv', cons_append, cons_append, List.cons.injEq] at h
  rw [hk, hk', h.1]

theorem marshalValue_ne_close (v : Value) (t t' : List Char) :
    marshalValue ft v ++ t ≠ ']' :: t' := by
  obtain ⟨c, u, hv, hk⟩ := marshalValue_head ft v
  rw [hv, cons_append, ne_eq, List.cons.injEq]
  rintro ⟨rfl, -⟩
  rw [if_neg (by decide)] at hk
  cases v with
  | bool b => cases b <;> cases hk
  | _ => cases hk

theorem marshalMember_readBack {p : String × Value} (h : ReadBack (marshalValue ft) p.2) :
    ReadBack (marshalMember ft) p := by
  intro q rest rest' hr hr' heq
  rw [marshalMember, marshalMember, append_assoc, append_assoc] at heq
  obtain ⟨hk, heq⟩ := quote_delimited _ _ _ _ heq
  obtain ⟨hv, hrest⟩ := h q.2 rest rest' hr hr' (List.cons.inj heq).2
  exact ⟨Prod.ext hk hv, hrest⟩

/-- **The canonical text of a value can be read back.** -/
theorem marshalValue_readBack (v : Value) : ReadBack (marshalValue ft) v := by
  induction v using JTree.induct with
  | null =>
    intro v' rest rest' _ _ heq
    have hk := kind_eq_of_append_eq heq
    cases v' with
    | null => exact ⟨rfl, append_cancel_left heq⟩
    | bool b => cases b <;> cases hk
    | _ => cases hk
  | bool b =>
    intro v' rest rest' _ _ heq
    have hk := kind_eq_of_append_eq heq
    cases v' with
    | bool b' =>
      obtain rfl : b = b' := by cases b <;> cases b' <;> simp_all [kind]
      exact ⟨rfl, append_cancel_left heq⟩
    | _ => cases b <;> cases hk
  | num f =>
    intro v' rest rest' hr hr' heq
    have hk := kind_eq_of_append_eq heq
    cases v' with
    | num f' =>
      obtain ⟨hf, hrest⟩ :=
        append_cancel_of_alphabet (ft.format_chars f) (ft.format_chars f') hr hr' heq
      exact ⟨congrArg JTree.num (ft.format_inj f f' hf), hrest⟩
    | _ => cases hk
  | str s =>
    intro v' rest rest' _ _ heq
    have hk := kind_eq_of_append_eq heq
    cases v' with
    | str s' =>
      obtain ⟨rfl, hrest⟩ := quote_delimited _ _ _ _ heq
      exact ⟨rfl, hrest⟩
    | bool b => cases b <;> cases hk
    | _ => cases hk
  | arr xs ih =>
    intro v' rest rest' _ _ heq
    have hk := kind_eq_of_append_eq heq
    cases v' with
    | arr xs' =>
      simp only [marshalValue, marshalElems_eq, cons_append, append_assoc,
        nil_append, List.cons.injEq, true_and] at heq
      obtain ⟨rfl, hrest⟩ := commaSeparated_readBack (by decide) (by decide) marshalValue_ne_close
        ih heq
      exact ⟨rfl, hrest⟩
    | bool b => cases b <;> cases hk
    | _ => cases hk
  | obj m ih =>
    intro v' rest rest' _ _ heq
    have hk := kind_eq_of_append_eq heq
    cases v' with
    | obj m' =>
      simp only [marshalValue, marshalMembers_eq, cons_append, append_assoc,
        nil_append, List.cons.injEq, true_and] at heq
      obtain ⟨rfl, hrest⟩ := commaSeparated_readBack (by decide) (by decide)
        (fun p t t' h => absurd (List.cons.inj h).1 (by decide))
        (fun p hp => marshalMember_readBack (ih p hp)) heq
      exact ⟨rfl, hrest⟩
    | bool b => cases b <;> cases hk
    | _ => cases hk

theorem marshalCanonical_inj {m m' : List (String × Value)}
    (h : marshalCanonical ft m = marshalCanonical ft m') : m = m' := by
  have hr := @marshalValue_readBack ft (.obj m) (.obj m') [] [] (by simp [Stops])
    (by simp [Stops]) (congrArg (· ++ []) h)
  exact JTree.obj.inj hr.1

end ReadBack

/-! ### The removal keeps the essence -/

variable (m : List (String × Value)) (xs : List Value) {f : Literal → Literal}

theorem removeEmptyFields_eq :
    removeEmptyFields m = m.filterMap fun p => (cleanMember p.2).map (Prod.mk p.1) := by
  induction m with
  | nil => rw [removeEmptyFields, filterMap_nil]
  | cons p m ih =>
    rw [removeEmptyFields, ih, filterMap_cons]
    cases cleanMember p.2 <;> rfl

theorem cleanElems_eq : cleanElems xs = xs.filterMap cleanElem := by
  induction xs with
  | nil => rw [cleanElems, filterMap_nil]
  | cons x xs ih =>
    rw [cleanElems, ih, filterMap_cons]
    cases cleanElem x <;> rfl

theorem filterMap_filterMap_essence {xs : List Value} {clean : Value → Option Value}
    (h : ∀ x ∈ xs, (clean x).bind JTree.essence = x.essence) :
    (xs.filterMap clean).filterMap JTree.essence = xs.filterMap JTree.essence := by
  rw [filterMap_filterMap]
  exact filterMap_congr h

theorem essences_removeEmptyFields {m : List (String × Value)}
    (h : ∀ p ∈ m, (cleanMember p.2).bind JTree.essence = p.2.essence) :
    JTree.essences (removeEmptyFields m) = JTree.essences m := by
  rw [removeEmptyFields_eq, JTree.essences, filterMap_filterMap, JTree.essences]
  refine filterMap_congr fun p hp => ?_
  rw [← h p hp]
  cases cleanMember p.2 <;> rfl

theorem essence_nonempty_obj :
    (JTree.nonempty? .obj m).bind JTree.essence = JTree.nonempty? .obj (JTree.essences m) := by
  cases m with
  | nil => rfl
  | cons p m => exact JTree.essence_obj (p :: m)

theorem essence_nonempty_arr : (JTree.nonempty? .arr xs).bind JTree.essence =
      JTree.nonempty? .arr (xs.filterMap JTree.essence) := by
  cases xs with
  | nil => rfl
  | cons x xs => exact JTree.essence_arr (x :: xs)

theorem essence_clean (v : Value) : (cleanMember v).bind JTree.essence = v.essence ∧
      (cleanElem v).bind JTree.essence = v.essence := by
  induction v using JTree.induct with
  | null | bool | num => exact ⟨rfl, rfl⟩
  | str s =>
    rw [cleanMember, cleanElem, JTree.essence]
    split
    · exact ⟨rfl, rfl⟩
    · rename_i hs
      exact ⟨if_neg hs, if_neg hs⟩
  | arr xs ih =>
    refine ⟨?_, rfl⟩
    rw [cleanMember, cleanElems_eq, essence_nonempty_arr,
      filterMap_filterMap_essence fun x hx => (ih x hx).2, JTree.essence_arr]
  | obj m ih =>
    rw [cleanMember, cleanElem, essence_nonempty_obj,
      essences_removeEmptyFields fun p hp => (ih p hp).1, JTree.essence_obj]
    exact ⟨rfl, rfl⟩

/-- **The removal of empty fields keeps the essence.** -/
theorem essence_removeEmptyFields :
    (JTree.obj (removeEmptyFields m)).essence = (JTree.obj m).essence := by
  rw [JTree.essence_obj, JTree.essence_obj,
    essences_removeEmptyFields fun p _ => (essence_clean p.2).1]

/-! ### What the payload determines -/

variable {ft : FloatText} {c c' : AgentCardData} {p : List Char}

/-- **Two cards agree** on every field but the signatures, up to what is null or
empty: as documents with the mathematical values of their numbers, they have the
same essence. -/
def Agree (c c' : AgentCardData) : Prop :=
  (c.document.map Literal.value).resolve.essence = (c'.document.map Literal.value).resolve.essence

/-- The payload of a card, if there is one, is the canonical text of a map with
the essence of the card in doubles. -/
theorem payload_ok (h : createCanonicalCardJSON ft c = .ok p) :
    c.marshal.nums.all Literal.inRange = true ∧
    ∃ m, p = marshalCanonical ft m ∧
      (JTree.obj m).essence = c.document.resolve.essence.map (JTree.map Literal.nearest) := by
  obtain ⟨m, hm, hess⟩ := marshal_resolve c
  have hmap : (c.marshal.map Literal.nearest).resolve =
      .obj (mapSnd (JTree.map Literal.nearest) m) := by
    rw [JTree.resolve_map, hm, JTree.map_obj]
  have hfilter : (mapSnd (JTree.map Literal.nearest) m).filter (fun p => p.1 ≠ "signatures") =
      mapSnd (JTree.map Literal.nearest) (m.filter fun p => p.1 ≠ "signatures") := by
    rw [mapSnd, filter_map]
    rfl
  rw [createCanonicalCardJSON, unmarshal] at h
  split at h
  · rename_i hrange
    rw [hmap] at h
    refine ⟨hrange, _, (Except.ok.inj h).symm, ?_⟩
    rw [essence_removeEmptyFields, hfilter, ← JTree.map_obj, JTree.essence_map, hess]
  · cases h

/-- A card whose numbers are in the range of doubles has a payload. -/
theorem exists_payload (ft : FloatText) (h : c.marshal.nums.all Literal.inRange = true) :
    ∃ p, createCanonicalCardJSON ft c = .ok p := by
  obtain ⟨m, hm, -⟩ := marshal_resolve c
  rw [createCanonicalCardJSON, unmarshal, if_pos h, JTree.resolve_map, hm, JTree.map_obj]
  exact ⟨_, rfl⟩

/-- **The payload determines the card up to rounding**: cards with one payload have
the same essence once their numbers are read as doubles. -/
theorem essence_eq_of_payload_eq (h : createCanonicalCardJSON ft c = .ok p)
    (h' : createCanonicalCardJSON ft c' = .ok p) :
    c.document.resolve.essence.map (JTree.map Literal.nearest) =
      c'.document.resolve.essence.map (JTree.map Literal.nearest) := by
  obtain ⟨-, m, hp, hm⟩ := payload_ok h
  obtain ⟨-, m', hp', hm'⟩ := payload_ok h'
  rw [← hm, ← hm', marshalCanonical_inj (hp.symm.trans hp')]

theorem agree_iff : Agree c c' ↔ c.document.resolve.essence.map (JTree.map Literal.value) =
      c'.document.resolve.essence.map (JTree.map Literal.value) := by
  rw [Agree, JTree.resolve_map, JTree.resolve_map, JTree.essence_map, JTree.essence_map]

/-- A card with other numbers that have the same nearest doubles has the same
payload. -/
theorem payload_mapNum (hf : ∀ n ∈ c.marshal.nums, (f n).nearest = n.nearest) :
    createCanonicalCardJSON ft (c.mapNum f) = createCanonicalCardJSON ft c := by
  have hnums : (c.marshal.map f).nums.all Literal.inRange = c.marshal.nums.all Literal.inRange := by
    rw [JTree.nums_map, all_map]
    refine Bool.eq_iff_iff.mpr ?_
    rw [all_eq_true, all_eq_true]
    refine forall₂_congr fun n hn => ?_
    rw [Function.comp_apply, Literal.inRange, Literal.inRange, hf n hn]
  have hnear : (c.marshal.map f).map Literal.nearest = c.marshal.map Literal.nearest := by
    rw [JTree.map_map]
    exact JTree.map_congr hf
  rw [createCanonicalCardJSON, createCanonicalCardJSON, marshal_mapNum, unmarshal, unmarshal, hnums,
    hnear]

theorem value_eq_of_agree_mapNum (h : Agree c (c.mapNum f)) :
    ∀ n ∈ c.document.resolve.nums, n.value = (f n).value := by
  rw [agree_iff, document_mapNum, JTree.resolve_map, JTree.essence_map, Option.map_map] at h
  rw [← JTree.nums_essence]
  cases he : c.document.resolve.essence with
  | none => exact fun n hn => absurd hn not_mem_nil
  | some e =>
    rw [he, Option.map_some, Option.map_some, Option.some.injEq, Function.comp_apply,
      JTree.map_map] at h
    exact JTree.eq_of_map_eq h

/-- **Tamper evidence.** The payload of a card belongs to no card that differs from
it exactly when there is no number in the parameters of its extensions. -/
theorem tamperEvident_iff (ft : FloatText) (c : AgentCardData) (p : List Char)
    (h : createCanonicalCardJSON ft c = .ok p) :
    (∀ c', createCanonicalCardJSON ft c' = .ok p → Agree c c') ↔
      ∀ d ∈ c.params, d.resolve.nums = [] := by
  rw [← flatMap_eq_nil_iff, ← nums_document]
  constructor
  · intro hall
    have htwin := hall _ ((payload_mapNum fun n _ => n.nearest_twin).trans h)
    refine eq_nil_iff_forall_not_mem.mpr fun n hn => ?_
    exact n.value_twin_ne (value_eq_of_agree_mapNum htwin n hn).symm
  · intro hnums c' h'
    have heq := essence_eq_of_payload_eq h h'
    rw [← JTree.nums_essence] at hnums
    rw [agree_iff]
    cases he : c.document.resolve.essence with
    | none =>
      rw [he, Option.map_none, eq_comm, Option.map_eq_none_iff] at heq
      rw [heq]
    | some e =>
      rw [he, Option.map_some, eq_comm, Option.map_eq_some_iff] at heq
      obtain ⟨e', he', hmap⟩ := heq
      rw [he] at hnums
      rw [he', JTree.eq_of_map_eq_of_nums_eq_nil hmap.symm hnums]

/-! ### Two cards -/

/-- Doubles written as whole multiples of the smallest one: a text with the
properties assumed of `json.Marshal`'s. -/
def multipleText : FloatText where
  format f := (if f.neg then ['-'] else []) ++ Nat.toDigits 10 f.mag
  format_inj f g h := by
    have hdigit : ∀ n t, Nat.toDigits 10 n ≠ '-' :: t := fun n t ht => by
      have hmem : '-' ∈ Nat.toDigits 10 n := ht ▸ mem_cons_self
      exact absurd (Nat.isDigit_of_mem_toDigits (by decide) (by decide) hmem) (by decide)
    have hinj : ∀ m n, Nat.toDigits 10 m = Nat.toDigits 10 n → m = n := fun m n hmn => by
      rw [← Nat.ofDigitChars_ten_toDigits (n := m), hmn, Nat.ofDigitChars_ten_toDigits]
    obtain ⟨fn, fm⟩ := f
    obtain ⟨gn, gm⟩ := g
    cases fn <;> cases gn
    · exact congrArg _ (hinj fm gm h)
    · exact absurd h (hdigit fm _)
    · exact absurd h.symm (hdigit gm _)
    · exact congrArg _ (hinj fm gm (List.cons.inj h).2)
  format_ne_nil f := by simp
  format_chars f c hc := by
    rcases mem_append.mp hc with hc | hc
    · split at hc
      · obtain rfl := mem_singleton.mp hc
        rfl
      · exact absurd hc not_mem_nil
    · rw [isNumberChar, Nat.isDigit_of_mem_toDigits (by decide) (by decide) hc]
      rfl

/-- A card with one extension, with one parameter. -/
def cardWith (d : Document) : AgentCardData where
  name := "agent"
  capabilities := some { extensions := [{ uri := "https://ext", params := [("limit", d)] }] }

/-- A card whose parameter is a string is determined by its payload. -/
theorem tamperEvident_cardWith_str :
    ∃ p, createCanonicalCardJSON multipleText (cardWith (.str "none")) = .ok p ∧
      ∀ c', createCanonicalCardJSON multipleText c' = .ok p →
        Agree (cardWith (.str "none")) c' := by
  refine ⟨_, rfl, (tamperEvident_iff multipleText _ _ rfl).mpr ?_⟩
  decide

/-- **Two integers beyond `2 ^ 53` share a payload**, and the cards do not agree. -/
theorem large_integers_share_payload :
    ∃ p, createCanonicalCardJSON multipleText (cardWith (.num ⟨false, 9007199254740993, 0⟩)) =
        .ok p ∧
      createCanonicalCardJSON multipleText (cardWith (.num ⟨false, 9007199254740992, 0⟩)) = .ok p ∧
      ¬ Agree (cardWith (.num ⟨false, 9007199254740993, 0⟩))
        (cardWith (.num ⟨false, 9007199254740992, 0⟩)) := by
  have hnums : ∀ l, (cardWith (.num l)).marshal.nums = [l] := fun l => rfl
  have hdoc : ∀ l, (cardWith (.num l)).document.resolve.nums = [l] := fun l => by
    rw [nums_document]
    rfl
  have hrange : Literal.inRange ⟨false, 9007199254740993, 0⟩ = true := by decide +kernel
  have hnear : Literal.nearest ⟨false, 9007199254740992, 0⟩ =
      Literal.nearest ⟨false, 9007199254740993, 0⟩ := by decide +kernel
  -- the second card is the first with its number replaced
  have hmap : ∀ l l', cardWith (.num l') = (cardWith (.num l)).mapNum fun _ => l' :=
    fun l l' => rfl
  obtain ⟨p, hp⟩ := exists_payload multipleText
    (c := cardWith (.num ⟨false, 9007199254740993, 0⟩)) (by rw [hnums, all_cons, hrange]; rfl)
  refine ⟨p, hp, ?_, fun hagree => ?_⟩
  · rw [hmap ⟨false, 9007199254740993, 0⟩, payload_mapNum, hp]
    exact fun n hn => (mem_singleton.mp hn).symm ▸ hnear
  · rw [hmap ⟨false, 9007199254740993, 0⟩ ⟨false, 9007199254740992, 0⟩] at hagree
    have hval := value_eq_of_agree_mapNum hagree ⟨false, 9007199254740993, 0⟩
      (by rw [hdoc]; exact mem_singleton_self _)
    exact absurd hval (by norm_num [Literal.value])

end Rossoctl.Signature
