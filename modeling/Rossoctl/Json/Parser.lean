import Rossoctl.Json.Text
import Rossoctl.Json.Tree

/-!
# Reading JSON

A JSON parser by recursive descent, over a `Rossoctl.Json.Lexer` that reads the string literals and
the numbers. White space may stand between any two tokens. The members of an object are kept in the
order of the text, as in a `Rossoctl.Json.JTree`.

The parser comes with fuel, and the length of the text is enough of it: a list is read if its items
are (`Rossoctl.Json.parseList_commaSeparated`), and each item is shorter than the list.
-/

namespace Rossoctl.Json

open List

variable {α : Type*} {N : Type}

/-- **How the leaves of a document are read**: each reader takes what it reads off the text. -/
structure Lexer (N : Type) where
  string : List Char → Option (String × List Char)
  number : List Char → Option (N × List Char)

/-! ### The parser -/

/-- White space in JSON. -/
def isSpaceChar (c : Char) : Bool := c ∈ [' ', '\t', '\n', '\r']

def skipSpace (cs : List Char) : List Char := cs.dropWhile isSpaceChar

/-- Read these characters and nothing else. -/
def expect : List Char → List Char → Option (List Char)
  | [], cs => some cs
  | _ :: _, [] => none
  | w :: ws, c :: cs => if w = c then expect ws cs else none

/-- The items of a list after the first one, up to the closing character. -/
def parseTail (item : List Char → Option (α × List Char)) (close : Char) :
    ℕ → List Char → Option (List α × List Char)
  | 0, _ => none
  | n + 1, cs =>
    match skipSpace cs with
    | [] => none
    | c :: rest =>
      if c = close then some ([], rest)
      else if c = ',' then
        (item rest).bind fun (a, rest) => (parseTail item close n rest).map fun (as, rest) =>
          (a :: as, rest)
      else none

/-- A list of items that are separated by commas, up to the closing character. -/
def parseList (item : List Char → Option (α × List Char)) (close : Char) (n : ℕ)
    (cs : List Char) : Option (List α × List Char) :=
  match skipSpace cs with
  | [] => none
  | c :: rest =>
    if c = close then some ([], rest)
    else
      (item (c :: rest)).bind fun (a, rest) => (parseTail item close n rest).map fun (as, rest) =>
        (a :: as, rest)

/-- A member of an object. -/
def parseMember (lex : Lexer N) (value : List Char → Option (JTree N × List Char))
    (cs : List Char) : Option ((String × JTree N) × List Char) :=
  (lex.string (skipSpace cs)).bind fun (k, rest) =>
    (expect [':'] (skipSpace rest)).bind fun rest =>
      (value rest).map fun (v, rest) => ((k, v), rest)

/-- A value, and what comes after it. -/
def parseValue (lex : Lexer N) : ℕ → List Char → Option (JTree N × List Char)
  | 0, _ => none
  | n + 1, cs =>
    match skipSpace cs with
    | [] => none
    | c :: rest =>
      if c = 'n' then (expect ['u', 'l', 'l'] rest).map fun rest => (.null, rest)
      else if c = 't' then (expect ['r', 'u', 'e'] rest).map fun rest => (.bool true, rest)
      else if c = 'f' then (expect ['a', 'l', 's', 'e'] rest).map fun rest => (.bool false, rest)
      else if c = '"' then (lex.string (c :: rest)).map fun (s, rest) => (.str s, rest)
      else if c = '[' then
        (parseList (parseValue lex n) ']' n rest).map fun (xs, rest) => (.arr xs, rest)
      else if c = '\x7b' then
        (parseList (parseMember lex (parseValue lex n)) '\x7d' n rest).map fun (ms, rest) =>
          (.obj ms, rest)
      else (lex.number (c :: rest)).map fun (f, rest) => (.num f, rest)

/-- **Parse a document**: one value, and then nothing but white space. -/
def parse (lex : Lexer N) (text : List Char) : Option (JTree N) :=
  match parseValue lex (text.length + 1) text with
  | some (v, rest) => if skipSpace rest = [] then some v else none
  | none => none

/-! ### Reading lists -/

theorem skipSpace_cons {c : Char} (h : isSpaceChar c = false) (cs : List Char) :
    skipSpace (c :: cs) = c :: cs := by
  rw [skipSpace, dropWhile_cons_of_neg (by rw [h]; exact Bool.false_ne_true)]

theorem parseTail_flatMap {item : List Char → Option (α × List Char)} {enc : α → List Char}
    {close : Char} (hspace : isSpaceChar close = false) (hcomma : close ≠ ',')
    (hclose : isNumberChar close = false) {l : List α}
    (hitem : ∀ a ∈ l, ∀ rest, Stops rest → item (enc a ++ rest) = some (a, rest)) {n : ℕ}
    (hn : l.length < n) (rest : List Char) :
    parseTail item close n (l.flatMap (fun a => ',' :: enc a) ++ close :: rest) =
      some (l, rest) := by
  induction l generalizing n with
  | nil =>
    obtain ⟨n, rfl⟩ := Nat.exists_eq_add_of_lt hn
    rw [flatMap_nil, nil_append, parseTail, skipSpace_cons hspace]
    exact if_pos rfl
  | cons a l ih =>
    obtain ⟨n, rfl⟩ : ∃ m, n = m + 1 := ⟨n - 1, by omega⟩
    have hstops : Stops (l.flatMap (fun a => ',' :: enc a) ++ close :: rest) := by
      cases l with
      | nil => exact stops_cons hclose rest
      | cons b l => exact stops_cons (by decide) _
    have hlt : l.length < n := Nat.lt_of_succ_lt_succ hn
    rw [flatMap_cons, cons_append, cons_append, append_assoc, parseTail, skipSpace_cons (by decide)]
    dsimp only
    rw [if_neg (Ne.symm hcomma), if_pos rfl, hitem a mem_cons_self _ hstops, Option.bind_some,
      ih (fun b hb => hitem b (mem_cons_of_mem _ hb)) hlt]
    rfl

/-- **A list is read**, if each of its items is and shows that it is not the end. -/
theorem parseList_commaSeparated (item : List Char → Option (α × List Char))
    (enc : α → List Char) (close : Char) (hspace : isSpaceChar close = false)
    (hcomma : close ≠ ',') (hclose : isNumberChar close = false) {l : List α}
    (hitem : ∀ a ∈ l, ∀ rest, Stops rest → item (enc a ++ rest) = some (a, rest))
    (hhead : ∀ a ∈ l, ∃ c t, enc a = c :: t ∧ c ≠ close ∧ isSpaceChar c = false) {n : ℕ}
    (hn : l.length ≤ n) (rest : List Char) :
    parseList item close n (commaSeparated (l.map enc) ++ close :: rest) = some (l, rest) := by
  cases l with
  | nil =>
    rw [map_nil, commaSeparated, nil_append, parseList, skipSpace_cons hspace]
    exact if_pos rfl
  | cons a l =>
    obtain ⟨c, t, henc, hne, hc⟩ := hhead a mem_cons_self
    have htail : (l.map enc).flatMap (fun u => ',' :: u) = l.flatMap fun a => ',' :: enc a := by
      rw [flatMap_map]
    have hstops : Stops (l.flatMap (fun a => ',' :: enc a) ++ close :: rest) := by
      cases l with
      | nil => exact stops_cons hclose rest
      | cons b l => exact stops_cons (by decide) _
    have hfirst := hitem a mem_cons_self _ hstops
    rw [map_cons, commaSeparated, htail, append_assoc]
    rw [henc, cons_append] at hfirst ⊢
    rw [parseList, skipSpace_cons hc]
    dsimp only
    rw [if_neg hne, hfirst, Option.bind_some, parseTail_flatMap hspace hcomma hclose
      (fun b hb => hitem b (mem_cons_of_mem _ hb)) hn]
    rfl

end Rossoctl.Json
