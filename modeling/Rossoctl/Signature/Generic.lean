import Mathlib.Data.List.Sort
import Rossoctl.Json.Parser
import Rossoctl.Signature.Canonical

/-!
# The canonical text of a generic value

`marshalCanonical` and `removeEmptyFields` (`internal/signature/verifier.go`) on the values that
`encoding/json` makes of any document. A `map` is here what a `range` loop makes of it, its members
in some order, with different names (`Rossoctl.Signature.Generic`); two values are the same if they
are once every object is read as a map (`Rossoctl.Json.JTree.resolve`).

The text is that of the value with its members in order
(`Rossoctl.Signature.Ranged.marshalValue_eq`), so it does not depend on the loop; it can be parsed
(`Rossoctl.Signature.parseValue_marshalValue`), so it determines the value.

The removal of what is empty goes into objects, and into the arrays that are members; an array
inside an array it takes as it is. `Rossoctl.Signature.canonical_iff` says for which values nothing
empty is left.
-/

namespace Rossoctl

open List

namespace Json

variable {α : Type*} {N : Type*}

/-! ### Members in order -/

variable {m : List (String × α)} {ms : List (String × α)}

theorem insertKey_perm {k : String} (h : k ∉ m.map Prod.fst) (v : α) :
    (insertKey k v m).Perm ((k, v) :: m) := by
  induction m with
  | nil => exact .refl _
  | cons q m ih =>
    rw [map_cons, mem_cons, not_or] at h
    rw [insertKey]
    split
    · exact .refl _
    · rw [if_neg h.1]
      exact ((ih h.2).cons q).trans (.swap _ _ _)

theorem pairwise_insertKey (h : m.Pairwise fun p q => p.1 < q.1)
    (k : String) (v : α) : (insertKey k v m).Pairwise fun p q => p.1 < q.1 := by
  induction m with
  | nil => exact pairwise_singleton _ _
  | cons q m ih =>
    obtain ⟨hq, hm⟩ := pairwise_cons.mp h
    rw [insertKey]
    split
    · rename_i hlt
      refine pairwise_cons.mpr ⟨fun p hp => ?_, h⟩
      obtain rfl | hp := mem_cons.mp hp
      · exact hlt
      · exact hlt.trans (hq p hp)
    · rename_i hnlt
      split
      · rename_i heq
        exact pairwise_cons.mpr ⟨fun p hp => heq ▸ hq p hp, hm⟩
      · rename_i hne
        refine pairwise_cons.mpr ⟨fun p hp => ?_, ih hm⟩
        obtain rfl | hp := mem_insertKey hp
        · exact lt_of_le_of_ne (not_lt.mp hnlt) (Ne.symm hne)
        · exact hq p hp

theorem pairwise_ofMembers (ms : List (String × α)) :
    (ofMembers ms).Pairwise fun p q => p.1 < q.1 := by
  suffices h : ∀ m : List (String × α), m.Pairwise (fun p q => p.1 < q.1) →
      (ms.foldl (fun m p => insertKey p.1 p.2 m) m).Pairwise fun p q => p.1 < q.1 from
    h [] List.Pairwise.nil
  induction ms with
  | nil => exact fun m hm => hm
  | cons q ms ih => exact fun m hm => ih _ (pairwise_insertKey hm q.1 q.2)

/-- The map of members with different names has just these members. -/
theorem ofMembers_perm (h : (ms.map Prod.fst).Nodup) : (ofMembers ms).Perm ms := by
  suffices hs : ∀ m : List (String × α), ((m ++ ms).map Prod.fst).Nodup →
      (ms.foldl (fun m p => insertKey p.1 p.2 m) m).Perm (m ++ ms) from hs [] h
  clear h
  induction ms with
  | nil => exact fun m _ => by rw [append_nil]; exact .refl m
  | cons q ms ih =>
    intro m hm
    have hperm : ((q.1, q.2) :: m ++ ms).Perm (m ++ q :: ms) := perm_middle.symm
    have hnodup : (((q.1, q.2) :: m ++ ms).map Prod.fst).Nodup :=
      ((hperm.map Prod.fst).nodup_iff).mpr hm
    have hnew : q.1 ∉ m.map Prod.fst := by
      rw [cons_append, map_cons, nodup_cons, map_append] at hnodup
      exact fun hmem => hnodup.1 (mem_append_left _ hmem)
    have hins := (insertKey_perm hnew q.2).append_right ms
    exact (ih _ (((hins.map Prod.fst).nodup_iff).mpr hnodup)).trans (hins.trans hperm)

theorem insertionSort_keys (h : (ms.map Prod.fst).Nodup) :
    (ms.map Prod.fst).insertionSort (· ≤ ·) = (ofMembers ms).map Prod.fst := by
  have hperm : ((ms.map Prod.fst).insertionSort (· ≤ ·)).Perm ((ofMembers ms).map Prod.fst) :=
    (perm_insertionSort _ _).trans ((ofMembers_perm h).map Prod.fst).symm
  refine hperm.eq_of_pairwise (fun a b _ _ hab hba => le_antisymm hab hba)
    (pairwise_insertionSort _ _) ?_
  exact pairwise_map.mpr ((pairwise_ofMembers ms).imp fun hlt => le_of_lt hlt)

/-- **Objects with different names**, at every depth. -/
inductive JTree.Distinct : JTree N → Prop where
  | null : JTree.Distinct .null
  | bool (b : Bool) : JTree.Distinct (.bool b)
  | num (n : N) : JTree.Distinct (.num n)
  | str (s : String) : JTree.Distinct (.str s)
  | arr {xs : List (JTree N)} (h : ∀ x ∈ xs, JTree.Distinct x) : JTree.Distinct (.arr xs)
  | obj {ms : List (String × JTree N)} (hnames : (ms.map Prod.fst).Nodup)
      (h : ∀ p ∈ ms, JTree.Distinct p.2) : JTree.Distinct (.obj ms)

end Json

namespace Signature

open Json List

/-- **A generic value**, its maps in the order of some `range` loops. -/
structure Generic where
  value : Value
  distinct : value.Distinct

/-! ### Writing -/

namespace Ranged

variable (ft : FloatText)

mutual

/-- `marshalValue` for a map in any order. -/
def marshalValue : Value → List Char
  | .null => "null".toList
  | .bool true => "true".toList
  | .bool false => "false".toList
  | .num f => ft.format f
  | .str s => quote s
  | .arr xs => '[' :: commaSeparated (marshalElems xs) ++ [']']
  -- `marshalCanonical`: the keys are collected and sorted, and each is looked up
  | .obj m =>
    let texts := marshalMembers m
    let keys := (texts.map Prod.fst).insertionSort (· ≤ ·)
    '\x7b' :: commaSeparated (keys.map fun k => quote k ++ ':' :: (texts.lookup k).getD []) ++
      ['\x7d']

/-- The texts of the elements of an array. -/
def marshalElems : List Value → List (List Char)
  | [] => []
  | x :: xs => marshalValue x :: marshalElems xs

/-- The texts of the values of a map, under their keys. -/
def marshalMembers : List (String × Value) → List (String × List Char)
  | [] => []
  | (k, v) :: m => (k, marshalValue v) :: marshalMembers m

end

variable {ft}

theorem marshalElems_eq (xs : List Value) : marshalElems ft xs = xs.map (marshalValue ft) := by
  induction xs with
  | nil => rfl
  | cons x xs ih => rw [marshalElems, ih, map_cons]

theorem marshalMembers_eq (m : List (String × Value)) :
    marshalMembers ft m = mapSnd (marshalValue ft) m := by
  induction m with
  | nil => rfl
  | cons p m ih => rw [marshalMembers, ih, mapSnd_cons]

theorem keys_mapSnd {α β : Type*} (f : α → β) (m : List (String × α)) :
    (mapSnd f m).map Prod.fst = m.map Prod.fst := by
  rw [mapSnd, map_map]
  rfl

/-- **The text does not depend on the loops**: it is that of the value with its members in order. -/
theorem marshalValue_eq {v : Value} (h : v.Distinct) :
    marshalValue ft v = Signature.marshalValue ft v.resolve := by
  induction h with
  | null => rfl
  | bool b => cases b <;> rfl
  | num f => rfl
  | str s => rfl
  | @arr xs _ ih =>
    rw [JTree.resolve_arr, marshalValue, Signature.marshalValue, marshalElems_eq,
      Signature.marshalElems_eq, map_map]
    rw [map_congr_left fun x hx => ih x hx]
    rfl
  | @obj m hnames _ ih =>
    have hmember : ∀ p ∈ ofMembers m, quote p.1 ++ ':' ::
        ((mapSnd (marshalValue ft) m).lookup p.1).getD [] =
        marshalMember ft (p.1, p.2.resolve) := by
      intro p hp
      have hmem := mem_ofMembers hp
      have htext : (p.1, marshalValue ft p.2) ∈ mapSnd (marshalValue ft) m :=
        mem_map.mpr ⟨p, hmem, rfl⟩
      rw [lookup_of_mem (keys_mapSnd (marshalValue ft) m ▸ hnames) htext, marshalMember,
        ← ih p hmem]
      rfl
    have hresolved : (mapSnd JTree.resolve (ofMembers m)).map (marshalMember ft) =
        (ofMembers m).map fun p => marshalMember ft (p.1, p.2.resolve) := map_map
    rw [JTree.resolve_obj, marshalValue, Signature.marshalValue, marshalMembers_eq,
      Signature.marshalMembers_eq, keys_mapSnd, insertionSort_keys hnames, map_map, hresolved,
      ← map_congr_left hmember]
    rfl

end Ranged

/-! ### Reading -/

/-- **What reads strings and numbers** as `encoding/json` writes them. -/
structure Reader (ft : FloatText) extends Lexer Float64 where
  string_quote : ∀ s rest, string (quote s ++ rest) = some (s, rest)
  number_format : ∀ f rest, Stops rest → number (ft.format f ++ rest) = some (f, rest)

/-- There are such readers: literals and numbers show where they end. -/
theorem nonempty_reader (ft : FloatText) : Nonempty (Reader ft) := by
  classical
  refine ⟨⟨⟨fun cs => if h : ∃ p : String × List Char, cs = quote p.1 ++ p.2 then some h.choose
    else none, fun cs => if h : ∃ p : Float64 × List Char, Stops p.2 ∧ cs = ft.format p.1 ++ p.2
    then some h.choose else none⟩, fun s rest => ?_, fun f rest hrest => ?_⟩⟩
  · have hex : ∃ p : String × List Char, quote s ++ rest = quote p.1 ++ p.2 := ⟨(s, rest), rfl⟩
    have hsame := quote_delimited _ _ _ _ hex.choose_spec
    exact (dif_pos hex).trans (congrArg some (Prod.ext hsame.1.symm hsame.2.symm))
  · have hex : ∃ p : Float64 × List Char, Stops p.2 ∧ ft.format f ++ rest = ft.format p.1 ++ p.2 :=
      ⟨(f, rest), hrest, rfl⟩
    obtain ⟨hstops, heq⟩ := hex.choose_spec
    have hsame := append_cancel_of_alphabet (ft.format_chars f) (ft.format_chars _) hrest hstops heq
    exact (dif_pos hex).trans
      (congrArg some (Prod.ext (ft.format_inj _ _ hsame.1).symm hsame.2.symm))

section Parse

variable {ft : FloatText} (r : Reader ft)

theorem length_le_commaSeparated {ts : List (List Char)} {t : List Char} (h : t ∈ ts) :
    t.length ≤ (commaSeparated ts).length := by
  cases ts with
  | nil => cases h
  | cons u ts =>
    rw [commaSeparated, length_append]
    obtain rfl | h := mem_cons.mp h
    · omega
    · have hle := (sublist_flatten_of_mem (mem_map_of_mem (f := fun u => ',' :: u) h)).length_le
      rw [length_cons] at hle
      rw [flatMap_def]
      omega

theorem count_le_commaSeparated (ts : List (List Char)) (h : ∀ t ∈ ts, t ≠ []) :
    ts.length ≤ (commaSeparated ts).length := by
  cases ts with
  | nil => exact Nat.zero_le _
  | cons u ts =>
    have hfirst := length_pos_iff.mpr (h u mem_cons_self)
    have hrest : ts.length ≤ (ts.flatMap fun u => ',' :: u).length := by
      clear h
      induction ts with
      | nil => exact Nat.zero_le _
      | cons t ts ih =>
        rw [flatMap_cons, length_append, length_cons, length_cons]
        omega
    rw [commaSeparated, length_append, length_cons]
    omega

/-- A text starts with a character that is not white space and closes nothing. -/
theorem marshalValue_start (ft : FloatText) (v : Value) :
    ∃ c t, marshalValue ft v = c :: t ∧ c ≠ ']' ∧ isSpaceChar c = false := by
  have hnumber : ∀ c, isNumberChar c = true → c ≠ ']' ∧ isSpaceChar c = false := by
    intro c hc
    constructor
    · rintro rfl
      cases hc
    · by_contra hspace
      rw [Bool.not_eq_false] at hspace
      have hnone : ∀ c ∈ [' ', '\t', '\n', '\r'], isNumberChar c = false := by
        simp [isNumberChar]
      exact Bool.false_ne_true ((hnone c (of_decide_eq_true hspace)).symm.trans hc)
  cases v with
  | num f =>
    obtain ⟨c, t, hct⟩ := exists_cons_of_ne_nil (ft.format_ne_nil f)
    exact ⟨c, t, hct, hnumber c (ft.format_chars f c (hct ▸ mem_cons_self))⟩
  | bool b => cases b <;> exact ⟨_, _, rfl, by decide, by decide⟩
  | _ => exact ⟨_, _, rfl, by decide, by decide⟩

/-- **The canonical text is parsed back.** -/
theorem parseValue_marshalValue (v : Value) {n : ℕ} (hn : (marshalValue ft v).length ≤ n)
    {rest : List Char} (hrest : Stops rest) :
    parseValue r.toLexer (n + 1) (marshalValue ft v ++ rest) = some (v, rest) := by
  induction v using JTree.induct generalizing n rest with
  | null => rfl
  | bool b => cases b <;> rfl
  | num f =>
    obtain ⟨c, t, hct⟩ := exists_cons_of_ne_nil (ft.format_ne_nil f)
    have hc := ft.format_chars f c (hct ▸ mem_cons_self)
    have hread := r.number_format f rest hrest
    obtain ⟨c', t', htext, -, hspace⟩ := marshalValue_start ft (.num f)
    obtain ⟨rfl, -⟩ := cons.inj (hct.symm.trans htext)
    have hother : c ≠ 'n' ∧ c ≠ 't' ∧ c ≠ 'f' ∧ c ≠ '"' ∧ c ≠ '[' ∧ c ≠ '\x7b' := by
      refine ⟨?_, ?_, ?_, ?_, ?_, ?_⟩
      all_goals
        rintro rfl
        cases hc
    obtain ⟨h1, h2, h3, h4, h5, h6⟩ := hother
    rw [marshalValue]
    rw [hct, cons_append] at hread ⊢
    rw [parseValue, skipSpace_cons hspace]
    dsimp only
    rw [if_neg h1, if_neg h2, if_neg h3, if_neg h4, if_neg h5, if_neg h6, hread]
    rfl
  | str s =>
    have hread := r.string_quote s rest
    rw [marshalValue]
    rw [quote, cons_append] at hread ⊢
    rw [parseValue, skipSpace_cons (by decide)]
    dsimp only
    rw [if_neg (by decide), if_neg (by decide), if_neg (by decide), if_pos rfl, hread]
    rfl
  | arr xs ih =>
    rw [marshalValue, marshalElems_eq, cons_append, length_cons, length_append,
      length_singleton] at hn
    have hcount := count_le_commaSeparated (xs.map (marshalValue ft)) fun t ht => by
      obtain ⟨x, -, rfl⟩ := mem_map.mp ht
      obtain ⟨c, t, hct, -⟩ := marshalValue_start ft x
      rw [hct]
      exact cons_ne_nil c t
    rw [length_map] at hcount
    obtain ⟨n, rfl⟩ : ∃ m, n = m + 1 := ⟨n - 1, by omega⟩
    have hlist := parseList_commaSeparated (parseValue r.toLexer (n + 1))
      (marshalValue ft) ']' (by decide) (by decide) (by decide)
      (fun x hx rest hrest => ih x hx (by
        have := length_le_commaSeparated (mem_map_of_mem (f := marshalValue ft) hx)
        omega) hrest)
      (fun x _ => marshalValue_start ft x) (n := n + 1) (by omega) rest
    rw [marshalValue, marshalElems_eq, cons_append, cons_append, append_assoc,
      parseValue, skipSpace_cons (by decide)]
    exact congrArg (Option.map _) hlist
  | obj m ih =>
    rw [marshalValue, marshalMembers_eq, cons_append, length_cons, length_append,
      length_singleton] at hn
    have hcount := count_le_commaSeparated (m.map (marshalMember ft)) fun t ht => by
      obtain ⟨p, -, rfl⟩ := mem_map.mp ht
      exact cons_ne_nil _ _
    rw [length_map] at hcount
    obtain ⟨n, rfl⟩ : ∃ m, n = m + 1 := ⟨n - 1, by omega⟩
    have hitem : ∀ p ∈ m, ∀ rest, Stops rest →
        parseMember r.toLexer (parseValue r.toLexer (n + 1)) (marshalMember ft p ++ rest) =
          some (p, rest) := by
      intro p hp rest hrest
      have hlength := length_le_commaSeparated (mem_map_of_mem (f := marshalMember ft) hp)
      rw [marshalMember, length_append, length_cons] at hlength
      have hvalue := ih p hp (n := n) (by omega) hrest
      have hspace : skipSpace (marshalMember ft p ++ rest) = marshalMember ft p ++ rest :=
        skipSpace_cons (by decide) _
      rw [parseMember, hspace, marshalMember, append_assoc, r.string_quote, Option.bind_some]
      dsimp only
      rw [cons_append, skipSpace_cons (by decide), expect, if_pos rfl, expect,
        Option.bind_some, hvalue]
      rfl
    have hlist := parseList_commaSeparated _ _ '\x7d' (by decide) (by decide) (by decide)
      hitem (fun p _ => ⟨_, _, rfl, by decide, by decide⟩) (n := n + 1) (by omega) rest
    rw [marshalValue, marshalMembers_eq, cons_append, cons_append, append_assoc,
      parseValue, skipSpace_cons (by decide)]
    exact congrArg (Option.map _) hlist

theorem parse_marshalValue (v : Value) : parse r.toLexer (marshalValue ft v) = some v := by
  have hvalue := parseValue_marshalValue r v (le_refl _) (by simp [Stops] : Stops [])
  rw [append_nil] at hvalue
  rw [parse, hvalue]
  rfl

end Parse

/-! ### Removing -/

theorem nonempty?_eq_some_iff {α : Type} {wrap : List α → Value} {l : List α} {v : Value} :
    JTree.nonempty? wrap l = some v ↔ v = wrap l ∧ l ≠ [] := by
  cases l with
  | nil => exact iff_of_false nofun fun h => h.2 rfl
  | cons x l =>
    rw [JTree.nonempty?, Option.some.injEq, and_iff_left (cons_ne_nil x l), eq_comm]

/-- What is left is left of itself, if this is so for each element. -/
theorem filterMap_idem {α : Type} {f : α → Option α} {l : List α}
    (h : ∀ a ∈ l, ∀ b, f a = some b → f b = some b) :
    (l.filterMap f).filterMap f = l.filterMap f := by
  rw [filterMap_filterMap]
  refine filterMap_congr fun a ha => ?_
  cases hf : f a with
  | none => rfl
  | some b => exact h a ha b hf

variable {m : List (String × Value)}

theorem removeEmptyFields_idem
    (h : ∀ p ∈ m, ∀ v, cleanMember p.2 = some v → cleanMember v = some v) :
    removeEmptyFields (removeEmptyFields m) = removeEmptyFields m := by
  rw [removeEmptyFields_eq (removeEmptyFields m), removeEmptyFields_eq m]
  refine filterMap_idem fun p hp q hq => ?_
  obtain ⟨v, hv, rfl⟩ := Option.map_eq_some_iff.mp hq
  rw [h p hp v hv, Option.map_some]

theorem clean_clean (v : Value) : (∀ v', cleanMember v = some v' → cleanMember v' = some v') ∧
      ∀ v', cleanElem v = some v' → cleanElem v' = some v' := by
  induction v using JTree.induct with
  | null => constructor <;> rintro v' ⟨⟩
  | bool | num =>
    constructor
    all_goals
      rintro v' ⟨⟩
      rfl
  | str s =>
    rw [cleanMember, cleanElem]
    split
    · constructor <;> rintro v' ⟨⟩
    · rename_i hs
      constructor
      all_goals
        rintro v' ⟨⟩
        exact if_neg hs
  | arr xs ih =>
    constructor
    · intro v' h
      obtain ⟨rfl, hne⟩ := nonempty?_eq_some_iff.mp h
      rw [cleanMember, nonempty?_eq_some_iff, cleanElems_eq (cleanElems xs), cleanElems_eq xs,
        filterMap_idem fun x hx => (ih x hx).2, ← cleanElems_eq]
      exact ⟨rfl, hne⟩
    · -- an array inside an array is taken as it is
      rintro v' ⟨⟩
      rfl
  | obj m ih =>
    have hagain := removeEmptyFields_idem fun p hp => (ih p hp).1
    constructor
    · intro v' h
      obtain ⟨rfl, hne⟩ := nonempty?_eq_some_iff.mp h
      rw [cleanMember, hagain]
      exact nonempty?_eq_some_iff.mpr ⟨rfl, hne⟩
    · intro v' h
      obtain ⟨rfl, hne⟩ := nonempty?_eq_some_iff.mp h
      rw [cleanElem, hagain]
      exact nonempty?_eq_some_iff.mpr ⟨rfl, hne⟩

mutual

/-- **The second value is the first without things that are empty**: members and elements without
an essence may be missing, and nothing else is different. -/
inductive Prunes : Value → Value → Prop where
  | same (v : Value) : Prunes v v
  | arr {xs xs' : List Value} (h : PrunesElems xs xs') : Prunes (.arr xs) (.arr xs')
  | obj {m m' : List (String × Value)} (h : PrunesMembers m m') : Prunes (.obj m) (.obj m')

inductive PrunesElems : List Value → List Value → Prop where
  | nil : PrunesElems [] []
  | drop {x : Value} {xs xs' : List Value} (hx : x.essence = none) (h : PrunesElems xs xs') :
      PrunesElems (x :: xs) xs'
  | keep {x x' : Value} {xs xs' : List Value} (hx : Prunes x x') (h : PrunesElems xs xs') :
      PrunesElems (x :: xs) (x' :: xs')

inductive PrunesMembers : List (String × Value) → List (String × Value) → Prop where
  | nil : PrunesMembers [] []
  | drop {k : String} {v : Value} {m m' : List (String × Value)} (hv : v.essence = none)
      (h : PrunesMembers m m') : PrunesMembers ((k, v) :: m) m'
  | keep {k : String} {v v' : Value} {m m' : List (String × Value)} (hv : Prunes v v')
      (h : PrunesMembers m m') : PrunesMembers ((k, v) :: m) ((k, v') :: m')

end

theorem prunesMembers_removeEmptyFields
    (h : ∀ p ∈ m, ∀ v, cleanMember p.2 = some v → Prunes p.2 v) :
    PrunesMembers m (removeEmptyFields m) := by
  induction m with
  | nil =>
    exact .nil
  | cons p m ih =>
    have hrest := ih fun q hq => h q (mem_cons_of_mem _ hq)
    rw [removeEmptyFields]
    cases hclean : cleanMember p.2 with
    | none =>
      have hempty := (essence_clean p.2).1
      rw [hclean] at hempty
      exact .drop hempty.symm hrest
    | some v => exact .keep (h p mem_cons_self v hclean) hrest

theorem prunesElems_cleanElems {xs : List Value}
    (h : ∀ x ∈ xs, ∀ v, cleanElem x = some v → Prunes x v) : PrunesElems xs (cleanElems xs) := by
  induction xs with
  | nil =>
    exact .nil
  | cons x xs ih =>
    have hrest := ih fun y hy => h y (mem_cons_of_mem _ hy)
    rw [cleanElems]
    cases hclean : cleanElem x with
    | none =>
      have hempty := (essence_clean x).2
      rw [hclean] at hempty
      exact .drop hempty.symm hrest
    | some v => exact .keep (h x mem_cons_self v hclean) hrest

theorem prunes_clean (v : Value) :
    (∀ v', cleanMember v = some v' → Prunes v v') ∧ ∀ v', cleanElem v = some v' → Prunes v v' := by
  induction v using JTree.induct with
  | null => constructor <;> rintro v' ⟨⟩
  | bool | num =>
    constructor
    all_goals
      rintro v' ⟨⟩
      exact .same _
  | str s =>
    rw [cleanMember, cleanElem]
    split
    · constructor <;> rintro v' ⟨⟩
    · constructor
      all_goals
        rintro v' ⟨⟩
        exact .same _
  | arr xs ih =>
    constructor
    · intro v' h
      obtain ⟨rfl, -⟩ := nonempty?_eq_some_iff.mp h
      exact .arr (prunesElems_cleanElems fun x hx => (ih x hx).2)
    · rintro v' ⟨⟩
      exact .same _
  | obj m ih =>
    constructor
    all_goals
      intro v' h
      obtain ⟨rfl, -⟩ := nonempty?_eq_some_iff.mp h
      exact .obj (prunesMembers_removeEmptyFields fun p hp => (ih p hp).1)

/-! ### What is left -/

mutual

/-- The value of a member is not empty, and nothing below it is. -/
def memberClean : Value → Bool
  | .null => false
  | .str s => s ≠ ""
  | .arr xs => !xs.isEmpty && elemsClean xs
  | .obj m => !m.isEmpty && membersClean m
  | _ => true

/-- An element of an array is neither null nor an empty string or object, and nothing below it is
empty. -/
def elemClean : Value → Bool
  | .null => false
  | .str s => s ≠ ""
  | .arr xs => elemsClean xs
  | .obj m => !m.isEmpty && membersClean m
  | _ => true

/-- All elements of an array are clean. -/
def elemsClean : List Value → Bool
  | [] => true
  | x :: xs => elemClean x && elemsClean xs

/-- **Nothing empty is left**, at any depth. -/
def membersClean : List (String × Value) → Bool
  | [] => true
  | (_, v) :: m => memberClean v && membersClean m

end

mutual

/-- Every array that is an element of an array is clean as it stands. -/
def memberNested : Value → Bool
  | .arr xs => elemsNested xs
  | .obj m => membersNested m
  | _ => true

def elemNested : Value → Bool
  | .arr xs => elemsClean xs
  | .obj m => membersNested m
  | _ => true

/-- All elements of an array are clean inside. -/
def elemsNested : List Value → Bool
  | [] => true
  | x :: xs => elemNested x && elemsNested xs

/-- **Every array inside an array is clean as it stands**, in these members. -/
def membersNested : List (String × Value) → Bool
  | [] => true
  | (_, v) :: m => memberNested v && membersNested m

end

theorem membersClean_removeEmptyFields
    (h : ∀ p ∈ m, (∀ v, cleanMember p.2 = some v → memberClean v = true) ↔
      memberNested p.2 = true) :
    membersClean (removeEmptyFields m) = true ↔ membersNested m = true := by
  induction m with
  | nil => rw [removeEmptyFields, membersClean, membersNested]
  | cons p m ih =>
    have hrest := ih fun q hq => h q (mem_cons_of_mem _ hq)
    rw [removeEmptyFields, membersNested, Bool.and_eq_true, ← h p mem_cons_self, ← hrest]
    cases cleanMember p.2 with
    | none => exact (and_iff_right (by rintro _ ⟨⟩)).symm
    | some v =>
      rw [membersClean, Bool.and_eq_true]
      exact and_congr_left fun _ => ⟨fun hv _ hsame => Option.some.inj hsame ▸ hv, fun hall =>
        hall v rfl⟩

theorem elemsClean_cleanElems {xs : List Value}
    (h : ∀ x ∈ xs, (∀ v, cleanElem x = some v → elemClean v = true) ↔ elemNested x = true) :
    elemsClean (cleanElems xs) = true ↔ elemsNested xs = true := by
  induction xs with
  | nil => rw [cleanElems, elemsClean, elemsNested]
  | cons x xs ih =>
    have hrest := ih fun y hy => h y (mem_cons_of_mem _ hy)
    rw [cleanElems, elemsNested, Bool.and_eq_true, ← h x mem_cons_self, ← hrest]
    cases cleanElem x with
    | none => exact (and_iff_right (by rintro _ ⟨⟩)).symm
    | some v =>
      rw [elemsClean, Bool.and_eq_true]
      exact and_congr_left fun _ => ⟨fun hv _ hsame => Option.some.inj hsame ▸ hv, fun hall =>
        hall v rfl⟩

theorem forall_nonempty?_iff {α : Type} {wrap : List α → Value} {l : List α} {P : List α → Bool}
    {clean : Value → Bool} (hnil : P [] = true)
    (hclean : ∀ l, clean (wrap l) = (!l.isEmpty && P l)) :
    (∀ v, JTree.nonempty? wrap l = some v → clean v = true) ↔ P l = true := by
  cases l with
  | nil => exact iff_of_true nofun hnil
  | cons x l =>
    constructor
    · intro h
      have hv := h _ rfl
      rw [hclean, Bool.and_eq_true] at hv
      exact hv.2
    · rintro h v ⟨⟩
      rw [hclean, h]
      rfl

/-- **What is left of a value is clean** just if the arrays inside its arrays are. -/
theorem clean_iff_nested (v : Value) :
    ((∀ v', cleanMember v = some v' → memberClean v' = true) ↔ memberNested v = true) ∧
      ((∀ v', cleanElem v = some v' → elemClean v' = true) ↔ elemNested v = true) := by
  induction v using JTree.induct with
  | null => exact ⟨iff_of_true (by rintro _ ⟨⟩) rfl, iff_of_true (by rintro _ ⟨⟩) rfl⟩
  | bool | num =>
    constructor
    all_goals
      refine iff_of_true ?_ rfl
      rintro v' ⟨⟩
      rfl
  | str s =>
    rw [cleanMember, cleanElem]
    split
    · exact ⟨iff_of_true (by rintro _ ⟨⟩) rfl, iff_of_true (by rintro _ ⟨⟩) rfl⟩
    · rename_i hs
      constructor
      all_goals
        refine iff_of_true ?_ rfl
        rintro v' ⟨⟩
        exact decide_eq_true hs
  | arr xs ih =>
    constructor
    · rw [cleanMember, memberNested, ← elemsClean_cleanElems fun x hx => (ih x hx).2]
      exact forall_nonempty?_iff rfl fun l => by rw [memberClean]
    · rw [elemNested]
      constructor
      · exact fun h => h _ rfl
      · rintro h v' ⟨⟩
        exact h
  | obj m ih =>
    have hmembers := membersClean_removeEmptyFields fun p hp => (ih p hp).1
    constructor
    · rw [cleanMember, memberNested, ← hmembers]
      exact forall_nonempty?_iff rfl fun l => by rw [memberClean]
    · rw [cleanElem, elemNested, ← hmembers]
      exact forall_nonempty?_iff rfl fun l => by rw [elemClean]

/-! ### The encoding -/

/-- **The canonical encoding.** The text of a value does not depend on the order in which maps are
gone through, it is parsed back to the value, and so it determines it. The removal of what is empty
is idempotent and takes away nothing else. It leaves nothing empty, at any depth, just if every
array inside an array is clean as it stands. -/
theorem canonical_iff (ft : FloatText) (r : Reader ft) :
    (∀ v w : Generic, Ranged.marshalValue ft v.value = Ranged.marshalValue ft w.value ↔
        v.value.resolve = w.value.resolve) ∧
      (∀ v : Generic, parse r.toLexer (Ranged.marshalValue ft v.value) = some v.value.resolve) ∧
      (∀ m, removeEmptyFields (removeEmptyFields m) = removeEmptyFields m ∧
        PrunesMembers m (removeEmptyFields m)) ∧
      ∀ m, membersClean (removeEmptyFields m) = true ↔ membersNested m = true := by
  have hparse (v : Generic) : parse r.toLexer (Ranged.marshalValue ft v.value) =
      some v.value.resolve := by
    rw [Ranged.marshalValue_eq v.distinct, parse_marshalValue]
  refine ⟨fun v w => ⟨fun h => ?_, fun h => ?_⟩, hparse, fun m => ⟨?_, ?_⟩, fun m => ?_⟩
  · have hsame := hparse v
    rw [h, hparse w] at hsame
    exact (Option.some.inj hsame).symm
  · rw [Ranged.marshalValue_eq v.distinct, Ranged.marshalValue_eq w.distinct, h]
  · exact removeEmptyFields_idem fun p _ => (clean_clean p.2).1
  · exact prunesMembers_removeEmptyFields fun p _ => (prunes_clean p.2).1
  · exact membersClean_removeEmptyFields fun p _ => (clean_iff_nested p.2).1

/-- **An array inside an array keeps what is empty.** -/
theorem nested_kept : removeEmptyFields [("limits", .arr [.arr [.str "", .null], .str ""])] =
        [("limits", .arr [.arr [.str "", .null]])] ∧
      membersClean (removeEmptyFields [("limits", .arr [.arr [.str "", .null], .str ""])]) =
        false := by
  have hkept : removeEmptyFields [("limits", .arr [.arr [.str "", .null], .str ""])] =
      [("limits", .arr [.arr [.str "", .null]])] := by rfl
  exact ⟨hkept, by rw [hkept]; rfl⟩

end Signature

end Rossoctl
