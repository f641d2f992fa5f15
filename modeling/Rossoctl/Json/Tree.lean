import Mathlib.Data.String.Basic
import Mathlib.Data.List.Basic

/-!
# JSON trees

Trees with numbers from an arbitrary type, so that one development serves the
documents (whose numbers are literals), the values a decoder makes of them (whose
numbers are floating-point numbers) and their mathematical meaning (whose numbers
are rationals): the three differ by `Rossoctl.Json.JTree.map`.

Two operations give a tree its meaning. `Rossoctl.Json.JTree.resolve` reads every
object as a map – of several members with one name the last one counts, and the
order of names is immaterial, so they are put in order. What is left after
dropping everything that is null or empty, recursively, is the *essence*
(`Rossoctl.Json.JTree.essence`). Both commute with `map`.
-/

namespace Rossoctl.Json

open List

universe u

/-- A JSON tree with numbers in `N`. -/
inductive JTree (N : Type u) : Type u where
  | null
  | bool (b : Bool)
  | num (n : N)
  | str (s : String)
  | arr (xs : List (JTree N))
  | obj (ms : List (String × JTree N))

variable {α β : Type*}

/-! ### Maps as ordered lists of members -/

/-- Put a member into an ordered list, in place of one with the same name. -/
def insertKey (k : String) (v : α) : List (String × α) → List (String × α)
  | [] => [(k, v)]
  | (k', v') :: m =>
    if k < k' then (k, v) :: (k', v') :: m
    else if k = k' then (k, v) :: m
    else (k', v') :: insertKey k v m

/-- The map a list of members stands for: the last member of a name wins. -/
def ofMembers (ms : List (String × α)) : List (String × α) :=
  ms.foldl (fun m p => insertKey p.1 p.2 m) []

variable {p : String × α} {ms m : List (String × α)}

variable {k : String} {v : α} (f : α → β)

theorem mem_insertKey (h : p ∈ insertKey k v m) : p = (k, v) ∨ p ∈ m := by
  induction m with
  | nil => exact Or.inl (mem_singleton.mp h)
  | cons q m ih =>
    rw [insertKey] at h
    split at h
    · exact mem_cons.mp h
    · split at h
      · exact (mem_cons.mp h).imp_right (mem_cons_of_mem _)
      · rcases mem_cons.mp h with rfl | h
        · exact Or.inr mem_cons_self
        · exact (ih h).imp_right (mem_cons_of_mem _)

theorem mem_foldl_insertKey (h : p ∈ ms.foldl (fun m p => insertKey p.1 p.2 m) m) :
    p ∈ ms ∨ p ∈ m := by
  induction ms generalizing m with
  | nil => exact Or.inr h
  | cons q ms ih =>
    rcases ih h with h | h
    · exact Or.inl (mem_cons_of_mem _ h)
    · rcases mem_insertKey h with rfl | h
      · exact Or.inl mem_cons_self
      · exact Or.inr h

theorem mem_ofMembers (h : p ∈ ofMembers ms) : p ∈ ms :=
  (mem_foldl_insertKey h).resolve_right not_mem_nil

theorem lookup_of_mem (h : (ms.map Prod.fst).Nodup) (hp : p ∈ ms) : ms.lookup p.1 = some p.2 := by
  induction ms with
  | nil => cases hp
  | cons q ms ih =>
    obtain ⟨hq, hms⟩ := nodup_cons.mp h
    obtain rfl | hp := mem_cons.mp hp
    · exact lookup_cons_self
    · have hne : p.1 ≠ q.1 := fun heq => hq (heq ▸ mem_map_of_mem hp)
      rw [lookup_cons, beq_eq_false_iff_ne.mpr hne]
      exact ih hms hp

/-- Changing the values of members. -/
def mapSnd (f : α → β) (ms : List (String × α)) : List (String × β) :=
  ms.map fun p => (p.1, f p.2)

@[simp] theorem mapSnd_nil : mapSnd f [] = [] := rfl

@[simp] theorem mapSnd_cons (p : String × α) (ms : List (String × α)) :
    mapSnd f (p :: ms) = (p.1, f p.2) :: mapSnd f ms := rfl

theorem insertKey_mapSnd (k : String) (v : α) (m : List (String × α)) :
    insertKey k (f v) (mapSnd f m) = mapSnd f (insertKey k v m) := by
  induction m with
  | nil => rfl
  | cons q m ih =>
    rw [mapSnd_cons, insertKey, insertKey]
    split
    · rfl
    · split
      · rfl
      · exact congrArg _ ih

theorem ofMembers_mapSnd (ms : List (String × α)) :
    ofMembers (mapSnd f ms) = mapSnd f (ofMembers ms) := by
  suffices h : ∀ m, (mapSnd f ms).foldl (fun m p => insertKey p.1 p.2 m) (mapSnd f m) =
      mapSnd f (ms.foldl (fun m p => insertKey p.1 p.2 m) m) from h []
  induction ms with
  | nil => exact fun m => rfl
  | cons q ms ih =>
    intro m
    rw [mapSnd_cons, foldl_cons, foldl_cons, ← ih]
    exact congrArg (List.foldl _ · _) (insertKey_mapSnd f q.1 q.2 m)

theorem insertKey_of_lt (h : ∀ p ∈ m, p.1 < k) : insertKey k v m = m ++ [(k, v)] := by
  induction m with
  | nil => rfl
  | cons q m ih =>
    have hq : q.1 < k := h q mem_cons_self
    rw [insertKey, if_neg hq.not_gt, if_neg hq.ne', ih fun p hp => h p (mem_cons_of_mem _ hp)]
    rfl

theorem ofMembers_of_sorted (h : ms.Pairwise fun p q => p.1 < q.1) : ofMembers ms = ms := by
  suffices hs : ∀ m, (m ++ ms).Pairwise (fun p q => p.1 < q.1) →
      ms.foldl (fun m p => insertKey p.1 p.2 m) m = m ++ ms from hs [] h
  clear h
  induction ms with
  | nil => exact fun m _ => (append_nil m).symm
  | cons q ms ih =>
    intro m hm
    have hlt : ∀ p ∈ m, p.1 < q.1 := fun p hp =>
      (pairwise_append.mp hm).2.2 p hp q mem_cons_self
    rw [foldl_cons, insertKey_of_lt hlt, ih, append_assoc]
    · rfl
    · rwa [append_assoc]

namespace JTree

variable {N M L : Type*}

/-! ### Induction and map -/

/-- **Induction over trees**, with the children of a node as members of a list. -/
@[elab_as_elim]
theorem induct {P : JTree N → Prop} (null : P null) (bool : ∀ b, P (bool b))
    (num : ∀ n, P (num n)) (str : ∀ s, P (str s)) (arr : ∀ xs, (∀ x ∈ xs, P x) → P (arr xs))
    (obj : ∀ ms, (∀ p ∈ ms, P p.2) → P (obj ms)) (t : JTree N) : P t :=
  @JTree.rec N P (fun xs => ∀ x ∈ xs, P x) (fun ms => ∀ p ∈ ms, P p.2) (fun p => P p.2)
    null bool num str arr obj (fun _ h => absurd h not_mem_nil)
    (fun _ _ hx hxs _ h => (mem_cons.mp h).elim (fun h => h ▸ hx) (hxs _))
    (fun _ h => absurd h not_mem_nil)
    (fun _ _ hp hps _ h => (mem_cons.mp h).elim (fun h => h ▸ hp) (hps _))
    (fun _ _ h => h) t

mutual

/-- Change the numbers of a tree. -/
def map (f : N → M) : JTree N → JTree M
  | .null => .null
  | .bool b => .bool b
  | .num n => .num (f n)
  | .str s => .str s
  | .arr xs => .arr (mapList f xs)
  | .obj ms => .obj (mapMembers f ms)

/-- Change the numbers of the elements of an array. -/
def mapList (f : N → M) : List (JTree N) → List (JTree M)
  | [] => []
  | x :: xs => map f x :: mapList f xs

/-- Change the numbers of the members of an object. -/
def mapMembers (f : N → M) : List (String × JTree N) → List (String × JTree M)
  | [] => []
  | (k, x) :: ms => (k, map f x) :: mapMembers f ms

end

variable {f : N → M}

@[simp] theorem map_null : map f null = null := rfl
@[simp] theorem map_bool (b : Bool) : map f (bool b) = bool b := rfl
@[simp] theorem map_num (n : N) : map f (num n) = num (f n) := rfl
@[simp] theorem map_str (s : String) : map f (str s) = str s := rfl

@[simp] theorem map_arr (xs : List (JTree N)) : map f (arr xs) = arr (xs.map (map f)) := by
  rw [map]
  congr 1
  induction xs with
  | nil => rfl
  | cons x xs ih => rw [mapList, ih, map_cons]

@[simp] theorem map_obj (ms : List (String × JTree N)) :
    map f (obj ms) = obj (mapSnd (map f) ms) := by
  rw [map]
  congr 1
  induction ms with
  | nil => rfl
  | cons p ms ih => rw [mapMembers, ih, mapSnd_cons]

theorem map_map (g : M → L) (f : N → M) (t : JTree N) : map g (map f t) = map (g ∘ f) t := by
  induction t using induct with
  | null | bool | num | str => rfl
  | arr xs ih => simpa using ih
  | obj ms ih => simpa [mapSnd] using fun k t h => ih (k, t) h

/-! ### The numbers in a tree -/

mutual

/-- The numbers of a tree, in order. -/
def nums : JTree N → List N
  | .num n => [n]
  | .arr xs => numsList xs
  | .obj ms => numsMembers ms
  | _ => []

/-- The numbers of the elements of an array. -/
def numsList : List (JTree N) → List N
  | [] => []
  | x :: xs => nums x ++ numsList xs

/-- The numbers of the members of an object. -/
def numsMembers : List (String × JTree N) → List N
  | [] => []
  | (_, x) :: ms => nums x ++ numsMembers ms

end

@[simp] theorem nums_arr (xs : List (JTree N)) : nums (arr xs) = xs.flatMap nums := by
  rw [nums]
  induction xs with
  | nil => rfl
  | cons x xs ih => rw [numsList, ih, flatMap_cons]

@[simp] theorem nums_obj (ms : List (String × JTree N)) :
    nums (obj ms) = ms.flatMap fun p => nums p.2 := by
  rw [nums]
  induction ms with
  | nil => rfl
  | cons p ms ih => rw [numsMembers, ih, flatMap_cons]

theorem nums_map (f : N → M) (t : JTree N) : nums (map f t) = (nums t).map f := by
  induction t using induct with
  | null | bool | num | str => rfl
  | arr xs ih =>
    rw [map_arr, nums_arr, nums_arr, flatMap_map, map_flatMap]
    exact flatMap_congr ih
  | obj ms ih =>
    rw [map_obj, nums_obj, nums_obj, mapSnd, flatMap_map, map_flatMap]
    exact flatMap_congr ih

variable {f : N → M} {t : JTree N} {ms : List (String × JTree N)}

theorem eq_of_map_eq {g : N → M} (h : map f t = map g t) : ∀ n ∈ nums t, f n = g n := by
  induction t using induct with
  | null | bool | str => exact fun n hn => absurd hn not_mem_nil
  | num n =>
    intro m hm
    obtain rfl := mem_singleton.mp hm
    exact JTree.num.inj h
  | arr xs ih =>
    intro n hn
    rw [map_arr, map_arr, arr.injEq, map_inj_left] at h
    rw [nums_arr, mem_flatMap] at hn
    obtain ⟨x, hx, hn⟩ := hn
    exact ih x hx (h x hx) n hn
  | obj ms ih =>
    intro n hn
    rw [map_obj, map_obj, obj.injEq, mapSnd, mapSnd, map_inj_left] at h
    rw [nums_obj, mem_flatMap] at hn
    obtain ⟨p, hp, hn⟩ := hn
    exact ih p hp (congrArg Prod.snd (h p hp)) n hn

theorem map_congr {g : N → M} (h : ∀ n ∈ nums t, f n = g n) : map f t = map g t := by
  induction t using induct with
  | null | bool | str => rfl
  | num n => exact congrArg num (h n (mem_singleton_self n))
  | arr xs ih =>
    rw [nums_arr] at h
    rw [map_arr, map_arr, map_congr_left fun x hx => ih x hx fun n hn =>
      h n (mem_flatMap.mpr ⟨x, hx, hn⟩)]
  | obj ms ih =>
    rw [nums_obj] at h
    rw [map_obj, map_obj, mapSnd, mapSnd, map_congr_left fun p hp => congrArg (Prod.mk p.1)
      (ih p hp fun n hn => h n (mem_flatMap.mpr ⟨p, hp, hn⟩))]

/-- **A tree without numbers is determined by any of its images.** -/
theorem eq_of_map_eq_of_nums_eq_nil {t' : JTree N} (h : map f t = map f t') (ht : nums t = []) :
    t = t' := by
  induction t using induct generalizing t' with
  | null | bool | str => cases t' <;> simp_all
  | num n => exact absurd ht (cons_ne_nil _ _)
  | arr xs ih =>
    cases t' with
    | arr ys =>
      rw [nums_arr, flatMap_eq_nil_iff] at ht
      rw [map_arr, map_arr, arr.injEq] at h
      rw [arr.injEq]
      induction xs generalizing ys with
      | nil => exact (map_eq_nil_iff.mp h.symm).symm
      | cons x xs ihs =>
        cases ys with
        | nil => cases h
        | cons y ys =>
          rw [map_cons, map_cons, List.cons.injEq] at h
          rw [ih x mem_cons_self h.1 (ht x mem_cons_self)]
          rw [ihs (fun z hz => ih z (mem_cons_of_mem _ hz))
            (fun z hz => ht z (mem_cons_of_mem _ hz)) ys h.2]
    | _ => simp at h
  | obj ms ih =>
    cases t' with
    | obj ns =>
      rw [nums_obj, flatMap_eq_nil_iff] at ht
      rw [map_obj, map_obj, obj.injEq] at h
      rw [obj.injEq]
      induction ms generalizing ns with
      | nil =>
        cases ns with
        | nil => rfl
        | cons q ns => cases h
      | cons p ms ihs =>
        cases ns with
        | nil => cases h
        | cons q ns =>
          rw [mapSnd_cons, mapSnd_cons, List.cons.injEq, Prod.mk.injEq] at h
          have hp : p = q :=
            Prod.ext h.1.1 (ih p mem_cons_self h.1.2 (ht p mem_cons_self))
          rw [hp, ihs (fun z hz => ih z (mem_cons_of_mem _ hz))
            (fun z hz => ht z (mem_cons_of_mem _ hz)) ns h.2]
    | _ => simp at h

/-! ### Objects as maps -/

mutual

/-- Read every object as a map. -/
def resolve : JTree N → JTree N
  | .arr xs => .arr (resolveList xs)
  | .obj ms => .obj (ofMembers (resolveMembers ms))
  | t => t

/-- Read every object in an array as a map. -/
def resolveList : List (JTree N) → List (JTree N)
  | [] => []
  | x :: xs => resolve x :: resolveList xs

/-- Read every object below a member as a map. -/
def resolveMembers : List (String × JTree N) → List (String × JTree N)
  | [] => []
  | (k, x) :: ms => (k, resolve x) :: resolveMembers ms

end

@[simp] theorem resolve_arr (xs : List (JTree N)) : resolve (arr xs) = arr (xs.map resolve) := by
  rw [resolve]
  congr 1
  induction xs with
  | nil => rfl
  | cons x xs ih => rw [resolveList, ih, map_cons]

@[simp] theorem resolve_obj (ms : List (String × JTree N)) :
    resolve (obj ms) = obj (mapSnd resolve (ofMembers ms)) := by
  rw [resolve, ← ofMembers_mapSnd]
  congr 2
  induction ms with
  | nil => rfl
  | cons p ms ih => rw [resolveMembers, ih, mapSnd_cons]

theorem resolve_obj_of_sorted (h : (ms.map Prod.fst).Pairwise (· < ·)) :
    resolve (obj ms) = obj (mapSnd resolve ms) := by
  rw [resolve_obj, ofMembers_of_sorted (pairwise_map.mp h)]

theorem resolve_map (f : N → M) (t : JTree N) : resolve (map f t) = map f (resolve t) := by
  induction t using induct with
  | null | bool | num | str => rfl
  | arr xs ih => simpa using ih
  | obj ms ih =>
    simp only [map_obj, resolve_obj, ofMembers_mapSnd]
    congr 1
    simp only [mapSnd, List.map_map, map_inj_left]
    exact fun p hp => congrArg (Prod.mk p.1) (ih p (mem_ofMembers hp))

/-! ### What is not empty -/

/-- A list that is not empty. -/
def nonempty? (wrap : List α → β) : List α → Option β
  | [] => none
  | x :: xs => some (wrap (x :: xs))

mutual

/-- **The essence of a tree**: what is left without anything null or empty, and
nothing if nothing is left. -/
def essence : JTree N → Option (JTree N)
  | .null => none
  | .str s => if s = "" then none else some (.str s)
  | .arr xs => nonempty? .arr (essenceList xs)
  | .obj ms => nonempty? .obj (essenceMembers ms)
  | t => some t

/-- The elements with an essence. -/
def essenceList : List (JTree N) → List (JTree N)
  | [] => []
  | x :: xs => (essence x).toList ++ essenceList xs

/-- The members with an essence. -/
def essenceMembers : List (String × JTree N) → List (String × JTree N)
  | [] => []
  | (k, x) :: ms => ((essence x).map (Prod.mk k)).toList ++ essenceMembers ms

end

/-- The essences of members. -/
def essences (ms : List (String × JTree N)) : List (String × JTree N) :=
  ms.filterMap fun p => (essence p.2).map (Prod.mk p.1)

theorem essence_arr (xs : List (JTree N)) :
    essence (arr xs) = nonempty? arr (xs.filterMap essence) := by
  rw [essence]
  congr 1
  induction xs with
  | nil => rfl
  | cons x xs ih =>
    rw [essenceList, ih, filterMap_cons]
    cases essence x <;> rfl

theorem essence_obj (ms : List (String × JTree N)) :
    essence (obj ms) = nonempty? obj (essences ms) := by
  rw [essence]
  congr 1
  induction ms with
  | nil => rfl
  | cons p ms ih =>
    rw [essenceMembers, ih]
    simp only [essences, filterMap_cons]
    cases essence p.2 <;> rfl

@[simp] theorem essences_nil : essences ([] : List (String × JTree N)) = [] := rfl

theorem essences_cons (p : String × JTree N) (ms : List (String × JTree N)) :
    essences (p :: ms) = ((essence p.2).map (Prod.mk p.1)).toList ++ essences ms := by
  rw [essences, filterMap_cons]
  cases essence p.2 <;> rfl

theorem essences_mapSnd_filter {g : JTree N → JTree M} {p : String × JTree N → Bool}
    (h : ∀ q ∈ ms, p q = false → essence (g q.2) = none) :
    essences (mapSnd g (ms.filter p)) = essences (mapSnd g ms) := by
  rw [essences, essences, mapSnd, mapSnd, filterMap_map, filterMap_map, filterMap_filter]
  refine filterMap_congr fun q hq => ?_
  split
  · rfl
  · rename_i hp
    rw [Function.comp_apply, h q hq (Bool.eq_false_iff.mpr hp)]
    rfl

theorem nonempty?_map {wrap : List α → JTree N} {wrap' : List β → JTree M} {g : JTree N → JTree M}
    {h : List α → List β} (hnil : ∀ l, h l = [] ↔ l = []) (hw : ∀ l, g (wrap l) = wrap' (h l))
    (l : List α) : nonempty? wrap' (h l) = (nonempty? wrap l).map g := by
  cases l with
  | nil => rw [(hnil []).mpr rfl]; rfl
  | cons x l =>
    have hne : h (x :: l) ≠ [] := fun h' => cons_ne_nil _ _ ((hnil _).mp h')
    obtain ⟨y, l', hl⟩ := exists_cons_of_ne_nil hne
    rw [nonempty?, Option.map_some, hw, hl]
    rfl

theorem essences_mapSnd (h : ∀ p ∈ ms, essence (map f p.2) = (essence p.2).map (map f)) :
    essences (mapSnd (map f) ms) = mapSnd (map f) (essences ms) := by
  induction ms with
  | nil => rfl
  | cons p ms ih =>
    have ih := ih fun q hq => h q (mem_cons_of_mem _ hq)
    simp only [essences, mapSnd_cons, filterMap_cons, h p mem_cons_self] at ih ⊢
    cases essence p.2 <;> simp [ih]

theorem flatMap_filterMap {γ : Type*} {f : α → Option β} {g : β → List γ} {g' : α → List γ}
    {l : List α} (h : ∀ x ∈ l, (f x).elim [] g = g' x) :
    (l.filterMap f).flatMap g = l.flatMap g' := by
  induction l with
  | nil => rfl
  | cons x l ih =>
    have ih := ih fun y hy => h y (mem_cons_of_mem _ hy)
    rw [flatMap_cons, filterMap_cons, ← h x mem_cons_self]
    cases f x with
    | none => exact ih
    | some y => exact congrArg (g y ++ ·) ih

/-- A number is never empty: the essence has the numbers of the tree. -/
theorem nums_essence (t : JTree N) : (essence t).elim [] nums = nums t := by
  induction t using induct with
  | null | bool | num => rfl
  | str s =>
    rw [essence]
    split <;> rfl
  | arr xs ih =>
    have hl : (xs.filterMap essence).flatMap nums = xs.flatMap nums := flatMap_filterMap ih
    rw [essence_arr, nums_arr, ← hl]
    cases xs.filterMap essence with
    | nil => rfl
    | cons x l => exact nums_arr _
  | obj ms ih =>
    have hl : ((essences ms).flatMap fun p => nums p.2) = ms.flatMap fun p => nums p.2 := by
      refine flatMap_filterMap fun p hp => ?_
      rw [← ih p hp]
      cases essence p.2 <;> rfl
    rw [essence_obj, nums_obj, ← hl]
    cases essences ms with
    | nil => rfl
    | cons p l => exact nums_obj _

theorem essence_map (f : N → M) (t : JTree N) : essence (map f t) = (essence t).map (map f) := by
  induction t using induct with
  | null | bool | num => rfl
  | str s =>
    rw [map_str, essence, essence]
    split <;> rfl
  | arr xs ih =>
    have hl : (xs.map (map f)).filterMap essence = (xs.filterMap essence).map (map f) := by
      rw [filterMap_map, map_filterMap]
      exact filterMap_congr ih
    rw [map_arr, essence_arr, essence_arr, hl]
    exact nonempty?_map (fun l => map_eq_nil_iff) (fun l => map_arr l) _
  | obj ms ih =>
    rw [map_obj, essence_obj, essence_obj, essences_mapSnd ih]
    exact nonempty?_map (fun l => map_eq_nil_iff) (fun l => map_obj l) _

end JTree

end Rossoctl.Json
