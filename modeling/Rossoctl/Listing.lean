import Mathlib.Data.List.Sort
import Rossoctl.GoMap

/-!
# Listing a map in a fixed order

A loop over a Go map, or over an index of an object store, sees the entries in
some order. Where a result must not depend on how the map came about, the order
is taken to be a function of the keys: `Rossoctl.GoMap.listing` goes through the
keys by a total order that is a parameter.

Listing and selecting commute with everything that leaves the selected entries
alone. This is `Rossoctl.GoMap.filter_listing_congr`, and it is what a cache of a
selection lives on: a change to an entry that the selection has never contained
does not change the selection, in any of its positions.
-/

namespace Rossoctl

open List

/-- A total order on keys, as a test. -/
structure KeyOrder (K : Type*) where
  le : K → K → Bool
  total : ∀ a b, le a b = true ∨ le b a = true
  trans : ∀ a b c, le a b = true → le b c = true → le a c = true
  antisymm : ∀ a b, le a b = true → le b a = true → a = b

namespace KeyOrder

variable {K : Type*} (o : KeyOrder K)

/-- A list in the order of `o`. -/
def sort (l : List K) : List K := l.insertionSort fun a b => o.le a b = true

theorem sort_perm (l : List K) : (o.sort l).Perm l := perm_insertionSort _ l

theorem pairwise_sort (l : List K) : (o.sort l).Pairwise fun a b => o.le a b = true := by
  have : Std.Total fun a b => o.le a b = true := ⟨o.total⟩
  have : IsTrans K fun a b => o.le a b = true := ⟨o.trans⟩
  exact pairwise_insertionSort _ l

/-- Two ordered lists without repetitions and with the same elements are equal. -/
theorem eq_of_mem_iff {l l' : List K} (hl : l.Pairwise fun a b => o.le a b = true)
    (hl' : l'.Pairwise fun a b => o.le a b = true) (hn : l.Nodup) (hn' : l'.Nodup)
    (h : ∀ k, k ∈ l ↔ k ∈ l') : l = l' :=
  ((perm_ext_iff_of_nodup hn hn').mpr h).eq_of_pairwise (fun a b _ _ => o.antisymm a b) hl hl'

end KeyOrder

namespace GoMap

variable {K V : Type*} [DecidableEq K]

/-- The values of a map, by the order of their keys. -/
def listing (o : KeyOrder K) (m : GoMap K V) : List V := (o.sort m.keys).filterMap m.lookup

theorem mem_keys_of_lookup {m : GoMap K V} {k : K} (h : (m.lookup k).isSome) : k ∈ m.keys :=
  AList.mem_keys.mpr (AList.lookup_isSome.mp h)

theorem filter_listing (o : KeyOrder K) (m : GoMap K V) (p : V → Bool) : (m.listing o).filter p =
      ((o.sort m.keys).filter fun k => ((m.lookup k).filter p).isSome).filterMap
        fun k => (m.lookup k).filter p := by
  rw [listing, filter_filterMap, filterMap_filter]
  congr 1
  funext k
  cases (m.lookup k).filter p <;> rfl

/-- **A selection sees only what it selects**: two maps with the same selected
entries have the same selection. -/
theorem filter_listing_congr (o : KeyOrder K) {m m' : GoMap K V} {p : V → Bool}
    (h : ∀ k, (m.lookup k).filter p = (m'.lookup k).filter p) :
    (m.listing o).filter p = (m'.listing o).filter p := by
  have hmem : ∀ (n : GoMap K V) (k : K),
      k ∈ (o.sort n.keys).filter (fun k => ((n.lookup k).filter p).isSome) ↔
        ((n.lookup k).filter p).isSome := by
    intro n k
    rw [mem_filter, (o.sort_perm n.keys).mem_iff]
    constructor
    · exact And.right
    · intro hk
      refine ⟨mem_keys_of_lookup ?_, hk⟩
      cases hn : n.lookup k with
      | none => rw [hn] at hk; exact hk
      | some v => rfl
  have hnodup : ∀ n : GoMap K V,
      ((o.sort n.keys).filter fun k => ((n.lookup k).filter p).isSome).Nodup := fun n =>
    (((o.sort_perm n.keys).nodup_iff).mpr n.nodupKeys).filter _
  have hkeys : (o.sort m.keys).filter (fun k => ((m.lookup k).filter p).isSome) =
      (o.sort m'.keys).filter fun k => ((m'.lookup k).filter p).isSome := by
    refine o.eq_of_mem_iff ((o.pairwise_sort _).filter _) ((o.pairwise_sort _).filter _)
      (hnodup m) (hnodup m') fun k => ?_
    rw [hmem, hmem, h k]
  rw [filter_listing, filter_listing, hkeys]
  exact congrArg (List.filterMap · _) (funext h)

end GoMap

end Rossoctl
