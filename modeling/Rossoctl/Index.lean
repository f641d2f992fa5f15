import Mathlib.Data.List.Nodup
import Mathlib.Logic.Function.Basic

/-!
# A map and the index kept next to it

A program that often asks for all the keys of one owner keeps, next to the map from keys
to owners, a list of keys for each owner. Nothing in this file knows what the keys and the
owners are; an owner without keys has no list at all (`Rossoctl.Lists`).

The two changes of the map have their counterpart in the index. A key that is removed is
filtered out of its owner's list (`Rossoctl.IsIndex.remove`). A key that is added is
appended to the list of the new owner, and this keeps the index right exactly if the key
had no owner before (`Rossoctl.IsIndex.add_iff`): otherwise it is in two lists, or twice
in one.
-/

namespace Rossoctl

open List Option Function

variable {K U : Type*}

/-- **A list of exactly the elements with a property**, each of them once. No list stands
for the empty one. -/
structure Lists (p : K → Prop) (l : Option (List K)) : Prop where
  ne_nil : l ≠ some []
  nodup : (l.getD []).Nodup
  mem_iff : ∀ k, k ∈ l.getD [] ↔ p k

theorem lists_none {p : K → Prop} (h : ∀ k, ¬ p k) : Lists p none :=
  ⟨by simp, nodup_nil, fun k => by simp [h k]⟩

theorem Lists.congr {p q : K → Prop} {l : Option (List K)} (h : Lists p l)
    (hpq : ∀ k, p k ↔ q k) : Lists q l :=
  ⟨h.ne_nil, h.nodup, fun k => (h.mem_iff k).trans (hpq k)⟩

/-- A list, or nothing if it is empty. -/
def listOrNone : List K → Option (List K)
  | [] => none
  | l => some l

@[simp] theorem getD_listOrNone (l : List K) : (listOrNone l).getD [] = l := by
  cases l with
  | nil => rfl
  | cons k l => rfl

theorem listOrNone_ne (l : List K) : listOrNone l ≠ some [] := by
  cases l with
  | nil => simp [listOrNone]
  | cons k l => simp [listOrNone]

theorem eq_of_listOrNone_eq_some {l l' : List K} (h : listOrNone l = some l') : l' = l := by
  cases l with
  | nil => cases h
  | cons k l => exact (some.inj h).symm

/-- **An index**: every owner has the list of its keys. -/
def IsIndex (owner : K → Option U) (index : U → Option (List K)) : Prop :=
  ∀ u, Lists (fun k => owner k = some u) (index u)

variable [DecidableEq K] [DecidableEq U] {owner : K → Option U} {index : U → Option (List K)}

/-- **A key is removed.** -/
theorem IsIndex.remove (h : IsIndex owner index) {k : K} {u : U} (hk : owner k = some u) :
    IsIndex (update owner k none)
      (update index u (listOrNone (((index u).getD []).filter (· ≠ k)))) := by
  intro v
  rcases eq_or_ne v u with rfl | hv
  · rw [update_self]
    refine ⟨listOrNone_ne _, ?_, fun k' => ?_⟩
    · rw [getD_listOrNone]
      exact (h v).nodup.filter _
    · rw [getD_listOrNone, mem_filter, (h v).mem_iff, decide_eq_true_eq]
      by_cases hk' : k' = k
      · simp [hk']
      · simp [hk']
  · rw [update_of_ne hv]
    refine (h v).congr fun k' => ?_
    by_cases hk' : k' = k
    · subst hk'
      simp [hk, hv.symm]
    · rw [update_of_ne hk']

/-- **A key is added**, which is right exactly if it had no owner. -/
theorem IsIndex.add_iff (h : IsIndex owner index) (k : K) (u : U) :
    IsIndex (update owner k (some u))
      (update index u (some ((index u).getD [] ++ [k]))) ↔ owner k = none := by
  constructor
  · intro h'
    by_contra hne
    obtain ⟨v, hv⟩ := ne_none_iff_exists'.mp hne
    have hmem : k ∈ (index v).getD [] := ((h v).mem_iff k).mpr hv
    rcases eq_or_ne v u with rfl | hvu
    · -- the key is in the list twice
      have hnodup := (h' v).nodup
      rw [update_self, getD_some, nodup_append] at hnodup
      exact hnodup.2.2 k hmem k (mem_singleton_self k) rfl
    · -- the key stays in the list of its old owner
      have hstill := ((h' v).mem_iff k).mp (by rwa [update_of_ne hvu])
      rw [update_self] at hstill
      exact hvu (some.inj hstill).symm
  · intro hnone v
    rcases eq_or_ne v u with rfl | hv
    · rw [update_self]
      have hnot : k ∉ (index v).getD [] := by
        rw [(h v).mem_iff, hnone]
        simp
      refine ⟨by simp, ?_, fun k' => ?_⟩
      · rw [getD_some, nodup_append]
        refine ⟨(h v).nodup, nodup_singleton k, ?_⟩
        rintro a ha b hb rfl
        exact hnot (mem_singleton.mp hb ▸ ha)
      · rw [getD_some, mem_append, mem_singleton, (h v).mem_iff]
        by_cases hk' : k' = k
        · simp [hk']
        · simp [hk']
    · rw [update_of_ne hv]
      refine (h v).congr fun k' => ?_
      by_cases hk' : k' = k
      · subst hk'
        simp [hnone, hv.symm]
      · rw [update_of_ne hk']

end Rossoctl
