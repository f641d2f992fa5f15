import Mathlib.Data.List.Basic

/-!
# The first free number

A search upwards from a start for the first number that is not in use, up to a
limit: the shape of every allocator of ports, slots or identifiers that keeps a set
of what it has given out.

`Rossoctl.FirstFree` says what such a search is for, without running it, and
`Rossoctl.findFirst_eq_some_iff` and `Rossoctl.findFirst_eq_none_iff` say that the
loop finds exactly that, or that there is nothing to find.
-/

namespace Rossoctl

/-- `p` is the first number from `start` on that is not in use. -/
structure FirstFree (used : List Int) (start p : Int) : Prop where
  le : start ≤ p
  free : p ∉ used
  below : ∀ q, start ≤ q → q < p → q ∈ used

variable {used : List Int} {start : Int}

theorem FirstFree.unique {p q : Int} (hp : FirstFree used start p) (hq : FirstFree used start q) :
    p = q := by
  rcases Int.lt_trichotomy p q with h | h | h
  · exact absurd (hq.below p hp.le h) hp.free
  · exact h
  · exact absurd (hp.below q hq.le h) hq.free

/-- The loop: go up while the number is in use and within the limit. -/
def seek (used : List Int) (limit : Int) : Nat → Int → Int
  | 0, p => p
  | fuel + 1, p => if p ∈ used ∧ p ≤ limit then seek used limit fuel (p + 1) else p

/-- The first free number up to the limit. -/
def findFirst (used : List Int) (limit start : Int) : Option Int :=
  let p := seek used limit (limit + 1 - start).toNat start
  if p > limit then none else some p

/-- With fuel up to the limit, the loop passes only numbers in use, and ends at a free
one or beyond the limit. -/
theorem seek_spec (used : List Int) (limit : Int) (fuel : Nat) (start : Int)
    (hfuel : limit + 1 ≤ start + fuel) :
    start ≤ seek used limit fuel start ∧
      (∀ q, start ≤ q → q < seek used limit fuel start → q ∈ used) ∧
      (seek used limit fuel start ∉ used ∨ limit < seek used limit fuel start) := by
  induction fuel generalizing start with
  | zero =>
    rw [seek]
    exact ⟨Int.le_refl _, fun q h h' => absurd h (by omega), .inr (by omega)⟩
  | succ fuel ih =>
    rw [seek]
    by_cases h : start ∈ used ∧ start ≤ limit
    · rw [if_pos h]
      obtain ⟨hle, hbelow, hend⟩ := ih (start + 1) (by omega)
      refine ⟨by omega, fun q hq hq' => ?_, hend⟩
      by_cases hs : q = start
      · rw [hs]
        exact h.1
      · exact hbelow q (by omega) hq'
    · rw [if_neg h]
      refine ⟨Int.le_refl _, fun q hq hq' => absurd hq (by omega), ?_⟩
      rcases not_and_or.mp h with h | h
      · exact .inl h
      · exact .inr (by omega)

/-- **The search finds the first free number**, and no other. -/
theorem findFirst_eq_some_iff {limit p : Int} :
    findFirst used limit start = some p ↔ FirstFree used start p ∧ p ≤ limit := by
  obtain ⟨hle, hbelow, hend⟩ := seek_spec used limit (limit + 1 - start).toNat start (by omega)
  rw [findFirst]
  generalize seek used limit (limit + 1 - start).toNat start = r at *
  by_cases h : r > limit
  · rw [if_pos h]
    refine ⟨fun h' => (by cases h'), fun ⟨hp, hlim⟩ => ?_⟩
    exact absurd (hbelow p hp.le (by omega)) hp.free
  · rw [if_neg h]
    have hr : FirstFree used start r :=
      ⟨hle, hend.resolve_right (by omega), hbelow⟩
    constructor
    · intro hp
      cases hp
      exact ⟨hr, by omega⟩
    · rintro ⟨hp, -⟩
      rw [hr.unique hp]

/-- **The search fails** if, and only if, everything up to the limit is in use. -/
theorem findFirst_eq_none_iff {limit : Int} :
    findFirst used limit start = none ↔ ∀ q, start ≤ q → q ≤ limit → q ∈ used := by
  obtain ⟨hle, hbelow, hend⟩ := seek_spec used limit (limit + 1 - start).toNat start (by omega)
  rw [findFirst]
  generalize seek used limit (limit + 1 - start).toNat start = r at *
  by_cases h : r > limit
  · rw [if_pos h]
    exact ⟨fun _ q hq hlim => hbelow q hq (by omega), fun _ => rfl⟩
  · rw [if_neg h]
    refine ⟨fun h' => (by cases h'), fun hall => ?_⟩
    exact absurd (hall r hle (by omega)) (hend.resolve_right (by omega))

end Rossoctl
