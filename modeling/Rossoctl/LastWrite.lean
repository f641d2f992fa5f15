import Mathlib.Logic.Function.Basic
import Mathlib.Data.List.Basic

/-!
# Last writer wins

A store is a function from keys to optional values, and writers are run one after
another, each writing at most one key with a value that does not depend on the
store. A key that is written holds the value of one of its writers
(`Rossoctl.LastWrite.exists_writer`); which one depends on the order only, and the
last one of all has its way (`Rossoctl.LastWrite.writeAll_concat`).
-/

namespace Rossoctl.LastWrite

open Function

variable {α K V : Type*} [DecidableEq K] (write : α → Option (K × V))

/-- One writer runs. -/
def writeOne (f : K → Option V) (a : α) : K → Option V :=
  match write a with
  | none => f
  | some (k, v) => update f k (some v)

/-- **The writers run**, in the order of the list. -/
def writeAll (f : K → Option V) (l : List α) : K → Option V := l.foldl (writeOne write) f

variable {write} {f : K → Option V} {l : List α} {k : K} {v : V}

variable {a : α}

theorem writeOne_none (h : write a = none) : writeOne write f a = f := by
  rw [writeOne, h]

theorem writeOne_some (h : write a = some (k, v)) :
    writeOne write f a = update f k (some v) := by
  rw [writeOne, h]

theorem writeOne_of_ne (h : ∀ v, write a ≠ some (k, v)) : writeOne write f a k = f k := by
  cases hw : write a with
  | none => rw [writeOne_none hw]
  | some p =>
    have hne : k ≠ p.1 := by
      rintro rfl
      exact h p.2 hw
    rw [writeOne_some hw, update_of_ne hne]

theorem writeOne_of_eq (h : write a = some (k, v)) : writeOne write f a k = some v := by
  rw [writeOne_some h, update_self]

theorem writeAll_append (l₁ l₂ : List α) :
    writeAll write f (l₁ ++ l₂) = writeAll write (writeAll write f l₁) l₂ :=
  List.foldl_append

theorem writeAll_of_not_written (h : ∀ a ∈ l, ∀ v, write a ≠ some (k, v)) :
    writeAll write f l k = f k := by
  induction l generalizing f with
  | nil => rfl
  | cons a l ih =>
    obtain ⟨ha, hl⟩ := List.forall_mem_cons.mp h
    exact (ih hl).trans (writeOne_of_ne ha)

/-- **A key that is written holds the value of one of its writers.** -/
theorem exists_writer (ha : a ∈ l) (hw : write a = some (k, v)) :
    ∃ b ∈ l, ∃ v', write b = some (k, v') ∧ writeAll write f l k = some v' := by
  induction l generalizing f a v with
  | nil => exact absurd ha List.not_mem_nil
  | cons b l ih =>
    -- the last writer is in the rest of the list, if that has one, else it is the first
    by_cases hl : ∃ c ∈ l, ∃ v', write c = some (k, v')
    · obtain ⟨c, hc, v', hv'⟩ := hl
      obtain ⟨d, hd, v'', hwd, hval⟩ := ih (f := writeOne write f b) hc hv'
      exact ⟨d, List.mem_cons_of_mem _ hd, v'', hwd, hval⟩
    · have hnot : ∀ c ∈ l, ∀ v', write c ≠ some (k, v') := fun c hc v' hv' => hl ⟨c, hc, v', hv'⟩
      rcases List.mem_cons.mp ha with rfl | hmem
      · exact ⟨a, List.mem_cons_self, v, hw, (writeAll_of_not_written hnot).trans
          (writeOne_of_eq hw)⟩
      · exact absurd hw (hnot a hmem v)

theorem writer_of_eq_some (h : writeAll write f l k = some v) :
    (∃ a ∈ l, write a = some (k, v)) ∨ f k = some v := by
  by_cases hl : ∃ a ∈ l, ∃ v', write a = some (k, v')
  · obtain ⟨a, ha, v', hv'⟩ := hl
    obtain ⟨b, hb, v'', hw, hval⟩ := exists_writer (f := f) ha hv'
    exact Or.inl ⟨b, hb, Option.some.inj (hval.symm.trans h) ▸ hw⟩
  · rw [writeAll_of_not_written fun a ha v' hv' => hl ⟨a, ha, v', hv'⟩] at h
    exact Or.inr h

theorem writeAll_concat (h : write a = some (k, v)) (l : List α) :
    writeAll write f (l ++ [a]) k = some v := by
  rw [writeAll_append]
  exact writeOne_of_eq h

end Rossoctl.LastWrite
