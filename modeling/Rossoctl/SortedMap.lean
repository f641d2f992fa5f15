import Mathlib.Data.List.Sort
import Rossoctl.GoMap

/-!
# A map in the order of its keys

The entries of a map in a canonical order, `Rossoctl.GoMap.sorted`: two maps have the same
sorted entries if and only if they have the same values
(`Rossoctl.GoMap.sorted_eq_iff`). This is what makes a text that is written from a map a
function of the map.
-/

namespace Rossoctl.GoMap

variable {K V : Type*} [LinearOrder K]

/-- The entries of a map, by key. -/
def sorted (m : GoMap K V) : List (K × V) :=
  (m.entries.map fun e => (e.1, e.2)).insertionSort fun p q => p.1 ≤ q.1

theorem mem_sorted_iff {m : GoMap K V} {k : K} {v : V} :
    (k, v) ∈ m.sorted ↔ m.lookup k = some v := by
  rw [sorted, List.mem_insertionSort, ← mem_entries_iff, List.mem_map]
  constructor
  · rintro ⟨e, he, heq⟩
    obtain ⟨rfl, rfl⟩ := Prod.ext_iff.mp heq
    exact he
  · exact fun h => ⟨⟨k, v⟩, h, rfl⟩

theorem nodup_sorted (m : GoMap K V) : m.sorted.Nodup := by
  refine (List.perm_insertionSort _ _).nodup_iff.mpr ?_
  refine List.Nodup.map ?_ (List.NodupKeys.nodup m.nodupKeys)
  intro e e' h
  obtain ⟨h1, h2⟩ := Prod.ext_iff.mp h
  cases e
  cases e'
  dsimp only at h1 h2
  subst h1 h2
  rfl

theorem pairwise_sorted (m : GoMap K V) : m.sorted.Pairwise fun p q => p.1 ≤ q.1 := by
  have htotal : Std.Total fun p q : K × V => p.1 ≤ q.1 := ⟨fun p q => le_total p.1 q.1⟩
  have htrans : IsTrans (K × V) fun p q => p.1 ≤ q.1 := ⟨fun _ _ _ => le_trans⟩
  exact List.pairwise_insertionSort _ _

/-- **The sorted entries are the map.** -/
theorem sorted_eq_iff {m m' : GoMap K V} :
    m.sorted = m'.sorted ↔ ∀ k, m.lookup k = m'.lookup k := by
  constructor
  · intro h k
    ext v
    rw [← mem_sorted_iff, ← mem_sorted_iff, h]
  · intro h
    have hmem : ∀ p : K × V, p ∈ m.sorted ↔ p ∈ m'.sorted := by
      rintro ⟨k, v⟩
      rw [mem_sorted_iff, mem_sorted_iff, h]
    have hperm : m.sorted.Perm m'.sorted :=
      (List.perm_ext_iff_of_nodup (nodup_sorted m) (nodup_sorted m')).mpr hmem
    refine hperm.eq_of_pairwise (fun p q hp hq hpq hqp => ?_) (pairwise_sorted m)
      (pairwise_sorted m')
    -- entries with the same key are the same entry
    obtain ⟨k, v⟩ := p
    obtain ⟨k', v'⟩ := q
    obtain rfl : k = k' := le_antisymm hpq hqp
    have hv := mem_sorted_iff.mp hp
    have hv' := mem_sorted_iff.mp ((hmem _).mpr hq)
    rw [Option.some.inj (hv.symm.trans hv')]

end Rossoctl.GoMap
