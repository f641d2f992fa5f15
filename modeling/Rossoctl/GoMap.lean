import Mathlib.Data.List.AList

/-!
# Maps with an iteration

Finite maps in the shape a Go program uses them: lookup, insertion and deletion
by key, and a loop over all the entries that may delete or replace the one it is
at. They are Mathlib's association lists `AList`, whose type carries the proof
that no key occurs twice; what is added here is the loop,
`Rossoctl.GoMap.filterMap`, and the reading of lookup after each operation as a
case distinction on the key, which is the shape the proofs about a state use.
-/

namespace Rossoctl

open List AList

/-- A map from keys to values of one type. -/
abbrev GoMap (K V : Type*) := AList fun _ : K => V

namespace GoMap

variable {K V W : Type*}

section Lookup

variable [DecidableEq K]

variable (m : GoMap K V) (k k' : K) {ks : List K}

theorem lookup_insert_ite (v : V) :
    (m.insert k v).lookup k' = if k' = k then some v else m.lookup k' := by
  by_cases h : k' = k
  · subst h
    rw [if_pos rfl, lookup_insert]
  · rw [if_neg h, lookup_insert_ne h]

theorem lookup_erase_ite : (m.erase k).lookup k' = if k' = k then none else m.lookup k' := by
  by_cases h : k' = k
  · subst h
    rw [if_pos rfl, lookup_erase]
  · rw [if_neg h, lookup_erase_ne h]

/-- Entries with different keys that are inserted one after the other. -/
theorem lookup_foldl_insert (l : List (Sigma fun _ : K => V)) (hl : l.NodupKeys)
    (m : GoMap K V) (k : K) :
    (l.foldl (fun m e => m.insert e.1 e.2) m).lookup k = (l.dlookup k).or (m.lookup k) := by
  induction l generalizing m with
  | nil => rfl
  | cons e l ih =>
    obtain ⟨he, hl⟩ := nodupKeys_cons.mp hl
    rw [foldl_cons, ih hl, lookup_insert_ite]
    by_cases hk : k = e.1
    · subst hk
      rw [if_pos rfl, dlookup_eq_none.mpr he, dlookup_cons_eq]
      rfl
    · rw [if_neg hk, dlookup_cons_ne _ _ hk]

theorem mem_entries_iff {m : GoMap K V} {k : K} {v : V} :
    (⟨k, v⟩ : Sigma fun _ : K => V) ∈ m.entries ↔ m.lookup k = some v :=
  (mem_lookup_iff (s := m)).symm

theorem lookup_of_isEmpty {m : GoMap K V} (h : m.entries.isEmpty = true) (k : K) :
    m.lookup k = none := by
  rw [AList.lookup_eq_none, AList.mem_keys, AList.keys, isEmpty_iff.mp h]
  exact not_mem_nil

/-- **Two maps agree** except, perhaps, at some keys. -/
def AgreeOff (ks : List K) (m m' : GoMap K V) : Prop := ∀ k, k ∉ ks → m'.lookup k = m.lookup k

theorem AgreeOff.refl (ks : List K) (m : GoMap K V) : AgreeOff ks m m := fun _ _ => rfl

theorem AgreeOff.insert {m m' : GoMap K V} (h : AgreeOff ks m m') {k : K}
    (hk : k ∈ ks) (v : V) : AgreeOff ks m (m'.insert k v) := by
  intro k' hk'
  have hne : k' ≠ k := fun hc => hk' (hc ▸ hk)
  rw [lookup_insert_ne hne, h k' hk']

theorem AgreeOff.erase {m m' : GoMap K V} (h : AgreeOff ks m m') {k : K}
    (hk : k ∈ ks) : AgreeOff ks m (m'.erase k) := by
  intro k' hk'
  have hne : k' ≠ k := fun hc => hk' (hc ▸ hk)
  rw [lookup_erase_ne hne, h k' hk']

end Lookup

/-- One round of a loop over the entries: keep the entry with a new value, or
delete it. -/
def keep (f : K → V → Option W) (e : Sigma fun _ : K => V) : Option (Sigma fun _ : K => W) :=
  (f e.1 e.2).map (Sigma.mk e.1)

theorem keep_fst {f : K → V → Option W} {e : Sigma fun _ : K => V} {e' : Sigma fun _ : K => W}
    (h : keep f e = some e') : e'.1 = e.1 ∧ f e.1 e.2 = some e'.2 := by
  obtain ⟨w, hw, rfl⟩ := Option.map_eq_some_iff.mp h
  exact ⟨rfl, hw⟩

theorem nodupKeys_filterMap (f : K → V → Option W) :
    ∀ l : List (Sigma fun _ : K => V), l.NodupKeys → (l.filterMap (keep f)).NodupKeys
  | [], _ => nodupKeys_nil
  | e :: l, h => by
    obtain ⟨hne, hl⟩ := nodupKeys_cons.mp h
    have ih := nodupKeys_filterMap f l hl
    rcases hk : keep f e with _ | e'
    · rwa [filterMap_cons_none hk]
    · rw [filterMap_cons_some hk, nodupKeys_cons]
      refine ⟨fun hmem => hne ?_, ih⟩
      obtain ⟨w, hw⟩ := exists_of_mem_keys hmem
      obtain ⟨e₁, he₁, hk₁⟩ := mem_filterMap.mp hw
      have h1 : e'.1 = e₁.1 := (keep_fst hk₁).1
      rw [← (keep_fst hk).1, h1]
      exact mem_keys_of_mem he₁

/-- **The loop over a map**: every entry is given a new value or deleted. -/
def filterMap (f : K → V → Option W) (m : GoMap K V) : GoMap K W :=
  ⟨m.entries.filterMap (keep f), nodupKeys_filterMap f m.entries m.nodupKeys⟩

/-- **The loop over a map treats every key by itself.** -/
theorem lookup_filterMap [DecidableEq K] (f : K → V → Option W) (m : GoMap K V) (k : K) :
    (m.filterMap f).lookup k = (m.lookup k).bind (f k) := by
  ext w
  rw [← mem_entries_iff, filterMap, mem_filterMap, Option.bind_eq_some_iff]
  constructor
  · rintro ⟨⟨k', v⟩, hmem, hk⟩
    obtain ⟨h1, h2⟩ := keep_fst hk
    dsimp only at h1 h2
    subst h1
    exact ⟨v, mem_entries_iff.mp hmem, h2⟩
  · rintro ⟨v, hv, hf⟩
    refine ⟨⟨k, v⟩, mem_entries_iff.mpr hv, ?_⟩
    simp [keep, hf]

end GoMap

end Rossoctl
