import Rossoctl.Bundle.Archive

/-!
# The three caches

`internal/bundleservice/cache`. Policies of the shared tiers
(`Rossoctl.Bundle.PolicyCache`) and ETags of clients (`Rossoctl.Bundle.ETagCache`)
stay until they are invalidated; archives (`Rossoctl.Bundle.BundleCache`) also
expire, and make room for others by least recent use. A bundle cache is its
eviction list, the most recently used entry first; its map has the same entries by
key, which is why no key occurs twice in the list.

Each cache has its own lock, so the unit in which they are emptied is the
operation on one of them: `Rossoctl.Bundle.CacheOp`.
-/

namespace Rossoctl.Bundle

open List

/-! ### Policies and ETags -/

/-- The policies of one tier, with their hash. -/
structure PolicyData where
  policies : List PolicyEntry
  hash : String
  deriving DecidableEq

/-- The converted policies, of all clients and by namespace. -/
structure PolicyCache where
  global : Option PolicyData := none
  ns : GoMap String PolicyData := ∅

namespace PolicyCache

/-- `GetGlobal` and `GetNamespace`. -/
def get (c : PolicyCache) : Tier → Option PolicyData
  | .global => c.global
  | .namespace ns => c.ns.lookup ns

/-- `SetGlobal` and `SetNamespace`. -/
def set (c : PolicyCache) (d : PolicyData) : Tier → PolicyCache
  | .global => { c with global := some d }
  | .namespace ns => { c with ns := c.ns.insert ns d }

/-- `InvalidateGlobal` and `InvalidateNamespace`. -/
def invalidate (c : PolicyCache) : Tier → PolicyCache
  | .global => { c with global := none }
  | .namespace ns => { c with ns := c.ns.erase ns }

theorem get_set (c : PolicyCache) (d : PolicyData) (t t' : Tier) :
    (c.set d t).get t' = if t' = t then some d else c.get t' := by
  cases t with
  | global => cases t' <;> simp [set, get]
  | «namespace» ns =>
    cases t' with
    | global => simp [set, get]
    | «namespace» ns' => simp [set, get, GoMap.lookup_insert_ite]

theorem get_invalidate (c : PolicyCache) (t t' : Tier) :
    (c.invalidate t).get t' = if t' = t then none else c.get t' := by
  cases t with
  | global => cases t' <;> simp [invalidate, get]
  | «namespace» ns =>
    cases t' with
    | global => simp [invalidate, get]
    | «namespace» ns' => simp [invalidate, get, GoMap.lookup_erase_ite]

end PolicyCache

/-- `ETagCache`: the hash of what a client has last been given. -/
abbrev ETagCache := GoMap String String

/-! ### Archives -/

/-- An archive, until it expires. -/
structure BundleEntry where
  key : String
  data : Data
  etag : String
  expires : ℕ
  deriving DecidableEq

/-- The bundles by client, the one used last at the front. -/
structure BundleCache where
  maxEntries : ℕ
  ttl : ℕ
  entries : List BundleEntry
  nodup : (entries.map BundleEntry.key).Nodup

namespace BundleCache

def defaultBundleMaxEntries : ℕ := 100

/-- One minute, in nanoseconds. -/
def defaultBundleTTL : ℕ := 60 * 1000000000

/-- `NewBundleCache`. -/
def new (maxEntries ttl : ℤ) : BundleCache where
  maxEntries := if maxEntries ≤ 0 then defaultBundleMaxEntries else maxEntries.toNat
  ttl := if ttl ≤ 0 then defaultBundleTTL else ttl.toNat
  entries := []
  nodup := nodup_nil

/-- The entry with a key. -/
def lookup (c : BundleCache) (key : String) : Option BundleEntry :=
  c.entries.find? fun e => e.key = key

/-- `removeElement`. -/
def removeElement (c : BundleCache) (key : String) : BundleCache where
  maxEntries := c.maxEntries
  ttl := c.ttl
  entries := c.entries.filter fun e => e.key ≠ key
  nodup := c.nodup.sublist (filter_sublist.map _)

/-- `MoveToFront` or `PushFront`: the entry with a key, in front of all others. -/
def pushFront (c : BundleCache) (e : BundleEntry) : BundleCache where
  maxEntries := c.maxEntries
  ttl := c.ttl
  entries := e :: (c.removeElement e.key).entries
  nodup := by
    refine nodup_cons.mpr ⟨fun hmem => ?_, (c.removeElement e.key).nodup⟩
    obtain ⟨f, hf, hkey⟩ := mem_map.mp hmem
    exact absurd hkey (by simpa using (mem_filter.mp hf).2)

/-- The entry that was used longest ago goes. -/
def removeLRU (c : BundleCache) : BundleCache where
  maxEntries := c.maxEntries
  ttl := c.ttl
  entries := c.entries.dropLast
  nodup := c.nodup.sublist ((dropLast_sublist _).map _)

/-- `BundleCache.Get`: an expired entry is removed, any other becomes the most
recently used one. -/
def get (c : BundleCache) (now : ℕ) (key : String) : Option (Data × String) × BundleCache :=
  match c.lookup key with
  | none => (none, c)
  | some e =>
    if e.expires < now then (none, c.removeElement key)
    else (some (e.data, e.etag), c.pushFront e)

/-- `Set`: an entry is renewed and comes to the front; a new one may push out the last. -/
def set (c : BundleCache) (now : ℕ) (key : String) (data : Data) (etag : String) : BundleCache :=
  let e : BundleEntry := { key := key, data := data, etag := etag, expires := now + c.ttl }
  if (c.lookup key).isSome then c.pushFront e
  else if c.maxEntries < (c.pushFront e).entries.length then (c.pushFront e).removeLRU
  else c.pushFront e

/-- `InvalidateAll`. -/
def invalidateAll (c : BundleCache) : BundleCache where
  maxEntries := c.maxEntries
  ttl := c.ttl
  entries := []
  nodup := nodup_nil

variable {c : BundleCache} {key : String} {e : BundleEntry}

theorem key_of_lookup (h : c.lookup key = some e) : e.key = key := by
  simpa using find?_some h

theorem lookup_removeElement (c : BundleCache) (key k : String) :
    (c.removeElement key).lookup k = if k = key then none else c.lookup k := by
  rw [lookup, removeElement, find?_filter]
  by_cases hk : k = key
  · rw [if_pos hk, find?_eq_none]
    intro e _
    simp only [decide_eq_true_eq, ne_eq, not_and]
    intro hne heq
    exact hne (heq.trans hk)
  · rw [if_neg hk, lookup]
    congr 1
    funext e
    by_cases he : e.key = k
    · simp [he, hk]
    · simp [he]

theorem lookup_pushFront (c : BundleCache) (e : BundleEntry) (k : String) :
    (c.pushFront e).lookup k = if k = e.key then some e else c.lookup k := by
  have hcons : (c.pushFront e).lookup k =
      if e.key = k then some e else (c.removeElement e.key).lookup k := by
    rw [lookup, pushFront, find?_cons]
    by_cases he : e.key = k
    · simp [he]
    · simp [he, lookup]
  by_cases hk : k = e.key
  · rw [hcons, if_pos hk.symm, if_pos hk]
  · rw [hcons, if_neg (Ne.symm hk), if_neg hk, lookup_removeElement, if_neg hk]

variable {k : String} {now : ℕ} {data : Data} {etag : String}

theorem lookup_of_removeLRU (h : c.removeLRU.lookup k = some e) : c.lookup k = some e := by
  have h : c.entries.dropLast.find? (fun e => e.key = k) = some e := h
  by_cases hnil : c.entries = []
  · rw [hnil] at h
    cases h
  · rw [lookup, ← dropLast_append_getLast hnil, find?_append, h, Option.some_or]

theorem lookup_of_get_fst (h : (c.get now key).1 = some (data, etag)) :
    ∃ e, c.lookup key = some e ∧ e.data = data ∧ e.etag = etag := by
  rw [get] at h
  cases hl : c.lookup key with
  | none =>
    rw [hl] at h
    cases h
  | some e =>
    rw [hl] at h
    dsimp only at h
    split at h
    · cases h
    · cases h
      exact ⟨e, rfl, rfl, rfl⟩

theorem lookup_of_get (h : (c.get now key).2.lookup k = some e) : c.lookup k = some e := by
  rw [get] at h
  cases hl : c.lookup key with
  | none =>
    rw [hl] at h
    exact h
  | some f =>
    rw [hl] at h
    dsimp only at h
    split at h
    · rw [lookup_removeElement] at h
      split at h
      · cases h
      · exact h
    · rw [lookup_pushFront, key_of_lookup hl] at h
      split at h
      · cases h
        exact (‹k = key›) ▸ hl
      · exact h

/-- **Writing adds the entry that is written and nothing else.** -/
theorem lookup_of_set (h : (c.set now key data etag).lookup k = some e) :
    k = key ∧ e.data = data ∧ e.etag = etag ∨ c.lookup k = some e := by
  have hpush : ∀ {e' : BundleEntry}, e'.key = key → e'.data = data → e'.etag = etag →
      (c.pushFront e').lookup k = some e →
        k = key ∧ e.data = data ∧ e.etag = etag ∨ c.lookup k = some e := by
    intro e' hkey hdata hetag he
    rw [lookup_pushFront] at he
    split at he
    · cases he
      exact .inl ⟨(‹k = _›).trans hkey, hdata, hetag⟩
    · exact .inr he
  rw [set] at h
  split at h
  · exact hpush rfl rfl rfl h
  · split at h
    · exact hpush rfl rfl rfl (lookup_of_removeLRU h)
    · exact hpush rfl rfl rfl h

end BundleCache

/-! ### The caches together -/

/-- What a provider and a watcher share. -/
structure Caches where
  policy : PolicyCache := {}
  etag : ETagCache := ∅
  bundle : BundleCache

/-- The caches when the service starts. -/
def Caches.new (maxEntries ttl : ℤ) : Caches := { bundle := BundleCache.new maxEntries ttl }

/-- A call that empties one of the caches, or a part of it. -/
inductive CacheOp where
  | invalidateTier (t : Tier)
  | invalidateETags
  | invalidateETag (key : String)
  | invalidateBundles
  | invalidateBundle (key : String)
  deriving DecidableEq

/-- The caches after such a call. -/
def CacheOp.apply (c : Caches) : CacheOp → Caches
  | invalidateTier t => { c with policy := c.policy.invalidate t }
  | invalidateETags => { c with etag := ∅ }
  | invalidateETag key => { c with etag := c.etag.erase key }
  | invalidateBundles => { c with bundle := c.bundle.invalidateAll }
  | invalidateBundle key => { c with bundle := c.bundle.removeElement key }

namespace CacheOp

/-- The call empties the entry of a client in the ETag cache. -/
def ClearsETag (key : String) (op : CacheOp) : Prop :=
  op = invalidateETags ∨ op = invalidateETag key

/-- The call empties the entry of a client in the bundle cache. -/
def ClearsBundle (key : String) (op : CacheOp) : Prop :=
  op = invalidateBundles ∨ op = invalidateBundle key

instance (key : String) (op : CacheOp) : Decidable (op.ClearsETag key) :=
  inferInstanceAs (Decidable (_ ∨ _))

instance (key : String) (op : CacheOp) : Decidable (op.ClearsBundle key) :=
  inferInstanceAs (Decidable (_ ∨ _))

variable {c : Caches} {op : CacheOp}

theorem policy_of_apply {t : Tier} {d : PolicyData} (h : (op.apply c).policy.get t = some d) :
    op ≠ invalidateTier t ∧ c.policy.get t = some d := by
  cases op with
  | invalidateTier t' =>
    rw [apply, PolicyCache.get_invalidate] at h
    split at h
    · cases h
    · rename_i hne
      exact ⟨fun heq => hne (invalidateTier.inj heq).symm, h⟩
  | _ => exact ⟨by simp, h⟩

theorem etag_of_apply {k h' : String} (h : (op.apply c).etag.lookup k = some h') :
    ¬ op.ClearsETag k ∧ c.etag.lookup k = some h' := by
  cases op with
  | invalidateETags => cases h
  | invalidateETag key =>
    rw [apply, GoMap.lookup_erase_ite] at h
    split at h
    · cases h
    · rename_i hne
      exact ⟨by simpa [ClearsETag] using Ne.symm hne, h⟩
  | _ => exact ⟨by simp [ClearsETag], h⟩

theorem bundle_of_apply {k : String} {e : BundleEntry} (h : (op.apply c).bundle.lookup k = some e) :
    ¬ op.ClearsBundle k ∧ c.bundle.lookup k = some e := by
  cases op with
  | invalidateBundles => exact absurd h (by simp [apply, BundleCache.invalidateAll,
      BundleCache.lookup])
  | invalidateBundle key =>
    rw [apply, BundleCache.lookup_removeElement] at h
    split at h
    · cases h
    · rename_i hne
      exact ⟨by simpa [ClearsBundle] using Ne.symm hne, h⟩
  | _ => exact ⟨by simp [ClearsBundle], h⟩

/-! ### Calls still to be made

A handler first empties the cache of a tier, then ETags, then archives. What is
outdated in one of the caches is harmless as long as the calls that empty it, and
whatever is derived from it, are still to come. -/

/-- Among the calls to be made is that for a tier, and after it those for everything
made from it. -/
def WillClearTier (ops : List CacheOp) (t : Tier) : Prop :=
  [invalidateTier t, invalidateETags, invalidateBundles].Sublist ops

/-- Among the calls to be made is one for the ETag of a client, and after it one for
its archive. -/
def WillClearClient (ops : List CacheOp) (key : String) : Prop :=
  ∃ a b, ClearsETag key a ∧ ClearsBundle key b ∧ [a, b].Sublist ops

/-- Among the calls to be made is one for the archive of a client. -/
def WillClearBundle (ops : List CacheOp) (key : String) : Prop :=
  ∃ b ∈ ops, ClearsBundle key b

section WillClear

variable {ops ops' : List CacheOp} {t : Tier} {key : String}

theorem WillClearTier.client (h : WillClearTier ops t) : WillClearClient ops key :=
  ⟨invalidateETags, invalidateBundles, .inl rfl, .inl rfl, (sublist_cons_self _ _).trans h⟩

theorem WillClearClient.bundle (h : WillClearClient ops key) : WillClearBundle ops key := by
  obtain ⟨a, b, -, hb, hsub⟩ := h
  exact ⟨b, hsub.subset (by simp), hb⟩

theorem WillClearTier.mono (h : WillClearTier ops t) (hsub : ops.Sublist ops') :
    WillClearTier ops' t := h.trans hsub

theorem WillClearClient.mono (h : WillClearClient ops key) (hsub : ops.Sublist ops') :
    WillClearClient ops' key := by
  obtain ⟨a, b, ha, hb, hab⟩ := h
  exact ⟨a, b, ha, hb, hab.trans hsub⟩

theorem WillClearBundle.mono (h : WillClearBundle ops key) (hsub : ops.Sublist ops') :
    WillClearBundle ops' key := by
  obtain ⟨b, hmem, hb⟩ := h
  exact ⟨b, hsub.subset hmem, hb⟩

theorem WillClearTier.tail (h : WillClearTier (op :: ops) t) (hop : op ≠ invalidateTier t) :
    WillClearTier ops t := by
  rcases sublist_cons_iff.mp h with hsub | ⟨r, hr, -⟩
  · exact hsub
  · exact absurd (List.cons.inj hr).1.symm hop

theorem WillClearClient.tail (h : WillClearClient (op :: ops) key) (hop : ¬ op.ClearsETag key) :
    WillClearClient ops key := by
  obtain ⟨a, b, ha, hb, hab⟩ := h
  rcases sublist_cons_iff.mp hab with hsub | ⟨r, hr, -⟩
  · exact ⟨a, b, ha, hb, hsub⟩
  · exact absurd ((List.cons.inj hr).1 ▸ ha) hop

theorem WillClearBundle.tail (h : WillClearBundle (op :: ops) key) (hop : ¬ op.ClearsBundle key) :
    WillClearBundle ops key := by
  obtain ⟨b, hmem, hb⟩ := h
  rcases mem_cons.mp hmem with rfl | hmem
  · exact absurd hb hop
  · exact ⟨b, hmem, hb⟩

end WillClear

end CacheOp

end Rossoctl.Bundle
