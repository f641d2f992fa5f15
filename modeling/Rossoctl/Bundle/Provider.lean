import Rossoctl.Bundle.Caches

/-!
# Serving a bundle

`internal/bundleservice/provider`: a request is answered from the ETag cache or the
bundle cache if it can be (`Rossoctl.Bundle.Service.getBundle`), and by a build
otherwise (`Rossoctl.Bundle.Service.buildBundle`), which fills all three caches on
its way – the ETag cache before the archive is made, so also when none can be made.
The other side is `Rossoctl.Bundle.Watcher.invalidate`, what the handler of an
informer event empties.

What a build would give now is the build with empty caches,
`Rossoctl.Bundle.Service.fresh`. The caches are *fresh*
(`Rossoctl.Bundle.Caches.Fresh`) when each entry is what such a build would put
there. Two things are settled about fresh caches here, for every store: a request
keeps them fresh (`Rossoctl.Bundle.Caches.Fresh.getBundle`), and it is answered as
by a fresh build, with one exception, the ETag of a bundle that cannot be built
(`Rossoctl.Bundle.Caches.Fresh.exact_iff`).
-/

namespace Rossoctl.Bundle

/-! ### What a handler empties -/

namespace Watcher

variable (w : Watcher)

/-- **`Watcher.invalidate`**: the calls that the handler of an event makes for the
object it is given. -/
def invalidate (u : AuthorizationPolicy) : List CacheOp :=
  match u.effectiveScope with
  | .global =>
    if u.ns ≠ w.serviceNamespace then []
    else [.invalidateTier .global, .invalidateETags, .invalidateBundles]
  | .namespace => [.invalidateTier (.namespace u.ns), .invalidateETags, .invalidateBundles]
  | .client => [.invalidateETag u.key, .invalidateBundle u.key]

/-- A global policy outside the service namespace. -/
def Foreign (u : AuthorizationPolicy) : Prop :=
  u.effectiveScope = .global ∧ u.ns ≠ w.serviceNamespace

instance (u : AuthorizationPolicy) : Decidable (w.Foreign u) :=
  inferInstanceAs (Decidable (_ ∧ _))

variable {w} {u : AuthorizationPolicy}

theorem invalidate_of_sharedTier {t : Tier} (h : w.sharedTier u = some t) :
    w.invalidate u = [.invalidateTier t, .invalidateETags, .invalidateBundles] := by
  rw [sharedTier] at h
  rw [invalidate]
  cases hs : u.effectiveScope with
  | global =>
    rw [hs] at h
    dsimp only at h
    split at h
    · rename_i hns
      cases h
      exact if_neg (not_not_intro hns)
    · cases h
  | «namespace» =>
    rw [hs] at h
    cases h
    rfl
  | client =>
    rw [hs] at h
    cases h

theorem invalidate_of_not_foreign (h : w.sharedTier u = none) (hu : ¬ w.Foreign u) :
    w.invalidate u = [.invalidateETag u.key, .invalidateBundle u.key] := by
  rw [sharedTier] at h
  rw [invalidate]
  cases hs : u.effectiveScope with
  | global =>
    rw [hs] at h
    dsimp only at h
    split at h
    · cases h
    · exact absurd ⟨hs, ‹_›⟩ hu
  | «namespace» =>
    rw [hs] at h
    cases h
  | client => rfl

theorem invalidate_of_foreign (hu : w.Foreign u) : w.invalidate u = [] := by
  rw [invalidate, hu.1]
  exact if_pos hu.2

end Watcher

/-! ### Gathering the policies of a client -/

/-- The limit on the size of a bundle. -/
def maxBundleSize : ℕ := 5 * 1024 * 1024

/-- The ways a bundle cannot be served. -/
inductive BundleError where
  /-- The client's object cannot be converted. -/
  | conversion (err : String)
  /-- `Build` has failed. -/
  | build (err : String)
  /-- `ErrBundleTooLarge`. -/
  | tooLarge
  /-- The context of the request that leads the build has ended. -/
  | cancelled
  deriving DecidableEq

/-- What the provider works with: the watcher and the means to make an archive. -/
structure Service where
  watcher : Watcher
  tools : Tooling

/-- The policies of one tier, in its directory of the archive. -/
def inDirectory (dir : String) (ps : List PolicyEntry) : List Policy :=
  ps.map fun e => { path := dir ++ e.path, content := e.content }

/-- The policies of the three tiers together. -/
def allPolicies (globalPolicies nsPolicies clientPolicies : List PolicyEntry) : List Policy :=
  inDirectory "authbridge/global/" globalPolicies ++ inDirectory "authbridge/ns/" nsPolicies ++
    inDirectory "authbridge/client/" clientPolicies

namespace Service

variable (sv : Service)

/-- `hashPolicyEntries`. -/
def hashPolicyEntries (entries : List PolicyEntry) : String :=
  sv.tools.contentHash (inDirectory "" entries)

/-- What the policy cache is given for some policies. -/
def policyData (policies : List PolicyEntry) : PolicyData where
  policies := policies
  hash := sv.hashPolicyEntries policies

/-- What the store has for a shared tier. -/
def tierPolicies (s : Indexer) (t : Tier) : List PolicyEntry :=
  extractPolicies (sv.watcher.inTier s t)

/-- The policies of a shared tier, from the cache or from the store. -/
def getTier (s : Indexer) (c : PolicyCache) (t : Tier) : List PolicyEntry × PolicyCache :=
  match c.get t with
  | some d => (d.policies, c)
  | none => (sv.tierPolicies s t, c.set (sv.policyData (sv.tierPolicies s t)) t)

/-- `getGlobalPolicies`, through the cache. -/
def getGlobalPolicies (s : Indexer) (c : PolicyCache) : List PolicyEntry × PolicyCache :=
  sv.getTier s c .global

/-- `getNamespacePolicies`, through the cache. -/
def getNamespacePolicies (s : Indexer) (c : PolicyCache) (ns : String) :
    List PolicyEntry × PolicyCache :=
  sv.getTier s c (.namespace ns)

/-- `getClientPolicies`: the object of the client, which is not cached. -/
def getClientPolicies (s : Indexer) (id : ClientIdentity) : Except BundleError (List PolicyEntry) :=
  match Watcher.getPolicy s id.name id.ns with
  | none => .ok []
  | some u =>
    match u.policies with
    | .error err => .error (.conversion err)
    | .ok ps => .ok ps

/-! ### Building and serving -/

/-- The end of `buildBundle`: the archive, if it is not too large, under the content
hash of its policies. -/
def archiveOf (policies : List Policy) : Except BundleError (Data × String) :=
  match sv.tools.build policies with
  | .error err => .error (.build err)
  | .ok (data, _) =>
    if maxBundleSize < data.length then .error .tooLarge
    else .ok (data, sv.tools.contentHash policies)

/-- **`Provider.buildBundle`**: its result, and the caches after it. -/
def buildBundle (s : Indexer) (now : ℕ) (c : Caches) (id : ClientIdentity) :
    Except BundleError (Data × String) × Caches :=
  let g := sv.getGlobalPolicies s c.policy
  let n := sv.getNamespacePolicies s g.2 id.ns
  let c := { c with policy := n.2 }
  match getClientPolicies s id with
  | .error err => (.error err, c)
  | .ok clientPolicies =>
    let policies := allPolicies g.1 n.1 clientPolicies
    let c := { c with etag := c.etag.insert id.cacheKey (sv.tools.contentHash policies) }
    match sv.archiveOf policies with
    | .error err => (.error err, c)
    | .ok (data, hash) =>
      (.ok (data, hash), { c with bundle := c.bundle.set now id.cacheKey data hash })

/-- The ETag cache has the ETag that the request presents. -/
def notModified (c : Caches) (id : ClientIdentity) (ifNoneMatch : String) : Bool :=
  (c.etag.lookup id.cacheKey).any fun cachedHash => ifNoneMatch ≠ "" ∧ ifNoneMatch = cachedHash

variable {id : ClientIdentity} {s : Indexer} {etag : String}

theorem notModified_iff {c : Caches} {ifNoneMatch : String} : notModified c id ifNoneMatch = true ↔
      ifNoneMatch ≠ "" ∧ c.etag.lookup id.cacheKey = some ifNoneMatch := by
  rw [notModified]
  cases c.etag.lookup id.cacheKey with
  | none => simp
  | some h =>
    rw [Option.any_some, decide_eq_true_eq, Option.some.injEq]
    exact and_congr_right fun _ => eq_comm

/-- **`Provider.GetBundle`**, for a request that is alone: its result – without data
if the client has the bundle already –, and the caches after it. -/
def getBundle (s : Indexer) (now : ℕ) (c : Caches) (id : ClientIdentity) (ifNoneMatch : String) :
    Except BundleError (Option Data × String) × Caches :=
  if notModified c id ifNoneMatch then (.ok (none, ifNoneMatch), c)
  else
    let b := c.bundle.get now id.cacheKey
    match b.1 with
    | some (data, etag) =>
      (.ok (some data, etag),
        { c with bundle := b.2, etag := c.etag.insert id.cacheKey etag })
    | none =>
      let r := sv.buildBundle s now { c with bundle := b.2 } id
      (r.1.map fun (data, hash) => (some data, hash), r.2)

/-! ### What a build would give now -/

/-- What a build with empty caches gives. -/
def fresh (s : Indexer) (id : ClientIdentity) : Except BundleError (Data × String) :=
  (sv.buildBundle s 0 (Caches.new 0 0) id).1

/-- The policies that the store has for a client. -/
def current (s : Indexer) (id : ClientIdentity) : Except BundleError (List Policy) :=
  (getClientPolicies s id).map
    (allPolicies (sv.tierPolicies s .global) (sv.tierPolicies s (.namespace id.ns)))

theorem current_of_error {err : BundleError} (h : getClientPolicies s id = .error err) :
    sv.current s id = .error err := by
  rw [current, h]
  rfl

theorem current_of_ok {ps : List PolicyEntry} (h : getClientPolicies s id = .ok ps) :
    sv.current s id = .ok
      (allPolicies (sv.tierPolicies s .global) (sv.tierPolicies s (.namespace id.ns)) ps) := by
  rw [current, h]
  rfl

/-- The ETag that a build puts into the cache for the client with a key. -/
def ETagNow (s : Indexer) (key etag : String) : Prop :=
  ∃ id : ClientIdentity, id.cacheKey = key ∧
    ∃ policies, sv.current s id = .ok policies ∧ etag = sv.tools.contentHash policies

/-- The archive that a build puts into the cache for the client with a key, and its
ETag. -/
def BundleNow (s : Indexer) (key : String) (data : Data) (etag : String) : Prop :=
  ∃ id : ClientIdentity, id.cacheKey = key ∧
    ∃ policies, sv.current s id = .ok policies ∧ sv.archiveOf policies = .ok (data, etag)

theorem snd_of_archiveOf {policies : List Policy} {r : Data × String}
    (h : sv.archiveOf policies = .ok r) : r.2 = sv.tools.contentHash policies := by
  rw [archiveOf] at h
  split at h
  · cases h
  · split at h
    · cases h
    · cases h
      rfl

variable {sv}

theorem ETagNow.of_id (h : sv.ETagNow s id.cacheKey etag) :
    ∃ policies, sv.current s id = .ok policies ∧ etag = sv.tools.contentHash policies := by
  obtain ⟨id', hid, hcur⟩ := h
  obtain rfl := ClientIdentity.cacheKey_inj hid
  exact hcur

theorem BundleNow.of_id {data : Data} (h : sv.BundleNow s id.cacheKey data etag) :
    ∃ policies, sv.current s id = .ok policies ∧ sv.archiveOf policies = .ok (data, etag) := by
  obtain ⟨id', hid, hcur⟩ := h
  obtain rfl := ClientIdentity.cacheKey_inj hid
  exact hcur

theorem BundleNow.etagNow {key : String} {data : Data} (h : sv.BundleNow s key data etag) :
    sv.ETagNow s key etag := by
  obtain ⟨id, hid, policies, hcur, harch⟩ := h
  exact ⟨id, hid, policies, hcur, snd_of_archiveOf sv harch⟩

end Service

/-- **Fresh caches**: every entry is what a build from the store would put there now,
for the policy cache that of its tier, for the other two that of the client whose
key it has. -/
structure Caches.Fresh (sv : Service) (s : Indexer) (c : Caches) : Prop where
  policy : ∀ t d, c.policy.get t = some d → d = sv.policyData (sv.tierPolicies s t)
  etag : ∀ k h, c.etag.lookup k = some h → sv.ETagNow s k h
  bundle : ∀ k e, c.bundle.lookup k = some e → sv.BundleNow s k e.data e.etag

theorem Caches.fresh_new (sv : Service) (s : Indexer) (maxEntries ttl : ℤ) :
    (Caches.new maxEntries ttl).Fresh sv s where
  policy := by
    intro t d h
    cases t <;> cases h
  etag := fun k h hk => absurd hk (by simp [Caches.new])
  bundle := fun k e hk => absurd hk (by simp [Caches.new, BundleCache.new, BundleCache.lookup])

namespace Caches.Fresh

variable {sv : Service} {s : Indexer} {c : Caches}

theorem setETag (hc : c.Fresh sv s) {key etag : String} (h : sv.ETagNow s key etag) :
    { c with etag := c.etag.insert key etag }.Fresh sv s where
  policy := hc.policy
  etag := by
    intro k h' hk
    rw [GoMap.lookup_insert_ite] at hk
    split at hk
    · cases hk
      rwa [‹k = key›]
    · exact hc.etag k h' hk
  bundle := hc.bundle

theorem setBundle (hc : c.Fresh sv s) {key : String} {data : Data} {etag : String}
    (h : sv.BundleNow s key data etag) (now : ℕ) :
    { c with bundle := c.bundle.set now key data etag }.Fresh sv s where
  policy := hc.policy
  etag := hc.etag
  bundle := by
    intro k e hk
    rcases BundleCache.lookup_of_set hk with ⟨rfl, rfl, rfl⟩ | hold
    · exact h
    · exact hc.bundle k e hold

theorem getTier (hc : c.Fresh sv s) (t : Tier) : (sv.getTier s c.policy t).1 = sv.tierPolicies s t ∧
      { c with policy := (sv.getTier s c.policy t).2 }.Fresh sv s := by
  rw [Service.getTier]
  cases ht : c.policy.get t with
  | some d =>
    obtain rfl := hc.policy t d ht
    exact ⟨rfl, hc⟩
  | none =>
    refine ⟨rfl, ?_, hc.etag, hc.bundle⟩
    intro t' d' hd'
    rw [PolicyCache.get_set] at hd'
    split at hd'
    · cases hd'
      rw [‹t' = t›]
    · exact hc.policy t' d' hd'

end Caches.Fresh

namespace Service

variable {sv : Service}

/-- **A build with fresh caches** gives what the store has, and leaves the caches
fresh. -/
theorem buildBundle_of_fresh {s : Indexer} {c : Caches} (hc : c.Fresh sv s) (now : ℕ)
    (id : ClientIdentity) :
    (sv.buildBundle s now c id).1 = (sv.current s id).bind sv.archiveOf ∧
      (sv.buildBundle s now c id).2.Fresh sv s := by
  obtain ⟨hg, hfg⟩ := hc.getTier .global
  obtain ⟨hn, hfn⟩ := hfg.getTier (.namespace id.ns)
  rw [buildBundle, getGlobalPolicies, getNamespacePolicies, hg, hn]
  cases hcl : getClientPolicies s id with
  | error err =>
    rw [current_of_error sv hcl]
    exact ⟨rfl, hfn⟩
  | ok ps =>
    have hcur := current_of_ok sv hcl
    have hfe := hfn.setETag ⟨id, rfl, _, hcur, rfl⟩
    rw [hcur, Except.bind]
    dsimp only
    cases harch : sv.archiveOf
        (allPolicies (sv.tierPolicies s .global) (sv.tierPolicies s (.namespace id.ns)) ps) with
    | error err => exact ⟨rfl, hfe⟩
    | ok r => exact ⟨rfl, hfe.setBundle ⟨id, rfl, _, hcur, harch⟩ now⟩

theorem fresh_eq (s : Indexer) (id : ClientIdentity) :
    sv.fresh s id = (sv.current s id).bind sv.archiveOf :=
  (buildBundle_of_fresh (Caches.fresh_new sv s 0 0) 0 id).1

/-- **An exact answer**: the data and the ETag of a fresh build, or its error; and
"not modified" only if the ETag presented is that of a fresh build. -/
def Answers (fresh : Except BundleError (Data × String)) (ifNoneMatch : String) :
    Except BundleError (Option Data × String) → Prop
  | .ok (some data, etag) => fresh = .ok (data, etag)
  | .ok (none, etag) => etag = ifNoneMatch ∧ fresh.map Prod.snd = .ok ifNoneMatch
  | .error err => fresh = .error err

instance (fresh : Except BundleError (Data × String)) (ifNoneMatch : String) :
    ∀ r, Decidable (Answers fresh ifNoneMatch r)
  | .ok (some _, _) => inferInstanceAs (Decidable (_ = _))
  | .ok (none, _) => inferInstanceAs (Decidable (_ ∧ _))
  | .error _ => inferInstanceAs (Decidable (_ = _))

/-- A request is answered exactly. -/
def Exact (sv : Service) (s : Indexer) (now : ℕ) (c : Caches) (id : ClientIdentity)
    (ifNoneMatch : String) : Prop :=
  Answers (sv.fresh s id) ifNoneMatch (sv.getBundle s now c id ifNoneMatch).1

instance (sv : Service) (s : Indexer) (now : ℕ) (c : Caches) (id : ClientIdentity)
    (ifNoneMatch : String) : Decidable (sv.Exact s now c id ifNoneMatch) :=
  inferInstanceAs (Decidable (Answers _ _ _))

end Service

namespace Caches.Fresh

variable {sv : Service} {s : Indexer} {c : Caches}

/-- **A request keeps the caches fresh.** -/
theorem getBundle (hc : c.Fresh sv s) (now : ℕ) (id : ClientIdentity) (ifNoneMatch : String) :
    (sv.getBundle s now c id ifNoneMatch).2.Fresh sv s := by
  have hread : { c with bundle := (c.bundle.get now id.cacheKey).2 }.Fresh sv s :=
    ⟨hc.policy, hc.etag, fun k e hk => hc.bundle k e (BundleCache.lookup_of_get hk)⟩
  rw [Service.getBundle]
  split
  · exact hc
  · dsimp only
    split
    · rename_i data etag hget
      obtain ⟨e, he, rfl, rfl⟩ := BundleCache.lookup_of_get_fst hget
      exact hread.setETag (hc.bundle _ e he).etagNow
    · exact (Service.buildBundle_of_fresh hread now id).2

/-- A request that is not answered from the ETag cache is answered as by a fresh build. -/
theorem getBundle_fst (hc : c.Fresh sv s) (now : ℕ) {id : ClientIdentity} {ifNoneMatch : String}
    (hmod : ¬ Service.notModified c id ifNoneMatch = true) :
    (sv.getBundle s now c id ifNoneMatch).1 =
      (sv.fresh s id).map fun (data, hash) => (some data, hash) := by
  have hread : { c with bundle := (c.bundle.get now id.cacheKey).2 }.Fresh sv s :=
    ⟨hc.policy, hc.etag, fun k e hk => hc.bundle k e (BundleCache.lookup_of_get hk)⟩
  rw [Service.getBundle, if_neg hmod]
  dsimp only
  cases hget : (c.bundle.get now id.cacheKey).1 with
  | some r =>
    obtain ⟨e, he, hdata, hetag⟩ := BundleCache.lookup_of_get_fst hget
    obtain ⟨policies, hcur, harch⟩ := (hc.bundle _ e he).of_id
    rw [hdata, hetag] at harch
    rw [Service.fresh_eq, hcur, Except.bind, harch]
    rfl
  | none =>
    rw [(Service.buildBundle_of_fresh hread now id).1, ← Service.fresh_eq]

/-- **Fresh caches answer exactly**, unless the client presents the cached ETag of a
bundle that cannot be built. -/
theorem exact_iff (hc : c.Fresh sv s) (now : ℕ) (id : ClientIdentity) (ifNoneMatch : String) :
    sv.Exact s now c id ifNoneMatch ↔ (Service.notModified c id ifNoneMatch = true →
        ∃ policies r, sv.current s id = .ok policies ∧ sv.archiveOf policies = .ok r) := by
  by_cases hmod : Service.notModified c id ifNoneMatch = true
  · obtain ⟨policies, hcur, hhash⟩ := (hc.etag _ _ (Service.notModified_iff.mp hmod).2).of_id
    rw [Service.Exact, Service.getBundle, if_pos hmod, Service.fresh_eq, hcur, Except.bind]
    constructor
    · rintro ⟨-, hfresh⟩ -
      cases harch : sv.archiveOf policies with
      | error err =>
        rw [harch] at hfresh
        cases hfresh
      | ok r => exact ⟨policies, r, rfl, harch⟩
    · intro h
      obtain ⟨policies', r, hcur', harch⟩ := h hmod
      cases hcur'
      refine ⟨rfl, ?_⟩
      rw [harch, Except.map, Service.snd_of_archiveOf sv harch, hhash]
  · refine iff_of_true ?_ fun h => absurd h hmod
    rw [Service.Exact, hc.getBundle_fst now hmod]
    cases sv.fresh s id <;> rfl

end Caches.Fresh

end Rossoctl.Bundle
