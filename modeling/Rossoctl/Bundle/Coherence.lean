import Rossoctl.Run
import Rossoctl.Bundle.Provider

/-!
# Coherence of the caches, one request at a time

The bundle service without concurrency: events are handled as they come, and a
request is over before the next one starts (`Rossoctl.Bundle.Service.step`). The
question is whether the caches can be told from empty ones.

They stay fresh as long as every event is *covered*
(`Rossoctl.Bundle.Service.Covered`): what the handler empties for the object it is
given has to reach every place where the object has been or is used. There are two
ways it does not. The handlers of an update look at the new object alone, so a
policy that leaves a shared tier stays in the cache of that tier; and a global
policy outside the service namespace is skipped as unused, but is used by the client
that has its name. The other gap is between the ETag cache and the archive: an ETag
is kept for a bundle that could not be built.

Apart from these, every request in every run is answered as by a build with empty
caches: `Rossoctl.Bundle.exact_iff_of_covered`.
-/

namespace Rossoctl.Bundle

/-! ### What an event changes -/

namespace Watcher

variable {w : Watcher}

/-- The object with the key of `u` before an event is in no shared tier, or in that
of `u`. -/
def SameTier (w : Watcher) (s : Indexer) (u : AuthorizationPolicy) : Prop :=
  ∀ v, s.objects.lookup u.key = some v → w.sharedTier v = none ∨ w.sharedTier v = w.sharedTier u

theorem sameTier_of_scope {s : Indexer} {u : AuthorizationPolicy}
    (h : ∀ v, s.objects.lookup u.key = some v → v.effectiveScope = u.effectiveScope) :
    w.SameTier s u := by
  intro v hv
  have hns : v.ns = u.ns := AuthorizationPolicy.ns_eq_of_key_eq (s.key_eq _ v hv)
  right
  rw [sharedTier, sharedTier, h v hv, hns]

end Watcher

namespace Service

variable {sv : Service} {s s' : Indexer} {e : StoreEvent} {u : AuthorizationPolicy}

/-- **What an event changes in a tier**: nothing, or the handler empties the tier and
everything made from it. -/
theorem tierPolicies_apply (h : s.apply e = some (s', u)) (hold : sv.watcher.SameTier s u)
    (t : Tier) :
    sv.tierPolicies s' t = sv.tierPolicies s t ∨
      CacheOp.WillClearTier (sv.watcher.invalidate u) t := by
  by_cases ht : sv.watcher.sharedTier u = some t
  · right
    rw [Watcher.invalidate_of_sharedTier ht]
    exact List.Sublist.refl _
  · left
    have hbefore : ∀ v, s.objects.lookup u.key = some v → sv.watcher.sharedTier v ≠ some t := by
      intro v hv hvt
      rcases hold v hv with hnone | hsame
      · exact absurd (hnone.symm.trans hvt) (by simp)
      · exact ht (hsame.symm.trans hvt)
    rw [tierPolicies, tierPolicies, Watcher.inTier_apply h ht hbefore]

/-- **What an event changes for a client**: nothing, or the handler empties the
entries of the client. -/
theorem current_apply (h : s.apply e = some (s', u)) (hold : sv.watcher.SameTier s u)
    {id : ClientIdentity} (hforeign : sv.watcher.Foreign u → id.cacheKey ≠ u.key) :
    sv.current s' id = sv.current s id ∨
      CacheOp.WillClearClient (sv.watcher.invalidate u) id.cacheKey := by
  rcases tierPolicies_apply h hold .global with hg | hclear
  · rcases tierPolicies_apply h hold (.namespace id.ns) with hn | hclear
    · by_cases hid : id.cacheKey = u.key
      · -- The client's own object: its scope decides whether the client is noticed.
        right
        cases ht : sv.watcher.sharedTier u with
        | some t =>
          have hclear : CacheOp.WillClearTier (sv.watcher.invalidate u) t := by
            rw [Watcher.invalidate_of_sharedTier ht]
            exact List.Sublist.refl _
          exact hclear.client
        | none =>
          rw [Watcher.invalidate_of_not_foreign ht fun hu => hforeign hu hid, hid]
          exact ⟨_, _, .inr rfl, .inr rfl, List.Sublist.refl _⟩
      · left
        rw [current, current, hg, hn, getClientPolicies, getClientPolicies,
          Watcher.getPolicy_apply h hid]
    · exact .inr hclear.client
  · exact .inr hclear.client

theorem ETagNow.apply {key etag : String} (hnow : sv.ETagNow s key etag)
    (h : s.apply e = some (s', u)) (hold : sv.watcher.SameTier s u)
    (hforeign : sv.watcher.Foreign u → key ≠ u.key) :
    sv.ETagNow s' key etag ∨ CacheOp.WillClearClient (sv.watcher.invalidate u) key := by
  obtain ⟨id, rfl, hcur⟩ := hnow
  rcases current_apply h hold hforeign with heq | hclear
  · exact .inl ⟨id, rfl, by rwa [heq]⟩
  · exact .inr hclear

theorem BundleNow.apply {key : String} {data : Data} {etag : String}
    (hnow : sv.BundleNow s key data etag) (h : s.apply e = some (s', u))
    (hold : sv.watcher.SameTier s u) (hforeign : sv.watcher.Foreign u → key ≠ u.key) :
    sv.BundleNow s' key data etag ∨ CacheOp.WillClearClient (sv.watcher.invalidate u) key := by
  obtain ⟨id, rfl, hcur⟩ := hnow
  rcases current_apply h hold hforeign with heq | hclear
  · exact .inl ⟨id, rfl, by rwa [heq]⟩
  · exact .inr hclear

end Service

/-! ### Emptying several places -/

/-- The caches after several calls. -/
def Caches.invalidate (c : Caches) (ops : List CacheOp) : Caches :=
  ops.foldl (fun c op => op.apply c) c

/-- What is left after several calls was there before, and none of them empties it. -/
theorem Caches.of_invalidate {P : Caches → Prop} {Q : CacheOp → Prop}
    (hop : ∀ c op, P (CacheOp.apply c op) → Q op ∧ P c) {ops : List CacheOp} {c : Caches}
    (h : P (c.invalidate ops)) : (∀ op ∈ ops, Q op) ∧ P c := by
  induction ops generalizing c with
  | nil => exact ⟨fun _ hmem => absurd hmem List.not_mem_nil, h⟩
  | cons op ops ih =>
    obtain ⟨hrest, hc⟩ := ih h
    obtain ⟨hq, hc⟩ := hop c op hc
    exact ⟨List.forall_mem_cons.mpr ⟨hq, hrest⟩, hc⟩

namespace Caches.Fresh

variable {sv : Service} {s s' : Indexer} {e : StoreEvent} {u : AuthorizationPolicy} {c : Caches}

/-- **A covered event keeps the caches fresh**: what the handler leaves is not
affected. -/
theorem event (hc : c.Fresh sv s) (happ : s.apply e = some (s', u))
    (hforeign : sv.watcher.Foreign u → c.etag.lookup u.key = none ∧ c.bundle.lookup u.key = none)
    (hold : sv.watcher.SameTier s u) :
    (c.invalidate (sv.watcher.invalidate u)).Fresh sv s' where
  policy := by
    intro t d hd
    obtain ⟨hops, hd⟩ := Caches.of_invalidate (P := fun c => c.policy.get t = some d)
      (fun c op => CacheOp.policy_of_apply) hd
    rcases Service.tierPolicies_apply happ hold t with heq | hclear
    · rw [heq]
      exact hc.policy t d hd
    · exact absurd rfl (hops _ (hclear.subset List.mem_cons_self))
  etag := by
    intro k h hk
    obtain ⟨hops, hk⟩ := Caches.of_invalidate (P := fun c => c.etag.lookup k = some h)
      (fun c op => CacheOp.etag_of_apply) hk
    have hne : sv.watcher.Foreign u → k ≠ u.key := by
      rintro hu rfl
      exact absurd ((hforeign hu).1.symm.trans hk) (by simp)
    rcases (hc.etag k h hk).apply happ hold hne with hnow | ⟨a, b, ha, -, hab⟩
    · exact hnow
    · exact absurd ha (hops a (hab.subset List.mem_cons_self))
  bundle := by
    intro k e hk
    obtain ⟨hops, hk⟩ := Caches.of_invalidate (P := fun c => c.bundle.lookup k = some e)
      (fun c op => CacheOp.bundle_of_apply) hk
    have hne : sv.watcher.Foreign u → k ≠ u.key := by
      rintro hu rfl
      exact absurd ((hforeign hu).2.symm.trans hk) (by simp)
    rcases (hc.bundle k e hk).apply happ hold hne with hnow | hclear
    · exact hnow
    · obtain ⟨b, hmem, hb⟩ := hclear.bundle
      exact absurd hb (hops b hmem)

end Caches.Fresh

/-! ### Runs -/

/-- The service between two actions. -/
structure State where
  store : Indexer
  now : ℕ
  caches : Caches

/-- The service when it starts: the informer has not seen anything. -/
def State.init (maxEntries ttl : ℤ) : State where
  store := Indexer.empty
  now := 0
  caches := Caches.new maxEntries ttl

/-- What can happen: an event and its handling, a request with the ETag it presents,
or the passing of time. -/
inductive Action where
  | event (e : StoreEvent)
  | getBundle (id : ClientIdentity) (ifNoneMatch : String)
  | tick (d : ℕ)

namespace Service

variable (sv : Service)

/-- **One action of the service.** -/
def step (st : State) : Action → Option State
  | .event e => (st.store.apply e).map fun (s', u) =>
      { st with store := s', caches := st.caches.invalidate (sv.watcher.invalidate u) }
  | .getBundle id ifNoneMatch =>
    some { st with caches := (sv.getBundle st.store st.now st.caches id ifNoneMatch).2 }
  | .tick d => some { st with now := st.now + d }

/-- **Covered events**: the object before the event, if it is in a shared tier, is in
that of the object the handlers are given; and a global policy outside the service
namespace does not have the name of a client for which something is cached. -/
def Covered (st : State) : Action → Prop
  | .event e => ∀ s' u, st.store.apply e = some (s', u) →
      sv.watcher.SameTier st.store u ∧ (sv.watcher.Foreign u →
        st.caches.etag.lookup u.key = none ∧ st.caches.bundle.lookup u.key = none)
  | _ => True

variable {sv}

theorem fresh_step (st : State) (a : Action) (st' : State) (h : st.caches.Fresh sv st.store)
    (hok : sv.Covered st a) (hstep : sv.step st a = some st') :
    st'.caches.Fresh sv st'.store := by
  cases a with
  | event e =>
    obtain ⟨⟨s', u⟩, happ, rfl⟩ := Option.map_eq_some_iff.mp hstep
    obtain ⟨hold, hforeign⟩ := hok s' u happ
    exact h.event happ hforeign hold
  | getBundle id ifNoneMatch =>
    cases hstep
    exact h.getBundle st.now id ifNoneMatch
  | tick d =>
    cases hstep
    exact h

theorem fresh_run {maxEntries ttl : ℤ} {as : List Action} {st : State}
    (hok : Guarded sv.step sv.Covered (.init maxEntries ttl) as)
    (hrun : run sv.step (.init maxEntries ttl) as = some st) : st.caches.Fresh sv st.store :=
  run_invariant (I := fun st => st.caches.Fresh sv st.store) fresh_step
    (Caches.fresh_new sv _ maxEntries ttl) hok hrun

end Service

/-- **Coherence**: in every state that a run of covered events and any requests
reaches, a request gets exactly what a build with empty caches would give it – its
data and ETag, its error, or "not modified" for its ETag – unless the ETag it
presents is cached and the bundle it stands for cannot be built. -/
theorem exact_iff_of_covered (sv : Service) (maxEntries ttl : ℤ) (as : List Action) (st : State)
    (hok : Guarded sv.step sv.Covered (.init maxEntries ttl) as)
    (hrun : run sv.step (.init maxEntries ttl) as = some st) (id : ClientIdentity)
    (ifNoneMatch : String) :
    sv.Exact st.store st.now st.caches id ifNoneMatch ↔
      (ifNoneMatch ≠ "" → st.caches.etag.lookup id.cacheKey = some ifNoneMatch →
        ∃ policies r, sv.current st.store id = .ok policies ∧ sv.archiveOf policies = .ok r) := by
  rw [(Service.fresh_run hok hrun).exact_iff, Service.notModified_iff, and_imp]

/-! ### A service with uncompressed archives -/

/-- Archives and hashes that are just their contents. -/
def plainTools : Tooling where
  sortByPath l := l.insertionSort fun p q => p.path ≤ q.path
  sortByPath_perm l := List.perm_insertionSort _ l
  sortByPath_pairwise l := by
    have : Std.Total fun p q : Policy => p.path ≤ q.path := ⟨fun p q => String.le_total _ _⟩
    have : IsTrans Policy fun p q => p.path ≤ q.path := ⟨fun _ _ _ => String.le_trans⟩
    exact (List.pairwise_insertionSort _ l).imp String.not_lt.mpr
  sha256 bytes := String.ofList (bytes.map fun b => Char.ofNat b.toNat)
  writeHeader _ := none
  write _ := none
  emitted _ := []
  archive l m := l.flatMap Tooling.preimage ++ m.toUTF8.data.toList

/-- Keys in the order of strings. -/
def plainOrder : KeyOrder String where
  le a b := a ≤ b
  total a b := by simpa using String.le_total a b
  trans a b c := by simpa using String.le_trans
  antisymm a b := by simpa using String.le_antisymm

def plainService : Service where
  watcher := { serviceNamespace := "system", order := plainOrder }
  tools := plainTools

def agentId : ClientIdentity := ⟨"team", "agent", by decide⟩

/-- A policy in the namespace of the agent. -/
def teamPolicy (name : String) (scope : PolicyScope) (path content : String) :
    AuthorizationPolicy where
  ns := "team"
  name := name
  scope := some scope
  policies := .ok [⟨path, content⟩]
  ns_noSlash := by decide

/-- A namespace policy is created and replaced, with a request before and after. -/
def replacedRun : List Action :=
  [.event (.create (teamPolicy "shared" .namespace "a.rego" "old")), .getBundle agentId "",
    .event (.update (teamPolicy "shared" .namespace "a.rego" "new"))]

theorem covered_replacedRun :
    Guarded plainService.step plainService.Covered (.init 0 0) replacedRun := by
  refine guarded_cons.mpr ⟨fun s' u h => ?_, fun st hst => ?_⟩
  · cases h
    exact ⟨fun v hv => absurd hv (by simp [State.init, Indexer.empty]),
      fun hu => absurd hu (by decide)⟩
  cases hst
  refine guarded_cons.mpr ⟨trivial, fun st hst => ?_⟩
  cases hst
  refine guarded_cons.mpr ⟨fun s' u h => ?_, fun _ _ => trivial⟩
  cases h
  refine ⟨fun v hv => ?_, fun hu => absurd hu (by decide)⟩
  cases hv
  exact .inr rfl

theorem exact_replacedRun : ∃ st, run plainService.step (.init 0 0) replacedRun = some st ∧
    plainService.Exact st.store st.now st.caches agentId "" := by
  obtain ⟨st, hst⟩ := Option.isSome_iff_exists.mp
    (by decide +kernel : (run plainService.step (.init 0 0) replacedRun).isSome = true)
  exact ⟨st, hst, (exact_iff_of_covered plainService 0 0 replacedRun st covered_replacedRun hst
    agentId "").mpr fun h => absurd rfl h⟩

/-- A request of the agent after some actions, answered inexactly. -/
def Inexact (as : List Action) (ifNoneMatch : String) : Bool :=
  (run plainService.step (.init 0 0) as).any fun st =>
    ¬ plainService.Exact st.store st.now st.caches agentId ifNoneMatch

/-- **Three ways to an outdated answer**: a policy leaves the namespace tier by a
change of its scope; a global policy outside the service namespace has the name of a
client; and the ETag of a bundle that cannot be built is answered with "not
modified". -/
theorem inexact_answers : Inexact [.event (.create (teamPolicy "shared" .namespace "a.rego" "old")),
      .getBundle agentId "",
      .event (.update (teamPolicy "shared" .client "a.rego" "old"))] "" = true ∧
    Inexact [.event (.create (teamPolicy "agent" .global "a.rego" "old")), .getBundle agentId "",
      .event (.update (teamPolicy "agent" .global "a.rego" "new"))] "" = true ∧
    Inexact [.event (.create (teamPolicy "agent" .client "a..b.rego" "x")), .getBundle agentId ""]
      "sha256:authbridge/client/a..b.rego\x00x\x00" = true := by
  decide +kernel

end Rossoctl.Bundle
