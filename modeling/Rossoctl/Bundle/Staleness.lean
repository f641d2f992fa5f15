import Rossoctl.Bundle.Machine

/-!
# No stale content after an invalidation

Builds and handlers share no lock and no version, so content that a build has read
before an event can reach a cache after the handler has emptied it, and stay there.
What keeps it out is a condition on when things happen
(`Rossoctl.Bundle.Service.Undisturbed`): when the handler makes a call, no call in
flight that is concerned carries outdated content; and no archive is looked up
between the handler's call for the ETag and the one for the archive.

Under it, everything outdated – in a cache, or carried by a call – is always such
that the calls that will empty the places it can reach are still to come
(`Rossoctl.Bundle.Caches.Tracked`, `Rossoctl.Bundle.Call.Held`). Once the handler
has nothing left to do, nothing is outdated: `Rossoctl.Bundle.fresh_of_quiescent`.
-/

namespace Rossoctl.Bundle

open CacheOp List Option Service

/-! ### Outdated, but about to be emptied -/

/-- **Tracked caches**: every entry is what a build would put there now, or will be
emptied. -/
structure Caches.Tracked (sv : Service) (s : Indexer) (ops : List CacheOp) (c : Caches) : Prop where
  policy : ∀ t d, c.policy.get t = some d →
    d = sv.policyData (sv.tierPolicies s t) ∨ WillClearTier ops t
  etag : ∀ k h, c.etag.lookup k = some h → sv.ETagNow s k h ∨ WillClearClient ops k
  bundle : ∀ k e, c.bundle.lookup k = some e →
    sv.BundleNow s k e.data e.etag ∨ WillClearBundle ops k

namespace Caches.Tracked

variable {sv : Service} {s : Indexer} {ops : List CacheOp} {c : Caches}

theorem of_fresh (h : c.Fresh sv s) : c.Tracked sv s ops where
  policy := fun t d hd => .inl (h.policy t d hd)
  etag := fun k e he => .inl (h.etag k e he)
  bundle := fun k e he => .inl (h.bundle k e he)

theorem fresh (h : c.Tracked sv s []) : c.Fresh sv s where
  policy := by
    intro t d hd
    refine (h.policy t d hd).resolve_right fun hclear => ?_
    exact absurd (sublist_nil.mp hclear) (by simp)
  etag := by
    intro k e he
    refine (h.etag k e he).resolve_right fun hclear => ?_
    obtain ⟨b, hmem, -⟩ := hclear.bundle
    exact absurd hmem not_mem_nil
  bundle := by
    intro k e he
    refine (h.bundle k e he).resolve_right fun hclear => ?_
    obtain ⟨b, hmem, -⟩ := hclear
    exact absurd hmem not_mem_nil

theorem setPolicy (h : c.Tracked sv s ops) {t : Tier} {ps : List PolicyEntry}
    (hps : ps = sv.tierPolicies s t ∨ WillClearTier ops t) :
    { c with policy := c.policy.set (sv.policyData ps) t }.Tracked sv s ops where
  policy := by
    intro t' d hd
    rw [PolicyCache.get_set] at hd
    split at hd
    · cases hd
      rw [‹t' = t›]
      exact hps.imp_left fun heq => by rw [heq]
    · exact h.policy t' d hd
  etag := h.etag
  bundle := h.bundle

variable {key : String} {u : AuthorizationPolicy}

theorem setETag (h : c.Tracked sv s ops) {etag : String}
    (hnow : sv.ETagNow s key etag ∨ WillClearClient ops key) :
    { c with etag := c.etag.insert key etag }.Tracked sv s ops where
  policy := h.policy
  etag := by
    intro k e he
    rw [GoMap.lookup_insert_ite] at he
    split at he
    · cases he
      rwa [‹k = key›]
    · exact h.etag k e he
  bundle := h.bundle

theorem setBundle (h : c.Tracked sv s ops) {data : Data} {etag : String}
    (hnow : sv.BundleNow s key data etag ∨ WillClearBundle ops key) (now : ℕ) :
    { c with bundle := c.bundle.set now key data etag }.Tracked sv s ops where
  policy := h.policy
  etag := h.etag
  bundle := by
    intro k e he
    rcases BundleCache.lookup_of_set he with ⟨rfl, rfl, rfl⟩ | hold
    · exact hnow
    · exact h.bundle k e hold

theorem getBundle (h : c.Tracked sv s ops) (now : ℕ) (key : String) :
    { c with bundle := (c.bundle.get now key).2 }.Tracked sv s ops :=
  ⟨h.policy, h.etag, fun k e he => h.bundle k e (BundleCache.lookup_of_get he)⟩

theorem invalidate {op : CacheOp} (h : c.Tracked sv s (op :: ops)) :
    (op.apply c).Tracked sv s ops where
  policy := by
    intro t d hd
    obtain ⟨hop, hd⟩ := policy_of_apply hd
    exact (h.policy t d hd).imp_right fun hclear => hclear.tail hop
  etag := by
    intro k e he
    obtain ⟨hop, he⟩ := etag_of_apply he
    exact (h.etag k e he).imp_right fun hclear => hclear.tail hop
  bundle := by
    intro k e he
    obtain ⟨hop, he⟩ := bundle_of_apply he
    exact (h.bundle k e he).imp_right fun hclear => hclear.tail hop

end Caches.Tracked

/-! ### What an event does to content -/

section Change

variable {sv : Service} {s s' : Indexer} {e : StoreEvent} {u : AuthorizationPolicy}
  {ops : List CacheOp} (happ : s.apply e = some (s', u)) (hold : sv.watcher.SameTier s u)

include happ hold

variable {t : Tier} {ps : List PolicyEntry} {etag : String}

theorem tier_change (h : ps = sv.tierPolicies s t ∨ WillClearTier ops t) :
    ps = sv.tierPolicies s' t ∨ WillClearTier (ops ++ sv.watcher.invalidate u) t := by
  rcases h with rfl | hclear
  · rcases tierPolicies_apply happ hold t with heq | hclear
    · exact .inl heq.symm
    · exact .inr (hclear.mono (sublist_append_right _ _))
  · exact .inr (hclear.mono (sublist_append_left _ _))

/-- Policies of a tier, current or to be emptied with what a client gets of them. -/
theorem part_change (h : ps = sv.tierPolicies s t ∨ WillClearClient ops key) :
    ps = sv.tierPolicies s' t ∨ WillClearClient (ops ++ sv.watcher.invalidate u) key := by
  rcases h with rfl | hclear
  · rcases tierPolicies_apply happ hold t with heq | hclear
    · exact .inl heq.symm
    · exact .inr (hclear.client.mono (sublist_append_right _ _))
  · exact .inr (hclear.mono (sublist_append_left _ _))

theorem etag_change (hforeign : sv.watcher.Foreign u → key ≠ u.key)
    (h : sv.ETagNow s key etag ∨ WillClearClient ops key) :
    sv.ETagNow s' key etag ∨ WillClearClient (ops ++ sv.watcher.invalidate u) key := by
  rcases h with hnow | hclear
  · exact (hnow.apply happ hold hforeign).imp_right
      fun hclear => hclear.mono (sublist_append_right _ _)
  · exact .inr (hclear.mono (sublist_append_left _ _))

theorem bundle_change {data : Data} (hforeign : sv.watcher.Foreign u → key ≠ u.key)
    (h : sv.BundleNow s key data etag ∨ WillClearBundle ops key) :
    sv.BundleNow s' key data etag ∨ WillClearBundle (ops ++ sv.watcher.invalidate u) key := by
  rcases h with hnow | hclear
  · exact (hnow.apply happ hold hforeign).imp_right
      fun hclear => hclear.bundle.mono (sublist_append_right _ _)
  · exact .inr (hclear.mono (sublist_append_left _ _))

/-- **An event keeps the caches tracked**, if a global policy outside the service
namespace is not in the place of something cached. -/
theorem Caches.Tracked.change {c : Caches} (h : c.Tracked sv s ops)
    (hforeign : sv.watcher.Foreign u → c.etag.lookup u.key = none ∧ c.bundle.lookup u.key = none) :
    c.Tracked sv s' (ops ++ sv.watcher.invalidate u) where
  policy := by
    intro t d hd
    rcases h.policy t d hd with rfl | hclear
    · exact (tier_change happ hold (.inl rfl)).imp_left fun heq => by rw [heq]
    · exact .inr (hclear.mono (sublist_append_left _ _))
  etag := by
    intro k e he
    refine etag_change happ hold (fun hu hk => ?_) (h.etag k e he)
    subst hk
    exact absurd ((hforeign hu).1.symm.trans he) (by simp)
  bundle := by
    intro k e he
    refine bundle_change happ hold (fun hu hk => ?_) (h.bundle k e he)
    subst hk
    exact absurd ((hforeign hu).2.symm.trans he) (by simp)

end Change

/-! ### What a call carries -/

namespace Call

/-- A call has returned. -/
def returned (c : Call) : Bool :=
  match c.pc with
  | .returned _ => true
  | _ => false

/-- **What a call carries is current**: it is what the call would read from the store
or build from it now. -/
def Current (sv : Service) (s : Indexer) (c : Call) : Prop :=
  match c.pc with
  | .hit data etag => sv.fresh s c.id = .ok (data, etag)
  | .fillGlobal g => g = sv.tierPolicies s .global
  | .lookupNamespace g => g = sv.tierPolicies s .global
  | .readNamespace g => g = sv.tierPolicies s .global
  | .fillNamespace g n =>
    g = sv.tierPolicies s .global ∧ n = sv.tierPolicies s (.namespace c.id.ns)
  | .readClient g n =>
    g = sv.tierPolicies s .global ∧ n = sv.tierPolicies s (.namespace c.id.ns)
  | .setETag policies => sv.current s c.id = .ok policies
  | .setBundle data hash => sv.fresh s c.id = .ok (data, hash)
  | _ => True

instance (sv : Service) (s : Indexer) : (c : Call) → Decidable (c.Current sv s)
  | ⟨_, _, _, .hit _ _⟩ | ⟨_, _, _, .fillGlobal _⟩ | ⟨_, _, _, .lookupNamespace _⟩
  | ⟨_, _, _, .readNamespace _⟩ | ⟨_, _, _, .setETag _⟩ | ⟨_, _, _, .setBundle _ _⟩ =>
    inferInstanceAs (Decidable (_ = _))
  | ⟨_, _, _, .fillNamespace _ _⟩ | ⟨_, _, _, .readClient _ _⟩ =>
    inferInstanceAs (Decidable (_ ∧ _))
  | ⟨_, _, _, .checkETag⟩ | ⟨_, _, _, .checkBundle⟩ | ⟨_, _, _, .enter⟩ | ⟨_, _, _, .waiting⟩
  | ⟨_, _, _, .acquire⟩ | ⟨_, _, _, .lookupGlobal⟩ | ⟨_, _, _, .readGlobal⟩
  | ⟨_, _, _, .release _⟩ | ⟨_, _, _, .finish _⟩ | ⟨_, _, _, .returned _⟩ => isTrue trivial

/-- **What a call carries is held back**: it is current, or the places it can still
reach will be emptied. -/
def Held (sv : Service) (s : Indexer) (ops : List CacheOp) (c : Call) : Prop :=
  match c.pc with
  | .hit data etag => sv.BundleNow s c.id.cacheKey data etag ∨ WillClearClient ops c.id.cacheKey
  | .fillGlobal g => g = sv.tierPolicies s .global ∨ WillClearTier ops .global
  | .lookupNamespace g => g = sv.tierPolicies s .global ∨ WillClearClient ops c.id.cacheKey
  | .readNamespace g => g = sv.tierPolicies s .global ∨ WillClearClient ops c.id.cacheKey
  | .fillNamespace g n =>
    (g = sv.tierPolicies s .global ∨ WillClearClient ops c.id.cacheKey) ∧
      (n = sv.tierPolicies s (.namespace c.id.ns) ∨ WillClearTier ops (.namespace c.id.ns))
  | .readClient g n =>
    (g = sv.tierPolicies s .global ∨ WillClearClient ops c.id.cacheKey) ∧
      (n = sv.tierPolicies s (.namespace c.id.ns) ∨ WillClearClient ops c.id.cacheKey)
  | .setETag policies =>
    sv.current s c.id = .ok policies ∨ WillClearClient ops c.id.cacheKey
  | .setBundle data hash =>
    sv.BundleNow s c.id.cacheKey data hash ∨ WillClearBundle ops c.id.cacheKey
  | _ => True

variable {sv : Service} {s s' : Indexer} {ops : List CacheOp} {c : Call}

theorem held_of_returned (h : c.returned = true) : c.Held sv s ops := by
  obtain ⟨id, ifNoneMatch, cancelled, pc⟩ := c
  cases pc with
  | returned r => trivial
  | _ => exact absurd h Bool.false_ne_true

theorem held_of_current (h : c.Current sv s) : c.Held sv s ops := by
  have hnow : ∀ {data etag}, sv.fresh s c.id = .ok (data, etag) →
      sv.BundleNow s c.id.cacheKey data etag := by
    intro data etag hfresh
    rw [fresh_eq] at hfresh
    cases hcur : sv.current s c.id with
    | error err =>
      rw [hcur] at hfresh
      cases hfresh
    | ok policies =>
      rw [hcur] at hfresh
      exact ⟨c.id, rfl, policies, hcur, hfresh⟩
  obtain ⟨id, ifNoneMatch, cancelled, pc⟩ := c
  cases pc with
  | hit data etag => exact .inl (hnow h)
  | fillGlobal g => exact .inl h
  | lookupNamespace g => exact .inl h
  | readNamespace g => exact .inl h
  | fillNamespace g n => exact ⟨.inl h.1, .inl h.2⟩
  | readClient g n => exact ⟨.inl h.1, .inl h.2⟩
  | setETag policies => exact .inl h
  | setBundle data hash => exact .inl (hnow h)
  | _ => trivial

theorem Held.change {e : StoreEvent} (h : c.Held sv s ops) (happ : s.apply e = some (s', u))
    (hold : sv.watcher.SameTier s u)
    (hforeign : sv.watcher.Foreign u → c.id.cacheKey = u.key → c.returned = true) :
    c.Held sv s' (ops ++ sv.watcher.invalidate u) := by
  by_cases hret : c.returned = true
  · exact held_of_returned hret
  have hne : sv.watcher.Foreign u → c.id.cacheKey ≠ u.key := fun hu hk => hret (hforeign hu hk)
  obtain ⟨id, ifNoneMatch, cancelled, pc⟩ := c
  cases pc with
  | hit data etag =>
    rcases h with hnow | hclear
    · exact (hnow.apply happ hold hne).imp_right
        fun hclear => hclear.mono (sublist_append_right _ _)
    · exact .inr (hclear.mono (sublist_append_left _ _))
  | fillGlobal g => exact tier_change happ hold h
  | lookupNamespace g => exact part_change happ hold h
  | readNamespace g => exact part_change happ hold h
  | fillNamespace g n => exact ⟨part_change happ hold h.1, tier_change happ hold h.2⟩
  | readClient g n => exact ⟨part_change happ hold h.1, part_change happ hold h.2⟩
  | setETag policies =>
    rcases h with hcur | hclear
    · rcases current_apply happ hold hne with heq | hclear
      · exact .inl (heq.trans hcur)
      · exact .inr (hclear.mono (sublist_append_right _ _))
    · exact .inr (hclear.mono (sublist_append_left _ _))
  | setBundle data hash => exact bundle_change happ hold hne h
  | _ => trivial

end Call

/-- A call of the handler concerns a client. -/
def CacheOp.Touches (id : ClientIdentity) (op : CacheOp) : Prop :=
  op = invalidateTier .global ∨ op = invalidateTier (.namespace id.ns) ∨
    op.ClearsETag id.cacheKey ∨ op.ClearsBundle id.cacheKey

instance (id : ClientIdentity) (op : CacheOp) : Decidable (op.Touches id) :=
  inferInstanceAs (Decidable (_ ∨ _ ∨ _ ∨ _))

theorem Call.Held.invalidate {sv : Service} {s : Indexer} {op : CacheOp} {ops : List CacheOp}
    {c : Call} (h : c.Held sv s (op :: ops)) (hcur : op.Touches c.id → c.Current sv s) :
    c.Held sv s ops := by
  by_cases htouch : op.Touches c.id
  · exact held_of_current (hcur htouch)
  obtain ⟨hg, hn, he, hb⟩ : op ≠ invalidateTier .global ∧ op ≠ invalidateTier (.namespace c.id.ns) ∧
      ¬ op.ClearsETag c.id.cacheKey ∧ ¬ op.ClearsBundle c.id.cacheKey := by
    simpa only [CacheOp.Touches, not_or] using htouch
  obtain ⟨id, ifNoneMatch, cancelled, pc⟩ := c
  cases pc with
  | hit data etag => exact h.imp_right fun hclear => hclear.tail he
  | fillGlobal g => exact h.imp_right fun hclear => hclear.tail hg
  | lookupNamespace g => exact h.imp_right fun hclear => hclear.tail he
  | readNamespace g => exact h.imp_right fun hclear => hclear.tail he
  | fillNamespace g n =>
    exact ⟨h.1.imp_right fun hclear => hclear.tail he, h.2.imp_right fun hclear => hclear.tail hn⟩
  | readClient g n =>
    exact ⟨h.1.imp_right fun hclear => hclear.tail he, h.2.imp_right fun hclear => hclear.tail he⟩
  | setETag policies => exact h.imp_right fun hclear => hclear.tail he
  | setBundle data hash => exact h.imp_right fun hclear => hclear.tail hb
  | _ => trivial

/-! ### One step of a call -/

section Step

variable {sv : Service} {b b' : Shared} {c : Call} {pc : Pc} {ops : List CacheOp}

/-- The steps before and around a flight. The look-up of an archive is the delicate
one: what it finds may be about to be emptied, and its ETag is set next. -/
theorem held_stepServe (hb : b.caches.Tracked sv b.store ops) (hc : c.Held sv b.store ops)
    (hread : c.pc = .checkBundle → WillClearBundle ops c.id.cacheKey →
      WillClearClient ops c.id.cacheKey)
    (hstep : stepServe b c.id c.ifNoneMatch c.pc = some (b', pc)) :
    b'.store = b.store ∧ b'.caches.Tracked sv b.store ops ∧
      { c with pc := pc }.Held sv b.store ops := by
  obtain ⟨id, ifNoneMatch, cancelled, pc₀⟩ := c
  cases pc₀ with
  | checkETag =>
    rw [stepServe] at hstep
    split at hstep
    · cases hstep
      exact ⟨rfl, hb, trivial⟩
    · cases hstep
      exact ⟨rfl, hb, trivial⟩
  | checkBundle =>
    cases hstep
    refine ⟨rfl, hb.getBundle _ _, ?_⟩
    cases hget : (b.caches.bundle.get b.now id.cacheKey).1 with
    | none => trivial
    | some r =>
      obtain ⟨e, he, hdata, hetag⟩ := BundleCache.lookup_of_get_fst hget
      have htracked := hb.bundle _ e he
      rw [hdata, hetag] at htracked
      exact htracked.imp_right (hread rfl)
  | hit data etag =>
    cases hstep
    exact ⟨rfl, hb.setETag (hc.imp_left fun hnow => hnow.etagNow), trivial⟩
  | enter =>
    rw [stepServe] at hstep
    split at hstep
    · cases hstep
      exact ⟨rfl, hb, trivial⟩
    · cases hstep
      exact ⟨rfl, hb, trivial⟩
  | acquire =>
    rw [stepServe] at hstep
    split at hstep
    · cases hstep
      exact ⟨rfl, hb, trivial⟩
    · cases hstep
  | release r =>
    cases hstep
    exact ⟨rfl, hb, trivial⟩
  | _ => cases hstep

/-- The policies of a client, put together from parts that are current or outdated. -/
theorem gathered_now {s : Indexer} {id : ClientIdentity} {g n ps : List PolicyEntry}
    (hg : g = sv.tierPolicies s .global ∨ WillClearClient ops id.cacheKey)
    (hn : n = sv.tierPolicies s (.namespace id.ns) ∨ WillClearClient ops id.cacheKey)
    (hps : getClientPolicies s id = .ok ps) :
    sv.current s id = .ok (allPolicies g n ps) ∨ WillClearClient ops id.cacheKey := by
  rcases hg with rfl | hclear
  · rcases hn with rfl | hclear
    · exact .inl (sv.current_of_ok hps)
    · exact .inr hclear
  · exact .inr hclear

/-- The steps of a build: what it puts into a cache is what it carries. -/
theorem held_stepBuild (hb : b.caches.Tracked sv b.store ops) (hc : c.Held sv b.store ops)
    (hstep : sv.stepBuild b c.id c.pc = some (b', pc)) :
    b'.store = b.store ∧ b'.caches.Tracked sv b.store ops ∧
      { c with pc := pc }.Held sv b.store ops := by
  obtain ⟨id, ifNoneMatch, cancelled, pc₀⟩ := c
  cases pc₀ with
  | lookupGlobal =>
    rw [stepBuild] at hstep
    cases hget : b.caches.policy.get .global with
    | some d =>
      rw [hget] at hstep
      cases hstep
      refine ⟨rfl, hb, ?_⟩
      rcases hb.policy _ d hget with rfl | hclear
      · exact .inl rfl
      · exact .inr hclear.client
    | none =>
      rw [hget] at hstep
      cases hstep
      exact ⟨rfl, hb, trivial⟩
  | readGlobal =>
    cases hstep
    exact ⟨rfl, hb, .inl rfl⟩
  | fillGlobal g =>
    cases hstep
    exact ⟨rfl, hb.setPolicy hc, hc.imp_right fun hclear => hclear.client⟩
  | lookupNamespace g =>
    rw [stepBuild] at hstep
    cases hget : b.caches.policy.get (.namespace id.ns) with
    | some d =>
      rw [hget] at hstep
      cases hstep
      refine ⟨rfl, hb, hc, ?_⟩
      rcases hb.policy _ d hget with rfl | hclear
      · exact .inl rfl
      · exact .inr hclear.client
    | none =>
      rw [hget] at hstep
      cases hstep
      exact ⟨rfl, hb, hc⟩
  | readNamespace g =>
    cases hstep
    exact ⟨rfl, hb, hc, .inl rfl⟩
  | fillNamespace g n =>
    cases hstep
    exact ⟨rfl, hb.setPolicy hc.2, hc.1, hc.2.imp_right fun hclear => hclear.client⟩
  | readClient g n =>
    rw [stepBuild] at hstep
    cases hps : getClientPolicies b.store id with
    | error err =>
      rw [hps] at hstep
      cases hstep
      exact ⟨rfl, hb, trivial⟩
    | ok ps =>
      rw [hps] at hstep
      cases hstep
      exact ⟨rfl, hb, gathered_now hc.1 hc.2 hps⟩
  | setETag policies =>
    cases hstep
    refine ⟨rfl, hb.setETag (hc.imp_left fun hcur => ⟨id, rfl, policies, hcur, rfl⟩), ?_⟩
    cases harch : sv.archiveOf policies with
    | error err => trivial
    | ok r =>
      rcases hc with hcur | hclear
      · exact .inl ⟨id, rfl, policies, hcur, harch⟩
      · exact .inr hclear.bundle
  | setBundle data hash =>
    cases hstep
    exact ⟨rfl, hb.setBundle hc _, trivial⟩
  | _ => cases hstep

theorem held_stepCall (hb : b.caches.Tracked sv b.store ops) (hc : c.Held sv b.store ops)
    (hread : c.pc = .checkBundle → WillClearBundle ops c.id.cacheKey →
      WillClearClient ops c.id.cacheKey)
    (hstep : sv.stepCall b c = some (b', pc)) :
    b'.store = b.store ∧ b'.caches.Tracked sv b.store ops ∧
      { c with pc := pc }.Held sv b.store ops := by
  simp only [stepCall, orElse_eq_orElse] at hstep
  cases hserve : stepServe b c.id c.ifNoneMatch c.pc with
  | some r =>
    rw [hserve, orElse_some] at hstep
    exact held_stepServe hb hc hread (hserve.trans hstep)
  | none =>
    rw [hserve, orElse_none] at hstep
    exact held_stepBuild hb hc hstep

end Step

/-! ### When the handler is between two calls -/

/-- Whatever the handler does to the archive of a client, it has done to the ETag
before. -/
theorem willClearClient_invalidate {w : Watcher} (h : WillClearBundle (w.invalidate u) key) :
    WillClearClient (w.invalidate u) key := by
  obtain ⟨b, hmem, hb⟩ := h
  cases ht : w.sharedTier u with
  | some t =>
    have hclear : WillClearTier (w.invalidate u) t := by
      rw [Watcher.invalidate_of_sharedTier ht]
      exact List.Sublist.refl _
    exact hclear.client
  | none =>
    by_cases hu : w.Foreign u
    · rw [Watcher.invalidate_of_foreign hu] at hmem
      exact absurd hmem not_mem_nil
    · rw [Watcher.invalidate_of_not_foreign ht hu] at hmem ⊢
      have hkey : u.key = key := by
        rcases mem_pair.mp hmem with rfl | rfl
        · simp [ClearsBundle] at hb
        · simpa [ClearsBundle] using hb
      exact ⟨_, _, .inr (by rw [hkey]), .inr (by rw [hkey]), List.Sublist.refl _⟩

/-- The same for the rest of a handler's calls, unless the next one is for the
archive. -/
theorem willClearClient_suffix {w : Watcher} {ops : List CacheOp}
    (hsuffix : ops <:+ w.invalidate u) (h : WillClearBundle ops key)
    (hhead : ∀ op ∈ ops.head?, ¬ op.ClearsBundle key) : WillClearClient ops key := by
  -- The rests that begin with the call for the ETag or before it are whole enough.
  have htail : ∀ {a b : CacheOp}, a.ClearsETag key → ops <:+ [a, b] → WillClearClient ops key := by
    intro a b ha hsuf
    obtain ⟨d, hmem, hd⟩ := h
    rcases suffix_cons_iff.mp hsuf with rfl | hsuf
    · rcases mem_pair.mp hmem with rfl | rfl
      · exact absurd hd (hhead d rfl)
      · exact ⟨a, d, ha, hd, List.Sublist.refl _⟩
    · rcases suffix_cons_iff.mp hsuf with rfl | hsuf
      · obtain rfl := mem_singleton.mp hmem
        exact absurd hd (hhead d rfl)
      · rw [suffix_nil.mp hsuf] at hmem
        exact absurd hmem not_mem_nil
  cases ht : w.sharedTier u with
  | some t =>
    rw [Watcher.invalidate_of_sharedTier ht] at hsuffix
    rcases suffix_cons_iff.mp hsuffix with rfl | hsuf
    · exact WillClearTier.client (List.Sublist.refl _)
    · exact htail (.inl rfl) hsuf
  | none =>
    by_cases hu : w.Foreign u
    · rw [Watcher.invalidate_of_foreign hu] at hsuffix
      obtain ⟨d, hmem, -⟩ := h
      rw [suffix_nil.mp hsuffix] at hmem
      exact absurd hmem not_mem_nil
    · rw [Watcher.invalidate_of_not_foreign ht hu] at hsuffix
      by_cases hkey : u.key = key
      · exact htail (.inr (by rw [hkey])) hsuffix
      · obtain ⟨d, hmem, hd⟩ := h
        rcases mem_pair.mp (hsuffix.subset hmem) with rfl | rfl
        · simp [ClearsBundle] at hd
        · exact absurd (by simpa [ClearsBundle] using hd) hkey

/-! ### Runs -/

/-- **The invariant**: caches and calls have only what is current or about to be
emptied, and the handler is at the rest of the calls for some object. -/
structure Tracked (sv : Service) (st : System) : Prop where
  caches : st.shared.caches.Tracked sv st.shared.store (sv.pending st)
  calls : ∀ c ∈ st.calls, c.Held sv st.shared.store (sv.pending st)
  handling : ∃ u, st.handling <:+ sv.watcher.invalidate u

/-- An archive that will be emptied is not looked up between the two calls for it, so
the ETag will be emptied as well. -/
theorem Tracked.willClearClient {sv : Service} {st : System} (h : Tracked sv st)
    (hhead : ∀ op ∈ st.handling.head?, ¬ op.ClearsBundle key)
    (hclear : WillClearBundle (sv.pending st) key) : WillClearClient (sv.pending st) key := by
  obtain ⟨d, hmem, hd⟩ := hclear
  rcases mem_append.mp hmem with hmem | hmem
  · obtain ⟨u, hsuffix⟩ := h.handling
    exact (willClearClient_suffix hsuffix ⟨d, hmem, hd⟩ hhead).mono (sublist_append_left _ _)
  · obtain ⟨u, hu, hmem⟩ := mem_flatMap.mp hmem
    have hsub : (sv.watcher.invalidate u).Sublist (sv.pending st) := by
      obtain ⟨before, after, hqueue⟩ := append_of_mem hu
      rw [pending, hqueue, flatMap_append, flatMap_cons]
      exact ((sublist_append_left _ _).trans (sublist_append_right _ _)).trans
        (sublist_append_right _ _)
    exact (willClearClient_invalidate ⟨d, hmem, hd⟩).mono hsub

/-- Events that keep the scope of an object. -/
def KeepsScope (st : System) : Move → Prop
  | .change e =>
    match st.shared.store.apply e with
    | none => True
    | some (_, u) => ∀ v ∈ st.shared.store.objects.lookup u.key, v.effectiveScope = u.effectiveScope
  | _ => True

/-- **Undisturbed moves**: when the handler makes a call, no call in flight that it
concerns carries outdated content; no archive is looked up between the handler's
calls for the ETag and for the archive of a client; and a global policy outside the
service namespace does not have the name of a client for which anything is cached or
under way. -/
def Service.Undisturbed (sv : Service) (st : System) : Move → Prop
  | .change e =>
    match st.shared.store.apply e with
    | none => True
    | some (_, u) => sv.watcher.Foreign u →
        st.shared.caches.etag.lookup u.key = none ∧ st.shared.caches.bundle.lookup u.key = none ∧
          ∀ c ∈ st.calls, c.id.cacheKey = u.key → c.returned = true
  | .invalidate => ∀ op ∈ st.handling.head?, ∀ c ∈ st.calls, op.Touches c.id →
      c.Current sv st.shared.store
  | .advance i => ∀ c ∈ st.calls[i]?, c.pc = .checkBundle →
      ∀ op ∈ st.handling.head?, ¬ op.ClearsBundle c.id.cacheKey
  | _ => True

/-- A condition on the object of an event is decidable with the condition. -/
instance decidableEvent {P : AuthorizationPolicy → Prop} [DecidablePred P] :
    (r : Option (Indexer × AuthorizationPolicy)) → Decidable (match r with
      | none => True
      | some (_, u) => P u)
  | none => isTrue trivial
  | some (_, u) => inferInstanceAs (Decidable (P u))

instance (st : System) : (m : Move) → Decidable (KeepsScope st m)
  | .change e => decidableEvent (P := fun u =>
      ∀ v ∈ st.shared.store.objects.lookup u.key, v.effectiveScope = u.effectiveScope)
      (st.shared.store.apply e)
  | .deliver | .invalidate | .request _ _ | .advance _ | .cancel _ | .abort _ | .tick _ =>
    isTrue trivial

instance (sv : Service) (st : System) : (m : Move) → Decidable (sv.Undisturbed st m)
  | .change e => decidableEvent (P := fun u => sv.watcher.Foreign u →
      st.shared.caches.etag.lookup u.key = none ∧ st.shared.caches.bundle.lookup u.key = none ∧
        ∀ c ∈ st.calls, c.id.cacheKey = u.key → c.returned = true) (st.shared.store.apply e)
  | .invalidate => inferInstanceAs (Decidable (∀ op ∈ st.handling.head?, ∀ c ∈ st.calls,
      op.Touches c.id → c.Current sv st.shared.store))
  | .advance i => inferInstanceAs (Decidable (∀ c ∈ st.calls[i]?, c.pc = .checkBundle →
      ∀ op ∈ st.handling.head?, ¬ op.ClearsBundle c.id.cacheKey))
  | .deliver | .request _ _ | .cancel _ | .abort _ | .tick _ => isTrue trivial

namespace Tracked

variable {sv : Service} {st st' : System}

theorem init (sv : Service) (maxEntries ttl : ℤ) : Tracked sv (.init maxEntries ttl) where
  caches := .of_fresh (Caches.fresh_new sv _ maxEntries ttl)
  calls := fun c hc => absurd hc not_mem_nil
  handling := ⟨⟨"", "", none, .ok [], by decide⟩, nil_suffix⟩

theorem change {e : StoreEvent} {s' : Indexer} (h : Tracked sv st)
    (happ : st.shared.store.apply e = some (s', u))
    (hscope : ∀ v ∈ st.shared.store.objects.lookup u.key, v.effectiveScope = u.effectiveScope)
    (hforeign : sv.watcher.Foreign u →
      st.shared.caches.etag.lookup u.key = none ∧ st.shared.caches.bundle.lookup u.key = none ∧
        ∀ c ∈ st.calls, c.id.cacheKey = u.key → c.returned = true) :
    Tracked sv { st with
      shared := { st.shared with store := s' }, queue := st.queue ++ [u] } := by
  have hold : sv.watcher.SameTier st.shared.store u := Watcher.sameTier_of_scope hscope
  have hpending : sv.pending { st with
      shared := { st.shared with store := s' }, queue := st.queue ++ [u] } =
      sv.pending st ++ sv.watcher.invalidate u := by
    simp [pending]
  refine ⟨?_, fun c hc => ?_, h.handling⟩
  · rw [hpending]
    exact h.caches.change happ hold fun hu => ⟨(hforeign hu).1, (hforeign hu).2.1⟩
  · rw [hpending]
    exact (h.calls c hc).change happ hold fun hu hk => (hforeign hu).2.2 c hc hk

variable {c : Call} {i : ℕ}

theorem moveTo {b : Shared} {pc : Pc} (h : Tracked sv st) (hstore : b.store = st.shared.store)
    (hcaches : b.caches.Tracked sv st.shared.store (sv.pending st))
    (hc : { c with pc := pc }.Held sv st.shared.store (sv.pending st)) :
    Tracked sv ({ st with shared := b }.moveTo i c pc) := by
  refine ⟨?_, fun c' hc' => ?_, h.handling⟩
  · rw [← hstore] at hcaches
    exact hcaches
  · have hheld : c'.Held sv st.shared.store (sv.pending st) := by
      rcases mem_or_eq_of_mem_set hc' with hmem | rfl
      · exact h.calls c' hmem
      · exact hc
    rw [← hstore] at hheld
    exact hheld

theorem endFlight (h : Tracked sv st) (r : BuildResult) : Tracked sv (st.endFlight i c r) := by
  refine ⟨h.caches, fun c' hc' => ?_, h.handling⟩
  obtain ⟨d, hd, rfl⟩ := mem_map.mp hc'
  rw [System.wake]
  split
  · exact Call.held_of_returned rfl
  · rcases mem_or_eq_of_mem_set hd with hmem | rfl
    · exact h.calls d hmem
    · exact Call.held_of_returned rfl

theorem advance (h : Tracked sv st) (hmem : c ∈ st.calls)
    (hread : c.pc = .checkBundle → ∀ op ∈ st.handling.head?, ¬ op.ClearsBundle c.id.cacheKey)
    (hstep : sv.advance st i c = some st') : Tracked sv st' := by
  rw [Service.advance] at hstep
  split at hstep
  · cases hstep
    exact h.endFlight _
  · obtain ⟨⟨b, pc⟩, hcall, rfl⟩ := map_eq_some_iff.mp hstep
    obtain ⟨hstore, hcaches, hc⟩ := held_stepCall h.caches (h.calls c hmem)
      (fun hpc hclear => h.willClearClient (hread hpc) hclear) hcall
    exact h.moveTo hstore hcaches hc

/-- **One undisturbed move keeps everything tracked.** -/
theorem move (st : System) (m : Move) (st' : System) (h : Tracked sv st)
    (hok : KeepsScope st m ∧ sv.Undisturbed st m) (hstep : sv.move st m = some st') :
    Tracked sv st' := by
  obtain ⟨hscope, hok⟩ := hok
  cases m with
  | change e =>
    obtain ⟨⟨s', u⟩, happ, rfl⟩ := map_eq_some_iff.mp hstep
    rw [KeepsScope, happ] at hscope
    rw [Service.Undisturbed, happ] at hok
    exact h.change happ hscope hok
  | deliver =>
    rw [Service.move] at hstep
    split at hstep
    · rename_i u queue hhandling hqueue
      cases hstep
      -- The calls to be made are the same, only some of them have become the next ones.
      have hpending : sv.pending { st with
          handling := sv.watcher.invalidate u, queue := queue } = sv.pending st := by
        simp [pending, hhandling, hqueue]
      refine ⟨?_, fun c hc => ?_, u, suffix_rfl⟩
      · rw [hpending]
        exact h.caches
      · rw [hpending]
        exact h.calls c hc
    · cases hstep
  | invalidate =>
    rw [Service.move] at hstep
    split at hstep
    · cases hstep
    · rename_i op ops hhandling
      cases hstep
      have hpending : sv.pending st = op :: (ops ++ st.queue.flatMap sv.watcher.invalidate) := by
        rw [pending, hhandling, cons_append]
      obtain ⟨u, hsuffix⟩ := h.handling
      rw [hhandling] at hsuffix
      refine ⟨?_, fun c hc => ?_, u, (suffix_cons op ops).trans hsuffix⟩
      · have hcaches := h.caches
        rw [hpending] at hcaches
        exact hcaches.invalidate
      · have hheld := h.calls c hc
        rw [hpending] at hheld
        exact hheld.invalidate (hok op (by rw [hhandling]; rfl) c hc)
  | request id ifNoneMatch =>
    cases hstep
    refine ⟨h.caches, fun c hc => ?_, h.handling⟩
    rcases mem_append.mp hc with hc | hc
    · exact h.calls c hc
    · obtain rfl := mem_singleton.mp hc
      trivial
  | advance i =>
    obtain ⟨c, hc, hadv⟩ := bind_eq_some_iff.mp hstep
    exact h.advance (mem_of_getElem? hc) (hok c hc) hadv
  | cancel i =>
    obtain ⟨c, hc, rfl⟩ := map_eq_some_iff.mp hstep
    refine ⟨h.caches, fun c' hc' => ?_, h.handling⟩
    rcases mem_or_eq_of_mem_set hc' with hmem | rfl
    · exact h.calls c' hmem
    · exact h.calls c (mem_of_getElem? hc)
  | abort i =>
    obtain ⟨c, hc, hstep⟩ := bind_eq_some_iff.mp hstep
    split at hstep
    · cases hstep
      exact h.moveTo rfl h.caches trivial
    · cases hstep
  | tick d =>
    cases hstep
    exact ⟨h.caches, h.calls, h.handling⟩

end Tracked

/-- Everything has been handled, and no call is in flight. -/
def System.Quiescent (st : System) : Prop :=
  st.queue = [] ∧ st.handling = [] ∧ ∀ c ∈ st.calls, c.returned = true

instance (st : System) : Decidable st.Quiescent := inferInstanceAs (Decidable (_ ∧ _ ∧ _))

/-- **No stale content**: when a run of undisturbed moves, with events that keep the
scope of an object, has come to rest, every entry of the three caches is what a
build from the store would put there; and so is every answer from then on, up to the
ETag of a bundle that cannot be built. -/
theorem fresh_of_quiescent (sv : Service) (maxEntries ttl : ℤ) (ms : List Move) (st : System)
    (hok : Guarded sv.move (fun st m => KeepsScope st m ∧ sv.Undisturbed st m)
      (.init maxEntries ttl) ms)
    (hrun : run sv.move (.init maxEntries ttl) ms = some st) (hq : st.Quiescent) :
    st.shared.caches.Fresh sv st.shared.store ∧
      ∀ id ifNoneMatch, sv.Exact st.shared.store st.shared.now st.shared.caches id ifNoneMatch ↔
        (ifNoneMatch ≠ "" → st.shared.caches.etag.lookup id.cacheKey = some ifNoneMatch →
          ∃ policies r, sv.current st.shared.store id = .ok policies ∧
            sv.archiveOf policies = .ok r) := by
  have htracked : Tracked sv st :=
    run_invariant Tracked.move (Tracked.init sv maxEntries ttl) hok hrun
  have hcaches := htracked.caches
  rw [pending, hq.1, hq.2.1] at hcaches
  have hfresh := hcaches.fresh
  exact ⟨hfresh, fun id ifNoneMatch => by
    rw [hfresh.exact_iff, notModified_iff, and_imp]⟩

/-- The handler deals with one event. -/
def handled : List Move := .deliver :: List.replicate 3 .invalidate

/-- A policy changes while a build is under way, and the handler is given the change
when the build is over. -/
def quietRun : List Move :=
  .change (.create (teamPolicy "shared" .namespace "a.rego" "old")) :: handled ++
    .request agentId "" :: List.replicate 10 (.advance 0) ++
    .change (.update (teamPolicy "shared" .namespace "a.rego" "new")) ::
    List.replicate 5 (.advance 0) ++ handled

theorem fresh_quietRun : ∃ st, run plainService.move (.init 0 0) quietRun = some st ∧
    st.shared.caches.Fresh plainService st.shared.store := by
  obtain ⟨st, hst, hq⟩ := (any_eq_true _ _).mp (by decide +kernel :
    (run plainService.move (.init 0 0) quietRun).any (fun st => st.Quiescent) = true)
  exact ⟨st, hst, (fresh_of_quiescent plainService 0 0 quietRun st (by decide +kernel) hst
    (of_decide_eq_true hq)).1⟩

/-- The same change, which reaches the handler between the build's look at the store
and its entry into the cache. -/
def raceRun : List Move :=
  .change (.create (teamPolicy "shared" .namespace "a.rego" "old")) :: handled ++
    .request agentId "" :: List.replicate 9 (.advance 0) ++
    .change (.update (teamPolicy "shared" .namespace "a.rego" "new")) :: handled ++
    List.replicate 6 (.advance 0)

/-- **A build overtaken by an event**: every event has been handled and no call is in
flight, and what the caches have is still what was there before the event; clients
are given it from then on. -/
theorem stale_raceRun : Guarded plainService.move KeepsScope (.init 0 0) raceRun ∧
    ∃ st, run plainService.move (.init 0 0) raceRun = some st ∧ st.Quiescent ∧
      ¬ st.shared.caches.Fresh plainService st.shared.store ∧
      ¬ plainService.Exact st.shared.store st.shared.now st.shared.caches agentId "" := by
  refine ⟨by decide +kernel, ?_⟩
  obtain ⟨st, hst, h⟩ := (any_eq_true _ _).mp (by decide +kernel :
    (run plainService.move (.init 0 0) raceRun).any (fun st => st.Quiescent ∧
      ¬ plainService.Exact st.shared.store st.shared.now st.shared.caches agentId "") = true)
  obtain ⟨hq, hexact⟩ := of_decide_eq_true h
  refine ⟨st, hst, hq, fun hfresh => hexact ?_, hexact⟩
  rw [hfresh.exact_iff, notModified_iff]
  rintro ⟨hne, -⟩
  exact absurd rfl hne

end Rossoctl.Bundle
