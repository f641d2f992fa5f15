import Mathlib.Data.List.Perm.Basic
import Rossoctl.Bundle.Coherence

/-!
# What a bundle is made of

A bundle is meant to have three kinds of policies: global ones from the service
namespace, those of the client's namespace, and those of the client's own object,
each under a directory of its own, and each object in one of them at most. This is
`Rossoctl.Bundle.Service.specified`: every object of the store is looked at once,
and its scope decides.

A build looks three times: it scans the index by scope twice, and takes the object
with the client's name whatever its scope. The archive has what it is meant to have
exactly when the object with the client's name, if there is one, is a client policy
or empty: `Rossoctl.Bundle.entries_perm_iff`.
-/

namespace Rossoctl.Bundle

open List

/-! ### Selections from a list -/

theorem flatMap_filter {α β : Type*} (p : α → Bool) (f : α → List β) (l : List α) :
    (l.filter p).flatMap f = l.flatMap fun a => if p a then f a else [] := by
  induction l with
  | nil => rfl
  | cons a l ih =>
    cases hp : p a with
    | true => rw [filter_cons_of_pos hp, flatMap_cons, flatMap_cons, ih, if_pos hp]
    | false =>
      rw [filter_cons_of_neg (by simp [hp]), flatMap_cons, ih, if_neg (by simp [hp]), nil_append]

theorem filter_key_listing (o : KeyOrder String) (s : Indexer) (key : String) :
    (s.objects.listing o).filter (fun u => u.key = key) = (s.objects.lookup key).toList := by
  -- The selected keys are `key` or none, as every object is filed under its own key.
  have hself : ∀ k, (s.objects.lookup k).filter (fun u => u.key = key) =
      if k = key then s.objects.lookup key else none := by
    intro k
    cases hk : s.objects.lookup k with
    | none =>
      by_cases hkey : k = key
      · rw [if_pos hkey, ← hkey, hk]
        rfl
      · rw [if_neg hkey]
        rfl
    | some u =>
      have hu : u.key = k := s.key_eq k u hk
      by_cases hkey : k = key
      · rw [if_pos hkey, ← hkey, hk]
        simp [hu]
      · rw [if_neg hkey]
        simp [hu, hkey]
  have hmem : ∀ k, k ∈ (o.sort s.objects.keys).filter
      (fun k => ((s.objects.lookup k).filter fun u => u.key = key).isSome) ↔
        k ∈ if (s.objects.lookup key).isSome then [key] else [] := by
    intro k
    rw [mem_filter, (o.sort_perm _).mem_iff, hself]
    by_cases hkey : k = key
    · subst hkey
      rw [if_pos rfl]
      cases hk : s.objects.lookup k with
      | none => simp
      | some u => simpa using GoMap.mem_keys_of_lookup (by rw [hk]; rfl)
    · rw [if_neg hkey]
      split <;> simp [hkey]
  have hkeys : (o.sort s.objects.keys).filter
      (fun k => ((s.objects.lookup k).filter fun u => u.key = key).isSome) =
        if (s.objects.lookup key).isSome then [key] else [] := by
    refine o.eq_of_mem_iff ((o.pairwise_sort _).filter _) ?_
      ((((o.sort_perm _).nodup_iff).mpr s.objects.nodupKeys).filter _) ?_ hmem
    · split <;> simp
    · split <;> simp
  rw [GoMap.filter_listing, hkeys]
  cases hk : s.objects.lookup key with
  | none => rfl
  | some u => simp [hself, hk]

namespace Service

variable (sv : Service)

/-! ### What a bundle is meant to have -/

/-- The policies of an object that can be converted. -/
def policiesOf (u : AuthorizationPolicy) : List PolicyEntry := extractPolicies [u]

/-- What an object is meant to contribute to the bundle of a client: its scope decides
in which tier. -/
def contribution (id : ClientIdentity) (u : AuthorizationPolicy) : List Policy :=
  match u.effectiveScope with
  | .global =>
    if u.ns = sv.watcher.serviceNamespace then inDirectory "authbridge/global/" (policiesOf u)
    else []
  | .namespace => if u.ns = id.ns then inDirectory "authbridge/ns/" (policiesOf u) else []
  | .client =>
    if u.ns = id.ns ∧ u.name = id.name then inDirectory "authbridge/client/" (policiesOf u)
    else []

/-- What the bundle of a client is meant to have. -/
def specified (s : Indexer) (id : ClientIdentity) : List Policy :=
  (s.objects.listing sv.watcher.order).flatMap (sv.contribution id)

/-! ### What it has -/

theorem extractPolicies_eq (objs : List AuthorizationPolicy) :
    extractPolicies objs = objs.flatMap policiesOf := by
  rw [extractPolicies]
  congr 1
  funext u
  rw [policiesOf, extractPolicies, flatMap_singleton]

variable (s : Indexer) (id : ClientIdentity)

theorem inDirectory_tierPolicies (dir : String) (t : Tier) : inDirectory dir (sv.tierPolicies s t) =
      (s.objects.listing sv.watcher.order).flatMap fun u =>
        if sv.watcher.sharedTier u = some t then inDirectory dir (policiesOf u) else [] := by
  rw [tierPolicies, extractPolicies_eq, Watcher.inTier_eq, inDirectory, map_flatMap, flatMap_filter]
  simp only [decide_eq_true_eq]
  rfl

theorem inDirectory_client (f : AuthorizationPolicy → List Policy) :
    (s.objects.lookup id.cacheKey).toList.flatMap f =
      (s.objects.listing sv.watcher.order).flatMap fun u =>
        if u.key = id.cacheKey then f u else [] := by
  rw [← filter_key_listing sv.watcher.order, flatMap_filter]
  simp only [decide_eq_true_eq]

/-- What the object with the client's name contributes by its name, though it is not a
client policy. -/
def intruding (s : Indexer) (id : ClientIdentity) : List Policy :=
  (s.objects.lookup id.cacheKey).toList.flatMap fun u =>
    if u.effectiveScope = .client then [] else inDirectory "authbridge/client/" (policiesOf u)

/-- **The policies of a build** are those it is meant to have and the intruding
ones. -/
theorem current_perm {s : Indexer} {id : ClientIdentity} {policies : List Policy}
    (h : sv.current s id = .ok policies) :
    policies.Perm (sv.specified s id ++ intruding s id) := by
  -- The client tier of the build, object by object.
  have hclient : ∀ ps, getClientPolicies s id = .ok ps →
      inDirectory "authbridge/client/" ps = (s.objects.lookup id.cacheKey).toList.flatMap
        fun u => inDirectory "authbridge/client/" (policiesOf u) := by
    intro ps hps
    have hkey : Watcher.getPolicy s id.name id.ns = s.objects.lookup id.cacheKey := rfl
    rw [getClientPolicies, hkey] at hps
    cases hlook : s.objects.lookup id.cacheKey with
    | none =>
      rw [hlook] at hps
      cases hps
      rfl
    | some u =>
      rw [hlook] at hps
      dsimp only at hps
      cases hu : u.policies with
      | error err =>
        rw [hu] at hps
        cases hps
      | ok ps' =>
        rw [hu] at hps
        cases hps
        simp [policiesOf, extractPolicies, hu]
  -- One object contributes what it is meant to, and by its name.
  have hone : ∀ u : AuthorizationPolicy,
      sv.contribution id u ++ (if u.key = id.cacheKey then if u.effectiveScope = .client then []
          else inDirectory "authbridge/client/" (policiesOf u) else []) =
        (if sv.watcher.sharedTier u = some .global then
          inDirectory "authbridge/global/" (policiesOf u) else []) ++
        (if sv.watcher.sharedTier u = some (.namespace id.ns) then
          inDirectory "authbridge/ns/" (policiesOf u) else []) ++
        (if u.key = id.cacheKey then inDirectory "authbridge/client/" (policiesOf u) else []) := by
    intro u
    have hkey : u.key = id.cacheKey ↔ u.ns = id.ns ∧ u.name = id.name :=
      ⟨objectKey_inj u.ns_noSlash id.ns_noSlash,
        fun h => by rw [AuthorizationPolicy.key, ClientIdentity.cacheKey, h.1, h.2]⟩
    rw [contribution, Watcher.sharedTier]
    cases hs : u.effectiveScope with
    | global => by_cases hns : u.ns = sv.watcher.serviceNamespace <;> simp [hns]
    | «namespace» => by_cases hns : u.ns = id.ns <;> simp [hns]
    | client => simp [hkey]
  cases hcl : getClientPolicies s id with
  | error err =>
    rw [sv.current_of_error hcl] at h
    cases h
  | ok ps =>
    rw [sv.current_of_ok hcl] at h
    cases h
    rw [allPolicies, sv.inDirectory_tierPolicies, sv.inDirectory_tierPolicies, hclient ps hcl,
      intruding, sv.inDirectory_client, sv.inDirectory_client, specified]
    refine (((flatMap_append_perm _ _ _).append_right _).trans (flatMap_append_perm _ _ _)).trans ?_
    refine List.Perm.trans ?_ (flatMap_append_perm _ _ _).symm
    rw [funext hone]

theorem archive_of_fresh {s : Indexer} {id : ClientIdentity} {data : Data} {etag : String}
    (h : sv.fresh s id = .ok (data, etag)) :
    ∃ policies revision, sv.current s id = .ok policies ∧
      data = sv.tools.archive (sv.tools.sortByPath policies) (Tooling.manifest revision) := by
  rw [fresh_eq] at h
  cases hcur : sv.current s id with
  | error err =>
    rw [hcur] at h
    cases h
  | ok policies =>
    rw [hcur, Except.bind] at h
    rw [archiveOf, Tooling.build] at h
    split at h
    · cases h
    · rename_i built hbuilt
      -- only a build without any error has a result
      split at hbuilt
      · cases hbuilt
      · dsimp only at hbuilt
        split at hbuilt
        · cases hbuilt
        · split at hbuilt
          · cases hbuilt
          · cases hbuilt
            split at h
            · cases h
            · obtain ⟨rfl, -⟩ := Prod.mk.inj (Except.ok.inj h)
              exact ⟨policies, _, rfl, rfl⟩

theorem intruding_eq_nil_iff :
    intruding s id = [] ↔ ∀ u, Watcher.getPolicy s id.name id.ns = some u →
      u.effectiveScope = .client ∨ policiesOf u = [] := by
  rw [intruding, Watcher.getPolicy]
  change _ ↔ ∀ u, s.objects.lookup id.cacheKey = some u → _
  cases s.objects.lookup id.cacheKey with
  | none => simp
  | some u =>
    by_cases hs : u.effectiveScope = .client
    · simp [hs]
    · simp [hs, inDirectory]

end Service

/-- **Tier composition**: whenever a build with empty caches gives an archive, it is
that of a manifest and some entries, and these are the ones that the bundle of the
client is meant to have exactly when the object with the client's name, if there is
one, is a client policy or has no policies. -/
theorem entries_perm_iff (sv : Service) (s : Indexer) (id : ClientIdentity) (data : Data)
    (etag : String) (h : sv.fresh s id = .ok (data, etag)) :
    ∃ entries revision, data = sv.tools.archive entries (Tooling.manifest revision) ∧
      (entries.Perm (sv.specified s id) ↔ ∀ u, Watcher.getPolicy s id.name id.ns = some u →
          u.effectiveScope = .client ∨ Service.policiesOf u = []) := by
  obtain ⟨policies, revision, hcur, hdata⟩ := sv.archive_of_fresh h
  refine ⟨_, revision, hdata, ?_⟩
  have hperm : (sv.tools.sortByPath policies).Perm (sv.specified s id ++ Service.intruding s id) :=
    (sv.tools.sortByPath_perm policies).trans (sv.current_perm hcur)
  rw [← Service.intruding_eq_nil_iff]
  constructor
  · intro hspec
    have hlen := (hspec.symm.trans hperm).length_eq
    rw [length_append] at hlen
    exact length_eq_zero_iff.mp (by omega)
  · intro hnil
    rwa [hnil, append_nil] at hperm

/-- A store with a policy of the namespace and one with the name of the agent. -/
def agentStore (scope : PolicyScope) : Indexer :=
  (Indexer.empty.put (teamPolicy "shared" .namespace "a.rego" "x")).put
    (teamPolicy "agent" scope "b.rego" "y")

/-- The archive of the agent. -/
def agentArchive : Data :=
  plainTools.archive [⟨"authbridge/client/b.rego", "y"⟩, ⟨"authbridge/ns/a.rego", "x"⟩]
    (Tooling.manifest "sha256:")

theorem entries_agentStore : ∃ entries revision,
    agentArchive = plainTools.archive entries (Tooling.manifest revision) ∧
      entries.Perm (plainService.specified (agentStore .client) agentId) := by
  obtain ⟨entries, revision, hdata, hiff⟩ := entries_perm_iff plainService (agentStore .client)
    agentId agentArchive "sha256:authbridge/client/b.rego\x00y\x00authbridge/ns/a.rego\x00x\x00"
    (by decide +kernel)
  refine ⟨entries, revision, hdata, hiff.mpr fun u hu => .inl ?_⟩
  cases hu
  rfl

/-- **A namespace policy in two tiers**: with the name of a client, it is in the client
tier as well. -/
theorem namespace_policy_twice :
    plainService.fresh (agentStore .namespace) agentId = .ok (plainTools.archive
      [⟨"authbridge/client/b.rego", "y"⟩, ⟨"authbridge/ns/a.rego", "x"⟩,
        ⟨"authbridge/ns/b.rego", "y"⟩] (Tooling.manifest "sha256:"),
      "sha256:authbridge/client/b.rego\x00y\x00" ++
        "authbridge/ns/a.rego\x00x\x00authbridge/ns/b.rego\x00y\x00") ∧
    (plainService.specified (agentStore .namespace) agentId).Perm
      [⟨"authbridge/ns/a.rego", "x"⟩, ⟨"authbridge/ns/b.rego", "y"⟩] := by
  decide +kernel

end Rossoctl.Bundle
