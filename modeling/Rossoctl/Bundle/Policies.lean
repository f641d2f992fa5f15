import Rossoctl.Kube
import Rossoctl.Listing

/-!
# Authorization policies, the clients they are for, and the store they are in

The bundle service hands every client one archive of policies, gathered from
`AuthorizationPolicy` objects in three tiers: the global ones, those of the client's
namespace, and the object with the client's own name. This file has the objects,
the informer's store with its index by scope, and the three ways
`internal/bundleservice/watcher` reads it.

A store is keyed by the text `namespace/name`, and so are the caches of a later
file. No namespace contains a slash – the API server does not admit one, and a
client's is a part between two slashes of its SPIFFE path –, so the text
determines both names (`Rossoctl.Bundle.objectKey_inj`).

The tier in which an object is shared by several clients is
`Rossoctl.Bundle.Watcher.sharedTier`. The two theorems of the last section say
when a change of one object can be seen in a tier.
-/

namespace Rossoctl.Bundle

/-! ### Names -/

/-- A text without a slash. -/
def NoSlash (s : String) : Prop := '/' ∉ s.toList

instance (s : String) : Decidable (NoSlash s) := inferInstanceAs (Decidable (_ ∉ _))

/-- The key of an object in the store, and of a client in the caches. -/
def objectKey (ns name : String) : String := ns ++ "/" ++ name

/-- **A key determines the two names in it.** -/
theorem objectKey_inj {ns ns' name name' : String} (hns : NoSlash ns) (hns' : NoSlash ns')
    (h : objectKey ns name = objectKey ns' name') : ns = ns' ∧ name = name' := by
  have hlist := congrArg String.toList h
  simp only [objectKey, String.toList_append] at hlist
  rw [List.append_assoc, List.append_assoc] at hlist
  obtain ⟨h1, h2⟩ := Kube.append_cons_inj hns hns' hlist
  exact ⟨String.toList_inj.mp h1, String.toList_inj.mp h2⟩

/-- A client, by the namespace and the name of its service account. -/
structure ClientIdentity where
  ns : String
  name : String
  ns_noSlash : NoSlash ns
  deriving DecidableEq

/-- `CacheKey`. -/
def ClientIdentity.cacheKey (id : ClientIdentity) : String := objectKey id.ns id.name

theorem ClientIdentity.cacheKey_inj {id id' : ClientIdentity} (h : id.cacheKey = id'.cacheKey) :
    id = id' := by
  obtain ⟨ns, name, hns⟩ := id
  obtain ⟨ns', name', hns'⟩ := id'
  obtain ⟨rfl, rfl⟩ := objectKey_inj hns hns' h
  rfl

/-! ### Objects -/

/-- The scopes that the schema of the resource admits. -/
inductive PolicyScope where
  | global
  | namespace
  | client
  deriving DecidableEq

/-- A policy: the path of a file, and what is in it. -/
structure PolicyEntry where
  path : String
  content : String
  deriving DecidableEq

/-- An `AuthorizationPolicy`, as the informer holds it. -/
structure AuthorizationPolicy where
  ns : String
  name : String
  /-- `spec.scope`, if it is there. -/
  scope : Option PolicyScope
  /-- What `AuthorizationPolicyFromUnstructured` makes of the policies. -/
  policies : Except String (List PolicyEntry)
  ns_noSlash : NoSlash ns
  deriving DecidableEq

namespace AuthorizationPolicy

/-- The key that the informer files an object under. -/
def key (u : AuthorizationPolicy) : String := objectKey u.ns u.name

/-- The scope, with its default. -/
def effectiveScope (u : AuthorizationPolicy) : PolicyScope := u.scope.getD .client

variable {u : AuthorizationPolicy} {e : StoreEvent}

theorem ns_eq_of_key_eq {v : AuthorizationPolicy} (h : u.key = v.key) : u.ns = v.ns :=
  (objectKey_inj u.ns_noSlash v.ns_noSlash h).1

end AuthorizationPolicy

/-- `extractPolicies`: the policies of several objects; one that cannot be converted
is skipped. -/
def extractPolicies (objs : List AuthorizationPolicy) : List PolicyEntry :=
  objs.flatMap fun u => match u.policies with
    | .error _ => []
    | .ok ps => ps

/-! ### The store -/

/-- The informer's store: every object is filed under its own key. -/
structure Indexer where
  objects : GoMap String AuthorizationPolicy
  key_eq : ∀ k u, objects.lookup k = some u → u.key = k

namespace Indexer

/-- The store before the first event. -/
def empty : Indexer := ⟨∅, fun _ _ h => absurd h (by simp)⟩

/-- Add an object, or replace the one with its key. -/
def put (s : Indexer) (u : AuthorizationPolicy) : Indexer where
  objects := s.objects.insert u.key u
  key_eq := by
    intro k v hv
    rw [GoMap.lookup_insert_ite] at hv
    split at hv
    · cases hv
      exact (‹k = _›).symm
    · exact s.key_eq k v hv

/-- Delete the object with a key. -/
def delete (s : Indexer) (key : String) : Indexer where
  objects := s.objects.erase key
  key_eq := by
    intro k v hv
    rw [GoMap.lookup_erase_ite] at hv
    split at hv
    · cases hv
    · exact s.key_eq k v hv

theorem lookup_put (s : Indexer) (u : AuthorizationPolicy) (k : String) :
    (s.put u).objects.lookup k = if k = u.key then some u else s.objects.lookup k :=
  GoMap.lookup_insert_ite s.objects u.key k u

theorem lookup_delete (s : Indexer) (key k : String) :
    (s.delete key).objects.lookup k = if k = key then none else s.objects.lookup k :=
  GoMap.lookup_erase_ite s.objects key k

end Indexer

/-- A change of the store that the informer learns of. -/
inductive StoreEvent where
  | create (u : AuthorizationPolicy)
  | update (u : AuthorizationPolicy)
  | delete (key : String)

/-- The store after an event, with the object the event handlers are given: the new
one, or the last known state of a deleted one. -/
def Indexer.apply (s : Indexer) : StoreEvent → Option (Indexer × AuthorizationPolicy)
  | .create u => if s.objects.lookup u.key = none then some (s.put u, u) else none
  | .update u => if s.objects.lookup u.key = none then none else some (s.put u, u)
  | .delete key => (s.objects.lookup key).map fun u => (s.delete key, u)

/-- **What an event does**: the object with one key is another one or is gone, and
the handlers are given an object with that key – the one that was there, if none
is there any more. -/
theorem Indexer.apply_cases {s s' : Indexer} (h : s.apply e = some (s', u)) :
    (∀ k, k ≠ u.key → s'.objects.lookup k = s.objects.lookup k) ∧
      (s'.objects.lookup u.key = some u ∨
        s'.objects.lookup u.key = none ∧ s.objects.lookup u.key = some u) := by
  cases e with
  | create v =>
    rw [Indexer.apply] at h
    split at h
    · cases h
      exact ⟨fun k hk => by rw [lookup_put, if_neg hk], .inl (by rw [lookup_put, if_pos rfl])⟩
    · cases h
  | update v =>
    rw [Indexer.apply] at h
    split at h
    · cases h
    · cases h
      exact ⟨fun k hk => by rw [lookup_put, if_neg hk], .inl (by rw [lookup_put, if_pos rfl])⟩
  | delete key =>
    obtain ⟨v, hv, heq⟩ := Option.map_eq_some_iff.mp h
    obtain ⟨rfl, rfl⟩ := Prod.mk.inj heq
    obtain rfl := s.key_eq key v hv
    exact ⟨fun k hk => by rw [lookup_delete, if_neg hk],
      .inr ⟨by rw [lookup_delete, if_pos rfl], hv⟩⟩

/-! ### Reading the store -/

/-- A tier that several clients share. -/
inductive Tier where
  | global
  | namespace (ns : String)
  deriving DecidableEq

/-- The watcher's settings: the namespace that global policies have to be in, and
the order in which the informer lists objects. -/
structure Watcher where
  serviceNamespace : String
  order : KeyOrder String

namespace Watcher

variable (w : Watcher)

/-- `ByIndex` on the index by scope. -/
def byIndex (s : Indexer) (scope : PolicyScope) : List AuthorizationPolicy :=
  (s.objects.listing w.order).filter fun u => u.effectiveScope = scope

/-- `GetGlobalPolicies`: the global objects, as far as they are in the service
namespace. -/
def getGlobalPolicies (s : Indexer) : List AuthorizationPolicy :=
  (w.byIndex s .global).filter fun u => u.ns = w.serviceNamespace

/-- `GetNamespacePolicies`. -/
def getNamespacePolicies (s : Indexer) (ns : String) : List AuthorizationPolicy :=
  (w.byIndex s .namespace).filter fun u => u.ns = ns

/-- `GetPolicy`: the object with a name, whatever its scope. -/
def getPolicy (s : Indexer) (name ns : String) : Option AuthorizationPolicy :=
  s.objects.lookup (objectKey ns name)

/-! ### Which objects are in which tier -/

/-- The shared tier an object is in. -/
def sharedTier (u : AuthorizationPolicy) : Option Tier :=
  match u.effectiveScope with
  | .global => if u.ns = w.serviceNamespace then some .global else none
  | .namespace => some (.namespace u.ns)
  | .client => none

/-- The objects of a shared tier. -/
def inTier (s : Indexer) : Tier → List AuthorizationPolicy
  | .global => w.getGlobalPolicies s
  | .namespace ns => w.getNamespacePolicies s ns

theorem inTier_eq (s : Indexer) (t : Tier) :
    w.inTier s t = (s.objects.listing w.order).filter fun u => w.sharedTier u = some t := by
  cases t with
  | global =>
    rw [inTier, getGlobalPolicies, byIndex, List.filter_filter]
    congr 1
    funext u
    rw [sharedTier]
    cases u.effectiveScope <;> simp
  | «namespace» ns =>
    rw [inTier, getNamespacePolicies, byIndex, List.filter_filter]
    congr 1
    funext u
    rw [sharedTier]
    cases u.effectiveScope <;> simp

variable {w}

/-- **A change outside a tier is not seen in it**: if neither the object before an
event nor the one its handlers are given is in a tier, the tier stays as it is. -/
theorem inTier_apply {s s' : Indexer} {t : Tier} (h : s.apply e = some (s', u))
    (hu : w.sharedTier u ≠ some t)
    (hold : ∀ v, s.objects.lookup u.key = some v → w.sharedTier v ≠ some t) :
    w.inTier s' t = w.inTier s t := by
  obtain ⟨hother, hkey⟩ := Indexer.apply_cases h
  rw [inTier_eq, inTier_eq]
  refine GoMap.filter_listing_congr w.order fun k => ?_
  by_cases hk : k = u.key
  · subst hk
    have hbefore : (s.objects.lookup u.key).filter (fun u => w.sharedTier u = some t) = none := by
      rw [Option.filter_eq_none_iff]
      intro v hv
      simpa using hold v hv
    rw [hbefore, Option.filter_eq_none_iff]
    rintro v hv
    rcases hkey with hnew | ⟨hnone, -⟩
    · cases hnew.symm.trans hv
      simpa using hu
    · exact absurd (hnone.symm.trans hv) (by simp)
  · rw [hother k hk]

/-- A change is seen in the tier of one client only if it is the client's object
that changes. -/
theorem getPolicy_apply {s s' : Indexer} {id : ClientIdentity} (h : s.apply e = some (s', u))
    (hid : id.cacheKey ≠ u.key) : getPolicy s' id.name id.ns = getPolicy s id.name id.ns :=
  (Indexer.apply_cases h).1 _ hid

end Watcher

end Rossoctl.Bundle
