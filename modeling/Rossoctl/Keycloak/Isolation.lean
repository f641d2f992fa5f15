import Mathlib.Algebra.Order.BigOperators.Group.List
import Mathlib.Algebra.Order.Ring.Nat
import Rossoctl.Keycloak.Audience
import Rossoctl.Run

/-!
# Workloads that share a realm

The controller of client registrations
(`internal/controller/clientregistration_controller.go`) calls `EnsureAudienceScope` for
one workload after the other, in one realm. The scope of a workload is called after its
namespace and its name, joined with a dash – which both may contain.

A history is a run (`Rossoctl.run`) of such calls, in each of which any requests may fail.
`Rossoctl.Keycloak.isolated_iff` says for which sets of workloads they keep out of each
other's way.
-/

namespace Rossoctl.Keycloak

open Kube Webhook List

/-! ### Workloads and their clients -/

/-- A workload that the operator registers a client for. -/
structure Tenant where
  ns : String
  workload : String
  serviceAccount : String := ""
  /-- The internal id of its client. -/
  agentClientUUID : String := ""
  deriving DecidableEq

/-- Namespace and name, which identify it. -/
def Tenant.key (t : Tenant) : String × String := (t.ns, t.workload)

/-- `resolveKeycloakClientID`: with SPIRE the identity of the service account, which must not be
the default one. -/
def resolveKeycloakClientID (ns workloadName serviceAccount : String) (spireEnabled : Bool)
    (trustDomain : String) : Except String String :=
  let sa := if trimSpace serviceAccount = "" then "default" else trimSpace serviceAccount
  if !spireEnabled then .ok (ns ++ "/" ++ workloadName)
  else if sa = "default" then
    .error ("SPIRE enabled: set spec.template.spec.serviceAccountName to a dedicated " ++
      "ServiceAccount (not default) on the workload for a stable SPIFFE client ID")
  else if trustDomain = "" then
    .error ("SPIRE enabled: operator --spire-trust-domain is required for operator-managed " ++
      "client registration")
  else .ok ("spiffe://" ++ trustDomain ++ "/ns/" ++ ns ++ "/sa/" ++ sa)

/-- `parsePlatformClientIDs`. -/
def parsePlatformClientIDs (raw : String) : List String :=
  let ids := ((trimSpace raw).splitOn ",").map trimSpace |>.filter (· ≠ "")
  if trimSpace raw = "" ∨ ids = [] then ["rossoctl"] else ids

/-- The configuration of the registrations. -/
structure Registration where
  spireTrustDomain : String := ""
  platformClientIDs : String := ""
  keycloakAudienceScopeEnabled : String := ""

namespace Registration

variable (reg : Registration)

/-- The client id of a workload. -/
def clientID (t : Tenant) : Except String String :=
  resolveKeycloakClientID t.ns t.workload t.serviceAccount (reg.spireTrustDomain != "")
    reg.spireTrustDomain

def audienceScopeOn : Bool := trimSpace reg.keycloakAudienceScopeEnabled != "false"

/-- What `reconcileOne` calls `EnsureAudienceScope` with. -/
def params (t : Tenant) (clientID : String) : AudienceParams where
  clientName := t.ns ++ "/" ++ t.workload
  audienceClientID := clientID
  platformClientIDs := parsePlatformClientIDs reg.platformClientIDs
  audienceScopeEnabled := reg.audienceScopeOn
  agentClientUUID := t.agentClientUUID

end Registration

/-- The scope of a workload. -/
def Tenant.scopeName (t : Tenant) : String := audienceScopeName (t.ns ++ "/" ++ t.workload)

/-- The audience part of `reconcileOne`: nothing for a workload without a client id yet. -/
def reconcileAudience (sv : Server) (reg : Registration) (realm : Realm) (t : Tenant)
    (faults : Faults) : Realm :=
  match reg.clientID t with
  | .error _ => realm
  | .ok id => afterEnsure sv (reg.params t id) faults realm

/-- One call of a history. -/
def reconcileStep (sv : Server) (reg : Registration) (realm : Realm) (a : Tenant × Faults) :
    Option Realm :=
  some (reconcileAudience sv reg realm a.1 a.2)

/-! ### Names -/

/-- A DNS label or subdomain, as namespaces and workloads have for names. -/
def validName (s : String) : Bool :=
  s.toList.all (fun c => c.isLower || c.isDigit || c = '-' || c = '.') &&
    s.toList.head?.any (fun c => c.isLower || c.isDigit) &&
    s.toList.getLast?.any (fun c => c.isLower || c.isDigit)

theorem slash_not_mem {s : String} (h : validName s = true) : '/' ∉ s.toList := by
  rw [validName, Bool.and_eq_true, Bool.and_eq_true, all_eq_true] at h
  intro hmem
  exact absurd (h.1.1 _ hmem) (by decide)

/-- **An overlap**: the namespace of one workload continues, after a dash, with the
beginning of the name of the other. -/
def Tenant.Overlaps (t t' : Tenant) : Prop :=
  ∃ x, t'.ns = t.ns ++ "-" ++ x ∧ t.workload = x ++ "-" ++ t'.workload

theorem map_slash {s : String} (h : validName s = true) :
    s.toList.map (fun c => if c = '/' then '-' else c) = s.toList := by
  conv_rhs => rw [← map_id s.toList]
  refine map_congr_left fun c hc => if_neg ?_
  rintro rfl
  exact slash_not_mem h hc

variable {t t' : Tenant} {realm : Realm} {id : String}

theorem scopeName_toList (hns : validName t.ns = true) (hworkload : validName t.workload = true) :
    t.scopeName.toList =
      "agent-".toList ++ (t.ns.toList ++ '-' :: t.workload.toList) ++ "-aud".toList := by
  rw [Tenant.scopeName, audienceScopeName, String.toList_append, String.toList_append,
    String.toList_map, String.toList_append, String.toList_append, map_append,
    map_append, map_slash hns, map_slash hworkload, append_assoc t.ns.toList]
  rfl

/-- Joined with a dash, the names of two workloads agree only where they overlap. -/
theorem joined_eq_iff :
    t.ns.toList ++ '-' :: t.workload.toList = t'.ns.toList ++ '-' :: t'.workload.toList ↔
      t.key = t'.key ∨ t.Overlaps t' ∨ t'.Overlaps t := by
  have hoverlap : ∀ t t' : Tenant, t.Overlaps t' ↔ ∃ x : List Char,
      t'.ns.toList = t.ns.toList ++ '-' :: x ∧
        t.workload.toList = x ++ '-' :: t'.workload.toList := by
    intro t t'
    constructor
    · rintro ⟨x, hns, hworkload⟩
      refine ⟨x.toList, ?_, ?_⟩
      · simp [hns]
      · simp [hworkload]
    · rintro ⟨x, hns, hworkload⟩
      refine ⟨String.ofList x, ?_, ?_⟩
      · rw [← String.toList_inj]
        simp [hns]
      · rw [← String.toList_inj]
        simp [hworkload]
  have hkey : t.key = t'.key ↔ t.ns.toList = t'.ns.toList ∧
      t.workload.toList = t'.workload.toList := by
    rw [Tenant.key, Tenant.key, Prod.mk.injEq, String.toList_inj, String.toList_inj]
  rw [append_eq_append_iff, hkey, hoverlap, hoverlap]
  constructor
  · rintro (⟨as, hns, htail⟩ | ⟨as, hns, htail⟩)
    · cases as with
      | nil =>
        simp_all
      | cons c as =>
        obtain ⟨rfl, hrest⟩ := List.cons.inj htail
        exact .inr (.inl ⟨as, hns, hrest⟩)
    · cases as with
      | nil =>
        simp_all
      | cons c as =>
        obtain ⟨rfl, hrest⟩ := List.cons.inj htail
        exact .inr (.inr ⟨as, hns, hrest⟩)
  · rintro (⟨hns, hworkload⟩ | ⟨x, hns, hworkload⟩ | ⟨x, hns, hworkload⟩)
    · exact .inl ⟨[], by simp [hns], by simp [hworkload]⟩
    · exact .inl ⟨'-' :: x, hns, by simp [hworkload]⟩
    · exact .inr ⟨'-' :: x, hns, by simp [hworkload]⟩

/-- **Scopes of one name**: for valid names, of workloads that are the same or overlap. -/
theorem scopeName_eq_iff (hns : validName t.ns = true) (hworkload : validName t.workload = true)
    (hns' : validName t'.ns = true) (hworkload' : validName t'.workload = true) :
    t.scopeName = t'.scopeName ↔ t.key = t'.key ∨ t.Overlaps t' ∨ t'.Overlaps t := by
  rw [← joined_eq_iff, ← String.toList_inj, scopeName_toList hns hworkload,
    scopeName_toList hns' hworkload', append_left_inj, append_right_inj]

theorem key_ne_of_overlaps (h : t.Overlaps t') : t.key ≠ t'.key := by
  obtain ⟨x, hns, -⟩ := h
  intro hkey
  have hlen := congrArg String.length ((congrArg Prod.fst hkey).trans hns)
  rw [String.length_append, String.length_append] at hlen
  have hdash : ("-" : String).length = 1 := rfl
  simp only [Tenant.key] at hlen
  omega

/-! ### One call, and histories of them -/

variable {sv : Server} {reg : Registration}

/-- One call leaves the scopes of other names alone, and the realm in order. -/
theorem evolves_reconcileAudience (hin : realm.InOrder) (t : Tenant) (faults : Faults) :
    Evolves t.scopeName realm (reconcileAudience sv reg realm t faults) := by
  rw [reconcileAudience]
  split
  · exact .refl realm
  · rename_i id _
    have hevolves := evolves_afterEnsure sv hin (reg.params t id) faults
    exact hevolves

/-- A call in which all requests are answered makes the audience right. -/
theorem audienceOf_reconcileAudience (hin : realm.InOrder) (hid : reg.clientID t = .ok id)
    (hon : reg.audienceScopeOn = true) :
    (reconcileAudience sv reg realm t []).audienceOf t.scopeName = some id := by
  have henabled : (reg.params t id).audienceScopeEnabled = true := by
    rw [Registration.params, hon]
  have hright := audienceOf_afterEnsure sv hin (reg.params t id) henabled
  rw [reconcileAudience, hid]
  exact hright

/-- **One call for anybody** keeps a right audience, if the scopes of others have other
names. -/
theorem audienceOf_reconcileAudience_of_eq (hin : realm.InOrder) (hid : reg.clientID t = .ok id)
    (hne : t' = t ∨ t'.scopeName ≠ t.scopeName) (haud : realm.audienceOf t.scopeName = some id)
    (faults : Faults) :
    (reconcileAudience sv reg realm t' faults).audienceOf t.scopeName = some id := by
  rcases hne with rfl | hne
  · have hagain := audienceOf_afterEnsure_again sv hin (reg.params t' id) faults haud
    rw [reconcileAudience, hid]
    exact hagain
  · rw [audienceOf_congr ((evolves_reconcileAudience hin t' faults).others _ hne.symm)]
    exact haud

/-- **A history** with a call for the workload in which all requests are answered ends with
the audience right, if the scopes of others have other names. -/
theorem audienceOf_history (hin : realm.InOrder) (hid : reg.clientID t = .ok id)
    (hon : reg.audienceScopeOn = true) {history : List (Tenant × Faults)}
    (hmem : (t, []) ∈ history) (hne : ∀ a ∈ history, a.1 = t ∨ a.1.scopeName ≠ t.scopeName) :
    ∃ realm', run (reconcileStep sv reg) realm history = some realm' ∧
      realm'.audienceOf t.scopeName = some id := by
  -- after the call in question every further one keeps the audience
  have hkeep : ∀ (history : List (Tenant × Faults)) (realm : Realm), realm.InOrder →
      (∀ a ∈ history, a.1 = t ∨ a.1.scopeName ≠ t.scopeName) →
      realm.audienceOf t.scopeName = some id →
      ∃ realm', run (reconcileStep sv reg) realm history = some realm' ∧
        realm'.audienceOf t.scopeName = some id := by
    intro history
    induction history with
    | nil => exact fun realm _ _ haud => ⟨realm, rfl, haud⟩
    | cons a history ih =>
      intro realm hin hne haud
      exact ih _ ((evolves_reconcileAudience hin a.1 a.2).inOrder hin)
        (fun b hb => hne b (mem_cons_of_mem _ hb))
        (audienceOf_reconcileAudience_of_eq hin hid (hne a mem_cons_self) haud a.2)
  induction history generalizing realm with
  | nil => cases hmem
  | cons a history ih =>
    have hin' : (reconcileAudience sv reg realm a.1 a.2).InOrder :=
      (evolves_reconcileAudience hin a.1 a.2).inOrder hin
    have hrest := fun b hb => hne b (mem_cons_of_mem a hb)
    rcases mem_cons.mp hmem with rfl | hmem
    · exact hkeep history _ hin' hrest (audienceOf_reconcileAudience hin hid hon)
    · exact ih hin' hmem hrest

/-- **Isolation** of a set of workloads in one realm. -/
structure Isolated (sv : Server) (reg : Registration) (tenants : List Tenant) : Prop where
  names : ∀ t ∈ tenants, ∀ t' ∈ tenants, t.key ≠ t'.key → t.scopeName ≠ t'.scopeName
  /-- A call for one does nothing to the scope of another, whatever requests fail. -/
  others : ∀ t ∈ tenants, ∀ t' ∈ tenants, t.key ≠ t'.key → ∀ realm : Realm, realm.InOrder →
    ∀ faults, (reconcileAudience sv reg realm t faults).scopeNamed t'.scopeName =
      realm.scopeNamed t'.scopeName
  /-- After calls in any order, each one who has had an undisturbed call has its own client id
  for audience. -/
  audience : ∀ realm : Realm, realm.InOrder → ∀ history : List (Tenant × Faults),
    (∀ a ∈ history, a.1 ∈ tenants) → ∀ t id, (t, []) ∈ history → reg.clientID t = .ok id →
    ∃ realm', run (reconcileStep sv reg) realm history = some realm' ∧
      realm'.audienceOf t.scopeName = some id

/-- **Audience isolation**: workloads with valid names that share a realm are isolated from
each other if, and only if, no two of them overlap. -/
theorem isolated_iff (sv : Server) (reg : Registration) (tenants : List Tenant)
    (hvalid : ∀ t ∈ tenants, validName t.ns = true ∧ validName t.workload = true)
    (hkey : ∀ t ∈ tenants, ∀ t' ∈ tenants, t.key = t'.key → t = t')
    (hon : reg.audienceScopeOn = true) :
    Isolated sv reg tenants ↔ ∀ t ∈ tenants, ∀ t' ∈ tenants, ¬ t.Overlaps t' := by
  have hnames : ∀ t ∈ tenants, ∀ t' ∈ tenants,
      (t.scopeName = t'.scopeName ↔ t.key = t'.key ∨ t.Overlaps t' ∨ t'.Overlaps t) :=
    fun t ht t' ht' => scopeName_eq_iff (hvalid t ht).1 (hvalid t ht).2 (hvalid t' ht').1
      (hvalid t' ht').2
  constructor
  · intro h t ht t' ht' hoverlap
    exact h.names t ht t' ht' (key_ne_of_overlaps hoverlap)
      ((hnames t ht t' ht').mpr (.inr (.inl hoverlap)))
  · intro hnone
    have hdistinct : ∀ t ∈ tenants, ∀ t' ∈ tenants, t.key ≠ t'.key →
        t.scopeName ≠ t'.scopeName := by
      intro t ht t' ht' hne heq
      rcases (hnames t ht t' ht').mp heq with h | h | h
      · exact hne h
      · exact hnone t ht t' ht' h
      · exact hnone t' ht' t ht h
    refine ⟨hdistinct, fun t ht t' ht' hne realm hin faults => ?_,
      fun realm hin history hhistory t id hmem hid => ?_⟩
    · exact (evolves_reconcileAudience hin t faults).others _ (hdistinct t ht t' ht' hne).symm
    · refine audienceOf_history hin hid hon hmem fun a ha => ?_
      have ht := hhistory _ hmem
      by_cases h : a.1.key = t.key
      · exact .inl (hkey _ (hhistory a ha) t ht h)
      · exact .inr (hdistinct _ (hhistory a ha) t ht h)

/-- A server that makes ids longer and longer. -/
def unaryServer : Server where
  newID ids := String.ofList (List.replicate ((ids.map String.length).sum + 1) 'i')
  newID_fresh ids hmem := by
    have hlen := le_sum_of_mem (mem_map_of_mem (f := String.length) hmem)
    rw [String.length_ofList, length_replicate] at hlen
    omega
  newID_ne ids h := by
    have hlen := congrArg String.length h
    rw [String.length_ofList, length_replicate] at hlen
    exact Nat.succ_ne_zero _ hlen
  sendsLocation := true

/-- Workloads of one name in two namespaces. -/
theorem isolated_weather :
    Isolated unaryServer {} [⟨"team1", "weather", "", ""⟩, ⟨"team2", "weather", "", ""⟩] := by
  refine (isolated_iff unaryServer {} [⟨"team1", "weather", "", ""⟩, ⟨"team2", "weather", "", ""⟩]
    (by decide) (by decide) (by decide)).mpr ?_
  -- namespaces of one length cannot overlap
  rintro t ht t' ht' ⟨x, hns, -⟩
  have hlen := congrArg String.length hns
  rw [String.length_append, String.length_append] at hlen
  have hns₅ : ∀ t ∈ [(⟨"team1", "weather", "", ""⟩ : Tenant), ⟨"team2", "weather", "", ""⟩],
      t.ns.length = 5 := by decide
  rw [hns₅ t ht, hns₅ t' ht'] at hlen
  have hdash : ("-" : String).length = 1 := rfl
  omega

/-- The realm once the scope of `b` in `team-a` is there. -/
def dashRealm : Realm where
  scopes := [⟨"s1", "agent-team-a-b-aud",
    [{ audienceMapper "agent-team-a-b-aud" "team-a/b" with id := "m1" }]⟩]

/-- **Two workloads with one scope**: `b` in `team-a` and `a-b` in `team`. A call for the
second gives the tokens of the first the audience of the second. -/
theorem not_isolated_dash :
    dashRealm.audienceOf (Tenant.scopeName ⟨"team-a", "b", "", ""⟩) = some "team-a/b" ∧
      (reconcileAudience unaryServer {} dashRealm ⟨"team", "a-b", "", ""⟩ []).audienceOf
        (Tenant.scopeName ⟨"team-a", "b", "", ""⟩) = some "team/a-b" ∧
      ¬ Isolated unaryServer {} [⟨"team-a", "b", "", ""⟩, ⟨"team", "a-b", "", ""⟩] := by
  refine ⟨by decide +kernel, by decide +kernel, fun h => ?_⟩
  have hne := h.names ⟨"team-a", "b", "", ""⟩ mem_cons_self ⟨"team", "a-b", "", ""⟩
    (mem_cons_of_mem _ mem_cons_self) (by decide)
  exact hne ((scopeName_eq_iff (by decide) (by decide) (by decide) (by decide)).mpr
    (.inr (.inr ⟨"a", by decide, by decide⟩)))

end Rossoctl.Keycloak
