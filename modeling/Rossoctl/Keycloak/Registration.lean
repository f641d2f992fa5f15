import Rossoctl.Keycloak.Gates
import Rossoctl.Keycloak.Isolation
import Rossoctl.Runtime.Cluster
import Rossoctl.Webhook.Admission

/-!
# Registrations of clients

`ClientRegistrationReconciler` (`internal/controller/clientregistration_controller.go`) and the
client part of `internal/keycloak/admin.go`, with all requests answered. A request is a
namespaced name. It stands for the Deployment, else the StatefulSet, else the Sandbox of that
name. If it is an agent, or a tool that counts, it gets a client in Keycloak, a Secret with the
credentials of the client, and an annotation with the name of the Secret.

The name of the Secret is made from the namespace and the name of the workload. The id of the
client is too, or, with SPIRE, it is made from the namespace and the ServiceAccount.

The audience scope of the client, which is set up in between, is in
`Rossoctl.Keycloak.Audience`; it does not touch what is modelled here. It is the scope of the same
client (`Rossoctl.Keycloak.Setup.audience_identityOf`).
-/

namespace Rossoctl.Keycloak

open Kube Webhook

open Rossoctl.Runtime (WorkloadKind WorkloadKey)

/-! ### Clients -/

/-- What a client is asked for with. -/
structure ClientRegistrationParams where
  realm : String
  clientID : String
  clientName : String
  clientAuthType : String
  spiffeIDPAlias : String
  tokenExchangeEnable : Bool

/-- `keycloakClientRep`: the fields of a client that the operator manages. -/
structure ClientRep where
  clientID : String
  name : String
  standardFlowEnabled : Bool
  directAccessGrantsEnabled : Bool
  serviceAccountsEnabled : Bool
  fullScopeAllowed : Bool
  publicClient : Bool
  clientAuthenticatorType : String
  attributes : StringMap

/-- The authentication of agents that sign their own assertions. -/
def federatedJWT : String := "federated-jwt"

/-- The representation that `RegisterOrFetchClientWithToken` asks for. -/
def desiredRep (p : ClientRegistrationParams) : ClientRep :=
  let authType := if p.clientAuthType = "" then "client-secret" else p.clientAuthType
  let attrs := (∅ : StringMap).insert "standard.token.exchange.enabled"
    (if p.tokenExchangeEnable then "true" else "false")
  { clientID := p.clientID
    name := p.clientName
    standardFlowEnabled := true
    directAccessGrantsEnabled := true
    serviceAccountsEnabled := true
    fullScopeAllowed := false
    publicClient := false
    clientAuthenticatorType := authType
    attributes :=
      if authType = federatedJWT then
        (attrs.insert "jwt.credential.issuer"
          (if p.spiffeIDPAlias = "" then "spire-spiffe" else p.spiffeIDPAlias)).insert
          "jwt.credential.sub" p.clientID
      else attrs }

/-- A field that the operator manages is not as it should be. -/
def clientRepDrifted (current desired : ClientRep) : Bool :=
  current.name ≠ desired.name ∨ current.standardFlowEnabled ≠ desired.standardFlowEnabled ∨
    current.directAccessGrantsEnabled ≠ desired.directAccessGrantsEnabled ∨
    current.serviceAccountsEnabled ≠ desired.serviceAccountsEnabled ∨
    current.fullScopeAllowed ≠ desired.fullScopeAllowed ∨
    current.publicClient ≠ desired.publicClient ∨
    current.clientAuthenticatorType ≠ desired.clientAuthenticatorType ∨
    desired.attributes.entries.any fun e => valueOf current.attributes e.1 ≠ e.2

/-- `mergeDesiredClientIntoMap`: other attributes stay. -/
def mergeDesired (current desired : ClientRep) : ClientRep :=
  { desired with
    attributes :=
      desired.attributes.entries.foldl (fun m e => m.insert e.1 e.2) current.attributes }

/-- A client in Keycloak, with the secret that Keycloak made for it. -/
structure Client where
  rep : ClientRep
  secret : String

/-- A client is found by the server, the realm and its id. -/
structure ClientKey where
  url : String
  realm : String
  clientID : String
  deriving DecidableEq

/-! ### The cluster -/

/-- The template of a workload. -/
structure Template where
  /-- There may be none. -/
  labels : Option StringMap := none
  annotations : StringMap := ∅
  serviceAccountName : String := ""

/-- What controls an object. -/
inductive Owner where
  | workload (kind : WorkloadKind) (name : String)
  | other (description : String)
  deriving DecidableEq

/-- A Secret with the credentials of a client. -/
structure CredentialsSecret where
  controller : Option Owner := none
  data : StringMap := ∅

/-- The cluster and the Keycloak servers, as far as the controller reads and writes them. -/
structure World where
  gates : ClusterGates := {}
  workloads : GoMap WorkloadKey Template := ∅
  /-- The data of the ConfigMaps `authbridge-config`, by namespace. -/
  configs : GoMap String StringMap := ∅
  secrets : GoMap NamespacedName CredentialsSecret := ∅
  clients : GoMap ClientKey Client := ∅
  /-- How many secrets Keycloak has made. -/
  issued : ℕ := 0

/-- Why a workload gets no client: empty if it gets one. -/
def skipReason (labels : Option StringMap) (injectTools : Bool) : String :=
  match labels with
  | none => "pod template has no labels"
  | some labels =>
    let type := valueOf labels rossoctlTypeLabel
    if type = rossoctlTypeAgent then ""
    else if type = rossoctlTypeTool then
      if injectTools then ""
      else "rossoctl.io/type is tool but cluster injectTools feature gate is disabled"
    else if type = "" then "rossoctl.io/type label is missing or not agent/tool"
    else "rossoctl.io/type=" ++ quoted type ++ " is not agent or tool"

/-- The controller and the webhook look at the same labels. -/
theorem skipReason_eq_empty_iff (labels : StringMap) (injectTools : Bool) :
    skipReason (some labels) injectTools = "" ↔
      workloadWantsOperatorClientReg labels injectTools = true := by
  rw [skipReason, workloadWantsOperatorClientReg]
  split
  · rename_i h
    simp [h]
  · rename_i hagent
    split
    · rename_i htool
      cases injectTools <;> simp [htool, rossoctlTypeAgent, rossoctlTypeTool]
    · rename_i htool
      refine iff_of_false ?_ (by simp [hagent, htool])
      split
      · decide
      · intro h
        have hfirst := (String.append_eq_empty_iff.mp (String.append_eq_empty_iff.mp h).1).1
        exact absurd hfirst (by decide)

/-- `authbridgeConfig`, as far as it is read here. -/
structure AuthbridgeConfig where
  keycloakURL : String := ""
  keycloakRealm : String := ""
  clientAuthType : String := ""
  spiffeIDPAlias : String := ""
  keycloakTokenExchangeEnabled : String := ""

/-- `readAuthbridgeConfigMap`: a ConfigMap that is not there says nothing. -/
def readAuthbridgeConfigMap (w : World) (ns : String) : AuthbridgeConfig :=
  match w.configs.lookup ns with
  | none => {}
  | some data =>
    { keycloakURL := valueOf data "KEYCLOAK_URL"
      keycloakRealm := valueOf data "KEYCLOAK_REALM"
      clientAuthType := valueOf data "CLIENT_AUTH_TYPE"
      spiffeIDPAlias := valueOf data "SPIFFE_IDP_ALIAS"
      keycloakTokenExchangeEnabled := valueOf data "KEYCLOAK_TOKEN_EXCHANGE_ENABLED" }

/-! ### The controller -/

/-- The operator and the Keycloak server it works with. -/
structure Setup where
  spireTrustDomain : String := ""
  /-- The first eight bytes of the SHA-256 sum of a text, in hexadecimal digits. -/
  digest : String → String
  /-- The secret of the nth client. -/
  newSecret : ℕ → String

/-- `KeycloakClientCredentialsSecretName`. -/
def Setup.secretName (s : Setup) (ns workload : String) : String :=
  "rossoctl-keycloak-client-credentials-" ++
    s.digest (ns ++ "\x00" ++ workload ++ "\x00rossoctl-keycloak-client-credentials")

/-- The controller and the webhook give a Secret the same name. -/
theorem Setup.secretName_eq (s : Setup) (wh : AuthBridgeWebhook) (h : wh.digest = s.digest)
    (ns workload : String) :
    wh.keycloakClientCredentialsSecretName ns workload = s.secretName ns workload := by
  cases wh
  subst h
  rfl

/-- The URL without trailing slashes. -/
def trimBaseURL (base : String) : String :=
  String.ofList ((trimSpace base).toList.reverse.dropWhile (· == '/')).reverse

/-- **What a workload is registered as**: where, the client that is asked for, and the Secret. -/
structure Identity where
  baseURL : String
  params : ClientRegistrationParams
  secretKey : NamespacedName

namespace Identity

variable (i : Identity)

/-- Where the client is found. -/
def clientKey : ClientKey := ⟨trimBaseURL i.baseURL, i.params.realm, i.params.clientID⟩

/-- The client as it should be. -/
def rep : ClientRep := desiredRep i.params

/-- Agents that sign their own assertions have no use for the secret of the client. -/
def credSecret (clientSecret : String) : String :=
  if i.params.clientAuthType = federatedJWT then "" else clientSecret

end Identity

namespace Setup

variable (s : Setup)

/-- The registration of a workload with a template, as `reconcileOne` works it out: none as
long as the namespace does not say where Keycloak is, or the client has no id. -/
def identityOf (w : World) (key : WorkloadKey) (t : Template) : Option Identity :=
  let ns := key.name.ns
  let ab := readAuthbridgeConfigMap w ns
  if ab.keycloakURL = "" ∨ ab.keycloakRealm = "" then none
  else
    match resolveKeycloakClientID ns key.name.name t.serviceAccountName
      (s.spireTrustDomain != "") s.spireTrustDomain with
    | .error _ => none
    | .ok clientID =>
      some
        { baseURL := ab.keycloakURL
          params :=
            { realm := ab.keycloakRealm
              clientID
              clientName := ns ++ "/" ++ key.name.name
              clientAuthType :=
                if trimSpace ab.clientAuthType = "" then "client-secret"
                else trimSpace ab.clientAuthType
              spiffeIDPAlias := ab.spiffeIDPAlias
              tokenExchangeEnable := trimSpace ab.keycloakTokenExchangeEnabled != "false" }
          secretKey := ⟨ns, s.secretName ns key.name.name⟩ }

/-- **The two halves of `reconcileOne` are about one client**: the audience scope that
`Rossoctl.Keycloak.reconcileAudience` sets up is called after the client that is registered, and
its id is the audience. -/
theorem audience_identityOf {reg : Registration} (hreg : reg.spireTrustDomain = s.spireTrustDomain)
    {w : World} {key : WorkloadKey} {t : Template} {i : Identity}
    (h : s.identityOf w key t = some i) (sv : Server) (realm : Realm) (uuid : String)
    (faults : Faults) :
    ∃ p : AudienceParams, p.clientName = i.params.clientName ∧
      p.audienceClientID = i.params.clientID ∧
      reconcileAudience sv reg realm ⟨key.name.ns, key.name.name, t.serviceAccountName, uuid⟩
        faults = afterEnsure sv p faults realm := by
  rw [identityOf] at h
  split at h
  · cases h
  · split at h
    · cases h
    · rename_i clientID hid
      cases h
      rw [← hreg] at hid
      have hclient : reg.clientID ⟨key.name.ns, key.name.name, t.serviceAccountName, uuid⟩ =
          .ok clientID := hid
      refine ⟨reg.params ⟨_, _, t.serviceAccountName, uuid⟩ clientID, rfl, rfl, ?_⟩
      rw [reconcileAudience, hclient]

/-- `RegisterOrFetchClientWithToken`: the secret of the client, and whether a client was
created or updated. -/
def registerOrFetchClient (w : World) (i : Identity) : World × String × List ClientKey :=
  match w.clients.lookup i.clientKey with
  | none =>
    ({ w with
        clients := w.clients.insert i.clientKey ⟨i.rep, s.newSecret w.issued⟩
        issued := w.issued + 1 }, s.newSecret w.issued, [i.clientKey])
  | some client =>
    if clientRepDrifted client.rep i.rep then
      ({ w with
          clients := w.clients.insert i.clientKey
            { client with rep := mergeDesired client.rep i.rep } }, client.secret, [i.clientKey])
    else (w, client.secret, [])

end Setup

/-- A workload as the controller of an object. -/
def ownerOf (key : WorkloadKey) : Owner := .workload key.kind key.name.name

/-- The Secret as it is written for a workload. -/
def writeCredentials (w : World) (key : WorkloadKey) (secretKey : NamespacedName)
    (sec : CredentialsSecret) (clientID clientSecret : String) : World :=
  { w with
    secrets := w.secrets.insert secretKey
      { controller := some (ownerOf key)
        data := (sec.data.insert "client-secret.txt" clientSecret).insert "client-id.txt"
          clientID } }

/-- `ensureClientCredentialsSecret`. `SetControllerReference` fails on a Secret that something
else controls. -/
def ensureClientCredentialsSecret (w : World) (key : WorkloadKey) (secretKey : NamespacedName)
    (clientID clientSecret : String) : Option World :=
  match w.secrets.lookup secretKey with
  | none => some (writeCredentials w key secretKey {} clientID clientSecret)
  | some sec =>
    if sec.controller = none ∨ sec.controller = some (ownerOf key) then
      some (writeCredentials w key secretKey sec clientID clientSecret)
    else none

/-- `patchTemplate`, with `injectKeycloakClientCredentialsAnnotation`. -/
def patchTemplate (w : World) (key : WorkloadKey) (secretName : String) : World :=
  match w.workloads.lookup key with
  | none => w
  | some t =>
    if valueOf t.annotations annotationKeycloakClientSecretName = secretName then w
    else
      { w with
        workloads := w.workloads.insert key
          { t with
            annotations := t.annotations.insert annotationKeycloakClientSecretName secretName } }

/-- The object that a request stands for: the first of its name, over the kinds. -/
def resolveRequest (w : World) (req : NamespacedName) : Option WorkloadKey :=
  ([⟨.deployment, req⟩, ⟨.statefulSet, req⟩, ⟨.sandbox, req⟩] : List WorkloadKey).find? fun key =>
    (w.workloads.lookup key).isSome

namespace Setup

variable (s : Setup)

/-- The rest of `reconcileOne`: client, Secret, annotation. -/
def register (w : World) (key : WorkloadKey) (i : Identity) : World × List ClientKey :=
  let (w₁, secret, written) := s.registerOrFetchClient w i
  match ensureClientCredentialsSecret w₁ key i.secretKey i.params.clientID
      (i.credSecret secret) with
  | none => (w₁, written)
  | some w₂ => (patchTemplate w₂ key i.secretKey.name, written)

/-- `reconcileOne`, but for the audience scope. -/
def reconcileOne (w : World) (key : WorkloadKey) (t : Template) : World × List ClientKey :=
  if skipReason t.labels w.gates.injectTools ≠ "" then (w, [])
  else
    match s.identityOf w key t with
    | none => (w, [])
    | some i => s.register w key i

/-- **A reconcile**: the world after it, and the clients it has created or updated. -/
def reconcile (w : World) (req : NamespacedName) : World × List ClientKey :=
  if !w.gates.globalOn || !w.gates.clientReg then (w, [])
  else
    match resolveRequest w req with
    | none => (w, [])
    | some key =>
      match w.workloads.lookup key with
      | none => (w, [])
      | some t => s.reconcileOne w key t

/-- One reconcile of a run. -/
def step (w : World) (req : NamespacedName) : Option World := some (s.reconcile w req).1

/-- The clients that a reconcile creates or updates. -/
def written (w : World) (req : NamespacedName) : List ClientKey := (s.reconcile w req).2

end Setup

end Rossoctl.Keycloak
