import Rossoctl.Runtime.Reconcile

/-!
# The trust that the meshes share

`internal/controller/sharedtrust_controller.go`: two meshes get their signing certificates
from one root. For each of them cert-manager keeps an intermediate certificate in a Secret,
and the controller copies it into the Secret `cacerts`, where the control plane reads it at
its start. A copy that is new or different calls for a restart of the control planes and of
the data plane, which is an annotation on their templates.

The cluster also keeps a record that no code reads (`Rossoctl.Mesh.Cluster.owed`): which
workloads have not been restarted since the last time a copy was written.
-/

namespace Rossoctl.Mesh

open Kube Webhook

open Rossoctl.Runtime (ApiError IsConflict)

/-! ### Constants -/

def rootCASecret : NamespacedName := ⟨"cert-manager", "istio-mesh-root-ca-secret"⟩

def managedCertificates : List NamespacedName :=
  [⟨"cert-manager", "istio-mesh-root-ca"⟩, ⟨"istio-system", "istio-cacerts-default"⟩,
    ⟨"openshift-ingress", "istio-cacerts-openshift-gateway"⟩]

/-- The Secrets with the intermediate certificates. -/
def intermediateConfigs : List NamespacedName :=
  [⟨"istio-system", "istio-cacerts-default-cert"⟩, ⟨"openshift-ingress", "istio-cacerts-og-cert"⟩]

/-- The copy for the mesh of an intermediate certificate. -/
def cacertsOf (intermediate : NamespacedName) : NamespacedName := ⟨intermediate.ns, "cacerts"⟩

def staleConfigMapName : String := "istio-ca-root-cert"

def staleConfigMapNamespaces : List String :=
  ["rossoctl-system", "gateway-system", "keycloak", "mcp-system", "istio-system", "istio-ztunnel"]

def restartedAt : String := "kubectl.kubernetes.io/restartedAt"

/-- A workload of the mesh. -/
inductive Workload where
  | deployment (name : NamespacedName)
  | daemonSet (name : NamespacedName)
  deriving DecidableEq

def restartedDeployments : List Workload :=
  [.deployment ⟨"istio-system", "istiod"⟩,
    .deployment ⟨"openshift-ingress", "istiod-openshift-gateway"⟩]

def ztunnel : Workload := .daemonSet ⟨"istio-ztunnel", "ztunnel"⟩

/-- All that is restarted. -/
def restartList : List Workload := restartedDeployments ++ [ztunnel]

/-! ### The cluster -/

/-- What the controller reads and writes. -/
structure Cluster where
  /-- The conditions of a certificate: types and statuses. -/
  certificates : GoMap NamespacedName (List (String × ConditionStatus)) := ∅
  secrets : GoMap NamespacedName StringMap := ∅
  configMaps : GoMap NamespacedName StringMap := ∅
  /-- The annotations of the templates. -/
  workloads : GoMap Workload StringMap := ∅
  /-- The workloads that have not been restarted since the last time a copy was written. -/
  owed : List Workload := []

/-- The requests of the controller. -/
inductive Request where
  | getCertificate (name : NamespacedName)
  | getSecret (name : NamespacedName)
  | createSecret (name : NamespacedName) (data : StringMap)
  | updateSecret (name : NamespacedName) (data : StringMap)
  | deleteSecret (name : NamespacedName)
  | getConfigMap (name : NamespacedName)
  | deleteConfigMap (name : NamespacedName)
  | getWorkload (key : Workload)
  | updateWorkload (key : Workload) (annotations : StringMap)

/-- What the API server answers. -/
inductive Response where
  | certificate (conditions : List (String × ConditionStatus))
  | secret (data : StringMap)
  | configMap (data : StringMap)
  | workload (annotations : StringMap)
  | ok
  | notFound
  | conflict
  | failed (message : String)

namespace Response

/-- A failure that says nothing about the cluster. -/
def Transient : Response → Prop
  | conflict => True
  | failed _ => True
  | _ => False

/-- The error that a client makes of a response it cannot use. -/
def error : Response → ApiError
  | notFound => .notFound
  | conflict => .conflict
  | failed message => .other message
  | _ => .other "unexpected response"

def certificate! : Response → Except ApiError (List (String × ConditionStatus))
  | certificate conditions => .ok conditions
  | r => .error r.error

def data! : Response → Except ApiError StringMap
  | secret data => .ok data
  | configMap data => .ok data
  | workload annotations => .ok annotations
  | r => .error r.error

def ok! : Response → Except ApiError Unit
  | ok => .ok ()
  | r => .error r.error

end Response

namespace Cluster

variable (cl : Cluster)

/-- A Secret is written. If it is a copy, all workloads are due for a restart. -/
def putSecret (name : NamespacedName) (data : StringMap) : Cluster :=
  { cl with
    secrets := cl.secrets.insert name data
    owed := if name ∈ intermediateConfigs.map cacertsOf then cl.workloads.keys else cl.owed }

/-- The template of a workload is written, by the controller and so with the annotation of a
restart. -/
def putWorkload (key : Workload) (annotations : StringMap) : Cluster :=
  { cl with
    workloads := cl.workloads.insert key annotations
    owed := cl.owed.filter (· ≠ key) }

/-- **What the API server does** on a request. -/
def serve (cl : Cluster) : Request → Cluster × Response
  | .getCertificate name =>
    match cl.certificates.lookup name with
    | none => (cl, .notFound)
    | some conditions => (cl, .certificate conditions)
  | .getSecret name =>
    match cl.secrets.lookup name with
    | none => (cl, .notFound)
    | some data => (cl, .secret data)
  | .createSecret name data =>
    match cl.secrets.lookup name with
    | none => (cl.putSecret name data, .ok)
    | some _ => (cl, .failed "already exists")
  | .updateSecret name data =>
    match cl.secrets.lookup name with
    | none => (cl, .notFound)
    | some _ => (cl.putSecret name data, .ok)
  | .deleteSecret name =>
    match cl.secrets.lookup name with
    | none => (cl, .notFound)
    | some _ => ({ cl with secrets := cl.secrets.erase name }, .ok)
  | .getConfigMap name =>
    match cl.configMaps.lookup name with
    | none => (cl, .notFound)
    | some data => (cl, .configMap data)
  | .deleteConfigMap name =>
    match cl.configMaps.lookup name with
    | none => (cl, .notFound)
    | some _ => ({ cl with configMaps := cl.configMaps.erase name }, .ok)
  | .getWorkload key =>
    match cl.workloads.lookup key with
    | none => (cl, .notFound)
    | some annotations => (cl, .workload annotations)
  | .updateWorkload key annotations =>
    match cl.workloads.lookup key with
    | none => (cl, .notFound)
    | some _ => (cl.putWorkload key annotations, .ok)

end Cluster

/-! ### The controller -/

abbrev Api := Calls Request Response

/-- `ctrl.Result`, with `RequeueAfter` in seconds. -/
structure CtrlResult where
  requeueAfter : ℕ := 0
  deriving DecidableEq

/-- A namespaced name, as it is printed. -/
def printed (name : NamespacedName) : String := name.ns ++ "/" ++ name.name

/-- `checkCertificates`: all are there and ready, or there is a requeue. -/
def checkCertificates : List NamespacedName → Api (Except String CtrlResult)
  | [] => pure (.ok {})
  | nn :: rest => do
    match ← Calls.askFor (.getCertificate nn) Response.certificate! with
    | .error .notFound => pure (.ok { requeueAfter := 300 })
    | .error e => pure (.error ("getting certificate " ++ printed nn ++ ": " ++ e.message))
    | .ok conditions =>
      if conditions.any fun c => c.1 = "Ready" ∧ c.2 = .conditionTrue then checkCertificates rest
      else pure (.ok { requeueAfter := 30 })

/-- The loop of `verifyFingerprints`, where `verifyCAFingerprint` compares the certificate of
the root with the one an intermediate was issued by. -/
def verifyEach (verifyCAFingerprint : String → String → Except String Bool) (root : String) :
    List NamespacedName → Api (Except String CtrlResult)
  | [] => pure (.ok {})
  | nn :: rest => do
    match ← Calls.askFor (.getSecret nn) Response.data! with
    | .error e => pure (.error ("getting intermediate secret " ++ printed nn ++ ": " ++ e.message))
    | .ok intermediate =>
      match verifyCAFingerprint root (valueOf intermediate "ca.crt") with
      | .error e => pure (.error ("verifying fingerprint for " ++ printed nn ++ ": " ++ e))
      | .ok true => verifyEach verifyCAFingerprint root rest
      | .ok false =>
        -- cert-manager issues it anew
        match ← Calls.askFor (.deleteSecret nn) Response.ok! with
        | .error e =>
          pure (.error ("deleting mismatched secret " ++ printed nn ++ ": " ++ e.message))
        | .ok () => pure (.ok { requeueAfter := 1 })

/-- `verifyFingerprints`. -/
def verifyFingerprints (verifyCAFingerprint : String → String → Except String Bool) :
    Api (Except String CtrlResult) := do
  match ← Calls.askFor (.getSecret rootCASecret) Response.data! with
  | .error e => pure (.error ("getting root CA secret: " ++ e.message))
  | .ok root => verifyEach verifyCAFingerprint (valueOf root "tls.crt") intermediateConfigs

/-- `buildCacertsData`. -/
def buildCacertsData (tlsCrt tlsKey caCrt : String) : StringMap :=
  ((((∅ : StringMap).insert "ca-cert.pem" tlsCrt).insert "ca-key.pem" tlsKey).insert
    "root-cert.pem" caCrt).insert "cert-chain.pem" (tlsCrt ++ caCrt)

/-- What the copy of an intermediate certificate should be. -/
def desired (intermediate : StringMap) : StringMap :=
  buildCacertsData (valueOf intermediate "tls.crt") (valueOf intermediate "tls.key")
    (valueOf intermediate "ca.crt")

/-- `secretDataEqual`. -/
def secretDataEqual (a b : StringMap) : Bool :=
  a.entries.length = b.entries.length ∧ a.entries.all fun e => b.lookup e.1 = some e.2

/-- The loop of `reconcileCacertsSecrets`: whether a copy was written. -/
def reconcileCacertsSecrets (anyChanged : Bool) : List NamespacedName → Api (Except String Bool)
  | [] => pure (.ok anyChanged)
  | nn :: rest => do
    match ← Calls.askFor (.getSecret nn) Response.data! with
    | .error e => pure (.error ("getting intermediate secret " ++ printed nn ++ ": " ++ e.message))
    | .ok intermediate =>
      match ← Calls.askFor (.getSecret (cacertsOf nn)) Response.data! with
      | .error .notFound =>
        match ← Calls.askFor (.createSecret (cacertsOf nn) (desired intermediate))
          Response.ok! with
        | .error e => pure (.error ("creating cacerts secret in " ++ nn.ns ++ ": " ++ e.message))
        | .ok () => reconcileCacertsSecrets true rest
      | .error e => pure (.error ("getting cacerts secret in " ++ nn.ns ++ ": " ++ e.message))
      | .ok existing =>
        if secretDataEqual existing (desired intermediate) then
          reconcileCacertsSecrets anyChanged rest
        else
          match ← Calls.askFor (.updateSecret (cacertsOf nn) (desired intermediate))
            Response.ok! with
          | .error e => pure (.error ("updating cacerts secret in " ++ nn.ns ++ ": " ++ e.message))
          | .ok () => reconcileCacertsSecrets true rest

/-- `deleteStaleConfigMaps`: whatever fails is left as it is. -/
def deleteStaleConfigMaps : List String → Api Unit
  | [] => pure ()
  | ns :: rest => do
    match ← Calls.askFor (.getConfigMap ⟨ns, staleConfigMapName⟩) Response.data! with
    | .error _ => deleteStaleConfigMaps rest
    | .ok _ =>
      let _ ← Calls.askFor (.deleteConfigMap ⟨ns, staleConfigMapName⟩) Response.ok!
      deleteStaleConfigMaps rest

/-- One attempt of a restart. -/
def restartAttempt (now : String) (key : Workload) : Api (Except ApiError Unit × Unit) := do
  match ← Calls.askFor (.getWorkload key) Response.data! with
  | .error e => pure (.error e, ())
  | .ok annotations =>
    let r ← Calls.askFor (.updateWorkload key (annotations.insert restartedAt now)) Response.ok!
    pure (r, ())

/-- `rolloutRestartDeployment` and `rolloutRestartDaemonSet`, with five attempts. -/
def rolloutRestart (now : String) (key : Workload) : Api (Except ApiError Unit) := do
  let x ← Calls.retry IsConflict 4 (fun _ => restartAttempt now key) ()
  pure x.1

/-- The loops of `restartWorkloads`: a workload that is not there is left out. -/
def restartEach (now : String) : List Workload → Api (Except ApiError Unit)
  | [] => pure (.ok ())
  | key :: rest => do
    match ← rolloutRestart now key with
    | .error .notFound => restartEach now rest
    | .error e => pure (.error e)
    | .ok () => restartEach now rest

/-- `restartWorkloads`: the first failure ends it. -/
def restartWorkloads (now : String) : Api (Except ApiError Unit) := do
  deleteStaleConfigMaps staleConfigMapNamespaces
  match ← restartEach now restartedDeployments with
  | .error e => pure (.error e)
  | .ok () => restartEach now [ztunnel]

/-- **A reconcile**, at a time. Whether to restart is known to it alone. -/
def reconcile (verifyCAFingerprint : String → String → Except String Bool) (now : String) :
    Api (Except String CtrlResult) := do
  match ← checkCertificates managedCertificates with
  | .error e => pure (.error e)
  | .ok result =>
    if result.requeueAfter > 0 then pure (.ok result)
    else
      match ← verifyFingerprints verifyCAFingerprint with
      | .error e => pure (.error e)
      | .ok result =>
        if result.requeueAfter > 0 then pure (.ok result)
        else
          match ← reconcileCacertsSecrets false intermediateConfigs with
          | .error e => pure (.error e)
          | .ok needsRestart =>
            if needsRestart then
              match ← restartWorkloads now with
              | .error e => pure (.error e.message)
              | .ok () => pure (.ok {})
            else pure (.ok {})

end Rossoctl.Mesh
