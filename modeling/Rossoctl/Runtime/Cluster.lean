import Rossoctl.Calls
import Rossoctl.Webhook.Precedence

/-!
# The cluster of the AgentRuntime controller

The objects that `internal/controller/agentruntime_controller.go` reads and writes –
runtimes, the three kinds of workloads they can target, Services and the pods behind
them –, and what the API server does on each request
(`Rossoctl.Runtime.Cluster.serve`). A request may also fail, or be done and not
answered: that is a response with `Rossoctl.Runtime.Response.Transient`, as the faults of
`Rossoctl.Calls` are.

The server keeps two things that no client writes. One is the generation of a workload,
which counts the changes to its specification. The other is a record of what its pods run
(`Rossoctl.Runtime.Watch`), which no code reads: a pod of a Sandbox is made from the
template when the Sandbox is scaled up, and keeps running when the template changes.
-/

namespace Rossoctl.Runtime

open Kube Webhook

/-! ### Constants -/

def agentRuntimeFinalizer : String := "rossoctl.io/cleanup"

def annotationRestartPending : String := "rossoctl.io/restart-pending"

def annotationRestartPendingValue : String := "true"

/-- Where the Sandbox controller keeps the name of the pod. -/
def annotationPodName : String := "agents.x-k8s.io/pod-name"

def annotationLastCardFetchHash : String := "agent.rossoctl.dev/last-card-fetch-hash"

def kindSandbox : String := "Sandbox"

/-! ### Workloads -/

/-- The kinds of workloads a runtime can target. -/
inductive WorkloadKind where
  | deployment
  | statefulSet
  | sandbox
  deriving DecidableEq

/-- `newRuntimePodTemplateAccessor`: the kinds it knows. The accessors themselves read and
write the same parts of each. -/
def newRuntimePodTemplateAccessor (kind : String) : Option WorkloadKind :=
  if kind = "Deployment" then some .deployment
  else if kind = "StatefulSet" then some .statefulSet
  else if kind = kindSandbox then some .sandbox
  else none

/-- A workload, by kind and name. -/
structure WorkloadKey where
  kind : WorkloadKind
  name : NamespacedName
  deriving DecidableEq

/-- **What runs behind a template**: nothing older than the last change of the annotations
that is to be rolled out, something older, or – as the Sandbox has been scaled down since –
nothing at all. -/
inductive Rollout where
  | current
  | changed
  | down
  deriving DecidableEq

/-- A workload that goes down is `down`, one that comes up again runs what its template
says, and one that stays up runs what it ran. -/
def Rollout.next (scaledDown : Bool) : Rollout → Rollout
  | current => current
  | changed => if scaledDown then down else changed
  | down => if scaledDown then down else current

/-- What is recorded of the writes to a workload: how far its last change is rolled out,
and that no write has taken back the mark of a restart and left it at that. -/
structure Watch where
  rollout : Rollout := .current
  restartsWhole : Bool := true
  deriving DecidableEq

/-- A workload: what its owner and the controllers write, and what the server adds. -/
structure WorkloadObject extends WorkloadTemplate where
  annotations : StringMap := ∅
  replicas : ℤ := 1
  readyReplicas : ℤ := 0
  generation : ℕ := 1
  watch : Watch := {}

namespace WorkloadObject

/-- The mark of a restart that is under way. -/
def restartPending (obj : WorkloadObject) : Bool :=
  valueOf obj.annotations annotationRestartPending = annotationRestartPendingValue

/-- An annotation of the template goes from one value to another, neither of them empty. -/
def Replaces (key : String) (old new : WorkloadObject) : Prop :=
  valueOf old.podAnnotations key ≠ "" ∧ valueOf new.podAnnotations key ≠ "" ∧
    valueOf old.podAnnotations key ≠ valueOf new.podAnnotations key

instance (key : String) (old new : WorkloadObject) : Decidable (Replaces key old new) :=
  inferInstanceAs (Decidable (_ ∧ _ ∧ _))

/-- The template goes to another revision. -/
def Revises (old new : WorkloadObject) : Prop :=
  Replaces annotationConfigHash old new ∨ Replaces annotationMTLSMode old new

instance (old new : WorkloadObject) : Decidable (Revises old new) :=
  inferInstanceAs (Decidable (_ ∨ _))

/-- A new revision runs nowhere before the workload has been down. -/
def nextRollout (old new : WorkloadObject) : Rollout :=
  (if Revises old new then .changed else old.watch.rollout).next (decide (new.replicas = 0))

/-- A write takes back the mark of a restart, and does not finish the restart. -/
def DropsRestart (old new : WorkloadObject) : Prop :=
  old.restartPending = true ∧ new.restartPending = false ∧
    ¬(new.replicas = 1 ∧ new.annotations.lookup annotationPodName = none)

instance (old new : WorkloadObject) : Decidable (DropsRestart old new) :=
  inferInstanceAs (Decidable (_ ∧ _ ∧ ¬_))

/-- The record after a write. -/
def nextWatch (old new : WorkloadObject) : Watch where
  rollout := nextRollout old new
  restartsWhole := old.watch.restartsWhole && !decide (DropsRestart old new)

/-- Two maps with the same entries, in whichever order. -/
def sameMap (m m' : StringMap) : Bool :=
  (m.keys ++ m'.keys).all fun key => decide (m.lookup key = m'.lookup key)

/-- The specification of a workload stays as it is. -/
def sameSpec (old new : WorkloadObject) : Bool :=
  sameMap old.podLabels new.podLabels && sameMap old.podAnnotations new.podAnnotations &&
    decide (old.replicas = new.replicas)

/-- What the server keeps of a write. -/
def accept (old new : WorkloadObject) : WorkloadObject :=
  { new with
    readyReplicas := old.readyReplicas
    generation := if sameSpec old new then old.generation else old.generation + 1
    watch := nextWatch old new }

end WorkloadObject

/-! ### Services, pods and cards -/

/-- A pod, with the workload and the generation it was made from. -/
structure Pod where
  ns : String
  labels : StringMap
  owner : WorkloadKey
  generation : ℕ
  ready : Bool := true
  /-- The card it serves, if it serves one. -/
  card : Option String := none

/-- A Service in front of an agent. -/
structure Service where
  /-- There may be none. -/
  selector : Option StringMap := none
  /-- It has a port by the name for agents that speak TLS. -/
  agentTLSPort : Bool := false

/-- A discovered card; `served` are the pods that stood behind the Service when it was
fetched, which is not part of the status. -/
structure CardStatus where
  card : String
  secure : Bool
  served : List (WorkloadKey × ℕ)
  deriving DecidableEq

/-! ### Runtimes -/

/-- An `AgentRuntime`, with its metadata and the part of its status that is read. -/
structure AgentRuntime extends AgentRuntimeResource where
  targetAPIVersion : String
  finalizers : List String := []
  deleting : Bool := false
  annotations : StringMap := ∅
  card : Option CardStatus := none

/-- **The workload a runtime targets**, as its controller looks it up: by kind and name. -/
def targetOf (rt : AgentRuntimeResource) (ns : String) : Option WorkloadKey :=
  (newRuntimePodTemplateAccessor rt.targetKind).map fun kind => ⟨kind, ns, rt.targetName⟩

abbrev AgentRuntime.target (rt : AgentRuntime) (ns : String) : Option WorkloadKey :=
  targetOf rt.toAgentRuntimeResource ns

/-! ### Requests -/

/-- What the API server holds. -/
structure Cluster where
  workloads : GoMap WorkloadKey WorkloadObject := ∅
  runtimes : GoMap NamespacedName AgentRuntime := ∅
  services : GoMap NamespacedName Service := ∅
  pods : List Pod := []

/-- The requests of the controller. -/
inductive Request where
  | getRuntime (name : NamespacedName)
  /-- Metadata and specification; the status is a resource of its own. -/
  | updateRuntime (name : NamespacedName) (rt : AgentRuntime)
  | patchAnnotations (name : NamespacedName) (key value : String)
  | updateStatus (name : NamespacedName) (card : Option CardStatus)
  | getWorkload (key : WorkloadKey)
  | updateWorkload (key : WorkloadKey) (obj : WorkloadObject)
  | getService (name : NamespacedName)
  | listServices (ns : String)
  /-- The card from the endpoint of a Service. -/
  | fetch (secure : Bool) (svc : NamespacedName)

/-- What the API server answers. -/
inductive Response where
  | runtime (rt : AgentRuntime)
  | workload (obj : WorkloadObject)
  | service (svc : Service)
  | services (list : List (NamespacedName × Service))
  | card (card : String) (served : List (WorkloadKey × ℕ))
  | ok
  | notFound
  | conflict
  | failed (message : String)

/-- The errors that the controller tells apart. -/
inductive ApiError where
  | notFound
  | conflict
  | other (message : String)
  deriving DecidableEq

def ApiError.message : ApiError → String
  | notFound => "not found"
  | conflict => "the object has been modified"
  | other message => message

namespace Response

/-- A failure that says nothing about the cluster. -/
def Transient : Response → Prop
  | conflict => True
  | failed _ => True
  | _ => False

/-- The error that a client makes of a response it cannot use. -/
def error : Response → ApiError
  | notFound => .notFound
  | conflict => .conflict
  | failed message => .other message
  | _ => .other "unexpected response"

end Response

/-- `labels[k] == v` for all entries of a selector. -/
def selectorMatchesLabels (selector labels : StringMap) : Bool :=
  selector.entries.all fun e => decide (valueOf labels e.1 = e.2)

namespace Cluster

variable (cl : Cluster)

/-- The pods behind a Service. -/
def serving (name : NamespacedName) : List Pod :=
  match (cl.services.lookup name).bind Service.selector with
  | none => []
  | some selector => cl.pods.filter fun pod =>
      decide (pod.ns = name.ns) && pod.ready && selectorMatchesLabels selector pod.labels

def putRuntime (name : NamespacedName) (rt : AgentRuntime) : Cluster :=
  { cl with runtimes := put cl.runtimes name (retained rt.deleting rt.finalizers rt) }

def putWorkload (key : WorkloadKey) (obj : WorkloadObject) : Cluster :=
  { cl with workloads := cl.workloads.insert key obj }

/-- **What the API server does** on a request. A fetch is answered by one of the pods behind
the Service. -/
def serve (cl : Cluster) : Request → Cluster × Response
  | .getRuntime name =>
    match cl.runtimes.lookup name with
    | none => (cl, .notFound)
    | some rt => (cl, .runtime rt)
  | .updateRuntime name rt =>
    match cl.runtimes.lookup name with
    | none => (cl, .notFound)
    | some old => (cl.putRuntime name { rt with deleting := old.deleting, card := old.card }, .ok)
  | .patchAnnotations name key value =>
    match cl.runtimes.lookup name with
    | none => (cl, .notFound)
    | some old =>
      (cl.putRuntime name { old with annotations := old.annotations.insert key value }, .ok)
  | .updateStatus name card =>
    match cl.runtimes.lookup name with
    | none => (cl, .notFound)
    | some old => (cl.putRuntime name { old with card }, .ok)
  | .getWorkload key =>
    match cl.workloads.lookup key with
    | none => (cl, .notFound)
    | some obj => (cl, .workload obj)
  | .updateWorkload key obj =>
    match cl.workloads.lookup key with
    | none => (cl, .notFound)
    | some old => (cl.putWorkload key (old.accept obj), .ok)
  | .getService name =>
    match cl.services.lookup name with
    | none => (cl, .notFound)
    | some svc => (cl, .service svc)
  | .listServices ns =>
    (cl, .services ((cl.services.entries.map fun e => (e.1, e.2)).filter fun e => e.1.ns = ns))
  | .fetch _ name =>
    match (cl.serving name).head?.bind Pod.card with
    | none => (cl, .failed "no card")
    | some card => (cl, .card card ((cl.serving name).map fun pod => (pod.owner, pod.generation)))

end Cluster

end Rossoctl.Runtime
