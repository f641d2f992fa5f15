import Rossoctl.Kube
import Rossoctl.Signature.Jws

/-!
# Agent cards and their workloads

The objects the AgentCard controllers read and write
(`api/v1alpha1/agentcard_types.go`), and what the controller reads off a workload
(`internal/controller/agentcard_controller.go`): whether it is an agent, whether it
is ready, and which protocols it declares.

A workload is identified by its group, its kind and its name
(`Rossoctl.Cards.WorkloadKey`): all the versions of a group show the same
object. The times of a status and the fields that no code reads are left out.
-/

namespace Rossoctl.Cards

open Kube Signature

/-! ### Constants -/

def labelAgentType : String := "rossoctl.io/type"

def labelValueAgent : String := "agent"

def labelAgentProtocol : String := "rossoctl.io/agent-protocol"

def labelRossoctlProtocol : String := "rossoctl.io/protocol"

def protocolLabelPrefix : String := "protocol.rossoctl.io/"

def labelSignatureVerified : String := "agent.rossoctl.dev/signature-verified"

def annotationLastVerifiedState : String := "agent.rossoctl.dev/last-verified-state"

def annotationVerifiedStatePrefix : String := "verified-state.agent.rossoctl.dev/"

def agentCardFinalizer : String := "agentcard.rossoctl.dev/finalizer"

def conditionVerified : String := "Verified"

/-! ### Agent cards -/

/-- The reference of a card to its workload. -/
structure TargetRef where
  apiVersion : String
  kind : String
  name : String
  deriving DecidableEq

/-- The identity binding a card asks for. -/
structure IdentityBinding where
  trustDomain : String := ""
  strict : Bool := false
  deriving DecidableEq

/-- The outcome of the binding evaluation. -/
structure BindingStatus where
  bound : Bool
  reason : String
  message : String
  deriving DecidableEq

/-- The status of a card. -/
structure AgentCardStatus where
  card : Option AgentCardData := none
  conditions : Conditions := ∅
  protocol : String := ""
  targetRef : Option TargetRef := none
  validSignature : Option Bool := none
  signatureVerificationDetails : String := ""
  signatureKeyID : String := ""
  signatureSpiffeID : String := ""
  signatureIdentityMatch : Option Bool := none
  attestedAgentSpiffeID : String := ""
  expectedSpiffeID : String := ""
  bindingStatus : Option BindingStatus := none
  sigstoreBundleVerified : Option Bool := none
  sigstoreIdentity : String := ""
  rekorLogIndex : String := ""
  slsaRepository : String := ""
  slsaCommitSHA : String := ""

/-- `meta.SetStatusCondition`. -/
def AgentCardStatus.setCondition (status : AgentCardStatus) (type : String) (c : Condition) :
    AgentCardStatus :=
  { status with conditions := status.conditions.insert type c }

/-- `meta.RemoveStatusCondition`. -/
def AgentCardStatus.removeCondition (status : AgentCardStatus) (type : String) : AgentCardStatus :=
  { status with conditions := status.conditions.erase type }

/-- The final trust decision in a status. -/
def AgentCardStatus.verified (status : AgentCardStatus) : Bool :=
  isStatusConditionTrue status.conditions conditionVerified

theorem verified_setCondition (status : AgentCardStatus) (c : Condition) :
    (status.setCondition conditionVerified c).verified = decide (c.status = .conditionTrue) := by
  rw [AgentCardStatus.verified, isStatusConditionTrue, AgentCardStatus.setCondition,
    AList.lookup_insert, Option.any_some]

theorem verified_setCondition_of_ne {type : String} (h : type ≠ conditionVerified)
    (status : AgentCardStatus) (c : Condition) :
    (status.setCondition type c).verified = status.verified :=
  isStatusConditionTrue_congr (AList.lookup_insert_ne h.symm)

/-- An agent card; `deleting` says that its deletion timestamp is set. -/
structure AgentCard where
  finalizers : List String := []
  deleting : Bool := false
  targetRef : Option TargetRef := none
  identityBinding : Option IdentityBinding := none
  status : AgentCardStatus := {}

/-! ### Workloads -/

/-- The identity of a workload. -/
structure WorkloadKey where
  group : String
  kind : String
  name : NamespacedName
  deriving DecidableEq

/-- A workload. -/
structure Workload where
  labels : StringMap := ∅
  annotations : StringMap := ∅
  templateLabels : StringMap := ∅
  /-- The conditions of its status: type and status. -/
  conditions : List (String × String) := []
  readyReplicas : ℤ := 0
  replicas : ℤ := 0

/-- **The workload a reference means**, if its `apiVersion` can be parsed. -/
def TargetRef.key (ref : TargetRef) (ns : String) : Except String WorkloadKey :=
  match parseGroupVersion ref.apiVersion with
  | .error e => .error e
  | .ok (group, _) => .ok ⟨group, ref.kind, ⟨ns, ref.name⟩⟩

/-- **The workload a card targets.** -/
def AgentCard.target (card : AgentCard) (ns : String) : Option WorkloadKey :=
  card.targetRef.bind fun ref => (ref.key ns).toOption

/-- `isAgentWorkload`. -/
def isAgentWorkload (labels : StringMap) : Bool :=
  labels.lookup labelAgentType = some labelValueAgent

/-- `isDeploymentReadyFromUnstructured`. -/
def isDeploymentReady (w : Workload) : Bool :=
  w.conditions.any fun c => c.1 = "Available" && c.2 = "True"

/-- `isStatefulSetReadyFromUnstructured`. -/
def isStatefulSetReady (w : Workload) : Bool :=
  w.readyReplicas > 0 && w.readyReplicas = w.replicas

/-- What counts for kinds other than the two that are known. -/
def hasReadyCondition (w : Workload) : Bool :=
  w.conditions.any fun c => (c.1 = "Ready" || c.1 = "Available") && c.2 = "True"

/-- `isWorkloadReady`. -/
def isWorkloadReady (w : Workload) (kind : String) : Bool :=
  if kind = "Deployment" then isDeploymentReady w
  else if kind = "StatefulSet" then isStatefulSetReady w
  else hasReadyCondition w

/-- `getWorkloadProtocols`. A loop over a Go map has no fixed order; here it is that
of the list of entries. -/
def getWorkloadProtocols (labels : StringMap) : List String :=
  let protocols := labels.entries.filterMap fun e =>
    let name := String.ofList (e.1.toList.drop protocolLabelPrefix.toList.length)
    if hasPrefix e.1 protocolLabelPrefix && name ≠ "" then some name else none
  if !protocols.isEmpty then protocols
  else
    let protocol := (labels.lookup labelRossoctlProtocol).getD ""
    if protocol ≠ "" then [protocol]
    else
      let protocol := (labels.lookup labelAgentProtocol).getD ""
      if protocol ≠ "" then [protocol] else []

/-- `getWorkloadProtocol`: the first of the protocols. -/
def getWorkloadProtocol (labels : StringMap) : String :=
  (getWorkloadProtocols labels).head?.getD ""

end Rossoctl.Cards
