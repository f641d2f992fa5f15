import Rossoctl.Runtime.Cluster

/-!
# The AgentRuntime controller

The functions of `internal/controller/agentruntime_controller.go` as clients of the API
server: what `Rossoctl.Runtime.AgentRuntimeReconciler.reconcile` asks for, one request
after the other, and how it goes on with each answer.

A reconcile enrols the workload that its runtime targets
(`Rossoctl.Runtime.applyWorkloadConfig`), in two phases restarts a Sandbox, whose pod
does not follow its template (`Rossoctl.Runtime.beginSandboxRestart`,
`Rossoctl.Runtime.completeSandboxRestart`), discovers the card of the agent
(`Rossoctl.Runtime.AgentRuntimeReconciler.fetchAndUpdateCard`), and takes the workload out
again when the runtime is deleted (`Rossoctl.Runtime.handleDeletion`). The other steps of
a reconcile touch neither runtimes nor workloads; what comes of them is
`Rossoctl.Runtime.Surroundings`.
-/

namespace Rossoctl.Runtime

open Kube Webhook

/-! ### Single requests -/

/-- A client of the API server. -/
abbrev Api := Calls Request Response

/-- What a client makes of a response. -/
def answer {α : Type} (read : Response → Option α) (r : Response) : Except ApiError α :=
  match read r with
  | some a => .ok a
  | none => .error r.error

/-- A request, and what is read from the response. -/
def ask {α : Type} (q : Request) (read : Response → Option α) : Api (Except ApiError α) := do
  let r ← Calls.request q
  pure (answer read r)

namespace Response

def runtime? : Response → Option AgentRuntime
  | .runtime rt => some rt
  | _ => none

def workload? : Response → Option WorkloadObject
  | .workload obj => some obj
  | _ => none

def service? : Response → Option Service
  | .service svc => some svc
  | _ => none

def services? : Response → Option (List (NamespacedName × Service))
  | .services list => some list
  | _ => none

def card? : Response → Option (String × List (WorkloadKey × ℕ))
  | .card text served => some (text, served)
  | _ => none

def ok? : Response → Option Unit
  | .ok => some ()
  | _ => none

end Response

def getWorkload (key : WorkloadKey) : Api (Except ApiError WorkloadObject) :=
  ask (.getWorkload key) Response.workload?

def updateWorkload (key : WorkloadKey) (obj : WorkloadObject) : Api (Except ApiError Unit) :=
  ask (.updateWorkload key obj) Response.ok?

def getRuntime (name : NamespacedName) : Api (Except ApiError AgentRuntime) :=
  ask (.getRuntime name) Response.runtime?

def updateRuntime (name : NamespacedName) (rt : AgentRuntime) : Api (Except ApiError Unit) :=
  ask (.updateRuntime name rt) Response.ok?

/-- `apierrors.IsConflict`. -/
def IsConflict : Except ApiError Unit → Bool
  | .error .conflict => true
  | _ => false

/-- `retry.RetryOnConflict` with `retry.DefaultRetry`, which has five steps. The attempts
share the variables that their function captures. -/
def retryOnConflict {τ : Type} (attempt : τ → Api (Except ApiError Unit × τ)) (t : τ) :
    Api (Except ApiError Unit × τ) :=
  Calls.retry IsConflict 4 attempt t

/-- Attempts that read a workload and write it back. -/
def updateOnConflict (key : WorkloadKey) (f : WorkloadObject → WorkloadObject) :
    Api (Except ApiError Unit) := do
  let x ← retryOnConflict (fun _ : Unit => do
    match ← getWorkload key with
    | .error e => pure (.error e, ())
    | .ok obj =>
      let r ← updateWorkload key (f obj)
      pure (r, ())) ()
  pure x.1

/-! ### The restart of a Sandbox -/

/-- Scaled to zero, and marked. -/
def beginRestart (obj : WorkloadObject) : WorkloadObject :=
  { obj with
    replicas := 0
    annotations := obj.annotations.insert annotationRestartPending annotationRestartPendingValue }

/-- `beginSandboxRestart`. -/
def beginSandboxRestart (key : WorkloadKey) : Api (Except ApiError Unit) :=
  updateOnConflict key beginRestart

/-- Scaled up again, without the mark and the name of the old pod. -/
def completeRestart (obj : WorkloadObject) : WorkloadObject :=
  { obj with
    replicas := 1
    annotations := (obj.annotations.erase annotationPodName).erase annotationRestartPending }

/-- `completeSandboxRestart`: nothing if no restart is pending or the Sandbox cannot be
read. -/
def completeSandboxRestart (key : WorkloadKey) : Api (Option (Except ApiError Unit)) := do
  match ← getWorkload key with
  | .error _ => pure none
  | .ok obj =>
    if obj.restartPending then do
      let r ← updateOnConflict key completeRestart
      pure (some r)
    else pure none

/-! ### Enrolment -/

/-- The labels and annotations that a runtime asks for are all there. -/
def AlreadyConfigured (rt : AgentRuntimeResource) (configHash : String) (obj : WorkloadTemplate) :
    Prop :=
  valueOf obj.labels rossoctlTypeLabel = rt.type ∧
    valueOf obj.labels labelManagedBy = labelManagedByValue ∧
    valueOf obj.podLabels rossoctlTypeLabel = rt.type ∧
    valueOf obj.podAnnotations annotationConfigHash = configHash ∧
    valueOf obj.podAnnotations annotationMTLSMode = rt.stampedMTLSMode

instance (rt : AgentRuntimeResource) (configHash : String) (obj : WorkloadTemplate) :
    Decidable (AlreadyConfigured rt configHash obj) :=
  inferInstanceAs (Decidable (_ ∧ _ ∧ _ ∧ _ ∧ _))

/-- The workload with the labels and annotations that a runtime asks for. -/
def configured (rt : AgentRuntimeResource) (configHash : String) (obj : WorkloadObject) :
    WorkloadObject :=
  { obj with
    labels := (obj.labels.insert rossoctlTypeLabel rt.type).insert labelManagedBy
      labelManagedByValue
    podLabels := obj.podLabels.insert rossoctlTypeLabel rt.type
    podAnnotations := (obj.podAnnotations.insert annotationConfigHash configHash).insert
      annotationMTLSMode rt.stampedMTLSMode }

/-- `previousHash != "" && previousHash != configHash`. -/
def configHashChanged (configHash : String) (obj : WorkloadTemplate) : Bool :=
  valueOf obj.podAnnotations annotationConfigHash ≠ "" ∧
    valueOf obj.podAnnotations annotationConfigHash ≠ configHash

/-- One attempt of `applyWorkloadConfig`. The attempts share `configHashChanged`, which an
attempt that finds the workload configured leaves as it is. -/
def applyAttempt (rt : AgentRuntimeResource) (configHash : String) (key : WorkloadKey)
    (changed : Bool) : Api (Except ApiError Unit × Bool) := do
  match ← getWorkload key with
  | .error e => pure (.error e, changed)
  | .ok obj =>
    if AlreadyConfigured rt configHash obj.toWorkloadTemplate then pure (.ok (), changed)
    else do
      let r ← updateWorkload key (configured rt configHash obj)
      pure (r, configHashChanged configHash obj.toWorkloadTemplate)

/-- `applyWorkloadConfig`. -/
def applyWorkloadConfig (rt : AgentRuntimeResource) (ns configHash : String) :
    Api (Except ApiError Unit) :=
  match targetOf rt ns with
  | none => pure (.error (.other ("unsupported workload kind: " ++ rt.targetKind)))
  | some key => do
    let x ← retryOnConflict (applyAttempt rt configHash key) false
    match x.1 with
    | .error e => pure (.error e)
    | .ok () =>
      if rt.targetKind = kindSandbox ∧ x.2 then
        -- the pod of a Sandbox does not follow its template: scale it down and up again
        match ← beginSandboxRestart key with
        | .error e => pure (.error (.other ("sandbox restart (phase 1) failed: " ++ e.message)))
        | .ok () => pure (.ok ())
      else pure (.ok ())

/-- The workload without the labels and annotations of the controller. -/
def cleaned (obj : WorkloadObject) : WorkloadObject :=
  { obj with
    labels := (obj.labels.erase rossoctlTypeLabel).erase labelManagedBy
    podLabels := obj.podLabels.erase rossoctlTypeLabel
    podAnnotations := (obj.podAnnotations.erase annotationConfigHash).erase annotationMTLSMode }

/-- The clean-up of `handleDeletion`: a workload that is not there needs none. -/
def cleanUp (key : WorkloadKey) : Api (Except ApiError Unit) := do
  let x ← retryOnConflict (fun _ : Unit => do
    match ← getWorkload key with
    | .error .notFound => pure (.ok (), ())
    | .error e => pure (.error e, ())
    | .ok obj =>
      let r ← updateWorkload key (cleaned obj)
      pure (r, ())) ()
  pure x.1

/-- The finalizer is taken off the runtime as it is then. -/
def removeFinalizer (name : NamespacedName) : Api (Except ApiError Unit) := do
  let x ← retryOnConflict (fun _ : Unit => do
    match ← getRuntime name with
    | .error e => pure (.error e, ())
    | .ok latest =>
      let r ← updateRuntime name
        { latest with finalizers := latest.finalizers.filter (· ≠ agentRuntimeFinalizer) }
      pure (r, ())) ()
  pure x.1

/-- `handleDeletion`: the finalizer stays until the workload is cleaned up. -/
def handleDeletion (name : NamespacedName) (rt : AgentRuntime) : Api (Except ApiError Unit) :=
  if agentRuntimeFinalizer ∉ rt.finalizers then pure (.ok ())
  else
    match rt.target name.ns with
    | none => removeFinalizer name
    | some key => do
      match ← cleanUp key with
      | .error e => pure (.error e)
      | .ok () => removeFinalizer name

/-- `resolveTargetRef`: the workload is there. -/
def resolveTargetRef (rt : AgentRuntime) (ns : String) : Api (Except ApiError Unit) :=
  match parseGroupVersion rt.targetAPIVersion with
  | .error e => pure (.error (.other ("invalid apiVersion " ++ rt.targetAPIVersion ++ ": " ++ e)))
  | .ok _ =>
    match rt.target ns with
    | none => pure (.error (.other ("unsupported workload kind: " ++ rt.targetKind)))
    | some key => do
      match ← getWorkload key with
      | .ok _ => pure (.ok ())
      | .error .notFound => pure (.error (.other (rt.targetAPIVersion ++ "/" ++ rt.targetKind ++
          " " ++ rt.targetName ++ " not found in namespace " ++ ns)))
      | .error e => pure (.error e)

/-! ### Card discovery -/

/-- The settings of the reconciler that are read here. -/
structure AgentRuntimeReconciler where
  enableCardDiscovery : Bool := true
  agentFetcher : Bool := true
  authenticatedFetcher : Bool := false

/-- `workloadChangeKey`: the generation of the workload, in decimal. -/
def workloadChangeKey (rt : AgentRuntime) (ns : String) : Api String :=
  match rt.target ns with
  | none => pure ""
  | some key => do
    match ← getWorkload key with
    | .error _ => pure ""
    | .ok obj => pure (toString obj.generation)

/-- `checkWorkloadReady`: some replica is ready; a Sandbox is not asked. -/
def checkWorkloadReady (rt : AgentRuntime) (ns : String) : Api Bool :=
  match rt.target ns with
  | none => pure true
  | some ⟨.sandbox, _⟩ => pure true
  | some key => do
    match ← getWorkload key with
    | .error _ => pure false
    | .ok obj => pure (decide (obj.readyReplicas ≠ 0))

/-- The first Service of a namespace that selects the labels of a template. -/
def matchingService (podLabels : StringMap) (list : List (NamespacedName × Service)) :
    Option (NamespacedName × Service) :=
  list.find? fun e => e.2.selector.any fun selector => selectorMatchesLabels selector podLabels

/-- The second half of `resolveServiceForWorkload`: by selector. -/
def serviceBySelector (rt : AgentRuntime) (ns : String) : Api (Option (NamespacedName × Service)) :=
  match rt.target ns with
  | none => pure none
  | some key => do
    match ← getWorkload key with
    | .error _ => pure none
    | .ok obj =>
      if obj.podLabels.entries.isEmpty then pure none
      else do
        match ← ask (.listServices ns) Response.services? with
        | .error _ => pure none
        | .ok list => pure (matchingService obj.podLabels list)

/-- `resolveServiceForWorkload`: the Service with the name of the workload, or else the
first that selects the labels of its template. -/
def resolveServiceForWorkload (rt : AgentRuntime) (ns : String) :
    Api (Option (NamespacedName × Service)) := do
  match ← ask (.getService ⟨ns, rt.targetName⟩) Response.service? with
  | .ok svc => pure (some (⟨ns, rt.targetName⟩, svc))
  | .error _ => serviceBySelector rt ns

/-- The change key of the last card that was fetched. -/
def AgentRuntime.lastKey (rt : AgentRuntime) : String :=
  valueOf rt.annotations annotationLastCardFetchHash

/-- The change key is the one of the last card, and there is a card. -/
def skipsFetch (changeKey : String) (rt : AgentRuntime) : Bool :=
  changeKey ≠ "" ∧ changeKey = rt.lastKey ∧ rt.card.isSome

namespace AgentRuntimeReconciler

variable (r : AgentRuntimeReconciler)

/-- `fetchCard`: over TLS if both sides can, and in the clear otherwise. -/
def fetchCard (name : NamespacedName) (svc : Service) : Api (Option CardStatus) :=
  if r.authenticatedFetcher ∧ svc.agentTLSPort then do
    match ← ask (.fetch true name) Response.card? with
    | .error _ => pure none
    | .ok (card, served) => pure (some { card, secure := true, served })
  else if r.agentFetcher then do
    match ← ask (.fetch false name) Response.card? with
    | .error _ => pure none
    | .ok (card, served) => pure (some { card, secure := false, served })
  else pure none

/-- `fetchAndUpdateCard`: the card that the status is going to have. -/
def fetchAndUpdateCard (name : NamespacedName) (rt : AgentRuntime) : Api (Option CardStatus) :=
  if !r.enableCardDiscovery then pure none
  else do
    let changeKey ← workloadChangeKey rt name.ns
    if skipsFetch changeKey rt then pure rt.card
    else if !(← checkWorkloadReady rt name.ns) then pure rt.card
    else
      match ← resolveServiceForWorkload rt name.ns with
      | none => pure rt.card
      | some (svcName, svc) =>
        match ← r.fetchCard svcName svc with
        | none => pure rt.card
        | some card => do
          -- `persistCardFetchAnnotation`: a failure is only logged
          let _ ← ask (.patchAnnotations name annotationLastCardFetchHash changeKey) Response.ok?
          pure (some card)

end AgentRuntimeReconciler

/-! ### A reconcile -/

/-- What comes of the steps that touch neither runtimes nor workloads. -/
structure Surroundings where
  spiffeHelperConfig : Except String Unit := .ok ()
  sccBinding : Except String Unit := .ok ()
  configHash : Except String String

/-- **How a reconcile ends.** -/
inductive Ending where
  | unread (e : ApiError)
  | deletion (result : Except ApiError Unit)
  | finalizer (result : Except ApiError Unit)
  | targetNotFound (e : ApiError)
  | restarted (result : Except ApiError Unit)
  | stopped (message : String)
  | notApplied (e : ApiError)
  | statusFailed (e : ApiError)
  | configured
  deriving DecidableEq

namespace Ending

/-- `applyWorkloadConfig` has returned without an error. -/
def applied : Ending → Bool
  | statusFailed _ => true
  | configured => true
  | _ => false

/-- The reconcile has ended early, at a failure after the card was dealt with. -/
def broken : Ending → Bool
  | notApplied _ => true
  | statusFailed _ => true
  | _ => false

end Ending

/-- The status, with the card that was found. -/
def updateStatus (name : NamespacedName) (card : Option CardStatus) : Api (Except ApiError Unit) :=
  do
  let x ← retryOnConflict (fun _ : Unit => do
    match ← getRuntime name with
    | .error e => pure (.error e, ())
    | .ok _ =>
      let r ← ask (.updateStatus name card) Response.ok?
      pure (r, ())) ()
  pure x.1

namespace AgentRuntimeReconciler

variable (r : AgentRuntimeReconciler)

/-- The steps of a reconcile from the configuration on. -/
def reconcileConfig (env : Surroundings) (name : NamespacedName) (rt : AgentRuntime) : Api Ending :=
  match env.spiffeHelperConfig, env.sccBinding, env.configHash with
  | .error e, _, _ => pure (.stopped e)
  | .ok (), .error e, _ => pure (.stopped e)
  | .ok (), .ok (), .error e => pure (.stopped e)
  | .ok (), .ok (), .ok configHash => do
    let card ← r.fetchAndUpdateCard name rt
    match ← applyWorkloadConfig rt.toAgentRuntimeResource name.ns configHash with
    | .error e => pure (.notApplied e)
    | .ok () =>
      match ← updateStatus name card with
      | .error e => pure (.statusFailed e)
      | .ok () => pure .configured

/-- The restart that a reconcile may have to finish. -/
def pendingRestart (name : NamespacedName) (rt : AgentRuntime) :
    Api (Option (Except ApiError Unit)) :=
  if rt.targetKind = kindSandbox then completeSandboxRestart ⟨.sandbox, name.ns, rt.targetName⟩
  else pure none

/-- **`Reconcile`** of the AgentRuntime controller. -/
def reconcile (env : Surroundings) (name : NamespacedName) : Api Ending := do
  match ← getRuntime name with
  | .error e => pure (.unread e)
  | .ok rt =>
    if rt.deleting then do
      let x ← handleDeletion name rt
      pure (.deletion x)
    else if agentRuntimeFinalizer ∉ rt.finalizers then do
      let x ← updateRuntime name { rt with finalizers := rt.finalizers ++ [agentRuntimeFinalizer] }
      pure (.finalizer x)
    else
      match ← resolveTargetRef rt name.ns with
      | .error e => pure (.targetNotFound e)
      | .ok () =>
        match ← pendingRestart name rt with
        | some x => pure (.restarted x)
        | none => r.reconcileConfig env name rt

end AgentRuntimeReconciler

end Rossoctl.Runtime
