import Rossoctl.Cards.Trust
import Rossoctl.Run

/-!
# The AgentCard controller

The model of `AgentCardReconciler.Reconcile` and of what it calls to write the label
(`internal/controller/agentcard_controller.go`). A call of Reconcile is one step. It
is given, as its input, what the outside says: the answer of every API call, of
the two fetchers, of the signature provider and of the bundle verifier.

All that Reconcile reads it reads before it writes; so it is cut in two.
`Rossoctl.Cards.Reconciler.observe` is how far it gets, and
`Rossoctl.Cards.Reconciler.report` what it then writes into the status of the card. A
verdict, if it comes to one, is handed to the workload
(`Rossoctl.Cards.propagateSignatureLabel`): every card has an annotation there, and
the label is their conjunction.

The steps around it (`Rossoctl.Cards.Action`) are those of the users and of other
controllers: cards are made, changed and deleted, workloads come, change and go.
-/

namespace Rossoctl.Cards

open Kube Signature

/-! ### The label of a workload -/

/-- `newPodTemplateAccessor`: the workload whose pod template a kind gives access
to. The `apiVersion` is not asked for. -/
def podTemplateKey (kind : String) (name : NamespacedName) : Option WorkloadKey :=
  if kind = "Deployment" then some ⟨"apps", "Deployment", name⟩
  else if kind = "StatefulSet" then some ⟨"apps", "StatefulSet", name⟩
  else none

/-- The annotation of a card on its workload. -/
def perCardAnno (cardName : String) : String := annotationVerifiedStatePrefix ++ cardName

/-- `aggregateVerifiedState`: there are annotations of cards, and all say `true`. -/
def aggregateVerifiedState (annotations : StringMap) : Bool :=
  let states := annotations.entries.filter fun e => hasPrefix e.1 annotationVerifiedStatePrefix
  !states.isEmpty && states.all fun e => e.2 = "true"

/-- The annotations, with the label that follows from them. -/
def Workload.relabel (w : Workload) (annotations : StringMap) : Workload :=
  { w with
    annotations := annotations,
    templateLabels :=
      if aggregateVerifiedState annotations then
        w.templateLabels.insert labelSignatureVerified "true"
      else w.templateLabels.erase labelSignatureVerified }

/-- The state that is recorded for a verdict. -/
def desiredState (verified : Bool) : String := if verified then "true" else "false"

/-- The label is what the annotations ask for. -/
def Workload.labelCorrect (w : Workload) : Bool :=
  let aggregated := aggregateVerifiedState w.annotations
  let currentLabel := (w.templateLabels.lookup labelSignatureVerified).getD ""
  (aggregated && currentLabel = "true") || (!aggregated && currentLabel = "")

/-- **`propagateLabelToWorkload`.** -/
def Workload.propagateLabel (w : Workload) (cardName : String) (verified : Bool) : Workload :=
  if w.annotations.lookup (perCardAnno cardName) = some (desiredState verified) ∧
      w.labelCorrect then
    w
  else
    w.relabel ((w.annotations.insert (perCardAnno cardName) (desiredState verified)).erase
      annotationLastVerifiedState)

/-- **`cleanupPerCardAnnotation`**, on a workload that is there. -/
def Workload.cleanupAnno (w : Workload) (cardName : String) : Workload :=
  if (w.annotations.lookup (perCardAnno cardName)).isSome then
    w.relabel (w.annotations.erase (perCardAnno cardName))
  else w

/-- The workloads of a cluster. -/
abbrev Workloads := GoMap WorkloadKey Workload

/-- Change a workload that is there. -/
def Workloads.change (workloads : Workloads) (k : WorkloadKey) (f : Workload → Workload) :
    Workloads :=
  match workloads.lookup k with
  | none => workloads
  | some w => workloads.insert k (f w)

/-- The pod template that the controller reaches for a card. -/
def AgentCard.podTemplate (card : AgentCard) (ns : String) : Option WorkloadKey :=
  card.targetRef.bind fun ref => podTemplateKey ref.kind ⟨ns, ref.name⟩

/-- Change the workload whose pod template the controller reaches for a card, unless
a call fails. -/
def changeTemplate (workloads : Workloads) (key : NamespacedName) (card : AgentCard)
    (fault : Option String) (f : Workload → Workload) : Workloads :=
  match card.podTemplate key.ns, fault with
  | some k, none => workloads.change k f
  | _, _ => workloads

/-- `propagateSignatureLabel`: hand a verdict to the workload. -/
def propagateSignatureLabel (workloads : Workloads) (key : NamespacedName) (card : AgentCard)
    (verified : Bool) (fault : Option String) : Workloads × Option String :=
  (changeTemplate workloads key card fault (·.propagateLabel key.name verified),
    match card.podTemplate key.ns, fault with
    | none, _ => none
    | some _, some e => some e
    | some k, none =>
      if (workloads.lookup k).isSome then none
      else some (k.kind ++ " " ++ k.name.name ++ " not found"))

/-- `cleanupPerCardAnnotation`; its error is only logged. -/
def cleanupPerCardAnnotation (workloads : Workloads) (key : NamespacedName) (card : AgentCard)
    (fault : Option String) : Workloads :=
  changeTemplate workloads key card fault (·.cleanupAnno key.name)

/-! ### The input of a step -/

/-- A service, by its ports. -/
structure Service where
  ports : List (String × ℕ)

/-- `getServicePort`: the first port, or 8000. -/
def getServicePort (service : Service) : ℕ := (service.ports.head?.map Prod.snd).getD 8000

/-- `getAgentTLSPort`, `0` if there is none. -/
def getAgentTLSPort (service : Service) : ℕ :=
  ((service.ports.find? fun p => p.1 = "agent-tls").map Prod.snd).getD 0

/-- **The input of a Reconcile**: for each API call that can fail its error, if it
does, and the answers of the others. An update with retries on conflict is one call. -/
structure Input where
  getCard : Option String := none
  addFinalizer : Option String := none
  getWorkload : Option String := none
  getService : Except String Service
  updateSynced : Option String := none
  updateBinding : Option String := none
  updateVerified : Option String := none
  updateReady : Option String := none
  cleanupFields : Option String := none
  updateStatus : Option String := none
  propagate : Option String := none
  cleanup : Option String := none
  removeFinalizer : Option String := none
  fetchAuthenticated : Except String FetchResult
  fetch : Except String Payload
  answer : Option VerificationResult := none
  sigstore : Except String (Option BundleVerificationResult) := .ok none

/-- What Reconcile returns. -/
inductive Result where
  | done
  | requeueAfter (seconds : ℕ)
  | afterSyncPeriod
  | error (e : String)
  deriving DecidableEq

/-! ### What Reconcile sees -/

/-- The errors of `getWorkload`. -/
inductive WorkloadError where
  | notFound (text : String)
  | notAgent (text : String)
  | other (text : String)

/-- The text of the error. -/
def WorkloadError.text : WorkloadError → String
  | .notFound text => text
  | .notAgent text => text
  | .other text => text

/-- The message of the condition. -/
def WorkloadError.message : WorkloadError → String
  | .notFound _ => "No matching workload found"
  | .notAgent _ => "Referenced resource is not an agent"
  | .other text => text

/-- The reason of the condition. -/
def WorkloadError.reason : WorkloadError → String
  | .notFound _ => "WorkloadNotFound"
  | .notAgent _ => "NotAgentWorkload"
  | .other _ => "WorkloadError"

/-- `getWorkload`: the target has to be named, there, and an agent. -/
def getWorkload (workloads : Workloads) (ns : String) (card : AgentCard) (fault : Option String) :
    Except WorkloadError (TargetRef × Workload) :=
  match card.targetRef with
  | none =>
    .error (.other "spec.targetRef is required: specify the workload backing this agent")
  | some ref =>
    match ref.key ns with
    | .error e => .error (.other ("invalid apiVersion " ++ ref.apiVersion ++ ": " ++ e))
    | .ok key =>
      match fault with
      | some e => .error (.other e)
      | none =>
        match workloads.lookup key with
        | none => .error (.notFound ("workload not found: " ++ ref.apiVersion ++ "/" ++ ref.kind ++
            " " ++ ref.name ++ " not found in namespace " ++ ns))
        | some w =>
          if isAgentWorkload w.labels then .ok (ref, w)
          else .error (.notAgent ("resource is not a Rossoctl agent: " ++ ref.kind ++ " " ++
            ref.name ++ " does not have rossoctl.io/type=agent label"))

/-- **How far a Reconcile gets.** -/
inductive Observation where
  | noWorkload (e : WorkloadError)
  | notReady (ref : TargetRef)
  | noProtocol
  | noService (e : String)
  | fetchFailed (authenticated : Bool) (e : String)
  | fetched (ref : TargetRef) (protocol serviceURL : String) (fetchResult : FetchResult)

def getServiceURL (agentName ns : String) (port : ℕ) : String :=
  "http://" ++ agentName ++ "." ++ ns ++ ".svc.cluster.local:" ++ toString port

/-- The fetch of `fetchCardData`: an authenticated one where that is switched on and
the service has a port for it. -/
def Reconciler.fetchCardData (r : Reconciler) (service : Service) (inp : Input) :
    Except (Bool × String) FetchResult :=
  if r.verifiedFetch && getAgentTLSPort service > 0 then
    match inp.fetchAuthenticated with
    | .ok fetchResult => .ok fetchResult
    | .error e => .error (true, e)
  else
    match inp.fetch with
    | .ok payload => .ok { payload with }
    | .error e => .error (false, e)

/-- What Reconcile reads. -/
def Reconciler.observe (r : Reconciler) (workloads : Workloads) (ns : String) (card : AgentCard)
    (inp : Input) : Observation :=
  match getWorkload workloads ns card inp.getWorkload with
  | .error e => .noWorkload e
  | .ok (ref, w) =>
    if !isWorkloadReady w ref.kind then .notReady ref
    else
      let protocol := getWorkloadProtocol w.labels
      if protocol = "" then .noProtocol
      else
        match inp.getService with
        | .error e => .noService ("failed to get service " ++ ref.name ++ ": " ++ e)
        | .ok service =>
          match r.fetchCardData service inp with
          | .error (authenticated, e) => .fetchFailed authenticated e
          | .ok fetchResult => .fetched ref protocol
              (getServiceURL ref.name ns (getServicePort service)) fetchResult

/-! ### What Reconcile writes -/

/-- The status of the card after a Reconcile, the verdict to hand to the workload, if
any, and what is returned. -/
structure Outcome where
  status : AgentCardStatus
  verdict : Option Bool := none
  result : Result

/-- Update the status and go on, unless the update fails. -/
def AgentCardStatus.update (status : AgentCardStatus) (fault : Option String)
    (f : AgentCardStatus → AgentCardStatus) (next : AgentCardStatus → Outcome) : Outcome :=
  match fault with
  | some e => { status := status, result := .error e }
  | none => next (f status)

/-- Update the status, or leave it if the update fails. -/
def AgentCardStatus.tryUpdate (status : AgentCardStatus) (fault : Option String)
    (f : AgentCardStatus → AgentCardStatus) : AgentCardStatus :=
  match fault with
  | some _ => status
  | none => f status

/-- The condition that something is not the case. -/
def AgentCardStatus.setFalse (status : AgentCardStatus) (type reason message : String) :
    AgentCardStatus :=
  status.setCondition type ⟨.conditionFalse, reason, message⟩

/-- What an earlier verified fetch has left goes. -/
def AgentCardStatus.cleanupVerifiedFetchFields (status : AgentCardStatus) : AgentCardStatus :=
  if (status.conditions.lookup conditionVerified).isSome || status.attestedAgentSpiffeID ≠ "" then
    { status.removeCondition conditionVerified with attestedAgentSpiffeID := "" }
  else status

/-- The writes of `fetchCardData` after a fetch that failed. -/
def AgentCardStatus.recordFetchFailure (status : AgentCardStatus) (inp : Input)
    (authenticated : Bool) (e : String) : AgentCardStatus :=
  match inp.updateSynced with
  | some _ => status
  | none =>
    let status := status.setFalse "Synced" "FetchFailed" e
    if authenticated then
      status.tryUpdate inp.updateVerified (·.setFalse conditionVerified "FetchFailed" e)
    else status

/-- The write of `fetchCardData` after a fetch that succeeded: where authenticated
fetches are off, their traces are removed, if that can be written. -/
def Reconciler.clearedStatus (r : Reconciler) (status : AgentCardStatus) (inp : Input) :
    AgentCardStatus :=
  if r.verifiedFetch then status
  else status.tryUpdate inp.cleanupFields (·.cleanupVerifiedFetchFields)

/-- What is returned at the end of a sync. -/
def Reconciler.syncResult (r : Reconciler) (eval : TrustEvaluation) : Result :=
  if !eval.isMTLSVerified && r.requireSignature && !r.signatureAuditMode &&
      eval.verificationResult.any (fun vr => !vr.verified) then .requeueAfter 60
  else .afterSyncPeriod

/-- **What Reconcile writes** into the status of the card, and its verdict. -/
def Reconciler.report (r : Reconciler) (card : AgentCard) (inp : Input) : Observation → Outcome
  | .noWorkload e =>
    card.status.update inp.updateSynced (·.setFalse "Synced" e.reason e.text) fun status =>
      if card.identityBinding.isSome then
        status.update inp.updateBinding
          (·.applyBinding { bound := false, reason := "AgentNotFound", message := e.message })
          fun status => { status := status, result := .requeueAfter 60 }
      else { status := status, result := .requeueAfter 60 }
  | .notReady ref =>
    card.status.update inp.updateSynced
      (·.setFalse "Synced" "WorkloadNotReady" (ref.kind ++ " " ++ ref.name ++ " is not ready"))
      fun status => { status := status, result := .requeueAfter 10 }
  | .noProtocol =>
    card.status.update inp.updateSynced (·.setFalse "Synced" "NoProtocol"
        "Workload does not have a protocol.rossoctl.io/<name> label")
      fun status => { status := status, result := .requeueAfter 60 }
  | .noService e =>
    card.status.update inp.updateSynced (·.setFalse "Synced" "ServiceNotFound" e)
      fun status => { status := status, result := .requeueAfter 30 }
  | .fetchFailed authenticated e =>
    (card.status.recordFetchFailure inp authenticated e).update inp.updateReady
      (·.setFalse "Ready" "SyncFailed" "Agent card fetch failed")
      fun status => { status := status, result := .requeueAfter 60 }
  | .fetched ref protocol serviceURL fetchResult =>
    let eval := r.evaluateTrust card fetchResult inp.answer
    (r.clearedStatus card.status inp).update inp.updateStatus
      (r.applyStatus { fetchResult.cardData with url := serviceURL } protocol ref eval
        (r.sigstoreResult fetchResult inp.sigstore))
      fun status => { status := status, verdict := eval.propagated r, result := r.syncResult eval }

/-! ### The steps -/

/-- The cluster, together with the cards that have been reconciled since their last
change. -/
structure State where
  cards : GoMap NamespacedName AgentCard := ∅
  workloads : Workloads := ∅
  reconciled : List NamespacedName := []

/-- A card is replaced or removed. -/
def State.putCard (st : State) (key : NamespacedName) (card : Option AgentCard) : State :=
  { st with cards := put st.cards key card }

/-- A card is changed: it has not been reconciled since. -/
def State.changeCard (st : State) (key : NamespacedName) (card : Option AgentCard) : State :=
  { st.putCard key card with reconciled := st.reconciled.filter fun k => k ≠ key }

/-- **`handleDeletion`.** The clean-up of the annotation may fail; the finalizer is
removed all the same. -/
def State.handleDeletion (st : State) (key : NamespacedName) (card : AgentCard) (inp : Input) :
    State × Result :=
  if agentCardFinalizer ∈ card.finalizers then
    let st := { st with
      workloads := cleanupPerCardAnnotation st.workloads key card inp.cleanup }
    match inp.removeFinalizer with
    | some e => (st, .error e)
    | none =>
      let finalizers := card.finalizers.filter fun f => f ≠ agentCardFinalizer
      (st.changeCard key (retained card.deleting finalizers { card with finalizers := finalizers }),
        .done)
  else (st, .done)

/-- The part of Reconcile behind the finalizer. -/
def Reconciler.sync (r : Reconciler) (st : State) (key : NamespacedName) (card : AgentCard)
    (inp : Input) : State × Result :=
  let outcome := r.report card inp (r.observe st.workloads key.ns card inp)
  let propagated := match outcome.verdict with
    | none => (st.workloads, none)
    | some verified => propagateSignatureLabel st.workloads key card verified inp.propagate
  ({ cards := st.cards.insert key { card with status := outcome.status },
     workloads := propagated.1,
     reconciled := key :: st.reconciled },
    propagated.2.elim outcome.result .error)

/-- **`Reconcile`** of the AgentCard controller. -/
def Reconciler.reconcile (r : Reconciler) (st : State) (key : NamespacedName) (inp : Input) :
    State × Result :=
  match inp.getCard, st.cards.lookup key with
  | some e, _ => (st, .error e)
  | none, none => (st, .done)
  | none, some card =>
    if card.deleting then st.handleDeletion key card inp
    else if agentCardFinalizer ∈ card.finalizers then r.sync st key card inp
    else
      match inp.addFinalizer with
      | some e => (st, .error e)
      | none =>
        (st.changeCard key
          (some { card with finalizers := card.finalizers ++ [agentCardFinalizer] }),
          .done)

/-- **The steps**: of users and other controllers, and of the controller. -/
inductive Action where
  | createCard (key : NamespacedName) (finalizers : List String) (targetRef : Option TargetRef)
      (identityBinding : Option IdentityBinding)
  | updateSpec (key : NamespacedName) (targetRef : Option TargetRef)
      (identityBinding : Option IdentityBinding)
  /-- Another controller sets its finalizers. -/
  | setFinalizers (key : NamespacedName) (finalizers : List String)
  | deleteCard (key : NamespacedName)
  | createWorkload (k : WorkloadKey) (w : Workload)
  | updateWorkload (k : WorkloadKey) (labels : StringMap) (conditions : List (String × String))
      (readyReplicas replicas : ℤ)
  | deleteWorkload (k : WorkloadKey)
  | reconcile (key : NamespacedName) (inp : Input)

/-- One step. A card is created, and a workload, only where there is none. -/
def step (r : Reconciler) (st : State) : Action → Option State
  | .createCard key finalizers targetRef identityBinding =>
    match st.cards.lookup key with
    | some _ => none
    | none => some (st.changeCard key (some
        { finalizers := finalizers, targetRef := targetRef, identityBinding := identityBinding }))
  | .updateSpec key targetRef identityBinding =>
    match st.cards.lookup key with
    | none => none
    | some card =>
      if card.targetRef = targetRef ∧ card.identityBinding = identityBinding then some st
      else some (st.changeCard key (some
        { card with targetRef := targetRef, identityBinding := identityBinding }))
  | .setFinalizers key finalizers =>
    match st.cards.lookup key with
    | none => none
    | some card =>
      let finalizers := card.finalizers.filter (fun f => f = agentCardFinalizer) ++
        finalizers.filter fun f => f ≠ agentCardFinalizer
      some (st.putCard key
        (retained card.deleting finalizers { card with finalizers := finalizers }))
  | .deleteCard key =>
    match st.cards.lookup key with
    | none => none
    | some card =>
      some (st.changeCard key (retained true card.finalizers { card with deleting := true }))
  | .createWorkload k w =>
    match st.workloads.lookup k with
    | some _ => none
    | none => some { st with workloads := st.workloads.insert k w }
  | .updateWorkload k labels conditions readyReplicas replicas =>
    some { st with workloads := st.workloads.change k fun w =>
      { w with
        labels := labels, conditions := conditions, readyReplicas := readyReplicas,
        replicas := replicas } }
  | .deleteWorkload k => some { st with workloads := st.workloads.erase k }
  | .reconcile key inp => some (r.reconcile st key inp).1

end Rossoctl.Cards
