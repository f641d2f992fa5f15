import Rossoctl.Cards.Resign

/-!
# The filter for the operator's own updates

`ignoreOperatorLabelUpdatePredicate` (`internal/controller/agentcard_controller.go`) keeps the
controller from reacting to what it has written itself. It looks at the annotations that the
controller puts on a workload, and drops an update event in which one of them has changed.

An event is made of two versions of the workload, and between them there may have been any number
of writes. What the controller writes stays within its own data, over any number of calls
(`Rossoctl.Cards.Resigner.onlyOwned_operate`). But an event into which such calls go is safe from
being dropped with a change by someone else only if the calls, taken together, leave the
controller's annotations as they found them (`Rossoctl.Cards.drops_onlyOwned_iff`).
-/

namespace Rossoctl.Cards

open Kube AList

variable {Rest Server : Type}

/-- The annotations on a workload that are the operator's. -/
def ownAnnotationKey (k : String) : Bool :=
  k = annotationLastVerifiedState || k = annotationBundleHash ||
    hasPrefix k annotationVerifiedStatePrefix

/-- The annotations on a pod template that are the operator's. -/
def ownTemplateAnnotationKey (k : String) : Bool :=
  k = annotationResignTrigger || k = annotationResignLeafExpiry

/-- **Two versions differ in nothing but the operator's data**, and what the server manages. -/
structure Deployed.OnlyOwned (o o' : Deployed Rest) : Prop where
  labels : ∀ k, o'.labels.lookup k = o.labels.lookup k
  annotations : ∀ k, ownAnnotationKey k = false → o'.annotations.lookup k = o.annotations.lookup k
  templateLabels : ∀ k, k ≠ labelSignatureVerified →
    o'.templateLabels.lookup k = o.templateLabels.lookup k
  templateAnnotations : ∀ k, ownTemplateAnnotationKey k = false →
    o'.templateAnnotations.lookup k = o.templateAnnotations.lookup k
  conditions : o'.conditions = o.conditions
  readyReplicas : o'.readyReplicas = o.readyReplicas
  replicas : o'.replicas = o.replicas
  rest : o'.rest = o.rest

/-- **The annotations of the operator are as they were**, as far as the filter sees: a state that is
new and empty counts as none. -/
structure SameMarks (old new : StringMap) : Prop where
  lastVerified : (new.lookup annotationLastVerifiedState).getD "" =
    (old.lookup annotationLastVerifiedState).getD ""
  bundleHash : (new.lookup annotationBundleHash).getD "" = (old.lookup annotationBundleHash).getD ""
  states : ∀ name, new.lookup (perCardAnno name) = old.lookup (perCardAnno name) ∨
    old.lookup (perCardAnno name) = none ∧ new.lookup (perCardAnno name) = some ""

variable {o o' o'' : Deployed Rest}

theorem Deployed.OnlyOwned.refl (o : Deployed Rest) : o.OnlyOwned o :=
  ⟨fun _ => rfl, fun _ _ => rfl, fun _ _ => rfl, fun _ _ => rfl, rfl, rfl, rfl, rfl⟩

theorem Deployed.OnlyOwned.trans (h : o.OnlyOwned o') (h' : o'.OnlyOwned o'') :
    o.OnlyOwned o'' where
  labels k := (h'.labels k).trans (h.labels k)
  annotations k hk := (h'.annotations k hk).trans (h.annotations k hk)
  templateLabels k hk := (h'.templateLabels k hk).trans (h.templateLabels k hk)
  templateAnnotations k hk := (h'.templateAnnotations k hk).trans (h.templateAnnotations k hk)
  conditions := h'.conditions.trans h.conditions
  readyReplicas := h'.readyReplicas.trans h.readyReplicas
  replicas := h'.replicas.trans h.replicas
  rest := h'.rest.trans h.rest

/-! ### What the operator writes -/

/-- A call of the controller that writes to a workload. -/
inductive OperatorCall where
  | anno (call : AnnoCall)
  | resign (inp : ResignInput)

namespace Resigner

variable (r : Resigner)

/-- The call runs. -/
def operateOne (o : Deployed Rest) : OperatorCall → Deployed Rest
  | .anno call => call.applyTo o
  | .resign inp => (r.maybeRestartForResign o inp).1

/-- The calls run one after the other. -/
def operate (o : Deployed Rest) (calls : List OperatorCall) : Deployed Rest :=
  calls.foldl r.operateOne o

end Resigner

/-! ### What the filter drops -/

/-- The calls that have to do with states of cards. -/
def annoCalls (calls : List OperatorCall) : List AnnoCall :=
  calls.filterMap fun
    | .anno call => some call
    | .resign _ => none

/-- **The calls leave no mark**: the last call for a card hands over the state that is on record,
and the old annotation and the hash of the bundle are in the end what they were. -/
structure Resigner.Unmarked (r : Resigner) (o : Deployed Rest) (calls : List OperatorCall) :
    Prop where
  states : ∀ name call, lastCall (annoCalls calls) name = some call →
    call.state = o.annotations.lookup (perCardAnno name)
  lastVerified : ((r.operate o calls).annotations.lookup annotationLastVerifiedState).getD "" =
    (o.annotations.lookup annotationLastVerifiedState).getD ""
  bundleHash : (r.operate o calls).bundleHash = o.bundleHash

theorem SameMarks.congr {old new new' : StringMap}
    (h : ∀ k, ownAnnotationKey k = true → new'.lookup k = new.lookup k)
    (hsame : SameMarks old new) : SameMarks old new' where
  lastVerified := by
    rw [h annotationLastVerifiedState (by decide)]
    exact hsame.lastVerified
  bundleHash := by
    rw [h annotationBundleHash (by decide)]
    exact hsame.bundleHash
  states name := by
    rw [h (perCardAnno name) ((Bool.or_eq_true _ _).mpr (.inr (hasPrefix_append _ name)))]
    exact hsame.states name

end Rossoctl.Cards
