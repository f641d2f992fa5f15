import Rossoctl.Cards.Verdict

/-!
# The conditions of a card

What each write of the AgentCard controller does to the conditions of a status, read
condition by condition. From it follows what the composite condition `Ready` says at the
end of a sync (`Rossoctl.Cards.readyCondition_eq_true`), and what a Reconcile that gets
so far or so far leaves of it.
-/

namespace Rossoctl.Cards

open Kube Signature

/-- The status of a condition, if it is there. -/
def AgentCardStatus.condition (status : AgentCardStatus) (type : String) : Option ConditionStatus :=
  (status.conditions.lookup type).map Condition.status

section Writes

variable (status : AgentCardStatus) (type : String)

@[simp] theorem condition_setCondition (type' : String) (c : Condition) :
    (status.setCondition type' c).condition type =
      if type = type' then some c.status else status.condition type := by
  rw [AgentCardStatus.condition, AgentCardStatus.setCondition, GoMap.lookup_insert_ite]
  split
  · rfl
  · rfl

@[simp] theorem condition_removeCondition (type' : String) :
    (status.removeCondition type').condition type =
      if type = type' then none else status.condition type := by
  rw [AgentCardStatus.condition, AgentCardStatus.removeCondition, GoMap.lookup_erase_ite]
  split
  · rfl
  · rfl

@[simp] theorem condition_setFalse (type' reason message : String) :
    (status.setFalse type' reason message).condition type =
      if type = type' then some .conditionFalse else status.condition type :=
  condition_setCondition status type type' _

@[simp] theorem condition_applyBinding (binding : BindingResult) :
    (status.applyBinding binding).condition type =
      if type = "Bound" then some (if binding.bound then .conditionTrue else .conditionFalse)
      else status.condition type :=
  condition_setCondition _ type "Bound" _

@[simp] theorem condition_applyVerdict (eval : TrustEvaluation) :
    (status.applyVerdict eval).condition type =
      if eval.verifiedReason ≠ "" ∧ type = conditionVerified then some eval.verifiedStatus
      else status.condition type := by
  have hset : (if eval.verifiedReason ≠ "" then status.setCondition conditionVerified
        ⟨eval.verifiedStatus, eval.verifiedReason, eval.verifiedMessage⟩ else status).condition
        type =
      if eval.verifiedReason ≠ "" ∧ type = conditionVerified then some eval.verifiedStatus
      else status.condition type := by
    by_cases h : eval.verifiedReason ≠ ""
    · rw [if_pos h, condition_setCondition]
      simp only [h, not_false_eq_true, true_and, ne_eq]
    · rw [if_neg h, if_neg fun hand => h hand.1]
  rw [AgentCardStatus.applyVerdict]
  split
  · exact hset
  · exact hset

@[simp] theorem condition_applySignature (r : Reconciler) (vr : Option VerificationResult) :
    (r.applySignature vr status).condition type =
      if type = "SignatureVerified" then
        (vr.map fun vr => (r.signatureCondition vr).status).orElse fun _ => status.condition type
      else status.condition type := by
  cases vr with
  | none => simp [Reconciler.applySignature]
  | some vr =>
    rw [Reconciler.applySignature, condition_setCondition]
    rfl

/-- What the status of the Sigstore bundle says. -/
def Reconciler.sigstoreStatus (r : Reconciler) (sr : Option BundleVerificationResult) :
    Option ConditionStatus :=
  match sr, r.enableSigstoreVerification with
  | some sr, true => some (if sr.absent then .conditionFalse else (r.sigstoreCondition sr).status)
  | _, _ => none

@[simp] theorem condition_applySigstore (r : Reconciler) (sr : Option BundleVerificationResult) :
    (r.applySigstore sr status).condition type =
      if type = "SigstoreVerified" then r.sigstoreStatus sr else status.condition type := by
  cases sr with
  | none => exact condition_removeCondition _ type "SigstoreVerified"
  | some sr =>
    unfold Reconciler.applySigstore Reconciler.sigstoreStatus
    cases r.enableSigstoreVerification with
    | false => exact condition_removeCondition _ type "SigstoreVerified"
    | true =>
      dsimp only
      cases sr.absent with
      | true => exact condition_setCondition _ type "SigstoreVerified" _
      | false =>
        cases sr.verified with
        | true => exact condition_setCondition _ type "SigstoreVerified" _
        | false => exact condition_setCondition _ type "SigstoreVerified" _

@[simp] theorem condition_cleanup : status.cleanupVerifiedFetchFields.condition type =
      if type = conditionVerified then none else status.condition type := by
  rw [AgentCardStatus.cleanupVerifiedFetchFields]
  split
  · exact condition_removeCondition status type conditionVerified
  · rename_i h
    split
    · rename_i htype
      have hnone : status.conditions.lookup conditionVerified = none := by
        simp only [Bool.or_eq_true, Option.isSome_iff_ne_none, not_or, ne_eq, not_not] at h
        exact h.1
      rw [htype, AgentCardStatus.condition, hnone]
      rfl
    · rfl

end Writes

variable (status : AgentCardStatus) (type : String)

theorem isStatusConditionTrue_iff : isStatusConditionTrue status.conditions type = true ↔
      status.condition type = some .conditionTrue := by
  rw [isStatusConditionTrue, AgentCardStatus.condition]
  cases status.conditions.lookup type with
  | none => simp
  | some c => simp

theorem verified_iff :
    status.verified = true ↔ status.condition conditionVerified = some .conditionTrue :=
  isStatusConditionTrue_iff status conditionVerified

theorem isNone_lookup_iff :
    (status.conditions.lookup type).isNone = true ↔ status.condition type = none := by
  rw [AgentCardStatus.condition, Option.map_eq_none_iff, Option.isNone_iff_eq_none]

/-- **The composite condition**: synced, and verified if that has been evaluated. -/
theorem readyCondition_eq_true : status.readyCondition.status = .conditionTrue ↔
      status.condition "Synced" = some .conditionTrue ∧
        (status.condition conditionVerified = some .conditionTrue ∨
          status.condition conditionVerified = none) := by
  rw [AgentCardStatus.readyCondition, ← isStatusConditionTrue_iff, ← verified_iff,
    ← isNone_lookup_iff]
  by_cases hsynced : isStatusConditionTrue status.conditions "Synced" = true
  · rw [if_pos hsynced]
    by_cases hver : ((status.conditions.lookup conditionVerified).isNone || status.verified) = true
    · rw [if_pos hver]
      rw [Bool.or_eq_true] at hver
      simp only [hsynced, true_and, true_iff]
      exact hver.symm
    · rw [if_neg hver]
      rw [Bool.or_eq_true, not_or] at hver
      simp only [hsynced, hver, true_and, reduceCtorEq, or_self]
  · rw [if_neg hsynced]
    simp only [hsynced, reduceCtorEq, false_and, Bool.false_eq_true]

/-- The status with the evaluation written into it, before `Ready` is computed. -/
def Reconciler.evaluated (r : Reconciler) (cardData : AgentCardData) (protocol : String)
    (targetRef : TargetRef) (eval : TrustEvaluation) (sr : Option BundleVerificationResult)
    (status : AgentCardStatus) : AgentCardStatus :=
  let status := { status with
    card := some cardData, protocol := protocol, targetRef := some targetRef }
  ((r.applySigstore sr (r.applySignature eval.verificationResult status)).setCondition "Synced"
    (r.syncedCondition cardData.name eval.verificationResult eval.isMTLSVerified sr)).applyVerdict
      eval

/-- The status with the condition `Ready` computed. -/
def AgentCardStatus.withReady (status : AgentCardStatus) : AgentCardStatus :=
  status.setCondition "Ready" status.readyCondition

theorem applyStatus_eq (r : Reconciler) (cardData : AgentCardData) (protocol : String)
    (targetRef : TargetRef) (eval : TrustEvaluation) (sr : Option BundleVerificationResult) :
    r.applyStatus cardData protocol targetRef eval sr status =
      let ready := (r.evaluated cardData protocol targetRef eval sr status).withReady
      { eval.binding.elim ready ready.applyBinding with
        signatureIdentityMatch := eval.identityMatch } :=
  rfl

/-- **The conditions after `updateAgentCardStatus`.** -/
theorem condition_applyStatus (r : Reconciler) (cardData : AgentCardData) (protocol : String)
    (targetRef : TargetRef) (eval : TrustEvaluation) (sr : Option BundleVerificationResult)
    (status : AgentCardStatus) (type : String) :
    (r.applyStatus cardData protocol targetRef eval sr status).condition type =
      if type = "Bound" then
        (eval.binding.map fun b => if b.bound then ConditionStatus.conditionTrue
          else .conditionFalse).orElse fun _ => status.condition type
      else if type = "Ready" then
        some (r.evaluated cardData protocol targetRef eval sr status).readyCondition.status
      else (r.evaluated cardData protocol targetRef eval sr status).condition type := by
  have hready : (r.evaluated cardData protocol targetRef eval sr status).withReady.condition type =
      _ := condition_setCondition _ type "Ready" _
  have hbound : (r.evaluated cardData protocol targetRef eval sr status).condition "Bound" =
      status.condition "Bound" := by
    rw [Reconciler.evaluated, condition_applyVerdict, if_neg fun h => absurd h.2 (by decide),
      condition_setCondition, if_neg (by decide), condition_applySigstore, if_neg (by decide),
      condition_applySignature, if_neg (by decide)]
    rfl
  rw [applyStatus_eq]
  cases eval.binding with
  | none =>
    refine hready.trans ?_
    by_cases htype : type = "Bound"
    · subst htype
      exact hbound
    · rw [if_neg htype]
  | some b =>
    refine (condition_applyBinding _ type b).trans ?_
    by_cases htype : type = "Bound"
    · rw [if_pos htype, if_pos htype]
      rfl
    · rw [if_neg htype, if_neg htype, hready]

end Rossoctl.Cards
