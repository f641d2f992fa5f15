import Rossoctl.Cards.Readiness

/-!
# What a trust status remembers

The status of a card says what the last evaluation found: the signature, the identity of
the peer, the binding, the Sigstore bundle, and the conditions that follow from them
(`Rossoctl.Cards.TrustFields`). Two Reconciles that see the same should leave the same
there, whatever the status was before.

The verdict, `Synced`, `Ready` and all that is said of the Sigstore bundle are indeed
written anew each time. The fields of the signature, of the peer and of the binding are
written where there is something to write, and otherwise left alone; so the outcome is
free of the history exactly where they are written, or were the same before
(`Rossoctl.Cards.HistoryFree`, `Rossoctl.Cards.trustAfter_eq_iff`).
-/

namespace Rossoctl.Cards

open Kube Signature

/-! ### The trust fields -/

/-- What a status says of the signature. -/
structure SignatureFields where
  validSignature : Option Bool
  signatureKeyID : String
  signatureSpiffeID : String
  signatureVerified : Option ConditionStatus
  deriving DecidableEq

/-- What a status says of the binding. -/
structure BindingFields where
  bindingStatus : Option BindingStatus
  bound : Option ConditionStatus
  deriving DecidableEq

/-- What a status says of the Sigstore bundle. -/
structure SigstoreFields where
  sigstoreBundleVerified : Option Bool
  sigstoreIdentity : String
  rekorLogIndex : String
  slsaRepository : String
  slsaCommitSHA : String
  sigstoreVerified : Option ConditionStatus
  deriving DecidableEq

/-- **The trust fields** of a status. -/
structure TrustFields where
  signature : SignatureFields
  signatureIdentityMatch : Option Bool
  attestedAgentSpiffeID : String
  expectedSpiffeID : String
  binding : BindingFields
  sigstore : SigstoreFields
  verified : Option ConditionStatus
  synced : Option ConditionStatus
  ready : Option ConditionStatus
  deriving DecidableEq

namespace AgentCardStatus

variable (status : AgentCardStatus)

/-- The fields of a status that the signature decides on. -/
def signatureFields : SignatureFields where
  validSignature := status.validSignature
  signatureKeyID := status.signatureKeyID
  signatureSpiffeID := status.signatureSpiffeID
  signatureVerified := status.condition "SignatureVerified"

/-- Those of the identity binding. -/
def bindingFields : BindingFields where
  bindingStatus := status.bindingStatus
  bound := status.condition "Bound"

/-- Those of the Sigstore bundle. -/
def sigstoreFields : SigstoreFields where
  sigstoreBundleVerified := status.sigstoreBundleVerified
  sigstoreIdentity := status.sigstoreIdentity
  rekorLogIndex := status.rekorLogIndex
  slsaRepository := status.slsaRepository
  slsaCommitSHA := status.slsaCommitSHA
  sigstoreVerified := status.condition "SigstoreVerified"

/-- All fields that have to do with trust. -/
def trust : TrustFields where
  signature := status.signatureFields
  signatureIdentityMatch := status.signatureIdentityMatch
  attestedAgentSpiffeID := status.attestedAgentSpiffeID
  expectedSpiffeID := status.expectedSpiffeID
  binding := status.bindingFields
  sigstore := status.sigstoreFields
  verified := status.condition conditionVerified
  synced := status.condition "Synced"
  ready := status.condition "Ready"

end AgentCardStatus

/-! ### What is written of them -/

/-- The fields that are not conditions, and that not every update writes. -/
structure PlainFields where
  validSignature : Option Bool
  signatureKeyID : String
  signatureSpiffeID : String
  attestedAgentSpiffeID : String
  expectedSpiffeID : String
  bindingStatus : Option BindingStatus

def AgentCardStatus.plain (status : AgentCardStatus) : PlainFields where
  validSignature := status.validSignature
  signatureKeyID := status.signatureKeyID
  signatureSpiffeID := status.signatureSpiffeID
  attestedAgentSpiffeID := status.attestedAgentSpiffeID
  expectedSpiffeID := status.expectedSpiffeID
  bindingStatus := status.bindingStatus

/-- The fields of a signature. -/
def PlainFields.sign (p : PlainFields) (vr : VerificationResult) : PlainFields :=
  { p with
    validSignature := some vr.verified, signatureKeyID := vr.keyID,
    signatureSpiffeID := if vr.verified then vr.spiffeID else "" }

/-- The fields of a binding. -/
def PlainFields.bind (p : PlainFields) (binding : BindingResult) : PlainFields :=
  { p with
    bindingStatus := some ⟨binding.bound, binding.reason, binding.message⟩,
    expectedSpiffeID :=
      if binding.spiffeID ≠ "" then binding.spiffeID else p.expectedSpiffeID }

/-- The identity of the peer, if there is one. -/
def PlainFields.attest (p : PlainFields) (spiffeID : String) : PlainFields :=
  { p with
    attestedAgentSpiffeID := if spiffeID ≠ "" then spiffeID else p.attestedAgentSpiffeID }

variable (r : Reconciler) (sr : Option BundleVerificationResult) (eval : TrustEvaluation)
  (cardData : AgentCardData) (protocol : String) (targetRef : TargetRef)

theorem plain_applySignature (vr : Option VerificationResult) (status : AgentCardStatus) :
    (r.applySignature vr status).plain = vr.elim status.plain status.plain.sign := by
  cases vr with
  | none => rfl
  | some vr => rfl

variable (status : AgentCardStatus)

theorem plain_applySigstore : (r.applySigstore sr status).plain = status.plain := by
  cases sr with
  | none => rfl
  | some sr =>
    unfold Reconciler.applySigstore
    cases r.enableSigstoreVerification with
    | false => rfl
    | true =>
      dsimp only
      split
      · rfl
      · split
        · rfl
        · rfl

theorem plain_applyVerdict :
    (status.applyVerdict eval).plain = status.plain.attest eval.attestedSpiffeID := by
  have hset : (if eval.verifiedReason ≠ "" then status.setCondition conditionVerified
      ⟨eval.verifiedStatus, eval.verifiedReason, eval.verifiedMessage⟩ else status).plain =
        status.plain := by
    split
    · rfl
    · rfl
  rw [← hset, AgentCardStatus.applyVerdict, PlainFields.attest]
  split
  · rfl
  · rfl

/-- What an update makes of the fields. -/
def PlainFields.update (p : PlainFields) (eval : TrustEvaluation) : PlainFields where
  validSignature := eval.verificationResult.elim p.validSignature fun vr => some vr.verified
  signatureKeyID := eval.verificationResult.elim p.signatureKeyID VerificationResult.keyID
  signatureSpiffeID := eval.verificationResult.elim p.signatureSpiffeID fun vr =>
    if vr.verified then vr.spiffeID else ""
  attestedAgentSpiffeID :=
    if eval.attestedSpiffeID ≠ "" then eval.attestedSpiffeID else p.attestedAgentSpiffeID
  expectedSpiffeID :=
    let spiffeID := eval.binding.elim "" BindingResult.spiffeID
    if spiffeID ≠ "" then spiffeID else p.expectedSpiffeID
  bindingStatus := eval.binding.elim p.bindingStatus fun b =>
    some ⟨b.bound, b.reason, b.message⟩

theorem update_eq (p : PlainFields) (eval : TrustEvaluation) : p.update eval =
      let q := (eval.verificationResult.elim p p.sign).attest eval.attestedSpiffeID
      eval.binding.elim q q.bind := by
  rw [PlainFields.update]
  cases eval.verificationResult with
  | none =>
    cases eval.binding with
    | none => rfl
    | some b => rfl
  | some vr =>
    cases eval.binding with
    | none => rfl
    | some b => rfl

/-- **The fields after `updateAgentCardStatus`.** -/
theorem plain_applyStatus (eval : TrustEvaluation) (sr : Option BundleVerificationResult)
    (status : AgentCardStatus) :
    (r.applyStatus cardData protocol targetRef eval sr status).plain =
      status.plain.update eval := by
  have hevaluated : (r.evaluated cardData protocol targetRef eval sr status).plain =
      (eval.verificationResult.elim status.plain status.plain.sign).attest
        eval.attestedSpiffeID := by
    rw [Reconciler.evaluated, plain_applyVerdict]
    exact congrArg (PlainFields.attest · _)
      ((plain_applySigstore r sr _).trans (plain_applySignature r _ _))
  rw [update_eq, ← hevaluated]
  rw [applyStatus_eq]
  cases eval.binding with
  | none => rfl
  | some b => rfl

/-- What is said of the Sigstore bundle. -/
def Reconciler.sigstoreFieldsOf (r : Reconciler) (sr : Option BundleVerificationResult) :
    SigstoreFields :=
  (r.applySigstore sr {}).sigstoreFields

/-- **The Sigstore fields are written anew.** -/
theorem sigstoreFields_applySigstore :
    (r.applySigstore sr status).sigstoreFields = r.sigstoreFieldsOf sr := by
  have hcondition : ∀ s, (r.applySigstore sr s).condition "SigstoreVerified" =
      r.sigstoreStatus sr := fun s => (condition_applySigstore _ _ _ _).trans (if_pos rfl)
  rw [Reconciler.sigstoreFieldsOf, AgentCardStatus.sigstoreFields,
    AgentCardStatus.sigstoreFields, hcondition, hcondition]
  cases sr with
  | none => rfl
  | some sr =>
    unfold Reconciler.applySigstore
    cases r.enableSigstoreVerification with
    | false => rfl
    | true =>
      dsimp only
      split
      · rfl
      · split
        · rfl
        · rfl

theorem sigstoreFields_applyVerdict :
    (status.applyVerdict eval).sigstoreFields = status.sigstoreFields := by
  have hcondition : (status.applyVerdict eval).condition "SigstoreVerified" =
      status.condition "SigstoreVerified" :=
    (condition_applyVerdict _ _ _).trans (if_neg fun h => absurd h.2 (by decide))
  rw [AgentCardStatus.sigstoreFields, AgentCardStatus.sigstoreFields, hcondition,
    AgentCardStatus.applyVerdict]
  split
  · split
    · rfl
    · rfl
  · split
    · rfl
    · rfl

theorem sigstoreFields_setCondition {type : String} (htype : "SigstoreVerified" ≠ type)
    (status : AgentCardStatus) (c : Condition) :
    (status.setCondition type c).sigstoreFields = status.sigstoreFields := by
  rw [AgentCardStatus.sigstoreFields, condition_setCondition, if_neg htype]
  rfl

theorem sigstoreFields_applyStatus (eval : TrustEvaluation)
    (sr : Option BundleVerificationResult) (status : AgentCardStatus) :
    (r.applyStatus cardData protocol targetRef eval sr status).sigstoreFields =
      r.sigstoreFieldsOf sr := by
  have hevaluated : (r.evaluated cardData protocol targetRef eval sr status).sigstoreFields =
      r.sigstoreFieldsOf sr := by
    rw [Reconciler.evaluated, sigstoreFields_applyVerdict, sigstoreFields_setCondition (by decide),
      sigstoreFields_applySigstore]
  have hready : (r.evaluated cardData protocol targetRef eval sr status).withReady.sigstoreFields =
      r.sigstoreFieldsOf sr := (sigstoreFields_setCondition (by decide) _ _).trans hevaluated
  rw [applyStatus_eq, ← hready]
  cases eval.binding with
  | none => rfl
  | some b => exact sigstoreFields_setCondition (by decide) (AgentCardStatus.withReady _) _

/-! ### The fields after an update -/

section Update

variable (r : Reconciler) (cardData : AgentCardData) (protocol : String) (targetRef : TargetRef)
  (eval : TrustEvaluation) (sr : Option BundleVerificationResult) (status : AgentCardStatus)

theorem signatureFields_applyStatus :
    (r.applyStatus cardData protocol targetRef eval sr status).signatureFields =
      eval.verificationResult.elim status.signatureFields fun vr =>
        { validSignature := some vr.verified, signatureKeyID := vr.keyID,
          signatureSpiffeID := if vr.verified then vr.spiffeID else "",
          signatureVerified := some (r.signatureCondition vr).status } := by
  have hcondition : (r.applyStatus cardData protocol targetRef eval sr status).condition
      "SignatureVerified" = (eval.verificationResult.map fun vr =>
        (r.signatureCondition vr).status).orElse fun _ => status.condition "SignatureVerified" := by
    rw [condition_applyStatus, if_neg (by decide), if_neg (by decide), Reconciler.evaluated,
      condition_applyVerdict, if_neg fun h => absurd h.2 (by decide), condition_setCondition,
      if_neg (by decide), condition_applySigstore, if_neg (by decide), condition_applySignature,
      if_pos rfl]
    rfl
  have hplain := plain_applyStatus r cardData protocol targetRef eval sr status
  have hvalid := congrArg PlainFields.validSignature hplain
  have hkey := congrArg PlainFields.signatureKeyID hplain
  have hspiffe := congrArg PlainFields.signatureSpiffeID hplain
  rw [AgentCardStatus.signatureFields, hcondition]
  dsimp only [AgentCardStatus.plain] at hvalid hkey hspiffe
  rw [hvalid, hkey, hspiffe]
  cases hvr : eval.verificationResult with
  | none => simp only [PlainFields.update, hvr]; rfl
  | some vr => simp only [PlainFields.update, hvr]; rfl

theorem bindingFields_applyStatus :
    (r.applyStatus cardData protocol targetRef eval sr status).bindingFields =
      eval.binding.elim status.bindingFields fun b =>
        { bindingStatus := some ⟨b.bound, b.reason, b.message⟩,
          bound := some (if b.bound then .conditionTrue else .conditionFalse) } := by
  have hcondition := condition_applyStatus r cardData protocol targetRef eval sr status "Bound"
  have hplain := congrArg PlainFields.bindingStatus
    (plain_applyStatus r cardData protocol targetRef eval sr status)
  rw [AgentCardStatus.bindingFields, hcondition]
  dsimp only [AgentCardStatus.plain] at hplain
  rw [hplain]
  cases hb : eval.binding with
  | none => simp only [PlainFields.update, hb]; rfl
  | some b => simp only [PlainFields.update, hb]; rfl

theorem attested_applyStatus :
    (r.applyStatus cardData protocol targetRef eval sr status).attestedAgentSpiffeID =
      if eval.attestedSpiffeID ≠ "" then eval.attestedSpiffeID
      else status.attestedAgentSpiffeID :=
  congrArg PlainFields.attestedAgentSpiffeID
    (plain_applyStatus r cardData protocol targetRef eval sr status)

theorem expected_applyStatus :
    (r.applyStatus cardData protocol targetRef eval sr status).expectedSpiffeID =
      let spiffeID := eval.binding.elim "" BindingResult.spiffeID
      if spiffeID ≠ "" then spiffeID else status.expectedSpiffeID :=
  congrArg PlainFields.expectedSpiffeID
    (plain_applyStatus r cardData protocol targetRef eval sr status)

theorem condition_evaluated_synced :
    (r.evaluated cardData protocol targetRef eval sr status).condition "Synced" =
      some (r.syncedCondition cardData.name eval.verificationResult eval.isMTLSVerified
        sr).status := by
  rw [Reconciler.evaluated, condition_applyVerdict, if_neg fun h => absurd h.2 (by decide),
    condition_setCondition, if_pos rfl]

theorem condition_evaluated_verified :
    (r.evaluated cardData protocol targetRef eval sr status).condition conditionVerified =
      if eval.verifiedReason ≠ "" then some eval.verifiedStatus
      else status.condition conditionVerified := by
  rw [Reconciler.evaluated, condition_applyVerdict, condition_setCondition,
    condition_applySigstore, condition_applySignature]
  simp only [and_true]
  rfl

end Update

/-! ### The evaluation -/

section Evaluation

variable (r : Reconciler) (card : AgentCard) (fetchResult : FetchResult)
  (answer : Option VerificationResult)

theorem evidence_concludeSignature (eval : TrustEvaluation) (vr : VerificationResult) :
    (eval.concludeSignature card vr).verificationResult = eval.verificationResult ∧
      (eval.concludeSignature card vr).binding = eval.binding ∧
      (eval.concludeSignature card vr).attestedSpiffeID = eval.attestedSpiffeID := by
  rw [TrustEvaluation.concludeSignature]
  split
  · exact ⟨rfl, rfl, rfl⟩
  · split
    · exact ⟨rfl, rfl, rfl⟩
    · exact ⟨rfl, rfl, rfl⟩

/-- **The evidence in an evaluation**, and the peer that was authenticated. -/
theorem evidence_evaluateTrust : (r.evaluateTrust card fetchResult answer).verificationResult =
        (r.gatherEvidence card fetchResult answer).verificationResult ∧
      (r.evaluateTrust card fetchResult answer).binding =
        (r.gatherEvidence card fetchResult answer).binding ∧
      (r.evaluateTrust card fetchResult answer).attestedSpiffeID = fetchResult.agentSpiffeID := by
  rw [Reconciler.evaluateTrust]
  by_cases hm : fetchResult.agentSpiffeID = ""
  · have hplain := isMTLSVerified_of_plain hm r card answer
    have hattested : (r.gatherEvidence card fetchResult answer).attestedSpiffeID = "" := rfl
    rw [if_neg (by rw [hplain]; exact Bool.false_ne_true), hm, ← hattested]
    split
    · exact evidence_concludeSignature card _ _
    · split
      · exact ⟨rfl, rfl, rfl⟩
      · exact ⟨rfl, rfl, rfl⟩
  · have hmtls : (r.gatherEvidence card fetchResult answer).isMTLSVerified = true :=
      decide_eq_true hm
    rw [if_pos hmtls]
    exact ⟨rfl, rfl, rfl⟩

theorem verifiedFetch_of_no_reason
    (h : (r.evaluateTrust card fetchResult answer).verifiedReason = "") :
    r.verifiedFetch = false := by
  cases hmech : r.mechanism with
  | true => exact absurd h (evaluateTrust_of_mechanism hmech card fetchResult answer).1.reason
  | false => exact (Bool.or_eq_false_iff.mp hmech).2

/-- **An identity was evaluated**: the card asks for a binding, some trust domain is
configured, and the peer was authenticated or a signature with an identity verified. -/
def Reconciler.Identified : Prop :=
  (∃ binding ∈ card.identityBinding, binding.trustDomain ≠ "" ∨ r.spireTrustDomain ≠ "") ∧
    (fetchResult.agentSpiffeID ≠ "" ∨ r.requireSignature = true ∧
      r.hasSignatureProvider = true ∧ ∃ vr ∈ answer, vr.verified = true ∧ vr.spiffeID ≠ "")

theorem spiffeID_computeBinding (spiffeID : String) :
    ((r.computeBinding card spiffeID).elim "" BindingResult.spiffeID ≠ "") ↔
      (∃ binding ∈ card.identityBinding, binding.trustDomain ≠ "" ∨ r.spireTrustDomain ≠ "") ∧
        spiffeID ≠ "" := by
  rw [Reconciler.computeBinding]
  cases card.identityBinding with
  | none => simp
  | some binding =>
    by_cases hid : spiffeID = ""
    · simp [hid]
    · dsimp only
      rw [if_neg hid]
      by_cases hdomain : binding.trustDomain = ""
      · by_cases hspire : r.spireTrustDomain = ""
        · simp [hdomain, hspire]
        · simp [hdomain, hspire, hid]
      · simp [hdomain, hid]

theorem spiffeID_verifySignature :
    ((r.verifySignature answer).verified = true ∧ (r.verifySignature answer).spiffeID ≠ "") ↔
      r.hasSignatureProvider = true ∧ ∃ vr ∈ answer, vr.verified = true ∧ vr.spiffeID ≠ "" := by
  rw [Reconciler.verifySignature]
  cases r.hasSignatureProvider with
  | false => simp [failed]
  | true =>
    cases answer with
    | none => simp [failed]
    | some vr => simp

theorem spiffeID_evaluateTrust :
    ((r.evaluateTrust card fetchResult answer).binding.elim "" BindingResult.spiffeID ≠ "") ↔
      r.Identified card fetchResult answer := by
  rw [(evidence_evaluateTrust r card fetchResult answer).2.1, Reconciler.Identified,
    ← spiffeID_verifySignature]
  refine (spiffeID_computeBinding r card _).trans (and_congr_right fun _ => ?_)
  by_cases hm : fetchResult.agentSpiffeID = ""
  · cases hsig : r.requireSignature with
    | false => simp [hm]
    | true =>
      cases hver : (r.verifySignature answer).verified with
      | false => simp [hm, hver]
      | true => simp [hm, hver]
  · simp [hm]

theorem computeBinding_eq_none (spiffeID : String) :
    r.computeBinding card spiffeID = none ↔ card.identityBinding = none := by
  rw [Reconciler.computeBinding]
  cases card.identityBinding with
  | none => exact ⟨fun _ => rfl, fun _ => rfl⟩
  | some binding =>
    refine iff_of_false ?_ (fun h => by cases h)
    dsimp only
    generalize (if binding.trustDomain = "" then r.spireTrustDomain else binding.trustDomain) =
      trustDomain
    split
    · exact Option.some_ne_none _
    · split
      · exact Option.some_ne_none _
      · exact Option.some_ne_none _

theorem binding_evaluateTrust :
    (r.evaluateTrust card fetchResult answer).binding = none ↔ card.identityBinding = none := by
  rw [(evidence_evaluateTrust r card fetchResult answer).2.1]
  exact computeBinding_eq_none r card _

end Evaluation

/-! ### Two runs -/

theorem attested_cleanup (status : AgentCardStatus) :
    status.cleanupVerifiedFetchFields.attestedAgentSpiffeID = "" := by
  rw [AgentCardStatus.cleanupVerifiedFetchFields]
  split
  · rfl
  · rename_i h
    simp only [Bool.or_eq_true, not_or, decide_eq_true_eq, ne_eq, not_not] at h
    exact h.2

theorem clearedStatus_eq {r : Reconciler} {inp : Input} (h : inp.cleanupFields = none)
    (status : AgentCardStatus) :
    r.clearedStatus status inp =
      if r.verifiedFetch then status else status.cleanupVerifiedFetchFields := by
  rw [Reconciler.clearedStatus, h]
  rfl

theorem cleared_fields {r : Reconciler} {inp : Input} (h : inp.cleanupFields = none)
    (status : AgentCardStatus) :
    (r.clearedStatus status inp).signatureFields = status.signatureFields ∧
      (r.clearedStatus status inp).bindingFields = status.bindingFields ∧
      (r.clearedStatus status inp).expectedSpiffeID = status.expectedSpiffeID := by
  rw [clearedStatus_eq h]
  split
  · exact ⟨rfl, rfl, rfl⟩
  · have hsig := condition_cleanup status "SignatureVerified"
    have hbound := condition_cleanup status "Bound"
    rw [AgentCardStatus.signatureFields, AgentCardStatus.bindingFields, hsig, hbound,
      AgentCardStatus.cleanupVerifiedFetchFields]
    split
    · exact ⟨rfl, rfl, rfl⟩
    · exact ⟨rfl, rfl, rfl⟩

/-- **What makes an outcome free of the history.** Each group of fields is written by the
update, or was the same before. -/
structure HistoryFree (r : Reconciler) (card : AgentCard) (fetchResult : FetchResult)
    (answer : Option VerificationResult) (s₁ s₂ : AgentCardStatus) : Prop where
  signature : r.requireSignature = true ∨ s₁.signatureFields = s₂.signatureFields
  attested : r.verifiedFetch = false ∨ fetchResult.agentSpiffeID ≠ "" ∨
    s₁.attestedAgentSpiffeID = s₂.attestedAgentSpiffeID
  binding : card.identityBinding ≠ none ∨ s₁.bindingFields = s₂.bindingFields
  expected : r.Identified card fetchResult answer ∨ s₁.expectedSpiffeID = s₂.expectedSpiffeID

/-- The trust fields that a Reconcile leaves on a card that has the given status. -/
def Reconciler.trustAfter (r : Reconciler) (st : State) (key : NamespacedName)
    (card : AgentCard) (inp : Input) (status : AgentCardStatus) : Option TrustFields :=
  ((r.reconcile (st.putCard key (some { card with status := status })) key inp).1.cards.lookup
    key).map fun c => c.status.trust

section TwoRuns

variable {r : Reconciler} {st : State} {key : NamespacedName} {card : AgentCard} {inp : Input}
  {ref : TargetRef} {protocol serviceURL : String} {fetchResult : FetchResult}

theorem trustAfter_eq (hlive : inp.Live card)
    (hobs : r.observe st.workloads key.ns card inp = .fetched ref protocol serviceURL fetchResult)
    (hupdate : inp.updateStatus = none) (status : AgentCardStatus) :
    r.trustAfter st key card inp status =
      some (r.applyStatus { fetchResult.cardData with url := serviceURL } protocol ref
        (r.evaluateTrust card fetchResult inp.answer) (r.sigstoreResult fetchResult inp.sigstore)
        (r.clearedStatus status inp)).trust := by
  have hcard : (st.putCard key (some { card with status := status })).cards.lookup key =
      some { card with status := status } := (lookup_put _ _ _ _).trans (if_pos rfl)
  have hlive' : inp.Live { card with status := status } :=
    ⟨hlive.getCard, hlive.live, hlive.finalizer⟩
  have hobs' : r.observe (st.putCard key (some { card with status := status })).workloads key.ns
      { card with status := status } inp = .fetched ref protocol serviceURL fetchResult := hobs
  rw [Reconciler.trustAfter, reconcile_of_live hcard hlive', sync_eq, hobs', Reconciler.report,
    hupdate]
  rw [lookup_put, if_pos rfl]
  rfl

/-- The verdict, `Synced` and `Ready` do not depend on the status before. -/
theorem readyCondition_congr {s s' : AgentCardStatus}
    (hsynced : s.condition "Synced" = s'.condition "Synced")
    (hverified : s.condition conditionVerified = s'.condition conditionVerified) :
    s.readyCondition.status = s'.readyCondition.status := by
  have hiff : s.readyCondition.status = .conditionTrue ↔
      s'.readyCondition.status = .conditionTrue := by
    rw [readyCondition_eq_true, readyCondition_eq_true, hsynced, hverified]
  have hfalse : ∀ s : AgentCardStatus, s.readyCondition.status ≠ .conditionTrue →
      s.readyCondition.status = .conditionFalse := by
    intro s h
    rw [AgentCardStatus.readyCondition] at h ⊢
    split
    · rename_i hs
      rw [if_pos hs] at h
      split
      · rename_i hv
        rw [if_pos hv] at h
        exact absurd rfl h
      · rfl
    · rfl
  by_cases h : s.readyCondition.status = .conditionTrue
  · rw [h, hiff.mp h]
  · rw [hfalse s h, hfalse s' (fun h' => h (hiff.mpr h'))]

section Groups

variable {cardData : AgentCardData} {eval : TrustEvaluation}
  {sr : Option BundleVerificationResult} {s₁ s₂ : AgentCardStatus}

theorem elim_eq_elim_iff {α β : Type} {o : Option α} {f : α → β} {a b : β} :
    o.elim a f = o.elim b f ↔ o ≠ none ∨ a = b := by
  cases o with
  | none => simp
  | some x => simp

theorem ite_ne_empty_iff {s a b : String} :
    ((if s ≠ "" then s else a) = if s ≠ "" then s else b) ↔ s ≠ "" ∨ a = b := by
  by_cases h : s = ""
  · simp [h]
  · simp [h]

/-- **What is written anew each time**: the identity match, the Sigstore fields and, where
the verdict is shown or the condition has been removed, the three conditions. -/
structure SameVerdict (s₁ s₂ : AgentCardStatus) : Prop where
  identityMatch : s₁.signatureIdentityMatch = s₂.signatureIdentityMatch
  sigstore : s₁.sigstoreFields = s₂.sigstoreFields
  verified : s₁.condition conditionVerified = s₂.condition conditionVerified
  synced : s₁.condition "Synced" = s₂.condition "Synced"
  ready : s₁.condition "Ready" = s₂.condition "Ready"

theorem sameVerdict_applyStatus (h : eval.verifiedReason = "" →
      s₁.condition conditionVerified = s₂.condition conditionVerified) :
    SameVerdict (r.applyStatus cardData protocol ref eval sr s₁)
      (r.applyStatus cardData protocol ref eval sr s₂) := by
  have hsynced : (r.evaluated cardData protocol ref eval sr s₁).condition "Synced" =
      (r.evaluated cardData protocol ref eval sr s₂).condition "Synced" := by
    rw [condition_evaluated_synced, condition_evaluated_synced]
  have hverified : (r.evaluated cardData protocol ref eval sr s₁).condition conditionVerified =
      (r.evaluated cardData protocol ref eval sr s₂).condition conditionVerified := by
    rw [condition_evaluated_verified, condition_evaluated_verified]
    split
    · rfl
    · rename_i hreason
      exact h (not_not.mp hreason)
  have hother : ∀ s type, type ≠ "Bound" → type ≠ "Ready" →
      (r.applyStatus cardData protocol ref eval sr s).condition type =
        (r.evaluated cardData protocol ref eval sr s).condition type := by
    intro s type hbound hready
    rw [condition_applyStatus, if_neg hbound, if_neg hready]
  refine ⟨rfl, ?_, ?_, ?_, ?_⟩
  · rw [sigstoreFields_applyStatus, sigstoreFields_applyStatus]
  · rw [hother _ _ (by decide) (by decide), hother _ _ (by decide) (by decide), hverified]
  · rw [hother _ _ (by decide) (by decide), hother _ _ (by decide) (by decide), hsynced]
  · rw [condition_applyStatus, if_neg (by decide), if_pos rfl, condition_applyStatus,
      if_neg (by decide), if_pos rfl, readyCondition_congr hsynced hverified]

theorem trust_eq_iff_of_sameVerdict (h : SameVerdict s₁ s₂) :
    s₁.trust = s₂.trust ↔ s₁.signatureFields = s₂.signatureFields ∧
      s₁.attestedAgentSpiffeID = s₂.attestedAgentSpiffeID ∧
      s₁.bindingFields = s₂.bindingFields ∧ s₁.expectedSpiffeID = s₂.expectedSpiffeID := by
  simp only [AgentCardStatus.trust, TrustFields.mk.injEq, h.identityMatch, h.sigstore, h.verified,
    h.synced, h.ready, true_and, and_true]
  tauto

end Groups

/-- **History independence.** Two Reconciles that see the same and can write what they
find leave the same trust fields if, and only if, the outcome is free of the history. -/
theorem trustAfter_eq_iff (r : Reconciler) (st : State) (key : NamespacedName)
    (card : AgentCard) (inp : Input) (ref : TargetRef) (protocol serviceURL : String)
    (fetchResult : FetchResult) (hlive : inp.Live card)
    (hobs : r.observe st.workloads key.ns card inp = .fetched ref protocol serviceURL fetchResult)
    (hcleanup : inp.cleanupFields = none) (hupdate : inp.updateStatus = none)
    (s₁ s₂ : AgentCardStatus) :
    r.trustAfter st key card inp s₁ = r.trustAfter st key card inp s₂ ↔
      HistoryFree r card fetchResult inp.answer s₁ s₂ := by
  rw [trustAfter_eq hlive hobs hupdate, trustAfter_eq hlive hobs hupdate, Option.some.injEq]
  obtain ⟨hvr, -, hattested⟩ := evidence_evaluateTrust r card fetchResult inp.answer
  have hidentified := spiffeID_evaluateTrust r card fetchResult inp.answer
  have hbinding := binding_evaluateTrust r card fetchResult inp.answer
  have hreason := verifiedFetch_of_no_reason r card fetchResult inp.answer
  rw [verificationResult_gatherEvidence] at hvr
  generalize r.evaluateTrust card fetchResult inp.answer = eval at *
  obtain ⟨hsig₁, hbind₁, hexp₁⟩ := cleared_fields (r := r) hcleanup s₁
  obtain ⟨hsig₂, hbind₂, hexp₂⟩ := cleared_fields (r := r) hcleanup s₂
  have hcleared : eval.verifiedReason = "" → (r.clearedStatus s₁ inp).condition conditionVerified =
        (r.clearedStatus s₂ inp).condition conditionVerified := by
    intro h
    rw [clearedStatus_eq hcleanup, clearedStatus_eq hcleanup, hreason h,
      if_neg Bool.false_ne_true, if_neg Bool.false_ne_true, condition_cleanup, condition_cleanup,
      if_pos rfl, if_pos rfl]
  have hpeer : (fetchResult.agentSpiffeID ≠ "" ∨ (r.clearedStatus s₁ inp).attestedAgentSpiffeID =
      (r.clearedStatus s₂ inp).attestedAgentSpiffeID) ↔
      (r.verifiedFetch = false ∨ fetchResult.agentSpiffeID ≠ "" ∨
        s₁.attestedAgentSpiffeID = s₂.attestedAgentSpiffeID) := by
    rw [clearedStatus_eq hcleanup, clearedStatus_eq hcleanup]
    cases r.verifiedFetch with
    | true => simp
    | false =>
      rw [if_neg Bool.false_ne_true, if_neg Bool.false_ne_true, attested_cleanup, attested_cleanup]
      simp
  have hrequired : eval.verificationResult ≠ none ↔ r.requireSignature = true := by
    rw [hvr]
    cases r.requireSignature with
    | true => simp
    | false => simp
  rw [trust_eq_iff_of_sameVerdict (sameVerdict_applyStatus hcleared),
    signatureFields_applyStatus, signatureFields_applyStatus, elim_eq_elim_iff, hrequired, hsig₁,
    hsig₂, attested_applyStatus, attested_applyStatus, hattested, ite_ne_empty_iff, hpeer,
    bindingFields_applyStatus, bindingFields_applyStatus, elim_eq_elim_iff, hbind₁, hbind₂,
    expected_applyStatus, expected_applyStatus, ite_ne_empty_iff, hidentified, hexp₁, hexp₂,
    show eval.binding ≠ none ↔ card.identityBinding ≠ none from not_congr hbinding]
  constructor
  · rintro ⟨hsig, hatt, hbind, hexp⟩
    exact ⟨hsig, hatt, hbind, hexp⟩
  · rintro ⟨hsig, hatt, hbind, hexp⟩
    exact ⟨hsig, hatt, hbind, hexp⟩

end TwoRuns

/-! ### Two statuses -/

/-- A cluster with the agent's Deployment. -/
def agentCluster : State where
  workloads := (∅ : Workloads).insert agentKey agentWorkload

/-- A card for it. -/
def plainCard : AgentCard where
  finalizers := [agentCardFinalizer]
  targetRef := some ⟨"apps/v1", "Deployment", "agent"⟩

/-- The status after an authenticated fetch from the agent. -/
def attestedStatus : AgentCardStatus where
  attestedAgentSpiffeID := "spiffe://example.org/agent"

/-- The service has no port for authenticated fetches any more. -/
def fallingBack : Input where
  getService := .ok ⟨[("http", 8000)]⟩
  fetchAuthenticated := .error "connection refused"
  fetch := .ok { cardData := {} }

/-- Where the peer is authenticated, the earlier identity is replaced. -/
theorem trustAfter_attested : mtlsReconciler.trustAfter agentCluster cardKey plainCard
        (fetching (.ok { cardData := {}, agentSpiffeID := "spiffe://example.org/new" })) {} =
      mtlsReconciler.trustAfter agentCluster cardKey plainCard
        (fetching (.ok { cardData := {}, agentSpiffeID := "spiffe://example.org/new" }))
        attestedStatus :=
  (trustAfter_eq_iff mtlsReconciler agentCluster cardKey plainCard
    (fetching (.ok { cardData := {}, agentSpiffeID := "spiffe://example.org/new" }))
    ⟨"apps/v1", "Deployment", "agent"⟩ "a2a" "http://agent.team.svc.cluster.local:8443"
    { cardData := {}, agentSpiffeID := "spiffe://example.org/new" }
    ⟨rfl, rfl, List.mem_singleton_self _⟩ rfl rfl rfl {} attestedStatus).mpr
    { signature := .inr rfl
      attested := .inr (.inl (by decide))
      binding := .inr rfl
      expected := .inr rfl }

/-- **An identity that nobody has shown**: after the fall-back to a plain fetch the status
still has the identity of the earlier peer, although nothing verified this agent. -/
theorem attested_survives :
    mtlsReconciler.observe agentCluster.workloads cardKey.ns plainCard fallingBack =
        .fetched ⟨"apps/v1", "Deployment", "agent"⟩ "a2a"
          "http://agent.team.svc.cluster.local:8000" { cardData := {} } ∧
      (∃ trust, mtlsReconciler.trustAfter agentCluster cardKey plainCard fallingBack
          attestedStatus = some trust ∧ trust.verified = some .conditionFalse ∧
        trust.attestedAgentSpiffeID = "spiffe://example.org/agent") ∧
      mtlsReconciler.trustAfter agentCluster cardKey plainCard fallingBack {} ≠
        mtlsReconciler.trustAfter agentCluster cardKey plainCard fallingBack attestedStatus := by
  refine ⟨rfl, ⟨_, rfl, rfl, rfl⟩, fun h => ?_⟩
  have hattested := congrArg (Option.map TrustFields.attestedAgentSpiffeID) h
  exact absurd hattested (by decide +kernel)

end Rossoctl.Cards
