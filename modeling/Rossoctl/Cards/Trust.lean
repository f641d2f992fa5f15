import Rossoctl.Cards.Objects

/-!
# The trust decision

The model of `evaluateTrust`, `computeBinding` and `updateAgentCardStatus`
(`internal/controller/agentcard_controller.go`): from what was fetched and from what
the signature provider says to a verdict, and from the verdict to the status of
the card.

The verdict is the field `isVerified` of a `Rossoctl.Cards.TrustEvaluation`; where a
trust mechanism is switched on (`Rossoctl.Cards.Reconciler.mechanism`) the status
shows it as the condition `Verified` (`Rossoctl.Cards.verified_applyStatus`).
-/

namespace Rossoctl.Cards

open Kube Signature

/-- The settings of the reconciler; `hasX` says that the pointer `X` is not nil. -/
structure Reconciler where
  hasAuthenticatedFetcher : Bool := false
  enableVerifiedFetch : Bool := false
  hasSignatureProvider : Bool := false
  requireSignature : Bool := false
  signatureAuditMode : Bool := false
  hasBundleVerifier : Bool := false
  enableSigstoreVerification : Bool := false
  sigstoreAuditMode : Bool := false
  spireTrustDomain : String := ""

/-- Authenticated fetches are switched on. -/
def Reconciler.verifiedFetch (r : Reconciler) : Bool :=
  r.enableVerifiedFetch && r.hasAuthenticatedFetcher

/-- Some trust mechanism is switched on. -/
def Reconciler.mechanism (r : Reconciler) : Bool := r.requireSignature || r.verifiedFetch

/-- What a plain fetch yields. -/
structure Payload where
  cardData : AgentCardData
  rawSignedAgentCardJSON : Bytes := []

/-- What a fetch yields; only an authenticated one has a SPIFFE ID of the peer. -/
structure FetchResult extends Payload where
  agentSpiffeID : String := ""

/-- The outcome of the verification of a Sigstore bundle. -/
structure BundleVerificationResult where
  verified : Bool
  absent : Bool := false
  details : String := ""
  identity : String := ""
  rekorLogIndex : String := ""
  slsaRepository : String := ""
  slsaCommitSHA : String := ""
  deriving DecidableEq

/-! ### Binding -/

/-- The outcome of `computeBinding`. -/
structure BindingResult where
  bound : Bool
  reason : String
  message : String
  spiffeID : String := ""
  deriving DecidableEq

def reasonBound : String := "Bound"

def reasonNotBound : String := "NotBound"

/-- `computeBinding`: the trust domain of the verified identity is that of the card, or else the
one of the operator. -/
def Reconciler.computeBinding (r : Reconciler) (card : AgentCard) (verifiedSpiffeID : String) :
    Option BindingResult :=
  match card.identityBinding with
  | none => none
  | some binding =>
    if verifiedSpiffeID = "" then
      some { bound := false, reason := reasonNotBound,
             message := "No verified SPIFFE ID available: ensure the card is signed with a " ++
              "SPIRE-issued SVID or served over mTLS" }
    else
      let trustDomain :=
        if binding.trustDomain = "" then r.spireTrustDomain else binding.trustDomain
      if trustDomain = "" then
        some { bound := false, reason := reasonNotBound,
               message := "No trust domain configured (set --spire-trust-domain or " ++
                "spec.identityBinding.trustDomain)" }
      else
        let start := "spiffe://" ++ trustDomain ++ "/"
        let bound := hasPrefix verifiedSpiffeID start &&
          verifiedSpiffeID.utf8ByteSize > start.utf8ByteSize
        some { bound := bound,
               reason := if bound then reasonBound else reasonNotBound,
               message :=
                if bound then
                  "SPIFFE ID " ++ verifiedSpiffeID ++ " belongs to trust domain " ++ trustDomain
                else
                  "SPIFFE ID " ++ verifiedSpiffeID ++ " does not belong to trust domain " ++
                    trustDomain,
               spiffeID := verifiedSpiffeID }

/-! ### The verdict -/

/-- `trustEvaluation`. An empty `verifiedReason` says that no mechanism is on, and
then there is no status either. -/
structure TrustEvaluation where
  verificationResult : Option VerificationResult := none
  binding : Option BindingResult := none
  identityMatch : Option Bool := none
  isMTLSVerified : Bool := false
  isVerified : Bool := false
  verifiedStatus : ConditionStatus := .conditionUnknown
  verifiedReason : String := ""
  verifiedMessage : String := ""
  attestedSpiffeID : String := ""

/-- Fill in a verdict. -/
def TrustEvaluation.conclude (eval : TrustEvaluation) (isVerified : Bool)
    (reason message : String) :
    TrustEvaluation :=
  { eval with
    isVerified := isVerified,
    verifiedStatus := if isVerified then .conditionTrue else .conditionFalse,
    verifiedReason := reason,
    verifiedMessage := message }

/-- `verifySignature`, from the answer of the provider, if there is one. -/
def Reconciler.verifySignature (r : Reconciler) (answer : Option VerificationResult) :
    VerificationResult :=
  if !r.hasSignatureProvider then failed "no signature provider configured"
  else answer.getD (failed "Verification returned null result")

def reasonSignatureInvalid : String := "SignatureInvalid"

/-- The verdict of the signature: a valid one, together with the binding if that is
strict. -/
def signatureVerdict (card : AgentCard) (bindingPassed sigVerified : Bool) : Bool :=
  match card.identityBinding with
  | some binding => sigVerified && (bindingPassed || !binding.strict)
  | none => sigVerified

/-- The verdict where a signature is required and the peer is not authenticated. -/
def TrustEvaluation.concludeSignature (eval : TrustEvaluation) (card : AgentCard)
    (vr : VerificationResult) : TrustEvaluation :=
  if signatureVerdict card (eval.binding.any BindingResult.bound) vr.verified then
    eval.conclude true "SignatureVerified" ("JWS signature valid (keyID=" ++ vr.keyID ++ ")")
  else if !vr.verified then eval.conclude false reasonSignatureInvalid vr.details
  else eval.conclude false "NotVerified" "No trust mechanism verified this agent"

/-- The first part of `evaluateTrust`: the signature, the peer and the binding. -/
def Reconciler.gatherEvidence (r : Reconciler) (card : AgentCard) (fetchResult : FetchResult)
    (answer : Option VerificationResult) : TrustEvaluation :=
  let verificationResult :=
    if r.requireSignature then some (r.verifySignature answer) else none
  let sigVerified := verificationResult.any VerificationResult.verified
  let isMTLSVerified : Bool := fetchResult.agentSpiffeID ≠ ""
  let verifiedSpiffeID :=
    if isMTLSVerified then fetchResult.agentSpiffeID
    else if sigVerified then verificationResult.elim "" VerificationResult.spiffeID
    else ""
  let binding := r.computeBinding card verifiedSpiffeID
  { verificationResult := verificationResult,
    binding := binding,
    identityMatch := card.identityBinding.map fun _ =>
      (sigVerified || isMTLSVerified) && binding.any BindingResult.bound,
    isMTLSVerified := isMTLSVerified }

/-- **`evaluateTrust`.** An authenticated peer is verified whatever its signature;
else the signature decides, if one is required. -/
def Reconciler.evaluateTrust (r : Reconciler) (card : AgentCard) (fetchResult : FetchResult)
    (answer : Option VerificationResult) : TrustEvaluation :=
  let eval := r.gatherEvidence card fetchResult answer
  if eval.isMTLSVerified then
    { eval with attestedSpiffeID := fetchResult.agentSpiffeID }.conclude true "mTLSVerified"
      ("Agent SPIFFE ID: " ++ fetchResult.agentSpiffeID)
  else match eval.verificationResult with
    | some vr => eval.concludeSignature card vr
    | none =>
      if r.verifiedFetch then
        eval.conclude false "NotVerified" "No trust mechanism verified this agent"
      else eval

/-- **The status shows the verdict.** -/
structure TrustEvaluation.Shows (eval : TrustEvaluation) : Prop where
  reason : eval.verifiedReason ≠ ""
  status : eval.verifiedStatus = if eval.isVerified then .conditionTrue else .conditionFalse

theorem shows_conclude (eval : TrustEvaluation) (isVerified : Bool) (reason message : String)
    (h : reason ≠ "") : (eval.conclude isVerified reason message).Shows :=
  ⟨h, rfl⟩

theorem concludeSignature_cases (eval : TrustEvaluation) (card : AgentCard)
    (vr : VerificationResult) :
    (eval.concludeSignature card vr).Shows ∧
      (eval.concludeSignature card vr).isMTLSVerified = eval.isMTLSVerified := by
  rw [TrustEvaluation.concludeSignature]
  split
  · exact ⟨shows_conclude _ _ _ _ (by decide), rfl⟩
  · split
    · exact ⟨shows_conclude _ _ _ _ (by decide), rfl⟩
    · exact ⟨shows_conclude _ _ _ _ (by decide), rfl⟩

/-- The verdict that Reconcile passes on to the workload, if any. -/
def TrustEvaluation.propagated (eval : TrustEvaluation) (r : Reconciler) : Option Bool :=
  if eval.isMTLSVerified then some true
  else if r.requireSignature then some eval.isVerified
  else if r.verifiedFetch then some false
  else none

theorem verificationResult_gatherEvidence (r : Reconciler) (card : AgentCard)
    (fetchResult : FetchResult) (answer : Option VerificationResult) :
    (r.gatherEvidence card fetchResult answer).verificationResult =
      if r.requireSignature then some (r.verifySignature answer) else none :=
  rfl

variable {r : Reconciler} {fetchResult : FetchResult}

/-- **With a mechanism switched on**, the status shows the verdict, and it is the
verdict that is passed on. -/
theorem evaluateTrust_of_mechanism (hr : r.mechanism = true) (card : AgentCard)
    (fetchResult : FetchResult) (answer : Option VerificationResult) :
    (r.evaluateTrust card fetchResult answer).Shows ∧
      (r.evaluateTrust card fetchResult answer).propagated r =
        some (r.evaluateTrust card fetchResult answer).isVerified := by
  have hvr := verificationResult_gatherEvidence r card fetchResult answer
  rw [Reconciler.evaluateTrust]
  generalize r.gatherEvidence card fetchResult answer = eval at hvr
  split
  · rename_i hm
    refine ⟨shows_conclude _ _ _ _ (by decide), ?_⟩
    exact if_pos hm
  · rename_i hm
    rw [hvr]
    by_cases hsig : r.requireSignature = true
    · rw [if_pos hsig]
      obtain ⟨hshows, hmtls⟩ := concludeSignature_cases eval card (r.verifySignature answer)
      refine ⟨hshows, ?_⟩
      rw [TrustEvaluation.propagated, hmtls, if_neg hm, if_pos hsig]
    · have hfetch : r.verifiedFetch = true := by
        rw [Reconciler.mechanism, Bool.or_eq_true] at hr
        exact hr.resolve_left hsig
      rw [if_neg hsig]
      rw [if_pos hfetch]
      refine ⟨shows_conclude _ _ _ _ (by decide), ?_⟩
      rw [TrustEvaluation.propagated, if_neg hsig, if_pos hfetch]
      exact if_neg hm

theorem isMTLSVerified_of_plain (hf : fetchResult.agentSpiffeID = "") (r : Reconciler)
    (card : AgentCard) (answer : Option VerificationResult) :
    (r.gatherEvidence card fetchResult answer).isMTLSVerified = false := by
  simp only [Reconciler.gatherEvidence, hf, ne_eq, not_true_eq_false, decide_false]

/-- Without a mechanism and without an authenticated peer there is no verdict. -/
theorem evaluateTrust_of_no_mechanism (hr : r.mechanism = false)
    (hf : fetchResult.agentSpiffeID = "") (card : AgentCard) (answer : Option VerificationResult) :
    r.evaluateTrust card fetchResult answer = r.gatherEvidence card fetchResult answer := by
  obtain ⟨hsig, hfetch⟩ := Bool.or_eq_false_iff.mp hr
  simp only [Reconciler.evaluateTrust, isMTLSVerified_of_plain hf,
    verificationResult_gatherEvidence, hsig, hfetch, Bool.false_eq_true, if_false]

theorem propagated_of_no_mechanism (hr : r.mechanism = false)
    (hf : fetchResult.agentSpiffeID = "") (card : AgentCard) (answer : Option VerificationResult) :
    (r.evaluateTrust card fetchResult answer).propagated r = none := by
  obtain ⟨hsig, hfetch⟩ := Bool.or_eq_false_iff.mp hr
  rw [evaluateTrust_of_no_mechanism hr hf, TrustEvaluation.propagated,
    isMTLSVerified_of_plain hf, hsig, hfetch]
  rfl

/-! ### The status -/

def reasonSignatureValid : String := "SignatureValid"

def reasonSignatureInvalidAudit : String := "SignatureInvalidAudit"

def reasonSigstoreVerified : String := "SigstoreVerified"

def reasonSigstoreInvalid : String := "SigstoreVerificationFailed"

def reasonSigstoreInvalidAudit : String := "SigstoreVerificationFailedAudit"

def reasonSigstoreBundleMissing : String := "SigstoreBundleNotFound"

/-- The Sigstore part of `Reconcile`, from the answer of the bundle verifier. -/
def Reconciler.sigstoreResult (r : Reconciler) (fetchResult : FetchResult)
    (answer : Except String (Option BundleVerificationResult)) : Option BundleVerificationResult :=
  if r.enableSigstoreVerification && r.hasBundleVerifier then
    if !fetchResult.rawSignedAgentCardJSON.isEmpty then
      match answer with
      | .error e => some { verified := false, details := "infrastructure error: " ++ e }
      | .ok result => result
    else
      some { verified := false, absent := true,
             details := "only plain agent card available (no SignedAgentCard attestations); " ++
              "supply-chain bundle not present" }
  else none

/-- The condition `SignatureVerified`. -/
def Reconciler.signatureCondition (r : Reconciler) (vr : VerificationResult) : Condition :=
  if vr.verified then ⟨.conditionTrue, reasonSignatureValid, vr.details⟩
  else if r.signatureAuditMode then
    ⟨.conditionFalse, reasonSignatureInvalidAudit, vr.details ++ " (audit mode: allowed)"⟩
  else ⟨.conditionFalse, reasonSignatureInvalid, vr.details⟩

/-- The fields of the signature. -/
def Reconciler.applySignature (r : Reconciler) (verificationResult : Option VerificationResult)
    (status : AgentCardStatus) : AgentCardStatus :=
  match verificationResult with
  | none => status
  | some vr =>
    { status with
      validSignature := some vr.verified,
      signatureVerificationDetails := vr.details,
      signatureKeyID := vr.keyID,
      signatureSpiffeID := if vr.verified then vr.spiffeID else "" }.setCondition
        "SignatureVerified" (r.signatureCondition vr)

/-- The condition `SigstoreVerified`, for a bundle that is there. -/
def Reconciler.sigstoreCondition (r : Reconciler) (sr : BundleVerificationResult) : Condition :=
  if sr.verified then ⟨.conditionTrue, reasonSigstoreVerified, sr.details⟩
  else if r.sigstoreAuditMode then
    ⟨.conditionFalse, reasonSigstoreInvalidAudit, sr.details ++ " (audit mode: allowed)"⟩
  else ⟨.conditionFalse, reasonSigstoreInvalid, sr.details⟩

/-- The fields that a verified bundle fills, cleared. -/
def AgentCardStatus.clearSigstore (status : AgentCardStatus) (bundleVerified : Option Bool) :
    AgentCardStatus :=
  { status with
    sigstoreBundleVerified := bundleVerified, sigstoreIdentity := "", rekorLogIndex := "",
    slsaRepository := "", slsaCommitSHA := "" }

/-- The fields of the Sigstore bundle. -/
def Reconciler.applySigstore (r : Reconciler) (sigstoreResult : Option BundleVerificationResult)
    (status : AgentCardStatus) : AgentCardStatus :=
  match sigstoreResult, r.enableSigstoreVerification with
  | some sr, true =>
    if sr.absent then
      (status.clearSigstore (some false)).setCondition "SigstoreVerified"
        ⟨.conditionFalse, reasonSigstoreBundleMissing, sr.details⟩
    else if sr.verified then
      { status with
        sigstoreBundleVerified := some true, sigstoreIdentity := sr.identity,
        rekorLogIndex := sr.rekorLogIndex, slsaRepository := sr.slsaRepository,
        slsaCommitSHA := sr.slsaCommitSHA }.setCondition "SigstoreVerified"
          (r.sigstoreCondition sr)
    else
      (status.clearSigstore (some false)).setCondition "SigstoreVerified" (r.sigstoreCondition sr)
  | _, _ => (status.clearSigstore none).removeCondition "SigstoreVerified"

/-- The message of a successful sync. -/
def Reconciler.syncedMessage (r : Reconciler) (cardName : String) (invalid mTLSVerified : Bool)
    (sigstoreFailed : Bool) : String :=
  let message :=
    if invalid && r.signatureAuditMode then
      "Fetched agent card for " ++ cardName ++
        " (signature verification failed but audit mode enabled)"
    else if mTLSVerified && invalid then
      "Successfully fetched agent card for " ++ cardName ++ " (mTLS verified, no JWS signature)"
    else "Successfully fetched agent card for " ++ cardName
  if sigstoreFailed && r.sigstoreAuditMode then message ++ " (Sigstore bundle failed audit mode)"
  else message

/-- The condition `Synced`. -/
def Reconciler.syncedCondition (r : Reconciler) (cardName : String)
    (verificationResult : Option VerificationResult) (mTLSVerified : Bool)
    (sigstoreResult : Option BundleVerificationResult) : Condition :=
  let invalid := verificationResult.any fun vr => !vr.verified
  let sigstoreFailed := sigstoreResult.any fun sr => !sr.absent && !sr.verified
  if invalid && !r.signatureAuditMode && !mTLSVerified then
    ⟨.conditionFalse, reasonSignatureInvalid, verificationResult.elim "" VerificationResult.details⟩
  else if sigstoreFailed && !r.sigstoreAuditMode then
    ⟨.conditionFalse, reasonSigstoreInvalid,
      sigstoreResult.elim "" BundleVerificationResult.details⟩
  else ⟨.conditionTrue, "SyncSucceeded",
    r.syncedMessage cardName invalid mTLSVerified sigstoreFailed⟩

/-- The condition `Verified`, where there is a verdict, and the peer's identity. -/
def AgentCardStatus.applyVerdict (status : AgentCardStatus) (eval : TrustEvaluation) :
    AgentCardStatus :=
  let status := if eval.verifiedReason ≠ "" then
      status.setCondition conditionVerified
        ⟨eval.verifiedStatus, eval.verifiedReason, eval.verifiedMessage⟩
    else status
  if eval.attestedSpiffeID ≠ "" then
    { status with attestedAgentSpiffeID := eval.attestedSpiffeID }
  else status

/-- The condition `Ready`: synced, and verified if that was ever evaluated. -/
def AgentCardStatus.readyCondition (status : AgentCardStatus) : Condition :=
  if isStatusConditionTrue status.conditions "Synced" then
    if (status.conditions.lookup conditionVerified).isNone || status.verified then
      ⟨.conditionTrue, "ReadyToServe", "Agent index is ready for queries"⟩
    else ⟨.conditionFalse, "VerificationFailed", "Agent synced but identity verification failed"⟩
  else ⟨.conditionFalse, "SyncFailed", "Agent card fetch failed"⟩

/-- `applyBindingToStatus`. -/
def AgentCardStatus.applyBinding (status : AgentCardStatus) (binding : BindingResult) :
    AgentCardStatus :=
  { status with
    bindingStatus := some ⟨binding.bound, binding.reason, binding.message⟩,
    expectedSpiffeID :=
      if binding.spiffeID ≠ "" then binding.spiffeID else status.expectedSpiffeID }.setCondition
    "Bound" ⟨if binding.bound then .conditionTrue else .conditionFalse, binding.reason,
      binding.message⟩

/-- **`updateAgentCardStatus`**: the status that is written. -/
def Reconciler.applyStatus (r : Reconciler) (cardData : AgentCardData) (protocol : String)
    (targetRef : TargetRef) (eval : TrustEvaluation)
    (sigstoreResult : Option BundleVerificationResult) (status : AgentCardStatus) :
    AgentCardStatus :=
  let status := { status with
    card := some cardData, protocol := protocol, targetRef := some targetRef }
  let status := r.applySigstore sigstoreResult (r.applySignature eval.verificationResult status)
  let status := status.setCondition "Synced"
    (r.syncedCondition cardData.name eval.verificationResult eval.isMTLSVerified sigstoreResult)
  let status := status.applyVerdict eval
  let status := status.setCondition "Ready" status.readyCondition
  let status := eval.binding.elim status status.applyBinding
  { status with signatureIdentityMatch := eval.identityMatch }

theorem verified_applyBinding (status : AgentCardStatus) (binding : BindingResult) :
    (status.applyBinding binding).verified = status.verified :=
  verified_setCondition_of_ne (by decide) _ _

theorem verified_applyVerdict {eval : TrustEvaluation} (h : eval.Shows) (status : AgentCardStatus) :
    (status.applyVerdict eval).verified = eval.isVerified := by
  have hset : (status.setCondition conditionVerified
      ⟨eval.verifiedStatus, eval.verifiedReason, eval.verifiedMessage⟩).verified =
        eval.isVerified := by
    rw [verified_setCondition, h.status]
    cases eval.isVerified <;> rfl
  rw [AgentCardStatus.applyVerdict, if_pos h.reason]
  split
  · exact hset
  · exact hset

/-- **The status shows the verdict**: the condition `Verified` is true exactly after
a positive one. -/
theorem verified_applyStatus {eval : TrustEvaluation} (h : eval.Shows) (r : Reconciler)
    (cardData : AgentCardData) (protocol : String) (targetRef : TargetRef)
    (sigstoreResult : Option BundleVerificationResult) (status : AgentCardStatus) :
    (r.applyStatus cardData protocol targetRef eval sigstoreResult status).verified =
      eval.isVerified := by
  rw [Reconciler.applyStatus]
  generalize AgentCardStatus.setCondition _ "Synced" _ = synced
  have hready := (verified_setCondition_of_ne (by decide : "Ready" ≠ conditionVerified)
    (synced.applyVerdict eval) (synced.applyVerdict eval).readyCondition).trans
      (verified_applyVerdict h synced)
  cases hb : eval.binding with
  | none => exact hready
  | some binding => exact (verified_applyBinding _ binding).trans hready

end Rossoctl.Cards
