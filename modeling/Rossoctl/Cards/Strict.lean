import Rossoctl.Cards.History
import Rossoctl.Cards.NetworkPolicy

/-!
# Strict identity binding

`IdentityBinding.Strict` promises that a failed binding has consequences: the label of the
workload is removed and the NetworkPolicy controller applies the restrictive policy.
`Rossoctl.Cards.Enforced` is that promise, for the state that a Reconcile leaves.

The signature's path through `evaluateTrust` keeps it. The other one does not look at the
binding: an authenticated peer is verified whatever trust domain it belongs to. And where
no trust mechanism is switched on, or the workload's pod template cannot be reached, marks
from before are left where they are. So the promise is kept exactly if the peer was not
authenticated, and the marks are rewritten or were not there
(`Rossoctl.Cards.enforced_iff`).
-/

namespace Rossoctl.Cards

open Kube Signature Option

/-- A workload is marked: the card has the state `true` there, or the pod template has
the label. -/
def Workload.Marks (w : Workload) (cardName : String) : Prop :=
  w.annotations.lookup (perCardAnno cardName) = some "true" ∨
    w.templateLabels.lookup labelSignatureVerified = some "true"

/-- **A failed binding is enforced**: the card is not verified, its workload is not
marked, and a Reconcile of the NetworkPolicy controller writes a restrictive policy. -/
structure Enforced (st : State) (key : NamespacedName) (k : WorkloadKey) : Prop where
  verified : ∀ card, st.cards.lookup key = some card → card.status.verified = false
  unmarked : ∀ w, st.workloads.lookup k = some w → ¬ w.Marks key.name
  restricted : ∀ (np : NetworkPolicyReconciler) (policies : GoMap NamespacedName NetworkPolicy),
    np.enforceNetworkPolicies = true →
    PolicyState.Ready ⟨st.cards, st.workloads, policies⟩ key →
    ∀ i, PolicyState.intent ⟨st.cards, st.workloads, policies⟩ key = some i →
      ∃ spec, (np.reconcile ⟨st.cards, st.workloads, policies⟩ key {}).1.specAt i.policy =
        some spec ∧ spec.restrictive = true

theorem restricted_of_not_verified {st : PolicyState} {key : NamespacedName}
    (hver : ∀ card, st.cards.lookup key = some card → card.status.verified = false)
    {np : NetworkPolicyReconciler} (hnp : np.enforceNetworkPolicies = true) (hready : st.Ready key)
    {i : Intent} (hi : st.intent key = some i) :
    ∃ spec, (np.reconcile st key {}).1.specAt i.policy = some spec ∧ spec.restrictive = true := by
  have hfalse : i.verified = false := by
    obtain ⟨card, hcard, hrest⟩ := bind_eq_some_iff.mp hi
    obtain ⟨ref, -, hrest⟩ := bind_eq_some_iff.mp hrest
    obtain ⟨labels, -, rfl⟩ := map_eq_some_iff.mp hrest
    exact hver card hcard
  refine ⟨np.policySpec i.verified i.labels, ?_, ?_⟩
  · rw [(reconcile_of_ready hnp hready).2.2, LastWrite.writeOne_some (written_of_intent hi),
      Function.update_self]
  · rw [restrictive_policySpec, hfalse]
    rfl

/-! ### The verdict -/

section Verdict

variable {r : Reconciler} {card : AgentCard} {fetchResult : FetchResult}
  {answer : Option VerificationResult}

theorem shows_of_peer (h : fetchResult.agentSpiffeID ≠ "") :
    (r.evaluateTrust card fetchResult answer).Shows ∧
      (r.evaluateTrust card fetchResult answer).isVerified = true := by
  have hmtls : (r.gatherEvidence card fetchResult answer).isMTLSVerified = true :=
    decide_eq_true h
  rw [Reconciler.evaluateTrust, if_pos hmtls]
  exact ⟨shows_conclude _ _ _ _ (by decide), rfl⟩

/-- **A strict binding that fails is a negative verdict**, if the peer is not
authenticated. -/
theorem not_isVerified_of_strict {binding : IdentityBinding}
    (hpeer : fetchResult.agentSpiffeID = "") (hbinding : card.identityBinding = some binding)
    (hstrict : binding.strict = true)
    (hunbound : (r.evaluateTrust card fetchResult answer).binding.any BindingResult.bound =
      false) : (r.evaluateTrust card fetchResult answer).isVerified = false := by
  have hplain := isMTLSVerified_of_plain hpeer r card answer
  rw [(evidence_evaluateTrust r card fetchResult answer).2.1] at hunbound
  rw [Reconciler.evaluateTrust, if_neg (by rw [hplain]; exact Bool.false_ne_true)]
  split
  · rename_i vr hvr
    have hverdict : signatureVerdict card
        ((r.gatherEvidence card fetchResult answer).binding.any BindingResult.bound)
        vr.verified = false := by
      rw [signatureVerdict, hbinding, hunbound]
      dsimp only
      rw [hstrict, Bool.not_true, Bool.or_false, Bool.and_false]
    rw [TrustEvaluation.concludeSignature, hverdict, if_neg Bool.false_ne_true]
    split
    · rfl
    · rfl
  · split
    · rfl
    · rfl

end Verdict

/-! ### The statement -/

theorem not_marks_propagateLabel (w : Workload) (cardName : String) :
    ¬ (w.propagateLabel cardName false).Marks cardName := by
  have hanno : (w.propagateLabel cardName false).annotations.lookup (perCardAnno cardName) =
      some "false" := (lookup_propagateLabel w cardName false cardName).trans (if_pos rfl)
  have hagg : aggregateVerifiedState (w.propagateLabel cardName false).annotations = false := by
    refine Bool.eq_false_iff.mpr fun h => ?_
    exact absurd ((aggregateVerifiedState_iff.mp h).2 cardName "false" hanno) (by decide)
  rintro (hmark | hlabel)
  · exact absurd (hanno.symm.trans hmark) (by decide)
  · rw [Workload.propagateLabel] at hlabel hagg
    split at hlabel
    · rename_i hsame
      rw [if_pos hsame] at hagg
      have hcorrect := hsame.2
      rw [Workload.labelCorrect, hagg, hlabel] at hcorrect
      cases hcorrect
    · rename_i hchange
      rw [if_neg hchange] at hagg
      have hcons := consistent_relabel w
        ((w.annotations.insert (perCardAnno cardName) (desiredState false)).erase
          annotationLastVerifiedState)
      rw [Workload.Consistent, hagg, if_neg Bool.false_ne_true] at hcons
      exact absurd (hcons.symm.trans hlabel) (by simp)

section Statement

variable {r : Reconciler} {st : State} {key : NamespacedName} {card : AgentCard} {inp : Input}
  {ref : TargetRef} {protocol serviceURL : String} {fetchResult : FetchResult}

/-- The status that is left is verified exactly after a positive verdict. -/
theorem verified_report_fetched (hcleanup : inp.cleanupFields = none)
    (hupdate : inp.updateStatus = none) :
    (r.report card inp (.fetched ref protocol serviceURL fetchResult)).status.verified =
      (r.evaluateTrust card fetchResult inp.answer).isVerified := by
  rw [Reconciler.report, hupdate]
  show (r.applyStatus _ _ _ _ _ _).verified = _
  by_cases hpeer : fetchResult.agentSpiffeID = ""
  · cases hmech : r.mechanism with
    | true => exact verified_applyStatus (evaluateTrust_of_mechanism hmech _ _ _).1 _ _ _ _ _ _
    | false =>
      -- no verdict, and the condition has been removed
      rw [evaluateTrust_of_no_mechanism hmech hpeer]
      refine Bool.eq_false_iff.mpr fun h => ?_
      rw [verified_iff, condition_applyStatus, if_neg (by decide), if_neg (by decide),
        condition_evaluated_verified, clearedStatus_eq hcleanup,
        (Bool.or_eq_false_iff.mp hmech).2, if_neg Bool.false_ne_true, condition_cleanup,
        if_neg (fun hreason => hreason rfl), if_pos rfl] at h
      cases h
  · exact verified_applyStatus (shows_of_peer hpeer).1 _ _ _ _ _ _

theorem lookup_syncedWorkloads {k : WorkloadKey} {w : Workload}
    (hobs : r.observe st.workloads key.ns card inp = .fetched ref protocol serviceURL fetchResult)
    (hupdate : inp.updateStatus = none) (hpropagate : inp.propagate = none)
    (hpeer : fetchResult.agentSpiffeID = "") (htarget : card.target key.ns = some k)
    (hw : st.workloads.lookup k = some w) :
    (r.syncedWorkloads st.workloads key card inp).lookup k =
      some (if r.mechanism = true ∧ k.Accessible then
        w.propagateLabel key.name (r.evaluateTrust card fetchResult inp.answer).isVerified
      else w) := by
  have hverdict : (r.report card inp (r.observe st.workloads key.ns card inp)).verdict =
      (r.evaluateTrust card fetchResult inp.answer).propagated r := by
    rw [hobs, Reconciler.report, hupdate]
    rfl
  rw [Reconciler.syncedWorkloads, hverdict, hpropagate]
  cases hmech : r.mechanism with
  | false =>
    rw [propagated_of_no_mechanism hmech hpeer, if_neg fun h => absurd h.1 Bool.false_ne_true]
    exact hw
  | true =>
    rw [(evaluateTrust_of_mechanism hmech card fetchResult inp.answer).2, elim_some]
    by_cases hk : k.Accessible
    · rw [if_pos ⟨rfl, hk⟩, changeTemplate_of_some (podTemplate_of_target htarget hk),
        lookup_change, if_pos rfl, hw]
      rfl
    · rw [if_neg fun h => hk h.2]
      rcases changeTemplate_cases st.workloads key card none _ with ⟨k', hk', -, heq⟩ | heq
      · rw [heq, lookup_change, if_neg, hw]
        rintro rfl
        exact hk (accessible_of_podTemplate hk').1
      · rw [heq, hw]

/-- **Strict binding.** After a Reconcile that evaluates a strict binding to false and can
write what it finds, the failure is enforced if, and only if, the peer was not
authenticated, and some mechanism hands the verdict to a workload that can be reached, or
the workload was not marked. -/
theorem enforced_iff (r : Reconciler) (st : State) (key : NamespacedName) (card : AgentCard)
    (inp : Input) (ref : TargetRef) (protocol serviceURL : String) (fetchResult : FetchResult)
    (binding : IdentityBinding) (k : WorkloadKey) (w : Workload)
    (hcard : st.cards.lookup key = some card) (hlive : inp.Live card)
    (hobs : r.observe st.workloads key.ns card inp = .fetched ref protocol serviceURL fetchResult)
    (hcleanup : inp.cleanupFields = none) (hupdate : inp.updateStatus = none)
    (hpropagate : inp.propagate = none) (hbinding : card.identityBinding = some binding)
    (hstrict : binding.strict = true)
    (hunbound : (r.evaluateTrust card fetchResult inp.answer).binding.any BindingResult.bound =
      false)
    (htarget : card.target key.ns = some k) (hw : st.workloads.lookup k = some w) :
    Enforced (r.reconcile st key inp).1 key k ↔ fetchResult.agentSpiffeID = "" ∧
        (r.mechanism = true ∧ k.Accessible ∨ ¬ w.Marks key.name) := by
  have hverified :
      (r.report card inp (.fetched ref protocol serviceURL fetchResult)).status.verified =
        (r.evaluateTrust card fetchResult inp.answer).isVerified :=
    verified_report_fetched hcleanup hupdate
  rw [reconcile_of_live hcard hlive, sync_eq, hobs]
  by_cases hpeer : fetchResult.agentSpiffeID = ""
  · have hnot := not_isVerified_of_strict hpeer hbinding hstrict hunbound
    have hlookup := lookup_syncedWorkloads hobs hupdate hpropagate hpeer htarget hw
    rw [hnot] at hverified hlookup
    have hcards : ∀ c, (put st.cards key (some { card with
        status := (r.report card inp (.fetched ref protocol serviceURL fetchResult)).status
        })).lookup key = some c → c.status.verified = false := by
      intro c hc
      rw [lookup_put, if_pos rfl] at hc
      rw [← some.inj hc]
      exact hverified
    simp only [hpeer, true_and]
    constructor
    · intro h
      by_cases hreach : r.mechanism = true ∧ k.Accessible
      · exact .inl hreach
      · rw [if_neg hreach] at hlookup
        exact .inr (h.unmarked w hlookup)
    · intro h
      refine ⟨hcards, fun w' hw' => ?_, fun np policies hnp hready i hi =>
        restricted_of_not_verified hcards hnp hready hi⟩
      cases hlookup.symm.trans hw'
      split
      · exact not_marks_propagateLabel w key.name
      · rename_i hreach
        exact h.resolve_left hreach
  · rw [(shows_of_peer hpeer).2] at hverified
    refine iff_of_false (fun h => ?_) fun h => hpeer h.1
    have hfalse := h.verified _ ((lookup_put _ _ _ _).trans (if_pos rfl))
    exact absurd (hverified.symm.trans hfalse) (by decide)

end Statement

/-! ### Two fetches under a strict binding -/

/-- A card that asks for a strict binding to its trust domain. -/
def strictCard : AgentCard :=
  { plainCard with identityBinding := some { trustDomain := "corp.example", strict := true } }

/-- The agent's Deployment and that card. -/
def strictCluster : State :=
  { agentCluster with cards := (∅ : GoMap NamespacedName AgentCard).insert cardKey strictCard }

/-- The peer has not shown an identity: the binding fails, and that is enforced. -/
theorem enforced_fallingBack :
    Enforced (mtlsReconciler.reconcile strictCluster cardKey fallingBack).1 cardKey agentKey :=
  (enforced_iff mtlsReconciler strictCluster cardKey strictCard fallingBack
    ⟨"apps/v1", "Deployment", "agent"⟩ "a2a" "http://agent.team.svc.cluster.local:8000"
    { cardData := {} } { trustDomain := "corp.example", strict := true } agentKey agentWorkload
    (AList.lookup_insert _) ⟨rfl, rfl, List.mem_singleton_self _⟩ rfl rfl rfl rfl rfl rfl rfl rfl
    (AList.lookup_insert _)).mpr
    ⟨rfl, .inl ⟨rfl, by decide⟩⟩

/-- The peer is authenticated, and belongs to another trust domain. -/
def foreignPeer : Input :=
  fetching (.ok { cardData := {}, agentSpiffeID := "spiffe://other.example/agent" })

/-- **A foreign agent is verified under a strict binding**: the binding fails, and the card
is verified and its workload marked all the same. -/
theorem foreign_verified : (mtlsReconciler.evaluateTrust strictCard
        { cardData := {}, agentSpiffeID := "spiffe://other.example/agent" } none).binding.map
        BindingResult.bound = some false ∧
      (∃ card w, (mtlsReconciler.reconcile strictCluster cardKey foreignPeer).1.cards.lookup
          cardKey = some card ∧ card.status.verified = true ∧
        (mtlsReconciler.reconcile strictCluster cardKey foreignPeer).1.workloads.lookup
          agentKey = some w ∧ w.Marks cardKey.name) ∧
      ¬ Enforced (mtlsReconciler.reconcile strictCluster cardKey foreignPeer).1 cardKey
        agentKey := by
  refine ⟨by decide +kernel, ⟨_, _, rfl, rfl, rfl, ?_⟩, fun h => ?_⟩
  · exact .inr rfl
  exact absurd (h.verified _ rfl) (by decide +kernel)

end Rossoctl.Cards
