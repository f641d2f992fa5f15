import Rossoctl.Cards.Reconcile

/-!
# What a Reconcile leaves behind

Two readings of a step of the AgentCard controller, on which the statement about the
label rests. On the workload, the label is the conjunction of the annotations, and
a verdict or a clean-up changes the annotation of one card only
(`Rossoctl.Cards.lookup_propagateLabel`, `Rossoctl.Cards.lookup_cleanupAnno`). In the
status, the trust decision after the step is a function of how far the Reconcile got
(`Rossoctl.Cards.verified_report`), and a verdict is only reached behind the fetch, with
the status written (`Rossoctl.Cards.verdict_report`).
-/

namespace Rossoctl.Cards

open Kube Signature List GoMap

/-! ### Annotations and label of one workload -/

/-- **The label is the conjunction of the annotations.** -/
def Workload.Consistent (w : Workload) : Prop :=
  w.templateLabels.lookup labelSignatureVerified =
    if aggregateVerifiedState w.annotations then some "true" else none

theorem perCardAnno_inj {name name' : String} :
    perCardAnno name = perCardAnno name' ↔ name = name' :=
  String.append_right_inj _

theorem perCardAnno_ne_last (name : String) : perCardAnno name ≠ annotationLastVerifiedState := by
  intro h
  have hp := hasPrefix_append annotationVerifiedStatePrefix name
  rw [← perCardAnno, h] at hp
  cases hp

theorem aggregateVerifiedState_iff {annotations : StringMap} :
    aggregateVerifiedState annotations = true ↔
      (∃ name v, annotations.lookup (perCardAnno name) = some v) ∧
      ∀ name v, annotations.lookup (perCardAnno name) = some v → v = "true" := by
  rw [aggregateVerifiedState, Bool.and_eq_true, Bool.not_eq_true', isEmpty_eq_false_iff,
    all_eq_true]
  constructor
  · rintro ⟨hne, hall⟩
    refine ⟨?_, fun name v hv => ?_⟩
    · obtain ⟨e, he⟩ := exists_mem_of_ne_nil _ hne
      obtain ⟨hmem, hp⟩ := mem_filter.mp he
      obtain ⟨name, hname⟩ := hasPrefix_iff.mp hp
      exact ⟨name, e.2, mem_entries_iff.mp (by rw [perCardAnno, ← hname]; exact hmem)⟩
    · exact of_decide_eq_true (hall ⟨perCardAnno name, v⟩ (mem_filter.mpr
        ⟨mem_entries_iff.mpr hv, hasPrefix_append _ _⟩))
  · rintro ⟨⟨name, v, hv⟩, hall⟩
    refine ⟨ne_nil_of_mem (mem_filter.mpr
      ⟨mem_entries_iff.mpr hv, hasPrefix_append _ _⟩), fun e he => ?_⟩
    obtain ⟨hmem, hp⟩ := mem_filter.mp he
    obtain ⟨name', hname⟩ := hasPrefix_iff.mp hp
    exact decide_eq_true (hall name' e.2 (mem_entries_iff.mp
      (by rw [perCardAnno, ← hname]; exact hmem)))

variable (w : Workload) (fault : Option String) (status : AgentCardStatus)
  {f : AgentCardStatus → AgentCardStatus} {next : AgentCardStatus → Outcome}

theorem consistent_relabel (annotations : StringMap) : (w.relabel annotations).Consistent := by
  rw [Workload.Consistent, Workload.relabel]
  split
  · exact AList.lookup_insert _
  · exact AList.lookup_erase _ _

theorem consistent_propagateLabel {w : Workload} (h : w.Consistent) (cardName : String)
    (verified : Bool) : (w.propagateLabel cardName verified).Consistent := by
  rw [Workload.propagateLabel]
  split
  · exact h
  · exact consistent_relabel _ _

theorem consistent_cleanupAnno {w : Workload} (h : w.Consistent) (cardName : String) :
    (w.cleanupAnno cardName).Consistent := by
  rw [Workload.cleanupAnno]
  split
  · exact consistent_relabel _ _
  · exact h

theorem lookup_propagateLabel (cardName : String) (verified : Bool) (name : String) :
    (w.propagateLabel cardName verified).annotations.lookup (perCardAnno name) =
      if name = cardName then some (desiredState verified)
      else w.annotations.lookup (perCardAnno name) := by
  rw [Workload.propagateLabel]
  split
  · rename_i hsame
    split
    · rename_i hname
      rw [hname]
      exact hsame.1
    · rfl
  · rw [Workload.relabel, AList.lookup_erase_ne (perCardAnno_ne_last name), lookup_insert_ite]
    simp only [perCardAnno_inj]

theorem lookup_cleanupAnno (cardName name : String) :
    (w.cleanupAnno cardName).annotations.lookup (perCardAnno name) =
      if name = cardName then none else w.annotations.lookup (perCardAnno name) := by
  rw [Workload.cleanupAnno]
  split
  · rw [Workload.relabel, lookup_erase_ite]
    simp only [perCardAnno_inj]
  · rename_i hnone
    split
    · rename_i hname
      rw [hname]
      exact Option.not_isSome_iff_eq_none.mp hnone
    · rfl

theorem lookup_change (workloads : Workloads) (k k' : WorkloadKey) (f : Workload → Workload) :
    (workloads.change k f).lookup k' =
      if k' = k then (workloads.lookup k').map f else workloads.lookup k' := by
  rw [Workloads.change]
  split
  · rename_i hk
    split
    · rename_i h
      rw [h, hk, Option.map_none]
    · rfl
  · rename_i w hk
    rw [lookup_insert_ite]
    split
    · rename_i h
      rw [h, hk, Option.map_some]
    · rfl

variable {r : Reconciler} {card : AgentCard} {inp : Input} {workloads : Workloads}

theorem changeTemplate_of_some {key : NamespacedName} {k : WorkloadKey}
    (hk : card.podTemplate key.ns = some k) (f : Workload → Workload) :
    changeTemplate workloads key card none f = workloads.change k f := by
  simp only [changeTemplate, hk]

theorem changeTemplate_of_fault (workloads : Workloads) (key : NamespacedName) (card : AgentCard)
    (e : String) (f : Workload → Workload) :
    changeTemplate workloads key card (some e) f = workloads := by
  cases hk : card.podTemplate key.ns <;> simp only [changeTemplate, hk]

theorem changeTemplate_cases (workloads : Workloads) (key : NamespacedName) (card : AgentCard)
    (fault : Option String) (f : Workload → Workload) :
    (∃ k, card.podTemplate key.ns = some k ∧ fault = none ∧
      changeTemplate workloads key card fault f = workloads.change k f) ∨
    changeTemplate workloads key card fault f = workloads := by
  cases hk : card.podTemplate key.ns with
  | none => exact Or.inr (by simp only [changeTemplate, hk])
  | some k =>
    cases fault with
    | some e => exact Or.inr (changeTemplate_of_fault _ _ _ _ _)
    | none => exact Or.inl ⟨k, rfl, rfl, changeTemplate_of_some hk f⟩

theorem isSome_lookup_changeTemplate (workloads : Workloads) (key : NamespacedName)
    (card : AgentCard) (fault : Option String) (f : Workload → Workload) (k : WorkloadKey) :
    ((changeTemplate workloads key card fault f).lookup k).isSome =
      (workloads.lookup k).isSome := by
  rcases changeTemplate_cases workloads key card fault f with ⟨k', -, -, heq⟩ | heq
  · rw [heq, lookup_change]
    split
    · rw [Option.isSome_map]
    · rfl
  · rw [heq]

/-! ### What a Reconcile leaves in the status -/

/-- Whether the card is left verified, from how far the Reconcile gets: a fetch that
fails without authentication, like everything before it, leaves the decision as it
is; a failed authenticated fetch revokes it, if that can be written; and behind the
fetch it is revoked before it is made anew, where authenticated fetches are off. -/
def Reconciler.leavesVerified (r : Reconciler) (card : AgentCard) (inp : Input) : Observation → Bool
  | .fetchFailed true _ =>
    card.status.verified && (inp.updateSynced.isSome || inp.updateVerified.isSome)
  | .fetched _ _ _ fetchResult =>
    if inp.updateStatus.isSome then
      card.status.verified && (r.verifiedFetch || inp.cleanupFields.isSome)
    else (r.evaluateTrust card fetchResult inp.answer).isVerified
  | _ => card.status.verified

theorem verified_setFalse_of_ne {type : String} (h : type ≠ conditionVerified)
    (status : AgentCardStatus) (reason message : String) :
    (status.setFalse type reason message).verified = status.verified :=
  verified_setCondition_of_ne h _ _

theorem verified_setFalse (reason message : String) :
    (status.setFalse conditionVerified reason message).verified = false :=
  verified_setCondition _ _

theorem verified_update {status : AgentCardStatus} (hf : (f status).verified = status.verified)
    (hnext : ∀ s, (next s).status.verified = s.verified) :
    (status.update fault f next).status.verified = status.verified := by
  cases fault with
  | some e => rfl
  | none => exact (hnext (f status)).trans hf

theorem verified_recordFetchFailure (inp : Input) (authenticated : Bool) (e : String) :
    (status.recordFetchFailure inp authenticated e).verified = (status.verified &&
        (!authenticated || inp.updateSynced.isSome || inp.updateVerified.isSome)) := by
  rw [AgentCardStatus.recordFetchFailure]
  cases inp.updateSynced with
  | some e' => simp
  | none =>
    have hsynced := verified_setFalse_of_ne (by decide : "Synced" ≠ conditionVerified) status
      "FetchFailed" e
    cases authenticated with
    | false => simpa using hsynced
    | true =>
      cases inp.updateVerified with
      | some e' => simpa [AgentCardStatus.tryUpdate] using hsynced
      | none => simpa [AgentCardStatus.tryUpdate] using verified_setFalse _ _ _

theorem verified_cleanup : status.cleanupVerifiedFetchFields.verified = false := by
  rw [AgentCardStatus.cleanupVerifiedFetchFields, AgentCardStatus.verified, isStatusConditionTrue]
  split
  · rw [AgentCardStatus.removeCondition, AList.lookup_erase, Option.any_none]
  · rename_i h
    have hnone : status.conditions.lookup conditionVerified = none := by
      simp only [Bool.or_eq_true, Option.isSome_iff_ne_none, not_or, ne_eq, not_not] at h
      exact h.1
    rw [hnone, Option.any_none]

theorem verified_clearedStatus (r : Reconciler) (status : AgentCardStatus) (inp : Input) :
    (r.clearedStatus status inp).verified =
      (status.verified && (r.verifiedFetch || inp.cleanupFields.isSome)) := by
  rw [Reconciler.clearedStatus]
  cases r.verifiedFetch with
  | true => simp
  | false =>
    cases inp.cleanupFields with
    | some e => simp [AgentCardStatus.tryUpdate]
    | none => simpa [AgentCardStatus.tryUpdate] using verified_cleanup status

/-- **The trust decision after a Reconcile**, where a mechanism is switched on. -/
theorem verified_report (hr : r.mechanism = true) (card : AgentCard) (inp : Input)
    (obs : Observation) :
    (r.report card inp obs).status.verified = r.leavesVerified card inp obs := by
  cases obs with
  | noWorkload e =>
    refine verified_update _ (verified_setFalse_of_ne (by decide) _ _ _) fun s => ?_
    split
    · exact verified_update _ (verified_applyBinding _ _) fun _ => rfl
    · rfl
  | notReady ref => exact verified_update _ (verified_setFalse_of_ne (by decide) _ _ _) fun _ => rfl
  | noProtocol => exact verified_update _ (verified_setFalse_of_ne (by decide) _ _ _) fun _ => rfl
  | noService e => exact verified_update _ (verified_setFalse_of_ne (by decide) _ _ _) fun _ => rfl
  | fetchFailed authenticated e =>
    refine (verified_update _ (verified_setFalse_of_ne (by decide) _ _ _) fun _ => rfl).trans ?_
    rw [verified_recordFetchFailure]
    cases authenticated <;> simp [Reconciler.leavesVerified]
  | fetched ref protocol serviceURL fetchResult =>
    rw [Reconciler.report, Reconciler.leavesVerified]
    cases inp.updateStatus with
    | none => exact verified_applyStatus (evaluateTrust_of_mechanism hr _ _ _).1 _ _ _ _ _ _
    | some e => exact verified_clearedStatus r card.status inp

theorem verdict_update {status : AgentCardStatus}
    (hnext : ∀ s, (next s).verdict = none) : (status.update fault f next).verdict = none := by
  cases fault with
  | some e => rfl
  | none => exact hnext _

/-- Behind the fetch, with a mechanism switched on, the verdict is the decision that
is left in the status. -/
theorem verdict_report_fetched (hr : r.mechanism = true) (hupdate : inp.updateStatus = none)
    (ref : TargetRef) (protocol serviceURL : String) (fetchResult : FetchResult) :
    (r.report card inp (.fetched ref protocol serviceURL fetchResult)).verdict =
      some (r.leavesVerified card inp (.fetched ref protocol serviceURL fetchResult)) := by
  rw [Reconciler.report, Reconciler.leavesVerified, hupdate]
  exact (evaluateTrust_of_mechanism hr card fetchResult inp.answer).2

theorem agentSpiffeID_fetchCardData (hr : r.verifiedFetch = false) {service : Service}
    {fetchResult : FetchResult} (h : r.fetchCardData service inp = .ok fetchResult) :
    fetchResult.agentSpiffeID = "" := by
  rw [Reconciler.fetchCardData, hr, Bool.false_and, if_neg Bool.false_ne_true] at h
  split at h
  · cases h
    rfl
  · cases h

theorem agentSpiffeID_observe (hr : r.verifiedFetch = false) {ns : String} {ref : TargetRef}
    {protocol serviceURL : String} {fetchResult : FetchResult}
    (h : r.observe workloads ns card inp = .fetched ref protocol serviceURL fetchResult) :
    fetchResult.agentSpiffeID = "" := by
  rw [Reconciler.observe] at h
  split at h
  · cases h
  · split at h
    · cases h
    · dsimp only at h
      split at h
      · cases h
      · split at h
        · cases h
        · split at h
          · cases h
          · rename_i hfetch
            injection h with _ _ _ hres
            exact hres ▸ agentSpiffeID_fetchCardData hr hfetch

/-- **A verdict is reached** only behind the fetch, with the status written, and by a
mechanism. -/
theorem verdict_report {ns : String} {verdict : Bool}
    (h : (r.report card inp (r.observe workloads ns card inp)).verdict = some verdict) :
    r.mechanism = true ∧ inp.updateStatus = none ∧
      verdict = r.leavesVerified card inp (r.observe workloads ns card inp) ∧
      ∃ ref protocol serviceURL fetchResult,
        r.observe workloads ns card inp = .fetched ref protocol serviceURL fetchResult := by
  cases hobs : r.observe workloads ns card inp with
  | noWorkload e =>
    rw [hobs, Reconciler.report, verdict_update] at h
    · cases h
    · intro s
      split
      · exact verdict_update _ fun _ => rfl
      · rfl
  | notReady ref =>
    rw [hobs, Reconciler.report, verdict_update _ fun _ => rfl] at h
    cases h
  | noProtocol =>
    rw [hobs, Reconciler.report, verdict_update _ fun _ => rfl] at h
    cases h
  | noService e =>
    rw [hobs, Reconciler.report, verdict_update _ fun _ => rfl] at h
    cases h
  | fetchFailed authenticated e =>
    rw [hobs, Reconciler.report, verdict_update _ fun _ => rfl] at h
    cases h
  | fetched ref protocol serviceURL fetchResult =>
    rw [hobs] at h
    cases hupdate : inp.updateStatus with
    | some e =>
      rw [Reconciler.report, hupdate] at h
      cases h
    | none =>
      cases hr : r.mechanism with
      | true =>
        rw [verdict_report_fetched hr hupdate] at h
        exact ⟨rfl, rfl, (Option.some.inj h).symm, _, _, _, _, rfl⟩
      | false =>
        have hspiffe := agentSpiffeID_observe (Bool.or_eq_false_iff.mp hr).2 hobs
        rw [Reconciler.report, hupdate] at h
        exact absurd ((propagated_of_no_mechanism hr hspiffe card inp.answer).symm.trans h)
          (by simp)

end Rossoctl.Cards
