import Rossoctl.Cards.Conditions
import Rossoctl.Cards.Label

/-!
# The composite condition `Ready`

`updateAgentCardStatus` says of the condition `Ready` that it is a composite signal: true
when `Synced` is true and `Verified` is true or absent. It computes it so
(`Rossoctl.Cards.coherent_applyStatus`); but a Reconcile that stops before the fetch
overwrites `Synced` and leaves `Ready` as it was. So the statuses of a run are coherent
exactly as long as no Reconcile has to report a failure on a card that is ready
(`Rossoctl.Cards.KeepsReady`, `Rossoctl.Cards.coherent_iff_keepsReady`).

The settings of the operator may change between any two steps.
-/

namespace Rossoctl.Cards

open Kube Signature

/-- **A coherent status**: ready only if synced, and verified or never evaluated. -/
def AgentCardStatus.Coherent (status : AgentCardStatus) : Prop :=
  status.condition "Ready" = some .conditionTrue → status.condition "Synced" = some .conditionTrue ∧
      (status.condition conditionVerified = some .conditionTrue ∨
        status.condition conditionVerified = none)

/-- The cards of a cluster have coherent statuses. -/
def State.Coherent (st : State) : Prop :=
  ∀ key card, st.cards.lookup key = some card → card.status.Coherent

/-! ### What a Reconcile leaves -/

/-- Two statuses with the same composite condition and the same parts of it. -/
structure SameReady (status status' : AgentCardStatus) : Prop where
  ready : status'.condition "Ready" = status.condition "Ready"
  synced : status'.condition "Synced" = status.condition "Synced"
  verified : status'.condition conditionVerified = status.condition conditionVerified

variable {st st' : State} {status : AgentCardStatus} {key : NamespacedName} {card : AgentCard}
  {r : Reconciler}

theorem SameReady.coherent_iff {status' : AgentCardStatus} (h : SameReady status status') :
    status'.Coherent ↔ status.Coherent := by
  rw [AgentCardStatus.Coherent, h.ready, h.synced, h.verified, AgentCardStatus.Coherent]

theorem sameReady_applyBinding (status : AgentCardStatus) (binding : BindingResult) :
    SameReady status (status.applyBinding binding) where
  ready := (condition_applyBinding _ _ _).trans (if_neg (by decide))
  synced := (condition_applyBinding _ _ _).trans (if_neg (by decide))
  verified := (condition_applyBinding _ _ _).trans (if_neg (by decide))

theorem coherent_setFalse_synced (status : AgentCardStatus) (reason message : String) :
    (status.setFalse "Synced" reason message).Coherent ↔
      status.condition "Ready" ≠ some .conditionTrue := by
  have hready : (status.setFalse "Synced" reason message).condition "Ready" =
      status.condition "Ready" := (condition_setFalse _ _ _ _ _).trans (if_neg (by decide))
  have hsynced : (status.setFalse "Synced" reason message).condition "Synced" =
      some .conditionFalse := (condition_setFalse _ _ _ _ _).trans (if_pos rfl)
  rw [AgentCardStatus.Coherent, hready, hsynced]
  constructor
  · intro h htrue
    exact absurd (h htrue).1 (by decide)
  · intro h htrue
    exact absurd htrue h

theorem coherent_of_not_ready (h : status.condition "Ready" ≠ some .conditionTrue) :
    status.Coherent :=
  fun hready => absurd hready h

theorem coherent_update_synced (h : status.Coherent) (fault : Option String)
    (reason message : String) {next : AgentCardStatus → Outcome}
    (hnext : ∀ s, SameReady s (next s).status) :
    (status.update fault (·.setFalse "Synced" reason message) next).status.Coherent ↔
      (status.condition "Ready" = some .conditionTrue → fault ≠ none) := by
  cases fault with
  | some e => exact ⟨fun _ _ => (fun h => by cases h), fun _ => h⟩
  | none =>
    refine (hnext _).coherent_iff.trans ((coherent_setFalse_synced _ _ _).trans ?_)
    exact ⟨fun hnot hready => absurd hready hnot, fun himp hready => himp hready rfl⟩

/-- **The end of a sync is coherent**, whatever was there before. -/
theorem coherent_applyStatus (r : Reconciler) (cardData : AgentCardData) (protocol : String)
    (targetRef : TargetRef) (eval : TrustEvaluation) (sr : Option BundleVerificationResult)
    (status : AgentCardStatus) :
    (r.applyStatus cardData protocol targetRef eval sr status).Coherent := by
  intro hready
  rw [condition_applyStatus, if_neg (by decide), if_pos rfl, Option.some.injEq] at hready
  rw [condition_applyStatus, if_neg (by decide), if_neg (by decide), condition_applyStatus,
    if_neg (by decide), if_neg (by decide)]
  exact (readyCondition_eq_true _).mp hready

theorem coherent_clearedStatus (r : Reconciler) (h : status.Coherent) (inp : Input) :
    (r.clearedStatus status inp).Coherent := by
  rw [Reconciler.clearedStatus]
  split
  · exact h
  · cases inp.cleanupFields with
    | some e => exact h
    | none =>
      intro hready
      rw [AgentCardStatus.tryUpdate, condition_cleanup, if_neg (by decide)] at hready
      rw [AgentCardStatus.tryUpdate, condition_cleanup, if_neg (by decide), condition_cleanup,
        if_pos rfl]
      exact ⟨(h hready).1, .inr rfl⟩

/-- A fetch that fails: the two writes of `fetchCardData` leave `Ready` alone, and
Reconcile resets it, if that can be written. -/
theorem coherent_fetchFailed (h : status.Coherent) (inp : Input) (authenticated : Bool)
    (e : String) {next : AgentCardStatus → Outcome} (hnext : ∀ s, SameReady s (next s).status) :
    ((status.recordFetchFailure inp authenticated e).update inp.updateReady
        (·.setFalse "Ready" "SyncFailed" "Agent card fetch failed") next).status.Coherent ↔
      (status.condition "Ready" = some .conditionTrue →
        inp.updateSynced ≠ none ∨ inp.updateReady = none) := by
  cases hready : inp.updateReady with
  | none =>
    refine iff_of_true ((hnext _).coherent_iff.mpr (coherent_of_not_ready ?_)) fun _ => .inr rfl
    rw [condition_setFalse, if_pos rfl]
    decide
  | some e' =>
    rw [AgentCardStatus.recordFetchFailure]
    cases hsynced : inp.updateSynced with
    | some e'' => exact iff_of_true h fun _ => .inl fun h => by cases h
    | none =>
      have hset := coherent_setFalse_synced status "FetchFailed" e
      have hgoal : (status.condition "Ready" = some .conditionTrue →
          (none : Option String) ≠ none ∨ some e' = none) ↔
          status.condition "Ready" ≠ some .conditionTrue := by
        simp
      rw [hgoal]
      cases authenticated with
      | false => exact hset
      | true =>
        cases inp.updateVerified with
        | some e'' => exact hset
        | none =>
          -- revoking `Verified` does not help
          show ((status.setFalse "Synced" "FetchFailed" e).setFalse conditionVerified
            "FetchFailed" e).Coherent ↔ _
          rw [AgentCardStatus.Coherent, condition_setFalse, if_neg (by decide), condition_setFalse,
            if_neg (by decide), condition_setFalse, if_neg (by decide), condition_setFalse,
            if_pos rfl]
          exact ⟨fun h hr => absurd (h hr).1 (by decide), fun h hr => absurd hr h⟩

/-! ### How far a Reconcile gets -/

/-- The service of the agent of a card, if the workload is there, is an agent, is ready
and declares a protocol, and the service can be read. -/
def agentService (workloads : Workloads) (ns : String) (card : AgentCard) (inp : Input) :
    Option Service :=
  match getWorkload workloads ns card inp.getWorkload with
  | .error _ => none
  | .ok (ref, w) =>
    if isWorkloadReady w ref.kind && getWorkloadProtocol w.labels ≠ "" then
      inp.getService.toOption
    else none

/-- An exit before the fetch. -/
def Observation.early : Observation → Bool
  | .fetchFailed .. => false
  | .fetched .. => false
  | _ => true

theorem observe_cases (r : Reconciler) (workloads : Workloads) (ns : String) (card : AgentCard)
    (inp : Input) :
    (agentService workloads ns card inp = none ∧ (r.observe workloads ns card inp).early = true) ∨
    ∃ service, agentService workloads ns card inp = some service ∧
      ((∃ authenticated e, r.fetchCardData service inp = .error (authenticated, e) ∧
        r.observe workloads ns card inp = .fetchFailed authenticated e) ∨
      ∃ ref protocol serviceURL fetchResult, r.fetchCardData service inp = .ok fetchResult ∧
        r.observe workloads ns card inp = .fetched ref protocol serviceURL fetchResult) := by
  rw [agentService, Reconciler.observe]
  cases getWorkload workloads ns card inp.getWorkload with
  | error e => exact .inl ⟨rfl, rfl⟩
  | ok found =>
    obtain ⟨ref, w⟩ := found
    dsimp only
    cases isWorkloadReady w ref.kind with
    | false => exact .inl ⟨rfl, rfl⟩
    | true =>
      by_cases hprotocol : getWorkloadProtocol w.labels = ""
      · rw [if_pos hprotocol, hprotocol]
        exact .inl ⟨rfl, rfl⟩
      · rw [if_neg hprotocol, if_pos (by simpa using hprotocol)]
        cases inp.getService with
        | error e => exact .inl ⟨rfl, rfl⟩
        | ok service =>
          refine .inr ⟨service, rfl, ?_⟩
          dsimp only
          cases r.fetchCardData service inp with
          | error failure =>
            obtain ⟨authenticated, e⟩ := failure
            exact .inl ⟨authenticated, e, rfl, rfl⟩
          | ok fetchResult => exact .inr ⟨ref, _, _, fetchResult, rfl, rfl⟩

/-- What keeps a ready card coherent: the failure cannot be written, or there is none
before the fetch, and none of the fetch after which `Ready` cannot be reset. -/
def Reconciler.KeepsCard (r : Reconciler) (workloads : Workloads) (ns : String)
    (card : AgentCard) (inp : Input) : Prop :=
  card.status.condition "Ready" = some .conditionTrue → inp.updateSynced = none →
    ∃ service, agentService workloads ns card inp = some service ∧
      (inp.updateReady = none ∨ ∃ fetchResult, r.fetchCardData service inp = .ok fetchResult)

/-- **A Reconcile keeps a card coherent exactly under that condition.** -/
theorem coherent_report_iff (r : Reconciler) (workloads : Workloads) (ns : String)
    (h : card.status.Coherent) (inp : Input) :
    (r.report card inp (r.observe workloads ns card inp)).status.Coherent ↔
      r.KeepsCard workloads ns card inp := by
  have hsame : ∀ s (result : Result), SameReady s
      ({ status := s, result := result } : Outcome).status := fun _ _ => ⟨rfl, rfl, rfl⟩
  rcases observe_cases r workloads ns card inp with ⟨hnone, hearly⟩ | ⟨service, hservice, hfetch⟩
  · have hkeeps : r.KeepsCard workloads ns card inp ↔
        (card.status.condition "Ready" = some .conditionTrue → inp.updateSynced ≠ none) := by
      rw [Reconciler.KeepsCard, hnone]
      simp
    rw [hkeeps]
    cases hobs : r.observe workloads ns card inp with
    | noWorkload e =>
      refine coherent_update_synced h _ _ _ fun s => ?_
      split
      · cases inp.updateBinding with
        | some e' => exact ⟨rfl, rfl, rfl⟩
        | none => exact sameReady_applyBinding _ _
      · exact ⟨rfl, rfl, rfl⟩
    | notReady ref => exact coherent_update_synced h _ _ _ fun s => hsame s _
    | noProtocol => exact coherent_update_synced h _ _ _ fun s => hsame s _
    | noService e => exact coherent_update_synced h _ _ _ fun s => hsame s _
    | fetchFailed authenticated e =>
      rw [hobs] at hearly
      cases hearly
    | fetched ref protocol serviceURL fetchResult =>
      rw [hobs] at hearly
      cases hearly
  · rcases hfetch with ⟨authenticated, e, herror, hobs⟩ |
      ⟨ref, protocol, url, fetchResult, hok, hobs⟩
    · rw [hobs]
      refine (coherent_fetchFailed h inp authenticated e fun s => hsame s _).trans ?_
      rw [Reconciler.KeepsCard, hservice]
      constructor
      · intro hkeeps hready hsynced
        refine ⟨service, rfl, .inl ?_⟩
        exact (hkeeps hready).resolve_left fun hne => hne hsynced
      · intro hkeeps hready
        by_cases hsynced : inp.updateSynced = none
        · obtain ⟨service', hsome, hend⟩ := hkeeps hready hsynced
          cases hsome
          refine .inr (hend.resolve_right ?_)
          rintro ⟨fetchResult, hok⟩
          exact absurd (herror.symm.trans hok) (by simp)
        · exact .inl hsynced
    · rw [hobs]
      refine iff_of_true ?_ fun _ _ => ⟨service, hservice, .inr ⟨fetchResult, hok⟩⟩
      rw [Reconciler.report]
      cases inp.updateStatus with
      | some e => exact coherent_clearedStatus r h inp
      | none => exact coherent_applyStatus _ _ _ _ _ _ _

/-! ### Runs -/

/-- Reconcile gets behind the finalizer. -/
structure Input.Live (inp : Input) (card : AgentCard) : Prop where
  getCard : inp.getCard = none
  live : card.deleting = false
  finalizer : agentCardFinalizer ∈ card.finalizers

theorem reconcile_of_live {inp : Input} (hcard : st.cards.lookup key = some card)
    (h : inp.Live card) : r.reconcile st key inp = r.sync st key card inp := by
  simp only [Reconciler.reconcile, h.getCard, hcard, h.live, Bool.false_eq_true, if_false,
    if_pos h.finalizer]

/-- No status is written: the cards are new, or have the status they had. -/
def KeepsStatuses (st st' : State) : Prop :=
  ∀ key card', st'.cards.lookup key = some card' →
    card'.status = {} ∨ ∃ card, st.cards.lookup key = some card ∧ card'.status = card.status

theorem coherent_default : ({} : AgentCardStatus).Coherent :=
  coherent_of_not_ready (by decide)

theorem KeepsStatuses.coherent (h : KeepsStatuses st st') (hst : st.Coherent) : st'.Coherent := by
  intro key card' hcard'
  rcases h key card' hcard' with hnew | ⟨card, hcard, hsame⟩
  · rw [hnew]
    exact coherent_default
  · rw [hsame]
    exact hst key card hcard

theorem keepsStatuses_of_cards (h : st'.cards = st.cards) : KeepsStatuses st st' := by
  intro key card hcard
  rw [h] at hcard
  exact .inr ⟨card, hcard, rfl⟩

theorem keepsStatuses_put {new : Option AgentCard} (hcards : st'.cards = put st.cards key new)
    (hnew : ∀ card', new = some card' → card'.status = {} ∨
      ∃ card, st.cards.lookup key = some card ∧ card'.status = card.status) :
    KeepsStatuses st st' := by
  intro key' card' hcard'
  rw [hcards, lookup_put] at hcard'
  split at hcard'
  · rename_i hkey
    rw [hkey]
    exact hnew card' hcard'
  · exact .inr ⟨card', hcard', rfl⟩

theorem keepsStatuses_changeCard {new : AgentCard} (hnew : new.status = {} ∨
      ∃ card, st.cards.lookup key = some card ∧ new.status = card.status) :
    KeepsStatuses st (st.changeCard key (some new)) := by
  refine keepsStatuses_put (show _ = put st.cards key (some new) from rfl) fun card' hcard' => ?_
  rw [← Option.some.inj hcard']
  exact hnew

theorem keepsStatuses_retained {card' : AgentCard} {deleting : Bool} {finalizers : List String}
    (hcard : st.cards.lookup key = some card)
    (hcards : st'.cards = put st.cards key (retained deleting finalizers card'))
    (hsame : card'.status = card.status) : KeepsStatuses st st' := by
  refine keepsStatuses_put hcards fun c hc => .inr ⟨card, hcard, ?_⟩
  rw [eq_of_retained hc, hsame]

theorem keepsStatuses_reconcile {inp : Input}
    (h : ∀ card, st.cards.lookup key = some card → ¬ inp.Live card) :
    KeepsStatuses st (r.reconcile st key inp).1 := by
  rw [Reconciler.reconcile]
  split
  · exact keepsStatuses_of_cards rfl
  · exact keepsStatuses_of_cards rfl
  · rename_i card hget hcard
    split
    · rw [State.handleDeletion]
      split
      · dsimp only
        split
        · exact keepsStatuses_of_cards rfl
        · exact keepsStatuses_retained hcard rfl rfl
      · exact keepsStatuses_of_cards rfl
    · rename_i hlive
      split
      · rename_i hfin
        exact absurd ⟨hget, Bool.eq_false_iff.mpr hlive, hfin⟩ (h card hcard)
      · split
        · exact keepsStatuses_of_cards rfl
        · exact keepsStatuses_changeCard (.inr ⟨card, hcard, rfl⟩)

theorem keepsStatuses_step {a : Action} (ha : ∀ key inp, a ≠ .reconcile key inp)
    (h : step r st a = some st') : KeepsStatuses st st' := by
  cases a with
  | createCard key finalizers targetRef identityBinding =>
    rw [step] at h
    split at h
    · cases h
    · cases h
      exact keepsStatuses_changeCard (.inl rfl)
  | updateSpec key targetRef identityBinding =>
    rw [step] at h
    split at h
    · cases h
    · rename_i card hcard
      split at h
      · cases h
        exact keepsStatuses_of_cards rfl
      · cases h
        exact keepsStatuses_changeCard (.inr ⟨card, hcard, rfl⟩)
  | setFinalizers key finalizers =>
    rw [step] at h
    split at h
    · cases h
    · rename_i card hcard
      cases h
      exact keepsStatuses_retained hcard rfl rfl
  | deleteCard key =>
    rw [step] at h
    split at h
    · cases h
    · rename_i card hcard
      cases h
      exact keepsStatuses_retained hcard rfl rfl
  | createWorkload k w =>
    rw [step] at h
    split at h
    · cases h
    · cases h
      exact keepsStatuses_of_cards rfl
  | updateWorkload k labels conditions readyReplicas replicas =>
    cases h
    exact keepsStatuses_of_cards rfl
  | deleteWorkload k =>
    cases h
    exact keepsStatuses_of_cards rfl
  | reconcile key inp => exact absurd rfl (ha key inp)

/-- One step of the cluster, with the settings the operator has at the time. -/
def flagStep (st : State) (a : Reconciler × Action) : Option State := step a.1 st a.2

/-- **The condition on a step**: a Reconcile has no failure to report on a card that is
ready. -/
def KeepsReady (st : State) : Reconciler × Action → Prop
  | (r, .reconcile key inp) => ∀ card, st.cards.lookup key = some card → inp.Live card →
      r.KeepsCard st.workloads key.ns card inp
  | _ => True

theorem coherent_flagStep_iff {a : Reconciler × Action} (hst : st.Coherent)
    (h : flagStep st a = some st') : st'.Coherent ↔ KeepsReady st a := by
  obtain ⟨r, a⟩ := a
  by_cases hrec : ∃ key inp, a = .reconcile key inp
  · obtain ⟨key, inp, rfl⟩ := hrec
    cases h
    by_cases hlive : ∃ card, st.cards.lookup key = some card ∧ inp.Live card
    · obtain ⟨card, hcard, hlive⟩ := hlive
      have hkeeps : KeepsReady st (r, .reconcile key inp) ↔
          r.KeepsCard st.workloads key.ns card inp := by
        constructor
        · exact fun h => h card hcard hlive
        · intro h card' hcard' _
          cases hcard.symm.trans hcard'
          exact h
      rw [hkeeps, ← coherent_report_iff r st.workloads key.ns (hst key card hcard) inp]
      rw [reconcile_of_live hcard hlive, sync_eq]
      constructor
      · intro hcoh
        exact hcoh key _ ((lookup_put _ _ _ _).trans (if_pos rfl))
      · intro hreport key' card' hcard'
        rw [lookup_put] at hcard'
        split at hcard'
        · rw [← Option.some.inj hcard']
          exact hreport
        · exact hst key' card' hcard'
    · have hnot : ∀ card, st.cards.lookup key = some card → ¬ inp.Live card :=
        fun card hcard hl => hlive ⟨card, hcard, hl⟩
      refine iff_of_true ((keepsStatuses_reconcile hnot).coherent hst) ?_
      exact fun card hcard hl => absurd hl (hnot card hcard)
  · have hnot : ∀ key inp, a ≠ .reconcile key inp := fun key inp heq => hrec ⟨key, inp, heq⟩
    refine iff_of_true ((keepsStatuses_step hnot h).coherent hst) ?_
    cases a with
    | reconcile key inp => exact absurd rfl (hnot key inp)
    | _ => trivial

/-- **Coherence of `Ready`.** From an empty cluster, with settings that may change at any
time: all the statuses of a run are coherent if, and only if, each of its steps meets the
condition. -/
theorem coherent_iff_keepsReady (as : List (Reconciler × Action)) :
    (∀ bs st, bs <+: as → run flagStep {} bs = some st → st.Coherent) ↔
      Guarded flagStep KeepsReady {} as := by
  refine (guarded_iff_forall_isPrefix (fun st a st' hst h => coherent_flagStep_iff hst h)
    (fun st a h => ?_) (fun key card hcard => ?_) as).symm
  · obtain ⟨r, a⟩ := a
    cases a with
    | reconcile key inp => cases h
    | _ => trivial
  · cases hcard

/-- A verified card whose Deployment goes away. -/
def abandonedRun : List (Reconciler × Action) :=
  (verifiedRun ++ [Action.deleteWorkload agentKey,
    Action.reconcile cardKey (fetching (.error ""))]).map fun a => (mtlsReconciler, a)

/-- **Ready without being synced**: the card of a Deployment that is gone. -/
theorem ready_not_synced :
    ∃ st card, run flagStep {} abandonedRun = some st ∧ st.cards.lookup cardKey = some card ∧
      card.status.condition "Ready" = some .conditionTrue ∧
      card.status.condition "Synced" = some .conditionFalse ∧ ¬ st.Coherent := by
  refine ⟨_, _, rfl, rfl, rfl, rfl, fun h => ?_⟩
  exact absurd (h cardKey _ rfl rfl).1 (by decide)

end Rossoctl.Cards
