import Rossoctl.Cards.Verdict

/-!
# The verified label and the trust decision

The label `signature-verified` on the pod template of a workload admits its pods to
the traffic between verified agents; so it must not outlive the trust decision: a
workload that carries it is targeted by some card, and every card that targets it,
and has been reconciled since its last change, is verified.

The controller keeps the label equal to the conjunction of the annotations of the
cards (`Rossoctl.Cards.Workload.Consistent`), and this it does in every run. What it
does not always keep is that an annotation speaks for its card: some exits of
Reconcile change the trust decision and not the annotation, and an annotation is
left behind when its card moves to another workload or when the clean-up at its
deletion fails. `Rossoctl.Cards.Settling` is the condition on a step that none of
this happens; in a run of such steps the label is sound
(`Rossoctl.Cards.verified_of_labelled`).
-/

namespace Rossoctl.Cards

open Kube Signature List Option GoMap

/-! ### The condition on a step -/

/-- The controller has access to the pod template of this workload. -/
def WorkloadKey.Accessible (k : WorkloadKey) : Prop := podTemplateKey k.kind k.name = some k

instance (k : WorkloadKey) : Decidable k.Accessible :=
  inferInstanceAs (Decidable (_ = _))

/-- The state that a workload has on record for a card. -/
def stateOf (workloads : Workloads) (k : WorkloadKey) (cardName : String) : Option String :=
  (workloads.lookup k).bind fun w => w.annotations.lookup (perCardAnno cardName)

/-- The workload has neither the label nor annotations of cards. -/
def Workload.Unmarked (w : Workload) : Prop :=
  w.templateLabels.lookup labelSignatureVerified = none ∧
  ∀ e ∈ w.annotations.entries, hasPrefix e.1 annotationVerifiedStatePrefix = false

instance (w : Workload) : Decidable w.Unmarked :=
  inferInstanceAs (Decidable (_ ∧ _))

/-- The Reconcile gets to the label, and can write it. -/
def reachesLabel (inp : Input) : Observation → Bool
  | .fetched .. => inp.updateStatus.isNone && inp.propagate.isNone
  | _ => false

/-- **A Reconcile settles a card**: if it gets to the label with a positive verdict, the
pod template it writes to is that of the target; and if it does not get there, then
the workload already has another state than `true` on record for the card, or the
card is left verified. -/
def Reconciler.Settles (r : Reconciler) (workloads : Workloads) (key : NamespacedName)
    (card : AgentCard) (inp : Input) : Prop :=
  if reachesLabel inp (r.observe workloads key.ns card inp) then
    r.leavesVerified card inp (r.observe workloads key.ns card inp) = true →
      ∀ k ∈ card.podTemplate key.ns, card.target key.ns = some k
  else
    ∀ k ∈ card.target key.ns, k.Accessible → (workloads.lookup k).isSome →
      r.leavesVerified card inp (r.observe workloads key.ns card inp) = true ∨
        ∃ v ∈ stateOf workloads k key.name, v ≠ "true"

instance (r : Reconciler) (workloads : Workloads) (key : NamespacedName) (card : AgentCard)
    (inp : Input) : Decidable (r.Settles workloads key card inp) :=
  inferInstanceAs (Decidable (ite _ _ _))

/-- The condition on a Reconcile: a clean-up does not fail for an annotation that says
`true`, unless the finalizer stays too; and a card that is not being deleted is
settled. -/
def Reconciler.ReconcileOk (r : Reconciler) (st : State) (key : NamespacedName) (card : AgentCard)
    (inp : Input) : Prop :=
  if card.deleting then
    inp.removeFinalizer = none → inp.cleanup ≠ none →
      ∀ k ∈ card.target key.ns, stateOf st.workloads k key.name ≠ some "true"
  else r.mechanism = true → agentCardFinalizer ∈ card.finalizers →
    r.Settles st.workloads key card inp

instance (r : Reconciler) (st : State) (key : NamespacedName) (card : AgentCard) (inp : Input) :
    Decidable (r.ReconcileOk st key card inp) :=
  inferInstanceAs (Decidable (ite _ _ _))

/-- **The condition on a step**: a Reconcile is as above; a card does not leave a
workload that has the state `true` on record for it; and a workload is created
without label and annotations, and not under a card that has been reconciled to
something else than verified.

A Reconcile is one step: an edit that comes in the middle of one counts as coming after it. A
Reconcile that stops early for a card that is not verified is ruled out even if nobody has
labelled the workload, as the next verified card would. -/
def Settling (r : Reconciler) (st : State) : Action → Prop
  | .reconcile key inp => inp.getCard = none →
    ∀ card ∈ st.cards.lookup key, r.ReconcileOk st key card inp
  | .updateSpec key targetRef _ =>
    ∀ card ∈ st.cards.lookup key, ∀ k ∈ card.target key.ns,
      { card with targetRef := targetRef }.target key.ns = some k ∨
        stateOf st.workloads k key.name ≠ some "true"
  | .createWorkload k w => w.Unmarked ∧
    ∀ e ∈ st.cards.entries, e.1 ∈ st.reconciled → e.2.target e.1.ns = some k →
      e.2.status.verified = true
  | _ => True

instance (r : Reconciler) (st : State) : (a : Action) → Decidable (Settling r st a)
  | .reconcile .. => inferInstanceAs (Decidable (_ → _))
  | .updateSpec .. => inferInstanceAs (Decidable (∀ _ ∈ _, _))
  | .createWorkload .. => inferInstanceAs (Decidable (_ ∧ _))
  | .createCard .. | .setFinalizers .. | .deleteCard .. | .updateWorkload .. | .deleteWorkload .. =>
    isTrue trivial

/-! ### The invariant -/

/-- The state `true` on a workload is that of a card which is there, targets the
workload and has the finalizer. -/
structure Owned (r : Reconciler) (cards : GoMap NamespacedName AgentCard) (k : WorkloadKey)
    (cardName : String) : Prop where
  accessible : k.Accessible
  mechanism : r.mechanism = true
  card : ∃ card, cards.lookup ⟨k.name.ns, cardName⟩ = some card ∧
    card.target k.name.ns = some k ∧ agentCardFinalizer ∈ card.finalizers

/-- A card that has been reconciled is verified, or its workload has another state
than `true` on record for it. -/
structure Recorded (r : Reconciler) (workloads : Workloads) (key : NamespacedName)
    (card : AgentCard) : Prop where
  live : card.deleting = false
  state : r.mechanism = true → ∀ k, card.target key.ns = some k → k.Accessible →
    (workloads.lookup k).isSome →
      card.status.verified = true ∨ ∃ v ∈ stateOf workloads k key.name, v ≠ "true"

/-- **The invariant.** -/
structure Sound (r : Reconciler) (st : State) : Prop where
  consistent : ∀ k w, st.workloads.lookup k = some w → w.Consistent
  owned : ∀ k name, stateOf st.workloads k name = some "true" → Owned r st.cards k name
  recorded : ∀ key ∈ st.reconciled, ∀ card, st.cards.lookup key = some card →
    Recorded r st.workloads key card

variable {r : Reconciler} {st : State} {key : NamespacedName} {card : AgentCard}

variable {k : WorkloadKey} {inp : Input} {ns : String} {workloads : Workloads} {w : Workload}

theorem key_eq {ref : TargetRef} (h : ref.key ns = .ok k) :
    k.kind = ref.kind ∧ k.name = ⟨ns, ref.name⟩ := by
  rw [TargetRef.key] at h
  split at h
  · cases h
  · cases h
    exact ⟨rfl, rfl⟩

theorem target_eq_some (h : card.target ns = some k) :
    ∃ ref, card.targetRef = some ref ∧ k.kind = ref.kind ∧ k.name = ⟨ns, ref.name⟩ := by
  obtain ⟨ref, href, hkey⟩ := bind_eq_some_iff.mp h
  cases hk : ref.key ns with
  | error e =>
    rw [hk] at hkey
    cases hkey
  | ok k' =>
    rw [hk] at hkey
    cases hkey
    exact ⟨ref, href, key_eq hk⟩

theorem ns_of_target (h : card.target ns = some k) : k.name.ns = ns := by
  obtain ⟨ref, -, -, hname⟩ := target_eq_some h
  rw [hname]

/-- For an accessible target the controller reaches the right pod template. -/
theorem podTemplate_of_target (h : card.target ns = some k) (hk : k.Accessible) :
    card.podTemplate ns = some k := by
  obtain ⟨ref, href, hkind, hname⟩ := target_eq_some h
  rw [AgentCard.podTemplate, href, bind_some, ← hkind, ← hname]
  exact hk

theorem accessible_of_podTemplate (h : card.podTemplate ns = some k) :
    k.Accessible ∧ k.name.ns = ns := by
  obtain ⟨ref, -, hk⟩ := bind_eq_some_iff.mp h
  rw [podTemplateKey] at hk
  split at hk
  · cases hk
    exact ⟨rfl, rfl⟩
  · split at hk
    · cases hk
      exact ⟨rfl, rfl⟩
    · cases hk

theorem stateOf_change (workloads : Workloads) (k k' : WorkloadKey) (f : Workload → Workload)
    (name : String) :
    stateOf (workloads.change k f) k' name =
      if k' = k then (workloads.lookup k').bind fun w => (f w).annotations.lookup (perCardAnno name)
      else stateOf workloads k' name := by
  rw [stateOf, lookup_change]
  split
  · rw [bind_map]
    rfl
  · rfl

/-! ### The frame rules -/

theorem Owned.lookup (h : Owned r st.cards k key.name) (hns : k.name.ns = key.ns) :
    ∃ card, st.cards.lookup key = some card ∧ card.target key.ns = some k ∧
      agentCardFinalizer ∈ card.finalizers := by
  obtain ⟨card, hcard, htarget, hfin⟩ := h.card
  rw [hns] at hcard htarget
  exact ⟨card, hcard, htarget, hfin⟩

theorem Owned.of_lookup (h : Owned r st.cards k key.name) (hns : k.name.ns = key.ns)
    (hcard : st.cards.lookup key = some card) :
    card.target key.ns = some k ∧ agentCardFinalizer ∈ card.finalizers := by
  obtain ⟨c, hc, howner⟩ := h.lookup hns
  cases hcard.symm.trans hc
  exact howner

/-- **The rule for a card**: a card may be replaced or removed if it stays the owner of
the states `true` it has on record, and, where it counts as reconciled afterwards, it
is recorded. -/
theorem Sound.putCard (h : Sound r st) {card' : Option AgentCard}
    {reconciled : List NamespacedName}
    (hown : ∀ k, Owned r st.cards k key.name → k.name.ns = key.ns →
      stateOf st.workloads k key.name = some "true" →
      ∃ c, card' = some c ∧ c.target key.ns = some k ∧ agentCardFinalizer ∈ c.finalizers)
    (hsub : ∀ key' ∈ reconciled, key' ≠ key → key' ∈ st.reconciled)
    (hself : key ∈ reconciled → ∀ c, card' = some c → Recorded r st.workloads key c) :
    Sound r { cards := put st.cards key card', workloads := st.workloads,
              reconciled := reconciled } := by
  refine ⟨h.consistent, fun k name hstate => ?_, fun key' hkey' c hc => ?_⟩
  · have ho := h.owned k name hstate
    refine ⟨ho.accessible, ho.mechanism, ?_⟩
    by_cases heq : (⟨k.name.ns, name⟩ : NamespacedName) = key
    · obtain ⟨hns, rfl⟩ : k.name.ns = key.ns ∧ name = key.name := heq ▸ ⟨rfl, rfl⟩
      obtain ⟨c, hc, htarget, hfin⟩ := hown k ho hns hstate
      exact ⟨c, by rw [lookup_put, if_pos heq, hc], hns ▸ htarget, hfin⟩
    · obtain ⟨c, hc, hrest⟩ := ho.card
      exact ⟨c, by rw [lookup_put, if_neg heq, hc], hrest⟩
  · rw [lookup_put] at hc
    split at hc
    · rename_i heq
      subst heq
      exact hself hkey' c hc
    · rename_i hne
      exact h.recorded key' (hsub key' hkey' hne) c hc

theorem Sound.changeCard (h : Sound r st) {card' : Option AgentCard}
    (hown : ∀ k, Owned r st.cards k key.name → k.name.ns = key.ns →
      stateOf st.workloads k key.name = some "true" →
      ∃ c, card' = some c ∧ c.target key.ns = some k ∧ agentCardFinalizer ∈ c.finalizers) :
    Sound r (st.changeCard key card') := by
  refine h.putCard hown (fun key' hkey' _ => (mem_filter.mp hkey').1) fun hkey => ?_
  exact absurd (mem_filter.mp hkey).2 (by simp)

/-- **The rule for a workload**: the states of some cards may change, if they are not
reconciled cards, and if a state `true` that is there afterwards has its owner. -/
theorem Sound.touch (h : Sound r st) {f : Workload → Workload} (touched : String → Prop)
    (hcons : ∀ w, w.Consistent → (f w).Consistent)
    (hother : ∀ w name, ¬ touched name →
      (f w).annotations.lookup (perCardAnno name) = w.annotations.lookup (perCardAnno name))
    (hself : ∀ w name, touched name →
      (f w).annotations.lookup (perCardAnno name) = some "true" → Owned r st.cards k name)
    (hnot : ∀ key ∈ st.reconciled, key.ns = k.name.ns → ¬ touched key.name) :
    Sound r { st with workloads := st.workloads.change k f } := by
  refine ⟨fun k' w hw => ?_, fun k' name hstate => ?_, fun key hkey c hc => ?_⟩
  · dsimp only at hw
    rw [lookup_change] at hw
    split at hw
    · obtain ⟨w₀, hw₀, rfl⟩ := map_eq_some_iff.mp hw
      exact hcons w₀ (h.consistent k' w₀ hw₀)
    · exact h.consistent k' w hw
  · dsimp only at hstate
    rw [stateOf_change] at hstate
    split at hstate
    · rename_i heq
      subst heq
      obtain ⟨w, hw, hlook⟩ := bind_eq_some_iff.mp hstate
      by_cases ht : touched name
      · exact hself w name ht hlook
      · rw [hother w name ht] at hlook
        exact h.owned k' name (bind_eq_some_iff.mpr ⟨w, hw, hlook⟩)
    · exact h.owned k' name hstate
  · have hrec := h.recorded key hkey c hc
    refine ⟨hrec.live, fun hm k' htarget hacc hsome => ?_⟩
    rw [lookup_change] at hsome
    rw [stateOf_change]
    split at hsome
    · rename_i heq
      subst heq
      rw [isSome_map] at hsome
      rw [if_pos rfl]
      have ht := hnot key hkey (ns_of_target htarget).symm
      rcases hrec.state hm k' htarget hacc hsome with hv | hv
      · exact Or.inl hv
      · refine Or.inr ?_
        simpa only [stateOf, hother _ _ ht] using hv
    · rename_i hne
      rw [if_neg hne]
      exact hrec.state hm k' htarget hacc hsome

/-! ### The steps -/

theorem Sound.forget (h : Sound r st) (key : NamespacedName) :
    Sound r { st with reconciled := st.reconciled.filter fun k => k ≠ key } :=
  ⟨h.consistent, h.owned, fun key' hkey' => h.recorded key' (mem_filter.mp hkey').1⟩

/-- **The rule for the template of a card**: its own state may change there. -/
theorem Sound.changeTemplate (h : Sound r st) (hnot : key ∉ st.reconciled) (fault : Option String)
    {f : Workload → Workload} (hcons : ∀ w, w.Consistent → (f w).Consistent)
    (hother : ∀ w name, name ≠ key.name →
      (f w).annotations.lookup (perCardAnno name) = w.annotations.lookup (perCardAnno name))
    (hself : ∀ w k, card.podTemplate key.ns = some k →
      (f w).annotations.lookup (perCardAnno key.name) = some "true" → Owned r st.cards k key.name) :
    Sound r { st with workloads := Cards.changeTemplate st.workloads key card fault f } := by
  rcases changeTemplate_cases st.workloads key card fault f with ⟨k, hk, -, heq⟩ | heq
  · rw [heq]
    refine h.touch (· = key.name) hcons hother (fun w name hname hlook => ?_)
      fun key' hkey' hns hname => hnot ?_
    · subst hname
      exact hself w k hk hlook
    · rw [(accessible_of_podTemplate hk).2] at hns
      obtain rfl : key' = key := by
        exact congrArg₂ NamespacedName.mk hns hname
      exact hkey'
  · rw [heq]
    exact h

/-- The state on record for a card after its template has been changed. -/
theorem stateOf_changeTemplate (hk : card.podTemplate key.ns = some k) (f : Workload → Workload)
    (name : String) :
    stateOf (changeTemplate workloads key card none f) k name =
      (workloads.lookup k).bind fun w => (f w).annotations.lookup (perCardAnno name) := by
  rw [changeTemplate_of_some hk, stateOf_change, if_pos rfl]

theorem sound_handleDeletion (h : Sound r st) (hcard : st.cards.lookup key = some card)
    (hdel : card.deleting = true)
    (hok : inp.removeFinalizer = none → inp.cleanup ≠ none →
      ∀ k ∈ card.target key.ns, stateOf st.workloads k key.name ≠ some "true") :
    Sound r (st.handleDeletion key card inp).1 := by
  have hnot : key ∉ st.reconciled := fun hmem =>
    absurd ((h.recorded key hmem card hcard).live.symm.trans hdel) (by simp)
  rw [State.handleDeletion]
  split
  · have h1 : Sound r { st with
        workloads := cleanupPerCardAnnotation st.workloads key card inp.cleanup } := by
      refine h.changeTemplate hnot _ (fun w hw => consistent_cleanupAnno hw _)
        (fun w name hname => ?_) fun w k _ hlook => ?_
      · rw [lookup_cleanupAnno, if_neg hname]
      · rw [lookup_cleanupAnno, if_pos rfl] at hlook
        cases hlook
    cases hrem : inp.removeFinalizer with
    | some e => exact h1
    | none =>
      refine h1.changeCard fun k ho hns hstate => ?_
      -- the card has no state `true` left on record
      exfalso
      obtain ⟨htarget, -⟩ := ho.of_lookup hns hcard
      have hk := podTemplate_of_target htarget ho.accessible
      rw [ cleanupPerCardAnnotation] at hstate
      cases hclean : inp.cleanup with
      | some e =>
        rw [hclean, changeTemplate_of_fault] at hstate
        exact hok hrem (by rw [hclean]; simp) k htarget hstate
      | none =>
        rw [hclean, stateOf_changeTemplate hk] at hstate
        obtain ⟨w, -, hlook⟩ := bind_eq_some_iff.mp hstate
        rw [lookup_cleanupAnno, if_pos rfl] at hlook
        cases hlook
  · exact h

/-- The workloads after a sync. -/
def Reconciler.syncedWorkloads (r : Reconciler) (workloads : Workloads) (key : NamespacedName)
    (card : AgentCard) (inp : Input) : Workloads :=
  (r.report card inp (r.observe workloads key.ns card inp)).verdict.elim workloads fun verified =>
    changeTemplate workloads key card inp.propagate (·.propagateLabel key.name verified)

theorem sync_eq (r : Reconciler) (st : State) (key : NamespacedName) (card : AgentCard)
    (inp : Input) :
    (r.sync st key card inp).1 =
      { cards := put st.cards key (some { card with
          status := (r.report card inp (r.observe st.workloads key.ns card inp)).status }),
        workloads := r.syncedWorkloads st.workloads key card inp,
        reconciled := key :: st.reconciled } := by
  rw [Reconciler.sync, Reconciler.syncedWorkloads]
  cases (r.report card inp (r.observe st.workloads key.ns card inp)).verdict <;> rfl

/-- The workloads are left alone unless the Reconcile gets to the label. -/
theorem syncedWorkloads_of_not_reaches
    (h : reachesLabel inp (r.observe workloads key.ns card inp) = false) :
    r.syncedWorkloads workloads key card inp = workloads := by
  rw [Reconciler.syncedWorkloads]
  cases hv : (r.report card inp (r.observe workloads key.ns card inp)).verdict with
  | none => rfl
  | some verified =>
    obtain ⟨-, hupdate, -, ref, protocol, serviceURL, fetchResult, hobs⟩ := verdict_report hv
    rw [hobs, reachesLabel, hupdate, isNone_none, Bool.true_and] at h
    obtain ⟨e, he⟩ := isSome_iff_exists.mp (isNone_eq_false_iff.mp h)
    rw [he]
    exact changeTemplate_of_fault _ _ _ _ _

theorem isSome_lookup_syncedWorkloads (r : Reconciler) (workloads : Workloads)
    (key : NamespacedName) (card : AgentCard) (inp : Input) (k : WorkloadKey) :
    ((r.syncedWorkloads workloads key card inp).lookup k).isSome = (workloads.lookup k).isSome := by
  rw [Reconciler.syncedWorkloads]
  cases (r.report card inp (r.observe workloads key.ns card inp)).verdict with
  | none => rfl
  | some verified => exact isSome_lookup_changeTemplate _ _ _ _ _ _

theorem stateOf_syncedWorkloads (hr : r.mechanism = true)
    (h : reachesLabel inp (r.observe workloads key.ns card inp) = true)
    (hk : card.podTemplate key.ns = some k) (hw : workloads.lookup k = some w) :
    stateOf (r.syncedWorkloads workloads key card inp) k key.name =
      some (desiredState (r.leavesVerified card inp (r.observe workloads key.ns card inp))) := by
  rw [Reconciler.syncedWorkloads]
  cases hobs : r.observe workloads key.ns card inp with
  | fetched ref protocol serviceURL fetchResult =>
    rw [hobs, reachesLabel, Bool.and_eq_true, isNone_iff_eq_none, isNone_iff_eq_none] at h
    rw [verdict_report_fetched hr h.1, h.2, elim_some, stateOf_changeTemplate hk, hw,
      bind_some, lookup_propagateLabel, if_pos rfl]
  | _ =>
    rw [hobs] at h
    cases h

/-- What a Reconcile of a card does to the workloads keeps the invariant. -/
theorem sound_syncedWorkloads (h : Sound r st) (hcard : st.cards.lookup key = some card)
    (hfin : agentCardFinalizer ∈ card.finalizers)
    (hok : r.mechanism = true → r.Settles st.workloads key card inp) (hnot : key ∉ st.reconciled) :
    Sound r { st with workloads := r.syncedWorkloads st.workloads key card inp } := by
  rw [Reconciler.syncedWorkloads]
  cases hv : (r.report card inp (r.observe st.workloads key.ns card inp)).verdict with
  | none => exact h
  | some verified =>
    obtain ⟨hr, hupdate, rfl, ref, protocol, serviceURL, fetchResult, hobs⟩ := verdict_report hv
    cases hfault : inp.propagate with
    | some e =>
      rw [elim_some, changeTemplate_of_fault]
      exact h
    | none =>
      have hreach : reachesLabel inp (r.observe st.workloads key.ns card inp) = true := by
        rw [hobs, reachesLabel, hupdate, hfault]
        rfl
      have hset := hok hr
      rw [Reconciler.Settles, if_pos hreach] at hset
      refine h.changeTemplate hnot none (fun w hw => consistent_propagateLabel hw _ _)
        (fun w name hname => ?_) fun w k hk hlook => ?_
      · rw [lookup_propagateLabel, if_neg hname]
      · rw [lookup_propagateLabel, if_pos rfl, some.injEq] at hlook
        obtain ⟨hacc, hns⟩ := accessible_of_podTemplate hk
        refine ⟨hacc, hr, card, ?_⟩
        rw [hns]
        refine ⟨hcard, hset ?_ k hk, hfin⟩
        cases hleft : r.leavesVerified card inp (r.observe st.workloads key.ns card inp) with
        | true => rfl
        | false =>
          rw [hleft] at hlook
          exact absurd hlook (by decide)

/-- **A Reconcile that settles its card keeps the invariant.** -/
theorem sound_sync (h : Sound r st) (hcard : st.cards.lookup key = some card)
    (hlive : card.deleting = false) (hfin : agentCardFinalizer ∈ card.finalizers)
    (hok : r.mechanism = true → r.Settles st.workloads key card inp) :
    Sound r (r.sync st key card inp).1 := by
  have h1 := sound_syncedWorkloads (h.forget key) hcard hfin hok fun hmem =>
    absurd (mem_filter.mp hmem).2 (by simp)
  rw [sync_eq]
  refine h1.putCard (fun k ho hns _ => ?_) (fun key' hkey' hne => ?_) fun _ c hc => ?_
  · obtain ⟨htarget, hf⟩ := ho.of_lookup hns hcard
    exact ⟨_, rfl, htarget, hf⟩
  · have hmem := (mem_cons.mp hkey').resolve_left hne
    exact mem_filter.mpr ⟨hmem, decide_eq_true hne⟩
  · cases hc
    refine ⟨hlive, fun hr k htarget hacc hsome => ?_⟩
    have hset := hok hr
    have hk := podTemplate_of_target htarget hacc
    rw [Reconciler.Settles] at hset
    rw [verified_report hr]
    split at hset
    · -- the verdict is on record, and it is the decision in the status
      rename_i hreach
      rw [isSome_lookup_syncedWorkloads] at hsome
      obtain ⟨w, hw⟩ := isSome_iff_exists.mp hsome
      rw [stateOf_syncedWorkloads hr hreach hk hw]
      cases r.leavesVerified card inp (r.observe st.workloads key.ns card inp) with
      | true => exact Or.inl rfl
      | false => exact Or.inr ⟨_, rfl, by decide⟩
    · rename_i hreach
      rw [syncedWorkloads_of_not_reaches (Bool.eq_false_iff.mpr hreach)] at hsome ⊢
      exact hset k htarget hacc hsome

theorem consistent_of_unmarked (h : w.Unmarked) :
    w.Consistent ∧ ∀ name, w.annotations.lookup (perCardAnno name) = none := by
  have hnone : ∀ name, w.annotations.lookup (perCardAnno name) = none := fun name => by
    rw [eq_none_iff_forall_ne_some]
    intro v hv
    have := h.2 _ (mem_entries_iff.mpr hv)
    exact absurd ((hasPrefix_append annotationVerifiedStatePrefix name).symm.trans this) (by simp)
  refine ⟨?_, hnone⟩
  rw [Workload.Consistent, h.1, if_neg]
  intro hagg
  obtain ⟨⟨name, v, hv⟩, -⟩ := aggregateVerifiedState_iff.mp hagg
  rw [hnone name] at hv
  cases hv

theorem sound_createWorkload (h : Sound r st) (hok : Settling r st (.createWorkload k w)) :
    Sound r { st with workloads := st.workloads.insert k w } := by
  obtain ⟨hmark, hcards⟩ := hok
  obtain ⟨hcons, hnone⟩ := consistent_of_unmarked hmark
  refine ⟨fun k' w' hw' => ?_, fun k' name hstate => ?_, fun key hkey c hc => ?_⟩
  · dsimp only at hw'
    rw [lookup_insert_ite] at hw'
    split at hw'
    · exact some.inj hw' ▸ hcons
    · exact h.consistent k' w' hw'
  · dsimp only at hstate
    rw [stateOf, lookup_insert_ite] at hstate
    split at hstate
    · rw [bind_some, hnone name] at hstate
      cases hstate
    · exact h.owned k' name hstate
  · have hrec := h.recorded key hkey c hc
    refine ⟨hrec.live, fun hr k' htarget hacc hsome => ?_⟩
    by_cases heq : k' = k
    · subst heq
      exact Or.inl (hcards ⟨key, c⟩ (mem_entries_iff.mpr hc) hkey htarget)
    · dsimp only at hsome ⊢
      rw [lookup_insert_ite, if_neg heq] at hsome
      rw [stateOf, lookup_insert_ite, if_neg heq]
      exact hrec.state hr k' htarget hacc hsome

theorem sound_deleteWorkload (h : Sound r st) (k : WorkloadKey) :
    Sound r { st with workloads := st.workloads.erase k } := by
  refine ⟨fun k' w' hw' => ?_, fun k' name hstate => ?_, fun key hkey c hc => ?_⟩
  · dsimp only at hw'
    rw [lookup_erase_ite] at hw'
    split at hw'
    · cases hw'
    · exact h.consistent k' w' hw'
  · dsimp only at hstate
    rw [stateOf, lookup_erase_ite] at hstate
    split at hstate
    · cases hstate
    · exact h.owned k' name hstate
  · have hrec := h.recorded key hkey c hc
    refine ⟨hrec.live, fun hr k' htarget hacc hsome => ?_⟩
    rw [lookup_erase_ite] at hsome
    rw [stateOf, lookup_erase_ite]
    split at hsome
    · cases hsome
    · rename_i hne
      rw [if_neg hne]
      exact hrec.state hr k' htarget hacc hsome

theorem sound_reconcile (h : Sound r st) (hok : Settling r st (.reconcile key inp)) :
    Sound r (r.reconcile st key inp).1 := by
  rw [Reconciler.reconcile]
  split
  · exact h
  · exact h
  · rename_i card hget hcard
    have hcond := hok hget card hcard
    rw [Reconciler.ReconcileOk] at hcond
    split
    · rename_i hdel
      rw [if_pos hdel] at hcond
      exact sound_handleDeletion h hcard hdel hcond
    · rename_i hlive
      rw [if_neg hlive] at hcond
      split
      · rename_i hfin
        exact sound_sync h hcard (Bool.eq_false_iff.mpr hlive) hfin fun hr => hcond hr hfin
      · split
        · exact h
        · refine h.changeCard fun k ho hns _ => ?_
          obtain ⟨htarget, hf⟩ := ho.of_lookup hns hcard
          exact ⟨_, rfl, htarget, mem_append_left _ hf⟩

theorem sound_updateSpec (h : Sound r st) (hcard : st.cards.lookup key = some card)
    {targetRef : Option TargetRef} {identityBinding : Option IdentityBinding}
    (hok : Settling r st (.updateSpec key targetRef identityBinding)) :
    Sound r (st.changeCard key (some
      { card with targetRef := targetRef, identityBinding := identityBinding })) := by
  refine h.changeCard fun k ho hns hstate => ?_
  obtain ⟨htarget, hf⟩ := ho.of_lookup hns hcard
  exact ⟨_, rfl, (hok card hcard k htarget).resolve_right fun hne => hne hstate, hf⟩

theorem sound_setFinalizers (h : Sound r st) (hcard : st.cards.lookup key = some card)
    (finalizers : List String) (hfin : agentCardFinalizer ∈ card.finalizers →
      agentCardFinalizer ∈ finalizers) :
    Sound r (st.putCard key
      (retained card.deleting finalizers { card with finalizers := finalizers })) := by
  refine h.putCard (fun k ho hns _ => ?_) (fun _ hkey' _ => hkey') fun hkey c hc => ?_
  · obtain ⟨htarget, hf⟩ := ho.of_lookup hns hcard
    exact ⟨_, retained_of_mem (hfin hf) _, htarget, hfin hf⟩
  · obtain rfl := eq_of_retained hc
    have hrec := h.recorded key hkey card hcard
    exact ⟨hrec.live, hrec.state⟩

theorem sound_deleteCard (h : Sound r st) (hcard : st.cards.lookup key = some card) :
    Sound r (st.changeCard key (retained true card.finalizers { card with deleting := true })) := by
  refine h.changeCard fun k ho hns _ => ?_
  obtain ⟨htarget, hf⟩ := ho.of_lookup hns hcard
  exact ⟨_, retained_of_mem hf _, htarget, hf⟩

/-- **The invariant is kept by every step** that meets the condition. -/
theorem sound_step {st' : State} {a : Action} (h : Sound r st) (hok : Settling r st a)
    (hstep : step r st a = some st') : Sound r st' := by
  cases a with
  | reconcile key inp =>
    cases hstep
    exact sound_reconcile h hok
  | createCard key finalizers targetRef identityBinding =>
    rw [step] at hstep
    split at hstep
    · cases hstep
    · rename_i hnone
      cases hstep
      refine h.changeCard fun k ho hns _ => ?_
      obtain ⟨c, hc, -⟩ := ho.lookup hns
      exact absurd (hnone.symm.trans hc) (by simp)
  | updateSpec key targetRef identityBinding =>
    rw [step] at hstep
    split at hstep
    · cases hstep
    · rename_i hcard
      split at hstep
      · exact some.inj hstep ▸ h
      · exact some.inj hstep ▸ sound_updateSpec h hcard hok
  | setFinalizers key finalizers =>
    rw [step] at hstep
    split at hstep
    · cases hstep
    · rename_i hcard
      cases hstep
      refine sound_setFinalizers h hcard _ fun hf => mem_append_left _ ?_
      exact mem_filter.mpr ⟨hf, decide_eq_true rfl⟩
  | deleteCard key =>
    rw [step] at hstep
    split at hstep
    · cases hstep
    · rename_i hcard
      exact some.inj hstep ▸ sound_deleteCard h hcard
  | createWorkload k w =>
    rw [step] at hstep
    split at hstep
    · cases hstep
    · exact some.inj hstep ▸ sound_createWorkload h hok
  | updateWorkload k labels conditions readyReplicas replicas =>
    cases hstep
    exact h.touch (fun _ => False) (fun _ hw => hw) (fun _ _ _ => rfl) (fun _ _ hf => hf.elim)
      fun _ _ _ hf => hf
  | deleteWorkload k => exact some.inj hstep ▸ sound_deleteWorkload h k

theorem sound_init (r : Reconciler) : Sound r {} :=
  ⟨fun _ _ h => absurd h (by simp), fun _ _ h => absurd h (by simp [stateOf]),
    fun _ h => absurd h not_mem_nil⟩

/-- **The label does not outlive the trust decision.** In every run whose steps meet
the condition, a workload that carries the label is targeted by a card, and every
card that targets it and has been reconciled since its last change is verified. -/
theorem verified_of_labelled (r : Reconciler) (as : List Action) (st : State)
    (hok : Guarded (step r) (Settling r) {} as) (hrun : run (step r) {} as = some st)
    (k : WorkloadKey) (w : Workload) (hw : st.workloads.lookup k = some w)
    (hlabel : (w.templateLabels.lookup labelSignatureVerified).isSome) :
    (∃ key card, st.cards.lookup key = some card ∧ card.target key.ns = some k) ∧
    ∀ key card, st.cards.lookup key = some card → card.target key.ns = some k →
      key ∈ st.reconciled → card.status.verified = true := by
  have h := run_invariant (fun _ _ _ => sound_step) (sound_init r) hok hrun
  have hagg : aggregateVerifiedState w.annotations = true := by
    rw [h.consistent k w hw] at hlabel
    split at hlabel
    · assumption
    · cases hlabel
  obtain ⟨⟨name, v, hv⟩, hall⟩ := aggregateVerifiedState_iff.mp hagg
  have hstate : ∀ name v, w.annotations.lookup (perCardAnno name) = some v →
      stateOf st.workloads k name = some v := fun name v hv =>
    bind_eq_some_iff.mpr ⟨w, hw, hv⟩
  have howned := h.owned k name (hall name v hv ▸ hstate name v hv)
  obtain ⟨card, hcard, htarget, -⟩ := howned.card
  refine ⟨⟨_, card, hcard, htarget⟩, fun key c hc htarget' hkey => ?_⟩
  -- a reconciled card that is not verified has another state than `true` on record
  refine ((h.recorded key hkey c hc).state howned.mechanism k htarget' howned.accessible
    (by rw [hw]; rfl)).resolve_right ?_
  rintro ⟨v', hv', hne⟩
  obtain ⟨w', hw', hlook⟩ := bind_eq_some_iff.mp hv'
  cases hw.symm.trans hw'
  exact hne (hall key.name v' hlook)

/-! ### Two runs -/

/-- A reconciler with authenticated fetches. -/
def mtlsReconciler : Reconciler := { enableVerifiedFetch := true, hasAuthenticatedFetcher := true }

def agentKey : WorkloadKey := ⟨"apps", "Deployment", ⟨"team", "agent"⟩⟩

/-- A Deployment that is an agent and is ready. -/
def agentWorkload : Workload where
  labels := ((∅ : StringMap).insert labelAgentType labelValueAgent).insert
    "protocol.rossoctl.io/a2a" ""
  conditions := [("Available", "True")]

def cardKey : NamespacedName := ⟨"team", "card"⟩

/-- All calls succeed, and the authenticated fetch has this outcome. -/
def fetching (fetched : Except String FetchResult) : Input where
  getService := .ok ⟨[("agent-tls", 8443)]⟩
  fetchAuthenticated := fetched
  fetch := .error "connection refused"

/-- A card for the Deployment is created and reconciled, with an authenticated peer. -/
def verifiedRun : List Action :=
  [.createWorkload agentKey agentWorkload,
   .createCard cardKey [] (some ⟨"apps/v1", "Deployment", "agent"⟩) none] ++
  List.replicate 2 (.reconcile cardKey (fetching (.ok
    { cardData := {}, agentSpiffeID := "spiffe://example.org/agent" })))

theorem verified_of_labelled_agent :
    ∃ st w card, run (step mtlsReconciler) {} verifiedRun = some st ∧
      st.workloads.lookup agentKey = some w ∧
      w.templateLabels.lookup labelSignatureVerified = some "true" ∧
      st.cards.lookup cardKey = some card ∧ cardKey ∈ st.reconciled ∧
      card.status.verified = true := by
  have hok : Guarded (step mtlsReconciler) (Settling mtlsReconciler) {} verifiedRun := by
    decide +kernel
  refine ⟨_, _, _, rfl, rfl, rfl, rfl, mem_cons_self, ?_⟩
  exact (verified_of_labelled mtlsReconciler verifiedRun _ hok rfl agentKey _ rfl rfl).2 cardKey _
    rfl rfl mem_cons_self

/-- **The label can outlive the decision**: when an authenticated fetch fails, the
Reconcile revokes the decision in the status, and leaves the label where it is. -/
theorem label_outlives_decision : ∃ st w card, run (step mtlsReconciler) {}
        (verifiedRun ++ [.reconcile cardKey (fetching (.error "handshake failure"))]) = some st ∧
      st.workloads.lookup agentKey = some w ∧
      w.templateLabels.lookup labelSignatureVerified = some "true" ∧
      st.cards.lookup cardKey = some card ∧ card.target cardKey.ns = some agentKey ∧
      cardKey ∈ st.reconciled ∧ card.status.verified = false :=
  ⟨_, _, _, rfl, rfl, rfl, rfl, rfl, mem_cons_self, rfl⟩

end Rossoctl.Cards
