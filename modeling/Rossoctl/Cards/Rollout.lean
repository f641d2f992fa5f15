import Rossoctl.Cards.Aggregation
import Rossoctl.Cards.NetworkPolicy

/-!
# Policies during a rollout

A policy is written for the pods of a workload, and which these are it says by their labels: the
labels of the pod template as it is now (`getPodTemplateLabels`,
`internal/controller/agentcard_networkpolicy_controller.go`). A workload finds its pods by a
selector that never changes. The template may change, and then there are pods of older revisions,
until the rollout has replaced them – or for good, if it is paused or fails.

The template is changed by anyone, or by the operator with its label
(`Rossoctl.Cards.TemplateChange`), and pods come from any revision and go. Whether all the pods
are selected is a question of the changes alone: it is so at every moment, whatever pods come and
go, just if no change puts a label on the template that was not there before
(`Rossoctl.Cards.covered_iff`). A plain edit that adds a label is enough to let the pods that are
running escape a restrictive policy (`Rossoctl.Cards.escaped_pod`).
-/

namespace Rossoctl.Cards

open Kube Option List

/-! ### A workload and its pods -/

/-- A change of a pod template. -/
inductive TemplateChange where
  /-- Someone sets the labels of the template. -/
  | edit (templateLabels : StringMap)
  /-- The operator hands over a verdict, or takes one back. -/
  | operate (call : AnnoCall)

/-- The workload with the change. -/
def Workload.changed (w : Workload) : TemplateChange → Workload
  | .edit templateLabels => { w with templateLabels }
  | .operate call => (call.update w).getD w

/-- **The change puts a label on the template** that was not there, or had another value. The
operator does if with its call all the states of cards on the workload are `true`, and the template
does not say so yet. -/
def Workload.Adds (w : Workload) : TemplateChange → Prop
  | .edit templateLabels => ¬Selects templateLabels w.templateLabels
  | .operate call =>
    (call.update w).any (fun w' => aggregateVerifiedState w'.annotations) = true ∧
      w.templateLabels.lookup labelSignatureVerified ≠ some "true"

instance (w : Workload) : (c : TemplateChange) → Decidable (w.Adds c)
  | .edit _ => inferInstanceAs (Decidable (¬_))
  | .operate _ => inferInstanceAs (Decidable (_ ∧ _))

/-- A workload with the labels of its template in all its revisions, the last one first, and the
labels of its live pods. -/
structure Rollout where
  workload : Workload
  revisions : List StringMap
  pods : List StringMap := []

/-- A workload is created. -/
def Rollout.start (w : Workload) : Rollout where
  workload := w
  revisions := [w.templateLabels]

/-- What happens to a workload and its pods. -/
inductive RolloutAction where
  | change (c : TemplateChange)
  /-- A pod of a revision starts. It has the labels of the revision, and maybe others. -/
  | createPod (revision : ℕ) (labels : StringMap)
  | deletePod (pod : ℕ)

/-- The template changes of a history, in their order. -/
def changesOf (actions : List RolloutAction) : List TemplateChange :=
  actions.filterMap fun
    | .change c => some c
    | _ => none

variable (selector : StringMap → Bool)

/-- A change that the API server takes: it takes a template only if the selector of the workload
matches it. -/
def Workload.change (w : Workload) (c : TemplateChange) : Option Workload :=
  if selector (w.changed c).templateLabels then some (w.changed c) else none

/-- **A step.** -/
def Rollout.step (s : Rollout) : RolloutAction → Option Rollout
  | .change c => (s.workload.change selector c).map fun w =>
    { s with workload := w, revisions := w.templateLabels :: s.revisions }
  | .createPod revision labels =>
    (s.revisions[revision]?).bind fun template =>
      if Selects template labels then some { s with pods := labels :: s.pods } else none
  | .deletePod pod => some { s with pods := s.pods.eraseIdx pod }

/-- **The condition on a change**: it adds no label, or the API server does not take it. -/
def Workload.AddsNone (w : Workload) (c : TemplateChange) : Prop :=
  w.change selector c = none ∨ ¬w.Adds c

instance (w : Workload) (c : TemplateChange) : Decidable (w.AddsNone selector c) :=
  inferInstanceAs (Decidable (_ ∨ _))

variable {selector}

/-! ### What a change adds -/

theorem selects_iff {labels pod : StringMap} :
    Selects labels pod ↔ ∀ k v, labels.lookup k = some v → pod.lookup k = some v :=
  ⟨fun h k v hv => h ⟨k, v⟩ (GoMap.mem_entries_iff.mpr hv),
    fun h e he => h e.1 e.2 (GoMap.mem_entries_iff.mp he)⟩

theorem Selects.trans {a b c : StringMap} (h : Selects a b) (h' : Selects b c) : Selects a c :=
  selects_iff.mpr fun k v hv => selects_iff.mp h' k v (selects_iff.mp h k v hv)

theorem Selects.refl (a : StringMap) : Selects a a := selects_iff.mpr fun _ _ hv => hv

/-- The operator writes its own label and no other, so the old template has all the labels of the
new one just if the label is not new. -/
theorem selects_relabel_iff (w : Workload) (annotations : StringMap) :
    Selects (w.relabel annotations).templateLabels w.templateLabels ↔
      (aggregateVerifiedState annotations = true →
        w.templateLabels.lookup labelSignatureVerified = some "true") := by
  have hlabel : (w.relabel annotations).templateLabels.lookup labelSignatureVerified =
      if aggregateVerifiedState annotations then some "true" else none :=
    consistent_relabel w annotations
  rw [selects_iff]
  constructor
  · intro h hagg
    refine h _ _ (hlabel.trans ?_)
    rw [if_pos hagg]
  · intro h k v hv
    by_cases hk : k = labelSignatureVerified
    · subst hk
      rw [hlabel] at hv
      split at hv
      · rename_i hagg
        rw [h hagg, hv]
      · cases hv
    · rwa [lookup_relabel_of_ne w annotations hk] at hv

/-- **The old template has all the labels of the new one**, just if the change adds none. -/
theorem selects_changed_iff (w : Workload) (c : TemplateChange) :
    Selects (w.changed c).templateLabels w.templateLabels ↔ ¬w.Adds c := by
  cases c with
  | edit templateLabels => exact not_not.symm
  | operate call =>
    rw [Workload.changed, Workload.Adds]
    cases hupdate : call.update w with
    | none => exact iff_of_true (Selects.refl _) fun h => Bool.false_ne_true h.1
    | some w' =>
      obtain ⟨annotations, rfl, -⟩ := AnnoCall.exists_relabel_of_update hupdate
      rw [getD_some, any_some, selects_relabel_iff, not_and_not_right]
      exact Iff.rfl

/-! ### Histories -/

/-- All revisions and all pods have the labels of the current template. -/
structure Rollout.Nested (s : Rollout) : Prop where
  revisions : ∀ template ∈ s.revisions, Selects s.workload.templateLabels template
  pods : ∀ pod ∈ s.pods, Selects s.workload.templateLabels pod

variable {s s' : Rollout} {c : TemplateChange} {w w' : Workload}

theorem change_eq_some_iff :
    w.change selector c = some w' ↔ selector w'.templateLabels = true ∧ w.changed c = w' := by
  rw [Workload.change, ite_none_right_eq_some, some_inj]
  constructor
  · rintro ⟨hsel, rfl⟩
    exact ⟨hsel, rfl⟩
  · rintro ⟨hsel, rfl⟩
    exact ⟨hsel, rfl⟩

theorem step_change (hc : s.workload.change selector c = some w') :
    s.step selector (.change c) =
      some { s with workload := w', revisions := w'.templateLabels :: s.revisions } := by
  rw [Rollout.step, hc, map_some]

/-- **The step lemma for a change.** -/
theorem Rollout.Nested.change (h : s.Nested) (hadds : s.workload.AddsNone selector c)
    (hc : s.workload.change selector c = some w') :
    Rollout.Nested { s with workload := w', revisions := w'.templateLabels :: s.revisions } := by
  have hold : Selects w'.templateLabels s.workload.templateLabels := by
    obtain ⟨-, rfl⟩ := change_eq_some_iff.mp hc
    refine (selects_changed_iff _ c).mpr (hadds.resolve_left fun hnone => ?_)
    cases hnone.symm.trans hc
  refine ⟨forall_mem_cons.mpr ⟨Selects.refl _, fun template htemplate => ?_⟩,
    fun pod hpod => ?_⟩
  · exact hold.trans (h.revisions template htemplate)
  · exact hold.trans (h.pods pod hpod)

/-- **The run lemma**: pods may come from any revision and go. -/
theorem Rollout.Nested.run {actions : List RolloutAction} {changes : List TemplateChange}
    (h : s.Nested)
    (hadds : Guarded (Workload.change selector) (Workload.AddsNone selector) s.workload changes)
    (hactions : changesOf actions <+: changes)
    (hrun : run (Rollout.step selector) s actions = some s') : s'.Nested := by
  induction actions generalizing s changes with
  | nil =>
    cases hrun
    exact h
  | cons a actions ih =>
    obtain ⟨s₁, hs₁, hrest⟩ := bind_eq_some_iff.mp hrun
    cases a with
    | change c =>
      obtain ⟨w', hw', rfl⟩ := map_eq_some_iff.mp hs₁
      obtain ⟨later, rfl⟩ := hactions
      obtain ⟨hc, hlater⟩ := guarded_cons.mp hadds
      exact ih (h.change hc hw') (hlater w' hw') (prefix_append _ _) hrest
    | createPod revision labels =>
      obtain ⟨template, htemplate, hs₁⟩ := bind_eq_some_iff.mp hs₁
      split at hs₁
      · rename_i hlabels
        cases hs₁
        have hpod := (h.revisions template (mem_of_getElem? htemplate)).trans hlabels
        have hnested : Rollout.Nested { s with pods := labels :: s.pods } :=
          ⟨h.revisions, forall_mem_cons.mpr ⟨hpod, h.pods⟩⟩
        exact ih hnested hadds hactions hrest
      · cases hs₁
    | deletePod pod =>
      cases hs₁
      have hnested : Rollout.Nested { s with pods := s.pods.eraseIdx pod } :=
        ⟨h.revisions, fun pod' hpod => h.pods pod' (mem_of_mem_eraseIdx hpod)⟩
      exact ih hnested hadds hactions hrest

/-- **All pods are selected**: every live pod that the workload's own selector matches has the
labels of the current template. -/
def Rollout.Covered (selector : StringMap → Bool) (s : Rollout) : Prop :=
  ∀ pod ∈ s.pods, selector pod = true → Selects s.workload.templateLabels pod

/-- **A pod of the current template** that runs while a change is made is left out if the change
adds a label. -/
theorem guarded_of_forall_covered {changes : List TemplateChange}
    (hsel : selector s.workload.templateLabels = true)
    (hcurrent : s.revisions.head? = some s.workload.templateLabels)
    (hall : ∀ actions s', changesOf actions <+: changes →
      run (Rollout.step selector) s actions = some s' → s'.Covered selector) :
    Guarded (Workload.change selector) (Workload.AddsNone selector) s.workload changes := by
  induction changes generalizing s with
  | nil => trivial
  | cons c changes ih =>
    refine guarded_cons.mpr ⟨?_, fun w' hw' => ?_⟩
    · cases hw' : s.workload.change selector c with
      | none => exact .inl hw'
      | some w' =>
        have hpod : s.step selector (.createPod 0 s.workload.templateLabels) =
            some { s with pods := s.workload.templateLabels :: s.pods } := by
          rw [Rollout.step, ← head?_eq_getElem?, hcurrent, bind_some,
            if_pos (Selects.refl _)]
        have hchange := step_change
          (s := { s with pods := s.workload.templateLabels :: s.pods }) hw'
        have hcovered := hall [.createPod 0 s.workload.templateLabels, .change c] _
          (prefix_append [c] changes)
          ((run_cons_of_step hpod _).trans (run_cons_of_step hchange []))
        obtain ⟨-, rfl⟩ := change_eq_some_iff.mp hw'
        exact .inr ((selects_changed_iff _ c).mp (hcovered _ mem_cons_self hsel))
    · refine ih (s := { s with workload := w', revisions := w'.templateLabels :: s.revisions })
        (change_eq_some_iff.mp hw').1 rfl fun actions s' hactions hrun => ?_
      refine hall (.change c :: actions) s' ?_ ?_
      · exact cons_prefix_cons.mpr ⟨rfl, hactions⟩
      · rw [run_cons_of_step (step_change hw'), hrun]

/-- **What the controller writes**: the policy for a card whose target is a Deployment or a
StatefulSet selects by the labels of the template. -/
theorem written_of_template {r : NetworkPolicyReconciler} {st : PolicyState}
    {key : NamespacedName} {card : AgentCard} {ref : TargetRef} {k : WorkloadKey}
    (hcard : st.cards.lookup key = some card) (href : card.targetRef = some ref)
    (hk : podTemplateKey ref.kind ⟨key.ns, ref.name⟩ = some k)
    (hw : st.workloads.lookup k = some w) :
    r.written st key = some (⟨key.ns, policyName ref.name⟩,
      r.policySpec card.status.verified w.templateLabels) := by
  have hlabels : getPodTemplateLabels st.workloads key.ns ref = some w.templateLabels := by
    rw [getPodTemplateLabels, hk]
    dsimp only
    rw [hw, map_some]
  rw [written_eq hcard, resolveWorkload_none, href, bind_some, hlabels]
  rfl

/-- **Every pod of a workload is selected**, at every moment, by the policy that the controller
writes for the current template, whatever the verdict and whatever pods of any revisions come and
go, just if no change of the template adds a label. -/
theorem covered_iff (r : NetworkPolicyReconciler) (selector : StringMap → Bool) (w : Workload)
    (hsel : selector w.templateLabels = true) (changes : List TemplateChange) :
    (∀ actions s, changesOf actions <+: changes →
        run (Rollout.step selector) (Rollout.start w) actions = some s →
        ∀ verified, ∀ pod ∈ s.pods, selector pod = true →
          Selects (r.policySpec verified s.workload.templateLabels).podSelector pod) ↔
      Guarded (Workload.change selector) (Workload.AddsNone selector) w changes := by
  simp only [podSelector_policySpec]
  constructor
  · intro hall
    exact guarded_of_forall_covered (s := Rollout.start w) hsel rfl
      fun actions s hactions hrun => hall actions s hactions hrun true
  · intro hadds actions s hactions hrun _ pod hpod _
    have hstart : (Rollout.start w).Nested :=
      ⟨forall_mem_singleton.mpr (Selects.refl _), fun pod hpod => absurd hpod not_mem_nil⟩
    exact (hstart.run hadds hactions hrun).pods pod hpod

/-- The labels of a Deployment's template, and its selector. -/
def weatherLabels : StringMap := (∅ : StringMap).insert "app" "weather"

/-- The selector of a Deployment. -/
def weatherSelector (labels : StringMap) : Bool := labels.lookup "app" = some "weather"

/-- A network policy controller. -/
def rolloutReconciler : NetworkPolicyReconciler where
  operatorNamespace := "rossoctl-system"
  clusterDefaultsNamespace := "rossoctl-system"

/-- A verdict is taken back and a label is dropped, while pods of all three templates run. -/
theorem covered_withdrawn :
    let w : Workload :=
      { templateLabels := (weatherLabels.insert "version" "v1").insert labelSignatureVerified "true"
        annotations := (∅ : StringMap).insert (perCardAnno "card") "true" }
    let changes : List TemplateChange := [.operate (.propagate "card" false), .edit weatherLabels]
    (run (Workload.change weatherSelector) w changes).isSome = true ∧
      ∀ actions s, changesOf actions <+: changes →
        run (Rollout.step weatherSelector) (Rollout.start w) actions = some s →
        ∀ verified, ∀ pod ∈ s.pods, weatherSelector pod = true →
          Selects (rolloutReconciler.policySpec verified s.workload.templateLabels).podSelector
            pod :=
  ⟨by decide +kernel, (covered_iff rolloutReconciler weatherSelector _ (by decide +kernel) _).mpr
    (by decide +kernel)⟩

/-- **A pod that escapes**: the workload is not verified, and someone adds a label to its template.
The restrictive policy for the new template does not select the pod that is running. -/
theorem escaped_pod :
    (run (Rollout.step weatherSelector) (Rollout.start { templateLabels := weatherLabels })
      [.createPod 0 weatherLabels, .change (.edit (weatherLabels.insert "version" "v2"))]).any
      (fun s => s.pods.any fun pod => weatherSelector pod &&
        !decide (Selects (rolloutReconciler.policySpec false
          s.workload.templateLabels).podSelector pod)) =
      true := by
  decide +kernel

end Rossoctl.Cards
