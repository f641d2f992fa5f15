import Mathlib.Data.List.Induction
import Rossoctl.Cards.Verdict

/-!
# The states of the cards and the label

`propagateLabelToWorkload` and `cleanupPerCardAnnotation`, call after call on one workload
(`internal/controller/agentcard_controller.go`). A call may return before it writes; what it sends
to the API server is `Rossoctl.Cards.AnnoCall.update`, and a run of calls is
`Rossoctl.Cards.applyAll`.

The workload may be anything at the start: other writers may have put states on it, or a label
with some value. The first call that writes puts the label right, and from then on it stays the
conjunction of the states; each state is that of the last call for its card, a call that has
nothing to say writes nothing, and nothing else is touched (`Rossoctl.Cards.aggregated_run`). A
label with an empty value is the one thing that a call may leave standing: for the shortcut of
`propagateLabelToWorkload` it is as good as none, and then the call writes nothing at all.
-/

namespace Rossoctl.Cards

open Kube List AList

/-! ### Calls -/

/-- A Deployment or a StatefulSet with all its data; `rest` is what no code here looks at. -/
structure Deployed (Rest : Type) extends Workload where
  templateAnnotations : StringMap := ∅
  rest : Rest

/-- A call that has to do with the state of a card. -/
inductive AnnoCall where
  | propagate (cardName : String) (verified : Bool)
  | cleanup (cardName : String)

namespace AnnoCall

/-- The card of a call. -/
def cardName : AnnoCall → String
  | propagate cardName _ => cardName
  | cleanup cardName => cardName

/-- The state that the card is to have. -/
def state : AnnoCall → Option String
  | propagate _ verified => some (desiredState verified)
  | cleanup _ => none

/-- **What a call writes**: the object of its Update, if it gets there. -/
def update (w : Workload) : AnnoCall → Option Workload
  | propagate cardName verified =>
    if w.annotations.lookup (perCardAnno cardName) = some (desiredState verified) ∧ w.labelCorrect
    then none
    else
      some (w.relabel ((w.annotations.insert (perCardAnno cardName) (desiredState verified)).erase
        annotationLastVerifiedState))
  | cleanup cardName =>
    if (w.annotations.lookup (perCardAnno cardName)).isSome then
      some (w.relabel (w.annotations.erase (perCardAnno cardName)))
    else none

variable {Rest : Type}

/-- A call runs, and its Update succeeds. -/
def applyTo (o : Deployed Rest) (call : AnnoCall) : Deployed Rest :=
  match call.update o.toWorkload with
  | none => o
  | some w => { o with toWorkload := w }

variable (o : Deployed Rest) {w w' : Workload}

/-- As one function of the workload, a call is what Reconcile does. -/
theorem toWorkload_applyTo (call : AnnoCall) : (applyTo o call).toWorkload =
      match call with
      | propagate cardName verified => o.toWorkload.propagateLabel cardName verified
      | cleanup cardName => o.toWorkload.cleanupAnno cardName := by
  cases call with
  | propagate cardName verified =>
    dsimp only
    rw [applyTo, update, Workload.propagateLabel]
    by_cases h : o.annotations.lookup (perCardAnno cardName) = some (desiredState verified) ∧
        o.toWorkload.labelCorrect
    · rw [if_pos h, if_pos h]
    · rw [if_neg h, if_neg h]
  | cleanup cardName =>
    dsimp only
    rw [applyTo, update, Workload.cleanupAnno]
    by_cases h : (o.annotations.lookup (perCardAnno cardName)).isSome
    · rw [if_pos h, if_pos h]
    · rw [if_neg h, if_neg h]

variable {call : AnnoCall} {calls : List AnnoCall}

theorem exists_relabel_of_update (h : call.update w = some w') :
    ∃ annotations, w' = w.relabel annotations ∧ ∀ k, k ≠ perCardAnno call.cardName →
        annotations.lookup k = w.annotations.lookup k ∨
          k = annotationLastVerifiedState ∧ annotations.lookup k = none := by
  cases call with
  | propagate cardName verified =>
    rw [update] at h
    split at h
    · cases h
    · refine ⟨_, (Option.some.inj h).symm, fun k hk => ?_⟩
      by_cases hlast : k = annotationLastVerifiedState
      · exact .inr ⟨hlast, hlast ▸ lookup_erase _ _⟩
      · exact .inl ((lookup_erase_ne hlast).trans (lookup_insert_ne hk))
  | cleanup cardName =>
    rw [update] at h
    split at h
    · exact ⟨_, (Option.some.inj h).symm, fun k hk => .inl (lookup_erase_ne hk)⟩
    · cases h

theorem consistent_of_update (h : call.update w = some w') : w'.Consistent := by
  obtain ⟨annotations, rfl, -⟩ := exists_relabel_of_update h
  exact consistent_relabel w annotations

theorem lookup_applyTo (call : AnnoCall) (name : String) :
    (applyTo o call).annotations.lookup (perCardAnno name) =
      if name = call.cardName then call.state else o.annotations.lookup (perCardAnno name) := by
  rw [toWorkload_applyTo]
  cases call with
  | propagate cardName verified => exact lookup_propagateLabel _ cardName verified name
  | cleanup cardName => exact lookup_cleanupAnno _ cardName name

end AnnoCall

/-! ### What stays -/

/-- **Nothing but the states, the label and the old annotation is changed.** -/
structure Deployed.OnlyStates {Rest : Type} (o o' : Deployed Rest) : Prop where
  labels : o'.labels = o.labels
  annotations : ∀ k, hasPrefix k annotationVerifiedStatePrefix = false →
    o'.annotations.lookup k = o.annotations.lookup k ∨
      k = annotationLastVerifiedState ∧ o'.annotations.lookup k = none
  templateLabels : ∀ k, k ≠ labelSignatureVerified →
    o'.templateLabels.lookup k = o.templateLabels.lookup k
  templateAnnotations : o'.templateAnnotations = o.templateAnnotations
  conditions : o'.conditions = o.conditions
  readyReplicas : o'.readyReplicas = o.readyReplicas
  replicas : o'.replicas = o.replicas
  rest : o'.rest = o.rest

variable {Rest : Type} {o o' o'' : Deployed Rest}

theorem Deployed.OnlyStates.refl (o : Deployed Rest) : o.OnlyStates o where
  labels := rfl
  annotations _ _ := .inl rfl
  templateLabels _ _ := rfl
  templateAnnotations := rfl
  conditions := rfl
  readyReplicas := rfl
  replicas := rfl
  rest := rfl

theorem Deployed.OnlyStates.trans (h : o.OnlyStates o') (h' : o'.OnlyStates o'') :
    o.OnlyStates o'' where
  labels := h'.labels.trans h.labels
  annotations k hk := by
    obtain heq | hnone := h'.annotations k hk
    · rw [heq]
      exact h.annotations k hk
    · exact .inr hnone
  templateLabels k hk := (h'.templateLabels k hk).trans (h.templateLabels k hk)
  templateAnnotations := h'.templateAnnotations.trans h.templateAnnotations
  conditions := h'.conditions.trans h.conditions
  readyReplicas := h'.readyReplicas.trans h.readyReplicas
  replicas := h'.replicas.trans h.replicas
  rest := h'.rest.trans h.rest

theorem lookup_relabel_of_ne (w : Workload) (annotations : StringMap) {k : String}
    (hk : k ≠ labelSignatureVerified) :
    (w.relabel annotations).templateLabels.lookup k = w.templateLabels.lookup k := by
  rw [Workload.relabel]
  split
  · exact lookup_insert_ne hk
  · exact lookup_erase_ne hk

/-- **The step lemma** for what stays. -/
theorem AnnoCall.onlyStates_applyTo (o : Deployed Rest) (call : AnnoCall) :
    o.OnlyStates (applyTo o call) := by
  rw [applyTo]
  split
  · exact .refl o
  · rename_i w' hw
    obtain ⟨annotations, rfl, hlookup⟩ := exists_relabel_of_update hw
    refine ⟨rfl, fun k hk => hlookup k ?_, fun k hk => lookup_relabel_of_ne _ _ hk, rfl, rfl, rfl,
      rfl, rfl⟩
    rintro rfl
    exact Bool.false_ne_true (hk.symm.trans (hasPrefix_append _ call.cardName))

/-! ### Runs -/

/-- The calls run one after the other. -/
def applyAll (o : Deployed Rest) (calls : List AnnoCall) : Deployed Rest :=
  calls.foldl AnnoCall.applyTo o

theorem applyAll_concat (o : Deployed Rest) (calls : List AnnoCall) (call : AnnoCall) :
    applyAll o (calls ++ [call]) = call.applyTo (applyAll o calls) := by
  rw [applyAll, foldl_append]
  rfl

/-- Some call has written. -/
def Touched (o : Deployed Rest) (calls : List AnnoCall) : Prop :=
  ∃ before call after, calls = before ++ call :: after ∧
    (call.update (applyAll o before).toWorkload).isSome

/-- The last call for a card. -/
def lastCall (calls : List AnnoCall) (cardName : String) : Option AnnoCall :=
  calls.reverse.find? fun call => call.cardName = cardName

/-- **The label as it should be**: `true` if there are states of cards and all are `true`, else
there is none. -/
def Workload.Aggregated (w : Workload) : Prop :=
  let verified := (∃ k v, hasPrefix k annotationVerifiedStatePrefix = true ∧
      w.annotations.lookup k = some v) ∧
    ∀ k v, hasPrefix k annotationVerifiedStatePrefix = true →
      w.annotations.lookup k = some v → v = "true"
  (w.templateLabels.lookup labelSignatureVerified = some "true" ↔ verified) ∧
    (¬ verified → w.templateLabels.lookup labelSignatureVerified = none)

/-- The label is as it should be just if it is the conjunction that the controller computes. -/
theorem aggregated_of_consistent {w : Workload} (h : w.Consistent) : w.Aggregated := by
  have hstates : ((∃ k v, hasPrefix k annotationVerifiedStatePrefix = true ∧
        w.annotations.lookup k = some v) ∧
      ∀ k v, hasPrefix k annotationVerifiedStatePrefix = true →
        w.annotations.lookup k = some v → v = "true") ↔
      aggregateVerifiedState w.annotations = true := by
    rw [aggregateVerifiedState_iff]
    constructor
    · rintro ⟨⟨k, v, hk, hv⟩, hall⟩
      obtain ⟨name, rfl⟩ := hasPrefix_iff.mp hk
      exact ⟨⟨name, v, hv⟩, fun name v => hall _ v (hasPrefix_append _ name)⟩
    · rintro ⟨⟨name, v, hv⟩, hall⟩
      refine ⟨⟨_, v, hasPrefix_append _ name, hv⟩, fun k v hk hv => ?_⟩
      obtain ⟨name, rfl⟩ := hasPrefix_iff.mp hk
      exact hall name v hv
  rw [Workload.Aggregated, hstates, h]
  cases aggregateVerifiedState w.annotations with
  | true => exact ⟨iff_of_true rfl rfl, fun hne => absurd rfl hne⟩
  | false => exact ⟨iff_of_false nofun nofun, fun _ => rfl⟩

theorem labelCorrect_of_consistent {w : Workload} (h : w.Consistent) : w.labelCorrect = true := by
  rw [Workload.labelCorrect, h]
  cases aggregateVerifiedState w.annotations <;> rfl

theorem touched_concat (h : Touched o (calls ++ [call])) :
    Touched o calls ∨ (call.update (applyAll o calls).toWorkload).isSome := by
  obtain ⟨before, call', after, heq, hsome⟩ := h
  rcases eq_nil_or_concat after with rfl | ⟨after, last, rfl⟩
  · obtain ⟨rfl, hcall⟩ := append_inj' heq rfl
    cases hcall
    exact .inr hsome
  · rw [concat_eq_append, ← cons_append, ← append_assoc] at heq
    obtain ⟨rfl, -⟩ := append_inj' heq rfl
    exact .inl ⟨before, call', after, rfl, hsome⟩

/-- **From the first write on** the label is the conjunction. -/
theorem consistent_of_touched (h : Touched o calls) : (applyAll o calls).toWorkload.Consistent := by
  induction calls using List.reverseRecOn with
  | nil =>
    obtain ⟨before, call, after, heq, -⟩ := h
    exact absurd heq (by simp)
  | append_singleton calls call ih =>
    rw [applyAll_concat, AnnoCall.applyTo]
    split
    · rename_i hnone
      obtain h | h := touched_concat h
      · exact ih h
      · rw [hnone] at h
        cases h
    · rename_i hw
      exact AnnoCall.consistent_of_update hw

theorem lastCall_concat (calls : List AnnoCall) (call : AnnoCall) (name : String) :
    lastCall (calls ++ [call]) name = if name = call.cardName then some call
      else lastCall calls name := by
  rw [lastCall, reverse_append, reverse_singleton, singleton_append]
  by_cases h : name = call.cardName
  · rw [if_pos h, find?_cons_of_pos (by simpa using h.symm)]
  · rw [if_neg h, find?_cons_of_neg (by simpa using Ne.symm h), lastCall]

/-- **The state of a card is that of its last call.** -/
theorem lookup_applyAll (o : Deployed Rest) (calls : List AnnoCall) (name : String) :
    (applyAll o calls).annotations.lookup (perCardAnno name) =
      match lastCall calls name with
      | none => o.annotations.lookup (perCardAnno name)
      | some call => call.state := by
  induction calls using List.reverseRecOn with
  | nil => rfl
  | append_singleton calls call ih =>
    rw [applyAll_concat, AnnoCall.lookup_applyTo, lastCall_concat]
    by_cases h : name = call.cardName
    · rw [if_pos h, if_pos h]
    · rw [if_neg h, if_neg h]
      exact ih

theorem onlyStates_applyAll (o : Deployed Rest) (calls : List AnnoCall) :
    o.OnlyStates (applyAll o calls) := by
  induction calls using List.reverseRecOn with
  | nil => exact .refl o
  | append_singleton calls call ih =>
    rw [applyAll_concat]
    exact ih.trans (call.onlyStates_applyTo _)

theorem AnnoCall.labelCorrect_applyTo
    (h : o.labelCorrect = true ∨ ∃ cardName verified, call = .propagate cardName verified) :
    (applyTo o call).labelCorrect = true := by
  rw [applyTo]
  split
  · rename_i hnone
    obtain h | ⟨cardName, verified, rfl⟩ := h
    · exact h
    · -- The shortcut is taken only with a correct label.
      rw [update] at hnone
      split at hnone
      · rename_i hcond
        exact hcond.2
      · cases hnone
  · rename_i hw
    exact labelCorrect_of_consistent (consistent_of_update hw)

theorem labelCorrect_of_lastCall {name cardName : String} {verified : Bool}
    (h : lastCall calls name = some (.propagate cardName verified)) :
    (applyAll o calls).labelCorrect = true := by
  induction calls using List.reverseRecOn with
  | nil => cases h
  | append_singleton calls call ih =>
    rw [applyAll_concat]
    rw [lastCall_concat] at h
    split at h
    · exact AnnoCall.labelCorrect_applyTo (.inr ⟨cardName, verified, Option.some.inj h⟩)
    · exact AnnoCall.labelCorrect_applyTo (.inl (ih h))

/-- **A call that has nothing to say writes nothing.** -/
theorem update_of_lastCall {name : String} (h : lastCall calls name = some call) :
    call.update (applyAll o calls).toWorkload = none := by
  have hname : call.cardName = name := by simpa using find?_some h
  have hstate := lookup_applyAll o calls name
  rw [h] at hstate
  subst hname
  cases call with
  | propagate cardName verified =>
    rw [AnnoCall.update, if_pos ⟨hstate, labelCorrect_of_lastCall h⟩]
  | cleanup cardName =>
    have hnone : (applyAll o calls).annotations.lookup (perCardAnno cardName) = none := hstate
    rw [AnnoCall.update, hnone]
    rfl

/-- **The states and the label, over any run of calls on any workload**: once a call has written,
the label is the conjunction of the states; the state of a card is that of its last call, and the
states of the cards without a call, like everything else, are as they were, up to the old
annotation, which may be gone; and a call like the last one for its card writes nothing. -/
theorem aggregated_run (o : Deployed Rest) (calls : List AnnoCall) :
    (Touched o calls → (applyAll o calls).toWorkload.Aggregated) ∧
      (∀ name, (applyAll o calls).annotations.lookup (perCardAnno name) =
        match lastCall calls name with
        | none => o.annotations.lookup (perCardAnno name)
        | some call => call.state) ∧
      o.OnlyStates (applyAll o calls) ∧
      ∀ name call, lastCall calls name = some call →
        call.update (applyAll o calls).toWorkload = none :=
  ⟨fun h => aggregated_of_consistent (consistent_of_touched h), lookup_applyAll o calls,
    onlyStates_applyAll o calls, fun _ _ h => update_of_lastCall h⟩

end Rossoctl.Cards
