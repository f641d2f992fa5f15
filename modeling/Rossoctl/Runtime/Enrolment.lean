import Rossoctl.Runtime.Machine

/-!
# Enrolment and its end

`applyWorkloadConfig` enrols a workload by labels and annotations of its own, and
`handleDeletion` is to return it to the state before. Two statements about that.

For one workload, `Rossoctl.Runtime.reversible_iff`: the clean-up after any number of
applies deletes the keys of the controller and no others, so the workload is as it was if
and only if it had none of these keys. It remembers no earlier value: a workload that its
owner labels as managed by another tool loses the label (`Rossoctl.Runtime.label_lost`).

For all workloads, `Rossoctl.Runtime.orphans_iff`: the clean-up is only for the target that
a deleted runtime has at the end, so a workload stays enrolled for ever when its runtime is
given another target (`Rossoctl.Runtime.orphaned`).
-/

namespace Rossoctl.Runtime

open Kube Webhook List AList

/-! ### One workload -/

namespace WorkloadObject

/-- The labels of the controller on a workload. -/
def ownLabels : List String := [rossoctlTypeLabel, labelManagedBy]

/-- Its labels on a template. -/
def ownPodLabels : List String := [rossoctlTypeLabel]

/-- Its annotations on a template. -/
def ownPodAnnotations : List String := [annotationConfigHash, annotationMTLSMode]

/-- **Only keys of the controller differ.** -/
structure OwnKeysOnly (obj obj' : WorkloadObject) : Prop where
  labels : GoMap.AgreeOff ownLabels obj.labels obj'.labels
  podLabels : GoMap.AgreeOff ownPodLabels obj.podLabels obj'.podLabels
  podAnnotations : GoMap.AgreeOff ownPodAnnotations obj.podAnnotations obj'.podAnnotations
  annotations : GoMap.AgreeOff [annotationRestartPending] obj.annotations obj'.annotations

theorem OwnKeysOnly.refl (obj : WorkloadObject) : OwnKeysOnly obj obj :=
  ⟨.refl _ _, .refl _ _, .refl _ _, .refl _ _⟩

variable {obj : WorkloadObject} {key : WorkloadKey} {name : NamespacedName}
  {r : AgentRuntimeReconciler}

variable {obj obj' : WorkloadObject}

theorem OwnKeysOnly.stamp (h : OwnKeysOnly obj obj') (rt : AgentRuntimeResource)
    (configHash : String) :
    OwnKeysOnly obj (stamp rt configHash obj') where
  labels := (h.labels.insert (by decide) _).insert (by decide) _
  podLabels := h.podLabels.insert (by decide) _
  podAnnotations := (h.podAnnotations.insert (by decide) _).insert (by decide) _
  annotations := h.annotations

theorem OwnKeysOnly.begin (h : OwnKeysOnly obj obj') :
    OwnKeysOnly obj (obj'.accept (beginRestart obj')) where
  labels := h.labels
  podLabels := h.podLabels
  podAnnotations := h.podAnnotations
  annotations := h.annotations.insert (by decide) _

theorem OwnKeysOnly.clean (h : OwnKeysOnly obj obj') :
    OwnKeysOnly obj (obj'.accept (cleaned obj')) where
  labels := (h.labels.erase (by decide)).erase (by decide)
  podLabels := h.podLabels.erase (by decide)
  podAnnotations := (h.podAnnotations.erase (by decide)).erase (by decide)
  annotations := h.annotations

/-- **The workload is as it was**, as far as the controller labels and annotates it. -/
structure Restored (obj obj' : WorkloadObject) : Prop where
  labels : ∀ key, obj'.labels.lookup key = obj.labels.lookup key
  podLabels : ∀ key, obj'.podLabels.lookup key = obj.podLabels.lookup key
  podAnnotations : ∀ key, obj'.podAnnotations.lookup key = obj.podAnnotations.lookup key

/-- **The workload has no key of the controller.** -/
structure Unclaimed (obj : WorkloadObject) : Prop where
  labels : ∀ key ∈ ownLabels, obj.labels.lookup key = none
  podLabels : ∀ key ∈ ownPodLabels, obj.podLabels.lookup key = none
  podAnnotations : ∀ key ∈ ownPodAnnotations, obj.podAnnotations.lookup key = none

theorem unclaimed_cleaned (obj : WorkloadObject) : (obj.accept (cleaned obj)).Unclaimed := by
  have hpair : ∀ (m : StringMap) (a b : String), a ≠ b →
      ∀ key ∈ [a, b], ((m.erase a).erase b).lookup key = none := by
    intro m a b hab key hkey
    rcases mem_pair.mp hkey with rfl | rfl
    · rw [lookup_erase_ne hab, lookup_erase]
    · rw [lookup_erase]
  refine ⟨hpair _ _ _ (by decide), fun key hkey => ?_, hpair _ _ _ (by decide)⟩
  obtain rfl := mem_singleton.mp hkey
  exact lookup_erase _ _

/-- A workload without keys of the controller, from one that differs only in those. -/
theorem restored_iff_unclaimed (h : OwnKeysOnly obj obj') (h' : obj'.Unclaimed) :
    Restored obj obj' ↔ obj.Unclaimed := by
  have hmap : ∀ {m m' : StringMap} {ks : List String}, GoMap.AgreeOff ks m m' →
      (∀ key ∈ ks, m'.lookup key = none) → (∀ key ∈ ks, m.lookup key = none) →
      ∀ key, m'.lookup key = m.lookup key := by
    intro m m' ks hoff hnone' hnone key
    by_cases hkey : key ∈ ks
    · rw [hnone' key hkey, hnone key hkey]
    · exact hoff key hkey
  constructor
  · intro hr
    exact ⟨fun key hkey => (hr.labels key).symm.trans (h'.labels key hkey),
      fun key hkey => (hr.podLabels key).symm.trans (h'.podLabels key hkey),
      fun key hkey => (hr.podAnnotations key).symm.trans (h'.podAnnotations key hkey)⟩
  · intro hu
    exact ⟨hmap h.labels h'.labels hu.labels, hmap h.podLabels h'.podLabels hu.podLabels,
      hmap h.podAnnotations h'.podAnnotations hu.podAnnotations⟩

end WorkloadObject

open WorkloadObject

/-- A call of `applyWorkloadConfig`, with the requests that fail. -/
structure ApplyCall where
  rt : AgentRuntimeResource
  configHash : String
  faults : Faults := []

/-- Calls one after the other, whatever they return. -/
def applyAll (ns : String) : Cluster → List ApplyCall → Cluster
  | cl, [] => cl
  | cl, call :: calls =>
    applyAll ns (Calls.exec Cluster.serve Response.Transient call.faults cl
      (applyWorkloadConfig call.rt ns call.configHash)).1 calls

/-- One call changes only keys of the controller, and only on its target. -/
theorem Applied.ownKeysOnly {rt : AgentRuntimeResource} {ns configHash : String}
    {cl cl' : Cluster} {x : Except ApiError Unit} (h : Applied rt ns configHash cl cl' x)
    (hkey : targetOf rt ns = some key) {obj₁ : WorkloadObject}
    (hobj : cl.workloads.lookup key = some obj₁) (hown : OwnKeysOnly obj obj₁) :
    (∃ obj', cl'.workloads.lookup key = some obj' ∧ OwnKeysOnly obj obj') ∧
      ∀ key', key' ≠ key → cl'.workloads.lookup key' = cl.workloads.lookup key' := by
  have hput : ∀ {o : WorkloadObject}, OwnKeysOnly obj o →
      (∃ obj', (cl.putWorkload key o).workloads.lookup key = some obj' ∧ OwnKeysOnly obj obj') ∧
        ∀ key', key' ≠ key →
          (cl.putWorkload key o).workloads.lookup key' = cl.workloads.lookup key' := by
    intro o ho
    refine ⟨⟨o, lookup_putWorkload_self _ _ _, ho⟩, fun key' hne => ?_⟩
    rw [lookup_putWorkload, if_neg hne]
  cases h with
  | failed => exact ⟨⟨obj₁, hobj, hown⟩, fun _ _ => rfl⟩
  | already => exact ⟨⟨obj₁, hobj, hown⟩, fun _ _ => rfl⟩
  | stamped hkey' hobj' =>
    cases hkey.symm.trans hkey'
    cases hobj.symm.trans hobj'
    exact hput (hown.stamp rt configHash)
  | marked hkey' hobj' =>
    cases hkey.symm.trans hkey'
    cases hobj.symm.trans hobj'
    exact hput (hown.stamp rt configHash).begin

theorem applyAll_ownKeysOnly {ns : String} (calls : List ApplyCall)
    (hcalls : ∀ call ∈ calls, targetOf call.rt ns = some key) {cl : Cluster}
    {obj₁ : WorkloadObject} (hobj : cl.workloads.lookup key = some obj₁)
    (hown : OwnKeysOnly obj obj₁) :
    (∃ obj', (applyAll ns cl calls).workloads.lookup key = some obj' ∧ OwnKeysOnly obj obj') ∧
      ∀ key', key' ≠ key →
        (applyAll ns cl calls).workloads.lookup key' = cl.workloads.lookup key' := by
  induction calls generalizing cl obj₁ with
  | nil => exact ⟨⟨obj₁, hobj, hown⟩, fun _ _ => rfl⟩
  | cons call calls ih =>
    have hx := (ensures_applyWorkloadConfig call.rt ns call.configHash cl).exec call.faults
    obtain ⟨⟨obj₂, hobj₂, hown₂⟩, hothers⟩ :=
      hx.ownKeysOnly (hcalls call mem_cons_self) hobj hown
    obtain ⟨hobj', hothers'⟩ :=
      ih (fun c hc => hcalls c (mem_cons_of_mem call hc)) hobj₂ hown₂
    exact ⟨hobj', fun key' hne => (hothers' key' hne).trans (hothers key' hne)⟩

theorem Deleted.lookup_of_ok {rt : AgentRuntime} {cl cl' : Cluster}
    (h : Deleted name rt cl cl' (.ok ())) (hfin : agentRuntimeFinalizer ∈ rt.finalizers)
    (hkey : rt.target name.ns = some key) (hobj : cl.workloads.lookup key = some obj) :
    cl'.workloads.lookup key = some (obj.accept (Runtime.cleaned obj)) := by
  cases h with
  | foreign hno => exact absurd hfin hno
  | unsupported hno => exact absurd (hno.symm.trans hkey) (by simp)
  | cleaned hkey' hclean hx =>
    cases hkey.symm.trans hkey'
    rw [hx.workloads]
    cases hclean with
    | missing hno => exact absurd (hno.symm.trans hobj) (by simp)
    | done hobj' =>
      cases hobj.symm.trans hobj'
      exact lookup_putWorkload_self _ _ _

/-- **Enrolment and its end.** After any calls for one workload – of any supported kind, with
any labels and annotations – a deletion that succeeds restores it exactly if it had none of
the keys of the controller before. In between only these keys have changed, and only on this
workload. -/
theorem reversible_iff {cl : Cluster} {name : NamespacedName} {key : WorkloadKey}
    {obj : WorkloadObject} (hobj : cl.workloads.lookup key = some obj) (calls : List ApplyCall)
    (hcalls : ∀ call ∈ calls, targetOf call.rt name.ns = some key) {rt : AgentRuntime}
    (hkey : rt.target name.ns = some key) (hfin : agentRuntimeFinalizer ∈ rt.finalizers)
    (faults : Faults)
    (hdone : (Calls.exec Cluster.serve Response.Transient faults (applyAll name.ns cl calls)
      (handleDeletion name rt)).2 = .ok ()) :
    (∃ obj', (Calls.exec Cluster.serve Response.Transient faults (applyAll name.ns cl calls)
        (handleDeletion name rt)).1.workloads.lookup key = some obj' ∧
      (Restored obj obj' ↔ obj.Unclaimed)) ∧
    (∃ obj₁, (applyAll name.ns cl calls).workloads.lookup key = some obj₁ ∧ OwnKeysOnly obj obj₁) ∧
    ∀ key', key' ≠ key →
      (applyAll name.ns cl calls).workloads.lookup key' = cl.workloads.lookup key' := by
  obtain ⟨⟨obj₁, hobj₁, hown⟩, hothers⟩ := applyAll_ownKeysOnly calls hcalls hobj (.refl obj)
  have hx := (ensures_handleDeletion name rt (applyAll name.ns cl calls)).exec faults
  rw [hdone] at hx
  refine ⟨⟨_, hx.lookup_of_ok hfin hkey hobj₁, ?_⟩, ⟨obj₁, hobj₁, hown⟩, hothers⟩
  exact restored_iff_unclaimed hown.clean (unclaimed_cleaned obj₁)

/-! ### A label that is lost -/

def exampleDeployment : WorkloadKey := ⟨.deployment, "team", "weather"⟩

def deploymentRuntimeName : NamespacedName := ⟨"team", "weather-runtime"⟩

def deploymentRuntime (target : String) : AgentRuntimeResource where
  targetName := target
  targetKind := "Deployment"
  name := "weather-runtime"
  type := "agent"

/-- A runtime that is being deleted. -/
def leavingRuntime : AgentRuntime where
  toAgentRuntimeResource := deploymentRuntime "weather"
  targetAPIVersion := "apps/v1"
  finalizers := [agentRuntimeFinalizer]
  deleting := true

/-- A Deployment with one label, and its runtime. -/
def labelledCluster (key value : String) : Cluster where
  workloads := (∅ : GoMap WorkloadKey WorkloadObject).insert exampleDeployment
    { labels := (∅ : StringMap).insert key value }
  runtimes := (∅ : GoMap NamespacedName AgentRuntime).insert deploymentRuntimeName leavingRuntime

def oneCall : List ApplyCall := [⟨deploymentRuntime "weather", "hash-of-configuration", []⟩]

/-- The cluster after a call and the deletion, and what the deletion returns. -/
def afterDeletion (key value : String) : Cluster × Except ApiError Unit :=
  Calls.exec Cluster.serve Response.Transient []
    (applyAll "team" (labelledCluster key value) oneCall)
    (handleDeletion deploymentRuntimeName leavingRuntime)

/-- A label of the owner's survives. -/
theorem reversible_app :
    ∃ obj', (afterDeletion "app" "weather").1.workloads.lookup exampleDeployment = some obj' ∧
      Restored { labels := (∅ : StringMap).insert "app" "weather" } obj' := by
  have hcalls : ∀ call ∈ oneCall, targetOf call.rt "team" = some exampleDeployment := by
    intro call hcall
    obtain rfl := mem_singleton.mp hcall
    decide
  obtain ⟨⟨obj', hobj', hiff⟩, -⟩ := @reversible_iff (labelledCluster "app" "weather")
    deploymentRuntimeName exampleDeployment { labels := (∅ : StringMap).insert "app" "weather" }
    rfl oneCall hcalls leavingRuntime (by decide) (by decide) [] (by decide +kernel)
  exact ⟨obj', hobj', hiff.mpr ⟨by decide, by decide, by decide⟩⟩

/-- **A label that is lost**: the owner's tool manages the Deployment, a runtime comes and
goes, and the label that says so is gone. -/
theorem label_lost : (afterDeletion labelManagedBy "Helm").2 = .ok () ∧
    ∃ obj', (afterDeletion labelManagedBy "Helm").1.workloads.lookup exampleDeployment = some obj' ∧
      ¬Restored { labels := (∅ : StringMap).insert labelManagedBy "Helm" } obj' := by
  have hafter : (((afterDeletion labelManagedBy "Helm").1.workloads.lookup exampleDeployment).any
      fun obj' => obj'.labels.lookup labelManagedBy == none) = true := by decide +kernel
  obtain ⟨obj', hobj', hnone⟩ := (Option.any_eq_true _ _).mp hafter
  refine ⟨by decide +kernel, obj', hobj', fun hr => ?_⟩
  have hkept := hr.labels labelManagedBy
  rw [lookup_insert] at hkept
  exact absurd (hkept.symm.trans (eq_of_beq hnone)) (by simp)

/-! ### All workloads -/

/-- **The workload is enrolled**: managed by the operator, with a type and a hash. -/
def WorkloadObject.Enrolled (obj : WorkloadObject) : Prop :=
  valueOf obj.labels labelManagedBy = labelManagedByValue ∧
    (obj.labels.lookup rossoctlTypeLabel).isSome = true ∧
    (obj.podAnnotations.lookup annotationConfigHash).isSome = true

instance (obj : WorkloadObject) : Decidable obj.Enrolled :=
  inferInstanceAs (Decidable (_ ∧ _ ∧ _))

/-- **No workload is enrolled that no runtime targets.** -/
def Cluster.NoOrphans (cl : Cluster) : Prop :=
  ∀ key obj, cl.workloads.lookup key = some obj → obj.Enrolled → ∃ name, cl.Targets name key

theorem not_enrolled_cleaned (obj : WorkloadObject) : ¬(obj.accept (cleaned obj)).Enrolled := by
  rintro ⟨-, htype, -⟩
  rw [(unclaimed_cleaned obj).labels rossoctlTypeLabel (by decide)] at htype
  cases htype

section Reconcile

variable {r : AgentRuntimeReconciler} {env : Surroundings} {name : NamespacedName}
  {cl cl' : Cluster} {e : Ending}

/-- **A runtime stays, with its target, or its workload is cleaned up.** -/
theorem Reconciled.targets (h : Reconciled r env name cl cl' e) (ht : cl.Targets name key) :
    cl'.Targets name key ∨ ∀ obj, cl'.workloads.lookup key = some obj → ¬obj.Enrolled := by
  obtain ⟨rt, hrt, hkey⟩ := ht
  cases h with
  | unread => exact .inl ⟨rt, hrt, hkey⟩
  | finalizer hrt' hdeleting _ hx =>
    cases hrt.symm.trans hrt'
    rcases hx with rfl | rfl
    · exact .inl ⟨rt, hrt, hkey⟩
    · exact .inl ⟨_, lookup_putRuntime_self hdeleting, hkey⟩
  | targetNotFound => exact .inl ⟨rt, hrt, hkey⟩
  | stopped => exact .inl ⟨rt, hrt, hkey⟩
  | restarted _ _ hx =>
    cases hx with
    | failed => exact .inl ⟨rt, hrt, hkey⟩
    | done => exact .inl ⟨rt, hrt, hkey⟩
  | applied hrt' hdeleting hfin _ hcard hx hend =>
    cases hrt.symm.trans hrt'
    obtain ⟨rt₁, hrt₁, hdel₁, hres₁⟩ := hcard.lookup hrt hdeleting
    obtain ⟨rt', hrt', hres'⟩ := hend.lookup (hx.runtimes ▸ hrt₁) hdel₁
    refine .inl ⟨rt', hrt', ?_⟩
    rw [AgentRuntime.target, hres'.trans hres₁]
    exact hkey
  | deletion hrt' _ hx =>
    cases hrt.symm.trans hrt'
    cases hx with
    | foreign => exact .inl ⟨rt, hrt, hkey⟩
    | unsupported hno => exact absurd (hno.symm.trans hkey) (by simp)
    | failed _ hx => exact .inl ⟨rt, hx.runtimes ▸ hrt, hkey⟩
    | cleaned hkey' hclean hx =>
      cases hkey.symm.trans hkey'
      refine .inr fun obj hobj => ?_
      rw [hx.workloads] at hobj
      cases hclean with
      | missing hno => exact absurd (hno.symm.trans hobj) (by simp)
      | @done obj₀ hobj₀ =>
        rw [lookup_putWorkload_self] at hobj
        cases hobj
        exact not_enrolled_cleaned obj₀

/-- **A reconcile leaves no orphan.** -/
theorem Reconciled.noOrphans (h : Reconciled r env name cl cl' e) (hno : cl.NoOrphans) :
    cl'.NoOrphans := by
  intro key obj hobj henr
  by_cases ht : cl.Targets name key
  · rcases h.targets ht with ht' | hclean
    · exact ⟨name, ht'⟩
    · exact absurd henr (hclean obj hobj)
  · rw [h.workloads_of_ne ht] at hobj
    obtain ⟨name', rt, hrt, hkey⟩ := hno key obj hobj henr
    have hne : name' ≠ name := by
      rintro rfl
      exact ht ⟨rt, hrt, hkey⟩
    exact ⟨name', rt, (h.runtimes_of_ne hne).trans hrt, hkey⟩

end Reconcile

/-- No workload is enrolled for the sake of this runtime alone. -/
def Cluster.Spare (cl : Cluster) (name : NamespacedName) : Prop :=
  ∀ key obj, cl.Targets name key → cl.workloads.lookup key = some obj → obj.Enrolled →
    ∃ name', name' ≠ name ∧ cl.Targets name' key

/-- **What an owner may do** for no workload to stay behind: a runtime is given another
target, or deleted before it has a finalizer, only if no workload is enrolled for its sake
alone. A reconcile is one step: an edit that comes in the middle of one counts as coming after
it. -/
def LeavesNothing (w : World) : Action → Prop
  | .edit name spec _ => ∀ rt, w.cluster.runtimes.lookup name = some rt →
      targetOf spec name.ns = rt.target name.ns ∨ w.cluster.Spare name
  | .delete name => ∀ rt, w.cluster.runtimes.lookup name = some rt →
      rt.finalizers ≠ [] ∨ w.cluster.Spare name
  | _ => True

/-- The server keeps no object that is to go. -/
def Cluster.Tidy (cl : Cluster) : Prop :=
  ∀ name rt, cl.runtimes.lookup name = some rt → (rt.deleting && rt.finalizers.isEmpty) = false

variable {cl : Cluster} {w w' : World} {a : Action}

theorem Cluster.Tidy.put (h : cl.Tidy) (name : NamespacedName)
    (rt : AgentRuntime) : (cl.putRuntime name rt).Tidy := by
  intro name' rt' hrt'
  rw [lookup_putRuntime] at hrt'
  split at hrt'
  · obtain rfl := eq_of_retained hrt'
    rw [retained] at hrt'
    split at hrt'
    · cases hrt'
    · rename_i hkeep
      exact Bool.eq_false_iff.mpr hkeep
  · exact h name' rt' hrt'

theorem Cluster.Tidy.congr {cl cl' : Cluster} (h : cl.Tidy) (heq : cl'.runtimes = cl.runtimes) :
    cl'.Tidy := by
  intro name rt hrt
  rw [heq] at hrt
  exact h name rt hrt

theorem Reconciled.tidy {env : Surroundings} {cl cl' : Cluster} {e : Ending}
    (h : Reconciled r env name cl cl' e) (htidy : cl.Tidy) : cl'.Tidy := by
  have hrewrites := h.rewrites
  clear h
  induction hrewrites with
  | same heq => exact htidy.congr heq
  | put _ _ _ _ heq ih => exact (ih.put _ _).congr heq

theorem tidy_step (h : World.step r w a = some w') (htidy : w.cluster.Tidy) : w'.cluster.Tidy := by
  cases a with
  | create n spec apiVersion =>
    rw [World.step] at h
    split at h
    · cases h
      exact htidy.put _ _
    · cases h
  | edit n spec apiVersion =>
    obtain ⟨old, _, rfl⟩ := Option.map_eq_some_iff.mp h
    exact htidy.put _ _
  | delete n =>
    obtain ⟨old, _, rfl⟩ := Option.map_eq_some_iff.mp h
    exact htidy.put _ _
  | reconcile n env faults =>
    cases h
    exact (reconciled r w n env faults).tidy htidy

/-- **A runtime is replaced, or goes**: nothing is left behind exactly if it keeps its target
or no workload is enrolled for its sake alone. -/
theorem noOrphans_put_iff {rt new : AgentRuntime} (hno : cl.NoOrphans)
    (hrt : cl.runtimes.lookup name = some rt) :
    (cl.putRuntime name new).NoOrphans ↔ (cl.putRuntime name new).runtimes.lookup name = some new ∧
        new.target name.ns = rt.target name.ns ∨ cl.Spare name := by
  have hothers : ∀ {name' : NamespacedName} {key : WorkloadKey}, name' ≠ name →
      ((cl.putRuntime name new).Targets name' key ↔ cl.Targets name' key) := by
    intro name' key hne
    rw [Cluster.Targets, lookup_putRuntime, if_neg hne, Cluster.Targets]
  constructor
  · intro hno'
    by_cases hsame : (cl.putRuntime name new).runtimes.lookup name = some new ∧
        new.target name.ns = rt.target name.ns
    · exact .inl hsame
    · refine .inr fun key obj ht hobj henr => ?_
      obtain ⟨rt₁, hrt₁, hkey⟩ := ht
      cases hrt.symm.trans hrt₁
      obtain ⟨name', ht'⟩ := hno' key obj hobj henr
      have hne : name' ≠ name := by
        rintro rfl
        obtain ⟨rt', hrt', hkey'⟩ := ht'
        have hnew := hrt'
        rw [lookup_putRuntime, if_pos rfl] at hnew
        obtain rfl := eq_of_retained hnew
        exact hsame ⟨hrt', hkey'.trans hkey.symm⟩
      exact ⟨name', hne, (hothers hne).mp ht'⟩
  · rintro (⟨hlook, htarget⟩ | hspare) key obj hobj henr
    · obtain ⟨name', ht⟩ := hno key obj hobj henr
      by_cases hne : name' = name
      · subst hne
        obtain ⟨rt₁, hrt₁, hkey⟩ := ht
        cases hrt.symm.trans hrt₁
        exact ⟨name', new, hlook, htarget.trans hkey⟩
      · exact ⟨name', (hothers hne).mpr ht⟩
    · obtain ⟨name', ht⟩ := hno key obj hobj henr
      by_cases hne : name' = name
      · subst hne
        obtain ⟨name₁, hne₁, ht₁⟩ := hspare key obj ht hobj henr
        exact ⟨name₁, (hothers hne₁).mpr ht₁⟩
      · exact ⟨name', (hothers hne).mpr ht⟩

/-- **The step**: what an action leaves behind. -/
theorem noOrphans_step_iff (htidy : w.cluster.Tidy)
    (hno : w.cluster.NoOrphans) (h : World.step r w a = some w') :
    w'.cluster.NoOrphans ↔ LeavesNothing w a := by
  cases a with
  | create n spec apiVersion =>
    rw [World.step] at h
    split at h
    · rename_i hnone
      cases h
      refine iff_of_true (fun key obj hobj henr => ?_) trivial
      obtain ⟨name', rt, hrt, hkey⟩ := hno key obj hobj henr
      have hne : name' ≠ n := by
        rintro rfl
        exact absurd (hnone.symm.trans hrt) (by simp)
      refine ⟨name', rt, ?_, hkey⟩
      show (w.cluster.putRuntime n _).runtimes.lookup name' = some rt
      rw [lookup_putRuntime, if_neg hne, hrt]
    · cases h
  | edit n spec apiVersion =>
    obtain ⟨old, hold, rfl⟩ := Option.map_eq_some_iff.mp h
    have hkept : (w.cluster.putRuntime n
        { old with toAgentRuntimeResource := spec, targetAPIVersion := apiVersion }).runtimes.lookup
          n = some { old with toAgentRuntimeResource := spec, targetAPIVersion := apiVersion } := by
      rw [lookup_putRuntime, if_pos rfl, retained, htidy n old hold, if_neg Bool.false_ne_true]
    refine (noOrphans_put_iff hno hold).trans ⟨fun hcase rt hrt => ?_, fun hall => ?_⟩
    · cases hold.symm.trans hrt
      exact hcase.imp_left And.right
    · exact (hall old hold).imp_left fun htarget => ⟨hkept, htarget⟩
  | delete n =>
    obtain ⟨old, hold, rfl⟩ := Option.map_eq_some_iff.mp h
    refine (noOrphans_put_iff hno hold).trans ⟨fun hcase rt hrt => ?_, fun hall => ?_⟩
    · cases hold.symm.trans hrt
      refine hcase.imp_left fun hkept hnil => ?_
      -- without a finalizer the server drops it at once
      rw [lookup_putRuntime, if_pos rfl, retained] at hkept
      rw [hnil] at hkept
      cases hkept.1
    · refine (hall old hold).imp_left fun hfin => ⟨?_, rfl⟩
      rw [lookup_putRuntime, if_pos rfl, retained]
      rw [isEmpty_eq_false_iff.mpr hfin, Bool.and_false, if_neg Bool.false_ne_true]
  | reconcile n env faults =>
    cases h
    exact iff_of_true ((reconciled r w n env faults).noOrphans hno) trivial

/-- Every runtime has been reconciled to the end since its last change, and none is being
deleted. -/
def World.Quiescent (w : World) : Prop :=
  ∀ name rt, w.cluster.runtimes.lookup name = some rt → rt.deleting = false ∧ name ∈ w.settled

/-- **No orphaned enrolment.** In a run that starts without runtimes and with no workload
enrolled, every state is free of orphans if and only if every edit and every deletion leaves
nothing behind; where then all is reconciled, an enrolled workload is the target of a runtime
that is not being deleted and has been reconciled. -/
theorem orphans_iff (r : AgentRuntimeReconciler) {w : World}
    (hfree : w.cluster.All fun obj => ¬obj.Enrolled) (hnone : w.cluster.runtimes = ∅)
    (as : List Action) :
    (Guarded (World.step r) LeavesNothing w as ↔
        ∀ bs w', bs <+: as → run (World.step r) w bs = some w' → w'.cluster.NoOrphans) ∧
      (Guarded (World.step r) LeavesNothing w as → ∀ w', run (World.step r) w as = some w' →
        w'.Quiescent → ∀ key obj, w'.cluster.workloads.lookup key = some obj → obj.Enrolled →
          ∃ name rt, w'.cluster.runtimes.lookup name = some rt ∧ rt.target name.ns = some key ∧
            rt.deleting = false ∧ name ∈ w'.settled) := by
  have htidy : w.cluster.Tidy := by
    intro name rt hrt
    rw [hnone] at hrt
    cases hrt
  have hno : w.cluster.NoOrphans := fun key obj hobj henr => absurd henr (hfree key obj hobj)
  have hblocked : ∀ w a, World.step r w a = none → LeavesNothing w a := by
    intro w a h
    cases a with
    | create => trivial
    | edit n spec apiVersion =>
      intro rt hrt
      rw [World.step, hrt] at h
      cases h
    | delete n =>
      intro rt hrt
      rw [World.step, hrt] at h
      cases h
    | reconcile => trivial
  have hiff := guarded_iff_forall_isPrefix_of_invariant (J := fun w => w.cluster.Tidy)
    (fun w a w' htidy h => tidy_step h htidy)
    (fun w a w' htidy hno h => noOrphans_step_iff htidy hno h) hblocked htidy hno as
  refine ⟨hiff, fun hguard w' hrun hquiet key obj hobj henr => ?_⟩
  obtain ⟨name, rt, hrt, hkey⟩ := hiff.mp hguard as w' (prefix_refl _) hrun key obj hobj henr
  exact ⟨name, rt, hrt, hkey, hquiet name rt hrt⟩

/-! ### A workload that is left behind -/

/-- Two Deployments that no runtime has touched. -/
def twoDeployments : World where
  cluster :=
    { workloads := ((∅ : GoMap WorkloadKey WorkloadObject).insert exampleDeployment {}).insert
        ⟨.deployment, "team", "climate"⟩ {} }

/-- A reconcile in which all goes well. -/
def reconcileDeployment : Action :=
  .reconcile deploymentRuntimeName { configHash := .ok "hash-of-configuration" } []

/-- One Deployment is enrolled and let go. -/
def deletionRun : List Action :=
  [.create deploymentRuntimeName (deploymentRuntime "weather") "apps/v1", reconcileDeployment,
    reconcileDeployment, .delete deploymentRuntimeName, reconcileDeployment]

/-- One Deployment is enrolled, and its runtime is given the other one. -/
def retargetRun : List Action :=
  [.create deploymentRuntimeName (deploymentRuntime "weather") "apps/v1", reconcileDeployment,
    reconcileDeployment, .edit deploymentRuntimeName (deploymentRuntime "climate") "apps/v1",
    reconcileDeployment]

/-- No runtime is given another target, or deleted before it has a finalizer. -/
def keepsTargets (w : World) : Action → Bool
  | .edit name spec _ => (w.cluster.runtimes.lookup name).all fun rt =>
      decide (targetOf spec name.ns = rt.target name.ns)
  | .delete name => (w.cluster.runtimes.lookup name).all fun rt => !rt.finalizers.isEmpty
  | _ => true

theorem leavesNothing_of_keepsTargets (w : World) (a : Action) (h : keepsTargets w a = true) :
    LeavesNothing w a := by
  cases a with
  | create => trivial
  | edit n spec apiVersion =>
    intro rt hrt
    rw [keepsTargets, hrt, Option.all_some, decide_eq_true_eq] at h
    exact .inl h
  | delete n =>
    intro rt hrt
    rw [keepsTargets, hrt, Option.all_some, Bool.not_eq_true', isEmpty_eq_false_iff] at h
    exact .inl h
  | reconcile => trivial

theorem free_twoDeployments : twoDeployments.cluster.All fun obj => ¬obj.Enrolled := by
  intro key obj hobj
  have hplain : obj = {} := by
    rw [twoDeployments, GoMap.lookup_insert_ite, GoMap.lookup_insert_ite] at hobj
    split at hobj
    · exact (Option.some.inj hobj).symm
    · split at hobj
      · exact (Option.some.inj hobj).symm
      · cases hobj
  rw [hplain]
  decide

/-- A runtime that goes takes the enrolment with it. -/
theorem orphans_deletion :
    ∃ w', run (World.step quietReconciler) twoDeployments deletionRun = some w' ∧
      w'.cluster.NoOrphans := by
  have hguard : Guarded (World.step quietReconciler) LeavesNothing twoDeployments deletionRun :=
    Guarded.mono leavesNothing_of_keepsTargets (by decide +kernel)
  have hrun : (run (World.step quietReconciler) twoDeployments deletionRun).isSome = true := by
    decide +kernel
  obtain ⟨w', hw'⟩ := Option.isSome_iff_exists.mp hrun
  exact ⟨w', hw', (orphans_iff quietReconciler free_twoDeployments rfl deletionRun).1.mp hguard
    deletionRun w' (prefix_refl _) hw'⟩

/-- **A workload that is left behind**: its runtime has another target, all is reconciled,
and it is still enrolled. -/
theorem orphaned : ∃ w', run (World.step quietReconciler) twoDeployments retargetRun = some w' ∧
      w'.Quiescent ∧ ¬w'.cluster.NoOrphans := by
  have hrun : ((run (World.step quietReconciler) twoDeployments retargetRun).any fun w' =>
      (w'.cluster.runtimes.entries.all fun e => !e.2.deleting && decide (e.1 ∈ w'.settled) &&
        decide (e.2.target e.1.ns ≠ some exampleDeployment)) &&
      (w'.cluster.workloads.lookup exampleDeployment).any fun obj => decide obj.Enrolled) =
        true := by decide +kernel
  obtain ⟨w', hw', hfacts⟩ := (Option.any_eq_true _ _).mp hrun
  simp only [Bool.and_eq_true, all_eq_true, Bool.not_eq_true', decide_eq_true_eq] at hfacts
  obtain ⟨hruntimes, hobj⟩ := hfacts
  obtain ⟨obj, hobj, henr⟩ := (Option.any_eq_true _ _).mp hobj
  refine ⟨w', hw', fun name rt hrt => ?_, fun hno => ?_⟩
  · exact (hruntimes ⟨name, rt⟩ (GoMap.mem_entries_iff.mpr hrt)).1
  · obtain ⟨name, rt, hrt, hkey⟩ := hno exampleDeployment obj hobj (of_decide_eq_true henr)
    exact (hruntimes ⟨name, rt⟩ (GoMap.mem_entries_iff.mpr hrt)).2 hkey

/-! ### A workload that no runtime targets -/

/-- The action gives no runtime this target. -/
def Action.Avoids (key : WorkloadKey) : Action → Prop
  | .create name spec _ | .edit name spec _ => targetOf spec name.ns ≠ some key
  | _ => True

/-- No runtime targets the workload. -/
def Cluster.Untargeted (cl : Cluster) (key : WorkloadKey) : Prop :=
  ∀ name, ¬cl.Targets name key

variable {key : WorkloadKey}

theorem Cluster.Untargeted.putRuntime (h : cl.Untargeted key) {name : NamespacedName}
    {rt : AgentRuntime} (hrt : rt.target name.ns ≠ some key) :
    (cl.putRuntime name rt).Untargeted key := by
  rintro n ⟨rt', hrt', hkey⟩
  rw [lookup_putRuntime] at hrt'
  split at hrt'
  · rename_i hn
    subst hn
    obtain rfl := eq_of_retained hrt'
    exact hrt hkey
  · exact h n ⟨rt', hrt', hkey⟩

theorem untargeted_step (h : w.cluster.Untargeted key) (ha : a.Avoids key)
    (hstep : w.step r a = some w') : w'.cluster.Untargeted key ∧
      w'.cluster.workloads.lookup key = w.cluster.workloads.lookup key := by
  cases a with
  | create n spec apiVersion =>
    rw [World.step] at hstep
    split at hstep <;> cases hstep
    exact ⟨h.putRuntime ha, rfl⟩
  | edit n spec apiVersion =>
    obtain ⟨old, -, rfl⟩ := Option.map_eq_some_iff.mp hstep
    exact ⟨h.putRuntime ha, rfl⟩
  | delete n =>
    obtain ⟨old, hold, rfl⟩ := Option.map_eq_some_iff.mp hstep
    exact ⟨h.putRuntime fun hkey => h n ⟨old, hold, hkey⟩, rfl⟩
  | reconcile n env faults =>
    cases hstep
    have hrec := reconciled r w n env faults
    refine ⟨?_, hrec.workloads_of_ne (h n)⟩
    rintro n' ⟨rt', hrt', hkey⟩
    obtain ⟨rt, hrt, hres, -⟩ := hrec.specs hrt'
    exact h n' ⟨rt, hrt, by rwa [AgentRuntime.target, ← hres]⟩

/-- **A workload that no runtime targets is left alone**, whatever is reconciled and
whatever fails. -/
theorem lookup_workload_run (r : AgentRuntimeReconciler) (w w' : World) (key : WorkloadKey)
    (h : w.cluster.Untargeted key) (as : List Action) (havoids : ∀ a ∈ as, a.Avoids key)
    (hrun : run (World.step r) w as = some w') :
    w'.cluster.workloads.lookup key = w.cluster.workloads.lookup key := by
  have hok : Guarded (World.step r) (fun _ a => a.Avoids key) w as :=
    guarded_of_forall_mem (fun a ha _ => havoids a ha) w
  refine (run_invariant (I := fun v => v.cluster.Untargeted key ∧
    v.cluster.workloads.lookup key = w.cluster.workloads.lookup key) ?_ ⟨h, rfl⟩ hok hrun).2
  intro v a v' hv ha hstep
  obtain ⟨hv', heq⟩ := untargeted_step hv.1 ha hstep
  exact ⟨hv', heq.trans hv.2⟩

theorem lookup_climate_deletionRun :
    ∃ w', run (World.step quietReconciler) twoDeployments deletionRun = some w' ∧
      w'.cluster.workloads.lookup ⟨.deployment, "team", "climate"⟩ = some {} := by
  obtain ⟨w', hw'⟩ := Option.isSome_iff_exists.mp (by decide +kernel :
    (run (World.step quietReconciler) twoDeployments deletionRun).isSome = true)
  refine ⟨w', hw', (lookup_workload_run quietReconciler twoDeployments w' _ ?_ deletionRun ?_
    hw').trans (lookup_insert _)⟩
  · rintro n ⟨rt, hrt, -⟩
    cases hrt
  · simp only [deletionRun, reconcileDeployment, forall_mem_cons, Action.Avoids]
    exact ⟨by decide, trivial, trivial, trivial, trivial, by simp⟩

end Rossoctl.Runtime
