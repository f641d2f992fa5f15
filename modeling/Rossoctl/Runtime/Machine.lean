import Rossoctl.Run
import Rossoctl.Runtime.Outcomes

/-!
# Runs of the AgentRuntime controller

Runtimes are created, edited and deleted, and the controller reconciles them one at a time,
with any requests failing (`Rossoctl.Runtime.World.step`). Kubernetes keeps a deleted
runtime until its last finalizer is gone.

What every step keeps is read off the outcomes of a reconcile: a property that each write
of the controller keeps holds of all workloads (`Rossoctl.Runtime.Reconciled.forall_workloads`),
a reconcile touches only the workload of its own runtime
(`Rossoctl.Runtime.Reconciled.workloads_of_ne`), and no other runtime
(`Rossoctl.Runtime.Reconciled.runtimes_of_ne`). If no request fails, it does not end early
(`Rossoctl.Runtime.yields_reconcile`).
-/

namespace Rossoctl.Runtime

open Kube Webhook Cluster

/-- The cluster, and the runtimes whose last change has been reconciled to the end. -/
structure World where
  cluster : Cluster := {}
  settled : List NamespacedName := []

/-- Requests that fail, one after the other. -/
abbrev Faults := List (Option (Calls.Fault Response.Transient))

/-- What happens to the runtimes. -/
inductive Action where
  | create (name : NamespacedName) (spec : AgentRuntimeResource) (apiVersion : String)
  | edit (name : NamespacedName) (spec : AgentRuntimeResource) (apiVersion : String)
  | delete (name : NamespacedName)
  | reconcile (name : NamespacedName) (env : Surroundings) (faults : Faults)

namespace World

/-- A reconcile, with these faults. -/
def reconcile (r : AgentRuntimeReconciler) (w : World) (name : NamespacedName)
    (env : Surroundings) (faults : Faults) : Cluster × Ending :=
  Calls.exec serve Response.Transient faults w.cluster (r.reconcile env name)

/-- A runtime is changed by its owner. -/
def rewrite (w : World) (name : NamespacedName) (rt : AgentRuntime) : World where
  cluster := w.cluster.putRuntime name rt
  settled := w.settled.filter (· ≠ name)

/-- **One step.** -/
def step (r : AgentRuntimeReconciler) (w : World) : Action → Option World
  | .create name spec apiVersion =>
    match w.cluster.runtimes.lookup name with
    | none => some (w.rewrite name { spec with targetAPIVersion := apiVersion })
    | some _ => none
  | .edit name spec apiVersion =>
    (w.cluster.runtimes.lookup name).map fun old =>
      w.rewrite name { old with toAgentRuntimeResource := spec, targetAPIVersion := apiVersion }
  | .delete name =>
    (w.cluster.runtimes.lookup name).map fun old => w.rewrite name { old with deleting := true }
  | .reconcile name env faults =>
    some
      { cluster := (w.reconcile r name env faults).1
        settled :=
          if (w.reconcile r name env faults).2 = .configured then name :: w.settled
          else w.settled }

end World

/-- The reconciler without card discovery. -/
def quietReconciler : AgentRuntimeReconciler where
  enableCardDiscovery := false

theorem reconciled (r : AgentRuntimeReconciler) (w : World) (name : NamespacedName)
    (env : Surroundings) (faults : Faults) :
    Reconciled r env name w.cluster (w.reconcile r name env faults).1
      (w.reconcile r name env faults).2 :=
  (ensures_reconcile r env name w.cluster).exec faults

section Outcomes

variable {r : AgentRuntimeReconciler} {env : Surroundings} {name : NamespacedName}
  {cl cl' : Cluster} {e : Ending}

/-! ### Which parts change -/

variable {x : Except ApiError Unit} {rt : AgentRuntime} {card : Option CardStatus}
  {I : WorkloadObject → Prop} {key : WorkloadKey}

variable {f : AgentRuntime → AgentRuntime} {key' : WorkloadKey} {cl₁ : Cluster}

theorem Rewritten.workloads (h : Rewritten name f cl cl' x) : cl'.workloads = cl.workloads := by
  cases h <;> rfl

theorem Fetched.workloads (h : Fetched name rt cl cl' card) : cl'.workloads = cl.workloads := by
  cases h with
  | disabled => rfl
  | kept => rfl
  | fetched _ _ _ hpatch =>
    rcases hpatch with rfl | ⟨_, _, rfl⟩
    · rfl
    · rfl

theorem Finished.workloads (h : Finished name card cl x cl' e) : cl'.workloads = cl.workloads := by
  cases h with
  | notApplied => rfl
  | statusFailed h => exact h.workloads
  | configured h => exact h.workloads

theorem Applied.runtimes {rt : AgentRuntimeResource} {ns configHash : String}
    (h : Applied rt ns configHash cl cl' x) : cl'.runtimes = cl.runtimes := by
  cases h <;> rfl

/-! ### What holds of every workload -/

/-- A property of workloads that every write of the controller keeps. -/
structure Kept (I : WorkloadObject → Prop) : Prop where
  stamp : ∀ rt configHash obj, I obj → I (stamp rt configHash obj)
  begin : ∀ obj, I obj → I (obj.accept (beginRestart obj))
  complete : ∀ obj, I obj → I (obj.accept (completeRestart obj))
  clean : ∀ obj, I obj → I (obj.accept (cleaned obj))

/-- The property holds of all workloads. -/
def Cluster.All (cl : Cluster) (I : WorkloadObject → Prop) : Prop :=
  ∀ key obj, cl.workloads.lookup key = some obj → I obj

theorem Cluster.All.congr (h : cl.All I) (heq : cl'.workloads = cl.workloads) : cl'.All I := by
  intro key obj hobj
  rw [heq] at hobj
  exact h key obj hobj

theorem Cluster.All.put (h : cl.All I) (key : WorkloadKey) {obj : WorkloadObject} (hobj : I obj) :
    (cl.putWorkload key obj).All I := by
  intro key' obj' hobj'
  rw [lookup_putWorkload] at hobj'
  split at hobj'
  · cases hobj'
    exact hobj
  · exact h key' obj' hobj'

/-- **What every write keeps holds of all workloads after a reconcile.** -/
theorem Reconciled.forall_workloads (hkept : Kept I) (h : Reconciled r env name cl cl' e)
    (hall : cl.All I) : cl'.All I := by
  cases h with
  | unread => exact hall
  | finalizer _ _ _ hx =>
    rcases hx with rfl | rfl
    · exact hall
    · exact hall
  | targetNotFound => exact hall
  | stopped => exact hall
  | restarted _ _ hx =>
    cases hx with
    | failed => exact hall
    | done hobj => exact hall.put _ (hkept.complete _ (hall _ _ hobj))
  | deletion _ _ hx =>
    have hclean : ∀ {key : WorkloadKey} {cl₁ : Cluster} {x : Except ApiError Unit},
        CleanedUp key cl cl₁ x → cl₁.All I := by
      intro key cl₁ x hx
      cases hx with
      | missing => exact hall
      | failed => exact hall
      | done hobj => exact hall.put _ (hkept.clean _ (hall _ _ hobj))
    cases hx with
    | foreign => exact hall
    | unsupported _ hx => exact hall.congr hx.workloads
    | failed _ hx => exact hclean hx
    | cleaned _ hx hx' => exact (hclean hx).congr hx'.workloads
  | applied _ _ _ _ hcard hx hend =>
    have hall₁ := hall.congr hcard.workloads
    refine Cluster.All.congr ?_ hend.workloads
    cases hx with
    | failed => exact hall₁
    | already => exact hall₁
    | stamped _ hobj => exact hall₁.put _ (hkept.stamp _ _ _ (hall₁ _ _ hobj))
    | marked _ hobj =>
      exact hall₁.put _ (hkept.begin _ (hkept.stamp _ _ _ (hall₁ _ _ hobj)))

theorem forall_workloads_step (hkept : Kept I) {w w' : World} {a : Action}
    (h : w.step r a = some w') (hall : w.cluster.All I) : w'.cluster.All I := by
  cases a with
  | create n spec apiVersion =>
    rw [World.step] at h
    split at h
    · cases h
      exact hall
    · cases h
  | edit n spec apiVersion =>
    obtain ⟨old, _, rfl⟩ := Option.map_eq_some_iff.mp h
    exact hall
  | delete n =>
    obtain ⟨old, _, rfl⟩ := Option.map_eq_some_iff.mp h
    exact hall
  | reconcile n env faults =>
    cases h
    exact (reconciled r w n env faults).forall_workloads hkept hall

/-! ### What a reconcile leaves alone -/

theorem targetOf_sandbox {rt : AgentRuntimeResource} (h : rt.targetKind = kindSandbox)
    (ns : String) : targetOf rt ns = some ⟨.sandbox, ns, rt.targetName⟩ := by
  rw [targetOf, h]
  rfl

/-- A runtime targets the workload. -/
def Cluster.Targets (cl : Cluster) (name : NamespacedName) (key : WorkloadKey) : Prop :=
  ∃ rt, cl.runtimes.lookup name = some rt ∧ rt.target name.ns = some key

theorem lookup_putWorkload_of_ne (h : key' ≠ key) (obj : WorkloadObject) :
    (cl.putWorkload key obj).workloads.lookup key' = cl.workloads.lookup key' := by
  rw [lookup_putWorkload, if_neg h]

theorem CleanedUp.lookup_of_ne (h : CleanedUp key cl cl' x)
    (hne : key' ≠ key) : cl'.workloads.lookup key' = cl.workloads.lookup key' := by
  cases h with
  | missing => rfl
  | failed => rfl
  | done _ _ => exact lookup_putWorkload_of_ne hne _

/-- **A reconcile touches only the workload of its own runtime.** -/
theorem Reconciled.workloads_of_ne (h : Reconciled r env name cl cl' e)
    (hne : ¬cl.Targets name key) : cl'.workloads.lookup key = cl.workloads.lookup key := by
  have hkey : ∀ {rt : AgentRuntime} {key' : WorkloadKey}, cl.runtimes.lookup name = some rt →
      rt.target name.ns = some key' → key ≠ key' := by
    rintro rt key' hrt hkey' rfl
    exact hne ⟨rt, hrt, hkey'⟩
  cases h with
  | unread => rfl
  | finalizer _ _ _ hx =>
    rcases hx with rfl | rfl
    · rfl
    · rfl
  | targetNotFound => rfl
  | stopped => rfl
  | restarted hrt hsandbox hx =>
    cases hx with
    | failed => rfl
    | done => exact lookup_putWorkload_of_ne (hkey hrt (targetOf_sandbox hsandbox name.ns)) _
  | deletion hrt _ hx =>
    cases hx with
    | foreign => rfl
    | unsupported _ hx => rw [hx.workloads]
    | failed hkey' hx => exact hx.lookup_of_ne (hkey hrt hkey')
    | cleaned hkey' hx hx' =>
      rw [hx'.workloads]
      exact hx.lookup_of_ne (hkey hrt hkey')
  | applied hrt _ _ _ hcard hx hend =>
    rw [hend.workloads]
    rw [← hcard.workloads]
    cases hx with
    | failed => rfl
    | already => rfl
    | stamped hkey' => exact lookup_putWorkload_of_ne (hkey hrt hkey') _
    | marked hkey' => exact lookup_putWorkload_of_ne (hkey hrt hkey') _

theorem CleanedUp.runtimes (h : CleanedUp key cl cl' x) : cl'.runtimes = cl.runtimes := by
  cases h <;> rfl

/-- **The runtime of a name is written**, any number of times, and its specification stays
what it was. -/
inductive Rewrites (name : NamespacedName) (cl : Cluster) : Cluster → Prop where
  | same {cl' : Cluster} (heq : cl'.runtimes = cl.runtimes) : Rewrites name cl cl'
  | put {cl₁ cl' : Cluster} (h : Rewrites name cl cl₁) {rt : AgentRuntime}
      (hrt : cl₁.runtimes.lookup name = some rt) (new : AgentRuntime)
      (hspec : new.toAgentRuntimeResource = rt.toAgentRuntimeResource ∧
        new.targetAPIVersion = rt.targetAPIVersion)
      (heq : cl'.runtimes = (cl₁.putRuntime name new).runtimes) : Rewrites name cl cl'

theorem Rewrites.congr (h : Rewrites name cl cl₁)
    (heq : cl'.runtimes = cl₁.runtimes) : Rewrites name cl cl' := by
  cases h with
  | same h => exact .same (heq.trans h)
  | put h hrt new hspec h' => exact .put h hrt new hspec (heq.trans h')

theorem Rewrites.rewritten (h : Rewrites name cl cl₁) (hx : Rewritten name f cl₁ cl' x)
    (hf : ∀ rt, (f rt).toAgentRuntimeResource = rt.toAgentRuntimeResource ∧
      (f rt).targetAPIVersion = rt.targetAPIVersion) : Rewrites name cl cl' := by
  cases hx with
  | failed => exact h
  | done hrt => exact .put h hrt _ (hf _) rfl

theorem Fetched.rewrites (h : Fetched name rt cl cl' card) : Rewrites name cl cl' := by
  cases h with
  | disabled => exact .same rfl
  | kept => exact .same rfl
  | fetched _ _ _ hpatch =>
    rcases hpatch with rfl | ⟨_, hold, rfl⟩
    · exact .same rfl
    · exact .put (.same rfl) hold (keyed _ _) ⟨rfl, rfl⟩ rfl

/-- **What a reconcile does to runtimes.** -/
theorem Reconciled.rewrites (h : Reconciled r env name cl cl' e) : Rewrites name cl cl' := by
  cases h with
  | unread => exact .same rfl
  | @finalizer rt hrt _ _ _ hx =>
    rcases hx with rfl | rfl
    · exact .same rfl
    · exact .put (.same rfl) hrt
        { rt with finalizers := rt.finalizers ++ [agentRuntimeFinalizer] } ⟨rfl, rfl⟩ rfl
  | targetNotFound => exact .same rfl
  | stopped => exact .same rfl
  | restarted _ _ hx => cases hx <;> exact .same rfl
  | deletion _ _ hx =>
    cases hx with
    | foreign => exact .same rfl
    | unsupported _ hx => exact Rewrites.rewritten (.same rfl) hx fun _ => ⟨rfl, rfl⟩
    | failed _ hx => exact .same hx.runtimes
    | cleaned _ hx hx' => exact Rewrites.rewritten (.same hx.runtimes) hx' fun _ => ⟨rfl, rfl⟩
  | applied _ _ _ _ hcard hx hend =>
    have happlied := hcard.rewrites.congr hx.runtimes
    cases hend with
    | notApplied => exact happlied
    | statusFailed h => exact happlied.rewritten h fun _ => ⟨rfl, rfl⟩
    | configured h => exact happlied.rewritten h fun _ => ⟨rfl, rfl⟩

theorem Reconciled.runtimes_of_ne (h : Reconciled r env name cl cl' e) {name' : NamespacedName}
    (hne : name' ≠ name) : cl'.runtimes.lookup name' = cl.runtimes.lookup name' := by
  have hrewrites := h.rewrites
  clear h
  induction hrewrites with
  | same heq => rw [heq]
  | put _ _ _ _ heq ih => rw [heq, lookup_putRuntime, if_neg hne, ih]

theorem Reconciled.specs (h : Reconciled r env name cl cl' e) {name' : NamespacedName}
    {rt' : AgentRuntime} (hrt' : cl'.runtimes.lookup name' = some rt') :
    ∃ rt, cl.runtimes.lookup name' = some rt ∧
      rt'.toAgentRuntimeResource = rt.toAgentRuntimeResource ∧
      rt'.targetAPIVersion = rt.targetAPIVersion := by
  have hrewrites := h.rewrites
  clear h
  induction hrewrites generalizing rt' with
  | same heq =>
    rw [heq] at hrt'
    exact ⟨rt', hrt', rfl, rfl⟩
  | put _ hrt _ hspec heq ih =>
    rw [heq, lookup_putRuntime] at hrt'
    split at hrt'
    · rename_i hname
      subst hname
      obtain rfl := eq_of_retained hrt'
      obtain ⟨rt₀, hrt₀, hres, hapi⟩ := ih hrt
      exact ⟨rt₀, hrt₀, hspec.1.trans hres, hspec.2.trans hapi⟩
    · exact ih hrt'

theorem lookup_putRuntime_self (h : rt.deleting = false) :
    (cl.putRuntime name rt).runtimes.lookup name = some rt := by
  rw [lookup_putRuntime, if_pos rfl, retained, h, Bool.false_and, if_neg Bool.false_ne_true]

/-- The last steps of a reconcile keep the specification of its runtime. -/
theorem Finished.lookup {name : NamespacedName} {cl cl' : Cluster} {e : Ending}
    (h : Finished name card cl x cl' e) (hrt : cl.runtimes.lookup name = some rt)
    (hdeleting : rt.deleting = false) :
    ∃ rt', cl'.runtimes.lookup name = some rt' ∧
      rt'.toAgentRuntimeResource = rt.toAgentRuntimeResource := by
  have hrewritten : ∀ {cl' : Cluster} {y : Except ApiError Unit},
      Rewritten name (withCard card) cl cl' y → ∃ rt', cl'.runtimes.lookup name = some rt' ∧
        rt'.toAgentRuntimeResource = rt.toAgentRuntimeResource := by
    intro cl' y hy
    cases hy with
    | failed => exact ⟨rt, hrt, rfl⟩
    | done h' =>
      cases hrt.symm.trans h'
      exact ⟨withCard card rt, lookup_putRuntime_self hdeleting, rfl⟩
  cases h with
  | notApplied => exact ⟨rt, hrt, rfl⟩
  | statusFailed h => exact hrewritten h
  | configured h => exact hrewritten h

theorem Fetched.lookup {name : NamespacedName} {cl cl' : Cluster}
    (h : Fetched name rt cl cl' card) (hrt : cl.runtimes.lookup name = some rt)
    (hdeleting : rt.deleting = false) :
    ∃ rt', cl'.runtimes.lookup name = some rt' ∧ rt'.deleting = false ∧
      rt'.toAgentRuntimeResource = rt.toAgentRuntimeResource := by
  cases h with
  | disabled => exact ⟨rt, hrt, hdeleting, rfl⟩
  | kept => exact ⟨rt, hrt, hdeleting, rfl⟩
  | @fetched changeKey _ _ _ _ _ _ hpatch =>
    rcases hpatch with rfl | ⟨old, hold, rfl⟩
    · exact ⟨rt, hrt, hdeleting, rfl⟩
    · cases hrt.symm.trans hold
      exact ⟨keyed changeKey rt, lookup_putRuntime_self hdeleting, hdeleting, rfl⟩

/-! ### Without failures -/

/-- The execution of the client from a cluster, with no request failing, ends in the
postcondition. -/
abbrev Yields {α : Type} (c : Api α) (cl : Cluster) (post : Cluster → α → Prop) : Prop :=
  Calls.wp serve (fun _ => False) post c cl

section Yields

variable {α β : Type} {c : Api α} {ns : String} {obj : WorkloadObject}

theorem Ensures.yields {post : Cluster → α → Prop} (h : Ensures c cl post) : Yields c cl post :=
  Calls.wp_anti (fun _ hr => hr.elim) h

theorem yields_bind {f : α → Api β} {post : Cluster → β → Prop}
    (h : Yields c cl fun cl' a => Yields (f a) cl' post) : Yields (c >>= f) cl post :=
  (Calls.wp_bind c f cl).mpr h

theorem yields_ask {q : Request} {read : Response → Option α} {r : Response}
    {post : Cluster → Except ApiError α → Prop} (hserve : cl.serve q = (cl', r))
    (h : post cl' (answer read r)) : Yields (ask q read) cl post := by
  refine ⟨?_, fun _ hr => hr.elim⟩
  rw [hserve]
  exact h

theorem yields_updateOnConflict (h : cl.workloads.lookup key = some obj)
    (f : WorkloadObject → WorkloadObject) :
    Yields (updateOnConflict key f) cl fun _ x => x = .ok () := by
  refine yields_bind (Calls.wp_retry (I := fun cl' _ => cl' = cl)
    (P := fun _ x => x.1 = (.ok () : Except ApiError Unit)) (fun cl' _ hcl => ?_) 4 rfl)
  subst hcl
  refine yields_bind (yields_ask (r := .workload obj) (by rw [serve, h]) ?_)
  exact yields_bind (yields_ask (r := .ok) (by rw [serve, h])
    ⟨rfl, fun hc => by cases hc⟩)

/-- **A workload that is there is configured.** -/
theorem yields_applyWorkloadConfig {rt : AgentRuntimeResource} (hkey : targetOf rt ns = some key)
    (h : cl.workloads.lookup key = some obj) (configHash : String) :
    Yields (applyWorkloadConfig rt ns configHash) cl fun _ x => x = .ok () := by
  rw [applyWorkloadConfig, hkey]
  refine yields_bind (Calls.wp_mono ?_ (Calls.wp_retry (I := fun cl' _ => cl' = cl)
    (P := fun cl' x => x.1 = .ok () ∧ ∃ obj, cl'.workloads.lookup key = some obj)
    (fun cl' changed hcl => ?_) 4 rfl))
  · rintro cl' ⟨x, changed⟩ ⟨hx, obj', hobj'⟩
    obtain rfl : x = .ok () := hx
    dsimp only
    split
    · refine yields_bind (Calls.wp_mono (fun _ y hy => ?_)
        (yields_updateOnConflict hobj' beginRestart))
      subst hy
      rfl
    · rfl
  · subst hcl
    refine yields_bind (yields_ask (r := .workload obj) (by rw [serve, h]) ?_)
    show Yields (if _ then _ else _) cl' _
    split
    · exact ⟨⟨rfl, obj, h⟩, fun hc => by cases hc⟩
    · exact yields_bind (yields_ask (r := .ok) (by rw [serve, h])
        ⟨⟨rfl, _, lookup_putWorkload_self _ _ _⟩, fun hc => by cases hc⟩)

theorem yields_updateStatus (h : cl.runtimes.lookup name = some rt) (card : Option CardStatus) :
    Yields (updateStatus name card) cl fun _ x => x = .ok () := by
  refine yields_bind (Calls.wp_retry (I := fun cl' _ => cl' = cl)
    (P := fun _ x => x.1 = (.ok () : Except ApiError Unit)) (fun cl' _ hcl => ?_) 4 rfl)
  subst hcl
  refine yields_bind (yields_ask (r := .runtime rt) (by rw [serve, h]) ?_)
  exact yields_bind (yields_ask (r := .ok) (by rw [serve, h])
    ⟨rfl, fun hc => by cases hc⟩)

theorem yields_reconcileConfig (hrt : cl.runtimes.lookup name = some rt)
    (hdeleting : rt.deleting = false) (hkey : rt.target name.ns = some key)
    (hobj : cl.workloads.lookup key = some obj) :
    Yields (r.reconcileConfig env name rt) cl fun _ e => e.broken = false := by
  rw [AgentRuntimeReconciler.reconcileConfig]
  split
  · rfl
  · rfl
  · rfl
  · refine yields_bind (Calls.wp_mono (fun cl₁ card hcard => ?_)
      (ensures_fetchAndUpdateCard r name rt cl).yields)
    obtain ⟨rt₁, hrt₁, -, -⟩ := hcard.lookup hrt hdeleting
    rw [← hcard.workloads] at hobj
    refine yields_bind (Calls.wp_mono (fun cl₂ x hx => ?_)
      (Calls.wp_and (yields_applyWorkloadConfig hkey hobj _)
        (ensures_applyWorkloadConfig _ _ _ cl₁).yields))
    obtain ⟨rfl, happlied⟩ := hx
    rw [← happlied.runtimes] at hrt₁
    refine yields_bind (Calls.wp_mono (fun cl₃ y hy => ?_) (yields_updateStatus hrt₁ card))
    subst hy
    rfl

/-- **A reconcile in which no request fails** does not end early once it deals with the
workload. -/
theorem yields_reconcile (r : AgentRuntimeReconciler) (env : Surroundings) (name : NamespacedName)
    (cl : Cluster) : Yields (r.reconcile env name) cl fun _ e => e.broken = false := by
  refine yields_bind ?_
  cases hrt : cl.runtimes.lookup name with
  | none => exact yields_ask (r := .notFound) (by rw [serve, hrt]) rfl
  | some rt =>
    refine yields_ask (r := .runtime rt) (by rw [serve, hrt]) ?_
    show Yields (if rt.deleting then _ else _) cl _
    cases hdeleting : rt.deleting with
    | true => exact yields_bind (Calls.wp_of_forall (fun _ _ => rfl) _ cl)
    | false =>
      rw [if_neg Bool.false_ne_true]
      split
      · exact yields_bind (Calls.wp_of_forall (fun _ _ => rfl) _ cl)
      · refine yields_bind (Calls.wp_mono (fun cl' x hx => ?_)
          (ensures_resolveTargetRef rt name.ns cl).yields)
        obtain ⟨rfl, hthere⟩ := hx
        rcases x with e | ⟨⟩
        · rfl
        · obtain ⟨key, obj, hkey, hobj⟩ := hthere rfl
          refine yields_bind (Calls.wp_mono (fun cl' x hx => ?_)
            (ensures_pendingRestart name rt _).yields)
          rcases hx with ⟨rfl, rfl⟩ | ⟨y, rfl, -, -⟩
          · exact yields_reconcileConfig hrt hdeleting hkey hobj
          · rfl

theorem broken_reconcile (r : AgentRuntimeReconciler) (w : World) (name : NamespacedName)
    (env : Surroundings) {faults : Faults} (h : faults.all Option.isNone = true) :
    (w.reconcile r name env faults).2.broken = false :=
  Calls.exec_of_wp_false (yields_reconcile r env name w.cluster) fun f hf =>
    Option.isNone_iff_eq_none.mp (List.all_eq_true.mp h f hf)

end Yields

end Outcomes

end Rossoctl.Runtime
