import Rossoctl.Runtime.Machine

/-!
# Restarts of a Sandbox

A Sandbox has to be scaled down and up again before its pod follows a change of the
template. `applyWorkloadConfig` commits the change first and asks for the restart
afterwards, and a later reconcile finishes it. A Sandbox is *accounted for*
(`Rossoctl.Runtime.WorkloadObject.Accounted`) if it has been down and up since the
annotations of its template last went from one revision to another, or a restart is
pending.

There are two ways to lose a restart: only a change of the configuration hash asks for one,
not a change of the mutual TLS mode (`Rossoctl.Runtime.restart_lost`); and once the hash is
committed, a request for the restart that fails is not repeated, as the next reconcile finds
nothing to do. `Rossoctl.Runtime.restarts_accounted` says that there are no others: if a
reconcile that finds another hash has no request fail, and one that finds the same hash finds
the same mode, every reconcile that gets through `applyWorkloadConfig` leaves its Sandbox
accounted for, whatever else fails.
-/

namespace Rossoctl.Runtime

open Kube Webhook Option

namespace WorkloadObject

/-- **The running revision is accounted for.** -/
def Accounted (obj : WorkloadObject) : Prop :=
  obj.watch.rollout = .current ∨ obj.restartPending = true

instance (obj : WorkloadObject) : Decidable obj.Accounted := inferInstanceAs (Decidable (_ ∨ _))

/-- A record that is up to date and in which no restart was dropped. -/
structure Sound (obj : WorkloadObject) : Prop where
  stable : obj.watch.rollout.next (decide (obj.replicas = 0)) = obj.watch.rollout
  restartsWhole : obj.watch.restartsWhole = true

theorem sound_accept {old new : WorkloadObject} (h : ¬DropsRestart old new) (hs : old.Sound) :
    (old.accept new).Sound := by
  refine ⟨next_next _ _, ?_⟩
  show (old.watch.restartsWhole && !decide (DropsRestart old new)) = true
  rw [hs.restartsWhole, decide_eq_false h]
  rfl

theorem not_dropsRestart_of_annotations {old new : WorkloadObject}
    (h : new.annotations = old.annotations) : ¬DropsRestart old new := by
  rintro ⟨hold, hnew, -⟩
  rw [restartPending, h] at hnew
  exact Bool.false_ne_true (hnew.symm.trans hold)

theorem restartPending_beginRestart (obj : WorkloadObject) :
    (beginRestart obj).restartPending = true :=
  decide_eq_true (valueOf_insert _ _ _)

theorem kept_sound : Kept Sound where
  stamp rt configHash obj hs := sound_accept (not_dropsRestart_of_annotations rfl) hs
  begin obj hs := by
    refine sound_accept ?_ hs
    rintro ⟨-, hnew, -⟩
    cases hnew
  complete obj hs := by
    refine sound_accept ?_ hs
    rintro ⟨-, -, hnot⟩
    -- scaled up, and the name of the old pod is gone
    refine hnot ⟨rfl, ?_⟩
    show ((obj.annotations.erase annotationPodName).erase annotationRestartPending).lookup
      annotationPodName = none
    rw [AList.lookup_erase_ne (by decide), AList.lookup_erase]
  clean obj hs := sound_accept (not_dropsRestart_of_annotations rfl) hs

/-- **The invariant**: a Sandbox is accounted for, and one with a pending restart is down. -/
structure Safe (obj : WorkloadObject) : Prop where
  sound : obj.Sound
  down : obj.restartPending = true → obj.replicas = 0
  accounted : obj.Accounted

variable {obj new : WorkloadObject}

/-- A Sandbox that is down does not run an old revision. -/
theorem Safe.rollout_ne (h : obj.Safe) : obj.watch.rollout ≠ .changed := by
  intro hchanged
  obtain hcurrent | hpending := h.accounted
  · cases hchanged.symm.trans hcurrent
  · have hstable := h.sound.stable
    rw [h.down hpending, hchanged] at hstable
    cases hstable

/-- A write that makes no new revision and leaves the restart alone. -/
theorem Safe.accept (h : obj.Safe) (hrev : ¬Revises obj new)
    (hann : new.annotations = obj.annotations) (hreplicas : new.replicas = obj.replicas) :
    (obj.accept new).Safe where
  sound := sound_accept (not_dropsRestart_of_annotations hann) h.sound
  down hpending := by
    show new.replicas = 0
    rw [hreplicas]
    refine h.down ?_
    rwa [restartPending, ← hann]
  accounted := by
    have hrollout : nextRollout obj new = obj.watch.rollout := by
      rw [nextRollout, if_neg hrev, hreplicas]
      exact h.sound.stable
    refine h.accounted.imp hrollout.trans fun hpending => ?_
    show decide (valueOf new.annotations _ = _) = true
    rw [hann]
    exact hpending

theorem not_revises_of_podAnnotations (h : new.podAnnotations = obj.podAnnotations) :
    ¬Revises obj new := by
  rw [Revises, Replaces, Replaces, h]
  rintro (hc | hc)
  · exact hc.2.2 rfl
  · exact hc.2.2 rfl

theorem valueOf_erase (m : StringMap) (key : String) : valueOf (m.erase key) key = "" := by
  rw [valueOf, AList.lookup_erase]
  rfl

/-- **A restart that is finished**: the Sandbox comes up with its last revision. -/
theorem Safe.complete (h : obj.Safe) : (obj.accept (completeRestart obj)).Safe where
  sound := kept_sound.complete obj h.sound
  down hpending :=
    absurd ((valueOf_erase _ _).symm.trans (of_decide_eq_true hpending)) (by decide)
  accounted := by
    refine .inl ?_
    show nextRollout obj (completeRestart obj) = .current
    have hrev : ¬Revises obj (completeRestart obj) := not_revises_of_podAnnotations rfl
    have hup : decide ((completeRestart obj).replicas = 0) = false := rfl
    rw [nextRollout, if_neg hrev, hup]
    cases hrollout : obj.watch.rollout with
    | current => rfl
    | changed => exact absurd hrollout h.rollout_ne
    | down => rfl

theorem Safe.clean (h : obj.Safe) : (obj.accept (cleaned obj)).Safe := by
  refine h.accept ?_ rfl rfl
  rintro (⟨-, hnew, -⟩ | ⟨-, hnew, -⟩)
  · refine hnew ?_
    rw [cleaned]
    dsimp only
    rw [AList.erase_erase]
    exact valueOf_erase _ _
  · exact hnew (valueOf_erase _ _)

/-- **A restart that is asked for.** -/
theorem Safe.begin (h : obj.Sound) : (obj.accept (beginRestart obj)).Safe where
  sound := kept_sound.begin obj h
  down _ := rfl
  accounted := .inr (restartPending_beginRestart obj)

end WorkloadObject

open WorkloadObject

section Stamp

variable {rt : AgentRuntimeResource} {configHash : String} {obj : WorkloadObject}

/-- The mode of mutual TLS of a template is the one that a runtime asks for, or new. -/
def keepsMode (rt : AgentRuntimeResource) (obj : WorkloadObject) : Bool :=
  valueOf obj.podAnnotations annotationMTLSMode = "" ∨
    valueOf obj.podAnnotations annotationMTLSMode = rt.stampedMTLSMode

/-- The same hash and the same mode make no new revision. -/
theorem not_revises_configured (h : configHashChanged configHash obj.toWorkloadTemplate = false)
    (hmode : keepsMode rt obj = true) : ¬Revises obj (configured rt configHash obj) := by
  obtain ⟨-, -, -, hhash, hnew⟩ := alreadyConfigured_stamp rt configHash obj
  rintro (⟨hne, -, hdiff⟩ | ⟨hne, -, hdiff⟩)
  · exact of_decide_eq_false h ⟨hne, fun heq => hdiff (heq.trans hhash.symm)⟩
  · obtain hempty | hsame := of_decide_eq_true hmode
    · exact hne hempty
    · exact hdiff (hsame.trans hnew.symm)

/-- What is written to a Sandbox while a restart is pending is part of the restart. -/
theorem WorkloadObject.Safe.stamp_of_pending (h : obj.Safe) (hpending : obj.restartPending = true) :
    (stamp rt configHash obj).Safe :=
  ⟨kept_sound.stamp rt configHash obj h.sound, fun _ => h.down hpending, .inr hpending⟩

end Stamp

/-! ### Runs -/

/-- The Sandbox that a runtime targets. -/
def Cluster.sandboxOf (cl : Cluster) (name : NamespacedName) : Option WorkloadObject :=
  (cl.runtimes.lookup name).bind fun rt =>
    if rt.targetKind = kindSandbox then cl.workloads.lookup ⟨.sandbox, name.ns, rt.targetName⟩
    else none

/-- What is noted of a reconcile that gets through `applyWorkloadConfig`: the Sandbox it
leaves. -/
def restartNotes (r : AgentRuntimeReconciler) (w : World) : Action → List WorkloadObject
  | .reconcile name env faults =>
    if (w.reconcile r name env faults).2.applied then
      ((w.reconcile r name env faults).1.sandboxOf name).toList
    else []
  | _ => []

/-- **The condition on a reconcile** of a Sandbox with no restart pending: if the template has
another configuration hash, no request fails; and if not, its mode of mutual TLS stays. -/
def restartSafe (w : World) : Action → Bool
  | .reconcile name env faults =>
    (w.cluster.runtimes.lookup name).all fun rt => (w.cluster.sandboxOf name).all fun obj =>
      match env.configHash with
      | .error _ => true
      | .ok configHash => obj.restartPending ||
        if configHashChanged configHash obj.toWorkloadTemplate then faults.all Option.isNone
        else keepsMode rt.toAgentRuntimeResource obj
  | _ => true

/-- All Sandboxes are safe. -/
def Cluster.SafeSandboxes (cl : Cluster) : Prop :=
  ∀ name obj, cl.workloads.lookup ⟨.sandbox, name⟩ = some obj → obj.Safe

section Runs

variable {r : AgentRuntimeReconciler} {env : Surroundings} {name : NamespacedName}
  {cl cl' : Cluster} {e : Ending} {key : WorkloadKey} {obj : WorkloadObject}

theorem Cluster.SafeSandboxes.put (h : cl.SafeSandboxes) (hobj : key.kind = .sandbox → obj.Safe) :
    (cl.putWorkload key obj).SafeSandboxes := by
  intro name obj' hobj'
  rw [lookup_putWorkload] at hobj'
  split at hobj'
  · rename_i hkey
    cases hobj'
    exact hobj (hkey ▸ rfl)
  · exact h name obj' hobj'

theorem Cluster.SafeSandboxes.of_lookup (h : cl.SafeSandboxes)
    (hobj : cl.workloads.lookup key = some obj) (hkey : key.kind = .sandbox) : obj.Safe := by
  obtain ⟨kind, name⟩ := key
  cases hkey
  exact h name obj hobj

theorem CleanedUp.safe {x : Except ApiError Unit} (h : CleanedUp key cl cl' x)
    (hsafe : cl.SafeSandboxes) : cl'.SafeSandboxes := by
  cases h with
  | missing => exact hsafe
  | failed => exact hsafe
  | done hobj => exact hsafe.put fun hkey => (hsafe.of_lookup hobj hkey).clean

theorem targetKind_of_sandbox {rt : AgentRuntimeResource} {ns : String}
    (h : targetOf rt ns = some key) (hkey : key.kind = .sandbox) :
    rt.targetKind = kindSandbox ∧ key = ⟨.sandbox, ns, rt.targetName⟩ := by
  obtain ⟨kind, hkind, rfl⟩ := Option.map_eq_some_iff.mp h
  obtain rfl : kind = .sandbox := hkey
  refine ⟨?_, rfl⟩
  rw [newRuntimePodTemplateAccessor] at hkind
  split at hkind
  · cases hkind
  · split at hkind
    · cases hkind
    · split at hkind
      · assumption
      · cases hkind

/-- **The step lemma for `applyWorkloadConfig`.** -/
theorem Applied.safe {rt : AgentRuntimeResource} {ns configHash : String}
    {x : Except ApiError Unit} (h : Applied rt ns configHash cl cl' x) (hsafe : cl.SafeSandboxes)
    (hok : ∀ obj, rt.targetKind = kindSandbox →
      cl.workloads.lookup ⟨.sandbox, ns, rt.targetName⟩ = some obj → obj.restartPending = true ∨
        if configHashChanged configHash obj.toWorkloadTemplate then x = .ok ()
        else keepsMode rt obj = true) : cl'.SafeSandboxes := by
  cases h with
  | failed => exact hsafe
  | already => exact hsafe
  | stamped hkey hobj ha hx =>
    refine hsafe.put fun hsandbox => ?_
    have hobj' := hsafe.of_lookup hobj hsandbox
    obtain ⟨hkind, rfl⟩ := targetKind_of_sandbox hkey hsandbox
    obtain hpending | hok := hok _ hkind hobj
    · exact hobj'.stamp_of_pending hpending
    · split at hok
      · rename_i hchanged
        exact absurd ⟨hkind, hchanged⟩ (hx hok)
      · rename_i hsame
        exact hobj'.accept (not_revises_configured (Bool.eq_false_iff.mpr hsame) hok) rfl rfl
  | marked hkey hobj =>
    refine hsafe.put fun hsandbox => Safe.begin ?_
    exact kept_sound.stamp _ _ _ (hsafe.of_lookup hobj hsandbox).sound

/-- **The step lemma for a reconcile.** -/
theorem Reconciled.safe (h : Reconciled r env name cl cl' e) (hsafe : cl.SafeSandboxes)
    (hok : ∀ rt obj configHash, cl.runtimes.lookup name = some rt →
      rt.targetKind = kindSandbox →
      cl.workloads.lookup ⟨.sandbox, name.ns, rt.targetName⟩ = some obj →
      env.configHash = .ok configHash → obj.restartPending = true ∨
        if configHashChanged configHash obj.toWorkloadTemplate then e.broken = false
        else keepsMode rt.toAgentRuntimeResource obj = true) : cl'.SafeSandboxes := by
  cases h with
  | unread => exact hsafe
  | finalizer _ _ _ hx =>
    rcases hx with rfl | rfl
    · exact hsafe
    · exact hsafe
  | targetNotFound => exact hsafe
  | stopped => exact hsafe
  | restarted _ _ hx =>
    cases hx with
    | failed => exact hsafe
    | done hobj => exact hsafe.put fun hkey => (hsafe.of_lookup hobj hkey).complete
  | deletion _ _ hx =>
    cases hx with
    | foreign => exact hsafe
    | unsupported _ hx =>
      rw [Cluster.SafeSandboxes, hx.workloads]
      exact hsafe
    | failed _ hx => exact hx.safe hsafe
    | cleaned _ hx hx' =>
      rw [Cluster.SafeSandboxes, hx'.workloads]
      exact hx.safe hsafe
  | @applied rt hrt _ _ configHash henv cl₁ _ _ _ hcard x hx _ hend =>
    have hsafe₁ : cl₁.SafeSandboxes := by
      rw [Cluster.SafeSandboxes, hcard.workloads]
      exact hsafe
    rw [Cluster.SafeSandboxes, hend.workloads]
    refine hx.safe hsafe₁ fun obj hkind hobj => ?_
    rw [hcard.workloads] at hobj
    refine (hok rt obj configHash hrt hkind hobj henv).imp_right fun hok => ?_
    split at hok
    · rename_i hchanged
      rw [if_pos hchanged]
      cases hend with
      | notApplied => cases hok
      | statusFailed => rfl
      | configured => rfl
    · rename_i hsame
      rwa [if_neg hsame]

/-- **The step lemma.** -/
theorem safeSandboxes_step {w w' : World} {a : Action} (h : w.step r a = some w')
    (hsafe : w.cluster.SafeSandboxes) (hok : restartSafe w a = true) :
    w'.cluster.SafeSandboxes := by
  cases a with
  | create n spec apiVersion =>
    rw [World.step] at h
    split at h
    · cases h
      exact hsafe
    · cases h
  | edit n spec apiVersion =>
    obtain ⟨old, _, rfl⟩ := Option.map_eq_some_iff.mp h
    exact hsafe
  | delete n =>
    obtain ⟨old, _, rfl⟩ := Option.map_eq_some_iff.mp h
    exact hsafe
  | reconcile n env faults =>
    cases h
    refine (reconciled r w n env faults).safe hsafe fun rt obj configHash hrt hkind hobj henv => ?_
    rw [restartSafe, hrt, all_some, Cluster.sandboxOf, hrt, bind_some, if_pos hkind, hobj, all_some,
      henv] at hok
    refine ((Bool.or_eq_true _ _).mp hok).imp_right fun hok => ?_
    split at hok
    · rename_i hchanged
      rw [if_pos hchanged]
      exact broken_reconcile r w n env hok
    · rename_i hsame
      rwa [if_neg hsame]

theorem accounted_of_mem_restartNotes {w w' : World} {a : Action} (h : w.step r a = some w')
    (hsafe : w'.cluster.SafeSandboxes) (hobj : obj ∈ restartNotes r w a) : obj.Accounted := by
  cases a with
  | reconcile n env faults =>
    cases h
    rw [restartNotes] at hobj
    split at hobj
    · rw [mem_toList, Cluster.sandboxOf] at hobj
      obtain ⟨rt, -, hobj⟩ := bind_eq_some_iff.mp hobj
      split at hobj
      · exact (hsafe _ obj hobj).accounted
      · cases hobj
    · exact absurd hobj List.not_mem_nil
  | _ => exact absurd hobj List.not_mem_nil

end Runs

/-- **No lost restart.** In a run that starts with fresh records, every reconcile that gets
through `applyWorkloadConfig` leaves its Sandbox accounted for, if no request fails of the
reconciles that find another hash, and the mode stays in those that find the same one. And in
every run no write ever takes back the mark of a restart without finishing it. -/
theorem restarts_accounted (r : AgentRuntimeReconciler) {w : World}
    (hfresh : w.cluster.All fun obj =>
      obj.watch = {} ∧ (obj.restartPending = true → obj.replicas = 0)) (as : List Action) :
    (Guarded (World.step r) (fun w a => restartSafe w a = true) w as →
      ∀ obj ∈ recorded (World.step r) (restartNotes r) w as, obj.Accounted) ∧
    ∀ w', run (World.step r) w as = some w' →
      w'.cluster.All fun obj => obj.watch.restartsWhole = true := by
  have hsound : w.cluster.All Sound := by
    intro key obj hobj
    obtain ⟨hwatch, -⟩ := hfresh key obj hobj
    exact ⟨by rw [hwatch]; rfl, by rw [hwatch]⟩
  have hsafe : w.cluster.SafeSandboxes := by
    intro name obj hobj
    obtain ⟨hwatch, hdown⟩ := hfresh _ obj hobj
    exact ⟨hsound _ obj hobj, hdown, .inl (by rw [hwatch])⟩
  constructor
  · refine forall_recorded_of_guarded (I := fun w => w.cluster.SafeSandboxes)
      (fun w a w' hsafe hok h => ?_) hsafe
    have hsafe' := safeSandboxes_step h hsafe hok
    exact ⟨hsafe', fun obj hobj => accounted_of_mem_restartNotes h hsafe' hobj⟩
  · intro w' hrun key obj hobj
    exact (run_invariant_unguarded (I := fun w => w.cluster.All Sound)
      (fun _ _ _ hs h => forall_workloads_step kept_sound h hs) hsound hrun key obj
      hobj).restartsWhole

/-! ### A restart that is lost -/

def exampleSandbox : WorkloadKey := ⟨.sandbox, "team", "weather"⟩

def exampleRuntimeName : NamespacedName := ⟨"team", "weather-runtime"⟩

/-- A runtime for the Sandbox, with a mode of mutual TLS. -/
def sandboxRuntime (mtlsMode : String) : AgentRuntimeResource where
  targetName := "weather"
  targetKind := "Sandbox"
  mtlsMode := mtlsMode
  name := "weather-runtime"
  type := "agent"

/-- One Sandbox that no runtime has touched. -/
def sandboxWorld : World where
  cluster := { workloads := (∅ : GoMap WorkloadKey WorkloadObject).insert exampleSandbox {} }

/-- A reconcile in which all goes well. -/
def plainReconcile (configHash : String) : Action :=
  .reconcile exampleRuntimeName { configHash := .ok configHash } []

/-- The Sandbox is enrolled, and then its mode is changed. -/
def modeChangeRun : List Action :=
  [.create exampleRuntimeName (sandboxRuntime "permissive") "agents.x-k8s.io/v1alpha1",
    plainReconcile "hash-of-configuration", plainReconcile "hash-of-configuration",
    .edit exampleRuntimeName (sandboxRuntime "strict") "agents.x-k8s.io/v1alpha1",
    plainReconcile "hash-of-configuration"]

/-- The server does not answer the request for the restart. -/
def lostRequest : Faults :=
  [none, none, none, none, none, none, some ⟨false, .failed "timeout", trivial⟩]

/-- The Sandbox is enrolled, and then the configuration changes. -/
def hashChangeRun : List Action :=
  [.create exampleRuntimeName (sandboxRuntime "permissive") "agents.x-k8s.io/v1alpha1",
    plainReconcile "hash-of-configuration",
    .reconcile exampleRuntimeName { configHash := .ok "hash-of-configuration" } lostRequest,
    plainReconcile "hash-of-new-configuration", plainReconcile "hash-of-new-configuration",
    plainReconcile "hash-of-new-configuration"]

/-- The new configuration is committed, the request for the restart fails, and the next
reconcile finds nothing to do. -/
def failedRestartRun : List Action :=
  [.create exampleRuntimeName (sandboxRuntime "permissive") "agents.x-k8s.io/v1alpha1",
    plainReconcile "hash-of-configuration", plainReconcile "hash-of-configuration",
    .reconcile exampleRuntimeName { configHash := .ok "hash-of-new-configuration" } lostRequest,
    plainReconcile "hash-of-new-configuration"]

theorem fresh_sandboxWorld : sandboxWorld.cluster.All fun obj =>
    obj.watch = {} ∧ (obj.restartPending = true → obj.replicas = 0) := by
  intro key obj hobj
  rw [sandboxWorld] at hobj
  rw [GoMap.lookup_insert_ite] at hobj
  split at hobj
  · cases hobj
    exact ⟨rfl, fun h => absurd h (by decide)⟩
  · cases hobj

/-- A new configuration is rolled out: the restart is asked for and finished. A request that
fails while the Sandbox is enrolled does no harm. -/
theorem restarts_hashChange :
    (recorded (World.step quietReconciler) (restartNotes quietReconciler) sandboxWorld
      hashChangeRun).length = 3 ∧
    (∀ obj ∈ recorded (World.step quietReconciler) (restartNotes quietReconciler) sandboxWorld
      hashChangeRun, obj.Accounted) ∧
    ∀ w', run (World.step quietReconciler) sandboxWorld hashChangeRun = some w' →
      w'.cluster.All fun obj => obj.watch.restartsWhole = true := by
  have h := restarts_accounted quietReconciler fresh_sandboxWorld hashChangeRun
  exact ⟨by decide +kernel, h.1 (by decide +kernel), h.2⟩

/-- **A restart that is lost**: the mode of mutual TLS is stamped on the template, and the
pod keeps running with the old one. -/
theorem restart_lost :
    ¬∀ obj ∈ recorded (World.step quietReconciler) (restartNotes quietReconciler) sandboxWorld
      modeChangeRun, obj.Accounted := by
  decide +kernel

example : ¬∀ obj ∈ recorded (World.step quietReconciler) (restartNotes quietReconciler) sandboxWorld
    failedRestartRun, obj.Accounted := by
  decide +kernel

end Rossoctl.Runtime
