import Rossoctl.Runtime.Reconcile

/-!
# What the functions of the controller can do

For each function of `Rossoctl.Runtime.Reconcile` one relation between the cluster before,
the cluster after and the result, with one constructor for each way it can go, and one
theorem that every execution, whatever requests fail on the way, is one of them. A request
that fails may have been done: the relations say which changes an error can leave behind.

| function | outcomes |
|---|---|
| `Rossoctl.Runtime.updateOnConflict` | `Rossoctl.Runtime.Updated` |
| `Rossoctl.Runtime.applyWorkloadConfig` | `Rossoctl.Runtime.Applied` |
| `Rossoctl.Runtime.handleDeletion` | `Rossoctl.Runtime.Deleted` |
| `Rossoctl.Runtime.AgentRuntimeReconciler.fetchAndUpdateCard` | `Rossoctl.Runtime.Fetched` |
| `Rossoctl.Runtime.AgentRuntimeReconciler.reconcile` | `Rossoctl.Runtime.Reconciled` |

That the attempts of a loop do not add up rests on one fact about the server: to write a
workload as it is changes nothing (`Rossoctl.Runtime.WorkloadObject.accept_accept`).
-/

namespace Rossoctl.Runtime

open AList

open Kube Webhook

/-! ### Single requests -/

/-- Every execution of the client from a cluster ends in the postcondition. -/
abbrev Ensures {α : Type} (c : Api α) (cl : Cluster) (post : Cluster → α → Prop) : Prop :=
  Calls.wp Cluster.serve Response.Transient post c cl

variable {key : WorkloadKey} {cl cl' : Cluster} {obj : WorkloadObject}

/-- Every execution, with any faults, is one of the outcomes that are ensured. -/
theorem Ensures.exec {α : Type} {c : Api α} {post : Cluster → α → Prop} (h : Ensures c cl post)
    (faults : List (Option (Calls.Fault Response.Transient))) :
    post (Calls.exec Cluster.serve Response.Transient faults cl c).1
      (Calls.exec Cluster.serve Response.Transient faults cl c).2 :=
  Calls.exec_of_wp h faults

section Requests

variable {α β : Type} {cl : Cluster}

variable {c : Api α} {post : Cluster → Except ApiError Unit → Prop} {name : NamespacedName}

theorem ensures_bind {f : α → Api β} {post : Cluster → β → Prop}
    (h : Ensures c cl fun cl' a => Ensures (f a) cl' post) : Ensures (c >>= f) cl post :=
  (Calls.wp_bind c f cl).mpr h

theorem Ensures.mono {post post' : Cluster → α → Prop} (hc : Ensures c cl post)
    (h : ∀ cl' a, post cl' a → post' cl' a) : Ensures c cl post' :=
  Calls.wp_mono h hc

variable {r : Response}

theorem error_ne_notFound (h : r.Transient) : r.error ≠ .notFound := by
  cases r with
  | conflict => exact ApiError.noConfusion
  | failed message => exact ApiError.noConfusion
  | _ => exact absurd h id

/-- **A request**: it is answered, or it fails, done or not. -/
theorem ensures_ask {q : Request} {read : Response → Option α}
    {post : Cluster → Except ApiError α → Prop} (hserve : cl.serve q = (cl', r))
    (hread : ∀ r, r.Transient → read r = none) (hdone : post cl' (answer read r))
    (hfail : ∀ e, e ≠ .notFound → post cl (.error e) ∧ post cl' (.error e)) :
    Ensures (ask q read) cl post := by
  refine ⟨?_, fun r hr => ?_⟩
  · rw [hserve]
    exact hdone
  · have hanswer : answer read r = .error r.error := by rw [answer, hread r hr]
    rw [hserve]
    show post cl (answer read r) ∧ post cl' (answer read r)
    rw [hanswer]
    exact hfail _ (error_ne_notFound hr)

theorem workload?_of_transient (h : r.Transient) : r.workload? = none := by
  cases r <;> first | rfl | exact absurd h id

theorem runtime?_of_transient (h : r.Transient) : r.runtime? = none := by
  cases r <;> first | rfl | exact absurd h id

theorem ok?_of_transient (h : r.Transient) : r.ok? = none := by
  cases r <;> first | rfl | exact absurd h id

theorem ensures_getWorkload {post : Cluster → Except ApiError WorkloadObject → Prop}
    (hsome : ∀ obj, cl.workloads.lookup key = some obj → post cl (.ok obj))
    (hnone : cl.workloads.lookup key = none → post cl (.error .notFound))
    (hfail : ∀ e, e ≠ .notFound → post cl (.error e)) : Ensures (getWorkload key) cl post := by
  cases h : cl.workloads.lookup key with
  | none =>
    exact ensures_ask (by rw [Cluster.serve, h]) (fun r => workload?_of_transient) (hnone h)
      fun e he => ⟨hfail e he, hfail e he⟩
  | some obj =>
    exact ensures_ask (by rw [Cluster.serve, h]) (fun r => workload?_of_transient) (hsome obj h)
      fun e he => ⟨hfail e he, hfail e he⟩

theorem ensures_updateWorkload {old : WorkloadObject} (h : cl.workloads.lookup key = some old)
    (hdone : ∀ x, post (cl.putWorkload key (old.accept obj)) x)
    (hfail : ∀ e, e ≠ .notFound → post cl (.error e)) : Ensures (updateWorkload key obj) cl post :=
  ensures_ask (by rw [Cluster.serve, h]) (fun r => ok?_of_transient) (hdone _)
    fun e he => ⟨hfail e he, hdone _⟩

theorem ensures_getRuntime {post : Cluster → Except ApiError AgentRuntime → Prop}
    (hsome : ∀ rt, cl.runtimes.lookup name = some rt → post cl (.ok rt))
    (herror : ∀ e, post cl (.error e)) :
    Ensures (getRuntime name) cl post := by
  cases h : cl.runtimes.lookup name with
  | none =>
    exact ensures_ask (by rw [Cluster.serve, h]) (fun r => runtime?_of_transient) (herror _)
      fun e _ => ⟨herror e, herror e⟩
  | some rt =>
    exact ensures_ask (by rw [Cluster.serve, h]) (fun r => runtime?_of_transient) (hsome rt h)
      fun e _ => ⟨herror e, herror e⟩

theorem ensures_updateRuntime {old rt : AgentRuntime} (h : cl.runtimes.lookup name = some old)
    (hdone : ∀ x, post
      (cl.putRuntime name { rt with deleting := old.deleting, card := old.card }) x)
    (hfail : ∀ e, post cl (.error e)) :
    Ensures (updateRuntime name rt) cl post :=
  ensures_ask (by rw [Cluster.serve, h]) (fun r => ok?_of_transient) (hdone _)
    fun e _ => ⟨hfail e, hdone _⟩

end Requests

/-! ### Writes that are repeated -/

namespace WorkloadObject

theorem sameMap_self (m : StringMap) : sameMap m m = true :=
  List.all_eq_true.mpr fun _ _ => decide_eq_true rfl

theorem not_revises_self (obj : WorkloadObject) : ¬Revises obj obj := by
  rintro (h | h)
  · exact h.2.2 rfl
  · exact h.2.2 rfl

theorem next_next (scaledDown : Bool) (rollout : Rollout) :
    (rollout.next scaledDown).next scaledDown = rollout.next scaledDown := by
  cases scaledDown <;> cases rollout <;> rfl

/-- What is recorded of a write does not change when it is repeated. -/
theorem nextRollout_accept (old new : WorkloadObject) :
    nextRollout (old.accept new) (old.accept new) = nextRollout old new := by
  rw [nextRollout, if_neg (not_revises_self _)]
  exact next_next _ _

theorem not_dropsRestart_self (obj : WorkloadObject) : ¬DropsRestart obj obj := by
  rintro ⟨h, h', -⟩
  rw [h] at h'
  cases h'

/-- **To write a workload as it is changes nothing.** -/
theorem accept_accept (old new : WorkloadObject) :
    (old.accept new).accept (old.accept new) = old.accept new := by
  have hspec : sameSpec (old.accept new) (old.accept new) = true := by
    rw [sameSpec, sameMap_self, sameMap_self, decide_eq_true rfl]
    rfl
  have hwatch : nextWatch (old.accept new) (old.accept new) = nextWatch old new := by
    rw [nextWatch, nextRollout_accept, decide_eq_false (not_dropsRestart_self _), Bool.not_false,
      Bool.and_true]
    rfl
  rw [accept, hspec, if_pos rfl, hwatch]
  rfl

end WorkloadObject

theorem putWorkload_putWorkload (cl : Cluster) (key : WorkloadKey) (o o' : WorkloadObject) :
    (cl.putWorkload key o).putWorkload key o' = cl.putWorkload key o' := by
  rw [Cluster.putWorkload, Cluster.putWorkload, insert_insert]
  rfl

theorem lookup_putWorkload (cl : Cluster) (key key' : WorkloadKey) (o : WorkloadObject) :
    (cl.putWorkload key o).workloads.lookup key' =
      if key' = key then some o else cl.workloads.lookup key' :=
  GoMap.lookup_insert_ite _ _ _ _

theorem lookup_putWorkload_self (cl : Cluster) (key : WorkloadKey) (o : WorkloadObject) :
    (cl.putWorkload key o).workloads.lookup key = some o := by
  rw [lookup_putWorkload, if_pos rfl]

/-- A change that is done once it is done. -/
def Settles (f : WorkloadObject → WorkloadObject) : Prop :=
  ∀ obj : WorkloadObject, f (obj.accept (f obj)) = obj.accept (f obj)

/-- **What an update can do**: it is done, and so reported or not; or it is not. -/
inductive Updated (key : WorkloadKey) (f : WorkloadObject → WorkloadObject) (cl : Cluster) :
    Cluster → Except ApiError Unit → Prop where
  | done {obj : WorkloadObject} (h : cl.workloads.lookup key = some obj)
      (x : Except ApiError Unit) : Updated key f cl (cl.putWorkload key (obj.accept (f obj))) x
  | failed (e : ApiError) : Updated key f cl cl (.error e)

/-- An attempt starts from a cluster in which the write is done or not. -/
def Attempted (key : WorkloadKey) (f : WorkloadObject → WorkloadObject) (cl cl' : Cluster) : Prop :=
  cl' = cl ∨ ∃ obj, cl.workloads.lookup key = some obj ∧
    cl' = cl.putWorkload key (obj.accept (f obj))

variable {f : WorkloadObject → WorkloadObject} (m : StringMap)

theorem putWorkload_of_attempted (hf : Settles f)
    (hatt : Attempted key f cl cl') (hobj : cl'.workloads.lookup key = some obj) :
    ∃ obj₀, cl.workloads.lookup key = some obj₀ ∧
      cl'.putWorkload key (obj.accept (f obj)) = cl.putWorkload key (obj₀.accept (f obj₀)) := by
  rcases hatt with rfl | ⟨obj₀, hobj₀, rfl⟩
  · exact ⟨obj, hobj, rfl⟩
  · rw [lookup_putWorkload_self] at hobj
    cases hobj
    refine ⟨obj₀, hobj₀, ?_⟩
    rw [putWorkload_putWorkload, hf, WorkloadObject.accept_accept]

/-- **Attempts at a write** amount to one write, or to none. -/
theorem ensures_updateOnConflict (hf : Settles f)
    (cl : Cluster) : Ensures (updateOnConflict key f) cl (Updated key f cl) := by
  refine ensures_bind (Calls.wp_retry (I := fun cl' _ => Attempted key f cl cl')
    (P := fun cl' x => Updated key f cl cl' x.1) (fun cl' _ hatt => ?_) 4 (.inl rfl))
  have hfail : ∀ e : ApiError, Updated key f cl cl' (.error e) := by
    rcases hatt with rfl | ⟨obj, hobj, rfl⟩
    · exact .failed
    · exact fun e => .done hobj _
  refine ensures_bind (ensures_getWorkload (fun obj hobj => ?_)
    (fun _ => ⟨hfail _, fun _ => hatt⟩) fun e _ => ⟨hfail e, fun _ => hatt⟩)
  obtain ⟨obj₀, hobj₀, heq⟩ := putWorkload_of_attempted hf hatt hobj
  refine ensures_bind (ensures_updateWorkload hobj (fun x => ?_) fun e _ =>
    ⟨hfail e, fun _ => hatt⟩)
  rw [heq]
  exact ⟨.done hobj₀ x, fun _ => .inr ⟨obj₀, hobj₀, rfl⟩⟩

theorem settles_beginRestart : Settles beginRestart := by
  intro obj
  rw [beginRestart, WorkloadObject.accept]
  simp only [beginRestart, insert_insert]

theorem erase_of_lookup {m : StringMap} {key : String} (h : m.lookup key = none) :
    m.erase key = m :=
  ext (List.kerase_of_notMem_keys (lookup_eq_none.mp h))

theorem erase_erase_self (key : String) : (m.erase key).erase key = m.erase key :=
  erase_of_lookup (lookup_erase key m)

theorem erase_twice (a b : String) :
    (((m.erase a).erase b).erase a).erase b = (m.erase a).erase b := by
  rw [erase_erase b a, erase_erase_self, erase_erase_self]

theorem settles_completeRestart : Settles completeRestart := by
  intro obj
  rw [completeRestart, WorkloadObject.accept]
  simp only [completeRestart, erase_twice]

theorem settles_cleaned : Settles cleaned := by
  intro obj
  rw [cleaned, WorkloadObject.accept]
  simp only [cleaned, erase_twice, erase_erase_self]

/-! ### Enrolment -/

section Enrolment

variable {rt : AgentRuntimeResource} {ns configHash : String} {cl : Cluster}

theorem valueOf_insert (m : StringMap) (key value : String) :
    valueOf (m.insert key value) key = value := by
  rw [valueOf, lookup_insert, Option.getD_some]

theorem valueOf_insert_ne {key key' : String} (h : key ≠ key') (m : StringMap) (value : String) :
    valueOf (m.insert key' value) key = valueOf m key := by
  rw [valueOf, lookup_insert_ne h, valueOf]

/-- A workload as it comes out of a successful attempt. -/
abbrev stamp (rt : AgentRuntimeResource) (configHash : String) (obj : WorkloadObject) :
    WorkloadObject :=
  obj.accept (configured rt configHash obj)

theorem alreadyConfigured_stamp (rt : AgentRuntimeResource) (configHash : String)
    (obj : WorkloadObject) :
    AlreadyConfigured rt configHash (stamp rt configHash obj).toWorkloadTemplate := by
  have hkeys : rossoctlTypeLabel ≠ labelManagedBy := by decide
  have hkeys' : annotationConfigHash ≠ annotationMTLSMode := by decide
  refine ⟨?_, valueOf_insert _ _ _, valueOf_insert _ _ _, ?_, valueOf_insert _ _ _⟩
  · exact (valueOf_insert_ne hkeys _ _).trans (valueOf_insert _ _ _)
  · exact (valueOf_insert_ne hkeys' _ _).trans (valueOf_insert _ _ _)

/-- What the attempts of `applyWorkloadConfig` can do. -/
inductive Stamped (rt : AgentRuntimeResource) (configHash : String) (key : WorkloadKey)
    (cl : Cluster) : Cluster → Except ApiError Unit × Bool → Prop where
  | already {obj : WorkloadObject} (h : cl.workloads.lookup key = some obj)
      (ha : AlreadyConfigured rt configHash obj.toWorkloadTemplate) :
      Stamped rt configHash key cl cl (.ok (), false)
  | stamped {obj : WorkloadObject} (h : cl.workloads.lookup key = some obj)
      (ha : ¬AlreadyConfigured rt configHash obj.toWorkloadTemplate) (x : Except ApiError Unit) :
      Stamped rt configHash key cl (cl.putWorkload key (stamp rt configHash obj))
        (x, configHashChanged configHash obj.toWorkloadTemplate)
  | failed (e : ApiError) (changed : Bool) : Stamped rt configHash key cl cl (.error e, changed)

/-- What an attempt starts from: nothing is written, and `configHashChanged` is as it was at
first unless a write was tried; or the write is done. -/
inductive Trying (rt : AgentRuntimeResource) (configHash : String) (key : WorkloadKey)
    (cl : Cluster) : Cluster → Bool → Prop where
  | first : Trying rt configHash key cl cl false
  | tried {obj : WorkloadObject} (h : cl.workloads.lookup key = some obj)
      (ha : ¬AlreadyConfigured rt configHash obj.toWorkloadTemplate) (changed : Bool) :
      Trying rt configHash key cl cl changed
  | written {obj : WorkloadObject} (h : cl.workloads.lookup key = some obj)
      (ha : ¬AlreadyConfigured rt configHash obj.toWorkloadTemplate) :
      Trying rt configHash key cl (cl.putWorkload key (stamp rt configHash obj))
        (configHashChanged configHash obj.toWorkloadTemplate)

theorem ensures_write (hobj : cl.workloads.lookup key = some obj)
    (ha : ¬AlreadyConfigured rt configHash obj.toWorkloadTemplate) :
    Ensures (updateWorkload key (configured rt configHash obj)) cl fun cl' x =>
      Stamped rt configHash key cl cl' (x, configHashChanged configHash obj.toWorkloadTemplate) ∧
        Trying rt configHash key cl cl' (configHashChanged configHash obj.toWorkloadTemplate) :=
  ensures_updateWorkload hobj (fun x => ⟨.stamped hobj ha x, .written hobj ha⟩) fun e _ =>
    ⟨.failed e _, .tried hobj ha _⟩

theorem ensures_applyAttempt {changed : Bool} (h : Trying rt configHash key cl cl' changed) :
    Ensures (applyAttempt rt configHash key changed) cl' fun cl'' x =>
      Stamped rt configHash key cl cl'' x ∧
        (IsConflict x.1 = true → Trying rt configHash key cl cl'' x.2) := by
  have hfail : ∀ e : ApiError, Stamped rt configHash key cl cl' (.error e, changed) := by
    intro e
    cases h with
    | first => exact .failed e _
    | tried => exact .failed e _
    | written hobj ha => exact .stamped hobj ha _
  refine ensures_bind (ensures_getWorkload (fun obj hobj => ?_)
    (fun _ => ⟨hfail _, fun _ => h⟩) fun e _ => ⟨hfail e, fun _ => h⟩)
  dsimp only
  cases h with
  | first =>
    split
    · rename_i ha
      exact ⟨.already hobj ha, fun hc => by cases hc⟩
    · rename_i ha
      exact ensures_bind ((ensures_write hobj ha).mono fun _ _ hx => ⟨hx.1, fun _ => hx.2⟩)
  | tried hobj' ha' =>
    cases hobj'.symm.trans hobj
    rw [if_neg ha']
    exact ensures_bind ((ensures_write hobj ha').mono fun _ _ hx => ⟨hx.1, fun _ => hx.2⟩)
  | @written obj₀ hobj' ha' =>
    rw [lookup_putWorkload_self] at hobj
    cases hobj
    rw [if_pos (alreadyConfigured_stamp rt configHash obj₀)]
    exact ⟨.stamped hobj' ha' _, fun hc => by cases hc⟩

/-- **What `applyWorkloadConfig` can do**: nothing, as all is there or a request failed; the
labels and annotations, which is all of it unless a Sandbox has to be restarted; and the
mark of the restart as well. -/
inductive Applied (rt : AgentRuntimeResource) (ns configHash : String) (cl : Cluster) :
    Cluster → Except ApiError Unit → Prop where
  | failed (e : ApiError) : Applied rt ns configHash cl cl (.error e)
  | already {key : WorkloadKey} {obj : WorkloadObject} (hkey : targetOf rt ns = some key)
      (h : cl.workloads.lookup key = some obj)
      (ha : AlreadyConfigured rt configHash obj.toWorkloadTemplate) :
      Applied rt ns configHash cl cl (.ok ())
  | stamped {key : WorkloadKey} {obj : WorkloadObject} (hkey : targetOf rt ns = some key)
      (h : cl.workloads.lookup key = some obj)
      (ha : ¬AlreadyConfigured rt configHash obj.toWorkloadTemplate) {x : Except ApiError Unit}
      (hx : x = .ok () → ¬(rt.targetKind = kindSandbox ∧
        configHashChanged configHash obj.toWorkloadTemplate = true)) :
      Applied rt ns configHash cl (cl.putWorkload key (stamp rt configHash obj)) x
  | marked {key : WorkloadKey} {obj : WorkloadObject} (hkey : targetOf rt ns = some key)
      (h : cl.workloads.lookup key = some obj)
      (ha : ¬AlreadyConfigured rt configHash obj.toWorkloadTemplate)
      (hsandbox : rt.targetKind = kindSandbox)
      (hchanged : configHashChanged configHash obj.toWorkloadTemplate = true)
      (x : Except ApiError Unit) :
      Applied rt ns configHash cl (cl.putWorkload key
        ((stamp rt configHash obj).accept (beginRestart (stamp rt configHash obj)))) x

theorem ensures_applyWorkloadConfig (rt : AgentRuntimeResource) (ns configHash : String)
    (cl : Cluster) :
    Ensures (applyWorkloadConfig rt ns configHash) cl (Applied rt ns configHash cl) := by
  rw [applyWorkloadConfig]
  split
  · exact .failed _
  · rename_i key hkey
    have hloop : Ensures (retryOnConflict (applyAttempt rt configHash key) false) cl
        (Stamped rt configHash key cl) :=
      Calls.wp_retry (I := Trying rt configHash key cl) (fun _ _ => ensures_applyAttempt) 4 .first
    refine ensures_bind (hloop.mono fun cl' x hx => ?_)
    cases hx with
    | already hobj ha =>
      rw [if_neg fun hc => Bool.false_ne_true hc.2]
      exact .already hkey hobj ha
    | failed e changed => exact .failed e
    | @stamped obj hobj ha x =>
      cases x with
      | error e => exact .stamped hkey hobj ha fun hc => by cases hc
      | ok _ =>
        dsimp only
        split
        · rename_i hrestart
          refine ensures_bind ((ensures_updateOnConflict settles_beginRestart _).mono
            fun cl' x hx => ?_)
          cases hx with
          | failed e => exact .stamped hkey hobj ha fun hc => by cases hc
          | @done o ho x =>
            rw [lookup_putWorkload_self] at ho
            cases ho
            rw [putWorkload_putWorkload]
            cases x with
            | error e => exact .marked hkey hobj ha hrestart.1 hrestart.2 _
            | ok _ => exact .marked hkey hobj ha hrestart.1 hrestart.2 _
        · rename_i hrestart
          exact .stamped hkey hobj ha fun _ => hrestart

end Enrolment

/-! ### Deletion -/

section Deletion

variable {cl : Cluster}

/-- What the clean-up of a workload can do. -/
inductive CleanedUp (key : WorkloadKey) (cl : Cluster) : Cluster → Except ApiError Unit → Prop where
  | missing (h : cl.workloads.lookup key = none) : CleanedUp key cl cl (.ok ())
  | done {obj : WorkloadObject} (h : cl.workloads.lookup key = some obj)
      (x : Except ApiError Unit) :
      CleanedUp key cl (cl.putWorkload key (obj.accept (cleaned obj))) x
  | failed (e : ApiError) : CleanedUp key cl cl (.error e)

theorem ensures_cleanUp (key : WorkloadKey) (cl : Cluster) :
    Ensures (cleanUp key) cl (CleanedUp key cl) := by
  refine ensures_bind (Calls.wp_retry (I := fun cl' _ => Attempted key cleaned cl cl')
    (P := fun cl' x => CleanedUp key cl cl' x.1) (fun cl' _ hatt => ?_) 4 (.inl rfl))
  have hfail : ∀ e : ApiError, CleanedUp key cl cl' (.error e) := by
    rcases hatt with rfl | ⟨obj, hobj, rfl⟩
    · exact .failed
    · exact fun e => .done hobj _
  refine ensures_bind (ensures_getWorkload (fun obj hobj => ?_) (fun hnone => ?_) fun e he => ?_)
  · obtain ⟨obj₀, hobj₀, heq⟩ := putWorkload_of_attempted settles_cleaned hatt hobj
    refine ensures_bind (ensures_updateWorkload hobj (fun x => ?_) fun e _ =>
      ⟨hfail e, fun _ => hatt⟩)
    rw [heq]
    exact ⟨.done hobj₀ x, fun _ => .inr ⟨obj₀, hobj₀, rfl⟩⟩
  · refine ⟨?_, fun hc => by cases hc⟩
    rcases hatt with rfl | ⟨obj, hobj, rfl⟩
    · exact .missing hnone
    · exact .done hobj _
  · cases e with
    | notFound => exact absurd rfl he
    | conflict => exact ⟨hfail _, fun _ => hatt⟩
    | other message => exact ⟨hfail _, fun _ => hatt⟩

/-- A runtime without the finalizer of the controller. -/
def released (rt : AgentRuntime) : AgentRuntime :=
  { rt with finalizers := rt.finalizers.filter (· ≠ agentRuntimeFinalizer) }

/-- What a write to a runtime can do. -/
inductive Rewritten (name : NamespacedName) (f : AgentRuntime → AgentRuntime) (cl : Cluster) :
    Cluster → Except ApiError Unit → Prop where
  | done {rt : AgentRuntime} (h : cl.runtimes.lookup name = some rt) (x : Except ApiError Unit) :
      Rewritten name f cl (cl.putRuntime name (f rt)) x
  | failed (e : ApiError) : Rewritten name f cl cl (.error e)

theorem lookup_putRuntime (cl : Cluster) (name name' : NamespacedName) (rt : AgentRuntime) :
    (cl.putRuntime name rt).runtimes.lookup name' =
      if name' = name then retained rt.deleting rt.finalizers rt else cl.runtimes.lookup name' :=
  lookup_put _ _ _ _

theorem putRuntime_putRuntime {name : NamespacedName} {rt rt' : AgentRuntime}
    (h : (cl.putRuntime name rt).runtimes.lookup name = some rt') :
    rt' = rt ∧ (cl.putRuntime name rt).putRuntime name rt = cl.putRuntime name rt := by
  rw [lookup_putRuntime, if_pos rfl] at h
  refine ⟨eq_of_retained h, ?_⟩
  rw [Cluster.putRuntime, Cluster.putRuntime, h, put, put]
  rw [insert_insert]

theorem ensures_rewrite {name : NamespacedName} {f : AgentRuntime → AgentRuntime}
    (hf : ∀ rt, f (f rt) = f rt) {write : AgentRuntime → Api (Except ApiError Unit)}
    (hwrite : ∀ (cl : Cluster) (rt : AgentRuntime) (post : Cluster → Except ApiError Unit → Prop),
      cl.runtimes.lookup name = some rt → (∀ x, post (cl.putRuntime name (f rt)) x) →
      (∀ e, post cl (.error e)) → Ensures (write rt) cl post) (cl : Cluster) :
    Ensures (do
      let x ← retryOnConflict (fun _ : Unit => do
        match ← getRuntime name with
        | .error e => pure (.error e, ())
        | .ok latest =>
          let r ← write latest
          pure (r, ())) ()
      pure x.1) cl (Rewritten name f cl) := by
  refine ensures_bind (Calls.wp_retry (I := fun cl' _ => ∃ x, Rewritten name f cl cl' x)
    (P := fun cl' x => Rewritten name f cl cl' x.1) (fun cl' _ hatt => ?_) 4 ⟨_, .failed .conflict⟩)
  have hfail : ∀ e : ApiError, Rewritten name f cl cl' (.error e) := by
    obtain ⟨x, hatt | e⟩ := hatt
    · exact fun e => .done hatt _
    · exact .failed
  refine ensures_bind (ensures_getRuntime (fun rt hrt => ?_) fun e => ⟨hfail e, fun _ => hatt⟩)
  refine ensures_bind (hwrite cl' rt _ hrt (fun x => ?_) fun e => ⟨hfail e, fun _ => hatt⟩)
  obtain ⟨y, hatt | e⟩ := hatt
  · obtain ⟨rfl, hput⟩ := putRuntime_putRuntime hrt
    rw [hf, hput]
    exact ⟨.done hatt x, fun _ => ⟨x, .done hatt x⟩⟩
  · exact ⟨.done hrt x, fun _ => ⟨x, .done hrt x⟩⟩

theorem released_released (rt : AgentRuntime) : released (released rt) = released rt := by
  rw [released, released]
  simp only [List.filter_filter, Bool.and_self]

theorem ensures_removeFinalizer (name : NamespacedName) (cl : Cluster) :
    Ensures (removeFinalizer name) cl (Rewritten name released cl) :=
  ensures_rewrite (f := released) released_released
    (fun _ _ _ hrt hdone hfail => ensures_updateRuntime hrt hdone hfail) cl

/-- **What `handleDeletion` can do.** -/
inductive Deleted (name : NamespacedName) (rt : AgentRuntime) (cl : Cluster) :
    Cluster → Except ApiError Unit → Prop where
  | foreign (h : agentRuntimeFinalizer ∉ rt.finalizers) : Deleted name rt cl cl (.ok ())
  | unsupported (h : rt.target name.ns = none) {cl' : Cluster} {x : Except ApiError Unit}
      (hx : Rewritten name released cl cl' x) : Deleted name rt cl cl' x
  | failed {key : WorkloadKey} (h : rt.target name.ns = some key) {cl' : Cluster} {e : ApiError}
      (hclean : CleanedUp key cl cl' (.error e)) : Deleted name rt cl cl' (.error e)
  | cleaned {key : WorkloadKey} (h : rt.target name.ns = some key) {cl₁ cl' : Cluster}
      {x : Except ApiError Unit} (hclean : CleanedUp key cl cl₁ (.ok ()))
      (hx : Rewritten name released cl₁ cl' x) : Deleted name rt cl cl' x

theorem ensures_handleDeletion (name : NamespacedName) (rt : AgentRuntime) (cl : Cluster) :
    Ensures (handleDeletion name rt) cl (Deleted name rt cl) := by
  rw [handleDeletion]
  split
  · rename_i h
    exact .foreign h
  · split
    · rename_i h
      exact (ensures_removeFinalizer name cl).mono fun _ _ hx => .unsupported h hx
    · rename_i key h
      refine ensures_bind ((ensures_cleanUp key cl).mono fun cl₁ x hclean => ?_)
      cases x with
      | error e => exact .failed h hclean
      | ok _ =>
        exact (ensures_removeFinalizer name cl₁).mono fun _ _ hx => .cleaned h hclean hx

end Deletion

/-! ### Card discovery -/

section Discovery

variable {cl : Cluster}

theorem ensures_read {α : Type} {q : Request} {read : Response → Option α} {r : Response}
    {post : Cluster → Except ApiError α → Prop} (hserve : cl.serve q = (cl, r))
    (hread : ∀ r, r.Transient → read r = none) (hdone : post cl (answer read r))
    (hfail : ∀ e, post cl (.error e)) : Ensures (ask q read) cl post :=
  ensures_ask hserve hread hdone fun e _ => ⟨hfail e, hfail e⟩

theorem ensures_readWorkload {post : Cluster → Except ApiError WorkloadObject → Prop}
    (hsome : ∀ obj, cl.workloads.lookup key = some obj → post cl (.ok obj))
    (herror : ∀ e, post cl (.error e)) : Ensures (getWorkload key) cl post :=
  ensures_getWorkload hsome (fun _ => herror _) fun e _ => herror e

/-- A change key: empty, or the generation of the target. -/
def IsChangeKey (rt : AgentRuntime) (ns : String) (cl : Cluster) (changeKey : String) : Prop :=
  changeKey = "" ∨ ∃ key obj, rt.target ns = some key ∧ cl.workloads.lookup key = some obj ∧
    changeKey = toString obj.generation

variable (rt : AgentRuntime) (ns : String) (r : AgentRuntimeReconciler) (name : NamespacedName)

theorem ensures_workloadChangeKey (cl : Cluster) :
    Ensures (workloadChangeKey rt ns) cl fun cl' changeKey =>
      cl' = cl ∧ IsChangeKey rt ns cl changeKey := by
  rw [workloadChangeKey]
  split
  · exact ⟨rfl, .inl rfl⟩
  · rename_i key hkey
    refine ensures_bind (ensures_readWorkload (fun obj hobj => ?_) fun e => ⟨rfl, .inl rfl⟩)
    exact ⟨rfl, .inr ⟨key, obj, hkey, hobj, rfl⟩⟩

theorem ensures_checkWorkloadReady (cl : Cluster) :
    Ensures (checkWorkloadReady rt ns) cl fun cl' _ => cl' = cl := by
  rw [checkWorkloadReady]
  split
  · rfl
  · rfl
  · exact ensures_bind (ensures_readWorkload (fun _ _ => rfl) fun _ => rfl)

/-- The Services that may stand for a workload: the one of its name, and one that selects
the labels of its template. -/
def StandsFor (cl : Cluster) (rt : AgentRuntime) (ns : String) (svcName : NamespacedName) : Prop :=
  svcName = ⟨ns, rt.targetName⟩ ∨ ∃ key obj svc, rt.target ns = some key ∧
    cl.workloads.lookup key = some obj ∧ matchingService obj.podLabels
      ((cl.services.entries.map fun e => (e.1, e.2)).filter fun e => e.1.ns = ns) =
        some (svcName, svc)

theorem ensures_listServices (cl : Cluster) :
    Ensures (ask (.listServices ns) Response.services?) cl fun cl' x => cl' = cl ∧
      ∀ list, x = .ok list →
        list = (cl.services.entries.map fun e => (e.1, e.2)).filter fun e => e.1.ns = ns :=
  ensures_read rfl (fun r hr => by cases r <;> first | rfl | exact absurd hr id)
    ⟨rfl, fun _ h => (Except.ok.inj h).symm⟩ fun e => ⟨rfl, fun _ h => by cases h⟩

theorem ensures_serviceBySelector (cl : Cluster) : Ensures (serviceBySelector rt ns) cl fun cl' x =>
      cl' = cl ∧ ∀ e ∈ x, StandsFor cl rt ns e.1 := by
  rw [serviceBySelector]
  split
  · exact ⟨rfl, fun _ h => by cases h⟩
  · rename_i key hkey
    refine ensures_bind (ensures_readWorkload (fun obj hobj => ?_) fun e =>
      ⟨rfl, fun _ h => by cases h⟩)
    dsimp only
    split
    · exact ⟨rfl, fun _ h => by cases h⟩
    · refine ensures_bind ((ensures_listServices ns cl).mono fun cl' x hx => ?_)
      obtain ⟨rfl, hx⟩ := hx
      cases x with
      | error e => exact ⟨rfl, fun _ h => by cases h⟩
      | ok list =>
        refine ⟨rfl, fun entry hentry => ?_⟩
        rw [hx list rfl] at hentry
        exact .inr ⟨key, obj, entry.2, hkey, hobj, hentry⟩

theorem ensures_resolveServiceForWorkload (cl : Cluster) :
    Ensures (resolveServiceForWorkload rt ns) cl fun cl' x =>
      cl' = cl ∧ ∀ e ∈ x, StandsFor cl rt ns e.1 := by
  have hread : ∀ r : Response, r.Transient → r.service? = none := fun r hr => by
    cases r <;> first | rfl | exact absurd hr id
  refine ensures_bind ?_
  cases hsvc : cl.services.lookup ⟨ns, rt.targetName⟩ with
  | none =>
    exact ensures_read (r := .notFound) (by rw [Cluster.serve, hsvc]) hread
      (ensures_serviceBySelector rt ns cl) fun _ => ensures_serviceBySelector rt ns cl
  | some svc =>
    refine ensures_read (r := .service svc) (by rw [Cluster.serve, hsvc]) hread
      ⟨rfl, fun entry hentry => .inl ?_⟩ fun _ => ensures_serviceBySelector rt ns cl
    cases hentry
    rfl

/-- The pods behind a Service, by workload and generation. -/
abbrev Cluster.origins (cl : Cluster) (svcName : NamespacedName) : List (WorkloadKey × ℕ) :=
  (cl.serving svcName).map fun pod => (pod.owner, pod.generation)

/-- A card comes from the pods behind its Service, of which there is one. -/
def ServedBy (cl : Cluster) (svcName : NamespacedName) (card : CardStatus) : Prop :=
  card.served = cl.origins svcName ∧ card.served ≠ []

theorem ensures_fetch (secure : Bool) (svcName : NamespacedName) (cl : Cluster) :
    Ensures (ask (.fetch secure svcName) Response.card?) cl fun cl' x => cl' = cl ∧
      ∀ text served, x = .ok (text, served) → served = cl.origins svcName ∧ served ≠ [] := by
  cases h : (cl.serving svcName).head?.bind Pod.card with
  | none =>
    exact ensures_read (by rw [Cluster.serve, h])
      (fun r hr => by cases r <;> first | rfl | exact absurd hr id)
      ⟨rfl, fun _ _ hc => by cases hc⟩ fun e => ⟨rfl, fun _ _ hc => by cases hc⟩
  | some card =>
    refine ensures_read (by rw [Cluster.serve, h])
      (fun r hr => by cases r <;> first | rfl | exact absurd hr id)
      ⟨rfl, fun text served hc => ?_⟩ fun e => ⟨rfl, fun _ _ hc => by cases hc⟩
    obtain ⟨-, rfl⟩ := Prod.ext_iff.mp (Except.ok.inj hc)
    refine ⟨rfl, fun hnil => ?_⟩
    rw [List.map_eq_nil_iff] at hnil
    rw [hnil] at h
    cases h

theorem ensures_fetchCard (svcName : NamespacedName) (svc : Service) (cl : Cluster) :
    Ensures (r.fetchCard svcName svc) cl fun cl' x =>
      cl' = cl ∧ ∀ card ∈ x, ServedBy cl svcName card := by
  rw [AgentRuntimeReconciler.fetchCard]
  repeat' split
  pick_goal 3
  · exact ⟨rfl, fun _ h => by cases h⟩
  -- over either scheme the card is what one pod serves
  all_goals
    refine ensures_bind ((ensures_fetch _ svcName cl).mono fun cl' x hx => ?_)
    obtain ⟨rfl, hx⟩ := hx
    rcases x with e | ⟨text, served⟩
    · exact ⟨rfl, fun _ h => by cases h⟩
    · refine ⟨rfl, fun card hcard => ?_⟩
      cases hcard
      exact hx text served rfl

/-- A runtime with the change key of its last card. -/
def keyed (changeKey : String) (rt : AgentRuntime) : AgentRuntime :=
  { rt with annotations := rt.annotations.insert annotationLastCardFetchHash changeKey }

/-- **What `fetchAndUpdateCard` can do**: nothing, or fetch a card from the pods behind a
Service and store – or not – the change key it has read before. -/
inductive Fetched (name : NamespacedName) (rt : AgentRuntime) (cl : Cluster) :
    Cluster → Option CardStatus → Prop where
  | disabled : Fetched name rt cl cl none
  | kept : Fetched name rt cl cl rt.card
  | fetched {changeKey : String} (hkey : IsChangeKey rt name.ns cl changeKey)
      {svcName : NamespacedName} (hsvc : StandsFor cl rt name.ns svcName) {card : CardStatus}
      (hcard : ServedBy cl svcName card) {cl' : Cluster}
      (hpatch : cl' = cl ∨ ∃ old, cl.runtimes.lookup name = some old ∧
        cl' = cl.putRuntime name (keyed changeKey old)) :
      Fetched name rt cl cl' (some card)

theorem ensures_persist (changeKey : String) (cl : Cluster) :
    Ensures (ask (.patchAnnotations name annotationLastCardFetchHash changeKey) Response.ok?) cl
      fun cl' _ => cl' = cl ∨ ∃ old, cl.runtimes.lookup name = some old ∧
        cl' = cl.putRuntime name (keyed changeKey old) := by
  cases h : cl.runtimes.lookup name with
  | none =>
    exact ensures_read (by rw [Cluster.serve, h]) (fun r => ok?_of_transient) (.inl rfl)
      fun _ => .inl rfl
  | some old =>
    exact ensures_ask (r := .ok) (by rw [Cluster.serve, h]; rfl) (fun r => ok?_of_transient)
      (.inr ⟨old, rfl, rfl⟩) fun _ _ => ⟨.inl rfl, .inr ⟨old, rfl, rfl⟩⟩

theorem ensures_fetchAndUpdateCard (rt : AgentRuntime) (cl : Cluster) :
    Ensures (r.fetchAndUpdateCard name rt) cl (Fetched name rt cl) := by
  rw [AgentRuntimeReconciler.fetchAndUpdateCard]
  split
  · exact .disabled
  · refine ensures_bind ((ensures_workloadChangeKey rt name.ns cl).mono fun cl' changeKey hx => ?_)
    obtain ⟨rfl, hkey⟩ := hx
    split
    · exact .kept
    · refine ensures_bind ((ensures_checkWorkloadReady rt name.ns _).mono fun cl'' ready hx => ?_)
      obtain rfl := hx
      split
      · exact .kept
      · refine ensures_bind ((ensures_resolveServiceForWorkload rt name.ns _).mono
          fun cl' x hx => ?_)
        obtain ⟨rfl, hsvc⟩ := hx
        rcases x with - | ⟨svcName, svc⟩
        · exact .kept
        · refine ensures_bind ((ensures_fetchCard r svcName svc _).mono fun cl'' x hx => ?_)
          obtain ⟨rfl, hcard⟩ := hx
          cases x with
          | none => exact .kept
          | some card =>
            exact ensures_bind ((ensures_persist name changeKey _).mono fun cl' _ hpatch =>
              .fetched hkey (hsvc _ rfl) (hcard card rfl) hpatch)

/-- The status of a runtime with its card. -/
def withCard (card : Option CardStatus) (rt : AgentRuntime) : AgentRuntime := { rt with card }

theorem ensures_updateStatus (card : Option CardStatus) (cl : Cluster) :
    Ensures (updateStatus name card) cl (Rewritten name (withCard card) cl) := by
  refine ensures_rewrite (f := withCard card) (fun _ => rfl)
    (fun cl rt post hrt hdone hfail => ?_) cl
  exact ensures_ask (r := .ok) (by rw [Cluster.serve, hrt]; rfl) (fun r => ok?_of_transient)
    (hdone _) fun e _ => ⟨hfail e, hdone _⟩

end Discovery

/-! ### A reconcile -/

/-- How a reconcile goes on when the workload has been dealt with. -/
inductive Finished (name : NamespacedName) (card : Option CardStatus) (cl : Cluster) :
    Except ApiError Unit → Cluster → Ending → Prop where
  | notApplied (e : ApiError) : Finished name card cl (.error e) cl (.notApplied e)
  | statusFailed {cl' : Cluster} {e : ApiError}
      (h : Rewritten name (withCard card) cl cl' (.error e)) :
      Finished name card cl (.ok ()) cl' (.statusFailed e)
  | configured {cl' : Cluster} (h : Rewritten name (withCard card) cl cl' (.ok ())) :
      Finished name card cl (.ok ()) cl' .configured

/-- **What a reconcile can do.** -/
inductive Reconciled (r : AgentRuntimeReconciler) (env : Surroundings) (name : NamespacedName)
    (cl : Cluster) : Cluster → Ending → Prop where
  | unread (e : ApiError) : Reconciled r env name cl cl (.unread e)
  | deletion {rt : AgentRuntime} (h : cl.runtimes.lookup name = some rt)
      (hdeleting : rt.deleting = true) {cl' : Cluster} {x : Except ApiError Unit}
      (hx : Deleted name rt cl cl' x) : Reconciled r env name cl cl' (.deletion x)
  | finalizer {rt : AgentRuntime} (h : cl.runtimes.lookup name = some rt)
      (hdeleting : rt.deleting = false) {cl' : Cluster} (x : Except ApiError Unit)
      (hx : cl' = cl ∨ cl' = cl.putRuntime name
        { rt with finalizers := rt.finalizers ++ [agentRuntimeFinalizer] }) :
      Reconciled r env name cl cl' (.finalizer x)
  | targetNotFound (e : ApiError) : Reconciled r env name cl cl (.targetNotFound e)
  | restarted {rt : AgentRuntime} (h : cl.runtimes.lookup name = some rt)
      (hsandbox : rt.targetKind = kindSandbox) {cl' : Cluster} {x : Except ApiError Unit}
      (hx : Updated ⟨.sandbox, name.ns, rt.targetName⟩ completeRestart cl cl' x) :
      Reconciled r env name cl cl' (.restarted x)
  | stopped (message : String) : Reconciled r env name cl cl (.stopped message)
  | applied {rt : AgentRuntime} (h : cl.runtimes.lookup name = some rt)
      (hdeleting : rt.deleting = false) (hfin : agentRuntimeFinalizer ∈ rt.finalizers)
      {configHash : String} (henv : env.configHash = .ok configHash) {cl₁ cl₂ cl₃ : Cluster}
      {card : Option CardStatus} (hcard : Fetched name rt cl cl₁ card)
      {x : Except ApiError Unit}
      (hx : Applied rt.toAgentRuntimeResource name.ns configHash cl₁ cl₂ x) {ending : Ending}
      (hend : Finished name card cl₂ x cl₃ ending) : Reconciled r env name cl cl₃ ending

section Reconcile

variable {r : AgentRuntimeReconciler} {env : Surroundings} {name : NamespacedName}
  {cl : Cluster} {rt : AgentRuntime}

theorem ensures_resolveTargetRef (rt : AgentRuntime) (ns : String) (cl : Cluster) :
    Ensures (resolveTargetRef rt ns) cl fun cl' x => cl' = cl ∧
      (x = .ok () → ∃ key obj, rt.target ns = some key ∧ cl.workloads.lookup key = some obj) := by
  rw [resolveTargetRef]
  split
  · exact ⟨rfl, fun h => by cases h⟩
  · split
    · exact ⟨rfl, fun h => by cases h⟩
    · rename_i key hkey
      refine ensures_bind (ensures_readWorkload (fun obj hobj => ?_) fun e => ?_)
      · exact ⟨rfl, fun _ => ⟨key, obj, hkey, hobj⟩⟩
      · cases e <;> exact ⟨rfl, fun h => by cases h⟩

theorem ensures_pendingRestart (name : NamespacedName) (rt : AgentRuntime) (cl : Cluster) :
    Ensures (AgentRuntimeReconciler.pendingRestart name rt) cl fun cl' x =>
      (x = none ∧ cl' = cl) ∨ ∃ y, x = some y ∧ rt.targetKind = kindSandbox ∧
        Updated ⟨.sandbox, name.ns, rt.targetName⟩ completeRestart cl cl' y := by
  rw [AgentRuntimeReconciler.pendingRestart]
  split
  · rename_i hsandbox
    refine ensures_bind (ensures_readWorkload (fun obj hobj => ?_) fun _ => .inl ⟨rfl, rfl⟩)
    dsimp only
    split
    · exact ensures_bind ((ensures_updateOnConflict settles_completeRestart cl).mono
        fun cl' y hy => .inr ⟨y, rfl, hsandbox, hy⟩)
    · exact .inl ⟨rfl, rfl⟩
  · exact .inl ⟨rfl, rfl⟩

theorem ensures_reconcileConfig (h : cl.runtimes.lookup name = some rt)
    (hdeleting : rt.deleting = false) (hfin : agentRuntimeFinalizer ∈ rt.finalizers) :
    Ensures (r.reconcileConfig env name rt) cl (Reconciled r env name cl) := by
  rw [AgentRuntimeReconciler.reconcileConfig]
  split
  · exact .stopped _
  · exact .stopped _
  · exact .stopped _
  · rename_i configHash _ _ henv
    refine ensures_bind ((ensures_fetchAndUpdateCard r name rt cl).mono fun cl₁ card hcard => ?_)
    refine ensures_bind ((ensures_applyWorkloadConfig _ _ _ cl₁).mono fun cl₂ x hx => ?_)
    cases x with
    | error e => exact .applied h hdeleting hfin henv hcard hx (.notApplied e)
    | ok _ =>
      refine ensures_bind ((ensures_updateStatus name card cl₂).mono fun cl₃ y hy => ?_)
      cases y with
      | error e => exact .applied h hdeleting hfin henv hcard hx (.statusFailed hy)
      | ok _ => exact .applied h hdeleting hfin henv hcard hx (.configured hy)

/-- **Every reconcile is one of its outcomes**, whatever requests fail. -/
theorem ensures_reconcile (r : AgentRuntimeReconciler) (env : Surroundings)
    (name : NamespacedName) (cl : Cluster) :
    Ensures (r.reconcile env name) cl (Reconciled r env name cl) := by
  refine ensures_bind (ensures_getRuntime (fun rt hrt => ?_) .unread)
  dsimp only
  cases hdeleting : rt.deleting with
  | true =>
    exact ensures_bind ((ensures_handleDeletion name rt cl).mono fun cl' x hx =>
      .deletion hrt hdeleting hx)
  | false =>
    rw [if_neg Bool.false_ne_true]
    split
    · refine ensures_bind (ensures_updateRuntime hrt (fun x => ?_) fun e =>
        .finalizer hrt hdeleting _ (.inl rfl))
      exact .finalizer hrt hdeleting x (.inr rfl)
    · rename_i hfin
      refine ensures_bind ((ensures_resolveTargetRef rt name.ns cl).mono fun cl' x hx => ?_)
      obtain ⟨rfl, -⟩ := hx
      cases x with
      | error e => exact .targetNotFound e
      | ok _ =>
        refine ensures_bind ((ensures_pendingRestart name rt _).mono fun cl' x hx => ?_)
        rcases hx with ⟨rfl, rfl⟩ | ⟨y, rfl, hsandbox, hy⟩
        · exact ensures_reconcileConfig hrt hdeleting (not_not.mp hfin)
        · exact .restarted hrt hsandbox hy

end Reconcile

end Rossoctl.Runtime
