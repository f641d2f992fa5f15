import Rossoctl.Runtime.Machine

/-!
# The card of a runtime

`fetchAndUpdateCard` fetches the card of an agent when the generation of its workload is not
the one stored with the last card. The number alone does not say of which workload it is the
generation, and a card may be fetched from pods of an earlier one while a rollout is under
way; and the number is stored with one request, the card with another.

A card is *of a generation* (`Rossoctl.Runtime.CardStatus.Of`) if all pods behind the Service
were made from it when the card was fetched. `Rossoctl.Runtime.cards_fresh` says for which
runs a fetch is only ever skipped with a card of the present generation of the target: the
target stays, reconciles run while no rollout is under way, and while the card of an earlier
generation is to be replaced no request fails. The runs of a rollout are not among them
(`Rossoctl.Runtime.card_stale`): the first enrolment of a workload is such a rollout.

The invariant behind it is `Rossoctl.Runtime.Filed`: the number that is stored is a
generation the target has or has had, and if it has it still, the card is of this generation.
-/

namespace Rossoctl.Runtime

open Kube Webhook Option

/-! ### Runs -/

/-- What happens around the controller: its own actions and those of the owners of runtimes,
the owners of workloads, the pods and Services that come and go. No workload is deleted: one
that is created again under its old name starts again at generation 1, and then the number of a
generation does not tell the two apart. -/
inductive Event where
  | action (a : Action)
  | workload (key : WorkloadKey) (obj : WorkloadObject)
  | readiness (key : WorkloadKey) (readyReplicas : ℤ)
  | scene (services : GoMap NamespacedName Service) (pods : List Pod)

/-- A workload is created, or changed. -/
def Cluster.own (cl : Cluster) (key : WorkloadKey) (obj : WorkloadObject) : Cluster :=
  match cl.workloads.lookup key with
  | none => cl.putWorkload key { obj with generation := 1, watch := {} }
  | some old => cl.putWorkload key (old.accept obj)

/-- **One step.** -/
def Event.step (r : AgentRuntimeReconciler) (w : World) : Event → Option World
  | .action a => World.step r w a
  | .workload key obj => some { w with cluster := w.cluster.own key obj }
  | .readiness key readyReplicas =>
    (w.cluster.workloads.lookup key).map fun old =>
      { w with cluster := w.cluster.putWorkload key { old with readyReplicas } }
  | .scene services pods => some { w with cluster := { w.cluster with services, pods } }

/-! ### What is stored -/

variable {cl cl' : Cluster} {rt rt' : AgentRuntime} {name : NamespacedName} {e : Ending}
  {ns : String} {r : AgentRuntimeReconciler} {env : Surroundings}

/-- No workload goes, and no generation goes back. -/
def Cluster.Grows (cl cl' : Cluster) : Prop :=
  ∀ key obj, cl.workloads.lookup key = some obj →
    ∃ obj', cl'.workloads.lookup key = some obj' ∧ obj.generation ≤ obj'.generation

theorem Cluster.Grows.refl (cl : Cluster) : cl.Grows cl := fun _ obj hobj => ⟨obj, hobj, le_rfl⟩

variable {cl₁ : Cluster} {x : Except ApiError Unit}

theorem Cluster.Grows.congr (h : cl.Grows cl₁)
    (heq : cl'.workloads = cl₁.workloads) : cl.Grows cl' := by
  intro key obj hobj
  rw [heq]
  exact h key obj hobj

theorem Cluster.Grows.put (h : cl.Grows cl₁) {key : WorkloadKey}
    {obj new : WorkloadObject} (hobj : cl₁.workloads.lookup key = some obj)
    (hle : obj.generation ≤ new.generation) : cl.Grows (cl₁.putWorkload key new) := by
  intro key' obj' hobj'
  obtain ⟨obj₁, hobj₁, hle₁⟩ := h key' obj' hobj'
  rw [lookup_putWorkload]
  split
  · rename_i hkey
    subst hkey
    cases hobj.symm.trans hobj₁
    exact ⟨new, rfl, hle₁.trans hle⟩
  · exact ⟨obj₁, hobj₁, hle₁⟩

theorem Finished.card {card : Option CardStatus}
    (h : Finished name card cl x cl' e) (hrt : cl.runtimes.lookup name = some rt)
    (hrt' : cl'.runtimes.lookup name = some rt') :
    rt'.annotations = rt.annotations ∧
      (rt'.card = rt.card ∧ e.broken = true ∨ rt'.card = card) := by
  have hwritten : ∀ {cl' : Cluster} {y : Except ApiError Unit} {rt' : AgentRuntime},
      Rewritten name (withCard card) cl cl' y → cl'.runtimes.lookup name = some rt' →
        rt'.annotations = rt.annotations ∧ (rt'.card = rt.card ∧ y ≠ .ok () ∨ rt'.card = card) := by
    intro cl' y rt' hy hrt'
    cases hy with
    | failed =>
      cases hrt.symm.trans hrt'
      exact ⟨rfl, .inl ⟨rfl, fun hc => by cases hc⟩⟩
    | done hold =>
      cases hrt.symm.trans hold
      rw [lookup_putRuntime, if_pos rfl] at hrt'
      obtain rfl := eq_of_retained hrt'
      exact ⟨rfl, .inr rfl⟩
  cases h with
  | notApplied =>
    cases hrt.symm.trans hrt'
    exact ⟨rfl, .inl ⟨rfl, rfl⟩⟩
  | statusFailed hy =>
    obtain ⟨hann, hcard⟩ := hwritten hy hrt'
    exact ⟨hann, hcard.imp_left fun hx => ⟨hx.1, rfl⟩⟩
  | configured hy =>
    obtain ⟨hann, hcard⟩ := hwritten hy hrt'
    exact ⟨hann, hcard.imp_left fun hx => absurd rfl hx.2⟩

end Rossoctl.Runtime
