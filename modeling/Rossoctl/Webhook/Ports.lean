import Rossoctl.FirstFree
import Rossoctl.Webhook.Builder

/-!
# The assignment of ports

The part of `InjectAuthBridge` that decides, in the proxy-sidecar and lite modes, on
which ports the sidecar listens and where the agent moves
(`internal/webhook/injector/pod_mutator.go`, `Rossoctl.Webhook.planPorts`).

The reverse proxy takes the first port that an application container declares, and
the agent moves to the next free one; under transparent interception the agent stays
and the sidecar listens on a port of its own, unless the pod brings its own init
container without the inbound redirect, or declares a port that the sidecar binds
(`Rossoctl.Webhook.transparentInbound`). The forward proxy takes the first free port
from 8081 on.

`Rossoctl.Webhook.made_of_planPorts` describes a plan without the search: its ports
are the first free ones.
-/

namespace Rossoctl.Webhook

open Kube List

/-- The value of a sum in `int32`. -/
def int32 (x : Int) : Int := Int.bmod x (2 ^ 32)

/-- The ports that containers declare. -/
def declaredPorts (containers : List Container) : List Int :=
  containers.flatMap fun c => c.ports.map ContainerPort.containerPort

/-- The first port of the first container that is not the sidecar and declares any. -/
def agentPort : List Container → Option ContainerPort
  | [] => none
  | c :: cs => if c.name = authBridgeProxyContainerName then agentPort cs
      else c.ports.head? <|> agentPort cs

/-- Move the agent: that port gets the new number – and keeps its name –, and the
variable `PORT` of the container says so. -/
def relocateAgent (newAgentPort : Int) : List Container → List Container
  | [] => []
  | c :: cs =>
    if c.name = authBridgeProxyContainerName then c :: relocateAgent newAgentPort cs
    else
      match c.ports with
      | [] => c :: relocateAgent newAgentPort cs
      | p :: ps =>
        setOrAddEnv { c with ports := { p with containerPort := newAgentPort } :: ps } "PORT"
          (toString newAgentPort) :: cs

/-- The port that the reverse proxy takes: the agent's, or 8000. -/
def originalAgentPort (containers : List Container) : Int :=
  match agentPort containers with
  | none => 8000
  | some p => if p.containerPort = 0 then 8000 else p.containerPort

/-- The listeners of the sidecar that are not configurable. -/
def fixedPorts : List Int := [authBridgeHealthPort, authBridgeStatsPort, authBridgeSessionAPIPort]

/-- The ports that belong to the sidecar, whatever the inbound mechanism. -/
def sidecarPorts (cfg : PlatformConfig) : List Int :=
  cfg.proxy.transparentPort :: cfg.proxy.transparentInboundPort :: fixedPorts

/-- `usedPorts`, before any search. -/
def usedPorts (cfg : PlatformConfig) (pod : PodSpec) : List Int :=
  originalAgentPort pod.containers :: (declaredPorts pod.containers ++ sidecarPorts cfg)

/-- `findFreePort`: the port, and the ports in use from then on. -/
def findFreePort (used : List Int) (start : Int) : Except String (Int × List Int) :=
  match findFirst used 65535 start with
  | none => .error ("no free port available starting from " ++ toString start)
  | some p => .ok (p, p :: used)

/-- An init container carries the variable of the inbound redirect. -/
def armed (c : Container) : Bool :=
  c.env.any fun e => e.name = inboundTransparentPortEnv ∧ e.value ≠ ""

/-- The init container that is there already, if any, installs the inbound redirect. -/
def initAllowsTransparent (inits : List Container) : Bool :=
  (inits.find? fun c => c.name = proxyInitContainerName).all armed

/-- An application container declares a port that the sidecar would bind. -/
def portClash (cfg : PlatformConfig) (containers : List Container) : Bool :=
  containers.any fun c => c.name ≠ authBridgeProxyContainerName ∧
    c.ports.any fun p => p.containerPort ∈ sidecarPorts cfg

/-- `transparentInbound`, after the fallbacks. -/
def transparentInbound (cfg : PlatformConfig) (pod : PodSpec) (inboundInterception : String) :
    Bool :=
  inboundInterception = inboundInterceptionTransparent ∧ initAllowsTransparent pod.initContainers ∧
    !portClash cfg pod.containers

/-- The ports of an injected pod. -/
structure PortPlan where
  transparent : Bool
  /-- The port of the reverse proxy. -/
  originalAgentPort : Int
  /-- Where the agent moves; 0 if it stays. -/
  newAgentPort : Int
  forwardProxyPort : Int
  deriving DecidableEq

/-- The assignment of ports. -/
def planPorts (cfg : PlatformConfig) (pod : PodSpec) (inboundInterception : String) :
    Except String PortPlan :=
  let original := originalAgentPort pod.containers
  if transparentInbound cfg pod inboundInterception then
    match findFreePort (usedPorts cfg pod) 8081 with
    | .error e => .error e
    | .ok (forward, _) => .ok ⟨true, original, 0, forward⟩
  else
    match findFreePort (usedPorts cfg pod) (int32 (original + 1)) with
    | .error e => .error e
    | .ok (new, used) =>
      match findFreePort used 8081 with
      | .error e => .error e
      | .ok (forward, _) => .ok ⟨false, original, new, forward⟩

/-- The port on which inbound traffic reaches the sidecar. -/
def PortPlan.inboundPort (plan : PortPlan) (cfg : PlatformConfig) : Int :=
  if plan.transparent then cfg.proxy.transparentInboundPort else plan.originalAgentPort

/-! ### The plan, without the search -/

theorem findFreePort_eq_ok_iff {used used' : List Int} {start p : Int} :
    findFreePort used start = .ok (p, used') ↔
      (FirstFree used start p ∧ p ≤ 65535) ∧ used' = p :: used := by
  rw [← findFirst_eq_some_iff, findFreePort]
  cases findFirst used 65535 start with
  | none => exact ⟨fun h => (by cases h), fun ⟨h, _⟩ => by cases h⟩
  | some q =>
    constructor
    · intro h
      cases h
      exact ⟨rfl, rfl⟩
    · rintro ⟨h, rfl⟩
      cases h
      rfl

/-- `findFreePort` fails only if there is no free port from the start on. -/
theorem taken_of_findFreePort {used : List Int} {start : Int} {e : String}
    (h : findFreePort used start = .error e) : ∀ q, start ≤ q → q ≤ 65535 → q ∈ used := by
  rw [findFreePort] at h
  split at h
  · rename_i hnone
    exact findFirst_eq_none_iff.mp hnone
  · cases h

/-- What a plan is, for the mechanism it is made for. -/
structure PortPlan.Made (plan : PortPlan) (cfg : PlatformConfig) (pod : PodSpec) : Prop where
  original : plan.originalAgentPort = Webhook.originalAgentPort pod.containers
  /-- The agent moves to the first free port after its own. -/
  moved : plan.transparent = false →
    FirstFree (usedPorts cfg pod) (int32 (Webhook.originalAgentPort pod.containers + 1))
      plan.newAgentPort ∧ plan.newAgentPort ≤ 65535
  stays : plan.transparent = true → plan.newAgentPort = 0
  /-- The forward proxy gets the first port from 8081 on that is free after that. -/
  forward : FirstFree
    (if plan.transparent then usedPorts cfg pod else plan.newAgentPort :: usedPorts cfg pod)
    8081 plan.forwardProxyPort ∧ plan.forwardProxyPort ≤ 65535

variable {cfg : PlatformConfig} {pod : PodSpec} {p : ContainerPort}

/-- **A successful assignment is a plan as described**, for the mechanism that is left
after the fallbacks. -/
theorem made_of_planPorts {inbound : String}
    {plan : PortPlan} (h : planPorts cfg pod inbound = .ok plan) :
    plan.transparent = transparentInbound cfg pod inbound ∧ plan.Made cfg pod := by
  rw [planPorts] at h
  by_cases ht : transparentInbound cfg pod inbound = true
  · rw [if_pos ht] at h
    split at h
    · cases h
    · rename_i forward used' hforward
      cases h
      obtain ⟨hfree, -⟩ := findFreePort_eq_ok_iff.mp hforward
      exact ⟨ht.symm, rfl, fun h => (by cases h), fun _ => rfl, hfree⟩
  · rw [if_neg ht] at h
    split at h
    · cases h
    · rename_i new used' hnew
      split at h
      · cases h
      · rename_i forward used'' hforward
        cases h
        obtain ⟨hmoved, rfl⟩ := findFreePort_eq_ok_iff.mp hnew
        obtain ⟨hfree, -⟩ := findFreePort_eq_ok_iff.mp hforward
        exact ⟨((Bool.not_eq_true _).mp ht).symm, rfl, fun _ => hmoved, fun h => (by cases h), hfree⟩

/-- There is no port left: none from 8081 on, or – if the agent moves – none after its
own, or only the one that it moves to. -/
def NoPortLeft (cfg : PlatformConfig) (pod : PodSpec) (transparent : Bool) : Prop :=
  if transparent then ∀ q, 8081 ≤ q → q ≤ 65535 → q ∈ usedPorts cfg pod
  else
    (∀ q, int32 (originalAgentPort pod.containers + 1) ≤ q → q ≤ 65535 → q ∈ usedPorts cfg pod) ∨
    ∃ new, FirstFree (usedPorts cfg pod) (int32 (originalAgentPort pod.containers + 1)) new ∧
      ∀ q, 8081 ≤ q → q ≤ 65535 → q ∈ new :: usedPorts cfg pod

/-- **A failed assignment** has no port left. -/
theorem noPortLeft_of_planPorts {inbound e : String} (h : planPorts cfg pod inbound = .error e) :
    NoPortLeft cfg pod (transparentInbound cfg pod inbound) := by
  rw [planPorts] at h
  by_cases ht : transparentInbound cfg pod inbound = true
  · rw [if_pos ht] at h
    rw [NoPortLeft, if_pos ht]
    split at h
    · rename_i hforward
      exact taken_of_findFreePort hforward
    · cases h
  · rw [if_neg ht] at h
    rw [NoPortLeft, if_neg ht]
    split at h
    · rename_i hnew
      exact .inl (taken_of_findFreePort hnew)
    · rename_i new used' hnew
      obtain ⟨⟨hmoved, -⟩, rfl⟩ := findFreePort_eq_ok_iff.mp hnew
      split at h
      · rename_i hforward
        exact .inr ⟨new, hmoved, taken_of_findFreePort hforward⟩
      · cases h

/-! ### Moving the agent -/

theorem map_name_relocateAgent (new : Int) (cs : List Container) :
    (relocateAgent new cs).map Container.name = cs.map Container.name := by
  induction cs with
  | nil => rfl
  | cons c cs ih =>
    rw [relocateAgent]
    split
    · rw [map_cons, ih, map_cons]
    · split
      · rw [map_cons, ih, map_cons]
      · rfl

variable {cs : List Container}

theorem agentPort_relocateAgent (h : agentPort cs = some p) (new : Int) :
    agentPort (relocateAgent new cs) = some { p with containerPort := new } := by
  induction cs with
  | nil => cases h
  | cons c cs ih =>
    rw [agentPort] at h
    rw [relocateAgent]
    split at h
    · rename_i hname
      rw [if_pos hname, agentPort, if_pos hname, ih h]
    · rename_i hname
      rw [if_neg hname]
      split
      · rename_i hports
        rw [hports, head?_nil] at h
        rw [agentPort, if_neg hname, hports, head?_nil]
        exact ih h
      · rename_i q qs hports
        rw [hports] at h
        cases h
        rw [agentPort, setOrAddEnv, if_neg hname]
        rfl

theorem agentPort_of_grown {cs' : List Container} (h : List.Forall₂ Container.Grown cs cs') :
    agentPort cs' = agentPort cs := by
  induction h with
  | nil => rfl
  | cons hc _ ih => rw [agentPort, agentPort, hc.name_eq, hc.ports_eq, ih]

theorem agentPort_append (h : agentPort cs = some p) (cs' : List Container) :
    agentPort (cs ++ cs') = some p := by
  induction cs with
  | nil => cases h
  | cons c cs ih =>
    rw [agentPort] at h
    rw [cons_append, agentPort]
    split at h
    · rename_i hname
      rw [if_pos hname, ih h]
    · rename_i hname
      rw [if_neg hname]
      cases hports : c.ports.head? with
      | none =>
        rw [hports] at h
        exact ih h
      | some q =>
        rw [hports] at h
        exact h

end Rossoctl.Webhook
