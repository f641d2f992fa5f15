import Rossoctl.Webhook.Inject

/-!
# Services in front of an injected pod

A Service reaches a pod through a target port, a number or the name of a container
port (`Rossoctl.Webhook.resolveTarget`). Port stealing is meant to put the reverse
proxy behind every Service that has reached the agent, without touching the Service.

It does so for numbers. A name stays on the container port that carries it, and the
webhook moves that port along with the agent: a Service that names the agent's first
port reaches the agent itself, past the reverse proxy
(`Rossoctl.Webhook.reaches_reverseProxy_iff`).
-/

namespace Rossoctl.Webhook

open Kube List Option

/-! ### Target ports -/

/-- The target of a Service port. -/
inductive TargetPort where
  | number (port : Int)
  | name (port : String)
  deriving DecidableEq

/-- A container port carries a name under a protocol. -/
def ContainerPort.carries (protocol name : String) (p : ContainerPort) : Bool :=
  p.name = name ∧ p.protocol = protocol

/-- The first container port that carries a name. -/
def findPort (protocol name : String) (containers : List Container) : Option ContainerPort :=
  (containers.flatMap Container.ports).find? (ContainerPort.carries protocol name)

/-- The port that a target denotes in a pod: a number as it is, a name through the
container port that carries it. -/
def resolveTarget (pod : PodSpec) (protocol : String) : TargetPort → Option Int
  | .number port => some port
  | .name name => (findPort protocol name pod.containers).map ContainerPort.containerPort

/-- The name is carried by the first port of the agent itself, and by none before. -/
def agentCarries (protocol name : String) : List Container → Bool
  | [] => false
  | c :: cs =>
    if c.name = authBridgeProxyContainerName then
      !c.ports.any (ContainerPort.carries protocol name) && agentCarries protocol name cs
    else
      match c.ports with
      | [] => agentCarries protocol name cs
      | p :: _ => p.carries protocol name

/-! ### Names after an injection -/

section Names

variable (protocol name : String)

theorem findPort_cons (c : Container) (cs : List Container) : findPort protocol name (c :: cs) =
      (c.ports.find? (ContainerPort.carries protocol name)).or (findPort protocol name cs) := by
  rw [findPort, flatMap_cons, find?_append, findPort]

variable {cs : List Container} {p : ContainerPort}

theorem findPort_of_grown {cs' : List Container} (h : List.Forall₂ Container.Grown cs cs') :
    findPort protocol name cs' = findPort protocol name cs := by
  induction h with
  | nil => rfl
  | cons hc _ ih => rw [findPort_cons, findPort_cons, ih, hc.ports_eq]

/-- A port that is found is found in front of containers at the end. -/
theorem findPort_append (h : findPort protocol name cs = some p) (cs' : List Container) :
    findPort protocol name (cs ++ cs') = some p := by
  rw [findPort] at h
  rw [findPort, flatMap_append, find?_append, h]
  rfl

/-- **Moving the agent** moves the name of its first port with it, and no other. -/
theorem findPort_relocateAgent (new : Int) (cs : List Container) :
    findPort protocol name (relocateAgent new cs) =
      if agentCarries protocol name cs then
        (agentPort cs).map fun p => { p with containerPort := new }
      else findPort protocol name cs := by
  induction cs with
  | nil => rfl
  | cons c cs ih =>
    rw [relocateAgent, agentCarries, agentPort]
    by_cases hname : c.name = authBridgeProxyContainerName
    · rw [if_pos hname, if_pos hname, if_pos hname, findPort_cons, findPort_cons, ih]
      cases hany : c.ports.any (ContainerPort.carries protocol name) with
      | true =>
        -- A port of the sidecar's name comes first, before and after.
        obtain ⟨p, hp⟩ := isSome_iff_exists.mp
          ((find?_isSome.trans (by simpa using any_eq_true.mp hany)).mpr trivial)
        rw [hp]
        rfl
      | false =>
        have hnone : c.ports.find? (ContainerPort.carries protocol name) = none :=
          find?_eq_none.mpr fun p hp => any_eq_false.mp hany p hp
        rw [hnone]
        rfl
    · rw [if_neg hname, if_neg hname, if_neg hname]
      cases hports : c.ports with
      | nil =>
        rw [findPort_cons, findPort_cons, ih, hports]
        rfl
      | cons p ps =>
        rw [findPort_cons, findPort_cons, hports, setOrAddEnv]
        have hcarry : ContainerPort.carries protocol name { p with containerPort := new } =
          ContainerPort.carries protocol name p := rfl
        by_cases hp : ContainerPort.carries protocol name p = true
        · simp [hcarry, hp]
        · simp [hcarry, hp]

/-- Where the agent carries the name, its first port is what the name denotes. -/
theorem findPort_of_agentCarries (h : agentCarries protocol name cs = true) :
    findPort protocol name cs = agentPort cs ∧ (agentPort cs).isSome := by
  induction cs with
  | nil => cases h
  | cons c cs ih =>
    rw [agentCarries] at h
    rw [agentPort, findPort_cons]
    by_cases hname : c.name = authBridgeProxyContainerName
    · rw [if_pos hname, Bool.and_eq_true, Bool.not_eq_true'] at h
      have hnone : c.ports.find? (ContainerPort.carries protocol name) = none :=
        find?_eq_none.mpr fun p hp => any_eq_false.mp h.1 p hp
      rw [if_pos hname, hnone]
      exact ih h.2
    · rw [if_neg hname] at h ⊢
      cases hports : c.ports with
      | nil =>
        rw [hports] at h
        exact ih h
      | cons p ps =>
        rw [hports] at h
        have hp : ContainerPort.carries protocol name p = true := h
        rw [find?_cons, hp]
        exact ⟨rfl, rfl⟩

end Names

/-! ### Services and the reverse proxy -/

/-- **What a Service has to do to stay in front of the reverse proxy**: its port is not
0, for which the webhook takes 8000, and it does not name the agent's first port. -/
def StaysInFront (pod : PodSpec) (protocol : String) (port : Int) : TargetPort → Prop
  | .number _ => port ≠ 0
  | .name name => port ≠ 0 ∧ agentCarries protocol name pod.containers = false

theorem originalAgentPort_of_agentPort (h : agentPort cs = some p) :
    originalAgentPort cs = if p.containerPort = 0 then 8000 else p.containerPort := by
  rw [originalAgentPort, h]

/-- The reverse proxy's port is the agent's if, and only if, that is not 0. -/
theorem originalAgentPort_eq_iff (h : agentPort cs = some p) :
    p.containerPort = originalAgentPort cs ↔ p.containerPort ≠ 0 := by
  rw [originalAgentPort_of_agentPort h]
  by_cases hp : p.containerPort = 0
  · rw [if_pos hp, hp]
    decide
  · rw [if_neg hp]
    exact ⟨fun _ => hp, fun _ => rfl⟩

namespace PodMutator.Proxied

variable {m : PodMutator} {cl : Cluster} {w : Workload} {pod out : PodSpec}
  {applied : List ConfigMap} {egress : String} {plan : PortPlan} {document : Members}

/-- A name that the agent's first port carries denotes the moved port; any other that
denoted a port denotes it still. -/
theorem findPort_out (h : m.Proxied cl w pod applied out egress plan document)
    (ht : plan.transparent = false) {protocol name : String} {q : ContainerPort}
    (hq : findPort protocol name pod.containers = some q) :
    findPort protocol name out.containers =
      if agentCarries protocol name pod.containers then
        some { q with containerPort := plan.newAgentPort } else some q := by
  have hmoved := findPort_relocateAgent protocol name plan.newAgentPort pod.containers
  have hmoved' : findPort protocol name (relocateAgent plan.newAgentPort pod.containers) =
      if agentCarries protocol name pod.containers then
        some { q with containerPort := plan.newAgentPort } else some q := by
    rw [hmoved]
    by_cases hc : agentCarries protocol name pod.containers = true
    · rw [if_pos hc, if_pos hc, ← (findPort_of_agentCarries protocol name hc).1, hq]
      rfl
    · rw [if_neg hc, if_neg hc, hq]
  rw [findPort_of_grown protocol name h.containers, plannedContainers, ht,
    if_neg Bool.false_ne_true, addContainerIfMissing]
  split
  · exact hmoved'
  · obtain ⟨r, hr⟩ : ∃ r, (if agentCarries protocol name pod.containers then
        some { q with containerPort := plan.newAgentPort } else some q) = some r := by
      split
      · exact ⟨_, rfl⟩
      · exact ⟨_, rfl⟩
    rw [hr] at hmoved' ⊢
    exact findPort_append protocol name hmoved' _

end PodMutator.Proxied

/-- **Services and port stealing.** For a Service port that denoted the first port of
the agent, the mutated pod answers with the reverse proxy if, and only if, it stays in
front; where it names the agent's first port, it denotes the moved port. -/
theorem reaches_reverseProxy_iff {m : PodMutator} {cl : Cluster} {w : Workload}
    {pod out : PodSpec} (hout : (m.injectAuthBridge cl w pod).result = .ok (some out))
    (hmode : resolveAuthBridgeMode m.codec cl.namespaceConfig w.annotations = modeProxySidecar ∨
      resolveAuthBridgeMode m.codec cl.namespaceConfig w.annotations = modeLite) :
    ∃ egress plan document,
      m.Proxied cl w pod (m.injectAuthBridge cl w pod).applied out egress plan document ∧
      (plan.transparent = false → listenerText document "reverse_proxy_addr" =
          some (":" ++ toString plan.originalAgentPort) ∧
        ∀ p, agentPort pod.containers = some p → ∀ protocol target,
          resolveTarget pod protocol target = some p.containerPort →
          (resolveTarget out protocol target = some plan.originalAgentPort ↔
            StaysInFront pod protocol p.containerPort target)) := by
  obtain ⟨egress, plan, document, h⟩ := PodMutator.proxied_of_injectAuthBridge hout hmode
  refine ⟨egress, plan, document, h, fun ht => ⟨?_, fun p hp protocol target hbefore => ?_⟩⟩
  · obtain ⟨base, -, htext⟩ := h.listenerText_eq "reverse_proxy_addr"
    rw [htext, listenerOverrides, ht]
    rfl
  have horiginal := h.made.original
  cases target with
  | number port =>
    rw [resolveTarget, some.injEq] at hbefore
    rw [resolveTarget, StaysInFront, some.injEq, horiginal, hbefore]
    exact originalAgentPort_eq_iff hp
  | name name =>
    obtain ⟨q, hq, hport⟩ := map_eq_some_iff.mp hbefore
    rw [resolveTarget, h.findPort_out ht hq, StaysInFront]
    by_cases hc : agentCarries protocol name pod.containers = true
    · -- The name goes with the agent, to a port that was free.
      rw [if_pos hc, hc]
      have hne : plan.newAgentPort ≠ plan.originalAgentPort := by
        intro heq
        refine (h.made.moved ht).1.free ?_
        rw [heq, horiginal]
        exact mem_cons_self
      simp [hne]
    · rw [if_neg hc, map_some, hport, some.injEq, horiginal]
      rw [originalAgentPort_eq_iff hp]
      simp [hc]

/-- A Service in front of port 8000 by its number reaches the reverse proxy. -/
theorem reaches_reverseProxy_number : ∃ out egress plan document,
      (plainMutator compiledDefaults []).Proxied (plainCluster []) plainWorkload
        (agentPod [{ name := "http", containerPort := 8000 }])
        ((plainMutator compiledDefaults []).injectAuthBridge (plainCluster []) plainWorkload
          (agentPod [{ name := "http", containerPort := 8000 }])).applied out egress plan
          document ∧
      plan.transparent = false ∧
      resolveTarget out "TCP" (.number 8000) = some plan.originalAgentPort := by
  have hsome : ((plainMutator compiledDefaults []).injectAuthBridge (plainCluster [])
      plainWorkload (agentPod [{ name := "http", containerPort := 8000 }])).injected?.isSome =
      true := by
    decide +kernel
  obtain ⟨out, hout⟩ := isSome_iff_exists.mp hsome
  obtain ⟨egress, plan, document, h, hreach⟩ := reaches_reverseProxy_iff
    (Outcome.injected?_eq_some_iff.mp hout) (.inl (by decide +kernel))
  have ht : plan.transparent = false := h.transparent_eq.trans rfl
  refine ⟨out, egress, plan, document, h, ht, ?_⟩
  exact (((hreach ht).2 _ rfl "TCP" (.number 8000) rfl).mpr (show (8000 : Int) ≠ 0 by decide))

/-- A Service that names the port of the agent is led past the reverse proxy: the name
goes with the agent to port 8001. -/
theorem bypasses_reverseProxy_name : ∃ out egress plan document,
      (plainMutator compiledDefaults []).Proxied (plainCluster []) plainWorkload
        (agentPod [{ name := "http", containerPort := 8000 }])
        ((plainMutator compiledDefaults []).injectAuthBridge (plainCluster []) plainWorkload
          (agentPod [{ name := "http", containerPort := 8000 }])).applied out egress plan
          document ∧
      plan.transparent = false ∧
      resolveTarget (agentPod [{ name := "http", containerPort := 8000 }]) "TCP" (.name "http") =
        some 8000 ∧
      listenerText document "reverse_proxy_addr" = some ":8000" ∧ plan.newAgentPort = 8001 ∧
      resolveTarget out "TCP" (.name "http") = some 8001 := by
  have hsome : ((plainMutator compiledDefaults []).injectAuthBridge (plainCluster [])
      plainWorkload (agentPod [{ name := "http", containerPort := 8000 }])).injected?.any
      (fun out => resolveTarget out "TCP" (.name "http") = some 8001) = true := by
    decide +kernel
  obtain ⟨out, hout, htarget⟩ := (any_eq_true _ _).mp hsome
  obtain ⟨egress, plan, document, h⟩ := PodMutator.proxied_of_injectAuthBridge
    (Outcome.injected?_eq_some_iff.mp hout) (.inl (by decide +kernel))
  have ht : plan.transparent = false := h.transparent_eq.trans rfl
  have hplan : plan = ⟨false, 8000, 8001, 8081⟩ := by
    have heq := h.plan_eq
    exact (Except.ok.inj heq).symm
  have haddr : listenerText document "reverse_proxy_addr" = some ":8000" := by
    obtain ⟨base, -, htext⟩ := h.listenerText_eq "reverse_proxy_addr"
    rw [htext, hplan]
    rfl
  exact ⟨out, egress, plan, document, h, ht, rfl, haddr, by rw [hplan], of_decide_eq_true htarget⟩

end Rossoctl.Webhook
