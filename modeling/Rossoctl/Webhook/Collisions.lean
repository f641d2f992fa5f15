import Rossoctl.Webhook.Inject

/-!
# Collisions of ports

The processes of a pod share one network namespace, so the ports of an injected pod
have to be apart (`Rossoctl.Webhook.CollisionFree`): those that the sidecar binds from
each other, and the two that the webhook hands out – to the agent that moves and to
the forward proxy – from everything else that is bound or declared.

They are apart if, and only if, what the search for a free port does not look at is
clear of them (`Rossoctl.Webhook.PortsClear`): the port that the reverse proxy takes,
and the configured ones, must not be one of the sidecar's own, the first port of the
agent must not be negative or the last `int32`, and the ports of the init containers
that keep running, which the webhook does not collect, must not be in the way
(`Rossoctl.Webhook.collisionFree_iff`). A failed assignment, on the other hand, is
always one for which there is no port left.
-/

namespace Rossoctl.Webhook

open Kube List

/-! ### What has to be apart -/

/-- The init containers that keep running beside the containers. -/
def restartableInits (pod : PodSpec) : List Container :=
  pod.initContainers.filter fun c => c.restartPolicy = some "Always"

/-- The containers of the user. -/
def applicationContainers (pod : PodSpec) : List Container :=
  (pod.containers.filter fun c => c.name ≠ authBridgeProxyContainerName) ++ restartableInits pod

/-- The ports that a pod declares. -/
def podPorts (pod : PodSpec) : List Int :=
  declaredPorts pod.containers ++ declaredPorts (restartableInits pod)

/-- The ports that the sidecar binds: the inbound listener, the forward proxy, the
transparent egress listener, and the three fixed ones. -/
def PortPlan.binds (plan : PortPlan) (cfg : PlatformConfig) : List Int :=
  plan.inboundPort cfg :: plan.forwardProxyPort :: cfg.proxy.transparentPort :: fixedPorts

/-- The ports of a plan are apart, and are ports. -/
structure CollisionFree (cfg : PlatformConfig) (pod : PodSpec) (plan : PortPlan) : Prop where
  distinct : (plan.binds cfg).Nodup
  forward : plan.forwardProxyPort ∉ podPorts pod
  moved : plan.transparent = false →
    plan.newAgentPort ∉ plan.binds cfg ∧ plan.newAgentPort ∉ podPorts pod
  /-- Under transparent interception the agent stays where it is. -/
  stays : plan.transparent = true →
    ∀ c ∈ applicationContainers pod, ∀ p ∈ c.ports, p.containerPort ∉ plan.binds cfg
  forward_range : 1 ≤ plan.forwardProxyPort ∧ plan.forwardProxyPort ≤ 65535
  moved_range : plan.transparent = false → 1 ≤ plan.newAgentPort ∧ plan.newAgentPort ≤ 65535

/-! ### When they are -/

/-- **What the search does not look at is clear.** The first clause is about the
platform alone; the others about the pod, for each of the two mechanisms. -/
structure PortsClear (cfg : PlatformConfig) (pod : PodSpec) (transparent : Bool) : Prop where
  platform : cfg.proxy.transparentPort ∉ fixedPorts
  platform_inbound : transparent = true → cfg.proxy.transparentInboundPort ∉ fixedPorts
  /-- No init container that keeps running declares a port of the sidecar, or the one
  that the search for the forward proxy's port ends at. -/
  inits_stay : transparent = true → ∀ q ∈ declaredPorts (restartableInits pod),
    q ∉ sidecarPorts cfg ∧ ¬ FirstFree (usedPorts cfg pod) 8081 q
  /-- The port that the reverse proxy takes is not one the sidecar has already. -/
  stolen : transparent = false →
    originalAgentPort pod.containers ∉ cfg.proxy.transparentPort :: fixedPorts
  /-- The search for the port of the agent does not end below 1. -/
  positive : transparent = false → ∀ q, int32 (originalAgentPort pod.containers + 1) ≤ q →
    q ≤ 0 → q ∈ usedPorts cfg pod
  /-- No init container that keeps running declares a port that one of the two searches
  ends at. -/
  inits_moved : transparent = false → ∀ q ∈ declaredPorts (restartableInits pod),
    ¬ FirstFree (usedPorts cfg pod) (int32 (originalAgentPort pod.containers + 1)) q ∧
      ∀ p, FirstFree (usedPorts cfg pod) (int32 (originalAgentPort pod.containers + 1)) p →
        ¬ FirstFree (p :: usedPorts cfg pod) 8081 q

section Plan

variable {cfg : PlatformConfig} {pod : PodSpec} {plan : PortPlan}

variable {q : Int}

theorem mem_usedPorts : q ∈ usedPorts cfg pod ↔ q = originalAgentPort pod.containers ∨
      q ∈ declaredPorts pod.containers ∨ q ∈ sidecarPorts cfg := by
  simp [usedPorts]

theorem mem_sidecarPorts : q ∈ sidecarPorts cfg ↔ q = cfg.proxy.transparentPort ∨
      q = cfg.proxy.transparentInboundPort ∨ q ∈ fixedPorts := by
  simp [sidecarPorts]

theorem mem_declaredPorts {cs : List Container} :
    q ∈ declaredPorts cs ↔ ∃ c ∈ cs, ∃ p ∈ c.ports, p.containerPort = q := by
  simp [declaredPorts]

theorem mem_podPorts : q ∈ podPorts pod ↔
      q ∈ declaredPorts pod.containers ∨ q ∈ declaredPorts (restartableInits pod) := by
  simp [podPorts]

/-- A free port is neither the agent's nor declared nor the sidecar's. -/
theorem not_mem_usedPorts (h : q ∉ usedPorts cfg pod) :
    q ≠ originalAgentPort pod.containers ∧ q ∉ declaredPorts pod.containers ∧
      q ≠ cfg.proxy.transparentPort ∧ q ≠ cfg.proxy.transparentInboundPort ∧ q ∉ fixedPorts := by
  rw [mem_usedPorts, mem_sidecarPorts] at h
  simp only [not_or] at h
  exact ⟨h.1, h.2.1, h.2.2⟩

theorem PortPlan.Made.forward_free (h : plan.Made cfg pod) :
    plan.forwardProxyPort ∉ usedPorts cfg pod ∧
      (plan.transparent = false → plan.forwardProxyPort ≠ plan.newAgentPort) := by
  have hfree := h.forward.1.free
  cases ht : plan.transparent with
  | true =>
    rw [ht, if_pos rfl] at hfree
    exact ⟨hfree, fun h => by cases h⟩
  | false =>
    rw [ht, if_neg Bool.false_ne_true, mem_cons, not_or] at hfree
    exact ⟨hfree.2, fun _ => hfree.1⟩

theorem fixedPorts_nodup : fixedPorts.Nodup := by decide

/-- The listeners are distinct if the two that are not searched for are apart from
each other and from the fixed ones. -/
theorem binds_nodup_iff (h : plan.Made cfg pod) : (plan.binds cfg).Nodup ↔
      plan.inboundPort cfg ∉ cfg.proxy.transparentPort :: fixedPorts ∧
        cfg.proxy.transparentPort ∉ fixedPorts := by
  obtain ⟨hne, -, hT, hTin, hfixed⟩ := not_mem_usedPorts h.forward_free.1
  have hinbound : plan.inboundPort cfg ≠ plan.forwardProxyPort := by
    rw [PortPlan.inboundPort]
    split
    · exact hTin.symm
    · rw [h.original]
      exact hne.symm
  have hforward : plan.forwardProxyPort ∉ cfg.proxy.transparentPort :: fixedPorts := by
    rw [mem_cons, not_or]
    exact ⟨hT, hfixed⟩
  rw [PortPlan.binds, nodup_cons, nodup_cons, nodup_cons, mem_cons, not_or]
  constructor
  · rintro ⟨⟨-, hin⟩, -, hT', -⟩
    exact ⟨hin, hT'⟩
  · rintro ⟨hin, hT'⟩
    exact ⟨⟨hinbound, hin⟩, hforward, hT', fixedPorts_nodup⟩

/-- Under transparent interception no container declares a port of the sidecar. -/
theorem not_mem_sidecarPorts_of_clash (h : portClash cfg pod.containers = false)
    {c : Container} (hc : c ∈ pod.containers) (hname : c.name ≠ authBridgeProxyContainerName)
    {p : ContainerPort} (hp : p ∈ c.ports) : p.containerPort ∉ sidecarPorts cfg := by
  intro hmem
  have hall := any_eq_false.mp h c hc
  simp only [decide_eq_true_eq, not_and, Bool.not_eq_true] at hall
  have hport := any_eq_false.mp (hall hname) p hp
  exact hport (decide_eq_true hmem)

/-- **Transparent interception**: the ports are apart where the configured ports and
the init containers are. -/
theorem collisionFree_iff_of_transparent (h : plan.Made cfg pod) (ht : plan.transparent = true)
    (hne : cfg.proxy.transparentInboundPort ≠ cfg.proxy.transparentPort)
    (hclash : portClash cfg pod.containers = false) :
    CollisionFree cfg pod plan ↔ PortsClear cfg pod true := by
  have hfirst := h.forward
  rw [ht, if_pos rfl] at hfirst
  obtain ⟨hfree, -⟩ := h.forward_free
  obtain ⟨-, hdeclared, -, -, -⟩ := not_mem_usedPorts hfree
  have hinbound : plan.inboundPort cfg = cfg.proxy.transparentInboundPort := by
    rw [PortPlan.inboundPort, ht, if_pos rfl]
  have hbinds : ∀ q, q ∈ plan.binds cfg ↔ q = plan.forwardProxyPort ∨ q ∈ sidecarPorts cfg := by
    intro q
    rw [PortPlan.binds, hinbound, mem_sidecarPorts]
    simp only [mem_cons]
    tauto
  constructor
  · intro hc
    have hdistinct := (binds_nodup_iff h).mp hc.distinct
    rw [hinbound, mem_cons, not_or] at hdistinct
    refine ⟨hdistinct.2, fun _ => hdistinct.1.2, fun _ q hq => ?_, fun h => (by cases h),
      fun h => (by cases h), fun h => by cases h⟩
    obtain ⟨c, hcin, p, hp, rfl⟩ := mem_declaredPorts.mp hq
    have hstay := hc.stays ht c (mem_append_right _ hcin) p hp
    rw [hbinds, not_or] at hstay
    exact ⟨hstay.2, fun hff => hstay.1 (hff.unique hfirst.1)⟩
  · intro hclear
    refine ⟨(binds_nodup_iff h).mpr ⟨?_, hclear.platform⟩, ?_, fun hf => absurd ht (by simp [hf]),
      fun _ c hcin p hp => ?_, ⟨?_, hfirst.2⟩, fun hf => absurd ht (by simp [hf])⟩
    · rw [hinbound, mem_cons, not_or]
      exact ⟨hne, hclear.platform_inbound rfl⟩
    · rw [mem_podPorts, not_or]
      exact ⟨hdeclared, fun hq => (hclear.inits_stay rfl _ hq).2 hfirst.1⟩
    · rw [hbinds, not_or]
      rcases mem_append.mp hcin with hcin | hcin
      · obtain ⟨hcpod, hname⟩ := mem_filter.mp hcin
        refine ⟨fun heq => hdeclared (mem_declaredPorts.mpr ⟨c, hcpod, p, hp, heq⟩), ?_⟩
        exact not_mem_sidecarPorts_of_clash hclash hcpod (of_decide_eq_true hname) hp
      · obtain ⟨hports, hff⟩ := hclear.inits_stay rfl p.containerPort
          (mem_declaredPorts.mpr ⟨c, hcin, p, hp, rfl⟩)
        exact ⟨fun heq => hff (heq ▸ hfirst.1), hports⟩
    · have := hfirst.1.le
      omega

/-- **Port stealing**: the ports are apart where the port that is taken is a port of
its own and the init containers are out of the way. -/
theorem collisionFree_iff_of_stolen (h : plan.Made cfg pod) (ht : plan.transparent = false) :
    CollisionFree cfg pod plan ↔ PortsClear cfg pod false := by
  obtain ⟨hmoved, hlimit⟩ := h.moved ht
  have hfirst := h.forward
  rw [ht, if_neg Bool.false_ne_true] at hfirst
  obtain ⟨hfree, hapart⟩ := h.forward_free
  obtain ⟨-, hdeclared, -, -, -⟩ := not_mem_usedPorts hfree
  obtain ⟨hne, hdeclared', hT, -, hfixed⟩ := not_mem_usedPorts hmoved.free
  have hinbound : plan.inboundPort cfg = originalAgentPort pod.containers := by
    rw [PortPlan.inboundPort, ht, if_neg Bool.false_ne_true, h.original]
  -- The port of the agent is apart from the listeners in any case.
  have hbinds : plan.newAgentPort ∉ plan.binds cfg := by
    rw [PortPlan.binds, hinbound]
    simp only [mem_cons, not_or]
    exact ⟨hne, fun heq => hapart ht heq.symm, hT, by simpa [fixedPorts] using hfixed⟩
  constructor
  · intro hc
    have hdistinct := (binds_nodup_iff h).mp hc.distinct
    rw [hinbound] at hdistinct
    refine ⟨hdistinct.2, fun h => (by cases h), fun h => (by cases h), fun _ => hdistinct.1,
      fun _ q hq hq0 => hmoved.below q hq ?_, fun _ q hq => ⟨fun hff => ?_, fun p hp hff => ?_⟩⟩
    · have := (hc.moved_range ht).1
      omega
    · rw [hff.unique hmoved] at hq
      exact (hc.moved ht).2 (mem_podPorts.mpr (.inr hq))
    · rw [hp.unique hmoved] at hff
      rw [hff.unique hfirst.1] at hq
      exact hc.forward (mem_podPorts.mpr (.inr hq))
  · intro hclear
    have hpos : 1 ≤ plan.newAgentPort := by
      by_contra hcon
      exact hmoved.free (hclear.positive rfl _ hmoved.le (by omega))
    refine ⟨(binds_nodup_iff h).mpr ⟨?_, hclear.platform⟩, ?_, fun _ => ⟨hbinds, ?_⟩,
      fun hf => absurd ht (by simp [hf]), ⟨?_, hfirst.2⟩, fun _ => ⟨hpos, hlimit⟩⟩
    · rw [hinbound]
      exact hclear.stolen rfl
    · rw [mem_podPorts, not_or]
      exact ⟨hdeclared, fun hq => (hclear.inits_moved rfl _ hq).2 _ hmoved hfirst.1⟩
    · rw [mem_podPorts, not_or]
      exact ⟨hdeclared', fun hq => (hclear.inits_moved rfl _ hq).1 hmoved⟩
    · have := hfirst.1.le
      omega

end Plan

/-! ### Whole injections -/

/-- The artifacts of an injection have the ports of the plan: the listeners in the
document, the declared ports of the sidecar that was built, and the first port of the
agent that has moved. -/
structure Realised (cfg : PlatformConfig) (pod out : PodSpec) (document : Members)
    (plan : PortPlan) : Prop where
  forward : listenerText document "forward_proxy_addr" =
    some (":" ++ toString plan.forwardProxyPort)
  inbound : listenerText document
    (if plan.transparent then "transparent_inbound_addr" else "reverse_proxy_addr") =
    some (":" ++ toString (plan.inboundPort cfg))
  sidecar : containerExists pod.containers authBridgeProxyContainerName = false →
    ∃ c ∈ out.containers, c.name = authBridgeProxyContainerName ∧
      c.ports.map ContainerPort.containerPort = [plan.inboundPort cfg, plan.forwardProxyPort]
  agent : plan.transparent = false → ∀ p, agentPort pod.containers = some p →
    agentPort out.containers = some { p with containerPort := plan.newAgentPort }

namespace PodMutator

variable {m : PodMutator} {cl : Cluster} {w : Workload} {pod out : PodSpec}
  {applied : List ConfigMap} {egress : String} {plan : PortPlan} {document : Members}

theorem Proxied.realised (h : m.Proxied cl w pod applied out egress plan document) :
    Realised m.platform pod out document plan := by
  refine ⟨?_, ?_, fun hnone => ?_, fun ht p hp => h.agentPort_out ht hp⟩
  · obtain ⟨base, -, htext⟩ := h.listenerText_eq "forward_proxy_addr"
    rw [htext, listenerOverrides]
    cases plan.transparent <;> rfl
  · obtain ⟨base, -, htext⟩ := h.listenerText_eq
      (if plan.transparent then "transparent_inbound_addr" else "reverse_proxy_addr")
    rw [htext, listenerOverrides, PortPlan.inboundPort]
    cases plan.transparent <;> rfl
  · obtain ⟨c, hc, hgrown⟩ := h.sidecar hnone
    refine ⟨c, hc, hgrown.name_eq.trans (proxySidecar_name _ _ _), ?_⟩
    rw [hgrown.ports_eq, proxySidecar_ports]
    rfl

end PodMutator

/-- **When an injection is free of collisions.** A successful injection realises a plan
of ports, and the ports are apart if, and only if, what the search for free ports does
not look at is clear; a failed assignment of ports has no port left. -/
theorem collisionFree_iff {m : PodMutator} {cl : Cluster} {w : Workload} {pod : PodSpec}
    (hvalid : m.platform.validate = .ok ())
    (hmode : resolveAuthBridgeMode m.codec cl.namespaceConfig w.annotations = modeProxySidecar ∨
      resolveAuthBridgeMode m.codec cl.namespaceConfig w.annotations = modeLite) :
    (∀ out, (m.injectAuthBridge cl w pod).result = .ok (some out) → ∃ egress plan document,
        m.Proxied cl w pod (m.injectAuthBridge cl w pod).applied out egress plan document ∧
        Realised m.platform pod out document plan ∧
        (CollisionFree m.platform pod plan ↔ PortsClear m.platform pod (transparentInbound
          m.platform pod
          (resolveInboundInterception m.codec m.platform cl.namespaceConfig egress)))) ∧
    ∀ inbound e, planPorts m.platform pod inbound = .error e →
      NoPortLeft m.platform pod (transparentInbound m.platform pod inbound) := by
  refine ⟨fun out hout => ?_, fun inbound e he => noPortLeft_of_planPorts he⟩
  obtain ⟨egress, plan, document, hproxied⟩ := PodMutator.proxied_of_injectAuthBridge hout hmode
  refine ⟨egress, plan, document, hproxied, hproxied.realised, ?_⟩
  have ht := hproxied.transparent_eq
  rw [← ht]
  cases htrans : plan.transparent with
  | true =>
    -- Transparent interception is left only if no container declares a sidecar's port.
    rw [htrans] at ht
    have hclash : portClash m.platform pod.containers = false := by
      have := of_decide_eq_true ht.symm
      simpa using this.2.2
    exact collisionFree_iff_of_transparent hproxied.made htrans
      (PlatformConfig.valid_of_validate hvalid).ports_ne hclash
  | false => exact collisionFree_iff_of_stolen hproxied.made htrans

/-- The agent on port 8000 of a namespace with all the defaults. -/
theorem collisionFree_agentPod : ∃ out egress plan document,
      (plainMutator compiledDefaults []).Proxied (plainCluster []) plainWorkload
        (agentPod [{ containerPort := 8000 }])
        ((plainMutator compiledDefaults []).injectAuthBridge (plainCluster []) plainWorkload
          (agentPod [{ containerPort := 8000 }])).applied out egress plan document ∧
      CollisionFree compiledDefaults (agentPod [{ containerPort := 8000 }]) plan := by
  have hsome : ((plainMutator compiledDefaults []).injectAuthBridge (plainCluster [])
      plainWorkload (agentPod [{ containerPort := 8000 }])).injected?.isSome = true := by
    decide +kernel
  obtain ⟨out, hout⟩ := Option.isSome_iff_exists.mp hsome
  obtain ⟨egress, plan, document, hproxied, -, hiff⟩ :=
    (collisionFree_iff validate_compiledDefaults (.inl (by decide +kernel))).1 out
      (Outcome.injected?_eq_some_iff.mp hout)
  refine ⟨out, egress, plan, document, hproxied, hiff.mpr ?_⟩
  exact
    { platform := by decide
      platform_inbound := fun _ => by decide
      inits_stay := fun _ q hq => by cases hq
      stolen := fun _ => by decide
      positive := fun _ q hq hq0 => by
        have hstart : int32 (originalAgentPort (agentPod [{ containerPort := 8000 }]).containers
          + 1) = 8001 := by decide
        omega
      inits_moved := fun _ q hq => by cases hq }

/-- An agent whose first port is the one of the transparent egress listener: the
reverse proxy takes that port, and the sidecar binds it twice. -/
theorem collision_stolenPort : ∃ out egress plan document, compiledDefaults.validate = .ok () ∧
      (plainMutator compiledDefaults []).Proxied (plainCluster []) plainWorkload
        (agentPod [{ containerPort := 8082 }])
        ((plainMutator compiledDefaults []).injectAuthBridge (plainCluster []) plainWorkload
          (agentPod [{ containerPort := 8082 }])).applied out egress plan document ∧
      plan.binds compiledDefaults = [8082, 8081, 8082, 9091, 9093, 9094] ∧
      ¬ CollisionFree compiledDefaults (agentPod [{ containerPort := 8082 }]) plan := by
  have hsome : ((plainMutator compiledDefaults []).injectAuthBridge (plainCluster [])
      plainWorkload (agentPod [{ containerPort := 8082 }])).injected?.isSome = true := by
    decide +kernel
  obtain ⟨out, hout⟩ := Option.isSome_iff_exists.mp hsome
  obtain ⟨egress, plan, document, hproxied⟩ := PodMutator.proxied_of_injectAuthBridge
    (Outcome.injected?_eq_some_iff.mp hout) (.inl (by decide +kernel))
  have hplan : plan = ⟨false, 8082, 8084, 8081⟩ := by
    have heq := hproxied.plan_eq
    exact (Except.ok.inj heq).symm
  have hbinds : plan.binds compiledDefaults = [8082, 8081, 8082, 9091, 9093, 9094] := by
    rw [hplan]
    decide
  refine ⟨out, egress, plan, document, validate_compiledDefaults, hproxied, hbinds, fun hfree => ?_⟩
  have hdistinct := hfree.distinct
  rw [hbinds] at hdistinct
  revert hdistinct
  decide

end Rossoctl.Webhook
