import Mathlib
import Rossoctl.Webhook.Inject

/-!
# Which mechanism intercepts, and whether the artifacts agree on it

The inbound mechanism of an injected pod shows in three artifacts: the document of the
agent, the declared ports of the sidecar, and the environment of the init container.
The webhook writes all three from one plan, but it merges the first into whatever the
namespace says, and leaves the other two alone where the pod brings its own.

* `Rossoctl.Webhook.agreement_iff` – the three agree if, and only if, what the
  namespace and the pod bring along agrees with the mechanism;
* `Rossoctl.Webhook.respected_iff` – the effective mechanisms are among those that the
  platform allows if, and only if, no fallback and no foreign init container takes the
  pod out of them: the lists are consulted before the fallbacks.
-/

namespace Rossoctl.Webhook

open Kube List PodMutator

/-! ### The artifacts -/

/-- The container or init container of a name. -/
def containerNamed (name : String) (containers : List Container) : Option Container :=
  containers.find? fun c => c.name = name

/-- The port under which a sidecar declares transparent interception. -/
def transparentIn (c : Container) : Option Int :=
  (c.ports.find? fun p => p.name = "transparent-in").map ContainerPort.containerPort

/-- The variable that arms the inbound redirect, as the container gets to see it: the
last of its name, if it has a value. -/
def inboundCapture (c : Container) : Option EnvVar :=
  ((c.env.filter fun e => e.name = inboundTransparentPortEnv).getLast?).filter
    fun e => e.value ≠ "" ∨ e.valueFrom ≠ none

/-- What the sidecar of a pod declares. -/
def sidecarInbound (containers : List Container) : Option Int :=
  (containerNamed authBridgeProxyContainerName containers).bind transparentIn

/-- What the init container of a pod captures. -/
def initCapture (inits : List Container) : Option EnvVar :=
  (containerNamed proxyInitContainerName inits).bind inboundCapture

/-- **The artifacts agree** on the inbound mechanism, and on its port. -/
structure Agreement (document : Members) (out : PodSpec) : Prop where
  document_sidecar :
    listenerText document "inbound_interception" = some inboundInterceptionTransparent ↔
      (sidecarInbound out.containers).isSome
  sidecar_init : (sidecarInbound out.containers).isSome ↔ (initCapture out.initContainers).isSome
  /-- One port number throughout. -/
  port : ∀ port, sidecarInbound out.containers = some port →
    listenerText document "transparent_inbound_addr" = some (":" ++ toString port) ∧
      (initCapture out.initContainers).map EnvVar.value = some (toString port)
  exclusive : ¬ ((getKey (baseListener document) "reverse_proxy_addr").isSome ∧
    listenerText document "inbound_interception" = some inboundInterceptionTransparent)

/-- **What the namespace and the pod bring along agrees with the mechanism.** -/
structure BringsAgreement (cfg : PlatformConfig) (base : Members) (pod : PodSpec)
    (transparent : Bool) : Prop where
  /-- The namespace has no address for the reverse proxy. -/
  base_transparent : transparent = true → getKey (baseListener base) "reverse_proxy_addr" = none
  base_stolen : transparent = false →
    listenerText base "inbound_interception" ≠ some inboundInterceptionTransparent
  /-- A sidecar that the pod brings declares the same mechanism on the same port. -/
  sidecar : ∀ c, containerNamed authBridgeProxyContainerName pod.containers = some c →
    transparentIn c = if transparent then some cfg.proxy.transparentInboundPort else none
  /-- So does an init container. -/
  init : ∀ c, containerNamed proxyInitContainerName pod.initContainers = some c →
    (inboundCapture c).map EnvVar.value =
      if transparent then some (toString cfg.proxy.transparentInboundPort) else none

/-! ### The sidecar and the init container of a mutated pod -/

theorem containerNamed_relocateAgent (new : Int) (cs : List Container) :
    containerNamed authBridgeProxyContainerName (relocateAgent new cs) =
      containerNamed authBridgeProxyContainerName cs := by
  induction cs with
  | nil => rfl
  | cons c cs ih =>
    rw [containerNamed] at ih
    rw [relocateAgent, containerNamed, containerNamed]
    by_cases hname : c.name = authBridgeProxyContainerName
    · simp [hname]
    · rw [if_neg hname]
      cases c.ports with
      | nil =>
        rw [find?_cons_of_neg (by simpa using hname),
          find?_cons_of_neg (by simpa using hname), ih, containerNamed]
      | cons p ps =>
        rw [find?_cons_of_neg (by simpa [setOrAddEnv] using hname),
          find?_cons_of_neg (by simpa using hname)]

theorem sidecarInbound_of_grown {cs cs' : List Container}
    (h : List.Forall₂ Container.Grown cs cs') : sidecarInbound cs' = sidecarInbound cs := by
  induction h with
  | nil => rfl
  | @cons c c' cs cs' hc _ ih =>
    rw [sidecarInbound, containerNamed] at ih ⊢
    rw [sidecarInbound, containerNamed]
    by_cases hname : c.name = authBridgeProxyContainerName
    · rw [find?_cons_of_pos (by simpa [hc.name_eq] using hname),
        find?_cons_of_pos (by simpa using hname), Option.bind_some, Option.bind_some,
        transparentIn, transparentIn, hc.ports_eq]
    · rw [find?_cons_of_neg (by simpa [hc.name_eq] using hname),
        find?_cons_of_neg (by simpa using hname), ih, sidecarInbound, containerNamed]

/-- The container of a name, after one of that name is added if there is none. -/
theorem containerNamed_addContainerIfMissing (cs : List Container) (c : Container) :
    containerNamed c.name (addContainerIfMissing cs c) =
      some ((containerNamed c.name cs).getD c) := by
  rw [addContainerIfMissing, containerNamed, containerNamed]
  cases hfind : cs.find? fun d => d.name = c.name with
  | none =>
    have hnone : containerExists cs c.name = false := by
      rw [containerExists, any_eq_false]
      exact fun d hd => find?_eq_none.mp hfind d hd
    rw [hnone, if_neg Bool.false_ne_true, find?_append, hfind]
    simp
  | some d =>
    have hsome : containerExists cs c.name = true :=
      containerExists_iff.mpr ⟨d, mem_of_find?_eq_some hfind,
        by simpa using find?_some hfind⟩
    rw [if_pos hsome, hfind]
    rfl

theorem toString_ne_empty (p : Int) : toString p ≠ "" := by
  rw [Int.toString_eq_repr, Int.repr_eq_if]
  split
  · exact Nat.repr_ne_empty
  · intro h
    have := congrArg String.toList h
    rw [String.toList_append] at this
    cases this

theorem filter_ite {α : Type} (p : Prop) [Decidable p] (f : α → Bool) (xs ys : List α) :
    (if p then xs else ys).filter f = if p then xs.filter f else ys.filter f := by
  split
  · rfl
  · rfl

namespace PodMutator

variable {m : PodMutator} {cl : Cluster} {w : Workload} {pod out : PodSpec}
  {applied : List ConfigMap} {egress : String} {plan : PortPlan} {document : Members}

theorem transparentIn_proxySidecar (ns : NamespaceConfig) (r : Resolved) (plan : PortPlan) :
    transparentIn (m.proxySidecar ns r plan) =
      if plan.transparent then some m.platform.proxy.transparentInboundPort else none := by
  rw [transparentIn, proxySidecar_ports, PortPlan.inboundPort]
  cases plan.transparent with
  | true => rfl
  | false => rfl

theorem inboundCapture_proxyInit (hport : 0 < m.platform.proxy.transparentInboundPort)
    (ns : NamespaceConfig) (w : Workload) (plan : PortPlan) :
    (inboundCapture (m.proxyInit ns w plan)).map EnvVar.value =
      if plan.transparent then some (toString m.platform.proxy.transparentInboundPort)
      else none := by
  have hfilter : (m.proxyInit ns w plan).env.filter (fun e => e.name = inboundTransparentPortEnv) =
        if plan.transparent then
          [⟨inboundTransparentPortEnv, toString m.platform.proxy.transparentInboundPort, none⟩]
        else [] := by
    rw [proxyInit, proxyInitInbound]
    cases plan.transparent with
    | true =>
      simp only [if_true, ContainerBuilder.buildProxyInitContainerWithInbound,
        ContainerBuilder.proxyInitEnv, ContainerBuilder.inboundEnv, gt_iff_lt, hport,
        filter_append, filter_ite]
      split <;> split <;> split <;> rfl
    | false =>
      simp only [Bool.false_eq_true, if_false, ContainerBuilder.buildProxyInitContainerWithInbound,
        filter_append, filter_ite]
      split <;> rfl
  rw [inboundCapture, hfilter]
  cases plan.transparent with
  | true => simpa using toString_ne_empty m.platform.proxy.transparentInboundPort
  | false => rfl

/-- The mechanism in the sidecar of the mutated pod: that of the plan, or of a sidecar
that the pod brings. -/
theorem Proxied.sidecarInbound_out (h : m.Proxied cl w pod applied out egress plan document) :
    sidecarInbound out.containers =
      match containerNamed authBridgeProxyContainerName pod.containers with
      | some c => transparentIn c
      | none => if plan.transparent then some m.platform.proxy.transparentInboundPort
          else none := by
  have hname := proxySidecar_name (m := m) cl.namespaceConfig (m.settings cl w egress) plan
  rw [sidecarInbound_of_grown h.containers, plannedContainers, sidecarInbound, ← hname,
    containerNamed_addContainerIfMissing, hname]
  have hmoved : containerNamed authBridgeProxyContainerName (if plan.transparent then pod.containers
        else relocateAgent plan.newAgentPort pod.containers) =
      containerNamed authBridgeProxyContainerName pod.containers := by
    split
    · rfl
    · exact containerNamed_relocateAgent _ _
  rw [hmoved]
  cases containerNamed authBridgeProxyContainerName pod.containers with
  | none => exact transparentIn_proxySidecar _ _ _
  | some c => rfl

/-- The capture in the init container of the mutated pod: that of the plan – which is
none if no guard is injected –, or of an init container that the pod brings. -/
theorem Proxied.initCapture_out (h : m.Proxied cl w pod applied out egress plan document)
    (hvalid : m.platform.Valid) :
    (initCapture out.initContainers).map EnvVar.value =
      match containerNamed proxyInitContainerName pod.initContainers with
      | some c => (inboundCapture c).map EnvVar.value
      | none => if plan.transparent then
          some (toString m.platform.proxy.transparentInboundPort) else none := by
  have hport : 0 < m.platform.proxy.transparentInboundPort := by
    have := hvalid.transparentInboundPort.1
    omega
  have hname : (m.proxyInit cl.namespaceConfig w plan).name = proxyInitContainerName := rfl
  rw [h.initContainers, proxyInitContainers]
  split
  · rw [initCapture, ← hname, containerNamed_addContainerIfMissing, hname]
    cases containerNamed proxyInitContainerName pod.initContainers with
    | none => exact inboundCapture_proxyInit hport _ _ _
    | some c => rfl
  · rename_i hegress
    -- Without the guard the interception is not transparent.
    have ht : plan.transparent = false := by
      rw [h.transparent_eq, transparentInbound, decide_eq_false_iff_not]
      rintro ⟨hinbound, -⟩
      exact hegress (resolveInboundInterception_transparent hvalid hinbound).2
    rw [initCapture, ht]
    cases containerNamed proxyInitContainerName pod.initContainers with
    | none => rfl
    | some c => rfl

end PodMutator

/-! ### Agreement -/

theorem port_of_addr {p q : Int} (h : some (":" ++ toString p) = some (":" ++ toString q)) :
    p = q := by
  have htext : toString p = toString q := by
    have hlist := congrArg String.toList (Option.some.inj h)
    rw [String.toList_append, String.toList_append] at hlist
    exact String.toList_inj.mp (append_cancel_left hlist)
  exact Int.repr_injective htext

section Plan

variable {m : PodMutator} {cl : Cluster} {w : Workload} {pod out : PodSpec}
  {applied : List ConfigMap} {egress : String} {plan : PortPlan} {document base : Members}

theorem agreement_iff_of_transparent (h : m.Proxied cl w pod applied out egress plan document)
    (hvalid : m.platform.Valid) (ht : plan.transparent = true)
    (hlistener : baseListener document = (listenerOverrides m.platform plan).foldl
      (fun ms kv => setKey kv.1 (.str kv.2) ms) (baseListener base)) :
    Agreement document out ↔ BringsAgreement m.platform base pod true := by
  have hmech : listenerText document "inbound_interception" =
      some inboundInterceptionTransparent := by
    rw [listenerText, hlistener, listenerOverrides, ht]
    simp [getKey_setKey, asString]
  have haddr : listenerText document "transparent_inbound_addr" =
      some (":" ++ toString m.platform.proxy.transparentInboundPort) := by
    rw [listenerText, hlistener, listenerOverrides, ht]
    simp [getKey_setKey, asString]
  have hreverse : getKey (baseListener document) "reverse_proxy_addr" =
      getKey (baseListener base) "reverse_proxy_addr" := by
    rw [hlistener, listenerOverrides, ht]
    simp [getKey_setKey]
  have hsidecar := h.sidecarInbound_out
  have hinit := h.initCapture_out hvalid
  rw [ht] at hsidecar hinit
  constructor
  · intro hagree
    obtain ⟨port, hp⟩ := Option.isSome_iff_exists.mp (hagree.document_sidecar.mp hmech)
    obtain ⟨haddr', hvalue⟩ := hagree.port port hp
    have hsame : m.platform.proxy.transparentInboundPort = port :=
      port_of_addr (haddr.symm.trans haddr')
    refine ⟨fun _ => ?_, fun hf => (by cases hf), fun c hc => ?_, fun c hc => ?_⟩
    · rw [← hreverse, Option.eq_none_iff_forall_ne_some]
      intro v hv
      exact hagree.exclusive ⟨by rw [hv]; rfl, hmech⟩
    · rw [hc, hp] at hsidecar
      rw [if_pos rfl, hsame]
      exact hsidecar.symm
    · rw [hc, hvalue] at hinit
      rw [if_pos rfl, hsame]
      exact hinit.symm
  · intro hbrings
    have hsidecar' : sidecarInbound out.containers =
        some m.platform.proxy.transparentInboundPort := by
      cases hc : containerNamed authBridgeProxyContainerName pod.containers with
      | none => rw [hsidecar, hc]; rfl
      | some c => rw [hsidecar, hc]; exact hbrings.sidecar c hc
    have hinit' : (initCapture out.initContainers).map EnvVar.value =
        some (toString m.platform.proxy.transparentInboundPort) := by
      cases hc : containerNamed proxyInitContainerName pod.initContainers with
      | none => rw [hinit, hc]; rfl
      | some c => rw [hinit, hc]; exact hbrings.init c hc
    have hsome : (initCapture out.initContainers).isSome := by
      rw [← Option.isSome_map, hinit']
      rfl
    refine ⟨?_, ?_, fun port hp => ?_, fun hboth => ?_⟩
    · rw [hsidecar']
      exact ⟨fun _ => rfl, fun _ => hmech⟩
    · rw [hsidecar']
      exact ⟨fun _ => hsome, fun _ => rfl⟩
    · rw [hsidecar'] at hp
      cases hp
      exact ⟨haddr, hinit'⟩
    · rw [hreverse, hbrings.base_transparent rfl] at hboth
      cases hboth.1

theorem agreement_iff_of_stolen (h : m.Proxied cl w pod applied out egress plan document)
    (hvalid : m.platform.Valid) (ht : plan.transparent = false)
    (hlistener : baseListener document = (listenerOverrides m.platform plan).foldl
      (fun ms kv => setKey kv.1 (.str kv.2) ms) (baseListener base)) :
    Agreement document out ↔ BringsAgreement m.platform base pod false := by
  have hmech : listenerText document "inbound_interception" =
      listenerText base "inbound_interception" := by
    rw [listenerText, hlistener, listenerOverrides, ht]
    simp [getKey_setKey, listenerText]
  have hreverse : (getKey (baseListener document) "reverse_proxy_addr").isSome := by
    rw [hlistener, listenerOverrides, ht]
    simp [getKey_setKey]
  have hsidecar := h.sidecarInbound_out
  have hinit := h.initCapture_out hvalid
  rw [ht] at hsidecar hinit
  constructor
  · intro hagree
    have hnot : listenerText document "inbound_interception" ≠
        some inboundInterceptionTransparent := fun hcon => hagree.exclusive ⟨hreverse, hcon⟩
    have hnone : sidecarInbound out.containers = none :=
      Option.not_isSome_iff_eq_none.mp (mt hagree.document_sidecar.mpr hnot)
    have hnone' : initCapture out.initContainers = none := by
      refine Option.not_isSome_iff_eq_none.mp (mt hagree.sidecar_init.mpr ?_)
      rw [hnone]
      exact Bool.false_ne_true
    refine ⟨fun hf => (by cases hf), fun _ => ?_, fun c hc => ?_, fun c hc => ?_⟩
    · rw [← hmech]
      exact hnot
    · rw [hc, hnone] at hsidecar
      exact hsidecar.symm
    · rw [hc, hnone'] at hinit
      exact hinit.symm
  · intro hbrings
    have hsidecar' : sidecarInbound out.containers = none := by
      cases hc : containerNamed authBridgeProxyContainerName pod.containers with
      | none => rw [hsidecar, hc]; rfl
      | some c => rw [hsidecar, hc]; exact hbrings.sidecar c hc
    have hinit' : initCapture out.initContainers = none := by
      rw [← Option.map_eq_none_iff (f := EnvVar.value)]
      cases hc : containerNamed proxyInitContainerName pod.initContainers with
      | none => rw [hinit, hc]; rfl
      | some c => rw [hinit, hc]; exact hbrings.init c hc
    have hnot : listenerText document "inbound_interception" ≠
        some inboundInterceptionTransparent := by
      rw [hmech]
      exact hbrings.base_stolen rfl
    refine ⟨?_, ?_, fun port hp => ?_, fun hboth => hnot hboth.2⟩
    · rw [hsidecar']
      exact ⟨fun hcon => absurd hcon hnot, fun hcon => by cases hcon⟩
    · rw [hsidecar', hinit']
      exact ⟨fun hcon => (by cases hcon), fun hcon => by cases hcon⟩
    · rw [hsidecar'] at hp
      cases hp

end Plan

/-- **When the artifacts agree**: if, and only if, what the namespace and the pod bring
along agrees with the mechanism that is left after the fallbacks. -/
theorem agreement_iff {m : PodMutator} {cl : Cluster} {w : Workload} {pod out : PodSpec}
    (hvalid : m.platform.validate = .ok ())
    (hout : (m.injectAuthBridge cl w pod).result = .ok (some out))
    (hmode : resolveAuthBridgeMode m.codec cl.namespaceConfig w.annotations = modeProxySidecar ∨
      resolveAuthBridgeMode m.codec cl.namespaceConfig w.annotations = modeLite) :
    ∃ egress plan document base,
      m.Proxied cl w pod (m.injectAuthBridge cl w pod).applied out egress plan document ∧
      m.baseDocument cl.namespaceConfig.authBridgeRuntimeYAML = .ok base ∧
      (Agreement document out ↔ BringsAgreement m.platform base pod (transparentInbound
        m.platform pod
        (resolveInboundInterception m.codec m.platform cl.namespaceConfig egress))) := by
  have hvalid := PlatformConfig.valid_of_validate hvalid
  obtain ⟨egress, plan, document, h⟩ := proxied_of_injectAuthBridge hout hmode
  obtain ⟨base, hbase, hlistener⟩ := baseListener_perAgentConfig h.document_eq
  refine ⟨egress, plan, document, base, h, hbase, ?_⟩
  rw [← h.transparent_eq]
  cases ht : plan.transparent with
  | true => exact agreement_iff_of_transparent h hvalid ht hlistener
  | false => exact agreement_iff_of_stolen h hvalid ht hlistener

/-- A namespace that asks for transparent interception, and a pod that brings
nothing. -/
theorem agreement_agentPod : ∃ out egress plan document, (plainMutator compiledDefaults
          [("inboundInterception", .str inboundInterceptionTransparent)]).Proxied
        (plainCluster []) plainWorkload (agentPod [{ containerPort := 8000 }])
        ((plainMutator compiledDefaults
          [("inboundInterception", .str inboundInterceptionTransparent)]).injectAuthBridge
          (plainCluster []) plainWorkload (agentPod [{ containerPort := 8000 }])).applied
        out egress plan document ∧
      sidecarInbound out.containers = some 8083 ∧ Agreement document out := by
  have hsome : ((plainMutator compiledDefaults
      [("inboundInterception", .str inboundInterceptionTransparent)]).injectAuthBridge
      (plainCluster []) plainWorkload (agentPod [{ containerPort := 8000 }])).injected?.any
      (fun out => sidecarInbound out.containers = some 8083) = true := by
    decide +kernel
  obtain ⟨out, hout, hport⟩ := (Option.any_eq_true _ _).mp hsome
  obtain ⟨egress, plan, document, base, h, hbase, hiff⟩ := agreement_iff
    validate_compiledDefaults (Outcome.injected?_eq_some_iff.mp hout) (.inl (by decide +kernel))
  refine ⟨out, egress, plan, document, h, of_decide_eq_true hport, hiff.mpr ?_⟩
  cases hbase
  refine ⟨fun _ => rfl, fun _ => ?_, fun c hc => ?_, fun c hc => ?_⟩
  · exact fun hcon => by cases hcon
  · cases hc
  · cases hc

/-- A namespace whose `listener` section asks for transparent interception by itself:
the port of the agent is stolen, and the document says both. -/
theorem disagreement_baseListener : ∃ out egress plan document, compiledDefaults.validate = .ok () ∧
      (plainMutator compiledDefaults
          [("listener", .obj [("inbound_interception", .str "transparent")])]).Proxied
        (plainCluster []) plainWorkload (agentPod [{ containerPort := 8000 }])
        ((plainMutator compiledDefaults
          [("listener", .obj [("inbound_interception", .str "transparent")])]).injectAuthBridge
          (plainCluster []) plainWorkload (agentPod [{ containerPort := 8000 }])).applied
        out egress plan document ∧
      listenerText document "reverse_proxy_addr" = some ":8000" ∧
      listenerText document "inbound_interception" = some inboundInterceptionTransparent ∧
      sidecarInbound out.containers = none ∧ ¬ Agreement document out := by
  have hsome : ((plainMutator compiledDefaults
      [("listener", .obj [("inbound_interception", .str "transparent")])]).injectAuthBridge
      (plainCluster []) plainWorkload (agentPod [{ containerPort := 8000 }])).injected?.any
      (fun out => sidecarInbound out.containers = none) = true := by
    decide +kernel
  obtain ⟨out, hout, hport⟩ := (Option.any_eq_true _ _).mp hsome
  obtain ⟨egress, plan, document, h⟩ := proxied_of_injectAuthBridge
    (Outcome.injected?_eq_some_iff.mp hout) (.inl (by decide +kernel))
  have hplan : plan = ⟨false, 8000, 8001, 8081⟩ := by
    have heq := h.plan_eq
    exact (Except.ok.inj heq).symm
  have hreverse : listenerText document "reverse_proxy_addr" = some ":8000" := by
    obtain ⟨base, -, htext⟩ := h.listenerText_eq "reverse_proxy_addr"
    rw [htext, hplan]
    rfl
  have hmech : listenerText document "inbound_interception" =
      some inboundInterceptionTransparent := by
    obtain ⟨base, hbase, htext⟩ := h.listenerText_eq "inbound_interception"
    rw [htext, hplan]
    cases hbase
    rfl
  refine ⟨out, egress, plan, document, validate_compiledDefaults, h, hreverse, hmech,
    of_decide_eq_true hport, fun hagree => hagree.exclusive ⟨?_, hmech⟩⟩
  obtain ⟨v, hv, -⟩ := Option.bind_eq_some_iff.mp hreverse
  rw [hv]
  rfl

/-! ### The policy of the platform -/

/-- An init container is the egress guard, as the operator builds it. -/
def ContainerBuilder.Guard (b : ContainerBuilder) (c : Container) : Prop :=
  ∃ inbound, c = b.buildProxyInitContainerWithInbound .enforceRedirect "" "" inbound

/-- The egress of a pod is guarded. -/
def Guarded (b : ContainerBuilder) (inits : List Container) : Prop := ∃ c ∈ inits, b.Guard c

/-- **The effective mechanisms are allowed**: the egress is guarded, or is not, and the
port is stolen, or is not, only where the platform allows it. -/
structure Respected (b : ContainerBuilder) (plan : PortPlan) (out : PodSpec) : Prop where
  guarded : Guarded b out.initContainers →
    egressEnforcementEnforceRedirect ∈ b.cfg.proxy.allowedEgressEnforcement
  unguarded : ¬ Guarded b out.initContainers →
    egressEnforcementNone ∈ b.cfg.proxy.allowedEgressEnforcement
  transparent : plan.transparent = true →
    inboundInterceptionTransparent ∈ b.cfg.proxy.allowedInboundInterception
  stolen : plan.transparent = false →
    inboundInterceptionReverseProxy ∈ b.cfg.proxy.allowedInboundInterception

/-- **What keeps a pod within the policy.** -/
structure KeepsPolicy (b : ContainerBuilder) (codec : Codec) (ns : NamespaceConfig)
    (pod : PodSpec) : Prop where
  /-- A platform that mandates no guard gets no pod that brings one. -/
  noGuard : egressEnforcementEnforceRedirect ∉ b.cfg.proxy.allowedEgressEnforcement →
    ¬ Guarded b pod.initContainers
  /-- One that mandates the guard gets no pod with another init container of its name. -/
  guard : egressEnforcementNone ∉ b.cfg.proxy.allowedEgressEnforcement →
    containerExists pod.initContainers proxyInitContainerName = false ∨ Guarded b pod.initContainers
  /-- One that mandates transparent interception allows the guard it needs, and takes
  it over the namespace's wish; … -/
  egress : inboundInterceptionReverseProxy ∉ b.cfg.proxy.allowedInboundInterception →
    egressEnforcementEnforceRedirect ∈ b.cfg.proxy.allowedEgressEnforcement ∧
      (extractEgressEnforcement codec ns.authBridgeRuntimeYAML = egressEnforcementNone →
        egressEnforcementNone ∉ b.cfg.proxy.allowedEgressEnforcement)
  /-- … and gets no pod for which there is a fallback to port stealing. -/
  fallback : inboundInterceptionReverseProxy ∉ b.cfg.proxy.allowedInboundInterception →
    initAllowsTransparent pod.initContainers = true ∧ portClash b.cfg pod.containers = false

theorem guarded_addContainerIfMissing {b : ContainerBuilder} {inits : List Container}
    {c : Container} (hc : b.Guard c) :
    Guarded b (addContainerIfMissing inits c) ↔
      containerExists inits c.name = false ∨ Guarded b inits := by
  rw [addContainerIfMissing]
  cases hexists : containerExists inits c.name with
  | true => simp
  | false =>
    exact ⟨fun _ => .inl rfl, fun _ => ⟨c, mem_append_right _ (mem_singleton.mpr rfl), hc⟩⟩

/-- **When the policy of the platform is respected**: if, and only if, the pod brings
nothing that takes the place of the guard, and there is no fallback from a mechanism
that is mandated. -/
theorem respected_iff {m : PodMutator} {cl : Cluster} {w : Workload} {pod out : PodSpec}
    (hvalid : m.platform.validate = .ok ())
    (hout : (m.injectAuthBridge cl w pod).result = .ok (some out))
    (hmode : resolveAuthBridgeMode m.codec cl.namespaceConfig w.annotations = modeProxySidecar ∨
      resolveAuthBridgeMode m.codec cl.namespaceConfig w.annotations = modeLite) :
    ∃ egress plan document,
      m.Proxied cl w pod (m.injectAuthBridge cl w pod).applied out egress plan document ∧
      (Respected (m.builder cl.namespaceConfig) plan out ↔
        KeepsPolicy (m.builder cl.namespaceConfig) m.codec cl.namespaceConfig pod) := by
  have hvalid := PlatformConfig.valid_of_validate hvalid
  obtain ⟨egress, plan, document, h⟩ := proxied_of_injectAuthBridge hout hmode
  refine ⟨egress, plan, document, h, ?_⟩
  have hallowed := resolveEgressEnforcement_mem h.egress_eq
  have hegress := resolveEgressEnforcement_eq_iff hvalid h.egress_eq
  -- Which init containers guard the mutated pod.
  have hguarded : Guarded (m.builder cl.namespaceConfig) out.initContainers ↔
      egress = egressEnforcementEnforceRedirect ∧
          containerExists pod.initContainers proxyInitContainerName = false ∨
        Guarded (m.builder cl.namespaceConfig) pod.initContainers := by
    rw [h.initContainers, proxyInitContainers]
    by_cases he : egress = egressEnforcementEnforceRedirect
    · have hset : (m.settings cl w egress).egressEnforcement =
          egressEnforcementEnforceRedirect := he
      have hguard : (m.builder cl.namespaceConfig).Guard (m.proxyInit cl.namespaceConfig w plan) :=
        ⟨_, rfl⟩
      rw [if_pos hset, guarded_addContainerIfMissing hguard]
      exact or_congr_left ⟨fun hx => ⟨he, hx⟩, fun hx => hx.2⟩
    · have hset : (m.settings cl w egress).egressEnforcement ≠
          egressEnforcementEnforceRedirect := he
      rw [if_neg hset]
      exact ⟨.inr, fun hx => hx.resolve_left fun hx => he hx.1⟩
  -- What transparent interception takes.
  have htransparent : plan.transparent = true ↔
      resolveInboundInterception m.codec m.platform cl.namespaceConfig egress =
          inboundInterceptionTransparent ∧
        initAllowsTransparent pod.initContainers = true ∧
          portClash m.platform pod.containers = false := by
    rw [h.transparent_eq, transparentInbound, decide_eq_true_iff]
    simp
  constructor
  · intro hrespected
    have hmandated : inboundInterceptionReverseProxy ∉
        m.platform.proxy.allowedInboundInterception → plan.transparent = true := by
      intro hnot
      by_contra hcon
      exact hnot (hrespected.stolen ((Bool.not_eq_true _).mp hcon))
    refine ⟨fun hnot hpod => hnot (hrespected.guarded (hguarded.mpr (.inr hpod))), fun hnot => ?_,
      fun hnot => ?_, fun hnot => ?_⟩
    · have hg : Guarded (m.builder cl.namespaceConfig) out.initContainers := by
        by_contra hcon
        exact hnot (hrespected.unguarded hcon)
      exact (hguarded.mp hg).imp_left And.right
    · have hinbound := (htransparent.mp (hmandated hnot)).1
      exact hegress.mp (resolveInboundInterception_transparent hvalid hinbound).2
    · exact (htransparent.mp (hmandated hnot)).2
  · intro hkeeps
    refine ⟨fun hg => ?_, fun hg => ?_, fun ht => ?_, fun ht => ?_⟩
    · by_contra hnot
      rcases hguarded.mp hg with ⟨he, -⟩ | hpod
      · rw [he] at hallowed
        exact hnot hallowed
      · exact hkeeps.noGuard hnot hpod
    · by_contra hnot
      have he : egress = egressEnforcementEnforceRedirect := by
        rcases hvalid.egress_mem _ hallowed with he | he
        · exact he
        · rw [he] at hallowed
          exact absurd hallowed hnot
      exact hg (hguarded.mpr ((hkeeps.guard hnot).imp_left fun hx => ⟨he, hx⟩))
    · exact (resolveInboundInterception_transparent hvalid (htransparent.mp ht).1).1
    · by_contra hnot
      have he := hegress.mpr (hkeeps.egress hnot)
      have hinbound : resolveInboundInterception m.codec m.platform cl.namespaceConfig egress =
          inboundInterceptionTransparent := by
        rw [he]
        exact resolveInboundInterception_mandated hvalid cl.namespaceConfig hnot
      have htrue := htransparent.mpr ⟨hinbound, hkeeps.fallback hnot⟩
      rw [ht] at htrue
      cases htrue

/-- A platform that mandates transparent interception and the egress guard. -/
def strictPlatform : PlatformConfig :=
  { compiledDefaults with
    proxy := { compiledDefaults.proxy with
      allowedInboundInterception := [inboundInterceptionTransparent]
      allowedEgressEnforcement := [egressEnforcementEnforceRedirect] } }

/-- A pod that brings nothing gets what the platform mandates. -/
theorem respected_agentPod : ∃ out egress plan document,
      (plainMutator strictPlatform []).Proxied (plainCluster []) plainWorkload
        (agentPod [{ containerPort := 8000 }])
        ((plainMutator strictPlatform []).injectAuthBridge (plainCluster []) plainWorkload
          (agentPod [{ containerPort := 8000 }])).applied out egress plan document ∧
      Respected ((plainMutator strictPlatform []).builder (plainCluster []).namespaceConfig) plan
        out := by
  have hsome : ((plainMutator strictPlatform []).injectAuthBridge (plainCluster [])
      plainWorkload (agentPod [{ containerPort := 8000 }])).injected?.isSome = true := by
    decide +kernel
  obtain ⟨out, hout⟩ := Option.isSome_iff_exists.mp hsome
  obtain ⟨egress, plan, document, h, hiff⟩ := respected_iff (m := plainMutator strictPlatform [])
    rfl (Outcome.injected?_eq_some_iff.mp hout) (.inl (by decide +kernel))
  refine ⟨out, egress, plan, document, h, hiff.mpr ?_⟩
  exact
    { noGuard := fun _ hguard => by
        obtain ⟨c, hc, -⟩ := hguard
        cases hc
      guard := fun _ => .inl rfl
      egress := fun _ => ⟨by decide, fun hcon => absurd hcon (by decide +kernel)⟩
      fallback := fun _ => ⟨rfl, by decide +kernel⟩ }

/-- A pod that declares the port of the inbound listener falls back to port stealing,
although the platform mandates transparent interception. -/
theorem unrespected_fallback : ∃ out egress plan document, strictPlatform.validate = .ok () ∧
      (plainMutator strictPlatform []).Proxied (plainCluster []) plainWorkload
        (agentPod [{ containerPort := 8083 }])
        ((plainMutator strictPlatform []).injectAuthBridge (plainCluster []) plainWorkload
          (agentPod [{ containerPort := 8083 }])).applied out egress plan document ∧
      strictPlatform.proxy.allowedInboundInterception = [inboundInterceptionTransparent] ∧
      plan.transparent = false ∧
      ¬ Respected ((plainMutator strictPlatform []).builder (plainCluster []).namespaceConfig)
        plan out := by
  have hsome : ((plainMutator strictPlatform []).injectAuthBridge (plainCluster [])
      plainWorkload (agentPod [{ containerPort := 8083 }])).injected?.isSome = true := by
    decide +kernel
  obtain ⟨out, hout⟩ := Option.isSome_iff_exists.mp hsome
  obtain ⟨egress, plan, document, h⟩ := proxied_of_injectAuthBridge
    (Outcome.injected?_eq_some_iff.mp hout) (.inl (by decide +kernel))
  have hegress : egress = egressEnforcementEnforceRedirect := (Except.ok.inj h.egress_eq).symm
  have ht : plan.transparent = false := by
    rw [h.transparent_eq, hegress]
    decide +kernel
  refine ⟨out, egress, plan, document, rfl, h, rfl, ht, fun hrespected => ?_⟩
  have hmem : inboundInterceptionReverseProxy ∈ [inboundInterceptionTransparent] :=
    hrespected.stolen ht
  revert hmem
  decide

end Rossoctl.Webhook
