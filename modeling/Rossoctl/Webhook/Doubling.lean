import Mathlib.Data.List.Count
import Mathlib.Data.List.Nodup
import Rossoctl.Webhook.Inject

/-!
# Nothing twice

What an injection adds it adds by name – containers, volumes, variables – or by name and path –
mounts –, and only where there is none. A pod may come with names that stand twice, before the API
server has looked at it; the webhook does not mend that, and it adds no doubling of its own.

`Rossoctl.Webhook.NoneDoubled` says this of two lists. It composes, so each helper has one lemma
and `Rossoctl.Webhook.PodMutator.noneDoubled_proxyPod` and
`Rossoctl.Webhook.PodMutator.noneDoubled_envoyPod` are put together from them.
-/

namespace Rossoctl.Webhook

open Kube List

/-! ### Lists -/

section Lists

variable {β : Type} [DecidableEq β]

/-- What stands more than once in the second list stood as often in the first. -/
def NoneDoubled (l l' : List β) : Prop := ∀ b, l'.count b ≤ max 1 (l.count b)

theorem NoneDoubled.refl (l : List β) : NoneDoubled l l := fun _ => le_max_right _ _

theorem NoneDoubled.trans {l l' l'' : List β} (h : NoneDoubled l l') (h' : NoneDoubled l' l'') :
    NoneDoubled l l'' := by
  intro b
  have := h b
  have := h' b
  omega

theorem NoneDoubled.append_singleton {l : List β} {b : β} (h : b ∉ l) :
    NoneDoubled l (l ++ [b]) := by
  intro a
  rw [count_append, count_singleton]
  split
  · rename_i heq
    rw [← beq_iff_eq.mp heq, count_eq_zero.mpr h]
    omega
  · omega

theorem NoneDoubled.of_nodup {l' : List β} (h : l'.Nodup) (l : List β) : NoneDoubled l l' :=
  fun b => (nodup_iff_count_le_one.mp h b).trans (le_max_left _ _)

end Lists

/-! ### Containers -/

/-- What a mount is told apart by. -/
def VolumeMount.key (m : VolumeMount) : String × String := (m.name, m.mountPath)

/-- The second container is the first with no variable and no mount doubled. -/
structure Container.NoneDoubled (c c' : Container) : Prop where
  name : c'.name = c.name
  env : Webhook.NoneDoubled (c.env.map EnvVar.name) (c'.env.map EnvVar.name)
  mounts : Webhook.NoneDoubled (c.volumeMounts.map VolumeMount.key)
    (c'.volumeMounts.map VolumeMount.key)

namespace Container

theorem NoneDoubled.refl (c : Container) : c.NoneDoubled c := ⟨rfl, .refl _, .refl _⟩

theorem NoneDoubled.trans {a b c : Container} (h : a.NoneDoubled b) (h' : b.NoneDoubled c) :
    a.NoneDoubled c :=
  ⟨h'.name.trans h.name, h.env.trans h'.env, h.mounts.trans h'.mounts⟩

end Container

theorem map_name_setEnv (name value : String) (es : List EnvVar) :
    (setEnv name value es).map EnvVar.name = if name ∈ es.map EnvVar.name then es.map EnvVar.name
      else es.map EnvVar.name ++ [name] := by
  induction es with
  | nil => rfl
  | cons e es ih =>
    rw [setEnv]
    by_cases hname : e.name = name
    · rw [if_pos hname, if_pos (mem_map.mpr ⟨e, mem_cons_self, hname⟩)]
      rfl
    · rw [if_neg hname, map_cons, map_cons, ih]
      by_cases hmem : name ∈ es.map EnvVar.name
      · rw [if_pos hmem, if_pos (mem_cons_of_mem _ hmem)]
      · rw [if_neg hmem, if_neg fun h => (mem_cons.mp h).elim (fun h => hname h.symm) hmem,
          cons_append]

theorem noneDoubled_setOrAddEnv (c : Container) (name value : String) :
    c.NoneDoubled (setOrAddEnv c name value) := by
  refine ⟨rfl, ?_, .refl _⟩
  rw [setOrAddEnv, map_name_setEnv]
  split
  · exact .refl _
  · rename_i hmem
    exact .append_singleton hmem

theorem noneDoubled_foldl_setOrAddEnv (value : String) (names : List String) (c : Container) :
    c.NoneDoubled (names.foldl (fun c env => setOrAddEnv c env value) c) := by
  induction names generalizing c with
  | nil => exact .refl c
  | cons name names ih => exact (noneDoubled_setOrAddEnv c name value).trans (ih _)

theorem noneDoubled_addEnvIfMissing (es : List EnvVar) (e : EnvVar) :
    NoneDoubled (es.map EnvVar.name) ((addEnvIfMissing es e).map EnvVar.name) := by
  rw [addEnvIfMissing]
  split
  · exact .refl _
  · rename_i hmissing
    rw [map_append, map_singleton]
    refine .append_singleton fun hmem => hmissing ?_
    obtain ⟨x, hx, hname⟩ := mem_map.mp hmem
    exact any_eq_true.mpr ⟨x, hx, decide_eq_true hname⟩

theorem noneDoubled_foldl_addEnvIfMissing (new es : List EnvVar) :
    NoneDoubled (es.map EnvVar.name) ((new.foldl addEnvIfMissing es).map EnvVar.name) := by
  induction new generalizing es with
  | nil => exact .refl _
  | cons e new ih => exact (noneDoubled_addEnvIfMissing es e).trans (ih _)

theorem noneDoubled_injectHTTPProxyEnv (port : Int) (c : Container) :
    c.NoneDoubled (injectHTTPProxyEnv port c) :=
  ⟨rfl, noneDoubled_foldl_addEnvIfMissing _ c.env, .refl _⟩

theorem Container.noneDoubled_mount {c : Container} {vm : VolumeMount}
    (h : ∀ m ∈ c.volumeMounts, m.key ≠ vm.key) :
    c.NoneDoubled { c with volumeMounts := c.volumeMounts ++ [vm] } := by
  refine ⟨rfl, .refl _, ?_⟩
  rw [map_append, map_singleton]
  refine .append_singleton fun hmem => ?_
  obtain ⟨m, hm, hkey⟩ := mem_map.mp hmem
  exact h m hm hkey

theorem noneDoubled_addVolumeMountIfMissing (vm : VolumeMount) (c : Container) :
    c.NoneDoubled (addVolumeMountIfMissing vm c) := by
  rw [addVolumeMountIfMissing]
  split
  · exact .refl c
  · rename_i hmissing
    refine c.noneDoubled_mount fun m hm hkey => hmissing ?_
    exact any_eq_true.mpr ⟨m, hm, decide_eq_true (congrArg Prod.fst hkey)⟩

theorem noneDoubled_appendSubPathMount (vol subPath mountPath : String) (c : Container) :
    c.NoneDoubled (appendSubPathMount vol subPath mountPath c) := by
  rw [appendSubPathMount]
  split
  · exact .refl c
  · rename_i hmissing
    refine c.noneDoubled_mount fun m hm hkey => hmissing ?_
    exact any_eq_true.mpr ⟨m, hm, decide_eq_true ⟨congrArg Prod.fst hkey, congrArg Prod.snd hkey⟩⟩

theorem noneDoubled_mountCredentials (volName : String) (c : Container) :
    c.NoneDoubled (mountCredentials volName c) := by
  rw [mountCredentials]
  split
  · exact (noneDoubled_appendSubPathMount _ _ _ c).trans (noneDoubled_appendSubPathMount _ _ _ _)
  · exact .refl c

theorem noneDoubled_mountTLSBridge (c : Container) : c.NoneDoubled (mountTLSBridge c) := by
  rw [mountTLSBridge]
  split
  · exact noneDoubled_addVolumeMountIfMissing _ c
  · exact (noneDoubled_addVolumeMountIfMissing _ c).trans (noneDoubled_foldl_setOrAddEnv _ _ _)

/-! ### The containers of a pod -/

/-- A container that the webhook has built has nothing twice. -/
def Container.Simple (c : Container) : Prop := Container.NoneDoubled { name := c.name } c

/-- No name is doubled, and each container comes from one that was there or is new. -/
structure ContainersNoneDoubled (cs cs' : List Container) : Prop where
  names : NoneDoubled (cs.map Container.name) (cs'.map Container.name)
  each : ∀ c' ∈ cs', (∃ c ∈ cs, c.NoneDoubled c') ∨ c'.Simple

namespace ContainersNoneDoubled

theorem of_forall₂ {cs cs' : List Container} (h : List.Forall₂ Container.NoneDoubled cs cs') :
    ContainersNoneDoubled cs cs' := by
  have hnames : cs'.map Container.name = cs.map Container.name := by
    induction h with
    | nil => rfl
    | cons hc _ ih => rw [map_cons, map_cons, ih, hc.name]
  refine ⟨hnames ▸ .refl _, fun c' hc' => ?_⟩
  exact .inl (exists_of_forall₂_mem (R := flip Container.NoneDoubled) h.flip hc')

theorem refl (cs : List Container) : ContainersNoneDoubled cs cs :=
  of_forall₂ (forall₂_same.mpr fun c _ => .refl c)

theorem trans {as bs cs : List Container} (h : ContainersNoneDoubled as bs)
    (h' : ContainersNoneDoubled bs cs) : ContainersNoneDoubled as cs := by
  refine ⟨h.names.trans h'.names, fun c hc => ?_⟩
  obtain ⟨b, hb, hbc⟩ | hnew := h'.each c hc
  · obtain ⟨a, ha, hab⟩ | hb := h.each b hb
    · exact .inl ⟨a, ha, hab.trans hbc⟩
    · refine .inr ?_
      rw [Container.Simple, hbc.name]
      exact hb.trans hbc
  · exact .inr hnew

theorem of_map {f : Container → Container} (hf : ∀ c : Container, c.NoneDoubled (f c))
    (cs : List Container) : ContainersNoneDoubled cs (cs.map f) :=
  of_forall₂ (forall₂_map_right_iff.mpr (forall₂_same.mpr fun c _ => hf c))

theorem of_updateFirst {f : Container → Container} (hf : ∀ c : Container, c.NoneDoubled (f c))
    (name : String) (cs : List Container) : ContainersNoneDoubled cs (updateFirst name f cs) :=
  of_forall₂ (forall₂_updateFirst .refl hf name cs)

theorem of_relocateAgent (new : Int) (cs : List Container) :
    ContainersNoneDoubled cs (relocateAgent new cs) := by
  refine of_forall₂ ?_
  induction cs with
  | nil => exact .nil
  | cons c cs ih =>
    rw [relocateAgent]
    split
    · exact .cons (.refl c) ih
    · split
      · exact .cons (.refl c) ih
      · refine .cons ?_ (forall₂_same.mpr fun c _ => .refl c)
        have hports (ports : List ContainerPort) : c.NoneDoubled { c with ports } :=
          ⟨rfl, .refl _, .refl _⟩
        exact (hports _).trans (noneDoubled_setOrAddEnv _ _ _)

/-- A container that is added has no name twice, and is itself new. -/
theorem of_addContainerIfMissing {c : Container} (hc : c.Simple) (cs : List Container) :
    ContainersNoneDoubled cs (addContainerIfMissing cs c) := by
  rw [addContainerIfMissing]
  split
  · exact .refl cs
  · rename_i hmissing
    constructor
    · rw [map_append, map_singleton]
      refine .append_singleton fun hmem => hmissing ?_
      rw [containerExists_eq]
      exact decide_eq_true hmem
    · intro c' hc'
      obtain hc' | hc' := mem_append.mp hc'
      · exact .inl ⟨c', hc', .refl c'⟩
      · rw [mem_singleton.mp hc']
        exact .inr hc

end ContainersNoneDoubled

/-! ### What the webhook builds -/

theorem Container.simple_of_nodup {c : Container} (henv : (c.env.map EnvVar.name).Nodup)
    (hmounts : (c.volumeMounts.map VolumeMount.name).Nodup) : c.Simple := by
  refine ⟨rfl, .of_nodup henv _, .of_nodup ?_ _⟩
  refine List.Nodup.of_map Prod.fst ?_
  rw [map_map]
  exact hmounts

namespace ContainerBuilder

variable (b : ContainerBuilder)

theorem simple_buildProxySidecarContainer (spireEnabled : Bool) (image inboundPortName : String)
    (inboundPort forwardProxyPort : Int) :
    (b.buildProxySidecarContainer spireEnabled image inboundPortName inboundPort
      forwardProxyPort).Simple := by
  refine Container.simple_of_nodup (nodup_singleton _) ?_
  cases spireEnabled
  · change ["shared-data", "authbridge-runtime-config", "authproxy-routes"].Nodup
    decide
  · change ["shared-data", "authbridge-runtime-config", "authproxy-routes", "svid-output",
      "spiffe-helper-config", "spire-agent-socket"].Nodup
    decide

theorem name_envoyEnv (name : String) (value : NamespaceConfig → String) (optional : Bool) :
    (b.envoyEnv name value optional).name = name := by
  rw [envoyEnv]
  split <;> rfl

theorem simple_buildEnvoyProxyContainerWithSpireOption (spireEnabled : Bool) :
    (b.buildEnvoyProxyContainerWithSpireOption spireEnabled).Simple := by
  refine Container.simple_of_nodup ?_ ?_
  · rw [buildEnvoyProxyContainerWithSpireOption, buildEnvoyProxyEnv]
    simp only [map_append, map_cons, map_nil, name_envoyEnv]
    decide
  · cases spireEnabled
    · change ["envoy-config", "shared-data", "authproxy-routes", "authbridge-runtime-config"].Nodup
      decide
    · change ["envoy-config", "shared-data", "authproxy-routes", "authbridge-runtime-config",
        "svid-output", "spiffe-helper-config", "spire-agent-socket"].Nodup
      decide

/-- The variables of the init container, of which some may be left out. -/
theorem names_proxyInitEnv_sublist (outbound inboundPorts : String) (inbound : ProxyInitInbound)
    (mode : ProxyInitMode) :
    ((b.proxyInitEnv outbound inboundPorts inbound mode).map EnvVar.name).Sublist
        ["MODE", "PROXY_UID", "TRANSPARENT_PORT", inboundTransparentPortEnv, "POD_IP", "POD_IPS",
          "SIDECAR_PORTS_EXCLUDE", "INBOUND_PORTS_EXCLUDE"] ∨
      ((b.proxyInitEnv outbound inboundPorts inbound mode).map EnvVar.name).Sublist
        ["PROXY_PORT", "INBOUND_PROXY_PORT", "PROXY_UID", "OUTBOUND_PORTS_EXCLUDE", "POD_IP",
          "INBOUND_PORTS_EXCLUDE"] := by
  cases mode with
  | enforceRedirect =>
    rw [proxyInitEnv, inboundEnv]
    split_ifs <;> simp
  | redirect =>
    rw [proxyInitEnv]
    split_ifs <;> simp

theorem simple_buildProxyInitContainerWithInbound (mode : ProxyInitMode)
    (outbound inboundPorts : String) (inbound : ProxyInitInbound) :
    (b.buildProxyInitContainerWithInbound mode outbound inboundPorts inbound).Simple := by
  refine Container.simple_of_nodup ?_ nodup_nil
  have hcmd : ((if b.cfg.proxy.iptablesCmd ≠ "" then
      [{ name := "IPTABLES_CMD", value := b.cfg.proxy.iptablesCmd }] else
      ([] : List EnvVar)).map EnvVar.name).Sublist ["IPTABLES_CMD"] := by
    split
    · exact .refl _
    · exact nil_sublist _
  rw [buildProxyInitContainerWithInbound, map_append]
  obtain hnames | hnames := b.names_proxyInitEnv_sublist outbound inboundPorts inbound mode
  all_goals
    refine (hnames.append hcmd).nodup ?_
    decide

end ContainerBuilder

/-! ### Volumes -/

theorem noneDoubled_addVolumeIfMissing (vs : List Volume) (v : Volume) :
    NoneDoubled (vs.map Volume.name) ((addVolumeIfMissing vs v).map Volume.name) := by
  rw [addVolumeIfMissing]
  split
  · exact .refl _
  · rename_i hmissing
    rw [map_append, map_singleton]
    refine .append_singleton fun hmem => hmissing ?_
    obtain ⟨u, hu, hname⟩ := mem_map.mp hmem
    exact any_eq_true.mpr ⟨u, hu, decide_eq_true hname⟩

theorem noneDoubled_foldl_addVolumeIfMissing (new vs : List Volume) :
    NoneDoubled (vs.map Volume.name) ((new.foldl addVolumeIfMissing vs).map Volume.name) := by
  induction new generalizing vs with
  | nil => exact .refl _
  | cons v new ih => exact (noneDoubled_addVolumeIfMissing vs v).trans (ih _)

/-! ### Pods -/

/-- **No container, volume, mount or variable is doubled.** -/
structure PodSpec.NoneDoubled (pod pod' : PodSpec) : Prop where
  containers : ContainersNoneDoubled pod.containers pod'.containers
  initContainers : ContainersNoneDoubled pod.initContainers pod'.initContainers
  volumes : Webhook.NoneDoubled (pod.volumes.map Volume.name) (pod'.volumes.map Volume.name)

namespace PodSpec

theorem NoneDoubled.refl (pod : PodSpec) : pod.NoneDoubled pod := ⟨.refl _, .refl _, .refl _⟩

theorem NoneDoubled.trans {a b c : PodSpec} (h : a.NoneDoubled b) (h' : b.NoneDoubled c) :
    a.NoneDoubled c :=
  ⟨h.containers.trans h'.containers, h.initContainers.trans h'.initContainers,
    h.volumes.trans h'.volumes⟩

end PodSpec

theorem noneDoubled_addVolumes (new : List Volume) (pod : PodSpec) :
    pod.NoneDoubled (addVolumes new pod) :=
  ⟨.refl _, .refl _, noneDoubled_foldl_addVolumeIfMissing new pod.volumes⟩

theorem noneDoubled_apply (annotations : StringMap) (pod : PodSpec) :
    pod.NoneDoubled (applyKeycloakClientCredentialsSecretVolumes annotations pod) := by
  rw [applyKeycloakClientCredentialsSecretVolumes]
  split
  · exact .refl pod
  · exact ⟨.of_map (noneDoubled_mountCredentials _) _, .refl _, noneDoubled_addVolumeIfMissing _ _⟩

theorem noneDoubled_applyTLSBridgeMounts (workloadName : String) (pod : PodSpec) :
    pod.NoneDoubled (applyTLSBridgeMounts workloadName pod) :=
  ⟨.of_map noneDoubled_mountTLSBridge _, .refl _,
    noneDoubled_foldl_addVolumeIfMissing _ pod.volumes⟩

namespace PodMutator

variable {m : PodMutator} {ns : NamespaceConfig} {w : Workload} {r : Resolved}

theorem noneDoubled_group (pod : PodSpec) :
    pod.NoneDoubled (if r.spireEnabled then ensureFSGroup pod else pod) := by
  split
  · exact ⟨.refl _, .refl _, .refl _⟩
  · exact .refl pod

theorem noneDoubled_proxyContainers (plan : PortPlan) (cs : List Container) :
    ContainersNoneDoubled cs (m.proxyContainers ns r plan cs) := by
  have hmoved : ContainersNoneDoubled cs
      (if plan.transparent then cs else relocateAgent plan.newAgentPort cs) := by
    split
    · exact .refl cs
    · exact .of_relocateAgent _ cs
  have hsidecar : (m.proxySidecar ns r plan).Simple := by
    rw [proxySidecar]
    split
    · exact ContainerBuilder.simple_buildProxySidecarContainer _ _ _ _ _ _
    · exact ContainerBuilder.simple_buildProxySidecarContainer _ _ _ _ _ _
  refine ((hmoved.trans (.of_addContainerIfMissing hsidecar _)).trans (.of_updateFirst
    (fun c => noneDoubled_setOrAddEnv c _ _) _ _)).trans (.of_map (fun c => ?_) _)
  split
  · exact .refl c
  · exact noneDoubled_injectHTTPProxyEnv _ c

/-- **The proxy sidecar doubles nothing.** -/
theorem noneDoubled_proxyPod (plan : PortPlan) (cmName routesCMName : String) (pod : PodSpec) :
    pod.NoneDoubled (m.proxyPod ns w r plan cmName routesCMName pod) := by
  have hinits : ContainersNoneDoubled pod.initContainers
      (m.proxyInitContainers ns w r plan pod.initContainers) := by
    rw [proxyInitContainers]
    split
    · exact .of_addContainerIfMissing
        (ContainerBuilder.simple_buildProxyInitContainerWithInbound _ _ _ _ _) _
    · exact .refl _
  have hcontainers : pod.NoneDoubled { pod with
      containers := m.proxyContainers ns r plan pod.containers
      initContainers := m.proxyInitContainers ns w r plan pod.initContainers } :=
    ⟨noneDoubled_proxyContainers plan _, hinits, .refl _⟩
  have hbridge (pod : PodSpec) : pod.NoneDoubled (if r.tlsBridgeMode = tlsBridgeModeEnabled then
      applyTLSBridgeMounts w.crName pod else pod) := by
    split
    · exact noneDoubled_applyTLSBridgeMounts _ pod
    · exact .refl pod
  exact (((hcontainers.trans (noneDoubled_addVolumes _ _)).trans (noneDoubled_apply _ _)).trans
    (hbridge _)).trans (noneDoubled_group _)

/-- **Nor does the envoy sidecar.** -/
theorem noneDoubled_envoyPod (decision : InjectionDecision) (volumes : List Volume)
    (pod : PodSpec) : pod.NoneDoubled (m.envoyPod ns w r decision volumes pod) := by
  have hadded (wanted : Bool) {c : Container} (hc : c.Simple) (cs : List Container) :
      ContainersNoneDoubled cs (if wanted then addContainerIfMissing cs c else cs) := by
    split
    · exact .of_addContainerIfMissing hc cs
    · exact .refl cs
  have hcontainers : ContainersNoneDoubled pod.containers (updateFirst envoyProxyContainerName
      (fun c => setOrAddEnv c "MTLS_MODE" r.mtlsMode) (if decision.envoyProxy.inject then
        addContainerIfMissing pod.containers
          ((m.builder ns).buildEnvoyProxyContainerWithSpireOption r.spireEnabled)
      else pod.containers)) :=
    (hadded _ (ContainerBuilder.simple_buildEnvoyProxyContainerWithSpireOption _ _) _).trans
      (.of_updateFirst (fun c => noneDoubled_setOrAddEnv c _ _) _ _)
  have hinits := hadded decision.proxyInit.inject
    (ContainerBuilder.simple_buildProxyInitContainerWithInbound (m.builder ns) .redirect
      (valueOf w.annotations outboundPortsExcludeKey)
      (valueOf w.annotations inboundPortsExcludeKey) {}) pod.initContainers
  have hsteps : ∀ containers initContainers, ContainersNoneDoubled pod.containers containers →
      ContainersNoneDoubled pod.initContainers initContainers →
      pod.NoneDoubled (if r.spireEnabled then ensureFSGroup
        (applyKeycloakClientCredentialsSecretVolumes w.annotations
          (addVolumes volumes { pod with containers, initContainers }))
        else applyKeycloakClientCredentialsSecretVolumes w.annotations
          (addVolumes volumes { pod with containers, initContainers })) := by
    intro containers initContainers hcs his
    have hpod : pod.NoneDoubled { pod with containers, initContainers } := ⟨hcs, his, .refl _⟩
    exact ((hpod.trans (noneDoubled_addVolumes _ _)).trans (noneDoubled_apply _ _)).trans
      (noneDoubled_group _)
  exact hsteps _ _ hcontainers hinits

end PodMutator

end Rossoctl.Webhook
