import Rossoctl.Webhook.AgentConfig

/-!
# The injection

`InjectAuthBridge` (`internal/webhook/injector/pod_mutator.go`,
`Rossoctl.Webhook.PodMutator.injectAuthBridge`): filters, resolution, and the two
shapes that are injected, the proxy sidecar with its plan of ports and the Envoy
sidecar.

The proofs go through one description of a successful injection in the proxy-sidecar
and lite modes, `Rossoctl.Webhook.PodMutator.proxied_of_injectAuthBridge`: the pod is
`Rossoctl.Webhook.PodMutator.proxyPod` for a plan that `planPorts` made, and the
first ConfigMap that was applied holds the document of the agent with the listeners
of the same plan.
-/

namespace Rossoctl.Webhook

open Kube List

/-! ### The workload and the outcome -/

/-- What the webhook knows of the workload of a pod. -/
structure Workload where
  ns : String
  crName : String
  kind : String
  labels : StringMap
  annotations : StringMap

/-- What comes out of an injection: the ConfigMaps that were applied – also before an
error –, and the error, or the new pod, or no change at all. -/
structure Outcome where
  applied : List ConfigMap
  result : Except String (Option PodSpec)

/-- The pod is left as it is. -/
def Outcome.skipped : Outcome := ⟨[], .ok none⟩

/-- The pod that an injection has changed. -/
def Outcome.injected? (o : Outcome) : Option PodSpec :=
  match o.result with
  | .ok pod => pod
  | .error _ => none

variable {pod : PodSpec}

theorem Outcome.injected?_eq_some_iff {o : Outcome} :
    o.injected? = some pod ↔ o.result = .ok (some pod) := by
  rw [injected?]
  cases o.result with
  | ok p => exact ⟨fun h => congrArg Except.ok h, fun h => Except.ok.inj h⟩
  | error e => exact ⟨fun h => (by cases h), fun h => by cases h⟩

/-- `ensureServiceAccount`. -/
def ensureServiceAccount (cl : Cluster) (namespaceName name : String) : Except String Unit :=
  match cl.createServiceAccount with
  | .created => .ok ()
  | .alreadyExists =>
    match cl.getServiceAccount with
    | .error e => .error ("failed to fetch existing ServiceAccount " ++ namespaceName ++ "/" ++
        name ++ ": " ++ e)
    | .ok () => .ok ()
  | .failed e => .error ("failed to create ServiceAccount " ++ namespaceName ++ "/" ++ name ++
      ": " ++ e)

/-- A ServiceAccount of its own for a pod that has none, or the default one. -/
def withServiceAccount (cl : Cluster) (w : Workload) (failure : String) (needed : Bool)
    (pod : PodSpec) : Except String PodSpec :=
  if needed ∧ (pod.serviceAccountName = "" ∨ pod.serviceAccountName = "default") then
    match ensureServiceAccount cl w.ns w.crName with
    | .error e => .error (failure ++ ": " ++ e)
    | .ok () => .ok { pod with serviceAccountName := w.crName }
  else .ok pod

/-- The settings of the namespace. -/
abbrev Cluster.namespaceConfig (cl : Cluster) : NamespaceConfig :=
  readNamespaceConfig cl.getConfigMap

/-- The runtime of the workload: the first in the list that targets its name and its
kind. -/
def findAgentRuntime (cl : Cluster) (w : Workload) : Option AgentRuntime :=
  match cl.listAgentRuntimes with
  | .error _ => none
  | .ok runtimes => runtimes.find? fun rt => rt.targetName = w.crName ∧ rt.targetKind = w.kind

/-- The settings of an injection, once resolved. -/
structure Resolved where
  mtlsMode : String
  egressEnforcement : String
  tlsBridgeMode : String
  authBridgeMode : String
  inboundInterception : String
  /-- SPIRE is on for a workload that asks for it, and for any with mutual TLS. -/
  spireEnabled : Bool

/-! ### The proxy sidecar -/

def inboundPortsExcludeKey : String := "rossoctl.io/inbound-ports-exclude"

def outboundPortsExcludeKey : String := "rossoctl.io/outbound-ports-exclude"

/-- Change the first container of a name. -/
def updateFirst (name : String) (f : Container → Container) : List Container → List Container
  | [] => []
  | c :: cs => if c.name = name then f c :: cs else c :: updateFirst name f cs

/-- Append a container unless one of its name is there. -/
def addContainerIfMissing (containers : List Container) (c : Container) : List Container :=
  if containerExists containers c.name then containers else containers ++ [c]

theorem containerExists_addContainerIfMissing (cs : List Container) (c : Container) :
    containerExists (addContainerIfMissing cs c) c.name = true := by
  rw [addContainerIfMissing]
  split
  · assumption
  · exact containerExists_iff.mpr ⟨c, mem_append_right _ (mem_singleton.mpr rfl), rfl⟩

namespace PodMutator

variable (m : PodMutator)

/-- The builder: with the settings of the namespace behind its feature gate. -/
def builder (ns : NamespaceConfig) : ContainerBuilder where
  cfg := m.platform
  resolved := if m.gates.perWorkloadConfigResolution then some ns else none

/-- The image of the proxy sidecar. -/
def proxyImage (authBridgeMode : String) : String :=
  if authBridgeMode = modeLite then m.platform.images.authBridgeLite
  else m.platform.images.authBridge

/-- The sidecar of a plan. -/
def proxySidecar (ns : NamespaceConfig) (r : Resolved) (plan : PortPlan) : Container :=
  if plan.transparent then
    (m.builder ns).buildProxySidecarContainerTransparent r.spireEnabled
      (m.proxyImage r.authBridgeMode) m.platform.proxy.transparentInboundPort
      plan.forwardProxyPort
  else
    (m.builder ns).buildProxySidecarContainerWithPorts r.spireEnabled
      (m.proxyImage r.authBridgeMode) plan.originalAgentPort plan.forwardProxyPort

/-- What the init container of a plan does with inbound traffic. -/
def proxyInitInbound (w : Workload) (plan : PortPlan) : ProxyInitInbound :=
  if plan.transparent then
    { port := m.platform.proxy.transparentInboundPort
      sidecarPortsExclude := ",".intercalate [toString plan.forwardProxyPort,
        toString authBridgeHealthPort, toString authBridgeStatsPort,
        toString authBridgeSessionAPIPort]
      portsExclude := valueOf w.annotations inboundPortsExcludeKey }
  else {}

/-- The init container of a plan, with the egress guard. -/
def proxyInit (ns : NamespaceConfig) (w : Workload) (plan : PortPlan) : Container :=
  (m.builder ns).buildProxyInitContainerWithInbound .enforceRedirect "" ""
    (m.proxyInitInbound w plan)

/-- The volumes that the sidecars need. -/
def requiredVolumes (spireEnabled : Bool) : List Volume :=
  if m.gates.perWorkloadConfigResolution then buildResolvedVolumes spireEnabled ""
  else if spireEnabled then buildRequiredVolumes else buildRequiredVolumesNoSpire

/-- The volumes, with the ConfigMaps of the agent in their places. -/
def agentVolumes (spireEnabled : Bool) (cmName routesCMName : String) : List Volume :=
  let volumes := overrideAuthBridgeConfigMapInVolumes (m.requiredVolumes spireEnabled) cmName
  if routesCMName = "" then volumes else overrideRoutesConfigMapInVolumes volumes routesCMName

/-- The containers of the mutated pod: the agent moved, the sidecar appended and told
the mutual TLS mode, the proxy variables in every other container. -/
def proxyContainers (ns : NamespaceConfig) (r : Resolved) (plan : PortPlan)
    (containers : List Container) : List Container :=
  let containers := if plan.transparent then containers
    else relocateAgent plan.newAgentPort containers
  let containers := addContainerIfMissing containers (m.proxySidecar ns r plan)
  let containers := updateFirst authBridgeProxyContainerName
    (fun c => setOrAddEnv c "MTLS_MODE" r.mtlsMode) containers
  containers.map fun c =>
    if c.name = authBridgeProxyContainerName then c
    else injectHTTPProxyEnv plan.forwardProxyPort c

/-- The init containers: the egress guard, if it is enforced and none is there. -/
def proxyInitContainers (ns : NamespaceConfig) (w : Workload) (r : Resolved) (plan : PortPlan)
    (inits : List Container) : List Container :=
  if r.egressEnforcement = egressEnforcementEnforceRedirect then
    addContainerIfMissing inits (m.proxyInit ns w plan)
  else inits

/-- The pod of a plan. -/
def proxyPod (ns : NamespaceConfig) (w : Workload) (r : Resolved) (plan : PortPlan)
    (cmName routesCMName : String) (pod : PodSpec) : PodSpec :=
  let pod := { pod with
    containers := m.proxyContainers ns r plan pod.containers
    initContainers := m.proxyInitContainers ns w r plan pod.initContainers }
  let pod := addVolumes (m.agentVolumes r.spireEnabled cmName routesCMName) pod
  let pod := applyKeycloakClientCredentialsSecretVolumes w.annotations pod
  let pod := if r.tlsBridgeMode = tlsBridgeModeEnabled then applyTLSBridgeMounts w.crName pod
    else pod
  if r.spireEnabled then ensureFSGroup pod else pod

/-- The proxy-sidecar and lite branch. -/
def injectProxySidecar (cl : Cluster) (w : Workload) (ns : NamespaceConfig) (r : Resolved)
    (pod : PodSpec) : Outcome :=
  match planPorts m.platform pod r.inboundInterception with
  | .error e => ⟨[], .error ("proxy-sidecar port assignment: " ++ e)⟩
  | .ok plan =>
    match m.ensurePerAgentConfigMap cl w.ns w.crName modeProxySidecar ns
        (listenerOverrides m.platform plan) r.mtlsMode r.tlsBridgeMode r.spireEnabled
        (findAgentRuntime cl w) with
    | (applied, .error e) => ⟨applied, .error ("proxy-sidecar per-agent ConfigMap: " ++ e)⟩
    | (applied, .ok (cmName, routesCMName)) =>
      ⟨applied, .ok (some (m.proxyPod ns w r plan cmName routesCMName pod))⟩

/-! ### The Envoy sidecar -/

/-- The pod of the Envoy shape. -/
def envoyPod (ns : NamespaceConfig) (w : Workload) (r : Resolved)
    (decision : InjectionDecision) (volumes : List Volume) (pod : PodSpec) : PodSpec :=
  let containers := if decision.envoyProxy.inject then addContainerIfMissing pod.containers
      ((m.builder ns).buildEnvoyProxyContainerWithSpireOption r.spireEnabled)
    else pod.containers
  let containers := updateFirst envoyProxyContainerName
    (fun c => setOrAddEnv c "MTLS_MODE" r.mtlsMode) containers
  let inits := if decision.proxyInit.inject then addContainerIfMissing pod.initContainers
      ((m.builder ns).buildProxyInitContainer .redirect
        (valueOf w.annotations outboundPortsExcludeKey)
        (valueOf w.annotations inboundPortsExcludeKey))
    else pod.initContainers
  let pod := addVolumes volumes { pod with containers, initContainers := inits }
  let pod := applyKeycloakClientCredentialsSecretVolumes w.annotations pod
  if r.spireEnabled then ensureFSGroup pod else pod

/-- The envoy-sidecar branch. -/
def injectEnvoySidecar (cl : Cluster) (w : Workload) (ns : NamespaceConfig) (r : Resolved)
    (decision : InjectionDecision) (pod : PodSpec) : Outcome :=
  match m.ensurePerAgentConfigMap cl w.ns w.crName modeEnvoySidecar ns [] r.mtlsMode ""
      r.spireEnabled (findAgentRuntime cl w) with
  | (applied, .error e) => ⟨applied, .error ("envoy-sidecar per-agent ConfigMap: " ++ e)⟩
  | (applied, .ok (cmName, routesCMName)) =>
    match m.ensurePerAgentEnvoyConfigMap cl w.ns w.crName ns r.mtlsMode with
    | (applied', .error e) =>
      ⟨applied ++ applied', .error ("envoy-sidecar per-agent envoy ConfigMap: " ++ e)⟩
    | (applied', .ok envoyCMName) =>
      ⟨applied ++ applied', .ok (some (m.envoyPod ns w r decision
        (overrideEnvoyConfigMapInVolumes (m.agentVolumes r.spireEnabled cmName routesCMName)
          envoyCMName) pod))⟩

/-! ### InjectAuthBridge -/

/-- The settings of a workload, once the egress enforcement is resolved. -/
def resolved (w : Workload) (ns : NamespaceConfig) (spiffeHelper : Bool)
    (egressEnforcement : String) : Resolved where
  mtlsMode := resolveMTLSMode m.codec ns
  egressEnforcement := egressEnforcement
  tlsBridgeMode := resolveTLSBridgeMode m.codec ns
  authBridgeMode := resolveAuthBridgeMode m.codec ns w.annotations
  inboundInterception := resolveInboundInterception m.codec m.platform ns egressEnforcement
  spireEnabled := spiffeHelper || resolveMTLSMode m.codec ns != mtlsModeDisabled

/-- The end of `InjectAuthBridge`: the branch of the mode. -/
def injectMode (cl : Cluster) (w : Workload) (ns : NamespaceConfig) (r : Resolved)
    (decision : InjectionDecision) (pod : PodSpec) : Outcome :=
  if r.authBridgeMode = modeWaypoint then .skipped
  else if r.authBridgeMode = modeProxySidecar ∨ r.authBridgeMode = modeLite then
    m.injectProxySidecar cl w ns r pod
  else m.injectEnvoySidecar cl w ns r decision pod

/-- **`InjectAuthBridge`.** -/
def injectAuthBridge (cl : Cluster) (w : Workload) (pod : PodSpec) : Outcome :=
  let decision := evaluate m.gates w.labels
  let ns := cl.namespaceConfig
  if !wantsInjection m.gates w.labels || !decision.anyInjected then .skipped
  else
    match withServiceAccount cl w "failed to ensure service account"
        decision.spiffeHelper.inject pod with
    | .error e => ⟨[], .error e⟩
    | .ok pod =>
      match withServiceAccount cl w "failed to ensure service account for mtls auto-spire"
          (!decision.spiffeHelper.inject && resolveMTLSMode m.codec ns != mtlsModeDisabled) pod with
      | .error e => ⟨[], .error e⟩
      | .ok pod =>
        match resolveEgressEnforcement m.codec m.platform ns with
        | .error e => ⟨[], .error e⟩
        | .ok egress =>
          m.injectMode cl w ns (m.resolved w ns decision.spiffeHelper.inject egress) decision pod

/-! ### Growing containers -/

end PodMutator

/-- Changing one container relates the lists as it relates the container. -/
theorem forall₂_updateFirst {R : Container → Container → Prop} (hrefl : ∀ c, R c c)
    {f : Container → Container} (hf : ∀ c, R c (f c)) (name : String) (cs : List Container) :
    List.Forall₂ R cs (updateFirst name f cs) := by
  induction cs with
  | nil => exact .nil
  | cons c cs ih =>
    rw [updateFirst]
    split
    · exact .cons (hf c) (forall₂_same.mpr fun c _ => hrefl c)
    · exact .cons (hrefl c) ih

/-- What stands in one of two lists that go together stands beside something in the
other. -/
theorem exists_of_forall₂_mem {α β : Type} {R : α → β → Prop} {as : List α} {bs : List β}
    (h : List.Forall₂ R as bs) {a : α} (ha : a ∈ as) : ∃ b ∈ bs, R a b := by
  induction h with
  | nil => cases ha
  | cons hab _ ih =>
    rcases mem_cons.mp ha with rfl | ha
    · exact ⟨_, mem_cons_self, hab⟩
    · obtain ⟨b, hb, hR⟩ := ih ha
      exact ⟨b, mem_cons_of_mem _ hb, hR⟩

namespace PodMutator

variable (m : PodMutator)

/-- The containers of a plan before anything is added to them: the agent moved, and
the sidecar at the end if the pod brings none. -/
def plannedContainers (ns : NamespaceConfig) (r : Resolved) (plan : PortPlan)
    (containers : List Container) : List Container :=
  addContainerIfMissing
    (if plan.transparent then containers else relocateAgent plan.newAgentPort containers)
    (m.proxySidecar ns r plan)

variable {m}

variable (ns : NamespaceConfig) (r : Resolved) (plan : PortPlan) {failure : String} {needed : Bool}
  {out : PodSpec}

theorem proxySidecar_name : (m.proxySidecar ns r plan).name = authBridgeProxyContainerName := by
  rw [proxySidecar]
  split
  · rfl
  · rfl

theorem proxySidecar_ports : (m.proxySidecar ns r plan).ports =
      [{ name := if plan.transparent then "transparent-in" else "reverse-proxy",
         containerPort := plan.inboundPort m.platform },
        { name := "forward-proxy", containerPort := plan.forwardProxyPort }] := by
  rw [proxySidecar, PortPlan.inboundPort]
  cases plan.transparent with
  | true => rfl
  | false => rfl

theorem grown_proxyContainers (containers : List Container) :
    List.Forall₂ Container.Grown (m.plannedContainers ns r plan containers)
      (m.proxyContainers ns r plan containers) := by
  refine forall₂_grown_trans (forall₂_updateFirst .refl ?_ _ _) (forall₂_grown_map ?_ _)
  · intro c
    exact grown_setOrAddEnv c _ _
  · intro c
    split
    · exact .refl c
    · exact grown_injectHTTPProxyEnv _ c

theorem grown_ite {p : Prop} [Decidable p] {f : PodSpec → PodSpec}
    (hf : ∀ pod : PodSpec, pod.Grown (f pod)) (pod : PodSpec) :
    pod.Grown (if p then f pod else pod) := by
  split
  · exact hf pod
  · exact .refl pod

/-- **The pod of a plan**: its containers are the planned ones with more variables and
mounts, its init containers are those of the plan. -/
theorem proxyPod_spec (w : Workload) (r : Resolved) (plan : PortPlan)
    (cmName routesCMName : String) (pod : PodSpec) :
    List.Forall₂ Container.Grown (m.plannedContainers ns r plan pod.containers)
        (m.proxyPod ns w r plan cmName routesCMName pod).containers ∧
      (m.proxyPod ns w r plan cmName routesCMName pod).initContainers =
        m.proxyInitContainers ns w r plan pod.initContainers := by
  have hgrown : PodSpec.Grown
      { pod with
        containers := m.proxyContainers ns r plan pod.containers
        initContainers := m.proxyInitContainers ns w r plan pod.initContainers }
      (m.proxyPod ns w r plan cmName routesCMName pod) :=
    (((grown_addVolumes _ _).trans (grown_applyKeycloakClientCredentialsSecretVolumes _ _)).trans
        (grown_ite (grown_applyTLSBridgeMounts _) _)).trans (grown_ite grown_ensureFSGroup _)
  exact ⟨forall₂_grown_trans (grown_proxyContainers ns r plan pod.containers) hgrown.containers,
    hgrown.initContainers⟩

/-! ### What a successful injection has done -/

variable (m) in
/-- The settings that an injection uses, once the egress enforcement is resolved. -/
def settings (cl : Cluster) (w : Workload) (egressEnforcement : String) : Resolved :=
  m.resolved w cl.namespaceConfig (evaluate m.gates w.labels).spiffeHelper.inject egressEnforcement

variable (m) in
/-- A successful injection in the proxy-sidecar or the lite mode: the egress
enforcement and the ports it decided on, the document it applied, and the pod. -/
structure Proxied (cl : Cluster) (w : Workload) (pod : PodSpec) (applied : List ConfigMap)
    (out : PodSpec) (egress : String) (plan : PortPlan) (document : Members) : Prop where
  egress_eq : resolveEgressEnforcement m.codec m.platform cl.namespaceConfig = .ok egress
  plan_eq : planPorts m.platform pod (m.settings cl w egress).inboundInterception = .ok plan
  document_eq : m.perAgentConfig w.ns w.crName modeProxySidecar cl.namespaceConfig
    (listenerOverrides m.platform plan) (m.settings cl w egress).mtlsMode
    (m.settings cl w egress).tlsBridgeMode (m.settings cl w egress).spireEnabled
    (findAgentRuntime cl w) = .ok document
  applied_eq : applied.head? = some (agentConfigMap cl w.crName document)
  pod_eq : ∃ cmName routesCMName account, out = m.proxyPod cl.namespaceConfig w
    (m.settings cl w egress) plan cmName routesCMName { pod with serviceAccountName := account }

variable {cl : Cluster} {w : Workload} {pod : PodSpec}

theorem eq_of_withServiceAccount {pod' : PodSpec}
    (h : withServiceAccount cl w failure needed pod = .ok pod') :
    ∃ account, pod' = { pod with serviceAccountName := account } := by
  rw [withServiceAccount] at h
  split at h
  · split at h
    · cases h
    · cases h
      exact ⟨_, rfl⟩
  · cases h
    exact ⟨_, rfl⟩

theorem withServiceAccount_of_eq {pod' pod'' : PodSpec}
    (h : withServiceAccount cl w failure needed pod = .ok pod')
    (haccount : pod''.serviceAccountName = pod'.serviceAccountName) :
    withServiceAccount cl w failure needed pod'' = .ok pod'' := by
  rw [withServiceAccount] at h
  split at h
  · split at h
    · cases h
    · rename_i hensure
      cases h
      rw [withServiceAccount, hensure]
      split
      · have hname : w.crName = pod''.serviceAccountName := haccount.symm
        rw [hname]
      · rfl
  · rename_i hnot
    cases h
    rw [withServiceAccount, haccount, if_neg hnot]

/-- **An injection comes to its mode**, or it has not applied and not changed anything. It then
comes to its mode with every pod that has the ServiceAccount. -/
theorem injectAuthBridge_cases (m : PodMutator) (cl : Cluster) (w : Workload) (pod : PodSpec) :
    ((m.injectAuthBridge cl w pod).applied = [] ∧ (m.injectAuthBridge cl w pod).injected? = none) ∨
      ∃ egress account, resolveEgressEnforcement m.codec m.platform cl.namespaceConfig =
          .ok egress ∧
        m.injectAuthBridge cl w pod = m.injectMode cl w cl.namespaceConfig
          (m.settings cl w egress) (evaluate m.gates w.labels)
          { pod with serviceAccountName := account } ∧
        ∀ pod', pod'.serviceAccountName = account →
          m.injectAuthBridge cl w pod' = m.injectMode cl w cl.namespaceConfig
            (m.settings cl w egress) (evaluate m.gates w.labels) pod' := by
  rw [injectAuthBridge]
  split
  · exact .inl ⟨rfl, rfl⟩
  · rename_i hwanted
    split
    · exact .inl ⟨rfl, rfl⟩
    · rename_i pod₁ hpod₁
      split
      · exact .inl ⟨rfl, rfl⟩
      · rename_i pod₂ hpod₂
        have hsettled (pod' : PodSpec) (h : pod'.serviceAccountName = pod₂.serviceAccountName) :
            withServiceAccount cl w "failed to ensure service account"
              (evaluate m.gates w.labels).spiffeHelper.inject pod' = .ok pod' := by
          -- At most one of the two accounts is needed.
          cases hneeded : (evaluate m.gates w.labels).spiffeHelper.inject with
          | false =>
            rw [withServiceAccount, if_neg]
            exact fun hc => Bool.false_ne_true hc.1
          | true =>
            rw [hneeded] at hpod₁ hpod₂
            cases hpod₂
            exact withServiceAccount_of_eq hpod₁ h
        obtain ⟨account₁, rfl⟩ := eq_of_withServiceAccount hpod₁
        obtain ⟨account₂, rfl⟩ := eq_of_withServiceAccount hpod₂
        split
        · exact .inl ⟨rfl, rfl⟩
        · rename_i egress hegress
          refine .inr ⟨egress, account₂, hegress, rfl, fun pod' haccount => ?_⟩
          rw [injectAuthBridge, if_neg hwanted, hsettled pod' haccount]
          dsimp only
          rw [withServiceAccount_of_eq hpod₂ haccount]
          rw [hegress]
          rfl

theorem ne_waypoint {mode : String} (h : mode = modeProxySidecar ∨ mode = modeLite) :
    mode ≠ modeWaypoint := by
  rcases h with rfl | rfl
  · decide
  · decide

/-- **What a successful injection has done**, in the proxy-sidecar and lite modes; the pod mounts
the ConfigMap of its agent. -/
theorem proxyPod_of_injectAuthBridge (h : (m.injectAuthBridge cl w pod).result = .ok (some out))
    (hmode : resolveAuthBridgeMode m.codec cl.namespaceConfig w.annotations = modeProxySidecar ∨
      resolveAuthBridgeMode m.codec cl.namespaceConfig w.annotations = modeLite) :
    ∃ egress plan document, m.Proxied cl w pod (m.injectAuthBridge cl w pod).applied out egress
        plan document ∧
      ∃ routesCMName account, out = m.proxyPod cl.namespaceConfig w (m.settings cl w egress) plan
        (perAgentConfigMapName w.crName) routesCMName
        { pod with serviceAccountName := account } := by
  obtain ⟨-, hnone⟩ | ⟨egress, account, hegress, hout, -⟩ := injectAuthBridge_cases m cl w pod
  · rw [Outcome.injected?_eq_some_iff.mpr h] at hnone
    cases hnone
  · have hbranch : (m.settings cl w egress).authBridgeMode = modeProxySidecar ∨
        (m.settings cl w egress).authBridgeMode = modeLite := hmode
    rw [injectMode, if_neg (ne_waypoint hbranch), if_pos hbranch, injectProxySidecar] at hout
    rw [hout] at h ⊢
    split at h
    · cases h
    · rename_i plan hplan
      obtain ⟨e, hensure⟩ | ⟨document, rest, result, hdocument, hensure, -, hname⟩ :=
        m.ensurePerAgentConfigMap_cases cl w.ns w.crName modeProxySidecar cl.namespaceConfig
          (listenerOverrides m.platform plan) (m.settings cl w egress).mtlsMode
          (m.settings cl w egress).tlsBridgeMode (m.settings cl w egress).spireEnabled
          (findAgentRuntime cl w)
      · rw [hensure] at h
        cases h
      · rw [hensure] at h ⊢
        cases result with
        | error e => cases h
        | ok names =>
          cases h
          refine ⟨egress, plan, document,
            ⟨hegress, hplan, hdocument, rfl, _, _, account, rfl⟩, names.2, account, ?_⟩
          rw [← hname names rfl]

theorem proxied_of_injectAuthBridge (h : (m.injectAuthBridge cl w pod).result = .ok (some out))
    (hmode : resolveAuthBridgeMode m.codec cl.namespaceConfig w.annotations = modeProxySidecar ∨
      resolveAuthBridgeMode m.codec cl.namespaceConfig w.annotations = modeLite) :
    ∃ egress plan document, m.Proxied cl w pod (m.injectAuthBridge cl w pod).applied out egress
      plan document := by
  obtain ⟨egress, plan, document, hproxied, -⟩ := proxyPod_of_injectAuthBridge h hmode
  exact ⟨egress, plan, document, hproxied⟩

theorem listenerText_foldl (overrides : List (String × String)) (ms : Members) (key : String) :
    (getKey (overrides.foldl (fun ms kv => setKey kv.1 (.str kv.2) ms) ms) key).bind asString =
      (overrides.reverse.lookup key <|> (getKey ms key).bind asString) := by
  induction overrides generalizing ms with
  | nil => rfl
  | cons kv overrides ih =>
    rw [foldl_cons, ih, reverse_cons, lookup_append, getKey_setKey]
    cases overrides.reverse.lookup key with
    | some v => rfl
    | none =>
      obtain ⟨k, v⟩ := kv
      by_cases h : k = key
      · simp [h, asString]
      · have hne : (key == k) = false := by simpa using fun h' => h h'.symm
        simp [h, lookup_cons, hne]

/-- The texts of the listeners of an agent: its own, or the namespace's. -/
theorem listenerText_perAgentConfig {namespaceName crName mode : String} {ns : NamespaceConfig}
    {overrides : List (String × String)} {mtlsMode tlsBridgeMode : String} {spireEnabled : Bool}
    {rt : Option AgentRuntime} {document : Members}
    (h : m.perAgentConfig namespaceName crName mode ns overrides mtlsMode tlsBridgeMode
      spireEnabled rt = .ok document) :
    ∃ base, m.baseDocument ns.authBridgeRuntimeYAML = .ok base ∧ ∀ key,
      listenerText document key = (overrides.reverse.lookup key <|> listenerText base key) := by
  obtain ⟨base, hbase, hlistener⟩ := baseListener_perAgentConfig h
  refine ⟨base, hbase, fun key => ?_⟩
  rw [listenerText, hlistener, listenerText]
  exact listenerText_foldl _ _ _

namespace Proxied

variable {cl : Cluster} {w : Workload} {pod out : PodSpec} {applied : List ConfigMap}
  {egress : String} {plan : PortPlan} {document : Members}

theorem containers (h : m.Proxied cl w pod applied out egress plan document) :
    List.Forall₂ Container.Grown (m.plannedContainers cl.namespaceConfig (m.settings cl w egress)
      plan pod.containers) out.containers := by
  obtain ⟨cmName, routesCMName, account, rfl⟩ := h.pod_eq
  have hspec := proxyPod_spec (m := m) cl.namespaceConfig w (m.settings cl w egress) plan cmName
    routesCMName { pod with serviceAccountName := account }
  exact hspec.1

theorem initContainers (h : m.Proxied cl w pod applied out egress plan document) :
    out.initContainers = m.proxyInitContainers cl.namespaceConfig w (m.settings cl w egress) plan
      pod.initContainers := by
  obtain ⟨cmName, routesCMName, account, rfl⟩ := h.pod_eq
  have hspec := proxyPod_spec (m := m) cl.namespaceConfig w (m.settings cl w egress) plan cmName
    routesCMName { pod with serviceAccountName := account }
  exact hspec.2

theorem listenerText_eq (h : m.Proxied cl w pod applied out egress plan document) (key : String) :
    ∃ base, m.baseDocument cl.namespaceConfig.authBridgeRuntimeYAML = .ok base ∧
      listenerText document key =
        ((listenerOverrides m.platform plan).reverse.lookup key <|> listenerText base key) := by
  obtain ⟨base, hbase, htext⟩ := listenerText_perAgentConfig h.document_eq
  exact ⟨base, hbase, htext key⟩

theorem transparent_eq (h : m.Proxied cl w pod applied out egress plan document) :
    plan.transparent = transparentInbound m.platform pod
      (resolveInboundInterception m.codec m.platform cl.namespaceConfig egress) :=
  (made_of_planPorts h.plan_eq).1

theorem made (h : m.Proxied cl w pod applied out egress plan document) : plan.Made m.platform pod :=
  (made_of_planPorts h.plan_eq).2

theorem agentPort_out (h : m.Proxied cl w pod applied out egress plan document)
    (ht : plan.transparent = false) {p : ContainerPort} (hp : agentPort pod.containers = some p) :
    agentPort out.containers = some { p with containerPort := plan.newAgentPort } := by
  rw [agentPort_of_grown h.containers, plannedContainers, ht, if_neg Bool.false_ne_true,
    addContainerIfMissing]
  have hmoved := agentPort_relocateAgent hp plan.newAgentPort
  split
  · exact hmoved
  · exact agentPort_append hmoved _

/-- The sidecar is the one that was built, with more variables and mounts, if the pod
brings none. -/
theorem sidecar (h : m.Proxied cl w pod applied out egress plan document)
    (hnone : containerExists pod.containers authBridgeProxyContainerName = false) :
    ∃ c ∈ out.containers,
      (m.proxySidecar cl.namespaceConfig (m.settings cl w egress) plan).Grown c := by
  have hgrown := h.containers
  have hnames : containerExists (if plan.transparent then pod.containers
      else relocateAgent plan.newAgentPort pod.containers)
      (m.proxySidecar cl.namespaceConfig (m.settings cl w egress) plan).name = false := by
    rw [containerExists_eq, proxySidecar_name, ← hnone, containerExists_eq]
    split
    · rfl
    · rw [map_name_relocateAgent]
  rw [plannedContainers, addContainerIfMissing, hnames, if_neg Bool.false_ne_true] at hgrown
  obtain ⟨c, hc, hgrown⟩ := exists_of_forall₂_mem hgrown
    (mem_append_right _ (mem_singleton.mpr rfl))
  exact ⟨c, hc, hgrown⟩

end Proxied

end PodMutator

/-! ### A namespace with one agent -/

/-- The text at a path of a document. -/
def textAt : List String → Members → String
  | [], _ => ""
  | [key], ms => ((getKey ms key).bind asString).getD ""
  | key :: path, ms => textAt path (((getKey ms key).bind asMap).getD [])

/-- A library that decodes every text to one document. -/
def plainCodec (document : Members) : Codec where
  field path _ := .ok (textAt path document)
  object _ := .ok (some document)

/-- A mutator for a namespace with this runtime configuration. -/
def plainMutator (platform : PlatformConfig) (document : Members) : PodMutator where
  platform := platform
  gates := {}
  codec := plainCodec document
  presetPipeline _ _ _ _ := .error "unknown preset"
  renderEnvoyConfig _ _ := .ok ""

/-- A cluster whose answers are all good. -/
def plainCluster (runtimes : List AgentRuntime) : Cluster where
  getConfigMap name := if name = authBridgeRuntimeConfigMapName then
      .ok (AList.insert "config.yaml" "document" ∅) else .error "not found"
  listAgentRuntimes := .ok runtimes
  createServiceAccount := .created
  getServiceAccount := .ok ()
  getWorkload kind := if kind = "Deployment" then some "uid-1" else none
  apply _ := .ok ()

/-- The Deployment of an agent. -/
def plainWorkload : Workload where
  ns := "team1"
  crName := "weather"
  kind := "Deployment"
  labels := AList.insert rossoctlTypeLabel rossoctlTypeAgent ∅
  annotations := ∅

/-- A pod of one container with these ports. -/
def agentPod (ports : List ContainerPort) : PodSpec where
  containers := [{ name := "agent", ports }]

end Rossoctl.Webhook
