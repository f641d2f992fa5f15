import Rossoctl.Webhook.Ports

/-!
# The configuration of one agent

`ensurePerAgentConfigMap` (`internal/webhook/injector/pod_mutator.go`): the runtime
configuration of the namespace, with a pipeline where it has none, and with the mode,
the listeners, the TLS settings and the routes of the workload on top
(`Rossoctl.Webhook.PodMutator.perAgentConfig`), applied as a ConfigMap of its own.

The document is kept as a tree; writing it as text is left out. The rendering of the
plugin presets and of the Envoy configuration are parameters of the mutator.
-/

namespace Rossoctl.Webhook

open Kube Json List

/-! ### Agent runtimes -/

/-- An outbound destination of `spec.auth`. -/
structure OutboundRoute where
  host : String := ""
  hostRegex : String := ""
  audiences : List String := []

/-- An `AgentRuntime` resource: the workload it configures, the settings it overrides,
its plugins and its outbound routes. -/
structure AgentRuntime where
  targetName : String
  targetKind : String
  authBridgeMode : String := ""
  mtlsMode : String := ""
  tlsBridgeMode : String := ""
  egressEnforcement : String := ""
  pluginPreset : String := ""
  plugins : List String := []
  onError : String := ""
  outbound : List OutboundRoute := []

/-! ### The pipeline -/

def tokenExchangePluginName : String := "token-exchange"

def clientAuthTypeFederatedJWT : String := "federated-jwt"

def identityTypeSpiffe : String := "spiffe"

/-- A member, if its text is not empty. -/
def member (key value : String) : Members := if value = "" then [] else [(key, .str value)]

/-- The identity block of the token exchange. -/
def identityConfig (ns : NamespaceConfig) : Members :=
  if ns.clientAuthType = "" then []
  else
    [("identity", .obj (if ns.clientAuthType = clientAuthTypeFederatedJWT then
      ("type", .str identityTypeSpiffe) :: member "jwt_audience" ns.jwtAudience
    else [("type", .str ns.clientAuthType)]))]

/-- A chain with one plugin. -/
def chainOf (plugin : String) (config : Members) : Yaml :=
  .obj [("plugins", .arr [.obj [("name", .str plugin), ("config", .obj config)]])]

/-- The pipeline for a namespace that has none. -/
def synthesizePipeline (ns : NamespaceConfig) : Yaml :=
  .obj [("inbound", chainOf "jwt-validation"
      (member "issuer" ns.issuer ++ member "keycloak_url" ns.keycloakURL ++
        member "keycloak_realm" ns.keycloakRealm)),
    ("outbound", chainOf tokenExchangePluginName
      (member "keycloak_url" ns.keycloakURL ++ member "keycloak_realm" ns.keycloakRealm ++
        member "default_policy" ns.defaultOutboundPolicy ++ identityConfig ns))]

/-- Point the first token exchange plugin at the file with the routes. -/
def configureRoutesIn : List Yaml → List Yaml
  | [] => []
  | p :: ps =>
    match p with
    | .obj plugin =>
      if (getKey plugin "name").bind asString = some tokenExchangePluginName then
        .obj (setKey "config" (.obj (setKey "routes" (.obj [("file", .str authProxyRoutesFile)])
          (((getKey plugin "config").bind asMap).getD []))) plugin) :: ps
      else p :: configureRoutesIn ps
    | _ => p :: configureRoutesIn ps

/-- The same in a pipeline, as far as it has an outbound chain with plugins. -/
def configureRoutes (pipeline : Yaml) : Yaml :=
  match asMap pipeline with
  | none => pipeline
  | some sections =>
    match (getKey sections "outbound").bind asMap with
    | none => pipeline
    | some outbound =>
      match getKey outbound "plugins" with
      | some (.arr plugins) =>
        .obj (setKey "outbound" (.obj (setKey "plugins" (.arr (configureRoutesIn plugins))
          outbound)) sections)
      | _ => pipeline

/-- One entry of `routes.yaml`. -/
def routeOf (r : OutboundRoute) : Members :=
  let route := member "host" r.host
  let route := if r.hostRegex = "" then route else setKey "host" (.str r.hostRegex) route
  match r.audiences with
  | [] => route
  | audience :: _ => setKey "target_audience" (.str audience) route

/-! ### The document -/

/-- The mutator: its configuration, and the parts that are rendered elsewhere. -/
structure PodMutator where
  platform : PlatformConfig
  gates : FeatureGates
  codec : Codec
  /-- `synthesizePresetPipeline` from a base pipeline, the preset, the overrides of its
  plugins and the default policy. -/
  presetPipeline : Option Members → String → List String → String → Except String Yaml
  /-- `RenderEnvoyConfig`. -/
  renderEnvoyConfig : NamespaceConfig → String → Except String String

/-- The addresses that follow from the plan of ports. -/
def listenerOverrides (cfg : PlatformConfig) (plan : PortPlan) : List (String × String) :=
  ("forward_proxy_addr", ":" ++ toString plan.forwardProxyPort) ::
    if plan.transparent then
      [("inbound_interception", inboundInterceptionTransparent),
        ("transparent_inbound_addr", ":" ++ toString cfg.proxy.transparentInboundPort)]
    else
      [("reverse_proxy_addr", ":" ++ toString plan.originalAgentPort),
        ("reverse_proxy_backend", "http://127.0.0.1:" ++ toString plan.newAgentPort)]

/-- The `listener` section of a document, empty if there is none. -/
def baseListener (document : Members) : Members :=
  ((getKey document "listener").bind asMap).getD []

/-- The overrides go into the `listener` section, which keeps what else it has. -/
def mergeListener (overrides : List (String × String)) (cfg : Members) : Members :=
  if overrides = [] then cfg
  else
    setKey "listener" (.obj (overrides.foldl (fun ms kv => setKey kv.1 (.str kv.2) ms)
      (baseListener cfg))) cfg

/-- A section that is written, or scrubbed. -/
def ownedSection (key : String) (value : Option Yaml) (cfg : Members) : Members :=
  match value with
  | some v => setKey key v cfg
  | none => eraseKey cfg key

/-- The pipeline: the one of the document, or one made from the settings of the
namespace. -/
def withPipeline (ns : NamespaceConfig) (cfg : Members) : Members :=
  match getKey cfg "pipeline" with
  | none | some .null => setKey "pipeline" (synthesizePipeline ns) cfg
  | some _ => cfg

namespace PodMutator

variable (m : PodMutator)

/-- The document of the namespace. One that does not parse counts as empty; one that
is null leaves a nil map, and writing to it panics. -/
def baseDocument (baseYAML : String) : Except String Members :=
  if baseYAML = "" then .ok []
  else
    match m.codec.object baseYAML with
    | .error _ => .ok []
    | .ok none => .error "assignment to entry in nil map"
    | .ok (some ms) => .ok ms

/-- The pipeline of the preset that a runtime asks for, made from the one there is. -/
def withPreset (namespaceName crName : String) (rt : Option AgentRuntime) (cfg : Members) :
    Except String Members :=
  match rt with
  | none => .ok cfg
  | some rt =>
    if rt.pluginPreset = "" then .ok cfg
    else
      match m.presetPipeline ((getKey cfg "pipeline").bind asMap) rt.pluginPreset rt.plugins
          rt.onError with
      | .error e => .error ("failed to render plugin preset " ++ quoted rt.pluginPreset ++ " for " ++
          namespaceName ++ "/" ++ crName ++ ": " ++ e)
      | .ok pipeline => .ok (setKey "pipeline" pipeline cfg)

/-- The sections that the webhook owns, on top of a document with a pipeline. -/
def ownedSections (mode : String) (overrides : List (String × String))
    (mtlsMode tlsBridgeMode : String) (spireEnabled : Bool) (cfg : Members) : Members :=
  ownedSection "spiffe" (if spireEnabled then
      some (.obj [("socket", .str m.platform.socketPath)]) else none)
    (ownedSection "tls_bridge" (if tlsBridgeMode = tlsBridgeModeEnabled then
        some (.obj [("mode", .str tlsBridgeModeEnabled), ("ca_dir", .str tlsBridgeCAMountPath)])
      else none)
    (ownedSection "mtls" (if mtlsMode ≠ "" ∧ mtlsMode ≠ mtlsModeDisabled then
        some (.obj [("mode", .str mtlsMode)]) else none)
    (mergeListener overrides (setKey "mode" (.str mode) cfg))))

/-- The document of one agent. -/
def perAgentConfig (namespaceName crName mode : String) (ns : NamespaceConfig)
    (overrides : List (String × String)) (mtlsMode tlsBridgeMode : String) (spireEnabled : Bool)
    (rt : Option AgentRuntime) : Except String Members := do
  let cfg ← m.baseDocument ns.authBridgeRuntimeYAML
  let cfg ← m.withPreset namespaceName crName rt (withPipeline ns cfg)
  let cfg := m.ownedSections mode overrides mtlsMode tlsBridgeMode spireEnabled cfg
  match rt.map AgentRuntime.outbound, getKey cfg "pipeline" with
  | some (_ :: _), some pipeline => return setKey "pipeline" (configureRoutes pipeline) cfg
  | _, _ => return cfg

end PodMutator

/-! ### Applying it -/

/-- The workload that a ConfigMap goes away with. -/
structure OwnerReference where
  kind : String
  name : String
  uid : String
  deriving DecidableEq

/-- What a ConfigMap of the webhook holds. -/
inductive ConfigMapData where
  | config (document : Members)
  | routes (routes : List Members)
  | envoy (text : String)

/-- A ConfigMap that the webhook applies. -/
structure ConfigMap where
  name : String
  data : ConfigMapData
  owner : Option OwnerReference

/-- The answer to the creation of a ServiceAccount. -/
inductive CreateAnswer where
  | created
  | alreadyExists
  | failed (error : String)

/-- What the API server answers during one admission. -/
structure Cluster where
  getConfigMap : String → Except String StringMap
  listAgentRuntimes : Except String (List AgentRuntime)
  createServiceAccount : CreateAnswer
  getServiceAccount : Except String Unit
  /-- The UID of the workload of a kind with the name of the agent. -/
  getWorkload : String → Option String
  /-- Server-side apply of a ConfigMap, by its name. -/
  apply : String → Except String Unit

def perAgentConfigMapName (crName : String) : String := "authbridge-config-" ++ crName

def perAgentEnvoyConfigMapName (crName : String) : String := "envoy-config-" ++ crName

/-- `buildOwnerReference`: the first workload of the name, over the kinds. -/
def buildOwnerReference (cl : Cluster) (crName : String) : Option OwnerReference :=
  ["Deployment", "StatefulSet", "Sandbox"].findSome? fun kind =>
    (cl.getWorkload kind).map fun uid => { kind, name := crName, uid }

/-- The ConfigMap with the document of an agent. -/
def agentConfigMap (cl : Cluster) (crName : String) (document : Members) : ConfigMap where
  name := perAgentConfigMapName crName
  data := .config document
  owner := buildOwnerReference cl crName

/-- Server-side apply of one ConfigMap: what has been applied, and the error. -/
def applyConfigMap (cl : Cluster) (what namespaceName crName name : String)
    (data : ConfigMapData) : List ConfigMap × Except String String :=
  match cl.apply name with
  | .error e =>
    ([], .error ("failed to apply " ++ what ++ " " ++ namespaceName ++ "/" ++ name ++ ": " ++ e))
  | .ok () => ([{ name, data, owner := buildOwnerReference cl crName }], .ok name)

namespace PodMutator

variable (m : PodMutator)

/-- `ensurePerAgentConfigMap`: the ConfigMaps that have been applied, and the names of
the one with the configuration and of the one with the routes, if any. -/
def ensurePerAgentConfigMap (cl : Cluster) (namespaceName crName mode : String)
    (ns : NamespaceConfig) (overrides : List (String × String)) (mtlsMode tlsBridgeMode : String)
    (spireEnabled : Bool) (rt : Option AgentRuntime) :
    List ConfigMap × Except String (String × String) :=
  match m.perAgentConfig namespaceName crName mode ns overrides mtlsMode tlsBridgeMode
      spireEnabled rt with
  | .error e => ([], .error e)
  | .ok document =>
    match applyConfigMap cl "per-agent ConfigMap" namespaceName crName
        (perAgentConfigMapName crName) (.config document) with
    | (applied, .error e) => (applied, .error e)
    | (applied, .ok cmName) =>
      match rt.map AgentRuntime.outbound with
      | some (r :: rs) =>
        match applyConfigMap cl "routes ConfigMap" namespaceName crName
            ("authbridge-routes-" ++ crName) (.routes ((r :: rs).map routeOf)) with
        | (routes, .error e) => (applied ++ routes, .error e)
        | (routes, .ok routesCMName) => (applied ++ routes, .ok (cmName, routesCMName))
      | _ => (applied, .ok (cmName, ""))

/-- `ensurePerAgentEnvoyConfigMap`. -/
def ensurePerAgentEnvoyConfigMap (cl : Cluster) (namespaceName crName : String)
    (ns : NamespaceConfig) (mtlsMode : String) : List ConfigMap × Except String String :=
  match m.renderEnvoyConfig ns mtlsMode with
  | .error e => ([], .error ("rendering per-agent envoy.yaml for " ++ namespaceName ++ "/" ++
      crName ++ ": " ++ e))
  | .ok text => applyConfigMap cl "per-agent envoy ConfigMap" namespaceName crName
      (perAgentEnvoyConfigMapName crName) (.envoy text)

end PodMutator

/-! ### What is applied -/

/-- A ConfigMap that is not the configuration of any agent. -/
def ConfigMap.Other (cm : ConfigMap) : Prop :=
  (∀ crName, cm.name ≠ perAgentConfigMapName crName) ∧ ∀ document, cm.data ≠ .config document

theorem append_ne_append {a b : String} (n : Nat) (ha : n ≤ a.toList.length)
    (hb : n ≤ b.toList.length) (hne : a.toList.take n ≠ b.toList.take n) (x y : String) :
    a ++ x ≠ b ++ y := by
  intro h
  have htake := congrArg (fun s => s.toList.take n) h
  simp only [String.toList_append, take_append_of_le_length ha,
    take_append_of_le_length hb] at htake
  exact hne htake

theorem other_routes (crName : String) (routes : List Members) (owner : Option OwnerReference) :
    ConfigMap.Other ⟨"authbridge-routes-" ++ crName, .routes routes, owner⟩ :=
  ⟨fun _ => append_ne_append 12 (by decide) (by decide) (by decide) _ _, fun _ h => by cases h⟩

theorem other_envoy (crName text : String) (owner : Option OwnerReference) :
    ConfigMap.Other ⟨perAgentEnvoyConfigMapName crName, .envoy text, owner⟩ :=
  ⟨fun _ => append_ne_append 1 (by decide) (by decide) (by decide) _ _, fun _ h => by cases h⟩

theorem applyConfigMap_cases (cl : Cluster) (what namespaceName crName name : String)
    (data : ConfigMapData) :
    (∃ e, applyConfigMap cl what namespaceName crName name data = ([], .error e)) ∨
      applyConfigMap cl what namespaceName crName name data =
        ([⟨name, data, buildOwnerReference cl crName⟩], .ok name) := by
  rw [applyConfigMap]
  cases cl.apply name with
  | error e => exact .inl ⟨_, rfl⟩
  | ok u => exact .inr rfl

/-- **What `ensurePerAgentConfigMap` applies**: nothing, or the document of the agent and then
perhaps its routes. -/
theorem PodMutator.ensurePerAgentConfigMap_cases (m : PodMutator) (cl : Cluster)
    (namespaceName crName mode : String) (ns : NamespaceConfig)
    (overrides : List (String × String)) (mtlsMode tlsBridgeMode : String) (spireEnabled : Bool)
    (rt : Option AgentRuntime) :
    (∃ e, m.ensurePerAgentConfigMap cl namespaceName crName mode ns overrides mtlsMode
        tlsBridgeMode spireEnabled rt = ([], .error e)) ∨
      ∃ document rest result, m.perAgentConfig namespaceName crName mode ns overrides mtlsMode
          tlsBridgeMode spireEnabled rt = .ok document ∧
        m.ensurePerAgentConfigMap cl namespaceName crName mode ns overrides mtlsMode
          tlsBridgeMode spireEnabled rt = (agentConfigMap cl crName document :: rest, result) ∧
        (∀ cm ∈ rest, cm.Other) ∧
        ∀ names, result = .ok names → names.1 = perAgentConfigMapName crName := by
  rw [ensurePerAgentConfigMap]
  cases hdocument : m.perAgentConfig namespaceName crName mode ns overrides mtlsMode
    tlsBridgeMode spireEnabled rt with
  | error e => exact .inl ⟨e, rfl⟩
  | ok document =>
    dsimp only
    obtain ⟨e, happly⟩ | happly := applyConfigMap_cases cl "per-agent ConfigMap" namespaceName
      crName (perAgentConfigMapName crName) (.config document)
    · rw [happly]
      exact .inl ⟨e, rfl⟩
    · rw [happly]
      refine .inr ?_
      dsimp only
      split
      · rename_i r rs _
        obtain ⟨e, hroutes⟩ | hroutes := applyConfigMap_cases cl "routes ConfigMap" namespaceName
          crName ("authbridge-routes-" ++ crName) (.routes ((r :: rs).map routeOf))
        · rw [hroutes]
          exact ⟨document, [], _, rfl, rfl, fun _ h => absurd h not_mem_nil,
            fun _ h => by cases h⟩
        · rw [hroutes]
          refine ⟨document, _, _, rfl, rfl, fun cm hcm => ?_, fun names h => ?_⟩
          · rw [mem_singleton.mp hcm]
            exact other_routes crName _ _
          · rw [← Except.ok.inj h]
      · refine ⟨document, [], _, rfl, rfl, fun _ h => absurd h not_mem_nil,
          fun names h => ?_⟩
        rw [← Except.ok.inj h]

variable {namespaceName crName key : String}

/-- What `ensurePerAgentEnvoyConfigMap` applies is not the configuration of any agent. -/
theorem PodMutator.other_of_mem_ensurePerAgentEnvoyConfigMap {m : PodMutator} {cl : Cluster}
    {ns : NamespaceConfig} {mtlsMode : String} {cm : ConfigMap}
    (h : cm ∈ (m.ensurePerAgentEnvoyConfigMap cl namespaceName crName ns mtlsMode).1) :
    cm.Other := by
  rw [ensurePerAgentEnvoyConfigMap] at h
  split at h
  · exact absurd h not_mem_nil
  · rename_i text _
    obtain ⟨e, happly⟩ | happly := applyConfigMap_cases cl "per-agent envoy ConfigMap"
      namespaceName crName (perAgentEnvoyConfigMapName crName) (.envoy text)
    · rw [happly] at h
      exact absurd h not_mem_nil
    · rw [happly] at h
      rw [mem_singleton.mp h]
      exact other_envoy _ _ _

/-! ### Reading a document -/

/-- A text in the `listener` section of a document. -/
def listenerText (document : Members) (key : String) : Option String :=
  (getKey (baseListener document) key).bind asString

theorem getKey_ownedSection_of_ne {key' : String} (h : key ≠ key') (value : Option Yaml)
    (cfg : Members) : getKey (ownedSection key value cfg) key' = getKey cfg key' := by
  cases value with
  | none => rw [ownedSection, getKey_eraseKey, if_neg h]
  | some v => rw [ownedSection, getKey_setKey, if_neg h]

theorem baseListener_setKey_of_ne (h : key ≠ "listener") (v : Yaml) (cfg : Members) :
    baseListener (setKey key v cfg) = baseListener cfg := by
  rw [baseListener, getKey_setKey, if_neg h, baseListener]

theorem baseListener_ownedSection_of_ne (h : key ≠ "listener") (v : Option Yaml) (cfg : Members) :
    baseListener (ownedSection key v cfg) = baseListener cfg := by
  rw [baseListener, getKey_ownedSection_of_ne h, baseListener]

theorem baseListener_mergeListener (overrides : List (String × String)) (cfg : Members) :
    baseListener (mergeListener overrides cfg) =
      overrides.foldl (fun ms kv => setKey kv.1 (.str kv.2) ms) (baseListener cfg) := by
  rw [mergeListener]
  split
  · rename_i h
    rw [h, foldl_nil]
  · rw [baseListener, getKey_setKey, if_pos rfl]
    rfl

theorem baseListener_withPipeline (ns : NamespaceConfig) (cfg : Members) :
    baseListener (withPipeline ns cfg) = baseListener cfg := by
  rw [withPipeline]
  split
  · exact baseListener_setKey_of_ne (by decide) _ _
  · exact baseListener_setKey_of_ne (by decide) _ _
  · rfl

namespace PodMutator

variable {m : PodMutator}

theorem baseListener_withPreset {rt : Option AgentRuntime} {cfg cfg' : Members}
    (h : m.withPreset namespaceName crName rt cfg = .ok cfg') :
    baseListener cfg' = baseListener cfg := by
  cases rt with
  | none => cases h; rfl
  | some rt =>
    simp only [withPreset] at h
    split at h
    · cases h
      rfl
    · split at h
      · cases h
      · cases h
        rw [baseListener_setKey_of_ne (by decide)]

/-- **The listeners of an agent** are those of the namespace with the overrides on
top: what the namespace says about another key stays. -/
theorem baseListener_perAgentConfig {mode : String} {ns : NamespaceConfig}
    {overrides : List (String × String)} {mtlsMode tlsBridgeMode : String} {spireEnabled : Bool}
    {rt : Option AgentRuntime} {document : Members}
    (h : m.perAgentConfig namespaceName crName mode ns overrides mtlsMode tlsBridgeMode
      spireEnabled rt = .ok document) :
    ∃ base, m.baseDocument ns.authBridgeRuntimeYAML = .ok base ∧ baseListener document =
        overrides.foldl (fun ms kv => setKey kv.1 (.str kv.2) ms) (baseListener base) := by
  rw [perAgentConfig] at h
  cases hbase : m.baseDocument ns.authBridgeRuntimeYAML with
  | error e => rw [hbase] at h; cases h
  | ok base =>
    rw [hbase] at h
    cases hpipe : m.withPreset namespaceName crName rt (withPipeline ns base) with
    | error e => simp only [bind, Except.bind, hpipe] at h; cases h
    | ok cfg =>
      simp only [bind, Except.bind, hpipe] at h
      have howned : baseListener (m.ownedSections mode overrides mtlsMode tlsBridgeMode
          spireEnabled cfg) =
          overrides.foldl (fun ms kv => setKey kv.1 (.str kv.2) ms) (baseListener base) := by
        rw [ownedSections, baseListener_ownedSection_of_ne (by decide),
          baseListener_ownedSection_of_ne (by decide), baseListener_ownedSection_of_ne (by decide),
          baseListener_mergeListener, baseListener_setKey_of_ne (by decide),
          baseListener_withPreset hpipe, baseListener_withPipeline]
      refine ⟨base, rfl, ?_⟩
      split at h
      · cases h
        rw [baseListener_setKey_of_ne (by decide), howned]
      · cases h
        exact howned

end PodMutator

end Rossoctl.Webhook
