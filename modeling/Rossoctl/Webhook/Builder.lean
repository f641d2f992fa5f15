import Rossoctl.Bundle.Archive
import Rossoctl.Webhook.Resolve

/-!
# The containers and volumes that the webhook builds

`internal/webhook/injector/container_builder.go` and `volume_builder.go`: the
sidecar of the proxy-sidecar and lite modes, the Envoy container, the init container
that installs the iptables rules, the volumes they mount, and the two volumes of the
TLS bridge.
-/

namespace Rossoctl.Webhook

open Kube

/-! ### Fixed names and ports -/

def authBridgeHealthPort : Int := 9091

def authBridgeStatsPort : Int := 9093

def authBridgeSessionAPIPort : Int := 9094

def authproxyRoutesConfigMapName : String := "authproxy-routes"

def spiffeHelperConfigMapName : String := "spiffe-helper-config"

def envoyConfigMapName : String := "envoy-config"

def authProxyMountPath : String := "/etc/authproxy"

def authProxyRoutesFile : String := authProxyMountPath ++ "/routes.yaml"

def tlsBridgeCAVolumeName : String := "tls-bridge-ca"

def tlsBridgeCACertVolumeName : String := "tls-bridge-ca-cert"

def tlsBridgeCAMountPath : String := "/etc/authbridge/tls-bridge-ca"

def tlsBridgeCASecretSuffix : String := "-tls-bridge-ca"

/-! ### Containers -/

/-- `ContainerBuilder`. With the settings of a namespace it writes values, without
them references to ConfigMaps. -/
structure ContainerBuilder where
  cfg : PlatformConfig
  resolved : Option NamespaceConfig := none

/-- `path.Dir`. -/
def pathDir (path : String) : String :=
  Bundle.clean (String.ofList (path.toList.reverse.dropWhile (· ≠ '/')).reverse)

/-- The directory of the socket, if it has one of its own. -/
def spireSocketDir (socketPath : String) : String :=
  let stripped := if hasPrefix socketPath "unix://" then
    String.ofList (socketPath.toList.drop 7) else socketPath
  let dir := pathDir stripped
  if dir = "." ∨ dir = "/" then "" else dir

example : spireSocketDir "unix:///spiffe-workload-api/spire-agent.sock" =
    "/spiffe-workload-api" := by decide +kernel

def spireEnabledStr (b : Bool) : String := if b then "true" else "false"

namespace ContainerBuilder

variable (b : ContainerBuilder)

/-- The mounts that SPIRE adds to a sidecar. -/
def spireMounts : List VolumeMount :=
  [{ name := "svid-output", mountPath := "/opt" },
    { name := "spiffe-helper-config", mountPath := "/etc/spiffe-helper", readOnly := true },
    { name := "spire-agent-socket", mountPath := spireSocketDir b.cfg.socketPath,
      readOnly := true }]

/-- The user that a sidecar runs as. -/
def sidecarSecurityContext : SecurityContext :=
  { runAsUser := some b.cfg.proxy.uid, runAsGroup := some b.cfg.proxy.uid,
    runAsNonRoot := some true, allowPrivilegeEscalation := some false }

/-- The sidecar of the proxy-sidecar and lite modes. -/
def buildProxySidecarContainer (spireEnabled : Bool) (image inboundPortName : String)
    (inboundPort forwardProxyPort : Int) : Container where
  name := authBridgeProxyContainerName
  image := image
  imagePullPolicy := b.cfg.images.pullPolicy
  args := ["--config", "/etc/authbridge/config.yaml"]
  env := [{ name := "SPIRE_ENABLED", value := spireEnabledStr spireEnabled }]
  ports := [{ name := inboundPortName, containerPort := inboundPort },
    { name := "forward-proxy", containerPort := forwardProxyPort }]
  resources := b.cfg.resources.authBridge
  securityContext := some b.sidecarSecurityContext
  volumeMounts := [{ name := "shared-data", mountPath := "/shared" },
    { name := "authbridge-runtime-config", mountPath := "/etc/authbridge", readOnly := true },
    { name := authproxyRoutesConfigMapName, mountPath := authProxyMountPath, readOnly := true }] ++
    if spireEnabled then b.spireMounts else []

/-- The sidecar that steals the port of the agent. -/
def buildProxySidecarContainerWithPorts (spireEnabled : Bool) (image : String)
    (reverseProxyPort forwardProxyPort : Int) : Container :=
  b.buildProxySidecarContainer spireEnabled image "reverse-proxy" reverseProxyPort
    forwardProxyPort

/-- The sidecar that redirected traffic comes in at. -/
def buildProxySidecarContainerTransparent (spireEnabled : Bool) (image : String)
    (transparentInboundPort forwardProxyPort : Int) : Container :=
  b.buildProxySidecarContainer spireEnabled image "transparent-in" transparentInboundPort
    forwardProxyPort

/-- A variable of the Envoy container: its value in the namespace, or a reference to
the ConfigMap that has it. -/
def envoyEnv (name : String) (value : NamespaceConfig → String) (optional : Bool) : EnvVar :=
  match b.resolved with
  | some ns => { name, value := value ns }
  | none => { name, valueFrom := some (.configMapKeyRef authBridgeConfigMapName name optional) }

/-- `buildEnvoyProxyEnvResolved` and `buildEnvoyProxyEnvLegacy`. -/
def buildEnvoyProxyEnv : List EnvVar :=
  [b.envoyEnv "KEYCLOAK_URL" NamespaceConfig.keycloakURL true,
    b.envoyEnv "KEYCLOAK_REALM" NamespaceConfig.keycloakRealm true,
    b.envoyEnv "TOKEN_URL" NamespaceConfig.tokenURL true,
    b.envoyEnv "ISSUER" NamespaceConfig.issuer false,
    b.envoyEnv "EXPECTED_AUDIENCE" NamespaceConfig.expectedAudience true,
    b.envoyEnv "TARGET_AUDIENCE" NamespaceConfig.targetAudience true,
    b.envoyEnv "TARGET_SCOPES" NamespaceConfig.targetScopes true,
    { name := "CLIENT_ID_FILE", value := "/shared/client-id.txt" },
    { name := "CLIENT_SECRET_FILE", value := "/shared/client-secret.txt" },
    { name := "ROUTES_CONFIG_PATH", value := authProxyRoutesFile },
    b.envoyEnv "DEFAULT_OUTBOUND_POLICY" NamespaceConfig.defaultOutboundPolicy true]

/-- The sidecar of the envoy mode. -/
def buildEnvoyProxyContainerWithSpireOption (spireEnabled : Bool) : Container where
  name := envoyProxyContainerName
  image := b.cfg.images.envoyProxy
  imagePullPolicy := b.cfg.images.pullPolicy
  args := ["--config", "/etc/authbridge/config.yaml"]
  env := b.buildEnvoyProxyEnv ++
    [{ name := "SPIRE_ENABLED", value := spireEnabledStr spireEnabled }]
  ports := [{ name := "envoy-outbound", containerPort := b.cfg.proxy.port },
    { name := "envoy-inbound", containerPort := b.cfg.proxy.inboundProxyPort },
    { name := "envoy-admin", containerPort := b.cfg.proxy.adminPort },
    { name := "ext-proc", containerPort := 9090 }]
  resources := b.cfg.resources.envoyProxy
  securityContext := some b.sidecarSecurityContext
  volumeMounts := [{ name := "envoy-config", mountPath := "/etc/envoy", readOnly := true },
    { name := "shared-data", mountPath := "/shared" },
    { name := "authproxy-routes", mountPath := authProxyMountPath, readOnly := true },
    { name := "authbridge-runtime-config", mountPath := "/etc/authbridge", readOnly := true }] ++
    if spireEnabled then b.spireMounts else []

end ContainerBuilder

/-! ### Ports that an annotation excludes -/

/-- The decimal digits of a text, as a number. -/
def digits? (cs : List Char) : Option Nat :=
  if cs = [] then none
  else cs.foldl (fun n c => n.bind fun n =>
    if '0' ≤ c ∧ c ≤ '9' then some (10 * n + (c.toNat - '0'.toNat)) else none) (some 0)

/-- `strconv.Atoi`, up to its range. -/
def atoi (s : String) : Option Int :=
  match s.toList with
  | '-' :: cs => (digits? cs).map fun n => -(n : Int)
  | '+' :: cs => (digits? cs).map Int.ofNat
  | cs => (digits? cs).map Int.ofNat

/-- The loop of `validateAndDeduplicatePorts` over the parts of the text. -/
def addPort (ports : List String) (tok : String) : List String :=
  match atoi (trimSpace tok) with
  | none => ports
  | some p => if p < 1 ∨ p > 65535 ∨ toString p ∈ ports then ports else ports ++ [toString p]

/-- `validateAndDeduplicatePorts`. -/
def validateAndDeduplicatePorts (raw : String) (initialPorts : List String) : List String :=
  ((raw.toList.splitOn ',').map String.ofList).foldl addPort initialPorts

def mandatoryOutboundExclude : String := "8080"

def buildOutboundExcludeValue (extra : String) : String :=
  if extra = "" then mandatoryOutboundExclude
  else ",".intercalate (validateAndDeduplicatePorts extra [mandatoryOutboundExclude])

def buildPortExcludeValue (raw : String) : String :=
  if raw = "" then "" else ",".intercalate (validateAndDeduplicatePorts raw [])

example : buildOutboundExcludeValue "11434, 8080,x,+4317,0" = "8080,11434,4317" := by
  decide +kernel

/-! ### The init container -/

/-- What the init container sets up. -/
inductive ProxyInitMode where
  | redirect
  | enforceRedirect
  deriving DecidableEq

/-- `ProxyInitInbound`: what transparent inbound interception adds. -/
structure ProxyInitInbound where
  /-- The target of the redirect; 0 for none. -/
  port : Int := 0
  sidecarPortsExclude : String := ""
  portsExclude : String := ""

/-- The variable that arms the inbound redirect. -/
def inboundTransparentPortEnv : String := "INBOUND_TRANSPARENT_PORT"

namespace ContainerBuilder

variable (b : ContainerBuilder)

/-- The part of the environment that installs the inbound redirect. -/
def inboundEnv (inbound : ProxyInitInbound) : List EnvVar :=
  if inbound.port > 0 then
    [{ name := inboundTransparentPortEnv, value := toString inbound.port },
      { name := "POD_IP", valueFrom := some (.fieldRef "status.podIP") },
      { name := "POD_IPS", valueFrom := some (.fieldRef "status.podIPs") }] ++
      (if inbound.sidecarPortsExclude ≠ "" then
        [{ name := "SIDECAR_PORTS_EXCLUDE", value := inbound.sidecarPortsExclude }] else []) ++
      (if buildPortExcludeValue inbound.portsExclude ≠ "" then
        [{ name := "INBOUND_PORTS_EXCLUDE", value := buildPortExcludeValue inbound.portsExclude }]
      else [])
  else []

/-- The environment of the init container in a mode. -/
def proxyInitEnv (outboundPortsExclude inboundPortsExclude : String)
    (inbound : ProxyInitInbound) : ProxyInitMode → List EnvVar
  | .enforceRedirect =>
    [{ name := "MODE", value := "enforce-redirect" },
      { name := "PROXY_UID", value := toString b.cfg.proxy.uid },
      { name := "TRANSPARENT_PORT", value := toString b.cfg.proxy.transparentPort }] ++
      inboundEnv inbound
  | .redirect =>
    [{ name := "PROXY_PORT", value := toString b.cfg.proxy.port },
      { name := "INBOUND_PROXY_PORT", value := toString b.cfg.proxy.inboundProxyPort },
      { name := "PROXY_UID", value := toString b.cfg.proxy.uid },
      { name := "OUTBOUND_PORTS_EXCLUDE", value := buildOutboundExcludeValue outboundPortsExclude },
      { name := "POD_IP", valueFrom := some (.fieldRef "status.podIP") }] ++
      (if buildPortExcludeValue inboundPortsExclude ≠ "" then
        [{ name := "INBOUND_PORTS_EXCLUDE", value := buildPortExcludeValue inboundPortsExclude }]
      else [])

/-- The init container with the rules for the traffic. -/
def buildProxyInitContainerWithInbound (mode : ProxyInitMode)
    (outboundPortsExclude inboundPortsExclude : String) (inbound : ProxyInitInbound) :
    Container where
  name := proxyInitContainerName
  image := b.cfg.images.proxyInit
  imagePullPolicy := b.cfg.images.pullPolicy
  resources := b.cfg.resources.proxyInit
  env := b.proxyInitEnv outboundPortsExclude inboundPortsExclude inbound mode ++
    if b.cfg.proxy.iptablesCmd ≠ "" then
      [{ name := "IPTABLES_CMD", value := b.cfg.proxy.iptablesCmd }] else []
  securityContext := some
    { runAsUser := some 0, runAsNonRoot := some false, privileged := some false,
      capabilitiesAdd := ["NET_ADMIN", "NET_RAW"], capabilitiesDrop := ["ALL"] }

def buildProxyInitContainer (mode : ProxyInitMode)
    (outboundPortsExclude inboundPortsExclude : String) : Container :=
  b.buildProxyInitContainerWithInbound mode outboundPortsExclude inboundPortsExclude {}

end ContainerBuilder

/-! ### Volumes -/

/-- The volumes of the sidecars. -/
def buildResolvedVolumes (spireEnabled : Bool) (envoyConfigMap : String) : List Volume :=
  [{ name := "shared-data", source := .emptyDir }] ++ (if spireEnabled then
      [{ name := "spire-agent-socket", source := .csi "csi.spiffe.io" true },
        { name := "spiffe-helper-config", source := .configMap spiffeHelperConfigMapName none },
        { name := "svid-output", source := .emptyDir }] else []) ++
    [{ name := "envoy-config",
       source := .configMap (orElse envoyConfigMap envoyConfigMapName) (some true) },
      { name := "authproxy-routes",
        source := .configMap authproxyRoutesConfigMapName (some true) },
      { name := "authbridge-runtime-config",
        source := .configMap authBridgeRuntimeConfigMapName (some true) }]

def buildRequiredVolumes : List Volume := buildResolvedVolumes true ""

def buildRequiredVolumesNoSpire : List Volume := buildResolvedVolumes false ""

/-- Redirect the volume of a name, if it is a ConfigMap, to the ConfigMap `cmName`. -/
def overrideConfigMapInVolumes (volume cmName : String) (optional : Option Bool → Option Bool)
    (volumes : List Volume) : List Volume :=
  volumes.map fun v =>
    if v.name = volume then
      match v.source with
      | .configMap _ opt => { v with source := .configMap cmName (optional opt) }
      | _ => v
    else v

def overrideAuthBridgeConfigMapInVolumes (volumes : List Volume) (cmName : String) : List Volume :=
  overrideConfigMapInVolumes authBridgeRuntimeConfigMapName cmName id volumes

/-- `overrideRoutesConfigMapInVolumes`: the routes are required once they are there. -/
def overrideRoutesConfigMapInVolumes (volumes : List Volume) (routesCMName : String) :
    List Volume :=
  overrideConfigMapInVolumes authproxyRoutesConfigMapName routesCMName (fun _ => some false) volumes

def overrideEnvoyConfigMapInVolumes (volumes : List Volume) (cmName : String) : List Volume :=
  overrideConfigMapInVolumes envoyConfigMapName cmName id volumes

/-! ### The TLS bridge -/

/-- The variables by which runtimes and tools are told of a CA. -/
def tlsBridgeTrustEnvVars : List String :=
  ["NODE_EXTRA_CA_CERTS", "SSL_CERT_FILE", "REQUESTS_CA_BUNDLE", "CURL_CA_BUNDLE",
    "GIT_SSL_CAINFO", "AWS_CA_BUNDLE", "GRPC_DEFAULT_SSL_ROOTS_FILE_PATH"]

/-- What the TLS bridge mounts into one container: the key pair into the sidecar, the
certificate alone into any other. -/
def mountTLSBridge (c : Container) : Container :=
  if c.name = authBridgeProxyContainerName then
    addVolumeMountIfMissing
      { name := tlsBridgeCAVolumeName, mountPath := tlsBridgeCAMountPath, readOnly := true } c
  else
    tlsBridgeTrustEnvVars.foldl (fun c env => setOrAddEnv c env (tlsBridgeCAMountPath ++ "/ca.crt"))
      (addVolumeMountIfMissing
        { name := tlsBridgeCACertVolumeName, mountPath := tlsBridgeCAMountPath,
          readOnly := true } c)

/-- The volume with the key pair of a workload's CA. -/
def tlsBridgeCAVolume (workloadName : String) : Volume where
  name := tlsBridgeCAVolumeName
  source := .secret (workloadName ++ tlsBridgeCASecretSuffix) (some 0o444) [] none

/-- The volume with its certificate only. -/
def tlsBridgeCACertVolume (workloadName : String) : Volume where
  name := tlsBridgeCACertVolumeName
  source := .secret (workloadName ++ tlsBridgeCASecretSuffix) (some 0o444)
    [("ca.crt", "ca.crt")] none

/-- `applyTLSBridgeMounts`: the key pair for the sidecar, the certificate for the others. -/
def applyTLSBridgeMounts (workloadName : String) (pod : PodSpec) : PodSpec :=
  { addVolumes [tlsBridgeCAVolume workloadName, tlsBridgeCACertVolume workloadName] pod with
    containers := pod.containers.map mountTLSBridge }

theorem grown_foldl_setOrAddEnv (value : String) (names : List String) (c : Container) :
    c.Grown (names.foldl (fun c env => setOrAddEnv c env value) c) := by
  induction names generalizing c with
  | nil => exact .refl c
  | cons name names ih => exact (grown_setOrAddEnv c name value).trans (ih _)

theorem grown_mountTLSBridge (c : Container) : c.Grown (mountTLSBridge c) := by
  rw [mountTLSBridge]
  split
  · exact grown_addVolumeMountIfMissing _ c
  · exact (grown_addVolumeMountIfMissing _ c).trans (grown_foldl_setOrAddEnv _ _ _)

theorem grown_applyTLSBridgeMounts (workloadName : String) (pod : PodSpec) :
    pod.Grown (applyTLSBridgeMounts workloadName pod) :=
  ⟨forall₂_grown_map grown_mountTLSBridge _, rfl⟩

end Rossoctl.Webhook
