import Rossoctl.Webhook.Pod

/-!
# Platform configuration and feature gates

`internal/webhook/config`: the configuration of the platform with the check it has
to pass (`Rossoctl.Webhook.PlatformConfig.validate`), and the feature gates with
the decision they make together with the labels of a workload
(`internal/webhook/injector/precedence.go`, `Rossoctl.Webhook.evaluate`).

`Rossoctl.Webhook.PlatformConfig.Valid` is what the check establishes, and what
the results about the webhook assume of a platform.
-/

namespace Rossoctl.Webhook

open Kube

/-! ### Values of the settings -/

def egressEnforcementEnforceRedirect : String := "enforce-redirect"

def egressEnforcementNone : String := "none"

def inboundInterceptionReverseProxy : String := "reverse-proxy"

def inboundInterceptionTransparent : String := "transparent"

/-! ### The platform -/

structure ImageConfig where
  envoyProxy : String
  authBridge : String
  authBridgeLite : String
  proxyInit : String
  pullPolicy : String := ""

/-- The ports and the policy of the platform. -/
structure ProxyConfig where
  port : Int
  uid : Int
  inboundProxyPort : Int
  adminPort : Int
  /-- The listener for redirected outbound traffic. -/
  transparentPort : Int
  iptablesCmd : String
  /-- The listener for redirected inbound traffic. -/
  transparentInboundPort : Int
  allowedInboundInterception : List String
  allowedEgressEnforcement : List String

structure ResourcesConfig where
  envoyProxy : ResourceRequirements := []
  proxyInit : ResourceRequirements := []
  authBridge : ResourceRequirements := []

/-- The configuration of the platform. -/
structure PlatformConfig where
  images : ImageConfig
  proxy : ProxyConfig
  resources : ResourcesConfig := {}
  /-- `spiffe.socketPath`. -/
  socketPath : String := ""

/-- A check with its error. -/
def require (p : Prop) [Decidable p] (error : String) : Except String Unit :=
  if p then .ok () else .error error

/-- One of the range checks of `Validate`. -/
def checkPort (field : String) (port : Int) : Except String Unit :=
  require (1024 ≤ port ∧ port ≤ 65535) (field ++ " must be between 1024 and 65535")

/-- The check of a list of allowed values: not empty, and of the two values only. -/
def checkAllowed (field hint first second : String) (allowed : List String) : Except String Unit :=
  if allowed = [] then .error (field ++ " must not be empty " ++ hint)
  else
    match allowed.find? fun mode => mode ≠ first ∧ mode ≠ second with
    | some mode =>
      .error (field ++ " contains invalid value " ++ quoted mode ++ " (allowed: " ++ first ++ ", " ++
        second ++ ")")
    | none => .ok ()

/-- The check that an image is given. -/
def checkImage (field image : String) : Except String Unit :=
  require (image ≠ "") (field ++ " is required")

/-- The checks of `Validate`, in their order. -/
def PlatformConfig.checks (c : PlatformConfig) : List (Except String Unit) :=
  [checkPort "proxy.port" c.proxy.port, checkPort "proxy.inboundProxyPort" c.proxy.inboundProxyPort,
    checkPort "proxy.adminPort" c.proxy.adminPort,
    checkPort "proxy.transparentPort" c.proxy.transparentPort,
    checkPort "proxy.transparentInboundPort" c.proxy.transparentInboundPort,
    require (c.proxy.transparentInboundPort ≠ c.proxy.transparentPort)
      ("proxy.transparentInboundPort (" ++ toString c.proxy.transparentInboundPort ++
        ") must differ from proxy.transparentPort — they are distinct listeners in the same " ++
        "container"),
    require (1 ≤ c.proxy.uid) ("proxy.uid must be >= 1 (got " ++ toString c.proxy.uid ++
        "): the proxy must not run as root and the egress-enforcement exemption keys on this UID"),
    require (c.proxy.iptablesCmd ∈ ["", "iptables", "iptables-nft", "iptables-legacy"])
      ("proxy.iptablesCmd " ++ quoted c.proxy.iptablesCmd ++ " is not a recognized backend " ++
        "(want one of: \"\" (auto-detect), iptables, iptables-nft, iptables-legacy)"),
    checkAllowed "proxy.allowedInboundInterception"
      ("(set [\"reverse-proxy\"] to forbid transparent inbound, [\"transparent\"] to require it, " ++
        "or both to allow workload choice)")
      inboundInterceptionReverseProxy inboundInterceptionTransparent
      c.proxy.allowedInboundInterception,
    checkAllowed "proxy.allowedEgressEnforcement"
      ("(set [\"enforce-redirect\"] to require enforcement, [\"none\"] to disable it, " ++
        "or both to allow workload choice)")
      egressEnforcementEnforceRedirect egressEnforcementNone c.proxy.allowedEgressEnforcement,
    checkImage "images.envoyProxy" c.images.envoyProxy,
    checkImage "images.authbridge" c.images.authBridge,
    checkImage "images.authbridgeLite" c.images.authBridgeLite,
    checkImage "images.proxyInit" c.images.proxyInit]

/-- The error of the first check that fails. -/
def firstError : List (Except String Unit) → Except String Unit
  | [] => .ok ()
  | .error e :: _ => .error e
  | .ok () :: checks => firstError checks

/-- `Validate`: the first check that fails. -/
def PlatformConfig.validate (c : PlatformConfig) : Except String Unit := firstError c.checks

/-- What a platform configuration that passes `Validate` satisfies, as far as the
proxy-sidecar and lite modes depend on it. -/
structure PlatformConfig.Valid (c : PlatformConfig) : Prop where
  transparentPort : 1024 ≤ c.proxy.transparentPort ∧ c.proxy.transparentPort ≤ 65535
  transparentInboundPort :
    1024 ≤ c.proxy.transparentInboundPort ∧ c.proxy.transparentInboundPort ≤ 65535
  ports_ne : c.proxy.transparentInboundPort ≠ c.proxy.transparentPort
  inbound_ne_nil : c.proxy.allowedInboundInterception ≠ []
  inbound_mem : ∀ mode ∈ c.proxy.allowedInboundInterception,
    mode = inboundInterceptionReverseProxy ∨ mode = inboundInterceptionTransparent
  egress_ne_nil : c.proxy.allowedEgressEnforcement ≠ []
  egress_mem : ∀ mode ∈ c.proxy.allowedEgressEnforcement,
    mode = egressEnforcementEnforceRedirect ∨ mode = egressEnforcementNone

theorem firstError_ok {checks : List (Except String Unit)} (h : firstError checks = .ok ()) :
    ∀ c ∈ checks, c = .ok () := by
  induction checks with
  | nil => intro c hc; cases hc
  | cons c checks ih =>
    cases c with
    | error e => cases h
    | ok u =>
      rintro c (_ | ⟨_, hc⟩)
      · rfl
      · exact ih h c hc

theorem require_ok {p : Prop} [Decidable p] {error : String} (h : require p error = .ok ()) :
    p := by
  rw [require] at h
  split at h
  · assumption
  · cases h

theorem checkAllowed_ok {field hint first second : String} {allowed : List String}
    (h : checkAllowed field hint first second allowed = .ok ()) :
    allowed ≠ [] ∧ ∀ mode ∈ allowed, mode = first ∨ mode = second := by
  rw [checkAllowed] at h
  split at h
  · cases h
  · rename_i hne
    split at h
    · cases h
    · rename_i hnone
      refine ⟨hne, fun mode hmode => ?_⟩
      have hall := List.find?_eq_none.mp hnone mode hmode
      by_contra hcon
      exact hall (decide_eq_true (not_or.mp hcon))

/-- **What `Validate` establishes.** -/
theorem PlatformConfig.valid_of_validate {c : PlatformConfig} (h : c.validate = .ok ()) :
    c.Valid := by
  have hall := firstError_ok h
  simp only [checks, List.forall_mem_cons] at hall
  obtain ⟨-, -, -, ht, hin, hne, -, -, hinb, heg, -⟩ := hall
  have hinb := checkAllowed_ok hinb
  have heg := checkAllowed_ok heg
  exact
    { transparentPort := require_ok ht
      transparentInboundPort := require_ok hin
      ports_ne := require_ok hne
      inbound_ne_nil := hinb.1
      inbound_mem := hinb.2
      egress_ne_nil := heg.1
      egress_mem := heg.2 }

/-- `CompiledDefaults`. -/
def compiledDefaults : PlatformConfig where
  images :=
    { envoyProxy := "ghcr.io/rossoctl/cortex/authbridge-envoy:v0.7.0-alpha.3"
      authBridge := "ghcr.io/rossoctl/cortex/authbridge:v0.7.0-alpha.3"
      authBridgeLite := "ghcr.io/rossoctl/cortex/authbridge-lite:v0.7.0-alpha.3"
      proxyInit := "ghcr.io/rossoctl/cortex/proxy-init:v0.7.0-alpha.3"
      pullPolicy := "IfNotPresent" }
  proxy :=
    { port := 15123, uid := 1337, inboundProxyPort := 15124, adminPort := 9901,
      transparentPort := 8082, iptablesCmd := "", transparentInboundPort := 8083,
      allowedInboundInterception :=
        [inboundInterceptionReverseProxy, inboundInterceptionTransparent],
      allowedEgressEnforcement := [egressEnforcementEnforceRedirect, egressEnforcementNone] }
  resources :=
    { envoyProxy := [("requests.cpu", "50m"), ("requests.memory", "64Mi"),
        ("limits.cpu", "200m"), ("limits.memory", "256Mi")]
      proxyInit := [("requests.cpu", "10m"), ("requests.memory", "10Mi"),
        ("limits.cpu", "10m"), ("limits.memory", "10Mi")]
      authBridge := [("requests.cpu", "100m"), ("requests.memory", "128Mi"),
        ("limits.cpu", "300m"), ("limits.memory", "384Mi")] }
  socketPath := "unix:///spiffe-workload-api/spire-agent.sock"

theorem validate_compiledDefaults : compiledDefaults.validate = .ok () := by rfl

/-! ### Feature gates and the decision about a workload -/

/-- The gates that the injection reads. -/
structure FeatureGates where
  globalEnabled : Bool := true
  envoyProxy : Bool := true
  injectTools : Bool := false
  perWorkloadConfigResolution : Bool := false

def rossoctlTypeLabel : String := "rossoctl.io/type"

def rossoctlTypeAgent : String := "agent"

def rossoctlTypeTool : String := "tool"

def authBridgeInjectLabel : String := "rossoctl.io/inject"

def authBridgeDisabledValue : String := "disabled"

def labelEnvoyProxyInject : String := "rossoctl.io/envoy-proxy-inject"

def labelSpiffeHelperInject : String := "rossoctl.io/spiffe-helper-inject"

/-- Whether a sidecar is injected, and why. -/
structure SidecarDecision where
  inject : Bool
  reason : String
  layer : String

/-- The decisions on all sidecars. -/
structure InjectionDecision where
  envoyProxy : SidecarDecision
  /-- Follows `envoyProxy`. -/
  proxyInit : SidecarDecision
  spiffeHelper : SidecarDecision

/-- `AnyInjected`. -/
def InjectionDecision.anyInjected (d : InjectionDecision) : Bool :=
  d.envoyProxy.inject || d.spiffeHelper.inject

/-- `evaluateSidecar`: the feature gate first, then the label of the workload. -/
def evaluateSidecar (sidecarName : String) (featureGateEnabled : Bool)
    (workloadLabelValue : String) : SidecarDecision :=
  if !featureGateEnabled then
    { inject := false, reason := sidecarName ++ " feature gate disabled", layer := "feature-gate" }
  else if workloadLabelValue = "false" then
    { inject := false, reason := "workload label disabled " ++ sidecarName,
      layer := "workload-label" }
  else { inject := true, reason := "all gates passed", layer := "default" }

/-- `evaluateSpiffeHelper`: like `evaluateSidecar`, with no gate. -/
def evaluateSpiffeHelper (workloadLabelValue : String) : SidecarDecision :=
  evaluateSidecar "spiffe-helper" true workloadLabelValue

/-- `Evaluate`: gates first, then the labels of the single sidecars. -/
def evaluate (gates : FeatureGates) (labels : StringMap) : InjectionDecision :=
  let envoyProxy := evaluateSidecar "envoy-proxy" gates.envoyProxy
    (valueOf labels labelEnvoyProxyInject)
  { envoyProxy
    proxyInit := { envoyProxy with reason := "follows envoy-proxy decision" }
    spiffeHelper := evaluateSpiffeHelper (valueOf labels labelSpiffeHelperInject) }

/-- The filters in front of the decision: an agent, or a tool where tools are
injected, with the gate of all on, and not opted out. -/
def wantsInjection (gates : FeatureGates) (labels : StringMap) : Bool :=
  match labels.lookup rossoctlTypeLabel with
  | none => false
  | some type =>
    (type = rossoctlTypeAgent || type = rossoctlTypeTool) && gates.globalEnabled &&
      !(type = rossoctlTypeTool && !gates.injectTools) &&
      !(valueOf labels authBridgeInjectLabel = authBridgeDisabledValue)

end Rossoctl.Webhook
