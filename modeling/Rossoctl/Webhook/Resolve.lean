import Rossoctl.Json.Tree
import Rossoctl.Webhook.Config

/-!
# What the webhook resolves before it injects

The settings of a namespace (`internal/webhook/injector/namespace_config.go`,
`Rossoctl.Webhook.readNamespaceConfig`), and the chains of `InjectAuthBridge` that
make the mode, the egress enforcement, the inbound interception and the two TLS
settings of a workload out of them (`Rossoctl.Webhook.resolveEgressEnforcement` and
its siblings). A chain takes the first value that is set, falls back to its default
on a value it does not know, and – for the two settings that a platform can
restrict – to the first allowed value on one that is not allowed.

The YAML library is a parameter, `Rossoctl.Webhook.Codec`: the webhook decodes the
same text five times into one field each and once into a map.
-/

namespace Rossoctl.Webhook

open Kube Json

/-! ### Documents -/

/-- A YAML value. -/
abbrev Yaml := JTree String

/-- The members of a mapping. -/
abbrev Members := List (String × Yaml)

/-- The value of a key. -/
def getKey (ms : Members) (k : String) : Option Yaml := (ms.find? fun m => m.1 = k).map Prod.snd

/-- `ms[k] = v`. -/
def setKey (k : String) (v : Yaml) : Members → Members
  | [] => [(k, v)]
  | m :: ms => if m.1 = k then (k, v) :: ms else m :: setKey k v ms

/-- `delete(ms, k)`. -/
def eraseKey (ms : Members) (k : String) : Members := ms.filter fun m => m.1 ≠ k

@[simp] theorem getKey_nil (k : String) : getKey [] k = none := rfl

theorem getKey_cons (m : String × Yaml) (ms : Members) (k : String) :
    getKey (m :: ms) k = if m.1 = k then some m.2 else getKey ms k := by
  by_cases h : m.1 = k
  · simp [getKey, h]
  · simp [getKey, h]

variable (ms : Members) (k k' : String) {allowed : List String}

theorem getKey_setKey (v : Yaml) :
    getKey (setKey k v ms) k' = if k = k' then some v else getKey ms k' := by
  induction ms with
  | nil => rw [setKey, getKey_cons, getKey_nil]
  | cons m ms ih =>
    rw [setKey]
    by_cases h : m.1 = k
    · rw [if_pos h, getKey_cons, getKey_cons, h]
      split
      · rfl
      · rfl
    · rw [if_neg h, getKey_cons, ih, getKey_cons]
      by_cases h' : m.1 = k'
      · rw [if_pos h', if_pos h', if_neg fun hk => h (h'.trans hk.symm)]
      · rw [if_neg h', if_neg h']

theorem getKey_eraseKey : getKey (eraseKey ms k) k' = if k = k' then none else getKey ms k' := by
  induction ms with
  | nil => rw [eraseKey, List.filter_nil, getKey_nil, ite_self]
  | cons m ms ih =>
    by_cases h : m.1 = k
    · rw [eraseKey, List.filter_cons_of_neg (by simpa using h), ← eraseKey, ih, getKey_cons]
      split
      · rfl
      · rename_i hk
        rw [if_neg fun hm => hk (h.symm.trans hm)]
    · rw [eraseKey, List.filter_cons_of_pos (by simpa using h), ← eraseKey, getKey_cons, ih,
        getKey_cons]
      by_cases h' : m.1 = k'
      · rw [if_pos h', if_pos h', if_neg fun hk => h (h'.trans hk.symm)]
      · rw [if_neg h', if_neg h']

/-- The members of a value that is a mapping. -/
def asMap : Yaml → Option Members
  | .obj ms => some ms
  | _ => none

/-- The text of a value that is a string. -/
def asString : Yaml → Option String
  | .str s => some s
  | _ => none

/-- The YAML library. -/
structure Codec where
  /-- `yaml.Unmarshal` into a structure with one text field at this path: its value,
  empty if it is not there. -/
  field : List String → String → Except String String
  /-- `yaml.Unmarshal` into a map of generic values; nothing for a document that is
  null. -/
  object : String → Except String (Option Members)

/-! ### The namespace -/

/-- The settings of a namespace, as far as they are used. -/
structure NamespaceConfig where
  keycloakURL : String := ""
  keycloakRealm : String := ""
  tokenURL : String := ""
  issuer : String := ""
  expectedAudience : String := ""
  targetAudience : String := ""
  targetScopes : String := ""
  defaultOutboundPolicy : String := ""
  clientAuthType : String := ""
  jwtAudience : String := ""
  authBridgeRuntimeYAML : String := ""

def authBridgeConfigMapName : String := "authbridge-config"

def authBridgeRuntimeConfigMapName : String := "authbridge-runtime-config"

/-- `ReadNamespaceConfig`: the two ConfigMaps of the namespace are read independently,
and one that cannot be read leaves its settings empty. -/
def readNamespaceConfig (getConfigMap : String → Except String StringMap) : NamespaceConfig :=
  let data (name key : String) : String :=
    match getConfigMap name with
    | .error _ => ""
    | .ok data => valueOf data key
  { keycloakURL := data authBridgeConfigMapName "KEYCLOAK_URL"
    keycloakRealm := data authBridgeConfigMapName "KEYCLOAK_REALM"
    tokenURL := data authBridgeConfigMapName "TOKEN_URL"
    issuer := data authBridgeConfigMapName "ISSUER"
    expectedAudience := data authBridgeConfigMapName "EXPECTED_AUDIENCE"
    targetAudience := data authBridgeConfigMapName "TARGET_AUDIENCE"
    targetScopes := data authBridgeConfigMapName "TARGET_SCOPES"
    defaultOutboundPolicy := data authBridgeConfigMapName "DEFAULT_OUTBOUND_POLICY"
    clientAuthType := data authBridgeConfigMapName "CLIENT_AUTH_TYPE"
    jwtAudience := data authBridgeConfigMapName "JWT_AUDIENCE"
    authBridgeRuntimeYAML := data authBridgeRuntimeConfigMapName "config.yaml" }

/-- A field of the runtime configuration; empty if the text is, or does not parse. -/
def extractField (codec : Codec) (path : List String) (authbridgeYAML : String) : String :=
  if authbridgeYAML = "" then ""
  else
    match codec.field path authbridgeYAML with
    | .error _ => ""
    | .ok value => value

def extractMode (codec : Codec) : String → String := extractField codec ["mode"]

def extractInboundInterception (codec : Codec) : String → String :=
  extractField codec ["inboundInterception"]

def extractEgressEnforcement (codec : Codec) : String → String :=
  extractField codec ["egressEnforcement"]

def extractMTLSMode (codec : Codec) : String → String := extractField codec ["mtls", "mode"]

def extractTLSBridgeMode (codec : Codec) : String → String :=
  extractField codec ["tls_bridge", "mode"]

/-! ### The chains -/

def mtlsModeDisabled : String := "disabled"

def mtlsModePermissive : String := "permissive"

def mtlsModeStrict : String := "strict"

def tlsBridgeModeDisabled : String := "disabled"

def tlsBridgeModeEnabled : String := "enabled"

def modeProxySidecar : String := "proxy-sidecar"

def modeEnvoySidecar : String := "envoy-sidecar"

def modeLite : String := "lite"

def modeWaypoint : String := "waypoint"

def annotationAuthBridgeMode : String := "rossoctl.io/authbridge-mode"

/-- The value, if it is set, and the other one otherwise. -/
def orElse (value default : String) : String := if value = "" then default else value

/-- The value, if it is one of those known, and the default otherwise. -/
def recognize (known : List String) (default value : String) : String :=
  if value ∈ known then value else default

/-- The value, if the platform allows it, and the first that it allows otherwise. -/
def restrict (allowed : List String) (value : String) : String :=
  if value ∈ allowed then value else allowed.headD value

/-- The mutual TLS between sidecars: the namespace's, or permissive. -/
def resolveMTLSMode (codec : Codec) (ns : NamespaceConfig) : String :=
  recognize [mtlsModeDisabled, mtlsModePermissive, mtlsModeStrict] mtlsModePermissive
    (orElse (extractMTLSMode codec ns.authBridgeRuntimeYAML) mtlsModePermissive)

/-- The egress enforcement: the namespace's, or the redirect, as far as the platform
allows it. Without any allowed value the code reads beyond the end of the list. -/
def resolveEgressEnforcement (codec : Codec) (platform : PlatformConfig) (ns : NamespaceConfig) :
    Except String String :=
  let value := recognize [egressEnforcementEnforceRedirect, egressEnforcementNone]
    egressEnforcementEnforceRedirect
    (orElse (extractEgressEnforcement codec ns.authBridgeRuntimeYAML)
      egressEnforcementEnforceRedirect)
  let allowed := platform.proxy.allowedEgressEnforcement
  if allowed = [] then .error "runtime error: index out of range [0] with length 0"
  else .ok (restrict allowed value)

/-- The TLS bridge: the namespace's setting, or none. -/
def resolveTLSBridgeMode (codec : Codec) (ns : NamespaceConfig) : String :=
  recognize [tlsBridgeModeDisabled, tlsBridgeModeEnabled] tlsBridgeModeDisabled
    (orElse (extractTLSBridgeMode codec ns.authBridgeRuntimeYAML) tlsBridgeModeDisabled)

/-- The mode: the namespace's, or the annotation's, or the proxy sidecar. -/
def resolveAuthBridgeMode (codec : Codec) (ns : NamespaceConfig) (annotations : StringMap) :
    String :=
  recognize [modeProxySidecar, modeEnvoySidecar, modeLite, modeWaypoint] modeProxySidecar
    (orElse (extractMode codec ns.authBridgeRuntimeYAML)
      (orElse (valueOf annotations annotationAuthBridgeMode) modeProxySidecar))

/-- The inbound interception: the namespace's, or the reverse proxy, as far as the
platform allows it, and transparent only with a redirect of the egress. -/
def resolveInboundInterception (codec : Codec) (platform : PlatformConfig)
    (ns : NamespaceConfig) (egressEnforcement : String) : String :=
  let value := restrict platform.proxy.allowedInboundInterception
    (recognize [inboundInterceptionReverseProxy, inboundInterceptionTransparent]
      inboundInterceptionReverseProxy
      (orElse (extractInboundInterception codec ns.authBridgeRuntimeYAML)
        inboundInterceptionReverseProxy))
  if value = inboundInterceptionTransparent ∧
      egressEnforcement ≠ egressEnforcementEnforceRedirect then
    inboundInterceptionReverseProxy
  else value

theorem restrict_mem (h : allowed ≠ []) (value : String) : restrict allowed value ∈ allowed := by
  rw [restrict]
  split
  · assumption
  · cases allowed with
    | nil => exact absurd rfl h
    | cons a as => exact List.mem_cons_self

variable {codec : Codec} {platform : PlatformConfig} {value : String} {ns : NamespaceConfig}

/-- Where the platform allows values only of two, a value that is not allowed becomes
the other one. -/
theorem restrict_eq_iff {a b : String} (hne : allowed ≠ [])
    (hmem : ∀ x ∈ allowed, x = a ∨ x = b) (hval : value = a ∨ value = b) (hab : a ≠ b) :
    restrict allowed value = a ↔ a ∈ allowed ∧ (value = b → b ∉ allowed) := by
  have hin := restrict_mem hne value
  constructor
  · intro h
    rw [h] at hin
    refine ⟨hin, fun hb hball => ?_⟩
    rw [restrict, hb, if_pos hball] at h
    exact hab h.symm
  · rintro ⟨ha, hb⟩
    rcases hval with rfl | rfl
    · rw [restrict, if_pos ha]
    · have hnot := hb rfl
      rcases hmem _ hin with h | h
      · exact h
      · rw [h] at hin
        exact absurd hin hnot

theorem resolveEgressEnforcement_mem (h : resolveEgressEnforcement codec platform ns = .ok value) :
    value ∈ platform.proxy.allowedEgressEnforcement := by
  rw [resolveEgressEnforcement] at h
  split at h
  · cases h
  · rename_i hne
    cases h
    exact restrict_mem hne _

/-- **The egress is redirected** if, and only if, the platform allows it and, where the
namespace asks for none, does not allow that. -/
theorem resolveEgressEnforcement_eq_iff (hv : platform.Valid)
    (h : resolveEgressEnforcement codec platform ns = .ok value) :
    value = egressEnforcementEnforceRedirect ↔
      egressEnforcementEnforceRedirect ∈ platform.proxy.allowedEgressEnforcement ∧
        (extractEgressEnforcement codec ns.authBridgeRuntimeYAML = egressEnforcementNone →
          egressEnforcementNone ∉ platform.proxy.allowedEgressEnforcement) := by
  rw [resolveEgressEnforcement, if_neg hv.egress_ne_nil] at h
  cases h
  have hwish : ∀ text : String, recognize [egressEnforcementEnforceRedirect, egressEnforcementNone]
      egressEnforcementEnforceRedirect (orElse text egressEnforcementEnforceRedirect) =
      if text = egressEnforcementNone then egressEnforcementNone
      else egressEnforcementEnforceRedirect := by
    intro text
    by_cases hnone : text = egressEnforcementNone
    · rw [if_pos hnone, hnone]
      rfl
    · rw [if_neg hnone, orElse]
      by_cases hempty : text = ""
      · rw [if_pos hempty]
        rfl
      · rw [if_neg hempty, recognize]
        split
        · rename_i hmem
          simp only [List.mem_cons, List.not_mem_nil, or_false] at hmem
          exact hmem.resolve_right hnone
        · rfl
  rw [hwish]
  by_cases hnone : extractEgressEnforcement codec ns.authBridgeRuntimeYAML = egressEnforcementNone
  · rw [if_pos hnone, restrict_eq_iff hv.egress_ne_nil hv.egress_mem (.inr rfl) (by decide)]
    simp [hnone]
  · rw [if_neg hnone, restrict_eq_iff hv.egress_ne_nil hv.egress_mem (.inl rfl) (by decide)]
    constructor
    · rintro ⟨hmem, -⟩
      exact ⟨hmem, fun hcon => absurd hcon hnone⟩
    · rintro ⟨hmem, -⟩
      exact ⟨hmem, fun hcon => absurd hcon (by decide)⟩

/-- Transparent interception is left only where the platform allows it and the egress
is redirected. -/
theorem resolveInboundInterception_transparent (hv : platform.Valid) {egress : String}
    (h : resolveInboundInterception codec platform ns egress = inboundInterceptionTransparent) :
    inboundInterceptionTransparent ∈ platform.proxy.allowedInboundInterception ∧
      egress = egressEnforcementEnforceRedirect := by
  rw [resolveInboundInterception] at h
  split at h
  · exact absurd h (by decide)
  · rename_i hnot
    refine ⟨?_, ?_⟩
    · rw [← h]
      exact restrict_mem hv.inbound_ne_nil _
    · by_contra hegress
      exact hnot ⟨h, hegress⟩

/-- Where only transparent interception is allowed and the egress is redirected, that is
the mechanism. -/
theorem resolveInboundInterception_mandated (hv : platform.Valid) (ns : NamespaceConfig)
    (hmandated : inboundInterceptionReverseProxy ∉ platform.proxy.allowedInboundInterception) :
    resolveInboundInterception codec platform ns egressEnforcementEnforceRedirect =
      inboundInterceptionTransparent := by
  rw [resolveInboundInterception, if_neg fun h => h.2 rfl]
  have hmem := restrict_mem hv.inbound_ne_nil (recognize
    [inboundInterceptionReverseProxy, inboundInterceptionTransparent]
    inboundInterceptionReverseProxy (orElse (extractInboundInterception codec
      ns.authBridgeRuntimeYAML) inboundInterceptionReverseProxy))
  rcases hv.inbound_mem _ hmem with h | h
  · rw [h] at hmem
    exact absurd hmem hmandated
  · exact h

end Rossoctl.Webhook
