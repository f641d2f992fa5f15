import Rossoctl.Broker.System

/-!
# Which endpoints a resource has

`internal/oauth/discovery.go`: the authorization endpoint, the token endpoint and the
scopes of a resource are each set for it, set for all resources, or read from the
document that the resource publishes. They are documented to be chosen one by one
(`Rossoctl.Broker.DiscovererConfig.documented`). `DiscoverEndpoints` chooses that way
only where it reads the document: settings for the resource with both endpoints are
taken as they are, also with no scopes, and settings for all resources displace a
single endpoint that is set for one (`Rossoctl.Broker.discoverEndpoints_eq_iff`).
-/

namespace Rossoctl.Broker

/-- `ResourceConfig`: what is set for one resource. -/
structure ResourceConfig where
  scopes : List String := []
  authorizationEndpoint : String := ""
  tokenEndpoint : String := ""

/-- The settings of the discoverer. -/
structure DiscovererConfig where
  authorizationEndpoint : String := ""
  tokenEndpoint : String := ""
  scopesSupported : List String := []
  resourceScopes : GoMap String (List String) := ∅
  resourceConfigs : GoMap String ResourceConfig := ∅

/-- The document of a resource. -/
structure ResourceMetadata where
  authorizationServers : List String
  scopesSupported : List String

/-- The libraries and the network, as discovery meets them. -/
structure Web where
  /-- `url.Parse`: the scheme and the host. -/
  parse : String → Option (String × String)
  /-- The error of `http.NewRequestWithContext`. -/
  badRequest : String → Option String
  /-- `httpClient.Do`: the status, what can be read of the body, and the error that
  ends the reading. -/
  get : String → Except String (ℕ × String × Option String)
  unmarshal : String → Except String ResourceMetadata
  /-- The quoting of `%q`. -/
  quote : String → String

/-- `strings.TrimSuffix(s, "/")`. -/
def trimSlash (s : String) : String :=
  if s.toList.getLast? = some '/' then String.ofList s.toList.dropLast else s

/-- The part of `DiscoverEndpoints` that gets the document. -/
def Web.metadata (web : Web) (resourceURL : String) : Except String ResourceMetadata := do
  let valid := (web.parse resourceURL).any fun (scheme, host) =>
    (scheme = "http" ∨ scheme = "https") ∧ host ≠ ""
  unless valid do
    throw ("invalid resource URL " ++ web.quote resourceURL ++
      ": must be http or https with a non-empty host")
  let wellKnownURL := trimSlash resourceURL ++ "/.well-known/oauth-protected-resource"
  if let some e := web.badRequest wellKnownURL then
    throw ("failed to create discovery request: " ++ e)
  let (status, body, failure) ←
    (web.get wellKnownURL).mapError ("failed to send discovery request: " ++ ·)
  if status ≠ 200 then
    throw ("discovery endpoint returned status " ++ toString status ++ ": " ++ body)
  if let some e := failure then throw ("failed to read discovery response: " ++ e)
  let m ← (web.unmarshal body).mapError ("failed to parse discovery response: " ++ ·)
  if m.authorizationServers = [] then
    throw "no authorization servers found in discovery response"
  return m

/-- The endpoints and scopes that a document gives. -/
def ResourceMetadata.discovered (m : ResourceMetadata) : Discovery :=
  let authServerBase := trimSlash (m.authorizationServers.headD "")
  { authEndpoint := authServerBase ++ "/authorize"
    tokenEndpoint := authServerBase ++ "/access_token"
    scopes := m.scopesSupported }

namespace DiscovererConfig

variable (c : DiscovererConfig) (resourceURL : String)

/-- `ResourceConfigs[resourceURL]`. Where the source asks whether the entry is there,
it asks for a field that is not empty as well. -/
def serverCfg : ResourceConfig := (c.resourceConfigs.lookup resourceURL).getD {}

/-- Both endpoints are set for the resource. -/
def FullServer : Prop :=
  (c.serverCfg resourceURL).authorizationEndpoint ≠ "" ∧
    (c.serverCfg resourceURL).tokenEndpoint ≠ ""

/-- `hasConfiguredMetadata`: both endpoints are set for all resources. -/
def HasConfiguredMetadata : Prop := c.authorizationEndpoint ≠ "" ∧ c.tokenEndpoint ≠ ""

instance : Decidable (c.FullServer resourceURL) := inferInstanceAs (Decidable (_ ∧ _))

instance : Decidable c.HasConfiguredMetadata := inferInstanceAs (Decidable (_ ∧ _))

/-- The scopes set for a resource, or the given ones. -/
def scopesOr (scopes : List String) : List String :=
  if (c.serverCfg resourceURL).scopes ≠ [] then (c.serverCfg resourceURL).scopes
  else (c.resourceScopes.lookup resourceURL).getD scopes

/-- `DiscoverEndpoints`: what is configured goes before what the resource announces. -/
def discoverEndpoints (web : Web) : Except String Discovery :=
  let server := c.serverCfg resourceURL
  if c.FullServer resourceURL then
    .ok ⟨server.authorizationEndpoint, server.tokenEndpoint, server.scopes⟩
  else if c.HasConfiguredMetadata then
    .ok ⟨c.authorizationEndpoint, c.tokenEndpoint, c.scopesOr resourceURL c.scopesSupported⟩
  else match web.metadata resourceURL with
    | .error e => .error e
    | .ok m => .ok
        { authEndpoint := if server.authorizationEndpoint ≠ "" then server.authorizationEndpoint
            else m.discovered.authEndpoint
          tokenEndpoint := if server.tokenEndpoint ≠ "" then server.tokenEndpoint
            else m.discovered.tokenEndpoint
          scopes := c.scopesOr resourceURL m.discovered.scopes }

/-- The endpoint that is documented: the one set for the resource, or that of all
resources where both of these are set, or the discovered one. -/
def endpoint (own all discovered : String) : String :=
  if own ≠ "" then own else if c.HasConfiguredMetadata then all else discovered

/-- **The documented choice**, field by field. -/
def documented (m : ResourceMetadata) : Discovery where
  authEndpoint := c.endpoint (c.serverCfg resourceURL).authorizationEndpoint
    c.authorizationEndpoint m.discovered.authEndpoint
  tokenEndpoint := c.endpoint (c.serverCfg resourceURL).tokenEndpoint
    c.tokenEndpoint m.discovered.tokenEndpoint
  scopes := c.scopesOr resourceURL
    (if c.FullServer resourceURL ∨ c.HasConfiguredMetadata then c.scopesSupported
      else m.discovered.scopes)

/-- What the settings have to be for the documented choice: if both endpoints are set
for the resource, then so are scopes, unless there are none to fall back on; otherwise,
if both are set for all resources, the resource has none of its own. -/
def FieldWise : Prop :=
  if c.FullServer resourceURL then
    (c.serverCfg resourceURL).scopes = [] → c.scopesOr resourceURL c.scopesSupported = []
  else c.HasConfiguredMetadata →
    (c.serverCfg resourceURL).authorizationEndpoint ∈ ["", c.authorizationEndpoint] ∧
      (c.serverCfg resourceURL).tokenEndpoint ∈ ["", c.tokenEndpoint]

variable {c resourceURL}

theorem endpoint_eq_iff {own all discovered : String} (h : c.HasConfiguredMetadata) :
    all = c.endpoint own all discovered ↔ own ∈ ["", all] := by
  by_cases hown : own = "" <;> simp [endpoint, h, hown, eq_comm]

theorem eq_scopesOr_iff {scopes : List String} :
    (c.serverCfg resourceURL).scopes = c.scopesOr resourceURL scopes ↔
      ((c.serverCfg resourceURL).scopes = [] → c.scopesOr resourceURL scopes = []) := by
  by_cases h : (c.serverCfg resourceURL).scopes = []
  · rw [h, eq_comm (a := [])]
    simp
  · simp [scopesOr, h]

/-- **The endpoints are the documented ones exactly under these settings**, whatever
document the resource publishes. -/
theorem discoverEndpoints_eq_iff {web : Web} {m : ResourceMetadata}
    (hm : web.metadata resourceURL = .ok m) :
    c.discoverEndpoints resourceURL web = .ok (c.documented resourceURL m) ↔
      c.FieldWise resourceURL := by
  rw [discoverEndpoints, FieldWise, documented]
  by_cases hfull : c.FullServer resourceURL
  · rw [if_pos hfull, if_pos hfull, ← eq_scopesOr_iff]
    simp [endpoint, hfull, hfull.1, hfull.2]
  · rw [if_neg hfull, if_neg hfull]
    by_cases hall : c.HasConfiguredMetadata
    · simp [hall, endpoint_eq_iff hall]
    · simp [hall, hfull, hm, endpoint]

/-- A network on which every resource publishes the same document. -/
def published : Web where
  parse := fun _ => some ("https", "api")
  badRequest := fun _ => none
  get := fun _ => .ok (200, "", none)
  unmarshal := fun _ => .ok ⟨["https://idp/"], ["read"]⟩
  quote := id

/-- One endpoint set for the resource, the other discovered. -/
theorem discoverEndpoints_half_set :
    let c : DiscovererConfig :=
      { scopesSupported := ["write"]
        resourceConfigs := AList.singleton "https://api" { tokenEndpoint := "https://own/token" } }
    published.metadata "https://api" = .ok ⟨["https://idp/"], ["read"]⟩ ∧
      c.discoverEndpoints "https://api" published =
        .ok (c.documented "https://api" ⟨["https://idp/"], ["read"]⟩) :=
  ⟨rfl, (discoverEndpoints_eq_iff rfl).mpr (by unfold FieldWise; decide +kernel)⟩

/-- The token endpoint set for one resource gives way to that of all resources. -/
theorem discoverEndpoints_displaced :
    let c : DiscovererConfig :=
      { authorizationEndpoint := "https://all/authorize", tokenEndpoint := "https://all/token"
        resourceConfigs := AList.singleton "https://api" { tokenEndpoint := "https://own/token" } }
    published.metadata "https://api" = .ok ⟨["https://idp/"], ["read"]⟩ ∧
      (c.documented "https://api" ⟨["https://idp/"], ["read"]⟩).tokenEndpoint =
        "https://own/token" ∧
      (c.discoverEndpoints "https://api" published).toOption.map (·.tokenEndpoint) =
        some "https://all/token" := by
  refine ⟨rfl, ?_, ?_⟩ <;> decide +kernel

end DiscovererConfig

end Rossoctl.Broker
