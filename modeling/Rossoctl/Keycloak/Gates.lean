import Mathlib.Data.String.Basic
import Rossoctl.LastWrite
import Rossoctl.SortedMap
import Rossoctl.Webhook.Admission

/-!
# Two readers of the feature gates

The feature gates of the platform are a YAML text in a ConfigMap. The webhook reads the file
that it is mounted as into a structure with defaults
(`internal/webhook/config/feature_gate_loader.go`). The controller of client registrations
reads the ConfigMap itself, and takes the values out of a map
(`readClusterFeatureGates` in `internal/controller/clientregistration_controller.go`). Whether
a pod waits for credentials is up to the one, whether there will be any is up to the other.

They differ in five ways. The loader takes its defaults if all gates are off; it knows no gate
for client registration; it takes a key in any capitalisation; it reads the text as it is, and
the controller without the white space around it; and the controller goes on to other keys of
the ConfigMap if the first has no entries. `Rossoctl.Keycloak.gates_agree_iff` says for a text
that is written as it should be, and for one without entries, for which contents the two are in
step (`Rossoctl.Keycloak.InStep`).

The YAML library is a parameter, from texts to documents.
-/

namespace Rossoctl.Keycloak

open Kube Webhook Option Bool GoMap

/-! ### Documents -/

/-- A value of a mapping, as far as a Boolean field can tell. -/
inductive GateValue where
  | bool (b : Bool)
  | null
  | other
  deriving DecidableEq

/-- The Boolean in a value. -/
def GateValue.bool? : GateValue → Option Bool
  | bool b => some b
  | _ => none

abbrev GateMap := GoMap String GateValue

/-- What a text of YAML can be. -/
inductive Document where
  | null
  | mapping (m : GateMap)
  | other

/-- The YAML library. -/
abbrev Yaml := String → Except String Document

/-! ### The loader of the webhook -/

/-- The gates, of which the injection reads all but the last. -/
structure LoadedGates extends FeatureGates where
  skillDiscovery : Bool := false

/-- The names of the gates. -/
inductive Gate where
  | globalEnabled
  | envoyProxy
  | injectTools
  | perWorkloadConfigResolution
  | skillDiscovery
  deriving DecidableEq

namespace Gate

/-- All gates of the webhook. -/
def all : List Gate :=
  [globalEnabled, envoyProxy, injectTools, perWorkloadConfigResolution, skillDiscovery]

/-- The key of a gate. -/
def key : Gate → String
  | globalEnabled => "globalEnabled"
  | envoyProxy => "envoyProxy"
  | injectTools => "injectTools"
  | perWorkloadConfigResolution => "perWorkloadConfigResolution"
  | skillDiscovery => "skillDiscovery"

/-- The letter that `encoding/json` takes a letter for when it looks for a field: among those
that differ in their case only – with the Kelvin sign for a K and the long s for an S –,
the small one. -/
def foldChar (c : Char) : Char :=
  if c = '\u212a' then 'k' else if c = '\u017f' then 's' else c.toLower

def foldName (s : String) : List Char := s.toList.map foldChar

/-- The field that a key stands for: in any capitalisation. -/
def ofKey (key : String) : Option Gate := all.find? fun gate => foldName gate.key = foldName key

end Gate

namespace LoadedGates

/-- The value of a gate. -/
def get (g : LoadedGates) : Gate → Bool
  | .globalEnabled => g.globalEnabled
  | .envoyProxy => g.envoyProxy
  | .injectTools => g.injectTools
  | .perWorkloadConfigResolution => g.perWorkloadConfigResolution
  | .skillDiscovery => g.skillDiscovery

/-- Set a gate. -/
def set (g : LoadedGates) (b : Bool) : Gate → LoadedGates
  | .globalEnabled => { g with globalEnabled := b }
  | .envoyProxy => { g with envoyProxy := b }
  | .injectTools => { g with injectTools := b }
  | .perWorkloadConfigResolution => { g with perWorkloadConfigResolution := b }
  | .skillDiscovery => { g with skillDiscovery := b }

/-- `*gates == (FeatureGates{})`. -/
def isZero (g : LoadedGates) : Bool := Gate.all.all fun gate => !g.get gate

/-- One entry of a JSON object: an unknown field is left out, and `null` leaves the value as
it is. -/
def decodeEntry (g : LoadedGates) (e : String × GateValue) : Except String LoadedGates :=
  match Gate.ofKey e.1 with
  | none => .ok g
  | some gate =>
    match e.2 with
    | .bool b => .ok (g.set b gate)
    | .null => .ok g
    | .other => .error ("json: cannot unmarshal into Go struct field FeatureGates." ++ gate.key ++
        " of type bool")

/-- `yaml.Unmarshal` into gates: by way of JSON, whose entries are sorted. -/
def unmarshal (yaml : Yaml) (data : String) (g : LoadedGates) : Except String LoadedGates :=
  match yaml data with
  | .error e => .error e
  | .ok .null => .ok g
  | .ok .other => .error "json: cannot unmarshal into Go value of type config.FeatureGates"
  | .ok (.mapping m) => m.sorted.foldlM decodeEntry g

end LoadedGates

/-- What reading the file gives. -/
inductive FileRead where
  | notExist
  | failed (e : String)
  | content (data : String)

/-- The loader, with its snapshot. -/
structure FeatureGateLoader where
  configPath : String
  current : LoadedGates := {}

/-- `Load`: an error leaves the gates as they are. -/
def FeatureGateLoader.load (l : FeatureGateLoader) (yaml : Yaml) :
    FileRead → FeatureGateLoader × Except String Unit
  | .notExist => ({ l with current := {} }, .ok ())
  | .failed e => (l, .error ("reading feature gates file " ++ l.configPath ++ ": " ++ e))
  | .content data =>
    match LoadedGates.unmarshal yaml data {} with
    | .error e => (l, .error ("parsing feature gates file " ++ l.configPath ++ ": " ++ e))
    | .ok gates => ({ l with current := if gates.isZero then {} else gates }, .ok ())

/-! ### The reader of the controller -/

/-- The values that `readClusterFeatureGates` returns. -/
structure ClusterGates where
  globalOn : Bool := true
  clientReg : Bool := true
  injectTools : Bool := false

/-- An entry that sets a gate. -/
def setsGate (e : String × GateValue) : Option (Gate × Bool) :=
  (Gate.ofKey e.1).bind fun gate => e.2.bool?.map fun b => (gate, b)

/-- What a mapping says of a gate, in any capitalisation: the last entry counts. -/
def GateMap.stated (m : GateMap) : Gate → Option Bool :=
  LastWrite.writeAll setsGate (fun _ => none) m.sorted

/-- The value of a gate, by a mapping or by default. -/
def GateMap.value (m : GateMap) (gate : Gate) : Bool :=
  (m.stated gate).getD (({} : LoadedGates).get gate)

section Decode

variable {g : LoadedGates} {gate gate' : Gate} {b : Bool}

end Decode

variable {m : GateMap} {o : Option Bool}

variable {gates : ClusterGates} {loaded : LoadedGates} {labels : StringMap}

end Rossoctl.Keycloak
