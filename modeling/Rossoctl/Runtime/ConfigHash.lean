import Rossoctl.Json.Text
import Rossoctl.Runtime.Enrolment
import Rossoctl.SortedMap

/-!
# The hash of the configuration

`ComputeConfigHash` (`internal/controller/agentruntime_config.go`): five reads, of the
defaults of the cluster and of the namespace, the feature gates, and two ConfigMaps of the
namespace, are merged, written as JSON and hashed. The hash is stamped on the templates of
workloads, so a new hash is a rollout.

The text determines what it was made from, up to what is empty
(`Rossoctl.Runtime.ResolvedConfig.text_eq_iff`). But a read that fails is taken for a
ConfigMap that is not there, whatever the failure: `Rossoctl.Runtime.configHash_iff` says
which failures do no harm, and `Rossoctl.Runtime.configHash_transient` shows one that does.
-/

namespace Rossoctl.Runtime

open Kube Json Webhook List

/-! ### Reads -/

/-- A ConfigMap, as far as it is read. -/
structure ConfigMapObject where
  labels : StringMap := ∅
  /-- There may be none. -/
  data : Option StringMap := none

abbrev ConfigMaps := GoMap NamespacedName ConfigMapObject

/-- The two kinds of reads. -/
inductive Read where
  | get (name : NamespacedName)
  | list (ns : String)
  deriving DecidableEq

inductive ReadError where
  | notFound
  | failed
  deriving DecidableEq

/-- A reader of the API server, and the reads that fail. -/
structure Reader where
  configMaps : ConfigMaps
  fails : Read → Bool := fun _ => false

def labelNamespaceDefaults : String := "rossoctl.io/defaults"

namespace Reader

def get (c : Reader) (name : NamespacedName) : Except ReadError ConfigMapObject :=
  if c.fails (.get name) then .error .failed
  else
    match c.configMaps.lookup name with
    | none => .error .notFound
    | some cm => .ok cm

/-- The ConfigMaps of a namespace with the label of defaults. -/
def list (c : Reader) (ns : String) : Except ReadError (List (NamespacedName × ConfigMapObject)) :=
  if c.fails (.list ns) then .error .failed
  else .ok ((c.configMaps.entries.map fun e => (e.1, e.2)).filter fun e =>
    decide (e.1.ns = ns ∧ e.2.labels.lookup labelNamespaceDefaults = some "true"))

end Reader

/-! ### The configuration -/

def clusterDefaultsConfigMapName : String := "rossoctl-platform-config"

def clusterFeatureGatesConfigMapName : String := "rossoctl-feature-gates"

def authBridgeRuntimeConfigMapName : String := "authbridge-runtime-config"

def spiffeHelperConfigMapName : String := "spiffe-helper-config"

/-- `readConfigMapData`: an error counts as no data. -/
def readConfigMapData (c : Reader) (ns name : String) : StringMap :=
  match c.get ⟨ns, name⟩ with
  | .error _ => ∅
  | .ok cm => cm.data.getD ∅

/-- `readNamespaceDefaults`: the data, and a warning if there are several. -/
def readNamespaceDefaults (c : Reader) (ns : String) : StringMap × String :=
  match c.list ns with
  | .error _ => (∅, "")
  | .ok [] => (∅, "")
  | .ok (first :: rest) =>
    (first.2.data.getD ∅,
      if rest = [] then ""
      else "multiple namespace defaults ConfigMaps found in " ++ ns ++
        " (expected at most one): [" ++ String.intercalate " " ((first :: rest).map (·.1.name)) ++
        "]; using " ++ first.1.name)

/-- `mergeMaps`: the second map wins. -/
def mergeMaps (base override : StringMap) : StringMap :=
  override.entries.foldl (fun m e => m.insert e.1 e.2)
    (base.entries.foldl (fun m e => m.insert e.1 e.2) ∅)

/-- The configuration that is hashed. -/
structure ResolvedConfig where
  featureGates : StringMap
  defaults : StringMap
  authBridgeRuntime : String
  spiffeHelperConfig : String

/-- `resolveConfig`, with its warnings. -/
def resolveConfig (c : Reader) (clusterNs ns : String) : ResolvedConfig × List String :=
  let nsDefaults := readNamespaceDefaults c ns
  ({ featureGates := readConfigMapData c clusterNs clusterFeatureGatesConfigMapName
     defaults := mergeMaps (readConfigMapData c clusterNs clusterDefaultsConfigMapName)
       nsDefaults.1
     authBridgeRuntime :=
       valueOf (readConfigMapData c ns authBridgeRuntimeConfigMapName) "config.yaml"
     spiffeHelperConfig :=
       valueOf (readConfigMapData c ns spiffeHelperConfigMapName) "helper.conf" },
   if nsDefaults.2 = "" then [] else [nsDefaults.2])

/-! ### The text -/

/-- The value of a field: a map, sorted by key, or a string. -/
inductive Field where
  | map (members : List (String × String))
  | text (s : String)

namespace Field

/-- What `omitempty` leaves out. -/
def isEmpty : Field → Bool
  | map [] => true
  | map (_ :: _) => false
  | text s => s = ""

/-- A member whose value is a string. -/
def entry (p : String × String) : List Char := quote p.1 ++ ':' :: quote p.2

/-- What `json.Marshal` makes of a field. -/
def encode : Field → List Char
  | map members => '\x7b' :: commaSeparated (members.map entry) ++ ['\x7d']
  | text s => quote s

end Field

namespace ResolvedConfig

/-- The fields of the structure, in its order. -/
def allFields (r : ResolvedConfig) : List (String × Field) :=
  [("featureGates", .map r.featureGates.sorted), ("defaults", .map r.defaults.sorted),
    ("authBridgeRuntime", .text r.authBridgeRuntime),
    ("spiffeHelperConfig", .text r.spiffeHelperConfig)]

/-- The fields that are not empty (`omitempty`). -/
def fields (r : ResolvedConfig) : List (String × Field) :=
  r.allFields.filter fun p => !p.2.isEmpty

def member (p : String × Field) : List Char := quote p.1 ++ ':' :: p.2.encode

/-- **What is hashed**: the JSON that `json.Marshal` writes. -/
def text (r : ResolvedConfig) : List Char :=
  '\x7b' :: commaSeparated (r.fields.map member) ++ ['\x7d']

end ResolvedConfig

structure ConfigResult where
  hash : String
  warnings : List String

/-- `ComputeConfigHash`, where `digest` is SHA-256 in hexadecimal. Strings and maps of
strings can always be written. -/
def computeConfigHash (digest : List Char → String) (c : Reader) (clusterNs ns : String) :
    Except String ConfigResult :=
  .ok ⟨digest (resolveConfig c clusterNs ns).1.text, (resolveConfig c clusterNs ns).2⟩

/-! ### The text determines the configuration -/

namespace Field

theorem quote_ne {c : Char} (hc : c ≠ '"') (s : String) (t t' : List Char) :
    quote s ++ t ≠ c :: t' :=
  fun h => hc (List.cons.inj h).1.symm

theorem entry_delimited : Delimited entry := by
  intro p p' rest rest' h
  rw [entry, entry, append_assoc, append_assoc] at h
  obtain ⟨hkey, h⟩ := quote_delimited _ _ _ _ h
  obtain ⟨hvalue, hrest⟩ := quote_delimited _ _ _ _ (List.cons.inj h).2
  exact ⟨Prod.ext hkey hvalue, hrest⟩

theorem entry_ne (p : String × String) (t t' : List Char) : entry p ++ t ≠ '\x7d' :: t' := by
  rw [entry, append_assoc]
  exact quote_ne (by decide) _ _ _

theorem encode_delimited : Delimited encode := by
  intro f f' rest rest' h
  cases f with
  | text s =>
    cases f' with
    | text s' =>
      obtain ⟨rfl, hrest⟩ := quote_delimited _ _ _ _ h
      exact ⟨rfl, hrest⟩
    | map m' => exact absurd h (quote_ne (by decide) _ _ _)
  | map m =>
    cases f' with
    | text s' => exact absurd h.symm (quote_ne (by decide) _ _ _)
    | map m' =>
      simp only [encode, cons_append, append_assoc, List.cons.injEq, true_and, nil_append] at h
      obtain ⟨rfl, hrest⟩ := commaSeparated_readBack (by decide) (by decide) entry_ne
        (fun p _ p' r r' _ _ he => entry_delimited p p' r r' he) h
      exact ⟨rfl, hrest⟩

end Field

namespace ResolvedConfig

theorem member_delimited : Delimited member := by
  intro p p' rest rest' h
  rw [member, member, append_assoc, append_assoc] at h
  obtain ⟨hkey, h⟩ := quote_delimited _ _ _ _ h
  obtain ⟨hvalue, hrest⟩ := Field.encode_delimited _ _ _ _ (List.cons.inj h).2
  exact ⟨Prod.ext hkey hvalue, hrest⟩

variable {a b : ResolvedConfig}

theorem fields_eq_of_text_eq (h : a.text = b.text) : a.fields = b.fields := by
  have hne : ∀ (p : String × Field) (t t' : List Char), member p ++ t ≠ '\x7d' :: t' := by
    intro p t t'
    rw [member, append_assoc]
    exact Field.quote_ne (by decide) _ _ _
  simp only [text, cons_append, List.cons.injEq, true_and] at h
  exact (commaSeparated_readBack (by decide) (by decide) hne
    (fun p _ p' r r' _ _ he => member_delimited p p' r r' he) h).1

/-- **The same configuration**, up to what is empty. -/
structure Same (a b : ResolvedConfig) : Prop where
  featureGates : ∀ key, a.featureGates.lookup key = b.featureGates.lookup key
  defaults : ∀ key, a.defaults.lookup key = b.defaults.lookup key
  authBridgeRuntime : a.authBridgeRuntime = b.authBridgeRuntime
  spiffeHelperConfig : a.spiffeHelperConfig = b.spiffeHelperConfig

/-- A field that both have under a name, and that is written unless it is empty. -/
theorem field_eq (h : a.fields = b.fields) (name : String) {f g : Field}
    (hf : ∀ x, (name, x) ∈ a.allFields ↔ x = f) (hg : ∀ x, (name, x) ∈ b.allFields ↔ x = g)
    (hempty : f.isEmpty = true → g.isEmpty = true → f = g) : f = g := by
  have hmem : ∀ {r : ResolvedConfig} {x : Field},
      (name, x) ∈ r.fields ↔ (name, x) ∈ r.allFields ∧ x.isEmpty = false := by
    intro r x
    rw [fields, mem_filter, Bool.not_eq_true']
  cases hfe : f.isEmpty with
  | false =>
    have hin := hmem.mpr ⟨(hf f).mpr rfl, hfe⟩
    rw [h] at hin
    exact (hg f).mp (hmem.mp hin).1
  | true =>
    cases hge : g.isEmpty with
    | true => exact hempty hfe hge
    | false =>
      have hin := hmem.mpr ⟨(hg g).mpr rfl, hge⟩
      rw [← h] at hin
      exact ((hf g).mp (hmem.mp hin).1).symm

theorem map_eq_of_isEmpty {l l' : List (String × String)} (h : (Field.map l).isEmpty = true)
    (h' : (Field.map l').isEmpty = true) : Field.map l = Field.map l' := by
  cases l with
  | nil =>
    cases l' with
    | nil => rfl
    | cons => cases h'
  | cons => cases h

theorem text_eq_of_isEmpty {s s' : String} (h : (Field.text s).isEmpty = true)
    (h' : (Field.text s').isEmpty = true) : Field.text s = Field.text s' := by
  rw [of_decide_eq_true h, of_decide_eq_true h']

/-- **The text determines the configuration**, and nothing more. -/
theorem text_eq_iff : a.text = b.text ↔ Same a b := by
  constructor
  · intro h
    have hfields := fields_eq_of_text_eq h
    have hgates := field_eq (f := .map a.featureGates.sorted) (g := .map b.featureGates.sorted)
      hfields "featureGates" (fun x => by simp [allFields]) (fun x => by simp [allFields])
      map_eq_of_isEmpty
    have hdefaults := field_eq (f := .map a.defaults.sorted) (g := .map b.defaults.sorted)
      hfields "defaults" (fun x => by simp [allFields]) (fun x => by simp [allFields])
      map_eq_of_isEmpty
    have hruntime := field_eq (f := .text a.authBridgeRuntime) (g := .text b.authBridgeRuntime)
      hfields "authBridgeRuntime" (fun x => by simp [allFields]) (fun x => by simp [allFields])
      text_eq_of_isEmpty
    have hhelper := field_eq (f := .text a.spiffeHelperConfig) (g := .text b.spiffeHelperConfig)
      hfields "spiffeHelperConfig" (fun x => by simp [allFields]) (fun x => by simp [allFields])
      text_eq_of_isEmpty
    exact ⟨GoMap.sorted_eq_iff.mp (Field.map.inj hgates),
      GoMap.sorted_eq_iff.mp (Field.map.inj hdefaults), Field.text.inj hruntime,
      Field.text.inj hhelper⟩
  · intro h
    rw [text, fields, allFields, GoMap.sorted_eq_iff.mpr h.featureGates,
      GoMap.sorted_eq_iff.mpr h.defaults, h.authBridgeRuntime, h.spiffeHelperConfig]
    rfl

end ResolvedConfig

/-! ### What is stored -/

/-- The data of a ConfigMap, which is empty if there is none. -/
def storedData (cms : ConfigMaps) (name : NamespacedName) : StringMap :=
  ((cms.lookup name).bind (·.data)).getD ∅

/-- The ConfigMaps of a namespace with the label of defaults. -/
def labelledDefaults (cms : ConfigMaps) (ns : String) : List (NamespacedName × ConfigMapObject) :=
  (cms.entries.map fun e => (e.1, e.2)).filter fun e =>
    decide (e.1.ns = ns ∧ e.2.labels.lookup labelNamespaceDefaults = some "true")

/-- The defaults of a namespace: those of the first ConfigMap. -/
def storedDefaults (cms : ConfigMaps) (ns : String) : StringMap :=
  ((labelledDefaults cms ns).head?.bind (·.2.data)).getD ∅

/-- **The configuration that is stored.** -/
def stored (cms : ConfigMaps) (clusterNs ns : String) : ResolvedConfig where
  featureGates := storedData cms ⟨clusterNs, clusterFeatureGatesConfigMapName⟩
  defaults := mergeMaps (storedData cms ⟨clusterNs, clusterDefaultsConfigMapName⟩)
    (storedDefaults cms ns)
  authBridgeRuntime :=
    valueOf (storedData cms ⟨ns, authBridgeRuntimeConfigMapName⟩) "config.yaml"
  spiffeHelperConfig := valueOf (storedData cms ⟨ns, spiffeHelperConfigMapName⟩) "helper.conf"

section Reads

variable (c : Reader) (ns name : String)

/-- **A read that fails is a read of nothing.** -/
theorem readConfigMapData_eq : readConfigMapData c ns name =
      if c.fails (.get ⟨ns, name⟩) then ∅ else storedData c.configMaps ⟨ns, name⟩ := by
  rw [readConfigMapData, Reader.get, storedData]
  split_ifs
  · rfl
  · cases c.configMaps.lookup ⟨ns, name⟩ with
    | none => rfl
    | some cm => rfl

theorem readNamespaceDefaults_eq : (readNamespaceDefaults c ns).1 =
      if c.fails (.list ns) then ∅ else storedDefaults c.configMaps ns := by
  rw [readNamespaceDefaults, Reader.list, storedDefaults, ← labelledDefaults]
  split_ifs
  · rfl
  · cases labelledDefaults c.configMaps ns with
    | nil => rfl
    | cons first rest => rfl

end Reads

theorem lookup_mergeMaps (base override : StringMap) (key : String) :
    (mergeMaps base override).lookup key = (override.lookup key).or (base.lookup key) := by
  rw [mergeMaps, GoMap.lookup_foldl_insert _ override.nodupKeys,
    GoMap.lookup_foldl_insert _ base.nodupKeys, AList.lookup_empty, Option.or_none]
  rfl

/-! ### Failures that do no harm -/

/-- **No failure hides anything.** What cannot be read is empty, or – for the defaults,
which are read in two places – says what the other place says. -/
structure Spared (c : Reader) (clusterNs ns : String) : Prop where
  featureGates : c.fails (.get ⟨clusterNs, clusterFeatureGatesConfigMapName⟩) = true → ∀ key,
    (storedData c.configMaps ⟨clusterNs, clusterFeatureGatesConfigMapName⟩).lookup key = none
  clusterDefaults : c.fails (.get ⟨clusterNs, clusterDefaultsConfigMapName⟩) = true → ∀ key,
    (storedData c.configMaps ⟨clusterNs, clusterDefaultsConfigMapName⟩).lookup key = none ∨
      c.fails (.list ns) = false ∧ (storedDefaults c.configMaps ns).lookup key ≠ none
  namespaceDefaults : c.fails (.list ns) = true → ∀ key,
    (storedDefaults c.configMaps ns).lookup key = none ∨
      c.fails (.get ⟨clusterNs, clusterDefaultsConfigMapName⟩) = false ∧
        (storedDefaults c.configMaps ns).lookup key =
          (storedData c.configMaps ⟨clusterNs, clusterDefaultsConfigMapName⟩).lookup key
  authBridgeRuntime : c.fails (.get ⟨ns, authBridgeRuntimeConfigMapName⟩) = true →
    valueOf (storedData c.configMaps ⟨ns, authBridgeRuntimeConfigMapName⟩) "config.yaml" = ""
  spiffeHelperConfig : c.fails (.get ⟨ns, spiffeHelperConfigMapName⟩) = true →
    valueOf (storedData c.configMaps ⟨ns, spiffeHelperConfigMapName⟩) "helper.conf" = ""

variable (b : Bool) (m : StringMap)

theorem lookup_ite_empty (key : String) : (if b = true then (∅ : StringMap) else m).lookup key =
      if b = true then none else m.lookup key := by
  cases b with
  | true => exact AList.lookup_empty key
  | false => rfl

theorem dataValue_ite_empty_iff (key : String) :
    valueOf (if b = true then ∅ else m) key = valueOf m key ↔ (b = true → valueOf m key = "") := by
  cases b with
  | true =>
    have hempty : valueOf ∅ key = "" := by rw [valueOf, AList.lookup_empty, Option.getD_none]
    rw [if_pos rfl, hempty, eq_comm]
    exact ⟨fun h _ => h, fun h => h rfl⟩
  | false =>
    exact iff_of_true rfl fun h => absurd h Bool.false_ne_true

theorem lookup_ite_empty_iff (key : String) :
    (if b = true then none else m.lookup key) = m.lookup key ↔
      (b = true → m.lookup key = none) := by
  cases b with
  | true => simp [eq_comm]
  | false => simp

theorem layers_eq_iff {V : Type} (l g : Bool) (x y : Option V) :
    (if l = true then none else x).or (if g = true then none else y) = x.or y ↔
      (g = true → y = none ∨ l = false ∧ x ≠ none) ∧ (l = true → x = none ∨ g = false ∧ x = y) := by
  cases l <;> cases g <;> cases x <;> simp [eq_comm]

section Same

variable (c : Reader) (clusterNs ns : String)

theorem featureGates_eq_iff (key : String) :
    (resolveConfig c clusterNs ns).1.featureGates.lookup key =
        (stored c.configMaps clusterNs ns).featureGates.lookup key ↔
      (c.fails (.get ⟨clusterNs, clusterFeatureGatesConfigMapName⟩) = true →
        (storedData c.configMaps ⟨clusterNs, clusterFeatureGatesConfigMapName⟩).lookup key =
          none) := by
  rw [resolveConfig, stored, readConfigMapData_eq, lookup_ite_empty, lookup_ite_empty_iff]

theorem lookup_defaults (key : String) : (resolveConfig c clusterNs ns).1.defaults.lookup key =
      (if c.fails (.list ns) = true then none
        else (storedDefaults c.configMaps ns).lookup key).or
      (if c.fails (.get ⟨clusterNs, clusterDefaultsConfigMapName⟩) = true then none
        else (storedData c.configMaps ⟨clusterNs, clusterDefaultsConfigMapName⟩).lookup key) := by
  rw [resolveConfig, readConfigMapData_eq c clusterNs clusterDefaultsConfigMapName,
    readNamespaceDefaults_eq, lookup_mergeMaps, lookup_ite_empty, lookup_ite_empty]

theorem authBridgeRuntime_eq_iff : (resolveConfig c clusterNs ns).1.authBridgeRuntime =
        (stored c.configMaps clusterNs ns).authBridgeRuntime ↔
      (c.fails (.get ⟨ns, authBridgeRuntimeConfigMapName⟩) = true →
        valueOf (storedData c.configMaps ⟨ns, authBridgeRuntimeConfigMapName⟩)
          "config.yaml" = "") := by
  rw [resolveConfig, stored, readConfigMapData_eq c ns authBridgeRuntimeConfigMapName]
  exact dataValue_ite_empty_iff _ _ _

theorem spiffeHelperConfig_eq_iff : (resolveConfig c clusterNs ns).1.spiffeHelperConfig =
        (stored c.configMaps clusterNs ns).spiffeHelperConfig ↔
      (c.fails (.get ⟨ns, spiffeHelperConfigMapName⟩) = true →
        valueOf (storedData c.configMaps ⟨ns, spiffeHelperConfigMapName⟩)
          "helper.conf" = "") := by
  rw [resolveConfig, stored, readConfigMapData_eq c ns spiffeHelperConfigMapName]
  exact dataValue_ite_empty_iff _ _ _

/-- **The configuration that is read is the one that is stored** if and only if no failure
hides anything. -/
theorem same_stored_iff :
    ResolvedConfig.Same (resolveConfig c clusterNs ns).1 (stored c.configMaps clusterNs ns) ↔
      Spared c clusterNs ns := by
  have hmerged := fun key => lookup_mergeMaps
    (storedData c.configMaps ⟨clusterNs, clusterDefaultsConfigMapName⟩)
    (storedDefaults c.configMaps ns) key
  constructor
  · rintro ⟨hgates, hdefaults, hruntime, hhelper⟩
    have hlayers := fun key => (layers_eq_iff _ _ _ _).mp
      ((lookup_defaults c clusterNs ns key).symm.trans ((hdefaults key).trans (hmerged key)))
    exact ⟨fun hf key => (featureGates_eq_iff c clusterNs ns key).mp (hgates key) hf,
      fun hf key => (hlayers key).1 hf, fun hf key => (hlayers key).2 hf,
      (authBridgeRuntime_eq_iff c clusterNs ns).mp hruntime,
      (spiffeHelperConfig_eq_iff c clusterNs ns).mp hhelper⟩
  · rintro ⟨hgates, hcluster, hnamespace, hruntime, hhelper⟩
    have hdefaults := fun key => (layers_eq_iff _ _ _ _).mpr
      ⟨fun hf => hcluster hf key, fun hf => hnamespace hf key⟩
    exact ⟨fun key => (featureGates_eq_iff c clusterNs ns key).mpr fun hf => hgates hf key,
      fun key => (lookup_defaults c clusterNs ns key).trans
        ((hdefaults key).trans (hmerged key).symm),
      (authBridgeRuntime_eq_iff c clusterNs ns).mpr hruntime,
      (spiffeHelperConfig_eq_iff c clusterNs ns).mpr hhelper⟩

end Same

theorem resolveConfig_quiet (cms : ConfigMaps) (clusterNs ns : String) :
    (resolveConfig ⟨cms, fun _ => false⟩ clusterNs ns).1.text = (stored cms clusterNs ns).text := by
  refine ResolvedConfig.text_eq_iff.mpr ((same_stored_iff _ _ _).mpr ?_)
  exact ⟨fun h => absurd h Bool.false_ne_true, fun h => absurd h Bool.false_ne_true,
    fun h => absurd h Bool.false_ne_true, fun h => absurd h Bool.false_ne_true,
    fun h => absurd h Bool.false_ne_true⟩

/-- **The hash of the configuration.** Where the digest does not collide, the hash is the
one of what is stored if and only if no failure hides anything. A workload that is
configured with the hash that is computed without failures is left alone if and only if,
again, no failure hides anything. And the text that is hashed determines the
configuration. -/
theorem configHash_iff (digest : List Char → String) (c : Reader) (clusterNs ns : String)
    (hdigest : digest (resolveConfig c clusterNs ns).1.text =
        digest (stored c.configMaps clusterNs ns).text →
      (resolveConfig c clusterNs ns).1.text = (stored c.configMaps clusterNs ns).text) :
    ((∀ r, computeConfigHash digest c clusterNs ns = .ok r →
        r.hash = digest (stored c.configMaps clusterNs ns).text) ↔ Spared c clusterNs ns) ∧
      (∀ r r₀, computeConfigHash digest c clusterNs ns = .ok r →
        computeConfigHash digest ⟨c.configMaps, fun _ => false⟩ clusterNs ns = .ok r₀ →
        ∀ rt obj, AlreadyConfigured rt r₀.hash obj →
          (AlreadyConfigured rt r.hash obj ↔ Spared c clusterNs ns)) ∧
      ∀ a b : ResolvedConfig, a.text = b.text → a.Same b := by
  have hhash : digest (resolveConfig c clusterNs ns).1.text =
      digest (stored c.configMaps clusterNs ns).text ↔ Spared c clusterNs ns := by
    rw [← same_stored_iff, ← ResolvedConfig.text_eq_iff]
    exact ⟨hdigest, congrArg digest⟩
  refine ⟨⟨fun h => hhash.mp (h _ rfl), ?_⟩, ?_, fun a b => ResolvedConfig.text_eq_iff.mp⟩
  · rintro hspared r hr
    cases hr
    exact hhash.mpr hspared
  · rintro r r₀ hr hr₀ rt obj ⟨htype, hmanaged, hpod, hstamp, hmode⟩
    cases hr
    cases hr₀
    rw [resolveConfig_quiet] at hstamp
    rw [← hhash]
    constructor
    · rintro ⟨-, -, -, hstamp', -⟩
      exact hstamp'.symm.trans hstamp
    · intro h
      exact ⟨htype, hmanaged, hpod, hstamp.trans h.symm, hmode⟩

/-! ### A failure that rolls a workload out -/

/-- Defaults for the cluster, and none for the namespace. -/
def platformDefaults : ConfigMaps :=
  (∅ : ConfigMaps).insert ⟨"rossoctl-system", clusterDefaultsConfigMapName⟩
    { data := some ((∅ : StringMap).insert "realm" "rossoctl") }

/-- A reader for which one read fails. -/
def readerWithout (failed : Read) : Reader where
  configMaps := platformDefaults
  fails := fun read => decide (read = failed)

/-- A digest without collisions. -/
def exampleHash (c : Reader) : String :=
  String.ofList (resolveConfig c "rossoctl-system" "team").1.text

/-- The defaults of the namespace cannot be read, and there are none. -/
theorem configHash_spared : exampleHash (readerWithout (.list "team")) =
      String.ofList (stored platformDefaults "rossoctl-system" "team").text := by
  have hspared : Spared (readerWithout (.list "team")) "rossoctl-system" "team" := by
    refine ⟨fun h => absurd h (by decide), fun h => absurd h (by decide), fun _ key => .inl ?_,
      fun h => absurd h (by decide), fun h => absurd h (by decide)⟩
    exact AList.lookup_empty key
  have hall := (configHash_iff String.ofList (readerWithout (.list "team")) "rossoctl-system"
    "team" fun h => String.ofList_injective h).1.mpr hspared
  exact hall _ rfl

/-- A Deployment that has been configured from what is stored, and then once more with a
hash. -/
def reconfigured (hash : String) : Cluster :=
  applyAll "team" (labelledCluster "app" "weather")
    [⟨deploymentRuntime "weather", String.ofList (stored platformDefaults "rossoctl-system"
      "team").text, []⟩, ⟨deploymentRuntime "weather", hash, []⟩]

/-- **A failure that rolls a workload out**: the defaults of the cluster cannot be read for a
moment, the hash is the one of a configuration without them, and the template of a workload
that nobody has touched changes. -/
theorem configHash_transient : (∃ r, computeConfigHash String.ofList
        (readerWithout (.get ⟨"rossoctl-system", clusterDefaultsConfigMapName⟩)) "rossoctl-system"
        "team" = .ok r ∧
      r.hash ≠ String.ofList (stored platformDefaults "rossoctl-system" "team").text ∧
      ((reconfigured r.hash).workloads.lookup exampleDeployment).map (·.generation) = some 3) ∧
      ((reconfigured (exampleHash ⟨platformDefaults, fun _ => false⟩)).workloads.lookup
        exampleDeployment).map (·.generation) = some 2 := by
  refine ⟨⟨_, rfl, ?_, ?_⟩, ?_⟩
  · decide +kernel
  · decide +kernel
  · decide +kernel

end Rossoctl.Runtime
