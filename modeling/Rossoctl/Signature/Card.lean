import Rossoctl.Json.Tree
import Rossoctl.Json.Float64

/-!
# Agent cards

The model of `AgentCardData` (`api/v1alpha1/agentcard_types.go`), which is what a
card document is decoded into: the typed fields, and in the parameters of an
extension arbitrary JSON.

A card is looked at in two ways. `Rossoctl.Signature.AgentCardData.toJson` with
`Rossoctl.Signature.marshalStruct` is what `json.Marshal` writes, where a field
tagged `omitempty` is left out when it is empty. `Rossoctl.Signature.AgentCardData.document`
is the card as a reader sees it: every field there is, apart from the signatures.
Members stand in the order of their names throughout; the text is only ever read
back into a map.

The texts of a card are those of Unicode: an escape of half a surrogate pair, for
which `encoding/json` puts U+FFFD, has no counterpart in a `String`, and neither
have invalid bytes.
-/

namespace Rossoctl.Signature

open Json List Function

/-- A JSON document: its numbers are literals. -/
abbrev Document := JTree Literal

/-! ### The types -/

/-- The service provider of an agent. -/
structure AgentProvider where
  organization : String := ""
  url : String := ""

/-- A protocol extension; `params` are the entries of a map from names to
arbitrary JSON. -/
structure AgentExtension where
  uri : String := ""
  description : String := ""
  required : Option Bool := none
  params : List (String × Document) := []

/-- What an agent is capable of. -/
structure AgentCapabilities where
  streaming : Option Bool := none
  pushNotifications : Option Bool := none
  extensions : List AgentExtension := []

/-- A parameter of a skill. -/
structure SkillParameter where
  name : String := ""
  type : String := ""
  description : String := ""
  required : Option Bool := none
  default : String := ""

/-- A skill of an agent. -/
structure AgentSkill where
  id : String := ""
  name : String := ""
  description : String := ""
  tags : List String := []
  examples : List String := []
  inputModes : List String := []
  outputModes : List String := []
  parameters : List SkillParameter := []

/-- A JWS signature on a card: the protected header and the signature value, and
the time stamp of the unprotected header if there is one. -/
structure AgentCardSignature where
  protectedHeader : String
  signature : String
  header : Option String := none
  deriving DecidableEq

/-- An agent card. -/
structure AgentCardData where
  name : String := ""
  description : String := ""
  version : String := ""
  url : String := ""
  documentationURL : String := ""
  iconURL : String := ""
  provider : Option AgentProvider := none
  capabilities : Option AgentCapabilities := none
  defaultInputModes : List String := []
  defaultOutputModes : List String := []
  skills : List AgentSkill := []
  supportsAuthenticatedExtendedCard : Option Bool := none
  signatures : List AgentCardSignature := []

/-! ### Cards as JSON -/

/-- A value that `omitempty` leaves out: a nil pointer or map, an empty string, an
empty slice. -/
def isEmptyValue : Document → Bool
  | .null => true
  | .str s => s = ""
  | .arr xs => xs.isEmpty
  | _ => false

/-- A struct all of whose fields are tagged `omitempty`. -/
def marshalStruct (fields : List (String × Document)) : Document :=
  .obj (fields.filter fun p => !isEmptyValue p.2)

/-- A pointer to a bool. -/
def optBool : Option Bool → Document
  | none => .null
  | some b => .bool b

/-- A map with arbitrary JSON in it; an empty one counts as a nil one. -/
def rawMap : List (String × Document) → Document
  | [] => .null
  | ps => .obj ps

/-- A slice of strings. -/
def strings (ss : List String) : Document := .arr (ss.map .str)

section ToJson

-- how the fields of a struct become an object
variable (struct : List (String × Document) → Document)

/-- The fields of a provider. -/
def AgentProvider.toJson (p : AgentProvider) : Document :=
  struct [("organization", .str p.organization), ("url", .str p.url)]

/-- The fields of an extension. -/
def AgentExtension.toJson (e : AgentExtension) : Document :=
  struct [("description", .str e.description), ("params", rawMap e.params),
    ("required", optBool e.required), ("uri", .str e.uri)]

/-- The fields of the capabilities. -/
def AgentCapabilities.toJson (c : AgentCapabilities) : Document :=
  struct [("extensions", .arr (c.extensions.map (AgentExtension.toJson struct))),
    ("pushNotifications", optBool c.pushNotifications), ("streaming", optBool c.streaming)]

/-- The fields of a parameter. -/
def SkillParameter.toJson (p : SkillParameter) : Document :=
  struct [("default", .str p.default), ("description", .str p.description), ("name", .str p.name),
    ("required", optBool p.required), ("type", .str p.type)]

/-- The fields of a skill. -/
def AgentSkill.toJson (s : AgentSkill) : Document :=
  struct [("description", .str s.description), ("examples", strings s.examples), ("id", .str s.id),
    ("inputModes", strings s.inputModes), ("name", .str s.name),
    ("outputModes", strings s.outputModes),
    ("parameters", .arr (s.parameters.map (SkillParameter.toJson struct))),
    ("tags", strings s.tags)]

/-- A signature: only its header is tagged `omitempty`. -/
def AgentCardSignature.toJson (s : AgentCardSignature) : Document :=
  let required := [("protected", .str s.protectedHeader), ("signature", .str s.signature)]
  match s.header with
  | none => .obj required
  | some timestamp => .obj (("header", marshalStruct [("timestamp", .str timestamp)]) :: required)

/-- The fields of a card in front of the signatures. -/
def AgentCardData.fieldsBefore (c : AgentCardData) : List (String × Document) :=
  [("capabilities", c.capabilities.elim .null (AgentCapabilities.toJson struct)),
    ("defaultInputModes", strings c.defaultInputModes),
    ("defaultOutputModes", strings c.defaultOutputModes), ("description", .str c.description),
    ("documentationUrl", .str c.documentationURL), ("iconUrl", .str c.iconURL),
    ("name", .str c.name), ("provider", c.provider.elim .null (AgentProvider.toJson struct))]

/-- The fields of a card behind the signatures. -/
def AgentCardData.fieldsAfter (c : AgentCardData) : List (String × Document) :=
  [("skills", .arr (c.skills.map (AgentSkill.toJson struct))),
    ("supportsAuthenticatedExtendedCard", optBool c.supportsAuthenticatedExtendedCard),
    ("url", .str c.url), ("version", .str c.version)]

end ToJson

/-- The fields of a card that `json.Marshal` looks at. -/
def AgentCardData.fields (c : AgentCardData) : List (String × Document) :=
  c.fieldsBefore marshalStruct ++
    ("signatures", .arr (c.signatures.map AgentCardSignature.toJson)) ::
    c.fieldsAfter marshalStruct

/-- **What `json.Marshal` writes** for a card. -/
def AgentCardData.marshal (c : AgentCardData) : Document := marshalStruct c.fields

/-- **The card as a document**: every field but the signatures. -/
def AgentCardData.document (c : AgentCardData) : Document :=
  .obj (c.fieldsBefore .obj ++ c.fieldsAfter .obj)

/-! ### What `omitempty` leaves out is empty -/

/-- Two trees with the same essence. -/
def Same (t t' : Document) : Prop := t.resolve.essence = t'.resolve.essence

theorem essence_of_isEmptyValue {v : Document} (h : isEmptyValue v = true) :
    v.resolve.essence = none := by
  cases v with
  | null => rfl
  | str s =>
    rw [isEmptyValue, decide_eq_true_eq] at h
    rw [h]
    rfl
  | arr xs =>
    rw [isEmptyValue, List.isEmpty_iff] at h
    rw [h]
    rfl
  | _ => cases h

/-- Members with the same names and the same essences. -/
abbrev SameMembers : List (String × Document) → List (String × Document) → Prop :=
  List.Forall₂ fun p q => p.1 = q.1 ∧ Same p.2 q.2

variable {ms ms' : List (String × Document)}

theorem essences_congr (h : SameMembers ms ms') :
    JTree.essences (mapSnd JTree.resolve ms) = JTree.essences (mapSnd JTree.resolve ms') := by
  induction h with
  | nil => rfl
  | cons hpq _ ih =>
    rw [mapSnd_cons, mapSnd_cons, JTree.essences_cons, JTree.essences_cons, ih, hpq.1,
      show _ = _ from hpq.2]

theorem sameMembers_refl (ms : List (String × Document)) : SameMembers ms ms :=
  forall₂_same.mpr fun _ _ => ⟨rfl, rfl⟩

theorem SameMembers.keys (h : SameMembers ms ms') : ms.map Prod.fst = ms'.map Prod.fst := by
  induction h with
  | nil => rfl
  | cons hpq _ ih => rw [map_cons, map_cons, hpq.1, ih]

theorem resolve_marshalStruct (h : (ms.map Prod.fst).Pairwise (· < ·)) :
    (marshalStruct ms).resolve =
      .obj (mapSnd JTree.resolve (ms.filter fun p => !isEmptyValue p.2)) :=
  JTree.resolve_obj_of_sorted (h.sublist (filter_sublist.map _))

theorem essences_omitEmpty (ms : List (String × Document)) :
    JTree.essences (mapSnd JTree.resolve (ms.filter fun p => !isEmptyValue p.2)) =
      JTree.essences (mapSnd JTree.resolve ms) := by
  refine JTree.essences_mapSnd_filter fun q _ hq => essence_of_isEmptyValue ?_
  rwa [Bool.not_eq_false'] at hq

/-- **`omitempty` does not change the essence** of a struct. -/
theorem same_struct (h : (ms.map Prod.fst).Pairwise (· < ·)) (hms : SameMembers ms ms') :
    Same (marshalStruct ms) (.obj ms') := by
  rw [Same, resolve_marshalStruct h, JTree.resolve_obj_of_sorted (hms.keys ▸ h), JTree.essence_obj,
    JTree.essence_obj, essences_omitEmpty, essences_congr hms]

variable {β : Type*} (p : AgentProvider) (e : AgentExtension) (c : AgentCapabilities)
  (s : AgentSkill)

theorem same_arr (f g : β → Document) {l : List β} (h : ∀ x ∈ l, Same (f x) (g x)) :
    Same (.arr (l.map f)) (.arr (l.map g)) := by
  rw [Same, JTree.resolve_arr, JTree.resolve_arr, JTree.essence_arr, JTree.essence_arr]
  simp only [map_map, filterMap_map]
  congr 1
  exact filterMap_congr h

theorem sorted_provider : ["organization", "url"].Pairwise (· < ·) := by decide

theorem sorted_extension : ["description", "params", "required", "uri"].Pairwise (· < ·) := by
  decide

theorem sorted_capabilities :
    ["extensions", "pushNotifications", "streaming"].Pairwise (· < ·) := by decide

theorem sorted_parameter :
    ["default", "description", "name", "required", "type"].Pairwise (· < ·) := by decide

theorem sorted_skill : ["description", "examples", "id", "inputModes", "name", "outputModes",
    "parameters", "tags"].Pairwise (· < ·) := by decide

theorem same_provider : Same (p.toJson marshalStruct) (p.toJson .obj) :=
  same_struct sorted_provider (sameMembers_refl _)

theorem same_extension : Same (e.toJson marshalStruct) (e.toJson .obj) :=
  same_struct sorted_extension (sameMembers_refl _)

theorem same_capabilities : Same (c.toJson marshalStruct) (c.toJson .obj) :=
  same_struct sorted_capabilities
    (.cons ⟨rfl, same_arr _ _ fun e _ => same_extension e⟩ (sameMembers_refl _))

theorem same_parameter (p : SkillParameter) : Same (p.toJson marshalStruct) (p.toJson .obj) :=
  same_struct sorted_parameter (sameMembers_refl _)

theorem same_skill : Same (s.toJson marshalStruct) (s.toJson .obj) := by
  refine same_struct sorted_skill ?_
  refine .cons ⟨rfl, rfl⟩ <| .cons ⟨rfl, rfl⟩ <| .cons ⟨rfl, rfl⟩ <| .cons ⟨rfl, rfl⟩ <|
    .cons ⟨rfl, rfl⟩ <| .cons ⟨rfl, rfl⟩ <| .cons ⟨rfl, ?_⟩ (sameMembers_refl _)
  exact same_arr _ _ fun p _ => same_parameter p

theorem sameMembers_card (c : AgentCardData) :
    SameMembers (c.fieldsBefore marshalStruct ++ c.fieldsAfter marshalStruct)
      (c.fieldsBefore .obj ++ c.fieldsAfter .obj) := by
  have hcap : Same (c.capabilities.elim .null (AgentCapabilities.toJson marshalStruct))
      (c.capabilities.elim .null (AgentCapabilities.toJson .obj)) := by
    cases c.capabilities with
    | none => rfl
    | some cap => exact same_capabilities cap
  have hprov : Same (c.provider.elim .null (AgentProvider.toJson marshalStruct))
      (c.provider.elim .null (AgentProvider.toJson .obj)) := by
    cases c.provider with
    | none => rfl
    | some p => exact same_provider p
  refine .cons ⟨rfl, hcap⟩ <| .cons ⟨rfl, rfl⟩ <| .cons ⟨rfl, rfl⟩ <| .cons ⟨rfl, rfl⟩ <|
    .cons ⟨rfl, rfl⟩ <| .cons ⟨rfl, rfl⟩ <| .cons ⟨rfl, rfl⟩ <| .cons ⟨rfl, hprov⟩ <|
    .cons ⟨rfl, ?_⟩ (sameMembers_refl _)
  exact same_arr _ _ fun s _ => same_skill s

theorem sorted_fields (c : AgentCardData) : (c.fields.map Prod.fst).Pairwise (· < ·) :=
  show ["capabilities", "defaultInputModes", "defaultOutputModes", "description",
    "documentationUrl", "iconUrl", "name", "provider", "signatures", "skills",
    "supportsAuthenticatedExtendedCard", "url", "version"].Pairwise (· < ·) by decide

theorem fields_filter (c : AgentCardData) : c.fields.filter (fun p => p.1 ≠ "signatures") =
      c.fieldsBefore marshalStruct ++ c.fieldsAfter marshalStruct := by
  simp [AgentCardData.fields, AgentCardData.fieldsBefore, AgentCardData.fieldsAfter]

theorem sorted_document (c : AgentCardData) :
    ((c.fieldsBefore .obj ++ c.fieldsAfter .obj).map Prod.fst).Pairwise (· < ·) := by
  rw [← (sameMembers_card c).keys, ← fields_filter]
  exact (sorted_fields c).sublist (filter_sublist.map _)

theorem filter_resolve_fields (c : AgentCardData) :
    (mapSnd JTree.resolve (c.fields.filter fun p => !isEmptyValue p.2)).filter
        (fun p => p.1 ≠ "signatures") =
      mapSnd JTree.resolve ((c.fieldsBefore marshalStruct ++ c.fieldsAfter marshalStruct).filter
        fun p => !isEmptyValue p.2) := by
  rw [← fields_filter, mapSnd, filter_map, mapSnd, filter_filter, filter_filter]
  exact congrArg (List.map _) (filter_congr fun p _ => Bool.and_comm _ _)

/-- **The map `json.Marshal`'s text is read back into** has, without its
signatures, the essence of the card. -/
theorem marshal_resolve (c : AgentCardData) : ∃ m, c.marshal.resolve = .obj m ∧
      (JTree.obj (m.filter fun p => p.1 ≠ "signatures")).essence = c.document.resolve.essence := by
  refine ⟨_, resolve_marshalStruct (sorted_fields c), ?_⟩
  rw [AgentCardData.document, JTree.resolve_obj_of_sorted (sorted_document c), JTree.essence_obj,
    JTree.essence_obj, ← essences_congr (sameMembers_card c), filter_resolve_fields,
    essences_omitEmpty]

/-! ### The numbers of a card

They are all in the parameters of its extensions. -/

/-- The parameters of the extensions of a card. -/
def AgentCardData.params (c : AgentCardData) : List Document :=
  c.capabilities.elim [] fun cap => cap.extensions.map fun e => .obj e.params

theorem nums_struct (h : (ms.map Prod.fst).Pairwise (· < ·)) :
    (JTree.obj ms).resolve.nums = ms.flatMap fun p => p.2.resolve.nums := by
  rw [JTree.resolve_obj_of_sorted h, JTree.nums_obj, mapSnd, flatMap_map]

@[simp] theorem nums_str (s : String) : (JTree.str s : Document).resolve.nums = [] := rfl

@[simp] theorem nums_optBool (b : Option Bool) : (optBool b).resolve.nums = [] := by
  cases b <;> rfl

@[simp] theorem nums_strings (ss : List String) : (strings ss).resolve.nums = [] := by
  rw [strings, JTree.resolve_arr, JTree.nums_arr, flatMap_eq_nil_iff]
  simp [JTree.resolve, JTree.nums]

@[simp] theorem nums_rawMap (ps : List (String × Document)) :
    (rawMap ps).resolve.nums = (JTree.obj ps).resolve.nums := by
  cases ps <;> rfl

theorem nums_resolve_arr (f : β → Document) (l : List β) :
    (JTree.arr (l.map f)).resolve.nums = l.flatMap fun x => (f x).resolve.nums := by
  rw [JTree.resolve_arr, JTree.nums_arr, map_map, flatMap_map]
  rfl

theorem nums_provider : (p.toJson .obj).resolve.nums = [] := by
  refine (nums_struct ?_).trans (by simp)
  exact sorted_provider

theorem nums_extension : (e.toJson .obj).resolve.nums = (JTree.obj e.params).resolve.nums := by
  refine (nums_struct ?_).trans (by simp)
  exact sorted_extension

theorem nums_capabilities : (c.toJson .obj).resolve.nums =
      c.extensions.flatMap fun e => (JTree.obj e.params).resolve.nums := by
  refine (nums_struct ?_).trans ?_
  · exact sorted_capabilities
  · simp only [flatMap_cons, flatMap_nil, nums_resolve_arr, nums_extension,
      nums_optBool, append_nil]

theorem nums_parameter (p : SkillParameter) : (p.toJson .obj).resolve.nums = [] := by
  refine (nums_struct ?_).trans (by simp)
  exact sorted_parameter

theorem nums_skill : (s.toJson .obj).resolve.nums = [] := by
  refine (nums_struct ?_).trans (by simp [nums_parameter])
  exact sorted_skill

/-- **The numbers of a card are those of its extensions' parameters.** -/
theorem nums_document (c : AgentCardData) :
    c.document.resolve.nums = c.params.flatMap fun d => d.resolve.nums := by
  have hprov : (c.provider.elim .null (AgentProvider.toJson .obj)).resolve.nums = [] := by
    cases c.provider with
    | none => rfl
    | some p => exact nums_provider p
  have hcap : (c.capabilities.elim .null (AgentCapabilities.toJson .obj)).resolve.nums =
      c.params.flatMap fun d => d.resolve.nums := by
    rw [AgentCardData.params]
    cases c.capabilities with
    | none => rfl
    | some cap =>
      rw [Option.elim_some, Option.elim_some, nums_capabilities, flatMap_map]
  rw [AgentCardData.document, nums_struct (sorted_document c)]
  simp [AgentCardData.fieldsBefore, AgentCardData.fieldsAfter, hprov, hcap, nums_skill]

/-! ### Changing the numbers of a card -/

/-- Change the numbers of an extension. -/
def AgentExtension.mapNum (f : Literal → Literal) (e : AgentExtension) : AgentExtension :=
  { e with params := mapSnd (JTree.map f) e.params }

/-- Change the numbers of the capabilities. -/
def AgentCapabilities.mapNum (f : Literal → Literal) (c : AgentCapabilities) : AgentCapabilities :=
  { c with extensions := c.extensions.map (AgentExtension.mapNum f) }

/-- Change the numbers of a card. -/
def AgentCardData.mapNum (f : Literal → Literal) (c : AgentCardData) : AgentCardData :=
  { c with capabilities := c.capabilities.map (AgentCapabilities.mapNum f) }

section MapNum

variable {f : Literal → Literal} {struct : List (String × Document) → Document}

theorem isEmptyValue_map (v : Document) : isEmptyValue (v.map f) = isEmptyValue v := by
  cases v with
  | arr xs => rw [JTree.map_arr, isEmptyValue, isEmptyValue, isEmpty_map]
  | obj ms => rw [JTree.map_obj]; rfl
  | _ => rfl

theorem map_marshalStruct (ms : List (String × Document)) :
    (marshalStruct ms).map f = marshalStruct (mapSnd (JTree.map f) ms) := by
  rw [marshalStruct, marshalStruct, JTree.map_obj, mapSnd, mapSnd, filter_map]
  congr 3
  exact funext fun p => by rw [comp_apply, isEmptyValue_map]

@[simp] theorem map_optBool (b : Option Bool) : (optBool b).map f = optBool b := by
  cases b <;> rfl

@[simp] theorem map_strings (ss : List String) : (strings ss).map f = strings ss := by
  rw [strings, JTree.map_arr, map_map]
  rfl

@[simp] theorem map_rawMap (ps : List (String × Document)) :
    (rawMap ps).map f = rawMap (mapSnd (JTree.map f) ps) := by
  cases ps with
  | nil => rfl
  | cons p ps => exact JTree.map_obj _

theorem map_signature (s : AgentCardSignature) : s.toJson.map f = s.toJson := by
  rw [AgentCardSignature.toJson]
  cases s.header with
  | none => simp
  | some t => simp [map_marshalStruct]

variable (hs : ∀ ms, (struct ms).map f = struct (mapSnd (JTree.map f) ms))
include hs

theorem map_provider (p : AgentProvider) : (p.toJson struct).map f = p.toJson struct := by
  rw [AgentProvider.toJson, hs]
  simp

theorem map_extension (e : AgentExtension) :
    (e.toJson struct).map f = (e.mapNum f).toJson struct := by
  rw [AgentExtension.toJson, hs, AgentExtension.toJson]
  simp [AgentExtension.mapNum]

theorem map_capabilities (c : AgentCapabilities) :
    (c.toJson struct).map f = (c.mapNum f).toJson struct := by
  rw [AgentCapabilities.toJson, hs, AgentCapabilities.toJson]
  simp [AgentCapabilities.mapNum, comp_def, map_extension hs]

theorem map_parameter (p : SkillParameter) : (p.toJson struct).map f = p.toJson struct := by
  rw [SkillParameter.toJson, hs]
  simp

theorem map_skill (s : AgentSkill) : (s.toJson struct).map f = s.toJson struct := by
  rw [AgentSkill.toJson, hs]
  simp [comp_def, map_parameter hs]

theorem map_fields (c : AgentCardData) :
    mapSnd (JTree.map f) (c.fieldsBefore struct) = (c.mapNum f).fieldsBefore struct ∧
      mapSnd (JTree.map f) (c.fieldsAfter struct) = (c.mapNum f).fieldsAfter struct := by
  have hprov : (c.provider.elim .null (AgentProvider.toJson struct)).map f =
      c.provider.elim .null (AgentProvider.toJson struct) := by
    cases c.provider with
    | none => rfl
    | some p => exact map_provider hs p
  have hcap : (c.capabilities.elim .null (AgentCapabilities.toJson struct)).map f =
      (c.mapNum f).capabilities.elim .null (AgentCapabilities.toJson struct) := by
    rw [AgentCardData.mapNum]
    cases c.capabilities with
    | none => rfl
    | some cap => exact map_capabilities hs cap
  constructor
  · simp only [AgentCardData.fieldsBefore, mapSnd_cons, mapSnd_nil, JTree.map_str, map_strings,
      hprov,
      hcap]
    rfl
  · simp only [AgentCardData.fieldsAfter, mapSnd_cons, mapSnd_nil, JTree.map_arr, map_map,
      JTree.map_str, map_optBool, comp_def, map_skill hs]
    rfl

end MapNum

theorem document_mapNum (f : Literal → Literal) (c : AgentCardData) :
    (c.mapNum f).document = c.document.map f := by
  obtain ⟨hb, ha⟩ := map_fields (f := f) (fun ms => JTree.map_obj ms) c
  rw [AgentCardData.document, AgentCardData.document, ← hb, ← ha, JTree.map_obj, mapSnd, mapSnd,
    mapSnd, map_append]

theorem marshal_mapNum (f : Literal → Literal) (c : AgentCardData) :
    (c.mapNum f).marshal = c.marshal.map f := by
  obtain ⟨hb, ha⟩ := map_fields (f := f) map_marshalStruct c
  have hsig : (JTree.arr (c.signatures.map AgentCardSignature.toJson)).map f =
      JTree.arr (c.signatures.map AgentCardSignature.toJson) := by
    rw [JTree.map_arr, map_map]
    exact congrArg JTree.arr (map_congr_left fun s _ => map_signature s)
  rw [AgentCardData.marshal, AgentCardData.marshal, map_marshalStruct, AgentCardData.fields,
    AgentCardData.fields, ← hb, ← ha]
  simp [mapSnd, hsig]
  rfl

end Rossoctl.Signature
