import Rossoctl.Signature.Card

/-!
# Cards from JSON

`json.Unmarshal` into an `AgentCardData`: each field is looked up by its name, a field
that is missing or null keeps its zero value, and a value of another kind is an error.
Of a name that occurs twice the last member counts; that names of other case are accepted
as well is left out, as no text of `json.Marshal` has them.

`Rossoctl.Signature.decodeCard_marshal` is the round trip. It is about cards whose maps
are maps (`Rossoctl.Signature.AgentCardData.Proper`): the entries of a map stand in the
order of their names.
-/

namespace Rossoctl.Signature

open Json List

/-! ### Decoding -/

/-- The value of a field, null if there is none. -/
def getField (ms : List (String × Document)) (name : String) : Document :=
  (ms.reverse.lookup name).getD .null

/-- A value of another type. -/
def mismatch {α : Type} (type : String) : Except String α :=
  .error ("json: cannot unmarshal into Go value of type " ++ type)

/-- A string field; `null` leaves it empty. -/
def decodeString : Document → Except String String
  | .null => .ok ""
  | .str s => .ok s
  | _ => mismatch "string"

/-- A pointer to a bool. -/
def decodeBool : Document → Except String (Option Bool)
  | .null => .ok none
  | .bool b => .ok (some b)
  | _ => mismatch "bool"

/-- A slice field. -/
def decodeSlice {α : Type} (elem : Document → Except String α) : Document → Except String (List α)
  | .null => .ok []
  | .arr xs => xs.mapM elem
  | _ => mismatch "slice"

/-- A struct; null leaves it as it is. -/
def decodeStruct {α : Type} (fields : List (String × Document) → Except String α) :
    Document → Except String α
  | .null => fields []
  | .obj ms => fields ms
  | _ => mismatch "struct"

/-- A pointer to a struct. -/
def decodePointer {α : Type} (fields : List (String × Document) → Except String α) :
    Document → Except String (Option α)
  | .null => .ok none
  | .obj ms => some <$> fields ms
  | _ => mismatch "struct"

/-- A map with arbitrary JSON in it. -/
def decodeMap : Document → Except String (List (String × Document))
  | .null => .ok []
  | .obj ms => .ok (ofMembers ms)
  | _ => mismatch "map"

def decodeProvider (ms : List (String × Document)) : Except String AgentProvider := do
  let organization ← decodeString (getField ms "organization")
  let url ← decodeString (getField ms "url")
  pure { organization, url }

def decodeExtension (ms : List (String × Document)) : Except String AgentExtension := do
  let uri ← decodeString (getField ms "uri")
  let description ← decodeString (getField ms "description")
  let required ← decodeBool (getField ms "required")
  let params ← decodeMap (getField ms "params")
  pure { uri, description, required, params }

def decodeCapabilities (ms : List (String × Document)) : Except String AgentCapabilities := do
  let streaming ← decodeBool (getField ms "streaming")
  let pushNotifications ← decodeBool (getField ms "pushNotifications")
  let extensions ← decodeSlice (decodeStruct decodeExtension) (getField ms "extensions")
  pure { streaming, pushNotifications, extensions }

def decodeParameter (ms : List (String × Document)) : Except String SkillParameter := do
  let name ← decodeString (getField ms "name")
  let type ← decodeString (getField ms "type")
  let description ← decodeString (getField ms "description")
  let required ← decodeBool (getField ms "required")
  let default ← decodeString (getField ms "default")
  pure { name, type, description, required, default }

def decodeSkill (ms : List (String × Document)) : Except String AgentSkill := do
  let id ← decodeString (getField ms "id")
  let name ← decodeString (getField ms "name")
  let description ← decodeString (getField ms "description")
  let tags ← decodeSlice decodeString (getField ms "tags")
  let examples ← decodeSlice decodeString (getField ms "examples")
  let inputModes ← decodeSlice decodeString (getField ms "inputModes")
  let outputModes ← decodeSlice decodeString (getField ms "outputModes")
  let parameters ← decodeSlice (decodeStruct decodeParameter) (getField ms "parameters")
  pure { id, name, description, tags, examples, inputModes, outputModes, parameters }

/-- The unprotected header has the time stamp alone. -/
def decodeHeader (ms : List (String × Document)) : Except String String :=
  decodeString (getField ms "timestamp")

def decodeSignature (ms : List (String × Document)) : Except String AgentCardSignature := do
  let protectedHeader ← decodeString (getField ms "protected")
  let signature ← decodeString (getField ms "signature")
  let header ← decodePointer decodeHeader (getField ms "header")
  pure { protectedHeader, signature, header }

/-- The fields of a card. -/
def decodeFields (ms : List (String × Document)) : Except String AgentCardData := do
  let name ← decodeString (getField ms "name")
  let description ← decodeString (getField ms "description")
  let version ← decodeString (getField ms "version")
  let url ← decodeString (getField ms "url")
  let documentationURL ← decodeString (getField ms "documentationUrl")
  let iconURL ← decodeString (getField ms "iconUrl")
  let provider ← decodePointer decodeProvider (getField ms "provider")
  let capabilities ← decodePointer decodeCapabilities (getField ms "capabilities")
  let defaultInputModes ← decodeSlice decodeString (getField ms "defaultInputModes")
  let defaultOutputModes ← decodeSlice decodeString (getField ms "defaultOutputModes")
  let skills ← decodeSlice (decodeStruct decodeSkill) (getField ms "skills")
  let supportsAuthenticatedExtendedCard ←
    decodeBool (getField ms "supportsAuthenticatedExtendedCard")
  let signatures ← decodeSlice (decodeStruct decodeSignature) (getField ms "signatures")
  pure { name, description, version, url, documentationURL, iconURL, provider, capabilities,
         defaultInputModes, defaultOutputModes, skills, supportsAuthenticatedExtendedCard,
         signatures }

/-- **`json.Unmarshal`** of a document into a card. -/
def decodeCard : Document → Except String AgentCardData := decodeStruct decodeFields

/-! ### The fields of a struct -/

/-- What a decoder sees of a field that is tagged `omitempty`. -/
def seen (v : Document) : Document := if isEmptyValue v then .null else v

variable {ms : List (String × Document)}

variable {k : String} {α : Type} {elem : Document → Except String α} {f : α → Document} {l : List α}

theorem getField_of_mem {v : Document} (hnodup : (ms.map Prod.fst).Nodup)
    (hmem : (k, v) ∈ ms) : getField ms k = v := by
  have hreverse : (ms.reverse.map Prod.fst).Nodup := by
    rw [map_reverse]
    exact pairwise_reverse.mpr (hnodup.imp Ne.symm)
  rw [getField, lookup_of_mem hreverse (mem_reverse.mpr hmem)]
  rfl

theorem getField_of_not_mem (h : k ∉ ms.map Prod.fst) : getField ms k = .null := by
  have hnone : ms.reverse.lookup k = none := by
    rw [lookup_eq_none_iff]
    intro p hp
    rw [bne_iff_ne]
    rintro rfl
    exact h (mem_map_of_mem (mem_reverse.mp hp))
  rw [getField, hnone]
  rfl

/-- The fields of a struct that are written. -/
abbrev omitEmpty (ms : List (String × Document)) : List (String × Document) :=
  ms.filter fun p => !isEmptyValue p.2

/-- **A field of a struct**, as its decoder sees it. -/
theorem getField_omitEmpty (hsorted : (ms.map Prod.fst).Pairwise (· < ·)) (k : String) :
    getField (omitEmpty ms) k = seen (getField ms k) := by
  have hnodup : (ms.map Prod.fst).Nodup := hsorted.imp ne_of_lt
  by_cases hk : k ∈ ms.map Prod.fst
  · obtain ⟨⟨k, v⟩, hmem, rfl⟩ := mem_map.mp hk
    rw [getField_of_mem hnodup hmem, seen]
    split
    · rename_i hempty
      -- the only member of the name is left out
      refine getField_of_not_mem fun hk => ?_
      obtain ⟨⟨k', v'⟩, hp, rfl⟩ := mem_map.mp hk
      obtain ⟨hp, hne⟩ := mem_filter.mp hp
      have heq : v' = v := (getField_of_mem hnodup hp).symm.trans (getField_of_mem hnodup hmem)
      rw [heq, hempty] at hne
      cases hne
    · rename_i hfull
      exact getField_of_mem (hnodup.sublist (filter_sublist.map _))
        (mem_filter.mpr ⟨hmem, by simpa using hfull⟩)
  · rw [getField_of_not_mem hk]
    refine getField_of_not_mem fun hmem => hk ?_
    exact (filter_sublist.map _).subset hmem

/-! ### Round trips -/

theorem decodeString_seen (s : String) : decodeString (seen (.str s)) = .ok s := by
  rw [seen, isEmptyValue]
  by_cases h : s = ""
  · simp [h, decodeString]
  · simp [h, decodeString]

theorem decodeBool_seen (b : Option Bool) : decodeBool (seen (optBool b)) = .ok b := by
  cases b with
  | none => rfl
  | some b => rfl

theorem mapM_map (h : ∀ a ∈ l, elem (f a) = .ok a) : (l.map f).mapM elem = .ok l := by
  induction l with
  | nil => rfl
  | cons a l ih =>
    rw [map_cons, mapM_cons, h a mem_cons_self, ih fun b hb => h b (mem_cons_of_mem _ hb)]
    rfl

theorem decodeSlice_seen (h : ∀ a ∈ l, elem (f a) = .ok a) :
    decodeSlice elem (seen (.arr (l.map f))) = .ok l := by
  cases l with
  | nil => rfl
  | cons a l => exact mapM_map h

theorem decodeStrings_seen (ss : List String) :
    decodeSlice decodeString (seen (strings ss)) = .ok ss :=
  decodeSlice_seen fun _ _ => rfl

theorem decodePointer_seen {fields : List (String × Document) → Except String α}
    {f : α → List (String × Document)} {a : Option α} (h : ∀ x ∈ a, fields (f x) = .ok x) :
    decodePointer fields (seen (a.elim .null fun x => .obj (f x))) = .ok a := by
  cases a with
  | none => rfl
  | some x =>
    show some <$> fields (f x) = _
    rw [h x rfl]
    rfl

/-- The entries of the maps of a card stand in the order of their names. -/
def AgentExtension.Proper (e : AgentExtension) : Prop :=
  (e.params.map Prod.fst).Pairwise (· < ·)

/-- **A proper card**: its maps are maps. -/
def AgentCardData.Proper (c : AgentCardData) : Prop :=
  ∀ cap ∈ c.capabilities, ∀ e ∈ cap.extensions, e.Proper

theorem decodeMap_seen {ps : List (String × Document)}
    (h : (ps.map Prod.fst).Pairwise (· < ·)) : decodeMap (seen (rawMap ps)) = .ok ps := by
  cases ps with
  | nil => rfl
  | cons p ps =>
    show Except.ok (ofMembers (p :: ps)) = _
    rw [ofMembers_of_sorted (pairwise_map.mp h)]

/-! ### The structs one by one -/

def AgentProvider.members (p : AgentProvider) : List (String × Document) :=
  [("organization", .str p.organization), ("url", .str p.url)]

theorem decode_provider (p : AgentProvider) : decodeProvider (omitEmpty p.members) = .ok p := by
  have hget := @getField_omitEmpty p.members sorted_provider
  have h₁ : decodeString (seen (getField p.members "organization")) = _ := decodeString_seen _
  have h₂ : decodeString (seen (getField p.members "url")) = _ := decodeString_seen _
  rw [decodeProvider, hget, hget, h₁, h₂]
  rfl

def AgentExtension.members (e : AgentExtension) : List (String × Document) :=
  [("description", .str e.description), ("params", rawMap e.params),
    ("required", optBool e.required), ("uri", .str e.uri)]

theorem decode_extension {e : AgentExtension} (h : e.Proper) :
    decodeExtension (omitEmpty e.members) = .ok e := by
  have hget := @getField_omitEmpty e.members sorted_extension
  have h₁ : decodeString (seen (getField e.members "uri")) = _ := decodeString_seen _
  have h₂ : decodeString (seen (getField e.members "description")) = _ := decodeString_seen _
  have h₃ : decodeBool (seen (getField e.members "required")) = _ := decodeBool_seen _
  have h₄ : decodeMap (seen (getField e.members "params")) = _ := decodeMap_seen h
  rw [decodeExtension, hget, hget, hget, hget, h₁, h₂, h₃, h₄]
  rfl

def AgentCapabilities.members (c : AgentCapabilities) : List (String × Document) :=
  [("extensions", .arr (c.extensions.map (AgentExtension.toJson marshalStruct))),
    ("pushNotifications", optBool c.pushNotifications), ("streaming", optBool c.streaming)]

theorem decode_capabilities {c : AgentCapabilities} (h : ∀ e ∈ c.extensions, e.Proper) :
    decodeCapabilities (omitEmpty c.members) = .ok c := by
  have hget := @getField_omitEmpty c.members sorted_capabilities
  have h₁ : decodeBool (seen (getField c.members "streaming")) = _ := decodeBool_seen _
  have h₂ : decodeBool (seen (getField c.members "pushNotifications")) = _ := decodeBool_seen _
  have h₃ : decodeSlice (decodeStruct decodeExtension) (seen (getField c.members "extensions")) =
      _ := decodeSlice_seen fun e he => decode_extension (h e he)
  rw [decodeCapabilities, hget, hget, hget, h₁, h₂, h₃]
  rfl

def SkillParameter.members (p : SkillParameter) : List (String × Document) :=
  [("default", .str p.default), ("description", .str p.description), ("name", .str p.name),
    ("required", optBool p.required), ("type", .str p.type)]

theorem decode_parameter (p : SkillParameter) : decodeParameter (omitEmpty p.members) = .ok p := by
  have hget := @getField_omitEmpty p.members sorted_parameter
  have h₁ : decodeString (seen (getField p.members "name")) = _ := decodeString_seen _
  have h₂ : decodeString (seen (getField p.members "type")) = _ := decodeString_seen _
  have h₃ : decodeString (seen (getField p.members "description")) = _ := decodeString_seen _
  have h₄ : decodeBool (seen (getField p.members "required")) = _ := decodeBool_seen _
  have h₅ : decodeString (seen (getField p.members "default")) = _ := decodeString_seen _
  rw [decodeParameter, hget, hget, hget, hget, hget, h₁, h₂, h₃, h₄, h₅]
  rfl

def AgentSkill.members (s : AgentSkill) : List (String × Document) :=
  [("description", .str s.description), ("examples", strings s.examples), ("id", .str s.id),
    ("inputModes", strings s.inputModes), ("name", .str s.name),
    ("outputModes", strings s.outputModes),
    ("parameters", .arr (s.parameters.map (SkillParameter.toJson marshalStruct))),
    ("tags", strings s.tags)]

theorem decode_skill (s : AgentSkill) : decodeSkill (omitEmpty s.members) = .ok s := by
  have hget := @getField_omitEmpty s.members sorted_skill
  have h₁ : decodeString (seen (getField s.members "id")) = _ := decodeString_seen _
  have h₂ : decodeString (seen (getField s.members "name")) = _ := decodeString_seen _
  have h₃ : decodeString (seen (getField s.members "description")) = _ := decodeString_seen _
  have h₄ : decodeSlice decodeString (seen (getField s.members "tags")) = _ :=
    decodeStrings_seen _
  have h₅ : decodeSlice decodeString (seen (getField s.members "examples")) = _ :=
    decodeStrings_seen _
  have h₆ : decodeSlice decodeString (seen (getField s.members "inputModes")) = _ :=
    decodeStrings_seen _
  have h₇ : decodeSlice decodeString (seen (getField s.members "outputModes")) = _ :=
    decodeStrings_seen _
  have h₈ : decodeSlice (decodeStruct decodeParameter) (seen (getField s.members "parameters")) =
      _ := decodeSlice_seen fun p _ => decode_parameter p
  rw [decodeSkill, hget, hget, hget, hget, hget, hget, hget, hget, h₁, h₂, h₃, h₄, h₅, h₆, h₇, h₈]
  rfl

theorem decode_signature (s : AgentCardSignature) :
    decodeStruct decodeSignature s.toJson = .ok s := by
  obtain ⟨protectedHeader, signature, header⟩ := s
  cases header with
  | none => rfl
  | some timestamp =>
    have hget : decodeString (getField (omitEmpty [("timestamp", .str timestamp)]) "timestamp") =
        .ok timestamp := by
      rw [getField_omitEmpty (pairwise_singleton _ _)]
      exact decodeString_seen timestamp
    show (do
      let header ← some <$> decodeHeader (omitEmpty [("timestamp", .str timestamp)])
      pure { protectedHeader, signature, header : AgentCardSignature }) = _
    rw [decodeHeader, hget]
    rfl

/-- **The round trip of a card** through its document. -/
theorem decodeCard_marshal {c : AgentCardData} (h : c.Proper) : decodeCard c.marshal = .ok c := by
  have hget := @getField_omitEmpty c.fields (sorted_fields c)
  have h₁ : decodeString (seen (getField c.fields "name")) = _ := decodeString_seen _
  have h₂ : decodeString (seen (getField c.fields "description")) = _ := decodeString_seen _
  have h₃ : decodeString (seen (getField c.fields "version")) = _ := decodeString_seen _
  have h₄ : decodeString (seen (getField c.fields "url")) = _ := decodeString_seen _
  have h₅ : decodeString (seen (getField c.fields "documentationUrl")) = _ := decodeString_seen _
  have h₆ : decodeString (seen (getField c.fields "iconUrl")) = _ := decodeString_seen _
  have h₇ : decodePointer decodeProvider (seen (getField c.fields "provider")) = _ :=
    decodePointer_seen fun p _ => decode_provider p
  have h₈ : decodePointer decodeCapabilities (seen (getField c.fields "capabilities")) = _ :=
    decodePointer_seen fun cap hcap => decode_capabilities (h cap hcap)
  have h₉ : decodeSlice decodeString (seen (getField c.fields "defaultInputModes")) = _ :=
    decodeStrings_seen _
  have h₁₀ : decodeSlice decodeString (seen (getField c.fields "defaultOutputModes")) = _ :=
    decodeStrings_seen _
  have h₁₁ : decodeSlice (decodeStruct decodeSkill) (seen (getField c.fields "skills")) = _ :=
    decodeSlice_seen fun s _ => decode_skill s
  have h₁₂ : decodeBool (seen (getField c.fields "supportsAuthenticatedExtendedCard")) = _ :=
    decodeBool_seen _
  have h₁₃ : decodeSlice (decodeStruct decodeSignature) (seen (getField c.fields "signatures")) =
      _ := decodeSlice_seen fun s _ => decode_signature s
  show decodeFields (omitEmpty c.fields) = _
  rw [decodeFields, hget, hget, hget, hget, hget, hget, hget, hget, hget, hget, hget, hget, hget,
    h₁, h₂, h₃, h₄, h₅, h₆, h₇, h₈, h₉, h₁₀, h₁₁, h₁₂, h₁₃]
  rfl

end Rossoctl.Signature
