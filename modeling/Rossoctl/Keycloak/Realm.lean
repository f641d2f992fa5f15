import Rossoctl.Kube
import Rossoctl.Calls

/-!
# A realm of Keycloak

The part of a realm that `internal/keycloak/audience.go` reads through the admin API – client
scopes with their protocol mappers, and the clients –, and what the server does on each request
(`Rossoctl.Keycloak.Server.serve`), as the API documents it: names of scopes, and of the
mappers of one scope, are unique, and the creation of one that exists is answered with
409. To whom a scope is handed out by default is written and never read, and is left out.

What an audience scope may do to a realm is said once, by `Rossoctl.Keycloak.Evolves`:
scopes of other names stay as they are, and a realm in order stays in order. Each request
that keeps to its own scope does that (`Rossoctl.Keycloak.evolves_serve`).
-/

namespace Rossoctl.Keycloak

open Kube List

/-! ### Realms -/

/-- What puts a claim into the tokens of a client. -/
structure ProtocolMapper where
  /-- Empty for a mapper that is still to be created. -/
  id : String := ""
  name : String
  protocolMapper : String
  config : Option StringMap

/-- A scope, with the mappers that apply to its clients. -/
structure ClientScope where
  id : String
  name : String
  mappers : List ProtocolMapper := []

namespace ClientScope

/-- The mapper is added. -/
def createMapper (mapper : ProtocolMapper) (sc : ClientScope) : ClientScope :=
  { sc with mappers := sc.mappers ++ [mapper] }

/-- The mapper of the same id is replaced. -/
def putMapper (mapper : ProtocolMapper) (sc : ClientScope) : ClientScope :=
  { sc with mappers := sc.mappers.map fun m => if m.id = mapper.id then mapper else m }

/-- The mapper of the id is taken out. -/
def deleteMapper (mapperID : String) (sc : ClientScope) : ClientScope :=
  { sc with mappers := sc.mappers.filter fun m => m.id ≠ mapperID }

end ClientScope

/-- A realm, as far as it is read. -/
structure Realm where
  scopes : List ClientScope := []
  /-- The clients, by internal id and `clientId`. -/
  clients : List (String × String) := []

namespace Realm

/-- The scope of a name. -/
def scopeNamed (realm : Realm) (name : String) : Option ClientScope :=
  realm.scopes.find? fun sc => sc.name = name

/-- The scope of an id. -/
def scopeByID (realm : Realm) (id : String) : Option ClientScope :=
  realm.scopes.find? fun sc => sc.id = id

/-- All ids in use. -/
def ids (realm : Realm) : List String :=
  realm.scopes.map ClientScope.id ++ realm.scopes.flatMap fun sc => sc.mappers.map ProtocolMapper.id

/-- Change the scope of an id. -/
def modifyScope (realm : Realm) (id : String) (f : ClientScope → ClientScope) : Realm :=
  { realm with scopes := realm.scopes.map fun sc => if sc.id = id then f sc else sc }

end Realm

/-! ### Requests and responses -/

/-- The requests to the admin API. -/
inductive Request where
  | listScopes
  | createScope (name : String)
  | listMappers (scopeID : String)
  | createMapper (scopeID : String) (mapper : ProtocolMapper)
  | putMapper (scopeID : String) (mapper : ProtocolMapper)
  | deleteMapper (scopeID mapperID : String)
  | putRealmDefault (scopeID : String)
  | putClientDefault (clientUUID scopeID : String)
  | listClients (clientID : String)

/-- What the client may get in return. -/
inductive Response where
  /-- No response at all. -/
  | lost (error : String)
  /-- A status and a text. -/
  | status (code : Nat) (body : String)
  /-- 201, with the id from the `Location` header, which may be missing. -/
  | created (location : String)
  | scopes (list : List (String × String))
  | mappers (list : List ProtocolMapper)
  | clients (list : List (String × String))

namespace Response

/-- The status, 0 if there is none. -/
def code : Response → Nat
  | lost _ => 0
  | status code _ => code
  | created _ => 201
  | scopes _ => 200
  | mappers _ => 200
  | clients _ => 200

/-- The text of a response without a payload. -/
def body : Response → String
  | status _ body => body
  | _ => ""

/-- A response that tells of a failure: none, or a status other than success. -/
def Failure : Response → Prop
  | lost _ => True
  | status code _ => code < 200 ∨ 300 ≤ code
  | _ => False

end Response

/-- How a server names what it creates, and whether it says so. -/
structure Server where
  newID : List String → String
  newID_fresh : ∀ ids, newID ids ∉ ids
  newID_ne : ∀ ids, newID ids ≠ ""
  sendsLocation : Bool

namespace Server

variable (sv : Server)

/-- **What the server does** on a request. -/
def serve (realm : Realm) : Request → Realm × Response
  | .listScopes => (realm, .scopes (realm.scopes.map fun sc => (sc.id, sc.name)))
  | .createScope name =>
    if (realm.scopeNamed name).isSome then (realm, .status 409 "conflict")
    else
      let id := sv.newID realm.ids
      ({ realm with scopes := realm.scopes ++ [{ id, name }] },
        .created (if sv.sendsLocation then id else ""))
  | .listMappers scopeID =>
    match realm.scopeByID scopeID with
    | none => (realm, .status 404 "not found")
    | some sc => (realm, .mappers sc.mappers)
  | .createMapper scopeID mapper =>
    match realm.scopeByID scopeID with
    | none => (realm, .status 404 "not found")
    | some sc =>
      if sc.mappers.any fun m => m.name = mapper.name then (realm, .status 409 "conflict")
      else
        let id := sv.newID realm.ids
        (realm.modifyScope scopeID (ClientScope.createMapper { mapper with id }),
          .created (if sv.sendsLocation then id else ""))
  | .putMapper scopeID mapper =>
    match realm.scopeByID scopeID with
    | none => (realm, .status 404 "not found")
    | some sc =>
      if sc.mappers.any fun m => m.id = mapper.id then
        (realm.modifyScope scopeID (ClientScope.putMapper mapper), .status 204 "")
      else (realm, .status 404 "not found")
  | .deleteMapper scopeID mapperID =>
    match realm.scopeByID scopeID with
    | none => (realm, .status 404 "not found")
    | some sc =>
      if sc.mappers.any fun m => m.id = mapperID then
        (realm.modifyScope scopeID (ClientScope.deleteMapper mapperID), .status 204 "")
      else (realm, .status 404 "not found")
  | .putRealmDefault scopeID =>
    (realm, if (realm.scopeByID scopeID).isSome then .status 204 "" else .status 404 "not found")
  | .putClientDefault _ _ => (realm, .status 204 "")
  | .listClients clientID => (realm, .clients (realm.clients.filter fun c => c.2 = clientID))

end Server

/-! ### Realms in order -/

theorem find?_key_eq_some_iff {α : Type} {key : α → String} {l : List α}
    (hnodup : (l.map key).Nodup) {k : String} {a : α} :
    (l.find? fun x => key x = k) = some a ↔ a ∈ l ∧ key a = k := by
  constructor
  · intro h
    exact ⟨mem_of_find?_eq_some h, by simpa using find?_some h⟩
  · rintro ⟨ha, rfl⟩
    cases h : l.find? fun x => key x = key a with
    | none =>
      rw [find?_eq_none] at h
      exact absurd (decide_eq_true rfl) (h a ha)
    | some b =>
      have hkey : key b = key a := by simpa using find?_some h
      rw [inj_on_of_nodup_map hnodup (mem_of_find?_eq_some h) ha hkey]

/-- An entry with a new key at the end. -/
theorem nodup_map_append_singleton {α : Type} {key : α → String} {l : List α} {a : α}
    (h : (l.map key).Nodup) (ha : key a ∉ l.map key) : ((l ++ [a]).map key).Nodup := by
  rw [map_append, map_singleton, ← concat_eq_append]
  exact h.concat ha

/-- The mappers of a scope have different names and ids. -/
structure ClientScope.InOrder (sc : ClientScope) : Prop where
  names : (sc.mappers.map ProtocolMapper.name).Nodup
  ids : (sc.mappers.map ProtocolMapper.id).Nodup

/-- **A realm in order**: scopes have different names and different ids that are not
empty, and so have the mappers of each. -/
structure Realm.InOrder (realm : Realm) : Prop where
  names : (realm.scopes.map ClientScope.name).Nodup
  ids : (realm.scopes.map ClientScope.id).Nodup
  id_ne : ∀ sc ∈ realm.scopes, sc.id ≠ ""
  mappers : ∀ sc ∈ realm.scopes, sc.InOrder

/-- The id belongs to the scope of the name, if to any. -/
def Realm.Owns (realm : Realm) (name id : String) : Prop :=
  ∀ sc ∈ realm.scopes, sc.id = id → sc.name = name

/-- **What the scope of a name may do to a realm.** -/
structure Evolves (name : String) (realm realm' : Realm) : Prop where
  others : ∀ n, n ≠ name → realm'.scopeNamed n = realm.scopeNamed n
  owns : ∀ id, realm.Owns name id → realm'.Owns name id
  inOrder : realm.InOrder → realm'.InOrder

namespace Evolves

variable {name : String}

theorem refl (realm : Realm) : Evolves name realm realm := ⟨fun _ _ => rfl, fun _ h => h, id⟩

theorem trans {a b c : Realm} (h : Evolves name a b) (h' : Evolves name b c) : Evolves name a c :=
  ⟨fun n hn => (h'.others n hn).trans (h.others n hn), fun id hid => h'.owns id (h.owns id hid),
    fun ha => h'.inOrder (h.inOrder ha)⟩

end Evolves

namespace Realm

variable {realm : Realm}

variable {f : ClientScope → ClientScope} {id name : String} {sc : ClientScope}

/-- A change that keeps ids and names of scopes, and reaches only the scope of the id. -/
theorem map_modifyScope {β : Type} (g : ClientScope → β) (id : String)
    (hf : ∀ sc, g (f sc) = g sc) : (realm.modifyScope id f).scopes.map g = realm.scopes.map g := by
  rw [modifyScope, map_map]
  refine map_congr_left fun sc _ => ?_
  rw [Function.comp_apply]
  split
  · exact hf sc
  · rfl

variable {sc : ClientScope} {name : String}

theorem scopeNamed_modifyScope_of_ne {n : String} (hname : ∀ sc, (f sc).name = sc.name)
    (hown : realm.Owns name id) (hn : n ≠ name) :
    (realm.modifyScope id f).scopeNamed n = realm.scopeNamed n := by
  rw [scopeNamed, scopeNamed, modifyScope, find?_map]
  have hsame : ((fun sc : ClientScope => decide (sc.name = n)) ∘
      fun sc => if sc.id = id then f sc else sc) = fun sc => decide (sc.name = n) := by
    funext sc
    rw [Function.comp_apply]
    split
    · rw [hname]
    · rfl
  rw [hsame]
  cases hfind : realm.scopes.find? fun sc => decide (sc.name = n) with
  | none => rfl
  | some sc =>
    have hmem := mem_of_find?_eq_some hfind
    have hnamed : sc.name = n := by simpa using find?_some hfind
    rw [Option.map_some, if_neg fun hid => hn (hnamed.symm.trans (hown sc hmem hid))]

theorem inOrder_modifyScope (hid : ∀ sc, (f sc).id = sc.id) (hname : ∀ sc, (f sc).name = sc.name)
    (hf : ∀ sc ∈ realm.scopes, sc.id = id → (f sc).InOrder) (h : realm.InOrder) :
    (realm.modifyScope id f).InOrder := by
  refine ⟨?_, ?_, fun sc hsc => ?_, fun sc hsc => ?_⟩
  · rw [map_modifyScope _ _ hname]
    exact h.names
  · rw [map_modifyScope _ _ hid]
    exact h.ids
  · obtain ⟨sc₀, hsc₀, rfl⟩ := mem_map.mp hsc
    split
    · rw [hid]
      exact h.id_ne sc₀ hsc₀
    · exact h.id_ne sc₀ hsc₀
  · obtain ⟨sc₀, hsc₀, rfl⟩ := mem_map.mp hsc
    split
    · rename_i hsc₀id
      exact hf sc₀ hsc₀ hsc₀id
    · exact h.mappers sc₀ hsc₀

theorem owns_modifyScope {id' : String} (hid : ∀ sc, (f sc).id = sc.id)
    (hname : ∀ sc, (f sc).name = sc.name) (h : realm.Owns name id') :
    (realm.modifyScope id f).Owns name id' := by
  intro sc hsc hscid
  obtain ⟨sc₀, hsc₀, rfl⟩ := mem_map.mp hsc
  split
  · rename_i hsc₀id
    rw [if_pos hsc₀id, hid] at hscid
    rw [hname]
    exact h sc₀ hsc₀ hscid
  · rename_i hsc₀id
    rw [if_neg hsc₀id] at hscid
    exact h sc₀ hsc₀ hscid

theorem evolves_modifyScope (hid : ∀ sc, (f sc).id = sc.id) (hname : ∀ sc, (f sc).name = sc.name)
    (hown : realm.Owns name id)
    (hf : realm.InOrder → ∀ sc ∈ realm.scopes, sc.id = id → (f sc).InOrder) :
    Evolves name realm (realm.modifyScope id f) :=
  ⟨fun _ hn => scopeNamed_modifyScope_of_ne hname hown hn,
    fun _ h => owns_modifyScope hid hname h, fun h => inOrder_modifyScope hid hname (hf h) h⟩

theorem InOrder.eq_of_id (h : realm.InOrder) {sc' : ClientScope} (hsc : sc ∈ realm.scopes)
    (hsc' : sc' ∈ realm.scopes) (hid : sc.id = sc'.id) : sc = sc' :=
  inj_on_of_nodup_map h.ids hsc hsc' hid

theorem InOrder.scopeByID_eq (h : realm.InOrder) (hsc : sc ∈ realm.scopes) :
    realm.scopeByID sc.id = some sc :=
  (find?_key_eq_some_iff h.ids).mpr ⟨hsc, rfl⟩

theorem InOrder.scopeNamed_eq (h : realm.InOrder) (hsc : sc ∈ realm.scopes) :
    realm.scopeNamed sc.name = some sc :=
  (find?_key_eq_some_iff h.names).mpr ⟨hsc, rfl⟩

theorem InOrder.owns (h : realm.InOrder) (hsc : sc ∈ realm.scopes) : realm.Owns sc.name sc.id :=
  fun _ hsc' hid => congrArg ClientScope.name (h.eq_of_id hsc' hsc hid)

end Realm

/-! ### Requests about one scope -/

/-- A request keeps to the scope of a name: it creates no other, changes the mappers of no
other, and changes no name of a mapper. -/
def Request.KeepsTo (name : String) (realm : Realm) : Request → Prop
  | .createScope n => n = name
  | .createMapper scopeID _ => realm.Owns name scopeID
  | .putMapper scopeID mapper => realm.Owns name scopeID ∧
      ∀ sc ∈ realm.scopes, sc.id = scopeID → ∀ m ∈ sc.mappers, m.id = mapper.id →
        m.name = mapper.name
  | .deleteMapper scopeID _ => realm.Owns name scopeID
  | _ => True

namespace ClientScope

variable {sc : ClientScope}

theorem InOrder.create (h : sc.InOrder) {mapper : ProtocolMapper}
    (hname : mapper.name ∉ sc.mappers.map ProtocolMapper.name)
    (hid : mapper.id ∉ sc.mappers.map ProtocolMapper.id) :
    (sc.createMapper mapper).InOrder :=
  ⟨nodup_map_append_singleton h.names hname, nodup_map_append_singleton h.ids hid⟩

theorem InOrder.put (h : sc.InOrder) {mapper : ProtocolMapper}
    (hname : ∀ m ∈ sc.mappers, m.id = mapper.id → m.name = mapper.name) :
    (sc.putMapper mapper).InOrder := by
  have hmap : ∀ g : ProtocolMapper → String, (∀ m ∈ sc.mappers, m.id = mapper.id → g mapper = g m) →
      (sc.mappers.map fun m => if m.id = mapper.id then mapper else m).map g =
        sc.mappers.map g := by
    intro g hg
    rw [map_map]
    refine map_congr_left fun m hm => ?_
    rw [Function.comp_apply]
    split
    · rename_i hid
      exact hg m hm hid
    · rfl
  constructor
  · rw [putMapper, hmap _ fun m hm hid => (hname m hm hid).symm]
    exact h.names
  · rw [putMapper, hmap _ fun m _ hid => hid.symm]
    exact h.ids

theorem InOrder.delete (h : sc.InOrder) (mapperID : String) : (sc.deleteMapper mapperID).InOrder :=
  ⟨h.names.sublist (filter_sublist.map _), h.ids.sublist (filter_sublist.map _)⟩

end ClientScope

theorem Realm.id_mem_ids {realm : Realm} (h : sc ∈ realm.scopes) : sc.id ∈ realm.ids :=
  mem_append_left _ (mem_map_of_mem h)

theorem Realm.mapper_id_mem_ids {realm : Realm} (h : sc ∈ realm.scopes) {id : String}
    (hid : id ∈ sc.mappers.map ProtocolMapper.id) : id ∈ realm.ids :=
  mem_append_right _ (mem_flatMap.mpr ⟨sc, h, hid⟩)

theorem Realm.evolves_create {realm : Realm} {id : String} (hid : id ∉ realm.ids) (hne : id ≠ "")
    (hname : realm.scopeNamed name = none) :
    Evolves name realm { realm with scopes := realm.scopes ++ [{ id, name }] } := by
  have hnot : ∀ sc ∈ realm.scopes, sc.name ≠ name := by
    intro sc hsc hn
    rw [scopeNamed, find?_eq_none] at hname
    exact hname sc hsc (decide_eq_true hn)
  refine ⟨fun n hn => ?_, fun id' hown sc hsc hscid => ?_, fun h => ?_⟩
  · rw [scopeNamed, find?_append, find?_cons_of_neg (by simpa using Ne.symm hn),
      find?_nil, Option.or_none, scopeNamed]
  · rcases mem_append.mp hsc with hsc | hsc
    · exact hown sc hsc hscid
    · rw [mem_singleton.mp hsc]
  · refine ⟨?_, ?_, fun sc hsc => ?_, fun sc hsc => ?_⟩
    · refine nodup_map_append_singleton h.names fun hmem => ?_
      obtain ⟨sc, hsc, hn⟩ := mem_map.mp hmem
      exact hnot sc hsc hn
    · exact nodup_map_append_singleton h.ids fun hmem => hid (mem_append_left _ hmem)
    · rcases mem_append.mp hsc with hsc | hsc
      · exact h.id_ne sc hsc
      · rw [mem_singleton.mp hsc]
        exact hne
    · rcases mem_append.mp hsc with hsc | hsc
      · exact h.mappers sc hsc
      · rw [mem_singleton.mp hsc]
        exact ⟨nodup_nil, nodup_nil⟩

/-- **One request** about the scope of a name leaves all other scopes alone, and the realm
in order. -/
theorem evolves_serve (sv : Server) {realm : Realm} {q : Request} (hq : q.KeepsTo name realm) :
    Evolves name realm (sv.serve realm q).1 := by
  cases q with
  | listScopes => exact .refl realm
  | createScope n =>
    obtain rfl : n = name := hq
    rw [Server.serve]
    split
    · exact .refl realm
    · rename_i hnone
      exact Realm.evolves_create (sv.newID_fresh _) (sv.newID_ne _)
        (Option.not_isSome_iff_eq_none.mp hnone)
  | listMappers scopeID =>
    rw [Server.serve]
    split
    · exact .refl realm
    · exact .refl realm
  | createMapper scopeID mapper =>
    rw [Server.serve]
    split
    · exact .refl realm
    · rename_i sc hsc
      split
      · exact .refl realm
      · rename_i hfree
        refine Realm.evolves_modifyScope (fun _ => rfl) (fun _ => rfl) hq
          fun h sc' hsc' hid => ?_
        -- the scope that was looked up is the only one of the id
        obtain rfl : sc = sc' :=
          Option.some.inj (hsc.symm.trans (hid ▸ h.scopeByID_eq hsc'))
        refine (h.mappers sc hsc').create ?_ ?_
        · simpa using hfree
        · exact fun hmem => sv.newID_fresh _ (Realm.mapper_id_mem_ids hsc' hmem)
  | putMapper scopeID mapper =>
    rw [Server.serve]
    split
    · exact .refl realm
    · split
      · exact Realm.evolves_modifyScope (fun _ => rfl) (fun _ => rfl) hq.1
          fun h sc hsc hid => (h.mappers sc hsc).put (hq.2 sc hsc hid)
      · exact .refl realm
  | deleteMapper scopeID mapperID =>
    rw [Server.serve]
    split
    · exact .refl realm
    · split
      · exact Realm.evolves_modifyScope (fun _ => rfl) (fun _ => rfl) hq
          fun h sc hsc _ => (h.mappers sc hsc).delete mapperID
      · exact .refl realm
  | putRealmDefault scopeID => exact .refl realm
  | putClientDefault clientUUID scopeID => exact .refl realm
  | listClients clientID => exact .refl realm

end Rossoctl.Keycloak
