import Rossoctl.Keycloak.Realm
import Rossoctl.Webhook.Pod

/-!
# Audience scopes

`EnsureAudienceScope` (`internal/keycloak/audience.go`,
`Rossoctl.Keycloak.ensureAudienceScope`), request by request: find or create the scope of
an agent, make its audience mapper right, and hand the scope out by default.

Two things are shown of it. Whatever requests fail, it does nothing to scopes of other
names (`Rossoctl.Keycloak.stays_ensureAudienceScope`); and where all requests are answered,
the mapper of the scope has the audience that was asked for
(`Rossoctl.Keycloak.pre_ensureAudienceScope_right`), which later calls with the same
audience do not change, not even those in which requests fail
(`Rossoctl.Keycloak.pre_ensureAudienceScope_again`).
-/

namespace Rossoctl.Keycloak

open Kube Webhook List

/-! ### The client -/

/-- What makes requests, and may fail. -/
abbrev Api (α : Type) := ExceptT String (Calls Request Response) α

/-- One request, with whatever answer. -/
def call (q : Request) : Api Response := ExceptT.mk (Calls.request q >>= fun r => pure (.ok r))

/-- The error as a value, for a caller that goes on. -/
def attempt {α : Type} (x : Api α) : Api (Except String α) :=
  ExceptT.mk (x.run >>= fun r => pure (.ok r))

/-- The characters that fit into so many bytes. -/
def takeBytes : Nat → List Char → List Char
  | _, [] => []
  | n, c :: cs => if c.utf8Size ≤ n then c :: takeBytes (n - c.utf8Size) cs else []

/-- `truncate` counts bytes; a character that it would cut in two is left out here. -/
def truncate (s : String) (n : Nat) : String :=
  if s.utf8ByteSize ≤ n then s else String.ofList (takeBytes n s.toList) ++ "..."

/-- The error for an answer with this code and body. -/
def statusError (what : String) (r : Response) (n : Nat) : String :=
  what ++ ": status " ++ toString r.code ++ ": " ++ truncate r.body n

/-- A response without a payload: any success will do. -/
def expectSuccess (what : String) : Response → Api Unit
  | .lost e => throw e
  | r => if 200 ≤ r.code ∧ r.code < 300 then pure () else throw (statusError what r 256)

/-- `findClientScopeIDByName`: empty if there is none. -/
def findClientScopeIDByName (name : String) : Api String := do
  match ← call .listScopes with
  | .lost e => throw e
  | .scopes list => pure (((list.find? fun sc => sc.2 = name).map Prod.fst).getD "")
  | r =>
    if r.code ≠ 200 then throw (statusError "keycloak list client-scopes" r 512)
    else throw ("keycloak list client-scopes decode: " ++ r.body)

/-- `createClientScope`: where the answer has no location, the scope is looked for. -/
def createClientScope (name : String) : Api String := do
  match ← call (.createScope name) with
  | .lost e => throw e
  | .created location => if location ≠ "" then pure location else findClientScopeIDByName name
  | r =>
    if r.code = 201 ∨ r.code = 409 then findClientScopeIDByName name
    else throw (statusError "keycloak create client-scope" r 512)

def oidcAudienceMapper : String := "oidc-audience-mapper"

def audienceKey : String := "included.custom.audience"

/-- The mapper of an audience. -/
def audienceMapper (scopeName audience : String) : ProtocolMapper where
  name := scopeName
  protocolMapper := oidcAudienceMapper
  config := some ((((∅ : StringMap).insert "userinfo.token.claim" "false").insert
    "access.token.claim" "true").insert "id.token.claim" "false" |>.insert audienceKey audience)

/-- The mapper with another audience. -/
def ProtocolMapper.withAudience (m : ProtocolMapper) (audience : String) : ProtocolMapper :=
  { m with config := some ((m.config.getD ∅).insert audienceKey audience) }

/-- `mapper.Config["included.custom.audience"] == audience`, for a configuration that is
there. -/
def ProtocolMapper.hasAudience (m : ProtocolMapper) (audience : String) : Bool :=
  m.config.any fun config => (config.lookup audienceKey).getD "" = audience

/-- `listAudienceMappers`. -/
def listAudienceMappers (scopeID : String) : Api (List ProtocolMapper) := do
  match ← call (.listMappers scopeID) with
  | .lost e => throw e
  | .mappers list => pure list
  | r =>
    if r.code ≠ 200 then throw (statusError "keycloak list mappers" r 256)
    else throw ("keycloak list mappers decode: " ++ r.body)

def deleteMapper (scopeID mapperID : String) : Api Unit := do
  expectSuccess "keycloak delete mapper" (← call (.deleteMapper scopeID mapperID))

def putAudienceMapper (scopeID : String) (mapper : ProtocolMapper) : Api Unit := do
  expectSuccess "keycloak update audience mapper" (← call (.putMapper scopeID mapper))

/-- The loop of `createAudienceMapperBestEffort` after a conflict. -/
def repairAudience (scopeID scopeName audience : String) : List ProtocolMapper → Api Unit
  | [] => pure ()
  | m :: ms =>
    if m.name = scopeName ∧ m.protocolMapper = oidcAudienceMapper then
      if m.hasAudience audience then pure ()
      else putAudienceMapper scopeID (m.withAudience audience)
    else repairAudience scopeID scopeName audience ms

/-- `createAudienceMapperBestEffort`: if there is one already, it is set right. -/
def createAudienceMapperBestEffort (scopeID scopeName audience : String) : Api Unit := do
  match ← call (.createMapper scopeID (audienceMapper scopeName audience)) with
  | .lost e => throw e
  | r =>
    if 200 ≤ r.code ∧ r.code < 300 then pure ()
    else if r.code = 409 then
      match ← attempt (listAudienceMappers scopeID) with
      | .error _ => pure ()
      | .ok mappers => repairAudience scopeID scopeName audience mappers
    else throw (statusError "keycloak create mapper best-effort" r 256)

/-- A mapper of the name with another type is replaced. -/
def replaceMapper (scopeID scopeName audience failure : String) (m : ProtocolMapper) :
    Api Unit := do
  match ← attempt (deleteMapper scopeID m.id) with
  | .error e => throw (failure ++ e)
  | .ok () => createAudienceMapperBestEffort scopeID scopeName audience

/-- The loop of `updateAudienceMapperIfNeeded`. -/
def updateAudience (scopeID scopeName audience : String) : List ProtocolMapper → Api Unit
  | [] => pure ()
  | m :: ms =>
    if m.name ≠ scopeName then updateAudience scopeID scopeName audience ms
    else if m.protocolMapper ≠ oidcAudienceMapper then
      replaceMapper scopeID scopeName audience ("delete stale mapper " ++ quoted m.name ++
        " (type " ++ quoted m.protocolMapper ++ ") for scope " ++ quoted scopeName ++ ": ") m
    else if m.config.isNone then updateAudience scopeID scopeName audience ms
    else if m.hasAudience audience then pure ()
    else putAudienceMapper scopeID (m.withAudience audience)

def updateAudienceMapperIfNeeded (scopeID scopeName audience : String) : Api Unit := do
  updateAudience scopeID scopeName audience (← listAudienceMappers scopeID)

/-- `ensureAudienceMapper`. -/
def ensureAudienceMapper (scopeID scopeName audience : String) : Api Unit := do
  match ← call (.createMapper scopeID (audienceMapper scopeName audience)) with
  | .lost e => throw e
  | r =>
    if r.code = 201 then pure ()
    else if r.code = 409 then updateAudienceMapperIfNeeded scopeID scopeName audience
    else if 400 ≤ r.code then throw (statusError "keycloak add audience mapper" r 256)
    else pure ()

/-- `getOrCreateAudienceClientScope`: whether the mapper of a new scope could be made is not
looked at here. -/
def getOrCreateAudienceClientScope (scopeName audience : String) : Api String := do
  let scopeID ← findClientScopeIDByName scopeName
  if scopeID ≠ "" then pure scopeID
  else
    let scopeID ← createClientScope scopeName
    if scopeID = "" then
      throw ("create client scope " ++ quoted scopeName ++ " returned empty id")
    else
      let _ ← attempt (ensureAudienceMapper scopeID scopeName audience)
      pure scopeID

/-- The loop of `verifyAudienceMapper`. -/
def verifyAudience (scopeID scopeName audience : String) : List ProtocolMapper → Api Unit
  | [] => createAudienceMapperBestEffort scopeID scopeName audience
  | m :: ms =>
    if m.name ≠ scopeName then verifyAudience scopeID scopeName audience ms
    else if m.protocolMapper ≠ oidcAudienceMapper then
      replaceMapper scopeID scopeName audience ("delete stale mapper " ++ quoted m.name ++
        " (type " ++ quoted m.protocolMapper ++ "): ") m
    else if m.hasAudience audience then pure ()
    else putAudienceMapper scopeID (m.withAudience audience)

/-- `verifyAudienceMapper`. -/
def verifyAudienceMapper (scopeID scopeName audience : String) : Api Unit := do
  verifyAudience scopeID scopeName audience (← listAudienceMappers scopeID)

/-- `putNoBodyExpectSuccess`: a scope that is attached already, or gone, will do. -/
def putNoBodyExpectSuccess (q : Request) : Api Unit := do
  match ← call q with
  | .lost e => throw e
  | r =>
    if r.code = 409 ∨ r.code = 404 then pure ()
    else expectSuccess "keycloak PUT" r

/-- `findClientUUID`: empty if there is none. -/
def findClientUUID (clientID : String) : Api String := do
  match ← call (.listClients clientID) with
  | .lost e => throw e
  | .clients list => pure (((list.find? fun c => c.2 = clientID).map Prod.fst).getD "")
  | r =>
    if r.code ≠ 200 then throw (statusError "keycloak list clients" r 512)
    else throw ("keycloak list clients decode: " ++ r.body)

/-- The loop of `EnsureAudienceScope` over the platform clients. -/
def attachToPlatform (scopeID : String) : List String → Api Unit
  | [] => pure ()
  | plat :: plats => do
    if trimSpace plat = "" then attachToPlatform scopeID plats
    else
      match ← attempt (findClientUUID (trimSpace plat)) with
      | .error _ => attachToPlatform scopeID plats
      | .ok internal =>
        if internal = "" then attachToPlatform scopeID plats
        else
          let _ ← attempt (putNoBodyExpectSuccess (.putClientDefault internal scopeID))
          attachToPlatform scopeID plats

/-- What `EnsureAudienceScope` is asked for. -/
structure AudienceParams where
  clientName : String
  audienceClientID : String
  platformClientIDs : List String := []
  audienceScopeEnabled : Bool := true
  agentClientUUID : String := ""

/-- `AudienceScopeName`. -/
def audienceScopeName (clientName : String) : String :=
  "agent-" ++ clientName.map (fun c => if c = '/' then '-' else c) ++ "-aud"

/-- The end of `EnsureAudienceScope`: the scope is handed out. -/
def attachScope (p : AudienceParams) (scopeID : String) : Api Unit := do
  let _ ← attempt (putNoBodyExpectSuccess (.putRealmDefault scopeID))
  if p.agentClientUUID ≠ "" then
    let _ ← attempt (putNoBodyExpectSuccess (.putClientDefault p.agentClientUUID scopeID))
    attachToPlatform scopeID p.platformClientIDs
  else attachToPlatform scopeID p.platformClientIDs

/-- **`EnsureAudienceScope`.** -/
def ensureAudienceScope (p : AudienceParams) : Api Unit := do
  if !p.audienceScopeEnabled then pure ()
  else
    let scopeName := audienceScopeName p.clientName
    let scopeID ← getOrCreateAudienceClientScope scopeName p.audienceClientID
    match ← attempt (verifyAudienceMapper scopeID scopeName p.audienceClientID) with
    | .error e => throw ("verify audience mapper for scope " ++ quoted scopeName ++ ": " ++ e)
    | .ok () => attachScope p scopeID

/-! ### Preconditions -/

section Rules

variable {sv : Server} {bad : Response → Prop} {α β : Type}

/-- What the client may see of a request in a state. -/
def Seen (sv : Server) (bad : Response → Prop) (q : Request) (s s' : Realm) (r : Response) :
    Prop :=
  sv.serve s q = (s', r) ∨ bad r ∧ (s' = s ∨ s' = (sv.serve s q).1)

/-- The precondition of something that may fail. -/
abbrev pre (sv : Server) (bad : Response → Prop) (post : Realm → Except String α → Prop)
    (x : Api α) (s : Realm) : Prop :=
  Calls.wp sv.serve bad post x.run s

variable {x : Api α} {scopeID : String} {s : Realm} {q : Request} {sc : ClientScope}
  {post : Realm → Except String α → Prop} {post' : Realm → Except String β → Prop}
  {ms : List ProtocolMapper}

theorem pre_bind {f : α → Api β} (hx : pre sv bad post x s)
    (herror : ∀ s' e, post s' (.error e) → post' s' (.error e))
    (hok : ∀ s' a, post s' (.ok a) → pre sv bad post' (f a) s') :
    pre sv bad post' (x >>= f) s := by
  rw [pre, ExceptT.run_bind, Calls.wp_bind]
  refine Calls.wp_mono (fun s' r h => ?_) hx
  cases r with
  | ok a => exact hok s' a h
  | error e => exact herror s' e h

variable {f : Except String α → Api β} {k : Response → Api α} {s' : Realm}

theorem pre_attempt (hx : pre sv bad post x s)
    (hf : ∀ s' r, post s' r → pre sv bad post' (f r) s') :
    pre sv bad post' (attempt x >>= f) s := by
  rw [pre, ExceptT.run_bind, Calls.wp_bind]
  exact (Calls.wp_bind _ _ _).mpr (Calls.wp_mono hf hx)

theorem exec_of_pre (h : pre sv bad post x s) (faults : List (Option (Calls.Fault bad))) :
    post (Calls.exec sv.serve bad faults s x.run).1 (Calls.exec sv.serve bad faults s x.run).2 :=
  Calls.exec_of_wp h faults

theorem pre_call (h : ∀ s' r, Seen sv bad q s s' r → pre sv bad post (k r) s') :
    pre sv bad post (call q >>= k) s :=
  ⟨h _ _ (.inl rfl), fun _ hr => ⟨h _ _ (.inr ⟨hr, .inl rfl⟩), h _ _ (.inr ⟨hr, .inr rfl⟩)⟩⟩

theorem pre_call_read (hread : (sv.serve s q).1 = s)
    (h : ∀ r, r = (sv.serve s q).2 ∨ bad r → pre sv bad post (k r) s) :
    pre sv bad post (call q >>= k) s := by
  refine pre_call fun s' r hseen => ?_
  rcases hseen with heq | ⟨hbad, rfl | rfl⟩
  · obtain rfl : s' = s := by rw [← hread, heq]
    exact h r (.inl (by rw [heq]))
  · exact h r (.inr hbad)
  · exact hread.symm ▸ h r (.inr hbad)

/-- **Leaving the realm as it is**, whatever fails. -/
def Leaves (sv : Server) (bad : Response → Prop) (s : Realm) (x : Api α) : Prop :=
  pre sv bad (fun s' _ => s' = s) x s

theorem Leaves.pre (h : Leaves sv bad s x) (hpost : ∀ r, post s r) : pre sv bad post x s := by
  refine Calls.wp_mono (fun s' r heq => ?_) h
  rw [heq]
  exact hpost r

theorem Leaves.attempt (hx : Leaves sv bad s x) (hf : ∀ r, Leaves sv bad s (f r)) :
    Leaves sv bad s (attempt x >>= f) :=
  pre_attempt hx fun _ r h => h ▸ hf r

theorem leaves_expectSuccess (what : String) (r : Response) :
    Leaves sv bad s (expectSuccess what r) := by
  rw [expectSuccess.eq_def]
  split
  · exact rfl
  · split
    · exact rfl
    · exact rfl

theorem leaves_putNoBodyExpectSuccess (hread : (sv.serve s q).1 = s) :
    Leaves sv bad s (putNoBodyExpectSuccess q) := by
  refine pre_call_read hread fun r _ => ?_
  split
  · exact rfl
  · split
    · exact rfl
    · exact leaves_expectSuccess _ _

theorem leaves_findClientUUID (clientID : String) :
    Leaves sv bad s (findClientUUID clientID) := by
  refine pre_call_read rfl fun r _ => ?_
  split
  · exact rfl
  · exact rfl
  · split
    · exact rfl
    · exact rfl

theorem leaves_attachToPlatform (scopeID : String) (plats : List String) :
    Leaves sv bad s (attachToPlatform scopeID plats) := by
  induction plats with
  | nil => exact rfl
  | cons plat plats ih =>
    rw [attachToPlatform]
    split
    · exact ih
    · refine (leaves_findClientUUID _).attempt fun r => ?_
      cases r with
      | error e => exact ih
      | ok internal =>
        dsimp only
        split
        · exact ih
        · exact (leaves_putNoBodyExpectSuccess (q := .putClientDefault _ _) rfl).attempt
            fun _ => ih

/-- **Handing out a scope** does not touch the realm. -/
theorem leaves_attachScope (p : AudienceParams) (scopeID : String) :
    Leaves sv bad s (attachScope p scopeID) := by
  refine (leaves_putNoBodyExpectSuccess (q := .putRealmDefault _) rfl).attempt fun _ => ?_
  split
  · exact (leaves_putNoBodyExpectSuccess (q := .putClientDefault _ _) rfl).attempt
      fun _ => leaves_attachToPlatform _ _
  · exact leaves_attachToPlatform _ _

theorem Seen.evolves {name : String} {r : Response} (h : Seen sv bad q s s' r)
    (hq : q.KeepsTo name s) : Evolves name s s' := by
  have hserve := evolves_serve sv hq
  rcases h with h | ⟨-, rfl | rfl⟩
  · rwa [h] at hserve
  · exact .refl _
  · exact hserve

/-- **Keeping to one scope**: from this state, whatever fails, only the scope of the name
changes. -/
def Stays (sv : Server) (bad : Response → Prop) (name : String) (s : Realm) (x : Api α) : Prop :=
  pre sv bad (fun s' _ => Evolves name s s') x s

variable {name : String} {s : Realm}

theorem Stays.exec (h : Stays sv bad name s x) (faults : List (Option (Calls.Fault bad))) :
    Evolves name s (Calls.exec sv.serve bad faults s x.run).1 :=
  Calls.exec_of_wp (c := x.run) h faults

theorem stays_pure (a : α) : Stays sv bad name s (pure a) := Evolves.refl s

theorem stays_throw (e : String) : Stays sv bad name s (throw e : Api α) := Evolves.refl s

theorem stays_expectSuccess (what : String) (r : Response) :
    Stays sv bad name s (expectSuccess what r) :=
  (leaves_expectSuccess what r).pre fun _ => .refl s

theorem Stays.after (hx : Stays sv bad name s' x) (h : Evolves name s s') :
    pre sv bad (fun s'' _ => Evolves name s s'') x s' :=
  Calls.wp_mono (fun _ _ h' => h.trans h') hx

theorem Stays.attempt (hx : Stays sv bad name s x)
    (hf : ∀ s' r, Evolves name s s' → Stays sv bad name s' (f r)) :
    Stays sv bad name s (attempt x >>= f) :=
  pre_attempt hx fun s' r h => (hf s' r h).after h

theorem stays_call (hq : q.KeepsTo name s)
    (hk : ∀ s' r, Evolves name s s' → Stays sv bad name s' (k r)) :
    Stays sv bad name s (call q >>= k) :=
  pre_call fun s' r hseen => (hk s' r (hseen.evolves hq)).after (hseen.evolves hq)

/-! ### Nothing happens to other scopes -/

theorem stays_deleteMapper (mapperID : String) (h : s.Owns name scopeID) :
    Stays sv bad name s (deleteMapper scopeID mapperID) :=
  stays_call h fun _ r _ => stays_expectSuccess _ r

theorem mem_of_scopeNamed (h : s.scopeNamed name = some sc) : sc ∈ s.scopes ∧ sc.name = name :=
  ⟨mem_of_find?_eq_some h, by simpa using find?_some h⟩

theorem owns_of_found (hs : s.InOrder) {id : String}
    (hid : id = ((s.scopeNamed name).map ClientScope.id).getD "") (hne : id ≠ "") :
    s.Owns name id := by
  cases hsc : s.scopeNamed name with
  | none =>
    rw [hsc] at hid
    exact absurd hid hne
  | some sc =>
    rw [hsc] at hid
    obtain ⟨hmem, rfl⟩ := mem_of_scopeNamed hsc
    exact hid ▸ hs.owns hmem

section Mappers

variable (hs : s.InOrder) (hsc : sc ∈ s.scopes) (hname : sc.name = name) (audience : String)
include hs hsc hname

theorem keepsTo_putMapper {m : ProtocolMapper} (hm : m ∈ sc.mappers) :
    (Request.putMapper sc.id (m.withAudience audience)).KeepsTo name s := by
  refine ⟨hname ▸ hs.owns hsc, fun sc' hsc' hid m' hm' hmid => ?_⟩
  obtain rfl := hs.eq_of_id hsc' hsc hid
  have heq : m' = m := inj_on_of_nodup_map (hs.mappers _ hsc').ids hm' hm hmid
  rw [heq]
  rfl

theorem stays_putAudienceMapper {m : ProtocolMapper} (hm : m ∈ sc.mappers) :
    Stays sv bad name s (putAudienceMapper sc.id (m.withAudience audience)) :=
  stays_call (keepsTo_putMapper hs hsc hname audience hm) fun _ r _ => stays_expectSuccess _ r

theorem stays_repairAudience (hms : ms ⊆ sc.mappers) :
    Stays sv bad name s (repairAudience sc.id name audience ms) := by
  induction ms with
  | nil => exact stays_pure ()
  | cons m ms ih =>
    rw [repairAudience]
    split
    · split
      · exact stays_pure ()
      · exact stays_putAudienceMapper hs hsc hname audience (hms mem_cons_self)
    · exact ih fun x hx => hms (mem_cons_of_mem _ hx)

end Mappers

variable (hbad : ∀ r, bad r → r.Failure)
include hbad

theorem pre_findClientScopeIDByName : pre sv bad (fun s' r => s' = s ∧ ∀ id, r = .ok id →
      id = ((s.scopeNamed name).map ClientScope.id).getD "") (findClientScopeIDByName name) s := by
  refine pre_call_read rfl fun r hr => ?_
  split
  · exact ⟨rfl, fun _ h => by cases h⟩
  · rename_i list
    refine ⟨rfl, fun id hid => ?_⟩
    rcases hr with h | h
    · cases h
      cases hid
      rw [find?_map, Option.map_map]
      rfl
    · exact (hbad _ h).elim
  · split
    · exact ⟨rfl, fun _ h => by cases h⟩
    · exact ⟨rfl, fun _ h => by cases h⟩

theorem pre_listAudienceMappers (scopeID : String) :
    pre sv bad (fun s' r => s' = s ∧ ∀ ms, r = .ok ms →
      ∃ sc, s.scopeByID scopeID = some sc ∧ ms = sc.mappers) (listAudienceMappers scopeID) s := by
  refine pre_call_read (by rw [Server.serve]; split <;> rfl) fun r hr => ?_
  split
  · exact ⟨rfl, fun _ h => by cases h⟩
  · rename_i list
    refine ⟨rfl, fun ms hms => ?_⟩
    cases hms
    rcases hr with h | h
    · rw [Server.serve] at h
      cases hsc : s.scopeByID scopeID with
      | none =>
        rw [hsc] at h
        cases h
      | some sc =>
        rw [hsc] at h
        exact ⟨sc, rfl, Response.mappers.inj h⟩
    · exact (hbad _ h).elim
  · split
    · exact ⟨rfl, fun _ h => by cases h⟩
    · exact ⟨rfl, fun _ h => by cases h⟩

theorem pre_createClientScope (hs : s.InOrder) :
    pre sv bad (fun s' r => Evolves name s s' ∧ ∀ id, r = .ok id → id ≠ "" →
      s'.Owns name id) (createClientScope name) s := by
  -- a listing afterwards finds the scope of the name, if any
  have hfind : ∀ s', Evolves name s s' → pre sv bad (fun s'' r => Evolves name s s'' ∧
      ∀ id, r = .ok id → id ≠ "" → s''.Owns name id) (findClientScopeIDByName name) s' := by
    intro s' hs'
    refine Calls.wp_mono (fun s'' r h => ?_) (pre_findClientScopeIDByName hbad)
    obtain ⟨rfl, hids⟩ := h
    exact ⟨hs', fun id hid hne => owns_of_found (hs'.inOrder hs) (hids id hid) hne⟩
  refine pre_call fun s' r hseen => ?_
  have hs' : Evolves name s s' := hseen.evolves rfl
  split
  · exact ⟨hs', fun _ h => by cases h⟩
  · rename_i location
    split
    · rename_i hne
      refine ⟨hs', fun id hid _ => ?_⟩
      cases hid
      rcases hseen with h | ⟨h, -⟩
      · rw [Server.serve] at h
        split at h
        · cases h
        · obtain ⟨rfl, hloc⟩ := Prod.mk.inj h
          have hloc := Response.created.inj hloc
          split at hloc
          · intro sc hsc hid
            rcases mem_append.mp hsc with hsc | hsc
            · exact absurd (hloc ▸ hid ▸ Realm.id_mem_ids hsc) (sv.newID_fresh _)
            · rw [mem_singleton.mp hsc]
          · exact absurd hloc.symm hne
      · exact (hbad _ h).elim
    · exact hfind s' hs'
  · split
    · exact hfind s' hs'
    · exact ⟨hs', fun _ h => by cases h⟩

section Own

variable (hown : s.Owns name scopeID)
include hown

theorem pre_listOwnMappers : pre sv bad (fun s' r => s' = s ∧ ∀ ms, r = .ok ms →
        ∃ sc ∈ s.scopes, sc.id = scopeID ∧ sc.name = name ∧ ms = sc.mappers)
      (listAudienceMappers scopeID) s := by
  refine Calls.wp_mono (fun s' r h => ⟨h.1, fun ms hms => ?_⟩)
    (pre_listAudienceMappers hbad scopeID)
  obtain ⟨sc, hsc, hmappers⟩ := h.2 ms hms
  have hmem := mem_of_find?_eq_some hsc
  have hid : sc.id = scopeID := by simpa using find?_some hsc
  exact ⟨sc, hmem, hid, hown sc hmem hid, hmappers⟩

theorem stays_overMappers {k : List ProtocolMapper → Api Unit}
    (hk : ∀ sc ∈ s.scopes, sc.id = scopeID → sc.name = name → Stays sv bad name s (k sc.mappers)) :
    Stays sv bad name s (listAudienceMappers scopeID >>= k) := by
  refine pre_bind (pre_listOwnMappers hbad hown) (fun s' _ h => h.1 ▸ .refl s') fun s' ms h => ?_
  obtain ⟨rfl, hms⟩ := h
  obtain ⟨sc, hsc, hid, hname, rfl⟩ := hms ms rfl
  exact hk sc hsc hid hname

variable (hs : s.InOrder) (audience : String)
include hs

theorem stays_createAudienceMapperBestEffort :
    Stays sv bad name s (createAudienceMapperBestEffort scopeID name audience) := by
  refine stays_call hown fun s' r hs' => ?_
  split
  · exact stays_throw _
  · split
    · exact stays_pure ()
    · split
      · refine pre_attempt (pre_listOwnMappers hbad (hs'.owns _ hown)) fun s'' r h => ?_
        obtain ⟨rfl, hms⟩ := h
        cases r with
        | error e => exact .refl _
        | ok ms =>
          obtain ⟨sc, hsc, rfl, hname, rfl⟩ := hms ms rfl
          exact stays_repairAudience (hs'.inOrder hs) hsc hname audience (List.Subset.refl _)
      · exact stays_throw _

theorem stays_replaceMapper (failure : String) (m : ProtocolMapper) :
    Stays sv bad name s (replaceMapper scopeID name audience failure m) := by
  refine (stays_deleteMapper m.id hown).attempt fun s' r hs' => ?_
  cases r with
  | error e => exact stays_throw _
  | ok u =>
    exact stays_createAudienceMapperBestEffort hbad (hs'.owns _ hown) (hs'.inOrder hs) audience

end Own

section Loops

variable (hs : s.InOrder) (hsc : sc ∈ s.scopes) (hname : sc.name = name) (audience : String)
  (hms : ms ⊆ sc.mappers)
include hs hsc hname hms

theorem stays_updateAudience : Stays sv bad name s (updateAudience sc.id name audience ms) := by
  induction ms with
  | nil => exact stays_pure ()
  | cons m ms ih =>
    have hrest := ih fun x hx => hms (mem_cons_of_mem _ hx)
    rw [updateAudience]
    split
    · exact hrest
    · split
      · exact stays_replaceMapper hbad (hname ▸ hs.owns hsc) hs _ _ m
      · split
        · exact hrest
        · split
          · exact stays_pure ()
          · exact stays_putAudienceMapper hs hsc hname audience (hms mem_cons_self)

theorem stays_verifyAudience : Stays sv bad name s (verifyAudience sc.id name audience ms) := by
  have hown : s.Owns name sc.id := hname ▸ hs.owns hsc
  induction ms with
  | nil => exact stays_createAudienceMapperBestEffort hbad hown hs audience
  | cons m ms ih =>
    rw [verifyAudience]
    split
    · exact ih fun x hx => hms (mem_cons_of_mem _ hx)
    · split
      · exact stays_replaceMapper hbad hown hs _ _ m
      · split
        · exact stays_pure ()
        · exact stays_putAudienceMapper hs hsc hname audience (hms mem_cons_self)

end Loops

variable (hs : s.InOrder)
include hs

theorem stays_verifyAudienceMapper (hown : s.Owns name scopeID) (audience : String) :
    Stays sv bad name s (verifyAudienceMapper scopeID name audience) :=
  stays_overMappers hbad hown fun _ hsc hid hname =>
    hid ▸ stays_verifyAudience hbad hs hsc hname audience (List.Subset.refl _)

theorem stays_ensureAudienceMapper (hown : s.Owns name scopeID) (audience : String) :
    Stays sv bad name s (ensureAudienceMapper scopeID name audience) := by
  refine stays_call hown fun s' r hs' => ?_
  split
  · exact stays_throw _
  · split
    · exact stays_pure ()
    · split
      · exact stays_overMappers hbad (hs'.owns _ hown) fun _ hsc hid hname =>
          hid ▸ stays_updateAudience hbad (hs'.inOrder hs) hsc hname audience (List.Subset.refl _)
      · split
        · exact stays_throw _
        · exact stays_pure ()

theorem pre_getOrCreateAudienceClientScope (audience : String) :
    pre sv bad (fun s' r => Evolves name s s' ∧ ∀ id, r = .ok id → s'.Owns name id)
      (getOrCreateAudienceClientScope name audience) s := by
  refine pre_bind (pre_findClientScopeIDByName hbad)
    (fun s₁ _ h => ⟨h.1 ▸ .refl s₁, fun _ h => by cases h⟩) fun s₁ id₁ h => ?_
  obtain ⟨rfl, hids⟩ := h
  split
  · rename_i hne
    refine ⟨.refl _, fun id hid => ?_⟩
    cases hid
    exact owns_of_found hs (hids _ rfl) hne
  · refine pre_bind (pre_createClientScope hbad hs) (fun _ _ h => ⟨h.1, fun _ h => by cases h⟩)
      fun s₂ id₂ h => ?_
    obtain ⟨hs₂, hown⟩ := h
    split
    · exact ⟨hs₂, fun _ h => by cases h⟩
    · rename_i hne
      have hown := hown id₂ rfl hne
      refine pre_attempt (stays_ensureAudienceMapper hbad (hs₂.inOrder hs) hown audience)
        fun s₃ _ h => ⟨hs₂.trans h, fun id hid => ?_⟩
      cases hid
      exact h.owns _ hown

/-- **Whatever fails, other scopes are left alone.** -/
theorem stays_ensureAudienceScope (p : AudienceParams) :
    Stays sv bad (audienceScopeName p.clientName) s (ensureAudienceScope p) := by
  rw [ensureAudienceScope]
  split
  · exact stays_pure ()
  · refine pre_bind (pre_getOrCreateAudienceClientScope hbad hs p.audienceClientID)
      (fun _ _ h => h.1) fun s₁ scopeID h => ?_
    obtain ⟨hs₁, hown⟩ := h
    refine Stays.after ((stays_verifyAudienceMapper hbad (hs₁.inOrder hs) (hown scopeID rfl)
      _).attempt fun s₂ r _ => ?_) hs₁
    cases r with
    | error e => exact stays_throw _
    | ok u => exact (leaves_attachScope p scopeID).pre fun _ => .refl _

end Rules

/-! ### The audience -/

/-- The audience that the mapper of a scope gives to tokens. -/
def Realm.audienceOf (realm : Realm) (name : String) : Option String :=
  (realm.scopeNamed name).bind fun sc =>
    (sc.mappers.find? fun m => m.name = name).bind fun m =>
      if m.protocolMapper = oidcAudienceMapper then
        m.config.map fun config => (config.lookup audienceKey).getD ""
      else none

section Right

variable {sv : Server} {α : Type} {name audience : String} {s : Realm} {sc : ClientScope}
  {m : ProtocolMapper}

theorem audienceOf_congr {s' : Realm} (h : s'.scopeNamed name = s.scopeNamed name) :
    s'.audienceOf name = s.audienceOf name := by
  rw [Realm.audienceOf, h, Realm.audienceOf]

theorem mapper_of_audienceOf (h : s.audienceOf name = some audience) :
    ∃ sc m, s.scopeNamed name = some sc ∧ (sc.mappers.find? fun m => m.name = name) = some m ∧
      m.protocolMapper = oidcAudienceMapper ∧ m.hasAudience audience = true := by
  obtain ⟨sc, hsc, h⟩ := Option.bind_eq_some_iff.mp h
  obtain ⟨m, hm, h⟩ := Option.bind_eq_some_iff.mp h
  split at h
  · rename_i htype
    obtain ⟨config, hconfig, haud⟩ := Option.map_eq_some_iff.mp h
    refine ⟨sc, m, hsc, hm, htype, (Option.any_eq_true _ _).mpr ⟨config, hconfig, ?_⟩⟩
    exact decide_eq_true haud
  · cases h

theorem hasAudience_audienceMapper (name audience : String) :
    (audienceMapper name audience).hasAudience audience = true := by
  exact decide_eq_true rfl

theorem hasAudience_withAudience (m : ProtocolMapper) :
    (m.withAudience audience).hasAudience audience = true := by
  exact decide_eq_true rfl

/-- The loop of `verifyAudienceMapper` is about the first mapper of the name. -/
theorem verifyAudience_eq (scopeID : String) (ms : List ProtocolMapper) :
    verifyAudience scopeID name audience ms =
      match ms.find? fun m => m.name = name with
      | none => createAudienceMapperBestEffort scopeID name audience
      | some m =>
        if m.protocolMapper ≠ oidcAudienceMapper then
          replaceMapper scopeID name audience ("delete stale mapper " ++ quoted m.name ++
            " (type " ++ quoted m.protocolMapper ++ "): ") m
        else if m.hasAudience audience then pure ()
        else putAudienceMapper scopeID (m.withAudience audience) := by
  induction ms with
  | nil => rfl
  | cons m ms ih =>
    rw [verifyAudience]
    by_cases h : m.name = name
    · simp [h]
    · simp only [ne_eq, h, not_false_eq_true, if_true, ih, find?_cons, decide_false]

theorem pre_call_clean {post : Realm → Except String α → Prop} {q : Request}
    {k : Response → Api α} (h : pre sv (fun _ => False) post (k (sv.serve s q).2)
      (sv.serve s q).1) : pre sv (fun _ => False) post (call q >>= k) s := by
  refine pre_call fun s' r hseen => ?_
  rcases hseen with heq | ⟨hfalse, -⟩
  · rwa [heq] at h
  · exact hfalse.elim

section Named

variable (hsc : s.scopeNamed name = some sc)
include hsc

theorem scopeNamed_modifyScope_self {f : ClientScope → ClientScope}
    (hname : ∀ sc, (f sc).name = sc.name) :
    (s.modifyScope sc.id f).scopeNamed name = some (f sc) := by
  have hsame : ((fun sc : ClientScope => decide (sc.name = name)) ∘
      fun sc' => if sc'.id = sc.id then f sc' else sc') = fun sc => decide (sc.name = name) := by
    funext sc'
    rw [Function.comp_apply]
    split
    · rw [hname]
    · rfl
  rw [Realm.scopeNamed, Realm.modifyScope, find?_map, hsame, ← Realm.scopeNamed, hsc,
    Option.map_some, if_pos rfl]

theorem audienceOf_of_mapper (hm : (sc.mappers.find? fun m => m.name = name) = some m)
    (htype : m.protocolMapper = oidcAudienceMapper) (haud : m.hasAudience audience = true) :
    s.audienceOf name = some audience := by
  rw [Realm.audienceOf, hsc, Option.bind_some, hm, Option.bind_some, if_pos htype]
  obtain ⟨config, hconfig, haud⟩ := (Option.any_eq_true _ _).mp haud
  rw [hconfig, Option.map_some, of_decide_eq_true haud]

variable (hs : s.InOrder)
include hs

theorem serve_createMapper (sv : Server) (audience : String)
    (hfree : (sc.mappers.find? fun m => m.name = name) = none) :
    ∃ s' location, sv.serve s (.createMapper sc.id (audienceMapper name audience)) =
        (s', .created location) ∧ s'.audienceOf name = some audience ∧
      ∃ mappers, s'.scopeNamed name = some { sc with mappers } := by
  have hany : ¬ (sc.mappers.any fun m => m.name = (audienceMapper name audience).name) = true := by
    rw [any_eq_true]
    rintro ⟨m, hm, hname⟩
    exact find?_eq_none.mp hfree m hm hname
  have hnamed := scopeNamed_modifyScope_self hsc (f := ClientScope.createMapper
    { audienceMapper name audience with id := sv.newID s.ids }) fun _ => rfl
  refine ⟨_, if sv.sendsLocation then sv.newID s.ids else "", ?_, ?_, _, hnamed⟩
  · rw [Server.serve, hs.scopeByID_eq (mem_of_scopeNamed hsc).1]
    exact if_neg hany
  · refine audienceOf_of_mapper hnamed
      (m := { audienceMapper name audience with id := sv.newID s.ids }) ?_ rfl
      (hasAudience_audienceMapper name audience)
    rw [ClientScope.createMapper, find?_append, hfree, Option.none_or]
    exact find?_cons_of_pos (decide_eq_true rfl)

end Named

/-- **Making right**: where all requests are answered, the mapper of the scope has the audience. -/
def MakesRight (sv : Server) (name audience : String) (s : Realm) (x : Api Unit) : Prop :=
  pre sv (fun _ => False) (fun s' r => r = .ok () ∧ s'.audienceOf name = some audience) x s

section Making

variable (hs : s.InOrder) (hsc : s.scopeNamed name = some sc)
include hs hsc

theorem makesRight_create (hfree : (sc.mappers.find? fun m => m.name = name) = none) :
    MakesRight sv name audience s (createAudienceMapperBestEffort sc.id name audience) := by
  obtain ⟨s', location, hserve, haud, -⟩ := serve_createMapper hsc hs sv audience hfree
  refine pre_call_clean ?_
  rw [hserve]
  exact ⟨rfl, haud⟩

section Found

variable (hm : (sc.mappers.find? fun m => m.name = name) = some m)
include hm

theorem makesRight_replace (failure : String) :
    MakesRight sv name audience s (replaceMapper sc.id name audience failure m) := by
  obtain ⟨hmem, hname⟩ := mem_of_scopeNamed hsc
  obtain ⟨hmm, hmname⟩ := (find?_key_eq_some_iff (hs.mappers sc hmem).names).mp hm
  have hserve : sv.serve s (.deleteMapper sc.id m.id) =
      (s.modifyScope sc.id (ClientScope.deleteMapper m.id), .status 204 "") := by
    rw [Server.serve, hs.scopeByID_eq hmem]
    exact if_pos (any_eq_true.mpr ⟨m, hmm, decide_eq_true rfl⟩)
  have hin := (evolves_serve sv (q := .deleteMapper sc.id m.id) (hname ▸ hs.owns hmem)).inOrder hs
  rw [hserve] at hin
  have hdelete : pre sv (fun _ => False) (fun s' r =>
      s' = s.modifyScope sc.id (ClientScope.deleteMapper m.id) ∧ r = .ok ())
      (deleteMapper sc.id m.id) s := by
    refine pre_call_clean ?_
    rw [hserve]
    exact ⟨rfl, rfl⟩
  refine pre_attempt hdelete ?_
  rintro s' r ⟨rfl, rfl⟩
  have hnamed := scopeNamed_modifyScope_self hsc (f := ClientScope.deleteMapper m.id) fun _ => rfl
  refine @makesRight_create sv name audience _ (sc.deleteMapper m.id) hin hnamed ?_
  -- the only mapper of the name is gone
  refine find?_eq_none.mpr fun x hx hxname => ?_
  obtain ⟨hx, hxid⟩ := mem_filter.mp hx
  have heq : x = m := inj_on_of_nodup_map (hs.mappers sc hmem).names hx hmm
    ((of_decide_eq_true hxname).trans hmname.symm)
  rw [heq] at hxid
  exact of_decide_eq_true hxid rfl

theorem makesRight_put (htype : m.protocolMapper = oidcAudienceMapper) :
    MakesRight sv name audience s (putAudienceMapper sc.id (m.withAudience audience)) := by
  obtain ⟨hmem, hname⟩ := mem_of_scopeNamed hsc
  obtain ⟨hmm, hmname⟩ := (find?_key_eq_some_iff (hs.mappers sc hmem).names).mp hm
  have hserve : sv.serve s (.putMapper sc.id (m.withAudience audience)) =
      (s.modifyScope sc.id (ClientScope.putMapper (m.withAudience audience)), .status 204 "") := by
    rw [Server.serve, hs.scopeByID_eq hmem]
    exact if_pos (any_eq_true.mpr ⟨m, hmm, decide_eq_true rfl⟩)
  have hput := (evolves_serve sv (keepsTo_putMapper hs hmem hname audience hmm)).inOrder hs
  rw [hserve] at hput
  refine pre_call_clean ?_
  rw [hserve]
  have hnamed := scopeNamed_modifyScope_self hsc
    (f := ClientScope.putMapper (m.withAudience audience)) fun _ => rfl
  refine ⟨rfl, audienceOf_of_mapper hnamed (m := m.withAudience audience) ?_ htype
    (hasAudience_withAudience m)⟩
  exact (find?_key_eq_some_iff (hput.mappers _ (mem_of_scopeNamed hnamed).1).names).mpr
    ⟨mem_map.mpr ⟨m, hmm, if_pos rfl⟩, hmname⟩

end Found

/-- **The mapper is right** after a check in which all requests are answered. -/
theorem makesRight_verifyAudienceMapper :
    MakesRight sv name audience s (verifyAudienceMapper sc.id name audience) := by
  have hserve : sv.serve s (.listMappers sc.id) = (s, .mappers sc.mappers) := by
    rw [Server.serve, hs.scopeByID_eq (mem_of_scopeNamed hsc).1]
  have hlist : pre sv (fun _ => False) (fun s' r => s' = s ∧ r = .ok sc.mappers)
      (listAudienceMappers sc.id) s := by
    refine pre_call_clean ?_
    rw [hserve]
    exact ⟨rfl, rfl⟩
  refine pre_bind hlist (fun _ _ h => by cases h.2) ?_
  rintro _ _ ⟨rfl, ⟨⟩⟩
  rw [verifyAudience_eq]
  split
  · rename_i hfree
    exact makesRight_create hs hsc hfree
  · rename_i m hm
    split
    · exact makesRight_replace hs hsc hm _
    · rename_i htype
      have htype := not_not.mp htype
      split
      · rename_i haud
        exact ⟨rfl, audienceOf_of_mapper hsc hm htype haud⟩
      · exact makesRight_put hs hsc hm htype

end Making

theorem pre_findClientScopeIDByName_clean : pre sv (fun _ => False) (fun s' r => s' = s ∧
        r = .ok (((s.scopeNamed name).map ClientScope.id).getD ""))
      (findClientScopeIDByName name) s := by
  refine pre_call_clean ⟨rfl, ?_⟩
  rw [find?_map, Option.map_map]
  rfl

variable (hs : s.InOrder)
include hs

theorem pre_createClientScope_clean (hnone : s.scopeNamed name = none) :
    pre sv (fun _ => False) (fun s' r => ∃ id, r = .ok id ∧ id ≠ "" ∧
        s'.scopeNamed name = some { id, name } ∧ s'.InOrder)
      (createClientScope name) s := by
  have hserve : sv.serve s (.createScope name) =
      ({ s with scopes := s.scopes ++ [{ id := sv.newID s.ids, name }] },
        .created (if sv.sendsLocation then sv.newID s.ids else "")) := by
    rw [Server.serve, hnone]
    rfl
  have hkeeps : (Request.createScope name).KeepsTo name s := rfl
  have hin := (evolves_serve sv hkeeps).inOrder hs
  rw [hserve] at hin
  have hnamed := hin.scopeNamed_eq (mem_append_right _ (mem_singleton.mpr rfl))
  refine pre_call_clean ?_
  rw [hserve]
  dsimp only
  by_cases hsends : sv.sendsLocation = true
  · rw [if_pos hsends, if_pos (sv.newID_ne _)]
    exact ⟨_, rfl, sv.newID_ne _, hnamed, hin⟩
  · rw [if_neg hsends, if_neg (not_not.mpr rfl)]
    refine Calls.wp_mono (fun s' r h => ?_) pre_findClientScopeIDByName_clean
    obtain ⟨rfl, rfl⟩ := h
    rw [hnamed]
    exact ⟨_, rfl, sv.newID_ne _, rfl, hin⟩

/-- The scope is there, and its id known, where all requests are answered. -/
theorem pre_getOrCreateAudienceClientScope_clean :
    pre sv (fun _ => False) (fun s' r => ∃ sc, r = .ok sc.id ∧ s'.scopeNamed name = some sc)
      (getOrCreateAudienceClientScope name audience) s := by
  refine pre_bind pre_findClientScopeIDByName_clean (fun _ _ h => by cases h.2) fun s₁ id h => ?_
  obtain ⟨rfl, hid⟩ := h
  cases hid
  cases hsc : s₁.scopeNamed name with
  | some sc =>
    dsimp only [Option.map_some, Option.getD_some]
    rw [if_pos (hs.id_ne sc (mem_of_scopeNamed hsc).1)]
    exact ⟨sc, rfl, hsc⟩
  | none =>
    refine pre_bind (pre_createClientScope_clean hs hsc)
      (fun _ _ ⟨_, h, _⟩ => by cases h) fun s₂ id h => ?_
    obtain ⟨id, ⟨⟩, hne, hnamed, hin⟩ := h
    rw [if_neg hne]
    obtain ⟨s₃, location, hserve, -, mappers, hnamed₃⟩ :=
      serve_createMapper hnamed hin sv audience rfl
    have hensure : pre sv (fun _ => False) (fun s' _ => s' = s₃)
        (ensureAudienceMapper id name audience) s₂ := by
      refine pre_call_clean ?_
      rw [hserve]
      exact rfl
    exact pre_attempt hensure fun _ _ h => ⟨{ id, name, mappers }, rfl, h ▸ hnamed₃⟩

/-- **The audience is right** after a call in which all requests are answered. -/
theorem pre_ensureAudienceScope_right (p : AudienceParams) (hon : p.audienceScopeEnabled = true) :
    pre sv (fun _ => False) (fun s' _ =>
        s'.audienceOf (audienceScopeName p.clientName) = some p.audienceClientID)
      (ensureAudienceScope p) s := by
  rw [ensureAudienceScope, hon, if_neg (by decide)]
  refine pre_bind (Calls.wp_and (pre_getOrCreateAudienceClientScope_clean hs)
    (pre_getOrCreateAudienceClientScope (fun _ h => h.elim) hs p.audienceClientID))
    (fun _ _ ⟨⟨_, h, _⟩, _⟩ => by cases h) fun s₁ id h => ?_
  obtain ⟨⟨sc, ⟨⟩, hsc⟩, hevolves, -⟩ := h
  refine pre_attempt (makesRight_verifyAudienceMapper (hevolves.inOrder hs) hsc) fun s₂ r h => ?_
  obtain ⟨rfl, haud⟩ := h
  exact (leaves_attachScope p sc.id).pre fun _ => haud

/-- **A right audience stays**, whatever requests of a later call for it fail. -/
theorem pre_ensureAudienceScope_again {bad : Response → Prop} (hbad : ∀ r, bad r → r.Failure)
    (p : AudienceParams)
    (haud : s.audienceOf (audienceScopeName p.clientName) = some p.audienceClientID) :
    pre sv bad (fun s' _ =>
        s'.audienceOf (audienceScopeName p.clientName) = some p.audienceClientID)
      (ensureAudienceScope p) s := by
  obtain ⟨sc, m, hsc, hm, htype, hhas⟩ := mapper_of_audienceOf haud
  rw [ensureAudienceScope]
  split
  · exact haud
  · have hget : pre sv bad (fun s' r => s' = s ∧ ∀ id, r = .ok id → id = sc.id)
        (getOrCreateAudienceClientScope (audienceScopeName p.clientName) p.audienceClientID)
        s := by
      refine pre_bind (pre_findClientScopeIDByName hbad)
        (fun _ _ h => ⟨h.1, fun _ h => by cases h⟩) fun s₁ id h => ?_
      obtain ⟨rfl, hid⟩ := h
      obtain rfl : id = sc.id := by rw [hid id rfl, hsc]; rfl
      rw [if_pos (hs.id_ne sc (mem_of_scopeNamed hsc).1)]
      exact ⟨rfl, fun _ h => (Except.ok.inj h).symm⟩
    have hverify : pre sv bad (fun s' _ => s' = s) (verifyAudienceMapper sc.id
        (audienceScopeName p.clientName) p.audienceClientID) s := by
      refine pre_bind (pre_listAudienceMappers hbad sc.id) (fun _ _ h => h.1) fun s₁ ms h => ?_
      obtain ⟨rfl, hms⟩ := h
      obtain ⟨sc', hsc', rfl⟩ := hms ms rfl
      rw [hs.scopeByID_eq (mem_of_scopeNamed hsc).1] at hsc'
      cases hsc'
      rw [verifyAudience_eq, hm]
      dsimp only
      rw [if_neg (not_not.mpr htype), if_pos hhas]
      exact rfl
    refine pre_bind hget (fun _ _ h => h.1 ▸ haud) fun s₁ id h => ?_
    obtain ⟨rfl, hid⟩ := h
    obtain rfl := hid id rfl
    refine pre_attempt hverify fun s₂ r h => ?_
    subst h
    cases r with
    | error e => exact haud
    | ok u => exact (leaves_attachScope p sc.id).pre fun _ => haud

end Right

/-! ### Executions -/

/-- What the network does to the requests of one call. -/
abbrev Faults := List (Option (Calls.Fault Response.Failure))

section Executions

variable (sv : Server) {s : Realm} (hs : s.InOrder) (p : AudienceParams)

/-- The realm after a call. -/
def afterEnsure (faults : Faults) (s : Realm) : Realm :=
  (Calls.exec sv.serve Response.Failure faults s (ensureAudienceScope p).run).1

include hs

theorem evolves_afterEnsure (faults : Faults) :
    Evolves (audienceScopeName p.clientName) s (afterEnsure sv p faults s) :=
  (stays_ensureAudienceScope (fun _ h => h) hs p).exec faults

theorem audienceOf_afterEnsure (hon : p.audienceScopeEnabled = true) :
    (afterEnsure sv p [] s).audienceOf (audienceScopeName p.clientName) =
      some p.audienceClientID := by
  have hright : pre sv (fun _ => False)
      (fun s' _ => s'.audienceOf (audienceScopeName p.clientName) =
      some p.audienceClientID) (ensureAudienceScope p) s := pre_ensureAudienceScope_right hs p hon
  have hexec := exec_of_pre hright []
  rw [Calls.exec_nil_congr _ Response.Failure] at hexec
  exact hexec

theorem audienceOf_afterEnsure_again (faults : Faults)
    (haud : s.audienceOf (audienceScopeName p.clientName) = some p.audienceClientID) :
    (afterEnsure sv p faults s).audienceOf (audienceScopeName p.clientName) =
      some p.audienceClientID :=
  exec_of_pre (pre_ensureAudienceScope_again hs (fun _ h => h) p haud) faults

end Executions

end Rossoctl.Keycloak
