import Rossoctl.Keycloak.Registration

/-!
# What a request for a registration does

One request to the controller of `Rossoctl.Keycloak.Registration`. It does nothing at all, or it
registers the workload that it stands for (`Rossoctl.Keycloak.Setup.reconcile_cases`). Then the
client of the workload is created or brought in line
(`Rossoctl.Keycloak.Setup.Fetched`), and if its Secret is free, the Secret is written and the
template annotated. Nothing in the world that decides about registrations changes
(`Rossoctl.Keycloak.World.Onward`), so that the next request finds the same workloads.
-/

namespace Rossoctl.Keycloak

open Kube Webhook List AList

open Rossoctl.Runtime (WorkloadKind WorkloadKey)

/-! ### What is registered, and when -/

/-- **A workload that is to be registered**: an agent, or a tool where tools count. -/
def World.Eligible (w : World) (key : WorkloadKey) : Prop :=
  w.gates.globalOn = true ∧ w.gates.clientReg = true ∧
    ∃ t, w.workloads.lookup key = some t ∧ skipReason t.labels w.gates.injectTools = ""

/-- The registration of a workload, if it is to be registered. -/
def Setup.identity (s : Setup) (w : World) (key : WorkloadKey) : Option Identity :=
  if w.gates.globalOn = true ∧ w.gates.clientReg = true then
    (w.workloads.lookup key).bind fun t =>
      if skipReason t.labels w.gates.injectTools = "" then s.identityOf w key t else none
  else none

/-- A workload may write a Secret that is not there yet, and one that nothing else controls. -/
def World.Free (w : World) (key : WorkloadKey) (secretKey : NamespacedName) : Prop :=
  ∀ sec, w.secrets.lookup secretKey = some sec →
    sec.controller = none ∨ sec.controller = some (ownerOf key)

/-! ### Clients and Secrets -/

section Drift

variable (current desired : ClientRep)

theorem name_of_not_drifted {current desired : ClientRep}
    (h : clientRepDrifted current desired = false) : current.name = desired.name := by
  rw [clientRepDrifted, decide_eq_false_iff_not, not_or, not_not] at h
  exact h.1

theorem clientRepDrifted_self : clientRepDrifted desired desired = false := by
  rw [clientRepDrifted, decide_eq_false_iff_not]
  rintro (h | h | h | h | h | h | h | h)
  all_goals try exact h rfl
  rw [any_eq_true] at h
  obtain ⟨⟨key, value⟩, he, hne⟩ := h
  rw [decide_eq_true_eq] at hne
  exact hne (by rw [valueOf, GoMap.mem_entries_iff.mp he, Option.getD_some])

theorem clientRepDrifted_mergeDesired :
    clientRepDrifted (mergeDesired current desired) desired = false := by
  rw [clientRepDrifted, decide_eq_false_iff_not]
  rintro (h | h | h | h | h | h | h | h)
  all_goals try exact h rfl
  rw [any_eq_true] at h
  obtain ⟨⟨key, value⟩, he, hne⟩ := h
  rw [decide_eq_true_eq] at hne
  have hvalue : desired.attributes.entries.dlookup key = some value := GoMap.mem_entries_iff.mp he
  refine hne ?_
  rw [valueOf, mergeDesired, GoMap.lookup_foldl_insert _ desired.attributes.nodupKeys, hvalue]
  rfl

end Drift

namespace Setup

variable {s : Setup}

/-- **What registering or fetching a client does**: other clients stay, this one is then as it
should be, and if it was there it keeps its secret. Nothing else changes. -/
structure Fetched (s : Setup) (w : World) (i : Identity) : Prop where
  client : ∃ client, (s.registerOrFetchClient w i).1.clients.lookup i.clientKey = some client ∧
    clientRepDrifted client.rep i.rep = false ∧ client.secret = (s.registerOrFetchClient w i).2.1 ∧
    ∀ old, w.clients.lookup i.clientKey = some old → client.secret = old.secret
  others : ∀ k, k ≠ i.clientKey →
    (s.registerOrFetchClient w i).1.clients.lookup k = w.clients.lookup k
  rest : ∃ clients issued, (s.registerOrFetchClient w i).1 = { w with clients, issued }
  quiet : (s.registerOrFetchClient w i).2.2 = [] ↔
    ∃ client, w.clients.lookup i.clientKey = some client ∧ clientRepDrifted client.rep i.rep = false
  same : (s.registerOrFetchClient w i).2.2 = [] →
    (s.registerOrFetchClient w i).1.clients = w.clients

theorem fetched (s : Setup) (w : World) (i : Identity) : Fetched s w i := by
  cases hold : w.clients.lookup i.clientKey with
  | none =>
    have hcreated : s.registerOrFetchClient w i = ({ w with
            clients := w.clients.insert i.clientKey ⟨i.rep, s.newSecret w.issued⟩
            issued := w.issued + 1 }, s.newSecret w.issued, [i.clientKey]) := by
      rw [registerOrFetchClient, hold]
    constructor
    · rw [hcreated]
      exact ⟨_, lookup_insert _, clientRepDrifted_self _, rfl, fun _ h => by cases hold ▸ h⟩
    · intro k hk
      rw [hcreated]
      exact lookup_insert_ne hk
    · exact ⟨_, _, congrArg Prod.fst hcreated⟩
    · rw [hcreated, hold]
      exact iff_of_false (cons_ne_nil _ _) fun ⟨_, h, _⟩ => by cases h
    · rw [hcreated]
      exact fun h => by cases h
  | some old =>
    cases hdrift : clientRepDrifted old.rep i.rep with
    | false =>
      have hfound : s.registerOrFetchClient w i = (w, old.secret, []) := by
        rw [registerOrFetchClient, hold]
        simp only [hdrift, Bool.false_eq_true, if_false]
      constructor
      · rw [hfound]
        refine ⟨old, hold, hdrift, rfl, fun _ h => ?_⟩
        rw [Option.some.inj (hold.symm.trans h)]
      · intro k _
        rw [hfound]
      · exact ⟨w.clients, w.issued, congrArg Prod.fst hfound⟩
      · rw [hfound]
        exact iff_of_true rfl ⟨old, hold, hdrift⟩
      · intro _
        rw [hfound]
    | true =>
      have hupdated : s.registerOrFetchClient w i = ({ w with
              clients := w.clients.insert i.clientKey
                { old with rep := mergeDesired old.rep i.rep } }, old.secret, [i.clientKey]) := by
        rw [registerOrFetchClient, hold]
        simp only [hdrift, if_true]
      constructor
      · rw [hupdated]
        refine ⟨_, lookup_insert _, clientRepDrifted_mergeDesired _ _, rfl, fun _ h => ?_⟩
        rw [Option.some.inj (hold.symm.trans h)]
      · intro k hk
        rw [hupdated]
        exact lookup_insert_ne hk
      · exact ⟨_, _, congrArg Prod.fst hupdated⟩
      · rw [hupdated, hold]
        refine iff_of_false (cons_ne_nil _ _) fun ⟨client, h, hfine⟩ => ?_
        rw [← Option.some.inj h, hdrift] at hfine
        cases hfine
      · rw [hupdated]
        exact fun h => by cases h

variable {key : WorkloadKey}

/-- A Secret that belongs to another workload is left alone: only the client is registered. -/
theorem register_of_not_free {w : World} {i : Identity} (h : ¬ w.Free key i.secretKey) :
    (s.register w key i).1 = (s.registerOrFetchClient w i).1 := by
  obtain ⟨clients, issued, hrest⟩ := (fetched s w i).rest
  rw [World.Free] at h
  push Not at h
  obtain ⟨sec, hsec, hother, hnotOwn⟩ := h
  have hblocked : ensureClientCredentialsSecret (s.registerOrFetchClient w i).1 key i.secretKey
      i.params.clientID (i.credSecret (s.registerOrFetchClient w i).2.1) = none := by
    rw [ensureClientCredentialsSecret, hrest]
    simp only [hsec, hother, hnotOwn, or_self, if_false]
  rw [register]
  simp only [hblocked]

theorem register_of_free {w : World} {i : Identity} (h : w.Free key i.secretKey) :
    ∃ sec, (s.register w key i).1 =
      patchTemplate (writeCredentials (s.registerOrFetchClient w i).1 key i.secretKey sec
        i.params.clientID (i.credSecret (s.registerOrFetchClient w i).2.1)) key
        i.secretKey.name := by
  obtain ⟨clients, issued, hrest⟩ := (fetched s w i).rest
  have hsecrets : (s.registerOrFetchClient w i).1.secrets = w.secrets := by rw [hrest]
  have hdone : ∃ sec, ensureClientCredentialsSecret (s.registerOrFetchClient w i).1 key i.secretKey
      i.params.clientID (i.credSecret (s.registerOrFetchClient w i).2.1) =
      some (writeCredentials (s.registerOrFetchClient w i).1 key i.secretKey sec
        i.params.clientID (i.credSecret (s.registerOrFetchClient w i).2.1)) := by
    rw [ensureClientCredentialsSecret, hsecrets]
    cases hsec : w.secrets.lookup i.secretKey with
    | none => exact ⟨{}, rfl⟩
    | some sec => exact ⟨sec, if_pos (h sec hsec)⟩
  obtain ⟨sec, hdone⟩ := hdone
  refine ⟨sec, ?_⟩
  rw [register]
  simp only [hdone]

@[simp] theorem register_snd (w : World) (key : WorkloadKey) (i : Identity) :
    (s.register w key i).2 = (s.registerOrFetchClient w i).2.2 := by
  rw [register]
  dsimp only
  split <;> rfl

end Setup

section PatchTemplate

variable (w : World) (key : WorkloadKey) (secretName : String)

theorem patchTemplate_eq : ∃ workloads, patchTemplate w key secretName = { w with workloads } := by
  rw [patchTemplate]
  split
  · exact ⟨w.workloads, rfl⟩
  · split
    · exact ⟨w.workloads, rfl⟩
    · exact ⟨_, rfl⟩

/-- The template with the annotation. -/
def Template.annotated (t : Template) : Template :=
  if valueOf t.annotations annotationKeycloakClientSecretName = secretName then t
  else
    { t with annotations := t.annotations.insert annotationKeycloakClientSecretName secretName }

theorem Template.valueOf_annotated (t : Template) :
    valueOf (t.annotated secretName).annotations annotationKeycloakClientSecretName =
      secretName := by
  rw [annotated]
  split
  · assumption
  · rw [valueOf, lookup_insert, Option.getD_some]

theorem lookup_patchTemplate (key' : WorkloadKey) :
    (patchTemplate w key secretName).workloads.lookup key' =
      if key' = key then (w.workloads.lookup key).map (Template.annotated secretName)
      else w.workloads.lookup key' := by
  rw [patchTemplate]
  by_cases hkey : key' = key
  · subst hkey
    rw [if_pos rfl]
    cases ht : w.workloads.lookup key' with
    | none => exact ht
    | some t =>
      rw [Option.map_some, Template.annotated]
      dsimp only
      split
      · exact ht
      · exact lookup_insert _
  · rw [if_neg hkey]
    split
    · rfl
    · split
      · rfl
      · exact lookup_insert_ne hkey

end PatchTemplate

/-! ### What no request changes -/

/-- What decides about the registration of a workload. -/
def Template.essence (t : Template) : Option StringMap × String := (t.labels, t.serviceAccountName)

/-- **The frame of all requests**: gates, configurations, and templates but for annotations. -/
structure World.Onward (w w' : World) : Prop where
  gates : w'.gates = w.gates
  configs : w'.configs = w.configs
  templates : ∀ key, (w'.workloads.lookup key).map Template.essence =
    (w.workloads.lookup key).map Template.essence

theorem Template.essence_annotated (name : String) (t : Template) :
    (t.annotated name).essence = t.essence := by
  rw [annotated]
  split <;> rfl

namespace World.Onward

variable {w w' w'' : World}

theorem refl (w : World) : w.Onward w := ⟨rfl, rfl, fun _ => rfl⟩

theorem trans (h : w.Onward w') (h' : w'.Onward w'') : w.Onward w'' :=
  ⟨h'.gates.trans h.gates, h'.configs.trans h.configs,
    fun key => (h'.templates key).trans (h.templates key)⟩

theorem resolveRequest_eq (h : w.Onward w') (req : NamespacedName) :
    resolveRequest w' req = resolveRequest w req := by
  have hsome (key : WorkloadKey) :
      (w'.workloads.lookup key).isSome = (w.workloads.lookup key).isSome := by
    have htemplates := congrArg Option.isSome (h.templates key)
    rwa [Option.isSome_map, Option.isSome_map] at htemplates
  simp only [resolveRequest, hsome]

theorem eligible_iff (h : w.Onward w') (key : WorkloadKey) : w'.Eligible key ↔ w.Eligible key := by
  have htemplates := h.templates key
  rw [World.Eligible, World.Eligible, h.gates]
  cases ht : w.workloads.lookup key <;> cases ht' : w'.workloads.lookup key <;>
    rw [ht, ht'] at htemplates
  case some.some t t' =>
    have hlabels : t'.labels = t.labels := congrArg Prod.fst (Option.some.inj htemplates)
    simp [hlabels]
  all_goals simp at htemplates ⊢

theorem identity_eq (h : w.Onward w') (s : Setup) (key : WorkloadKey) :
    s.identity w' key = s.identity w key := by
  have htemplates := h.templates key
  rw [Setup.identity, Setup.identity, h.gates]
  cases ht : w.workloads.lookup key <;> cases ht' : w'.workloads.lookup key <;>
    rw [ht, ht'] at htemplates
  case some.some t t' =>
    have hessence := Option.some.inj htemplates
    have hlabels : t'.labels = t.labels := congrArg Prod.fst hessence
    have haccount : t'.serviceAccountName = t.serviceAccountName := congrArg Prod.snd hessence
    have hconfig :
        readAuthbridgeConfigMap w' key.name.ns = readAuthbridgeConfigMap w key.name.ns := by
      rw [readAuthbridgeConfigMap, readAuthbridgeConfigMap, h.configs]
    have hof : s.identityOf w' key t' = s.identityOf w key t := by
      rw [Setup.identityOf, Setup.identityOf, hconfig, haccount]
    simp only [Option.bind_some, hlabels, hof]
  case none.none => rfl
  all_goals simp at htemplates

end World.Onward

theorem resolveRequest_name {w : World} {req : NamespacedName}
    (h : resolveRequest w req = some key) : key.name = req := by
  have hmem := mem_of_find?_eq_some h
  simp only [mem_cons, not_mem_nil, or_false] at hmem
  obtain rfl | rfl | rfl := hmem <;> rfl

namespace Setup

variable {s : Setup} {w : World} {key key' : WorkloadKey} {i i' : Identity}

theorem eligible_of_identity (h : s.identity w key = some i) :
    w.Eligible key ∧ ∃ t, w.workloads.lookup key = some t ∧ s.identityOf w key t = some i := by
  rw [identity] at h
  split at h
  · rename_i hgates
    obtain ⟨t, ht, h⟩ := Option.bind_eq_some_iff.mp h
    split at h
    · rename_i hreason
      exact ⟨⟨hgates.1, hgates.2, t, ht, hreason⟩, t, ht, h⟩
    · cases h
  · cases h

/-- A request does nothing, or it registers the workload that it stands for. -/
theorem reconcile_cases (s : Setup) (w : World) (req : NamespacedName) :
    (s.reconcile w req = (w, []) ∧
        ∀ key, resolveRequest w req = some key → s.identity w key = none) ∨
      ∃ key i, resolveRequest w req = some key ∧ s.identity w key = some i ∧
        s.reconcile w req = s.register w key i := by
  by_cases hgates : w.gates.globalOn = true ∧ w.gates.clientReg = true
  · have hon : (!w.gates.globalOn || !w.gates.clientReg) = false := by simp [hgates]
    rw [reconcile, hon, if_neg Bool.false_ne_true]
    cases hkey : resolveRequest w req with
    | none => exact .inl ⟨rfl, fun _ h => by cases h⟩
    | some key =>
      have hidentity : s.identity w key = (w.workloads.lookup key).bind fun t =>
          if skipReason t.labels w.gates.injectTools = "" then s.identityOf w key t else none :=
        if_pos hgates
      dsimp only
      cases ht : w.workloads.lookup key with
      | none =>
        refine .inl ⟨rfl, fun key' h => ?_⟩
        rw [← Option.some.inj h, hidentity, ht, Option.bind_none]
      | some t =>
        rw [ht, Option.bind_some] at hidentity
        dsimp only
        rw [reconcileOne]
        by_cases hreason : skipReason t.labels w.gates.injectTools = ""
        · rw [if_pos hreason] at hidentity
          rw [if_neg (not_not.mpr hreason), ← hidentity]
          cases hi : s.identity w key with
          | none =>
            refine .inl ⟨rfl, fun key' h => ?_⟩
            rw [← Option.some.inj h, hi]
          | some i => exact .inr ⟨key, i, rfl, hi, rfl⟩
        · rw [if_pos hreason]
          refine .inl ⟨rfl, fun key' h => ?_⟩
          rw [← Option.some.inj h, hidentity, if_neg hreason]
  · have hoff : (!w.gates.globalOn || !w.gates.clientReg) = true := by
      rcases hglobal : w.gates.globalOn <;> rcases hclient : w.gates.clientReg <;>
        simp_all
    rw [reconcile, hoff, if_pos rfl]
    exact .inl ⟨rfl, fun key _ => if_neg hgates⟩

/-! ### One registration -/

/-- What a registration leaves alone. -/
theorem register_frame (s : Setup) (w : World) (key : WorkloadKey) (i : Identity) :
    (s.register w key i).1.gates = w.gates ∧ (s.register w key i).1.configs = w.configs ∧
      (s.register w key i).1.clients = (s.registerOrFetchClient w i).1.clients := by
  obtain ⟨clients, issued, hrest⟩ := (fetched s w i).rest
  by_cases hfree : w.Free key i.secretKey
  · obtain ⟨sec, hregister⟩ := register_of_free (s := s) hfree
    obtain ⟨workloads, hpatch⟩ := patchTemplate_eq (writeCredentials (s.registerOrFetchClient w i).1
      key i.secretKey sec i.params.clientID (i.credSecret (s.registerOrFetchClient w i).2.1)) key
      i.secretKey.name
    rw [hregister, hpatch, hrest]
    exact ⟨rfl, rfl, rfl⟩
  · rw [register_of_not_free hfree, hrest]
    exact ⟨rfl, rfl, rfl⟩

theorem lookup_workloads_register (s : Setup) (w : World) (key key' : WorkloadKey) (i : Identity) :
    (s.register w key i).1.workloads.lookup key' = w.workloads.lookup key' ∨
      key' = key ∧ (s.register w key i).1.workloads.lookup key' =
        (w.workloads.lookup key).map (Template.annotated i.secretKey.name) := by
  obtain ⟨clients, issued, hrest⟩ := (fetched s w i).rest
  by_cases hfree : w.Free key i.secretKey
  · obtain ⟨sec, hregister⟩ := register_of_free (s := s) hfree
    rw [hregister, lookup_patchTemplate, writeCredentials, hrest]
    by_cases hkey : key' = key
    · exact .inr ⟨hkey, if_pos hkey⟩
    · exact .inl (if_neg hkey)
  · rw [register_of_not_free hfree, hrest]
    exact .inl rfl

theorem lookup_secrets_register (h : w.Free key i.secretKey) (k : NamespacedName) :
    ∃ data : StringMap, (s.register w key i).1.secrets.lookup k =
        (if k = i.secretKey then some ⟨some (ownerOf key), data⟩ else w.secrets.lookup k) ∧
      data.lookup "client-id.txt" = some i.params.clientID ∧
      data.lookup "client-secret.txt" = some (i.credSecret (s.registerOrFetchClient w i).2.1) := by
  obtain ⟨clients, issued, hrest⟩ := (fetched s w i).rest
  obtain ⟨sec, hregister⟩ := register_of_free (s := s) h
  obtain ⟨workloads, hpatch⟩ := patchTemplate_eq (writeCredentials (s.registerOrFetchClient w i).1
    key i.secretKey sec i.params.clientID (i.credSecret (s.registerOrFetchClient w i).2.1)) key
    i.secretKey.name
  refine ⟨(sec.data.insert "client-secret.txt" (i.credSecret
    (s.registerOrFetchClient w i).2.1)).insert "client-id.txt" i.params.clientID, ?_, ?_, ?_⟩
  · rw [hregister, hpatch]
    dsimp only [writeCredentials]
    rw [GoMap.lookup_insert_ite, hrest]
  · exact lookup_insert _
  · rw [lookup_insert_ne (by decide), lookup_insert]

theorem onward_reconcile (s : Setup) (w : World) (req : NamespacedName) :
    w.Onward (s.reconcile w req).1 := by
  obtain ⟨h, -⟩ | ⟨key, i, -, -, h⟩ := reconcile_cases s w req
  · rw [h]
    exact .refl w
  · rw [h]
    obtain ⟨hgates, hconfigs, -⟩ := register_frame s w key i
    refine ⟨hgates, hconfigs, fun key' => ?_⟩
    obtain hsame | ⟨rfl, hpatched⟩ := lookup_workloads_register s w key key' i
    · rw [hsame]
    · rw [hpatched, Option.map_map]
      exact congrArg (Option.map · _) (funext (Template.essence_annotated _))

theorem client_reconcile (s : Setup) (w : World) (req : NamespacedName) {k : ClientKey}
    {client : Client} (h : w.clients.lookup k = some client) :
    ∃ client', (s.reconcile w req).1.clients.lookup k = some client' ∧
      client'.secret = client.secret := by
  obtain ⟨hsame, -⟩ | ⟨key, i, -, -, hregister⟩ := reconcile_cases s w req
  · rw [hsame]
    exact ⟨client, h, rfl⟩
  · rw [hregister, (register_frame s w key i).2.2]
    by_cases hk : k = i.clientKey
    · subst hk
      obtain ⟨client', hclient', -, -, hold⟩ := (fetched s w i).client
      exact ⟨client', hclient', hold client h⟩
    · exact ⟨client, ((fetched s w i).others k hk).trans h, rfl⟩

end Setup

end Rossoctl.Keycloak
