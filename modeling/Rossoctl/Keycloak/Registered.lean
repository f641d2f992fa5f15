import Rossoctl.Keycloak.Request

/-!
# Which workloads get a registration

The controller of `Rossoctl.Keycloak.Registration` serves one request after the other. A
request is a name, though, and up to three workloads have it. Only the first of them is ever
looked at, and it can only write a Secret that nothing else controls. Then there are the clients:
with SPIRE, workloads with one ServiceAccount have one client, which bears the name of the
workload that was served last.

`Rossoctl.Keycloak.registrations_iff` says that these are the only obstacles. The two parts of it
are independent of each other. A workload that is served, or is registered, remains so with every
request (`Rossoctl.Keycloak.Setup.served_reconcile` and
`Rossoctl.Keycloak.Setup.registered_reconcile`), and no other becomes registered. The clients come
to rest if no two workloads that are served want different things of one client.
-/

namespace Rossoctl.Keycloak

open Kube Webhook List Option

open Rossoctl.Runtime (WorkloadKind WorkloadKey)

/-! ### What is to be shown -/

/-- Requests for all workloads that are to be registered, and perhaps more. -/
def World.Covers (w : World) (requests : List NamespacedName) : Prop :=
  ∀ key, w.Eligible key → key.name ∈ requests

namespace Setup

variable (s : Setup)

/-- **A workload has its registration**: its template names its Secret, which it controls and
which holds the id and the secret of its client – the empty text for an agent that signs its own
assertions, which has no use for the secret. -/
def Registered (w : World) (key : WorkloadKey) : Prop :=
  ∃ i t sec client, s.identity w key = some i ∧ w.workloads.lookup key = some t ∧
    valueOf t.annotations annotationKeycloakClientSecretName = i.secretKey.name ∧
    w.secrets.lookup i.secretKey = some sec ∧ sec.controller = some (ownerOf key) ∧
    w.clients.lookup i.clientKey = some client ∧
    sec.data.lookup "client-id.txt" = some i.params.clientID ∧
    sec.data.lookup "client-secret.txt" =
      some (if i.params.clientAuthType = federatedJWT then "" else client.secret)

/-- **A workload is served**: requests with its name stand for it, and its Secret is free. -/
def Served (w : World) (key : WorkloadKey) : Prop :=
  resolveRequest w key.name = some key ∧ ∀ i, s.identity w key = some i → w.Free key i.secretKey

/-- **No two share a client.** Without SPIRE the name decides. With it, workloads of one
namespace that requests stand for have ServiceAccounts of their own. -/
def Separate (w : World) : Prop :=
  s.spireTrustDomain ≠ "" → ∀ key key' t t', w.Eligible key → w.Eligible key' →
    resolveRequest w key.name = some key → resolveRequest w key'.name = some key' →
    w.workloads.lookup key = some t → w.workloads.lookup key' = some t' →
    key.name.ns = key'.name.ns →
    trimSpace t.serviceAccountName = trimSpace t'.serviceAccountName → key.name = key'.name

/-- **What is taken for granted** of the cluster and of Keycloak. -/
structure Ready (w : World) : Prop where
  /-- Namespaces have the names they can have. -/
  valid : ∀ key, w.Eligible key → validName key.name.ns = true
  /-- Every namespace says where Keycloak is, and client ids can be made. -/
  resolvable : ∀ key, w.Eligible key → (s.identity w key).isSome
  /-- The digests of workloads in one namespace are different. -/
  digests : ∀ key key', w.Eligible key → w.Eligible key' → key.name.ns = key'.name.ns →
    s.secretName key.name.ns key.name.name = s.secretName key'.name.ns key'.name.name →
    key.name = key'.name
  /-- The client of a workload that has its Secret is not deleted behind its back, at least if
  there is no request that stands for the workload. -/
  kept : ∀ key i sec, resolveRequest w key.name ≠ some key → s.identity w key = some i →
    w.secrets.lookup i.secretKey = some sec → sec.controller = some (ownerOf key) →
    (w.clients.lookup i.clientKey).isSome

/-- The world after some requests. -/
def after (w : World) (requests : List NamespacedName) : World :=
  requests.foldl (fun w req => (s.reconcile w req).1) w

theorem run_step (w : World) (requests : List NamespacedName) :
    run s.step w requests = some (s.after w requests) := by
  induction requests generalizing w with
  | nil => rfl
  | cons req requests ih => exact ih _

end Setup

namespace Setup

variable {s : Setup} {w : World} {key key' : WorkloadKey} {i i' : Identity}

/-! ### Requests and registrations -/

/-- A workload that is registered with a free Secret has its registration. -/
theorem registered_register (hi : s.identity w key = some i) (hfree : w.Free key i.secretKey)
    (hreconcile : w.Onward (s.register w key i).1) : s.Registered (s.register w key i).1 key := by
  obtain ⟨-, t, ht, -⟩ := eligible_of_identity hi
  obtain ⟨client, hclient, -, hsecret, -⟩ := (fetched s w i).client
  obtain ⟨data, hsec, hid, hvalue⟩ := lookup_secrets_register (s := s) hfree i.secretKey
  rw [if_pos rfl] at hsec
  have htemplate : (s.register w key i).1.workloads.lookup key =
      some (t.annotated i.secretKey.name) := by
    obtain ⟨sec, hregister⟩ := register_of_free (s := s) hfree
    obtain ⟨clients, issued, hrest⟩ := (fetched s w i).rest
    rw [hregister, lookup_patchTemplate, if_pos rfl, writeCredentials, hrest, ht, map_some]
  refine ⟨i, _, _, client, (hreconcile.identity_eq s key).trans hi, htemplate,
    t.valueOf_annotated _, hsec, rfl, ?_, hid, ?_⟩
  · rw [(register_frame s w key i).2.2]
    exact hclient
  · rw [hsecret]
    exact hvalue

theorem secretKey_of_identity (h : s.identity w key = some i) :
    i.secretKey = ⟨key.name.ns, s.secretName key.name.ns key.name.name⟩ := by
  obtain ⟨-, t, -, h⟩ := eligible_of_identity h
  rw [identityOf] at h
  split at h
  · cases h
  · split at h
    · cases h
    · rw [← some.inj h]

theorem Ready.name_eq (hready : s.Ready w) (hi : s.identity w key = some i)
    (hi' : s.identity w key' = some i') (h : i.secretKey = i'.secretKey) :
    key.name = key'.name := by
  rw [secretKey_of_identity hi, secretKey_of_identity hi', NamespacedName.mk.injEq] at h
  exact hready.digests key key' (eligible_of_identity hi).1 (eligible_of_identity hi').1 h.1 h.2

theorem ownerOf_ne (hname : key.name = key'.name) (hne : key ≠ key') :
    ownerOf key ≠ ownerOf key' := by
  intro h
  obtain ⟨kind, name⟩ := key
  obtain ⟨kind', name'⟩ := key'
  obtain rfl : name = name' := hname
  obtain rfl : kind = kind' := (Owner.workload.inj h).1
  exact hne rfl

/-- A request for another workload leaves a Secret alone that a workload controls, and does not
make it control one. -/
theorem own_secret_register (hready : s.Ready w) (hi : s.identity w key = some i)
    (hi' : s.identity w key' = some i') (hne : key' ≠ key) {sec : CredentialsSecret}
    (hown : sec.controller = some (ownerOf key)) :
    (s.register w key' i').1.secrets.lookup i.secretKey = some sec ↔
      w.secrets.lookup i.secretKey = some sec := by
  by_cases hfree : w.Free key' i'.secretKey
  · obtain ⟨data, hsecrets, -⟩ := lookup_secrets_register (s := s) hfree i.secretKey
    rw [hsecrets]
    split
    · rename_i hsame
      -- The Secret is that of a workload of the same name and another kind.
      have howner := ownerOf_ne (hready.name_eq hi' hi hsame.symm) hne
      refine iff_of_false ?_ ?_
      · intro h
        rw [← some.inj h] at hown
        exact howner (some.inj hown)
      · intro h
        obtain hnone | hother := hfree sec (hsame ▸ h)
        · cases hown.symm.trans hnone
        · exact howner (some.inj (hother.symm.trans hown))
    · rfl
  · obtain ⟨clients, issued, hrest⟩ := (fetched s w i').rest
    rw [register_of_not_free hfree, hrest]

/-- A request for another workload leaves the Secret alone, if there are requests for this one. -/
theorem secret_register_of_ne (hready : s.Ready w) (hi : s.identity w key = some i)
    (hi' : s.identity w key' = some i') (hne : key' ≠ key)
    (hkey : resolveRequest w key.name = some key) (hkey' : resolveRequest w key'.name = some key') :
    (s.register w key' i').1.secrets.lookup i.secretKey = w.secrets.lookup i.secretKey := by
  have hsecret : i.secretKey ≠ i'.secretKey := by
    intro h
    rw [hready.name_eq hi hi' h, hkey'] at hkey
    exact hne (some.inj hkey)
  by_cases hfree : w.Free key' i'.secretKey
  · obtain ⟨data, hsecrets, -⟩ := lookup_secrets_register (s := s) hfree i.secretKey
    rw [hsecrets, if_neg hsecret]
  · obtain ⟨clients, issued, hrest⟩ := (fetched s w i').rest
    rw [register_of_not_free hfree, hrest]

theorem free_of_own {sec : CredentialsSecret} {k : NamespacedName}
    (hsec : w.secrets.lookup k = some sec) (hown : sec.controller = some (ownerOf key)) :
    w.Free key k := by
  intro sec' hsec'
  rw [some.inj (hsec'.symm.trans hsec)]
  exact .inr hown

/-- After its own request a Secret is as free for a workload as before. -/
theorem free_register_iff :
    (s.register w key i).1.Free key i.secretKey ↔ w.Free key i.secretKey := by
  by_cases hfree : w.Free key i.secretKey
  · obtain ⟨data, hsecrets, -⟩ := lookup_secrets_register (s := s) hfree i.secretKey
    rw [if_pos rfl] at hsecrets
    exact iff_of_true (free_of_own hsecrets rfl) hfree
  · obtain ⟨clients, issued, hrest⟩ := (fetched s w i).rest
    rw [register_of_not_free hfree, hrest]
    exact Iff.rfl

/-- **Who is served does not change.** -/
theorem served_reconcile (hready : s.Ready w) (req : NamespacedName) :
    s.Served (s.reconcile w req).1 key ↔ s.Served w key := by
  have hon := onward_reconcile s w req
  rw [Served, Served, hon.resolveRequest_eq, hon.identity_eq]
  refine and_congr_right fun hkey => forall₂_congr fun i hi => ?_
  obtain ⟨hsame, -⟩ | ⟨key', i', hkey', hi', hregister⟩ := reconcile_cases s w req
  · rw [hsame]
  · rw [hregister]
    by_cases hne : key' = key
    · subst hne
      cases hi'.symm.trans hi
      exact free_register_iff
    · rw [← resolveRequest_name hkey'] at hkey'
      rw [World.Free, World.Free, secret_register_of_ne hready hi hi' hne hkey hkey']

/-- **A registration stays.** -/
theorem registered_reconcile (hready : s.Ready w) (req : NamespacedName)
    (h : s.Registered w key) : s.Registered (s.reconcile w req).1 key := by
  have hon := onward_reconcile s w req
  obtain ⟨hsame, -⟩ | ⟨key', i', hkey', hi', hregister⟩ := reconcile_cases s w req
  · rwa [hsame]
  · obtain ⟨i, t, sec, client, hi, ht, hname, hsec, hown, hclient, hid, hsecret⟩ := h
    obtain ⟨client', hclient', hkept⟩ := client_reconcile s w req hclient
    rw [hregister] at hon hclient' ⊢
    by_cases hne : key' = key
    · subst hne
      cases hi'.symm.trans hi
      exact registered_register hi (free_of_own hsec hown) hon
    · have htemplate : (s.register w key' i').1.workloads.lookup key = some t := by
        obtain hsame | ⟨heq, -⟩ := lookup_workloads_register s w key' key i'
        · exact hsame.trans ht
        · exact absurd heq.symm hne
      exact ⟨i, t, sec, client', (hon.identity_eq s key).trans hi, htemplate, hname,
        (own_secret_register hready hi hi' hne hown).mpr hsec, hown, hclient', hid,
        hkept ▸ hsecret⟩

/-- **No other workload becomes registered.** -/
theorem registered_of_reconcile (hready : s.Ready w) (req : NamespacedName)
    (hserved : ¬ s.Served w key) (h : s.Registered (s.reconcile w req).1 key) :
    s.Registered w key := by
  have hon := onward_reconcile s w req
  obtain ⟨hsame, -⟩ | ⟨key', i', hkey', hi', hregister⟩ := reconcile_cases s w req
  · rwa [hsame] at h
  · obtain ⟨i, t, sec, client, hi, ht, hname, hsec, hown, hclient, hid, hsecret⟩ := h
    rw [hon.identity_eq] at hi
    have hfree : ¬ (resolveRequest w key.name = some key ∧ w.Free key i.secretKey) := by
      rintro ⟨hkey, hfree⟩
      refine hserved ⟨hkey, fun i' hi' => ?_⟩
      rwa [some.inj (hi'.symm.trans hi)]
    have hne : key' ≠ key := by
      rintro rfl
      cases hi'.symm.trans hi
      rw [← resolveRequest_name hkey'] at hkey'
      rw [hregister] at hsec
      exact hfree ⟨hkey', free_register_iff.mp (free_of_own hsec hown)⟩
    have hsec' : w.secrets.lookup i.secretKey = some sec := by
      rw [hregister] at hsec
      exact (own_secret_register hready hi hi' hne hown).mp hsec
    have hkey : resolveRequest w key.name ≠ some key := fun hkey =>
      hfree ⟨hkey, free_of_own hsec' hown⟩
    obtain ⟨old, hold⟩ := isSome_iff_exists.mp (hready.kept key i sec hkey hi hsec' hown)
    obtain ⟨client', hclient', hkept⟩ := client_reconcile s w req hold
    cases hclient'.symm.trans hclient
    have htemplate : w.workloads.lookup key = some t := by
      rw [hregister] at ht
      obtain hsame | ⟨heq, -⟩ := lookup_workloads_register s w key' key i'
      · exact hsame.symm.trans ht
      · exact absurd heq.symm hne
    exact ⟨i, t, sec, old, hi, htemplate, hname, hsec', hown, hold, hid, hkept ▸ hsecret⟩

theorem Ready.reconcile (hready : s.Ready w) (req : NamespacedName) :
    s.Ready (s.reconcile w req).1 := by
  have hon := onward_reconcile s w req
  refine ⟨fun key hkey => ?_, fun key hkey => ?_, fun key key' hkey hkey' => ?_,
    fun key i sec hkey hi hsec hown => ?_⟩
  · exact hready.valid key ((hon.eligible_iff key).mp hkey)
  · rw [hon.identity_eq]
    exact hready.resolvable key ((hon.eligible_iff key).mp hkey)
  · exact hready.digests key key' ((hon.eligible_iff key).mp hkey)
      ((hon.eligible_iff key').mp hkey')
  · rw [hon.resolveRequest_eq] at hkey
    rw [hon.identity_eq] at hi
    have hsec' : w.secrets.lookup i.secretKey = some sec := by
      obtain ⟨hsame, -⟩ | ⟨key', i', hkey', hi', hregister⟩ := reconcile_cases s w req
      · rwa [hsame] at hsec
      · rw [hregister] at hsec
        refine (own_secret_register hready hi hi' ?_ hown).mp hsec
        rintro rfl
        exact hkey (resolveRequest_name hkey' ▸ hkey')
    obtain ⟨old, hold⟩ := isSome_iff_exists.mp (hready.kept key i sec hkey hi hsec' hown)
    obtain ⟨client, hclient, -⟩ := client_reconcile s w req hold
    rw [hclient, isSome_some]

/-! ### Rounds of requests -/

theorem ready_after (hready : s.Ready w) (requests : List NamespacedName) :
    s.Ready (s.after w requests) := by
  refine run_invariant_unguarded (fun w req w' h hstep => ?_) hready (run_step s w requests)
  rw [← some.inj hstep]
  exact h.reconcile req

theorem onward_after (s : Setup) (w : World) (requests : List NamespacedName) :
    w.Onward (s.after w requests) := by
  refine run_invariant_unguarded (I := w.Onward) (fun w₁ req w₂ h hstep => ?_) (.refl w)
    (run_step s w requests)
  rw [← some.inj hstep]
  exact h.trans (onward_reconcile s w₁ req)

theorem after_append (s : Setup) (w : World) (requests requests' : List NamespacedName) :
    s.after w (requests ++ requests') = s.after (s.after w requests) requests' :=
  foldl_append

theorem served_or_registered_after (hready : s.Ready w) (requests : List NamespacedName) :
    s.Served (s.after w requests) key ∨ s.Registered (s.after w requests) key ↔
      s.Served w key ∨ s.Registered w key := by
  induction requests generalizing w with
  | nil => rfl
  | cons req requests ih =>
    rw [after, foldl_cons, ← after, ih (hready.reconcile req), served_reconcile hready]
    by_cases hserved : s.Served w key
    · exact iff_of_true (.inl hserved) (.inl hserved)
    · refine or_congr_right ⟨?_, ?_⟩
      · exact registered_of_reconcile hready req hserved
      · exact registered_reconcile hready req

variable {requests : List NamespacedName}

/-- **A workload is registered after its request** if it is served or has been registered. -/
theorem registered_after_iff (hready : s.Ready w) (hkey : w.Eligible key)
    (hmem : key.name ∈ requests) :
    s.Registered (s.after w requests) key ↔ s.Served w key ∨ s.Registered w key := by
  refine ⟨fun h => (served_or_registered_after hready requests).mp (.inr h), fun h => ?_⟩
  obtain ⟨before, rest, rfl⟩ := append_of_mem hmem
  rw [after_append]
  have hready' := ready_after hready before
  have hkey' := ((onward_after s w before).eligible_iff key).mpr hkey
  have hthen := (served_or_registered_after hready before).mpr h
  generalize s.after w before = w' at *
  have hdone : s.Registered (s.reconcile w' key.name).1 key := by
    obtain hserved | hregistered := hthen
    · obtain ⟨i, hi⟩ := isSome_iff_exists.mp (hready'.resolvable key hkey')
      have hon := onward_reconcile s w' key.name
      obtain ⟨-, hnone⟩ | ⟨key', i', hkey', hi', hregister⟩ := reconcile_cases s w' key.name
      · cases hi.symm.trans (hnone key hserved.1)
      · cases hkey'.symm.trans hserved.1
        rw [hregister] at hon ⊢
        exact registered_register hi' (hserved.2 i' hi') hon
    · exact registered_reconcile hready' _ hregistered
  refine (run_invariant_unguarded (I := fun w => s.Ready w ∧ s.Registered w key)
    (fun w₁ req w₂ h hstep => ?_) ⟨hready'.reconcile _, hdone⟩ (run_step s _ rest)).2
  rw [← some.inj hstep]
  exact ⟨h.1.reconcile req, registered_reconcile h.1 req h.2⟩

/-! ### Clients of different workloads -/

theorem identity_spec (h : s.identity w key = some i) : ∃ t, w.workloads.lookup key = some t ∧
      resolveKeycloakClientID key.name.ns key.name.name t.serviceAccountName
        (s.spireTrustDomain != "") s.spireTrustDomain = .ok i.params.clientID ∧
      i.params.clientName = key.name.ns ++ "/" ++ key.name.name ∧
      i.baseURL = (readAuthbridgeConfigMap w key.name.ns).keycloakURL ∧
      i.params.realm = (readAuthbridgeConfigMap w key.name.ns).keycloakRealm := by
  obtain ⟨-, t, ht, h⟩ := eligible_of_identity h
  rw [identityOf] at h
  split at h
  · cases h
  · split at h
    · cases h
    · rename_i clientID hid
      rw [← some.inj h]
      exact ⟨t, ht, hid, rfl, rfl, rfl⟩

theorem name_eq_of_rep_name (hready : s.Ready w) (hi : s.identity w key = some i)
    (hi' : s.identity w key' = some i') (h : i.rep.name = i'.rep.name) : key.name = key'.name := by
  obtain ⟨-, -, -, hname, -⟩ := identity_spec hi
  obtain ⟨-, -, -, hname', -⟩ := identity_spec hi'
  have heq : i.params.clientName = i'.params.clientName := h
  rw [hname, hname'] at heq
  have hchars := congrArg String.toList heq
  simp only [String.toList_append, append_assoc] at hchars
  obtain ⟨hns, hrest⟩ := Kube.append_cons_inj
    (slash_not_mem (hready.valid key (eligible_of_identity hi).1))
    (slash_not_mem (hready.valid key' (eligible_of_identity hi').1)) hchars
  obtain ⟨kind, ns, name⟩ := key
  obtain ⟨kind', ns', name'⟩ := key'
  obtain rfl : ns = ns' := String.toList_inj.mp hns
  obtain rfl : name = name' := String.toList_inj.mp hrest
  rfl

theorem clientID_of_spire (hspire : s.spireTrustDomain ≠ "") {ns name account clientID : String}
    (h : resolveKeycloakClientID ns name account (s.spireTrustDomain != "") s.spireTrustDomain =
      .ok clientID) :
    trimSpace account ≠ "" ∧ clientID =
        "spiffe://" ++ s.spireTrustDomain ++ "/ns/" ++ ns ++ "/sa/" ++ trimSpace account := by
  have hon : (s.spireTrustDomain != "") = true := bne_iff_ne.mpr hspire
  rw [resolveKeycloakClientID, hon] at h
  by_cases hempty : trimSpace account = ""
  · rw [if_pos hempty] at h
    cases h
  · rw [if_neg hempty] at h
    refine ⟨hempty, ?_⟩
    rw [Bool.not_true, if_neg Bool.false_ne_true, if_neg hspire] at h
    split at h
    · cases h
    · exact (Except.ok.inj h).symm

theorem clientID_of_no_spire (hspire : s.spireTrustDomain = "") {ns name account clientID : String}
    (h : resolveKeycloakClientID ns name account (s.spireTrustDomain != "") s.spireTrustDomain =
      .ok clientID) : clientID = ns ++ "/" ++ name := by
  rw [hspire] at h
  exact (Except.ok.inj h).symm

theorem ns_eq_of_clientID (hready : s.Ready w) (hi : s.identity w key = some i)
    (hi' : s.identity w key' = some i') (h : i.params.clientID = i'.params.clientID) :
    key.name.ns = key'.name.ns := by
  have hslash := slash_not_mem (hready.valid key (eligible_of_identity hi).1)
  have hslash' := slash_not_mem (hready.valid key' (eligible_of_identity hi').1)
  obtain ⟨t, -, hid, -⟩ := identity_spec hi
  obtain ⟨t', -, hid', -⟩ := identity_spec hi'
  by_cases hspire : s.spireTrustDomain = ""
  · rw [clientID_of_no_spire hspire hid, clientID_of_no_spire hspire hid'] at h
    have hchars := congrArg String.toList h
    simp only [String.toList_append, append_assoc] at hchars
    exact String.toList_inj.mp (Kube.append_cons_inj hslash hslash' hchars).1
  · rw [(clientID_of_spire hspire hid).2, (clientID_of_spire hspire hid').2] at h
    have hchars := congrArg String.toList h
    simp only [String.toList_append, append_assoc, append_cancel_left_eq] at hchars
    exact String.toList_inj.mp (Kube.append_cons_inj hslash hslash' hchars).1

/-- **Separate workloads have separate clients.** -/
theorem Separate.name_eq (hsep : s.Separate w) (hready : s.Ready w)
    (hi : s.identity w key = some i) (hi' : s.identity w key' = some i')
    (hkey : resolveRequest w key.name = some key)
    (hkey' : resolveRequest w key'.name = some key') (h : i.clientKey = i'.clientKey) :
    key.name = key'.name := by
  have hid : i.params.clientID = i'.params.clientID := congrArg ClientKey.clientID h
  have hns := ns_eq_of_clientID hready hi hi' hid
  obtain ⟨t, ht, hclient, hname, -⟩ := identity_spec hi
  obtain ⟨t', ht', hclient', hname', -⟩ := identity_spec hi'
  by_cases hspire : s.spireTrustDomain = ""
  · rw [clientID_of_no_spire hspire hclient, clientID_of_no_spire hspire hclient', ← hname,
      ← hname'] at hid
    exact name_eq_of_rep_name hready hi hi' hid
  · rw [(clientID_of_spire hspire hclient).2, (clientID_of_spire hspire hclient').2, hns] at hid
    exact hsep hspire key key' t t' (eligible_of_identity hi).1 (eligible_of_identity hi').1 hkey
      hkey' ht ht' hns (String.append_right_inj _ |>.mp hid)

theorem clientKey_eq_of_account (hspire : s.spireTrustDomain ≠ "")
    (hi : s.identity w key = some i) (hi' : s.identity w key' = some i') {t t' : Template}
    (ht : w.workloads.lookup key = some t) (ht' : w.workloads.lookup key' = some t')
    (hns : key.name.ns = key'.name.ns)
    (haccount : trimSpace t.serviceAccountName = trimSpace t'.serviceAccountName) :
    i.clientKey = i'.clientKey := by
  obtain ⟨t₁, ht₁, hclient, -, hurl, hrealm⟩ := identity_spec hi
  obtain ⟨t₂, ht₂, hclient', -, hurl', hrealm'⟩ := identity_spec hi'
  cases ht₁.symm.trans ht
  cases ht₂.symm.trans ht'
  rw [Identity.clientKey, Identity.clientKey, hurl, hurl', hrealm, hrealm', hns,
    (clientID_of_spire hspire hclient).2, (clientID_of_spire hspire hclient').2, hns, haccount]

/-- **The client of a workload is at rest**: it is what the workload asks for. -/
def Settled (s : Setup) (w : World) (key : WorkloadKey) : Prop :=
  ∀ i, s.identity w key = some i → ∃ client, w.clients.lookup i.clientKey = some client ∧
    clientRepDrifted client.rep i.rep = false

theorem settled_congr {w' : World} (hon : w.Onward w') (hclients : w'.clients = w.clients) :
    s.Settled w' key ↔ s.Settled w key := by
  rw [Settled, Settled, hon.identity_eq, hclients]

/-- A request writes nothing just if the client of its workload is at rest. -/
theorem written_eq_nil_iff (w : World) (req : NamespacedName) :
    s.written w req = [] ↔ ∀ key, resolveRequest w req = some key → s.Settled w key := by
  rw [written]
  obtain ⟨hsame, hnone⟩ | ⟨key, i, hkey, hi, hregister⟩ := reconcile_cases s w req
  · rw [hsame]
    exact iff_of_true rfl fun key hkey i hi => by
      cases (hnone key hkey).symm.trans hi
  · rw [hregister, register_snd, (fetched s w i).quiet]
    constructor
    · intro h key' hkey' i' hi'
      cases hkey.symm.trans hkey'
      rwa [← some.inj (hi.symm.trans hi')]
    · exact fun h => h key hkey i hi

theorem clients_of_written_eq_nil {req : NamespacedName} (h : s.written w req = []) :
    (s.reconcile w req).1.clients = w.clients := by
  rw [written] at h
  obtain ⟨hsame, -⟩ | ⟨key, i, -, -, hregister⟩ := reconcile_cases s w req
  · rw [hsame]
  · rw [hregister, register_snd] at h
    rw [hregister, (register_frame s w key i).2.2, (fetched s w i).same h]

theorem settled_reconcile_self (hkey : resolveRequest w key.name = some key) :
    s.Settled (s.reconcile w key.name).1 key := by
  intro i hi
  rw [(onward_reconcile s w key.name).identity_eq] at hi
  obtain ⟨-, hnone⟩ | ⟨key', i', hkey', hi', hregister⟩ := reconcile_cases s w key.name
  · cases (hnone key hkey).symm.trans hi
  · obtain rfl : key' = key := some.inj (hkey'.symm.trans hkey)
    obtain rfl : i' = i := some.inj (hi'.symm.trans hi)
    obtain ⟨client, hclient, hfine, -⟩ := (fetched s w i').client
    rw [hregister, (register_frame s w key' i').2.2]
    exact ⟨client, hclient, hfine⟩

/-- Among separate workloads the requests of the others do not unsettle it. -/
theorem settled_reconcile (hready : s.Ready w) (hsep : s.Separate w) (req : NamespacedName)
    (hkey : resolveRequest w key.name = some key) (h : s.Settled w key) :
    s.Settled (s.reconcile w req).1 key := by
  obtain ⟨hsame, -⟩ | ⟨key', i', hkey', hi', hregister⟩ := reconcile_cases s w req
  · rwa [hsame]
  · obtain rfl := resolveRequest_name hkey'
    by_cases hne : key' = key
    · subst hne
      exact settled_reconcile_self hkey
    · intro i hi
      rw [(onward_reconcile s w key'.name).identity_eq] at hi
      obtain ⟨client, hclient, hfine⟩ := h i hi
      have hother : i.clientKey ≠ i'.clientKey := by
        intro hclientKey
        rw [hsep.name_eq hready hi hi' hkey hkey' hclientKey, hkey'] at hkey
        exact hne (some.inj hkey)
      rw [hregister, (register_frame s w key' i').2.2, (fetched s w i').others _ hother]
      exact ⟨client, hclient, hfine⟩

theorem separate_congr {w' : World} (hon : w.Onward w') (h : s.Separate w) : s.Separate w' := by
  intro hspire key key' t t' hkey hkey' hself hself' ht ht' hns haccount
  have hback {key : WorkloadKey} {t : Template} (ht : w'.workloads.lookup key = some t) :
      ∃ t₀, w.workloads.lookup key = some t₀ ∧ t₀.serviceAccountName = t.serviceAccountName := by
    have htemplates := hon.templates key
    rw [ht, map_some] at htemplates
    obtain ⟨t₀, ht₀, hessence⟩ := map_eq_some_iff.mp htemplates.symm
    exact ⟨t₀, ht₀, congrArg Prod.snd hessence⟩
  obtain ⟨t₀, ht₀, haccount₀⟩ := hback ht
  obtain ⟨t₀', ht₀', haccount₀'⟩ := hback ht'
  rw [hon.resolveRequest_eq] at hself hself'
  exact h hspire key key' t₀ t₀' ((hon.eligible_iff key).mp hkey) ((hon.eligible_iff key').mp hkey')
    hself hself' ht₀ ht₀' hns (by rw [haccount₀, haccount₀', haccount])

/-- After requests for all of them, separate workloads are settled. -/
theorem settled_after (hready : s.Ready w) (hsep : s.Separate w)
    (hkey : resolveRequest w key.name = some key) (hmem : key.name ∈ requests) :
    s.Settled (s.after w requests) key := by
  obtain ⟨before, rest, rfl⟩ := append_of_mem hmem
  rw [after_append]
  have hready' := ready_after hready before
  have hon := onward_after s w before
  have hsep' := separate_congr hon hsep
  rw [← hon.resolveRequest_eq] at hkey
  generalize s.after w before = w' at *
  have hon' := onward_reconcile s w' key.name
  refine (run_invariant_unguarded (I := fun w => s.Ready w ∧ s.Separate w ∧
    resolveRequest w key.name = some key ∧ s.Settled w key) (fun w₁ req w₂ h hstep => ?_)
    ⟨hready'.reconcile _, separate_congr hon' hsep', (hon'.resolveRequest_eq _).trans hkey,
      settled_reconcile_self hkey⟩ (run_step s _ rest)).2.2.2
  rw [← some.inj hstep]
  obtain ⟨hready₁, hsep₁, hkey₁, hsettled⟩ := h
  have hon₁ := onward_reconcile s w₁ req
  exact ⟨hready₁.reconcile req, separate_congr hon₁ hsep₁, (hon₁.resolveRequest_eq _).trans hkey₁,
    settled_reconcile hready₁ hsep₁ req hkey₁ hsettled⟩

/-- **A round writes nothing** just if all clients that it looks at are at rest. -/
theorem recorded_written_eq_nil_iff (w : World) (requests : List NamespacedName) :
    recorded s.step s.written w requests = [] ↔
      ∀ key, key.name ∈ requests → resolveRequest w key.name = some key → s.Settled w key := by
  induction requests generalizing w with
  | nil => exact iff_of_true rfl fun _ h => absurd h not_mem_nil
  | cons req requests ih =>
    have hcons : recorded s.step s.written w (req :: requests) =
        s.written w req ++ recorded s.step s.written (s.reconcile w req).1 requests := rfl
    have hon := onward_reconcile s w req
    rw [hcons, append_eq_nil_iff, written_eq_nil_iff, ih]
    constructor
    · rintro ⟨hreq, hrest⟩ key hmem hkey
      obtain rfl | hmem := mem_cons.mp hmem
      · exact hreq key hkey
      · have hclients := clients_of_written_eq_nil ((written_eq_nil_iff w req).mpr hreq)
        exact (settled_congr hon hclients).mp
          (hrest key hmem ((hon.resolveRequest_eq _).trans hkey))
    · intro h
      have hreq : ∀ key, resolveRequest w req = some key → s.Settled w key := by
        intro key hkey
        obtain rfl := resolveRequest_name hkey
        exact h key mem_cons_self hkey
      refine ⟨hreq, fun key hmem hkey => ?_⟩
      have hclients := clients_of_written_eq_nil ((written_eq_nil_iff w req).mpr hreq)
      rw [hon.resolveRequest_eq] at hkey
      exact (settled_congr hon hclients).mpr (h key (mem_cons_of_mem _ hmem) hkey)

/-- **The clients come to rest** just if no two workloads share one. -/
theorem quiet_iff (hready : s.Ready w) {requests' : List NamespacedName}
    (hcovers : w.Covers requests) (hcovers' : w.Covers requests') :
    recorded s.step s.written (s.after w requests) requests' = [] ↔ s.Separate w := by
  have hon := onward_after s w requests
  rw [recorded_written_eq_nil_iff]
  constructor
  · intro h hspire key key' t t' hkey hkey' hself hself' ht ht' hns haccount
    obtain ⟨i, hi⟩ := isSome_iff_exists.mp (hready.resolvable key hkey)
    obtain ⟨i', hi'⟩ := isSome_iff_exists.mp (hready.resolvable key' hkey')
    have hshared := clientKey_eq_of_account hspire hi hi' ht ht' hns haccount
    obtain ⟨client, hclient, hfine⟩ := h key (hcovers' key hkey)
      ((hon.resolveRequest_eq _).trans hself) i ((hon.identity_eq s key).trans hi)
    obtain ⟨client', hclient', hfine'⟩ := h key' (hcovers' key' hkey')
      ((hon.resolveRequest_eq _).trans hself') i' ((hon.identity_eq s key').trans hi')
    rw [hshared, hclient'] at hclient
    cases hclient
    -- One client has one name.
    exact name_eq_of_rep_name hready hi hi'
      ((name_of_not_drifted hfine).symm.trans (name_of_not_drifted hfine'))
  · intro hsep key hmem hkey i hi
    rw [hon.resolveRequest_eq] at hkey
    have heligible := (eligible_of_identity ((hon.identity_eq s key).symm.trans hi)).1
    exact settled_after hready hsep hkey (hcovers key heligible) i hi

end Setup

theorem World.Eligible.mem_entries {w : World} {key : WorkloadKey} (h : w.Eligible key) :
    ∃ t, ⟨key, t⟩ ∈ w.workloads.entries := by
  obtain ⟨-, -, t, ht, -⟩ := h
  exact ⟨t, GoMap.mem_entries_iff.mpr ht⟩

/-- Before there are any Secrets, the workloads can be looked at one by one. -/
theorem Setup.ready_of_entries {s : Setup} {w : World} (hnone : ∀ k, w.secrets.lookup k = none)
    (h : ∀ e ∈ w.workloads.entries, validName e.1.name.ns = true ∧ (s.identity w e.1).isSome ∧
      ∀ e' ∈ w.workloads.entries, s.secretName e.1.name.ns e.1.name.name =
        s.secretName e'.1.name.ns e'.1.name.name → e.1.name = e'.1.name) : s.Ready w := by
  refine ⟨fun key hkey => ?_, fun key hkey => ?_, fun key key' hkey hkey' _ hsecret => ?_,
    fun key i sec _ _ hsec => ?_⟩
  · obtain ⟨t, ht⟩ := hkey.mem_entries
    exact (h _ ht).1
  · obtain ⟨t, ht⟩ := hkey.mem_entries
    exact (h _ ht).2.1
  · obtain ⟨t, ht⟩ := hkey.mem_entries
    obtain ⟨t', ht'⟩ := hkey'.mem_entries
    exact (h _ ht).2.2 _ ht' hsecret
  · cases (hnone _).symm.trans hsec

theorem World.covers_of_entries {w : World} (h : ∀ e ∈ w.workloads.entries, e.1.name ∈ requests) :
    w.Covers requests := by
  intro key hkey
  obtain ⟨t, ht⟩ := hkey.mem_entries
  exact h _ ht

/-! ### The theorem -/

/-- **Who gets a registration, and when the clients come to rest.** After requests for all
workloads that are to be registered, each of them has its registration, and another round of
requests writes no client, just if at the beginning each was served – or registered already – and
no two of those that requests stand for share a ServiceAccount under SPIRE. -/
theorem registrations_iff {s : Setup} {w : World} (hready : s.Ready w)
    {requests requests' : List NamespacedName} (hcovers : w.Covers requests)
    (hcovers' : w.Covers requests') :
    ((∀ key, w.Eligible key → s.Registered (s.after w requests) key) ∧
        recorded s.step s.written (s.after w requests) requests' = []) ↔
      (∀ key, w.Eligible key → s.Served w key ∨ s.Registered w key) ∧ s.Separate w := by
  rw [Setup.quiet_iff hready hcovers hcovers']
  refine and_congr_left fun _ => forall₂_congr fun key hkey => ?_
  exact Setup.registered_after_iff hready hkey (hcovers key hkey)

/-- An operator with SPIRE; the digest of a text is the text, and all secrets are numbered. -/
def spireSetup : Setup where
  spireTrustDomain := "example.org"
  digest := id
  newSecret n := "secret-" ++ String.ofList (List.replicate n 'x')

/-- An agent with a ServiceAccount. -/
def agentTemplate (account : String) : Template where
  labels := some (AList.insert rossoctlTypeLabel rossoctlTypeAgent ∅)
  serviceAccountName := account

/-- Agents in one namespace, which says where Keycloak is. -/
def agents (workloads : GoMap WorkloadKey Template) : World where
  workloads := workloads
  configs := AList.insert "team"
    ((AList.insert "KEYCLOAK_URL" "http://keycloak:8080" ∅ : StringMap).insert "KEYCLOAK_REALM"
      "rossoctl") ∅

def weather : NamespacedName := ⟨"team", "weather"⟩

def billing : NamespacedName := ⟨"team", "billing"⟩

/-- A Deployment and a StatefulSet, with names and ServiceAccounts of their own. -/
def apart : World :=
  agents ((AList.insert ⟨.deployment, weather⟩ (agentTemplate "weather") ∅ :
    GoMap WorkloadKey Template).insert ⟨.statefulSet, billing⟩ (agentTemplate "billing"))

/-- Both get their registrations, and the second round finds nothing to do. -/
theorem registrations_apart : (∀ key, apart.Eligible key →
        spireSetup.Registered (spireSetup.after apart [weather, billing]) key) ∧
      recorded spireSetup.step spireSetup.written (spireSetup.after apart [weather, billing])
        [billing, weather] = [] := by
  refine (registrations_iff (Setup.ready_of_entries (fun _ => rfl) (by decide +kernel))
    (World.covers_of_entries (by decide +kernel))
    (World.covers_of_entries (by decide +kernel))).mpr ⟨fun key hkey => .inl ?_, ?_⟩
  · obtain ⟨t, ht⟩ := hkey.mem_entries
    have hself : ∀ e ∈ apart.workloads.entries, resolveRequest apart e.1.name = some e.1 := by
      decide +kernel
    exact ⟨hself _ ht, fun i _ sec hsec => by cases hsec⟩
  · intro _ key key' t t' _ _ _ _ ht ht' _ haccount
    have hdifferent : ∀ e ∈ apart.workloads.entries, ∀ e' ∈ apart.workloads.entries,
        trimSpace e.2.serviceAccountName = trimSpace e'.2.serviceAccountName →
          e.1.name = e'.1.name := by
      decide +kernel
    exact hdifferent ⟨key, t⟩ (GoMap.mem_entries_iff.mpr ht) ⟨key', t'⟩
      (GoMap.mem_entries_iff.mpr ht') haccount

/-- A Deployment and a StatefulSet with one name, and another Deployment. All share a
ServiceAccount. -/
def crowded : World :=
  agents (((AList.insert ⟨.deployment, weather⟩ (agentTemplate "agents") ∅ :
    GoMap WorkloadKey Template).insert ⟨.statefulSet, weather⟩ (agentTemplate "agents")).insert
    ⟨.deployment, billing⟩ (agentTemplate "agents"))

/-- **The StatefulSet gets nothing**, and each round renames the client twice. -/
theorem registrations_crowded : spireSetup.Ready crowded ∧ crowded.Covers [weather, billing] ∧
      crowded.Eligible ⟨.statefulSet, weather⟩ ∧
      ¬ spireSetup.Registered (spireSetup.after crowded [weather, billing])
        ⟨.statefulSet, weather⟩ ∧
      recorded spireSetup.step spireSetup.written (spireSetup.after crowded [weather, billing])
        [weather, billing] =
        List.replicate 2
          ⟨"http://keycloak:8080", "rossoctl", "spiffe://example.org/ns/team/sa/agents"⟩ := by
  refine ⟨Setup.ready_of_entries (fun _ => rfl) (by decide +kernel),
    World.covers_of_entries (by decide +kernel), ⟨rfl, rfl, agentTemplate "agents", ?_, ?_⟩, ?_, ?_⟩
  · rfl
  · rfl
  · rintro ⟨i, t, -, -, hi, ht, hname, -⟩
    have hplain : ((spireSetup.after crowded [weather, billing]).workloads.lookup
        ⟨.statefulSet, weather⟩).all (fun t =>
          valueOf t.annotations annotationKeycloakClientSecretName = "") = true := by
      decide +kernel
    have hnamed : (spireSetup.identity (spireSetup.after crowded [weather, billing])
        ⟨.statefulSet, weather⟩).all (fun i => i.secretKey.name ≠ "") = true := by
      decide +kernel
    rw [ht, all_some, decide_eq_true_eq] at hplain
    rw [hi, all_some, decide_eq_true_eq, ← hname] at hnamed
    exact hnamed hplain
  · decide +kernel

end Rossoctl.Keycloak
