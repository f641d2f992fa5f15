import Mathlib.Logic.Function.Basic
import Rossoctl.Broker.Steps

/-!
# User isolation of brokered tokens

A token that a request of user `u` is answered with should have been obtained by
an exchange made for a session of `u` (`Rossoctl.Broker.Shared.Obtained`). The
token cache is keyed by the session key alone, the end of a session does not
purge it, and `CreateSession` takes any key for any user; so it is the re-use of
a key that decides.

`Rossoctl.Broker.Handover` is the condition on one `CreateSession`: what is left
under the key – live cached tokens, and requests past their session check – is
the new user's. Under it every key has one *owner* at a time, the invariant is
`Rossoctl.Broker.Owned`, and isolation holds in every run
(`Rossoctl.Broker.token_obtained_for_user`). Without it
`Rossoctl.Broker.token_of_another_user` is a run in which a user is handed the
token of another.
-/

namespace Rossoctl.Broker

open List Option SessionManager Shared Function

/-! ### What isolation says -/

/-- **A token was obtained for a user**: some exchange made by a flow that ran for
a session of that user returned it. -/
def Shared.Obtained (b : Shared) (token userID : String) : Prop :=
  ∃ e ∈ b.exchanges, e.result = some token ∧
    (b.sm.object e.session).map Session.userID = some userID

instance (b : Shared) (token userID : String) : Decidable (b.Obtained token userID) :=
  inferInstanceAs (Decidable (∃ e ∈ b.exchanges, _))

/-- A token request that has passed the session check of `AcquireToken` and has
not returned. -/
def TokenPc.inFlight : TokenPc → Bool
  | .handler => false
  | .validate => false
  | .returned _ => false
  | _ => true

/-- If this is a request in flight under the key, it is the user's. -/
def Thread.Hands (sessionKey userID : String) : Thread → Prop
  | .token rq pc => pc.inFlight = true → rq.sessionKey = sessionKey → rq.userID = userID
  | _ => True

instance (k u : String) : (th : Thread) → Decidable (th.Hands k u)
  | .token _ _ => inferInstanceAs (Decidable (_ → _ → _))
  | .events .. | .callback .. | .finish .. => isTrue trivial

/-- **A key may be handed to a user**: the tokens cached under it that have not
expired were obtained for that user, and so were the requests in flight under it
made by that user. -/
def HandoverTo (st : State) (sessionKey userID : String) : Prop :=
  (∀ p ∈ ((st.shared.cache.tokens.lookup sessionKey).getD ∅).entries,
    isTokenExpired st.shared.now p.2.expiresAt = false →
      st.shared.Obtained p.2.accessToken userID) ∧
  ∀ th ∈ st.threads, th.Hands sessionKey userID

instance (st : State) (k u : String) : Decidable (HandoverTo st k u) :=
  inferInstanceAs (Decidable (_ ∧ _))

/-- The condition on a step: a `CreateSession` that is not refused takes a key only when it
may be handed to the user. -/
def Handover (cfg : Config) (st : State) : Action → Prop
  | .createSession k u url =>
    (st.shared.sm.createSession cfg st.shared.now k u url).isOk = true → HandoverTo st k u
  | _ => True

instance (cfg : Config) (st : State) : (a : Action) → Decidable (Handover cfg st a)
  | .createSession .. => inferInstanceAs (Decidable (_ → _))
  | .tick _ | .getToken _ | .events .. | .callback _ | .endSession .. | .advance .. | .fireTimer _
  | .runTimer _ | .cleanupExpiredTokens | .shutdown => isTrue trivial

/-! ### Growth

Whatever a step does, a session object keeps its key and its user, and an
exchange stays on record. -/

/-- The key and the user of a session object. -/
def Shared.ident (b : Shared) (s : SessionRef) : Option (String × String) :=
  (b.sm.object s).map fun o => (o.sessionKey, o.userID)

/-- **Growth of the shared state.** -/
structure Grows (b b' : Shared) : Prop where
  ident : ∀ s p, b.ident s = some p → b'.ident s = some p
  exchanges : ∀ e ∈ b.exchanges, e ∈ b'.exchanges

theorem ident_eq_core (b : Shared) (s : SessionRef) :
    b.ident s = (b.sm.core s).map fun c => (c.sessionKey, c.userID) := by
  rw [ident, core, Option.map_map]
  rfl

theorem obtained_iff (b : Shared) (t u : String) : b.Obtained t u ↔
      ∃ e ∈ b.exchanges, e.result = some t ∧ ∃ k, b.ident e.session = some (k, u) := by
  refine exists_congr fun e => and_congr_right fun _ => and_congr_right fun _ => ?_
  rw [ident]
  rcases b.sm.object e.session with _ | o <;> simp

variable {u : String} {sm' : SessionManager} {th : Thread}

theorem Grows.obtained {b b' : Shared} (h : Grows b b') {t : String} (ht : b.Obtained t u) :
    b'.Obtained t u := by
  rw [obtained_iff] at ht ⊢
  obtain ⟨e, he, hres, k, hk⟩ := ht
  exact ⟨e, h.exchanges e he, hres, k, h.ident _ _ hk⟩

theorem grows_modifySession (b : Shared) (s : SessionRef) {f : Session → Session}
    (hk : ∀ o, (f o).sessionKey = o.sessionKey) (hu : ∀ o, (f o).userID = o.userID) :
    Grows b (b.modifySession s f) := by
  refine ⟨fun s' p h => ?_, fun _ h => h⟩
  rw [ident, modifySession, object_modify]
  split
  · rw [Option.map_map, ← h, ident]
    exact congrArg (Option.map · _) (funext fun o => by simp only [comp, hk, hu])
  · exact h

theorem grows_quiet {b : Shared} (h : b.sm.Quiet sm') : Grows b { b with sm := sm' } := by
  refine ⟨fun s p hs => ?_, fun _ h => h⟩
  rw [ident_eq_core] at hs ⊢
  rwa [h.core s]

theorem grows_createSession {cfg : Config} {b : Shared} {k url : String}
    (h : b.sm.createSession cfg b.now k u url = .ok sm') : Grows b { b with sm := sm' } := by
  refine ⟨fun s p hs => ?_, fun _ h => h⟩
  rw [ident] at hs ⊢
  have hlt : s ≠ b.sm.objects.length := by
    rintro rfl
    rw [object, getElem?_eq_none le_rfl] at hs
    cases hs
  rwa [(createSession_ok h).1 s, if_neg hlt]

theorem grows_installTx (b : Shared) (s : SessionRef) (t : OAuthTransaction) :
    Grows b (b.installTx s t) :=
  have h : Grows b (b.modifySession s fun o => { o with activeOAuthTx := some b.txs.length }) :=
    grows_modifySession b s (fun _ => rfl) fun _ => rfl
  ⟨h.ident, h.exchanges⟩

theorem grows_deliver (b : Shared) (tx : TxRef) (c : OAuthCompletion) : Grows b (b.deliver tx c) :=
  ⟨fun _ _ h => h, fun _ h => h⟩

variable {cfg : Config} {b b' : Shared} {rq : TokenRequest} {pc pc' : TokenPc}

theorem grows_tokenStep (h : TokenStep cfg b rq pc b' pc') : Grows b b' := by
  cases h with
  | acquired | published | finished | released =>
    exact grows_modifySession _ _ (fun _ => rfl) fun _ => rfl
  | installed => exact grows_installTx _ _ _
  | exchanged | exchangeFailed | exchangePanic =>
    exact ⟨fun _ _ h => h, fun _ h => mem_append_left _ h⟩
  | _ => exact ⟨fun _ _ h => h, fun _ h => h⟩

/-! ### The invariant -/

/-- The token a token request has in its hands. -/
def TokenPc.token : TokenPc → Option String
  | .setToken _ t => some t
  | .finish _ t => some t
  | .release _ r => r.toOption
  | .returned r => r.toOption
  | _ => none

/-- **Every key has an owner**: the registered session is the owner's, and so is
every cached token that has not expired. -/
structure Owned (b : Shared) (owner : String → String) : Prop where
  registered : ∀ k s, b.sm.sessions.lookup k = some s → b.ident s = some (k, owner k)
  cached : ∀ k r e, b.cache.entry k r = some e → isTokenExpired b.now e.expiresAt = false →
    b.Obtained e.accessToken (owner k)

/-- **A token request keeps to the owner of its key**: in flight it is the
owner's, the session it works on is its own, and the token it has was obtained
for its user. -/
structure TokenOwned (b : Shared) (owner : String → String) (rq : TokenRequest) (pc : TokenPc) :
    Prop where
  inFlight : pc.inFlight = true → rq.userID = owner rq.sessionKey
  session : ∀ s, pc.session = some s → b.ident s = some (rq.sessionKey, rq.userID)
  token : ∀ t, pc.token = some t → b.Obtained t rq.userID

variable {owner : String → String}

/-- A change that registers nothing and caches nothing new keeps the owners. -/
theorem Owned.grow (h : Owned b owner) (hg : Grows b b')
    (hs : ∀ k s, b'.sm.sessions.lookup k = some s → b.sm.sessions.lookup k = some s)
    (hc : ∀ k r e, b'.cache.entry k r = some e → b.cache.entry k r = some e)
    (hn : b.now ≤ b'.now) : Owned b' owner where
  registered k s hk := hg.ident _ _ (h.registered k s (hs k s hk))
  cached k r e he hlive := by
    refine hg.obtained (h.cached k r e (hc k r e he) ?_)
    -- what is live now was live before
    by_contra hexp
    rw [isTokenExpired_mono hn (Bool.eq_true_of_not_eq_false hexp)] at hlive
    cases hlive

/-- A request that gets no new session and no new token keeps to the owner. -/
theorem TokenOwned.grow (h : TokenOwned b owner rq pc) (hg : Grows b b')
    (hf : pc'.inFlight = true → pc.inFlight = true)
    (hs : ∀ s, pc'.session = some s → pc.session = some s)
    (ht : ∀ t, pc'.token = some t → pc.token = some t) : TokenOwned b' owner rq pc' where
  inFlight hpc := h.inFlight (hf hpc)
  session s hpc := hg.ident _ _ (h.session s (hs s hpc))
  token t hpc := hg.obtained (h.token t (ht t hpc))

theorem inFlight_of_holds {s : SessionRef} (h : pc.holds = some s) : pc.inFlight = true := by
  cases pc <;> first | rfl | cases h

theorem tokenOwned_returned_error (e : TokenError) : TokenOwned b owner rq (.returned (.error e)) :=
  ⟨fun h => absurd h (by simp [TokenPc.inFlight]),
    fun _ h => absurd h (by simp [TokenPc.session, TokenPc.holds]),
    fun _ h => absurd h (by simp [TokenPc.token, Except.toOption])⟩

theorem TokenOwned.release_error (h : TokenOwned b owner rq pc) (hg : Grows b b') {s : SessionRef}
    (hs : pc.holds = some s) (e : TokenError) : TokenOwned b' owner rq (.release s (.error e)) := by
  refine h.grow hg (fun _ => inFlight_of_holds hs) (fun s' h' => ?_)
    fun _ ht => absurd ht (by simp [TokenPc.token, Except.toOption])
  rw [← h']
  exact session_of_holds hs

/-- The shared state keeps its owners under every move but the one that fills the
cache. -/
theorem owned_tokenStep (ho : Owned b owner) (hq : TokenOwned b owner rq pc)
    (h : TokenStep cfg b rq pc b' pc') : Owned b' owner := by
  have hg := grows_tokenStep h
  cases h with
  | @stored s t =>
    refine ⟨fun k s hk => hg.ident _ _ (ho.registered k s hk), fun k r e he hlive => ?_⟩
    have hid : b.ident s = some (rq.sessionKey, rq.userID) := hq.session s rfl
    have hkey : b.sessionKey s = rq.sessionKey := by
      obtain ⟨o, hobj, hpair⟩ := map_eq_some_iff.mp hid
      rw [sessionKey, hobj]
      exact congrArg Prod.fst hpair
    rw [TokenCache.entry_setToken, hkey] at he
    split at he
    · rename_i hkr
      cases he
      rw [hkr.1, ← hq.inFlight rfl]
      exact hg.obtained (hq.token t rfl)
    · exact hg.obtained (ho.cached k r e he hlive)
  | _ => exact ho.grow hg (fun _ _ hk => hk) (fun _ _ _ he => he) le_rfl

theorem obtained_of_cached (ho : Owned b owner) (hq : rq.userID = owner rq.sessionKey) {t : String}
    (h : b.cache.getToken b.now rq.sessionKey rq.resourceURL = some t) :
    b.Obtained t rq.userID := by
  obtain ⟨e, he, hlive, rfl⟩ := TokenCache.getToken_eq_some h
  rw [hq]
  exact ho.cached _ _ e he hlive

/-- **A token request keeps to the owner under every move.** -/
theorem tokenOwned_tokenStep (ho : Owned b owner) (hq : TokenOwned b owner rq pc)
    (h : TokenStep cfg b rq pc b' pc') : TokenOwned b' owner rq pc' := by
  have hg := grows_tokenStep h
  cases h with
  | reject => exact tokenOwned_returned_error _
  | admitted => exact hq.grow hg (fun h => h) (fun _ h => h) fun _ h => h
  | validated hv =>
    refine ⟨fun _ => ?_, fun _ hs => absurd hs (by simp [TokenPc.session, TokenPc.holds]),
      fun _ ht => absurd ht (by simp [TokenPc.token])⟩
    obtain ⟨s, o, hk, hobj, hu⟩ := validateSession_ok hv
    have hid := ho.registered _ s hk
    rw [ident, hobj] at hid
    rw [← hu]
    exact congrArg Prod.snd (some.inj hid)
  | cached hc =>
    refine ⟨fun hf => absurd hf (by simp [TokenPc.inFlight]),
      fun _ hs => absurd hs (by simp [TokenPc.session, TokenPc.holds]), fun t ht => ?_⟩
    cases ht
    exact obtained_of_cached ho (hq.inFlight rfl) hc
  | recached hc =>
    refine ⟨fun _ => hq.inFlight rfl, fun s hs => hq.session s hs, fun t ht => ?_⟩
    cases ht
    exact obtained_of_cached ho (hq.inFlight rfl) hc
  | @found s hk =>
    refine ⟨fun _ => hq.inFlight rfl, fun s' hs => ?_,
      fun _ ht => absurd ht (by simp [TokenPc.token])⟩
    cases hs
    rw [hq.inFlight rfl]
    exact ho.registered _ s hk
  | @exchanged s d p tx tx' c hact t =>
    refine ⟨fun _ => hq.inFlight rfl, fun s' hs => hg.ident _ _ (hq.session s' hs), fun t' ht => ?_⟩
    cases ht
    exact (obtained_iff _ _ _).mpr
      ⟨_, mem_append_right _ (mem_singleton_self _), rfl, rq.sessionKey,
        hg.ident _ _ (hq.session s rfl)⟩
  | giveUp hs | giveUpTx hs => exact hq.release_error hg hs _
  | receivedError | exchangeFailed | exchangePanic => exact hq.release_error hg rfl _
  | released =>
    exact ⟨fun hf => absurd hf (by simp [TokenPc.inFlight]),
      fun _ hs => absurd hs (by simp [TokenPc.session, TokenPc.holds]),
      fun t ht => hg.obtained (hq.token t ht)⟩
  | _ => exact hq.grow hg (fun _ => rfl) (fun _ h => h) fun _ h => h

/-! ### Runs -/

/-- The token requests among the threads keep to the owners. -/
def ThreadOwned (b : Shared) (owner : String → String) : Thread → Prop
  | .token rq pc => TokenOwned b owner rq pc
  | _ => True

/-- **The invariant of isolation**, for some assignment of owners. -/
def Isolated (st : State) : Prop :=
  ∃ owner, Owned st.shared owner ∧ ∀ th ∈ st.threads, ThreadOwned st.shared owner th

theorem ThreadOwned.grow (h : ThreadOwned b owner th) (hg : Grows b b') :
    ThreadOwned b' owner th := by
  cases th with
  | token rq pc => exact TokenOwned.grow h hg (fun h => h) (fun _ h => h) fun _ h => h
  | _ => trivial

theorem threadOwned_of_other (h : th.Other) : ThreadOwned b owner th := by
  cases th with
  | token rq pc => exact h.elim
  | _ => trivial

theorem threadOwned_set {ths : List Thread} {i : ℕ} {th' : Thread} (hg : Grows b b')
    (h : ∀ th ∈ ths, ThreadOwned b owner th) (h' : ThreadOwned b' owner th') :
    ∀ th ∈ ths.set i th', ThreadOwned b' owner th := by
  intro th hth
  rcases mem_or_eq_of_mem_set hth with hmem | rfl
  · exact (h th hmem).grow hg
  · exact h'

/-- A new session, and the user it is created for as the owner of its key. -/
theorem owned_createSession {k url : String} (h : b.sm.createSession cfg b.now k u url = .ok sm')
    (ho : Owned b owner)
    (hcache : ∀ r e, b.cache.entry k r = some e → isTokenExpired b.now e.expiresAt = false →
      b.Obtained e.accessToken u) : Owned { b with sm := sm' } (update owner k u) := by
  have hg := grows_createSession h
  obtain ⟨hobj, hses⟩ := createSession_ok h
  refine ⟨fun k' s hs => ?_, fun k' r e he hlive => hg.obtained ?_⟩
  · rw [hses, GoMap.lookup_insert_ite] at hs
    split at hs
    · rename_i hk
      cases hs
      rw [ident, hobj, if_pos rfl, hk, update_self]
      rfl
    · rename_i hk
      rw [update_of_ne hk]
      exact hg.ident _ _ (ho.registered k' s hs)
  · rcases eq_or_ne k' k with rfl | hk
    · rw [update_self]
      exact hcache r e he hlive
    · rw [update_of_ne hk]
      exact ho.cached k' r e he hlive

theorem threadOwned_update {k : String} (h : ThreadOwned b owner th) (hk : th.Hands k u) :
    ThreadOwned b (update owner k u) th := by
  cases th with
  | token rq pc =>
    refine ⟨fun hf => ?_, h.session, h.token⟩
    rcases eq_or_ne rq.sessionKey k with heq | hne
    · rw [heq, update_self]
      exact hk hf heq
    · rw [update_of_ne hne]
      exact h.inFlight hf
  | _ => trivial

/-- **Every step whose hand-over is allowed keeps the isolation.** -/
theorem isolated_step {st st' : State} {a : Action} (h : Isolated st) (hok : Handover cfg st a)
    (hs : step cfg st a = some st') : Isolated st' := by
  obtain ⟨owner, ho, hth⟩ := h
  cases move_of_step hs with
  | tick d =>
    have hg : Grows st.shared { st.shared with now := st.shared.now + d } :=
      ⟨fun _ _ h => h, fun _ h => h⟩
    exact ⟨owner, ho.grow hg (fun _ _ h => h) (fun _ _ _ h => h) (by simp),
      fun th h => (hth th h).grow hg⟩
  | refuse => exact ⟨owner, ho, hth⟩
  | @create k u url sm' hc =>
    have hok : HandoverTo st k u := hok (by rw [hc]; rfl)
    refine ⟨update owner k u, owned_createSession hc ho fun r e he hlive => ?_,
      fun th h => (threadOwned_update (hth th h) (hok.2 th h)).grow (grows_createSession hc)⟩
    obtain ⟨m, hm, hr⟩ := bind_eq_some_iff.mp he
    refine hok.1 ⟨r, e⟩ ?_ hlive
    rw [hm]
    exact GoMap.mem_entries_iff.mpr hr
  | @spawn _ th hnew =>
    refine ⟨owner, ho, fun th' h => ?_⟩
    rcases mem_append.mp h with hmem | hlast
    · exact hth th' hmem
    · obtain rfl := mem_singleton.mp hlast
      rcases hnew with ⟨rq, rfl⟩ | hother
      · exact ⟨fun hf => absurd hf (by simp [TokenPc.inFlight]),
          fun _ hs => absurd hs (by simp [TokenPc.session, TokenPc.holds]),
          fun _ ht => absurd ht (by simp [TokenPc.token])⟩
      · exact threadOwned_of_other hother
  | @token i ch rq pc pc' b' hi htok =>
    have hq : TokenOwned st.shared owner rq pc := hth _ (mem_of_getElem? hi)
    exact ⟨owner, owned_tokenStep ho hq htok,
      threadOwned_set (grows_tokenStep htok) hth (tokenOwned_tokenStep ho hq htok)⟩
  | @deliver i ch rq k u b' hi hdel =>
    obtain ⟨-, s, tx, t, -, -, -, -, rfl⟩ := completeOAuth_ok hdel
    have hg := grows_deliver st.shared tx { code := rq.code, state := rq.state, error := none }
    exact ⟨owner, ho.grow hg (fun _ _ h => h) (fun _ _ _ h => h) le_rfl,
      threadOwned_set hg hth trivial⟩
  | @other i ch th th' sm' hi hq hother =>
    exact ⟨owner, ho.grow (grows_quiet hq) hq.sessions (fun _ _ _ h => h) le_rfl,
      threadOwned_set (grows_quiet hq) hth (threadOwned_of_other hother)⟩
  | quiet hq =>
    exact ⟨owner, ho.grow (grows_quiet hq) hq.sessions (fun _ _ _ h => h) le_rfl,
      fun th h => (hth th h).grow (grows_quiet hq)⟩
  | cleanup =>
    refine ⟨owner, ho.grow ⟨fun _ _ h => h, fun _ h => h⟩ (fun _ _ h => h) ?_ le_rfl,
      fun th h => (hth th h).grow ⟨fun _ _ h => h, fun _ h => h⟩⟩
    intro k r e he
    rw [TokenCache.entry_cleanupExpiredTokens] at he
    obtain ⟨e', he', hkeep⟩ := bind_eq_some_iff.mp he
    split at hkeep
    · cases hkeep
    · rw [he', some.inj hkeep]

theorem isolated_init : Isolated {} :=
  ⟨fun _ => "", ⟨fun _ _ h => absurd h (by simp), fun k r e h => absurd h
    (by simp [TokenCache.entry])⟩, fun _ h => absurd h not_mem_nil⟩

/-- **User isolation.** In every run whose sessions are created under keys that
may be handed to their users, a token that a request of a user is answered with
was obtained for that user. -/
theorem token_obtained_for_user (cfg : Config) (as : List Action) (st : State)
    (hok : Guarded (step cfg) (Handover cfg) {} as) (hrun : run (step cfg) {} as = some st)
    (rq : TokenRequest) (t : String) (h : .token rq (.returned (.ok t)) ∈ st.threads) :
    st.shared.Obtained t rq.userID := by
  obtain ⟨owner, -, hth⟩ :=
    run_invariant (fun _ _ _ => isolated_step) isolated_init hok hrun
  exact (hth _ h).token t rfl

/-! ### Two runs -/

/-- A user creates a session, asks for a token, and completes the flow: request
`0` is the token request, request `1` the callback. -/
def acquireRun (userID token : String) : List Action :=
  [.createSession "key" userID "https://backend",
   .getToken { sessionKey := "key", userID := userID, resourceURL := "https://mcp" }] ++
  List.replicate 6 (.advance 0 .proceed) ++
  [.advance 0 (.discovered
     { authEndpoint := "https://idp/authorize", tokenEndpoint := "https://idp/token",
       scopes := [] }),
   .advance 0 (.generated { verifier := "v", challenge := "c", method := "S256" }),
   .advance 0 (.nonce "n"), .advance 0 .proceed, .advance 0 .proceed,
   .callback { code := "code", state := "key.n", error := "", errorDescription := "" },
   .advance 1 .proceed, .advance 1 .proceed, .advance 0 .proceed, .advance 0 (.token token),
   .advance 0 .proceed, .advance 0 .proceed, .advance 0 .proceed]

/-- Another user takes the key and asks for the same resource. -/
def reuseRun (userID : String) : List Action :=
  [.createSession "key" userID "https://backend",
   .getToken { sessionKey := "key", userID := userID, resourceURL := "https://mcp" }] ++
  List.replicate 3 (.advance 2 .proceed)

/-- The guard is met when the key is taken after its cached token has expired, and
the first user's token is the first user's. -/
theorem token_obtained_for_alice :
    ∃ st, run (step hourConfig) {} (acquireRun "alice" "T" ++ [.tick 3600000000000] ++
        reuseRun "bob") = some st ∧
      .token { sessionKey := "key", userID := "alice", resourceURL := "https://mcp" }
        (.returned (.ok "T")) ∈ st.threads ∧ st.shared.Obtained "T" "alice" := by
  have hok : Guarded (step hourConfig) (Handover hourConfig) {}
      (acquireRun "alice" "T" ++ [.tick 3600000000000] ++ reuseRun "bob") := by decide
  exact ⟨_, rfl, mem_cons_self, token_obtained_for_user hourConfig _ _ hok rfl _ "T" mem_cons_self⟩

/-- **Isolation fails when a key is re-used too early**: the second user is handed
the token of the first. -/
theorem token_of_another_user :
    ∃ st, run (step hourConfig) {} (acquireRun "alice" "T" ++ reuseRun "bob") = some st ∧
      .token { sessionKey := "key", userID := "bob", resourceURL := "https://mcp" }
        (.returned (.ok "T")) ∈ st.threads ∧
      st.shared.Obtained "T" "alice" ∧ ¬ st.shared.Obtained "T" "bob" := by
  decide

end Rossoctl.Broker
