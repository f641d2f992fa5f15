import Rossoctl.Broker.System

/-!
# What a step of the broker can be

The step functions of `Rossoctl.Broker.System` follow the source; the invariants
want to know, once and for all, which changes a step can make.
`Rossoctl.Broker.TokenStep` lists the moves of a token request, the many error
exits being two of them, and `Rossoctl.Broker.Move` those of the whole broker:
the timers, the long-polls, the end of a session and the shutdown are all
*quiet* there (`Rossoctl.Broker.SessionManager.Quiet`), so that an invariant about
flows treats them in one case.
-/

namespace Rossoctl.Broker

open Option SessionManager

/-- The session whose semaphore a token request holds. -/
def TokenPc.holds : TokenPc → Option SessionRef
  | .cacheRecheck s => some s
  | .discover s => some s
  | .install s _ => some s
  | .buildURL s _ _ => some s
  | .publish s _ _ _ => some s
  | .enterWait s _ _ => some s
  | .wait s _ _ _ => some s
  | .exchange s _ _ _ _ => some s
  | .setToken s _ => some s
  | .finish s _ => some s
  | .release s _ => some s
  | _ => none

/-- The session object a token request has a pointer to. -/
def TokenPc.session : TokenPc → Option SessionRef
  | .acquire s => some s
  | pc => pc.holds

theorem session_of_holds {pc : TokenPc} {s : SessionRef} (h : pc.holds = some s) :
    pc.session = some s := by
  cases pc <;> first | exact h | cases h

/-- A token request that has returned. -/
def TokenPc.isReturned : TokenPc → Bool
  | .returned _ => true
  | _ => false

/-- **The moves of a token request** in the shared state `b`: from a program
counter, to a new shared state and a new program counter. -/
inductive TokenStep (cfg : Config) (b : Shared) (rq : TokenRequest) :
    TokenPc → Shared → TokenPc → Prop
  /-- An error before the semaphore is held. -/
  | reject {pc : TokenPc} (h : pc.holds = none) (hr : pc.isReturned = false) (e : TokenError) :
      TokenStep cfg b rq pc b (.returned (.error e))
  | admitted (h : b.sm.validateSession rq.sessionKey rq.userID = .ok ()) :
      TokenStep cfg b rq .handler b .validate
  | validated (h : b.sm.validateSession rq.sessionKey rq.userID = .ok ()) :
      TokenStep cfg b rq .validate b .cacheLookup
  | cached {t : String} (h : b.cache.getToken b.now rq.sessionKey rq.resourceURL = some t) :
      TokenStep cfg b rq .cacheLookup b (.returned (.ok t))
  | uncached : TokenStep cfg b rq .cacheLookup b .getSession
  | found {s : SessionRef} (h : b.sm.sessions.lookup rq.sessionKey = some s) :
      TokenStep cfg b rq .getSession b (.acquire s)
  | acquired {s : SessionRef} {o : Session} (h : b.sm.object s = some o)
      (hf : o.acquisitionSemaphore = false) :
      TokenStep cfg b rq (.acquire s)
        (b.modifySession s fun o => { o with acquisitionSemaphore := true }) (.cacheRecheck s)
  | recached {s : SessionRef} {t : String}
      (h : b.cache.getToken b.now rq.sessionKey rq.resourceURL = some t) :
      TokenStep cfg b rq (.cacheRecheck s) b (.release s (.ok t))
  | missed {s : SessionRef} : TokenStep cfg b rq (.cacheRecheck s) b (.discover s)
  /-- An error while the semaphore is held. -/
  | giveUp {pc : TokenPc} {s : SessionRef} (h : pc.holds = some s) (e : TokenError) :
      TokenStep cfg b rq pc b (.release s (.error e))
  /-- An error that is recorded in the active transaction. -/
  | giveUpTx {pc : TokenPc} {s : SessionRef} {tx : TxRef} (h : pc.holds = some s)
      (htx : b.activeTx s = some tx) (e : TokenError) :
      TokenStep cfg b rq pc (b.modifyTx tx fun t => { t with status := .failed })
        (.release s (.error e))
  | discovered {s : SessionRef} (d : Discovery) : TokenStep cfg b rq (.discover s) b (.install s d)
  | installed {s : SessionRef} {d : Discovery} (p : PKCEChallenge) :
      TokenStep cfg b rq (.install s d) (b.installTx s (newTx rq d p)) (.buildURL s d p)
  | built {s : SessionRef} {d : Discovery} {p : PKCEChallenge} {tx : TxRef}
      (h : b.activeTx s = some tx) (authURL n : String) :
      TokenStep cfg b rq (.buildURL s d p)
        (b.modifyTx tx fun t => t.setURL authURL cfg.callbackURL (b.sessionKey s ++ "." ++ n))
        (.publish s d p authURL)
  | published {s : SessionRef} {d : Discovery} {p : PKCEChallenge} {authURL : String} (e : Event) :
      TokenStep cfg b rq (.publish s d p authURL)
        (b.modifySession s fun o => { o with eventWaiters := some e }) (.enterWait s d p)
  | waiting {s : SessionRef} {d : Discovery} {p : PKCEChallenge} {tx : TxRef}
      (h : b.activeTx s = some tx) :
      TokenStep cfg b rq (.enterWait s d p) b (.wait s d p tx)
  | received {s : SessionRef} {d : Discovery} {p : PKCEChallenge} {tx : TxRef}
      {c : OAuthCompletion} (h : (b.txs[tx]?).bind OAuthTransaction.completionChan = some c) :
      TokenStep cfg b rq (.wait s d p tx) (b.modifyTx tx fun t => { t with completionChan := none })
        (.exchange s d p tx c)
  /-- A completion that carries an error. -/
  | receivedError {s : SessionRef} {d : Discovery} {p : PKCEChallenge} {tx : TxRef}
      (e : TokenError) :
      TokenStep cfg b rq (.wait s d p tx) (b.modifyTx tx fun t => { t with completionChan := none })
        (.release s (.error e))
  | exchanged {s : SessionRef} {d : Discovery} {p : PKCEChallenge} {tx tx' : TxRef}
      {c : OAuthCompletion} (h : b.activeTx s = some tx') (t : String) :
      TokenStep cfg b rq (.exchange s d p tx c) ((b.logExchange {
          session := s, tx := tx, tokenEndpoint := d.tokenEndpoint, code := c.code,
          codeVerifier := p.verifier, callbackURL := cfg.callbackURL,
          result := some t }).modifyTx tx' fun t => { t with status := .completed })
        (.setToken s t)
  /-- The exchange fails, and the failure is recorded in the transaction. -/
  | exchangeFailed {s : SessionRef} {d : Discovery} {p : PKCEChallenge} {tx tx' : TxRef}
      {c : OAuthCompletion} (h : b.activeTx s = some tx') (e : TokenError) :
      TokenStep cfg b rq (.exchange s d p tx c) ((b.logExchange {
          session := s, tx := tx, tokenEndpoint := d.tokenEndpoint, code := c.code,
          codeVerifier := p.verifier, callbackURL := cfg.callbackURL,
          result := none }).modifyTx tx' fun t => { t with status := .failed })
        (.release s (.error e))
  /-- The exchange is made while the session has no active transaction. -/
  | exchangePanic {s : SessionRef} {d : Discovery} {p : PKCEChallenge} {tx : TxRef}
      {c : OAuthCompletion} (h : b.activeTx s = none) (res : Option String) (e : TokenError) :
      TokenStep cfg b rq (.exchange s d p tx c) (b.logExchange {
          session := s, tx := tx, tokenEndpoint := d.tokenEndpoint, code := c.code,
          codeVerifier := p.verifier, callbackURL := cfg.callbackURL, result := res })
        (.release s (.error e))
  | stored {s : SessionRef} {t : String} : TokenStep cfg b rq (.setToken s t)
        { b with cache := b.cache.setToken cfg b.now (b.sessionKey s) rq.resourceURL t }
        (.finish s t)
  | finished {s : SessionRef} {t : String} : TokenStep cfg b rq (.finish s t)
        (b.modifySession s fun o => { o with activeOAuthTx := none }) (.release s (.ok t))
  | released {s : SessionRef} {r : TokenResult} : TokenStep cfg b rq (.release s r)
        (b.modifySession s fun o => { o with acquisitionSemaphore := false }) (.returned r)

variable {cfg : Config} {b b' : Shared} {rq : TokenRequest} {pc pc' : TokenPc} {ch : Choice}

theorem tokenStep_of_setTxStatus {s : SessionRef} {e : TokenError} (hs : pc.holds = some s)
    (h : b.setTxStatus s .failed (.release s (.error e)) = (b', pc')) :
    TokenStep cfg b rq pc b' pc' := by
  rw [Shared.setTxStatus] at h
  split at h
  · cases h
    exact .giveUp hs _
  · rename_i tx htx
    cases h
    exact .giveUpTx hs htx _

theorem tokenStep_of_stepAcquire (h : stepAcquire b rq pc ch = some (b', pc')) :
    TokenStep cfg b rq pc b' pc' := by
  unfold stepAcquire at h
  split at h
  · -- the handler
    split at h
    · cases h
      exact .reject rfl rfl _
    · split at h
      · cases h
        exact .reject rfl rfl _
      · cases h
        exact .admitted ‹_›
  · split at h
    · cases h
      exact .reject rfl rfl _
    · cases h
      exact .validated ‹_›
  · split at h
    · cases h
      exact .cached ‹_›
    · cases h
      exact .uncached
  · split at h
    · cases h
      exact .reject rfl rfl _
    · cases h
      exact .found (getSession_ok ‹_›)
  · -- the semaphore
    split at h
    · rename_i hsem
      obtain ⟨o, ho, hfree⟩ := map_eq_some_iff.mp hsem
      cases h
      exact .acquired ho hfree
    · cases h
  · cases h
    exact .reject rfl rfl _
  · split at h
    · cases h
      exact .recached ‹_›
    · cases h
      exact .missed
  · cases h
    exact .released
  · cases h

theorem tokenStep_of_stepPrepare (h : stepPrepare cfg b rq pc ch = some (b', pc')) :
    TokenStep cfg b rq pc b' pc' := by
  unfold stepPrepare at h
  split at h
  · cases h
    exact .discovered _
  · cases h
    exact .giveUp rfl _
  · cases h
    exact .installed _
  · cases h
    exact .giveUp rfl _
  · -- the authorization URL
    dsimp only at h
    split at h
    · exact tokenStep_of_setTxStatus rfl (some.inj h)
    · split at h
      · cases h
        exact .giveUp rfl _
      · cases h
        exact .built ‹_› _ _
  · exact tokenStep_of_setTxStatus rfl (some.inj h)
  · -- the event
    split at h
    · cases h
      exact .published _
    · cases h
  · cases h
    exact .giveUp rfl _
  · split at h
    · cases h
      exact .giveUp rfl _
    · cases h
  · cases h

theorem tokenStep_of_stepComplete (h : stepComplete cfg b rq pc ch = some (b', pc')) :
    TokenStep cfg b rq pc b' pc' := by
  unfold stepComplete at h
  split at h
  · split at h
    · cases h
      exact .giveUp rfl _
    · cases h
      exact .waiting ‹_›
  · -- the wait, and its four cases
    split at h
    · cases h
    · dsimp only at h
      split at h
      · cases h
        exact .receivedError _
      · cases h
        exact .received ‹_›
  · exact tokenStep_of_setTxStatus rfl (some.inj h)
  · split at h
    · exact tokenStep_of_setTxStatus rfl (some.inj h)
    · cases h
  · exact tokenStep_of_setTxStatus rfl (some.inj h)
  · -- the exchange
    split at h
    · cases h
    · dsimp only [Shared.setTxStatus] at h
      split at h
      · cases h
        exact .exchangePanic ‹_› _ _
      · cases h
        exact .exchanged ‹_› _
  · dsimp only [Shared.setTxStatus] at h
    split at h
    · cases h
      exact .exchangePanic ‹_› _ _
    · cases h
      exact .exchangeFailed ‹_› _
  · cases h
    exact .stored
  · cases h
    exact .finished
  · cases h

/-- A step of a token request is a step of one of its three parts. -/
theorem stepToken_cases {r : Shared × TokenPc} (h : stepToken cfg b rq pc ch = some r) :
    stepAcquire b rq pc ch = some r ∨ stepPrepare cfg b rq pc ch = some r ∨
      stepComplete cfg b rq pc ch = some r := by
  simp only [stepToken, orElse_eq_orElse, orElse_eq_or, or_eq_some_iff] at h
  exact h.imp_right fun h => h.2.imp_right And.right

/-- **Every step of a token request is one of the moves.** -/
theorem tokenStep_of_stepToken (h : stepToken cfg b rq pc ch = some (b', pc')) :
    TokenStep cfg b rq pc b' pc' := by
  rcases stepToken_cases h with h | h | h
  · exact tokenStep_of_stepAcquire h
  · exact tokenStep_of_stepPrepare h
  · exact tokenStep_of_stepComplete h

/-! ### The other requests -/

theorem stepEvents_quiet {k u : String} {pc pc' : EventsPc}
    (h : stepEvents cfg b k u pc ch = some (b', pc')) :
    ∃ sm', b.sm.Quiet sm' ∧ b' = { b with sm := sm' } := by
  unfold stepEvents at h
  split at h
  · split at h <;> cases h <;>
      exact ⟨_, .refl _, rfl⟩
  · cases h
    exact ⟨_, quiet_resetSessionTimer cfg _ _ _, rfl⟩
  · split at h <;> cases h <;>
      exact ⟨_, .refl _, rfl⟩
  · -- the event is taken out of its channel
    split at h
    · cases h
    · cases h
      refine ⟨_, ?_, rfl⟩
      exact quiet_modify _ _ fun _ => rfl
  · split at h
    · cases h
      exact ⟨_, .refl _, rfl⟩
    · cases h
  · cases h
    exact ⟨_, .refl _, rfl⟩
  · cases h
    exact ⟨_, quiet_startSessionTimer cfg _ _ _, rfl⟩
  · cases h

theorem stepEnd_quiet {k u : String} {pc pc' : EndPc} (h : stepEnd b k u pc ch = some (b', pc')) :
    ∃ sm', b.sm.Quiet sm' ∧ b' = { b with sm := sm' } := by
  unfold stepEnd at h
  split at h
  · split at h <;> cases h <;>
      exact ⟨_, .refl _, rfl⟩
  · split at h
    · cases h
      exact ⟨_, .refl _, rfl⟩
    · cases h
      exact ⟨_, quiet_endSession ‹_›, rfl⟩
  · cases h

/-- What `CompleteOAuth` has found when it succeeds: a registered session of the user, its
active transaction, and room in that transaction's channel. -/
theorem completeOAuth_ok {k u code state : String} (h : completeOAuth b k u code state = .ok b') :
    b.sm.validateSession k u = .ok () ∧ ∃ s tx t, b.sm.sessions.lookup k = some s ∧
      b.activeTx s = some tx ∧ b.txs[tx]? = some t ∧ t.completionChan = none ∧
      b' = b.deliver tx { code := code, state := state, error := none } := by
  unfold completeOAuth at h
  split at h
  · cases h
  · split at h
    · cases h
    · rename_i s hs
      split at h
      · cases h
      · rename_i tx htx
        split at h
        · rename_i hchan
          obtain ⟨t, ht, hnone⟩ := map_eq_some_iff.mp hchan
          exact ⟨‹_›, s, tx, t, getSession_ok hs, htx, ht, hnone,
            (Except.ok.inj h).symm⟩
        · cases h

/-- A request that is no token request, and if it is a callback about to
complete, then one with a state. -/
def Thread.Other : Thread → Prop
  | .token _ _ => False
  | .callback rq (.complete _ _) => rq.state ≠ ""
  | _ => True

theorem stepCallback_cases {rq : CallbackRequest} {pc pc' : CallbackPc}
    (h : stepCallback b rq pc ch = some (b', pc')) :
    (b' = b ∧ (Thread.callback rq pc').Other) ∨
      ∃ k u, pc = .complete k u ∧ pc' = .returned .success ∧
        completeOAuth b k u rq.code rq.state = .ok b' := by
  unfold stepCallback at h
  split at h
  · left
    split at h
    · cases h
      exact ⟨rfl, trivial⟩
    · split at h
      · cases h
        exact ⟨rfl, trivial⟩
      · rename_i hne
        split at h
        · cases h
          exact ⟨rfl, trivial⟩
        · split at h
          · cases h
          · cases h
            exact ⟨rfl, fun hstate => hne (Or.inr hstate)⟩
  · split at h
    · cases h
      exact Or.inl ⟨rfl, trivial⟩
    · cases h
      exact Or.inr ⟨_, _, rfl, rfl, ‹_›⟩
  · cases h

/-! ### The whole broker -/

/-- A request that has just come in. -/
def Thread.IsNew (th : Thread) : Prop := (∃ rq, th = .token rq .handler) ∨ th.Other

/-- **The moves of the broker.** -/
inductive Move (cfg : Config) (st : State) : Action → State → Prop
  | tick (d : ℕ) :
      Move cfg st (.tick d) { st with shared := { st.shared with now := st.shared.now + d } }
  /-- A session is refused. -/
  | refuse {k u url : String} : Move cfg st (.createSession k u url) st
  | create {k u url : String} {sm' : SessionManager}
      (h : st.shared.sm.createSession cfg st.shared.now k u url = .ok sm') :
      Move cfg st (.createSession k u url) { st with shared := { st.shared with sm := sm' } }
  /-- A request comes in. -/
  | spawn {a : Action} {th : Thread} (h : th.IsNew) :
      Move cfg st a { st with threads := st.threads ++ [th] }
  | token {i : ℕ} {ch : Choice} {rq : TokenRequest} {pc pc' : TokenPc} {b' : Shared}
      (hi : st.threads[i]? = some (.token rq pc)) (h : TokenStep cfg st.shared rq pc b' pc') :
      Move cfg st (.advance i ch) { shared := b', threads := st.threads.set i (.token rq pc') }
  /-- `CompleteOAuth` hands over a code. -/
  | deliver {i : ℕ} {ch : Choice} {rq : CallbackRequest} {k u : String} {b' : Shared}
      (hi : st.threads[i]? = some (.callback rq (.complete k u)))
      (h : completeOAuth st.shared k u rq.code rq.state = .ok b') :
      Move cfg st (.advance i ch)
        { shared := b', threads := st.threads.set i (.callback rq (.returned .success)) }
  /-- Another request takes a step. -/
  | other {i : ℕ} {ch : Choice} {th th' : Thread} {sm' : SessionManager}
      (hi : st.threads[i]? = some th) (hq : st.shared.sm.Quiet sm') (h : th'.Other)
      (ht : ∀ rq pc, th ≠ .token rq pc) :
      Move cfg st (.advance i ch)
        { shared := { st.shared with sm := sm' }, threads := st.threads.set i th' }
  /-- A timer, or the shutdown. -/
  | quiet {a : Action} {sm' : SessionManager} (hq : st.shared.sm.Quiet sm') :
      Move cfg st a { st with shared := { st.shared with sm := sm' } }
  | cleanup : Move cfg st .cleanupExpiredTokens { st with
      shared := { st.shared with cache := st.shared.cache.cleanupExpiredTokens st.shared.now } }

variable {st st' : State} {a : Action}

theorem move_of_advance {i : ℕ} (h : step cfg st (.advance i ch) = some st') :
    Move cfg st (.advance i ch) st' := by
  rw [step] at h
  split at h
  · cases h
  · rename_i th hi
    obtain ⟨⟨b', th'⟩, hstep, rfl⟩ := map_eq_some_iff.mp h
    cases th with
    | token rq pc =>
      obtain ⟨⟨b₁, pc'⟩, htok, heq⟩ := map_eq_some_iff.mp hstep
      cases heq
      exact .token hi (tokenStep_of_stepToken htok)
    | events k u pc =>
      obtain ⟨⟨b₁, pc'⟩, hev, heq⟩ := map_eq_some_iff.mp hstep
      cases heq
      obtain ⟨sm', hq, rfl⟩ := stepEvents_quiet hev
      exact .other hi hq trivial (by simp)
    | callback rq pc =>
      obtain ⟨⟨b₁, pc'⟩, hcb, heq⟩ := map_eq_some_iff.mp hstep
      cases heq
      rcases stepCallback_cases hcb with ⟨rfl, hother⟩ | ⟨k, u, rfl, rfl, hok⟩
      · exact .other hi (.refl _) hother (by simp)
      · exact .deliver hi hok
    | finish k u pc =>
      obtain ⟨⟨b₁, pc'⟩, hend, heq⟩ := map_eq_some_iff.mp hstep
      cases heq
      obtain ⟨sm', hq, rfl⟩ := stepEnd_quiet hend
      exact .other hi hq trivial (by simp)

/-- **Every step of the broker is one of the moves.** -/
theorem move_of_step (h : step cfg st a = some st') : Move cfg st a st' := by
  cases a with
  | tick d =>
    cases h
    exact .tick d
  | createSession k u url =>
    rw [step] at h
    split at h
    · cases h
      exact .refuse
    · cases h
      exact .create ‹_›
  | getToken rq =>
    cases h
    exact .spawn (Or.inl ⟨rq, rfl⟩)
  | events k u =>
    cases h
    exact .spawn (Or.inr trivial)
  | callback rq =>
    cases h
    exact .spawn (Or.inr trivial)
  | endSession k u =>
    cases h
    exact .spawn (Or.inr trivial)
  | advance i ch => exact move_of_advance h
  | fireTimer t =>
    rw [step] at h
    split at h
    · split at h
      · cases h
        exact .quiet (quiet_of_eq rfl rfl)
      · cases h
    · cases h
  | runTimer t =>
    rw [step] at h
    split at h
    · cases h
      refine .quiet (.trans ?_ (quiet_expireSession _ _))
      exact quiet_of_eq rfl rfl
    · cases h
  | cleanupExpiredTokens =>
    cases h
    exact .cleanup
  | shutdown =>
    cases h
    exact .quiet (quiet_shutdown _)

end Rossoctl.Broker
