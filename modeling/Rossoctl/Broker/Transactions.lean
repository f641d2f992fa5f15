import Rossoctl.Broker.Binding

/-!
# The transactions and the requests that own them

`performOAuthFlow` installs a transaction in its session, publishes its authorization URL,
waits for the code and exchanges it. Between the installation and the end of the exchange
the request *owns* the transaction (`Rossoctl.Broker.TokenPc.Own`): it is the active one of
the session whose semaphore the request holds, and it is waiting for its code. This holds in
every run (`Rossoctl.Broker.flowsOwn_run`), and it makes the steps of a token request more
definite than `Rossoctl.Broker.TokenStep` could say without it: no nil pointer is followed,
and no error comes out of a completion channel. `Rossoctl.Broker.FlowStep` lists what is left.
-/

namespace Rossoctl.Broker

open SessionManager

open Shared

open List Option

/-- What a token request has to do with its transaction. -/
inductive Stage where
  /-- It has none, or is done with it. -/
  | outside
  | preparing
  | waiting
  | exchanging
  deriving DecidableEq

/-- The authorization URL has been published. -/
def Stage.published : Stage → Bool
  | .waiting => true
  | .exchanging => true
  | _ => false

theorem Stage.ne_outside_of_published {g : Stage} (h : g.published = true) : g ≠ .outside := by
  rintro rfl
  cases h

/-- The stage of a token request. -/
def TokenPc.stage : TokenPc → Stage
  | .buildURL .. => .preparing
  | .publish .. => .preparing
  | .enterWait .. => .waiting
  | .wait .. => .waiting
  | .exchange .. => .exchanging
  | _ => .outside

/-- The event in the slot of a session. -/
def Shared.slot (b : Shared) (s : SessionRef) : Option Event :=
  (b.sm.object s).bind Session.eventWaiters

/-- What a request remembers of its transaction is right. -/
def TokenPc.Agrees (tx : TxRef) (t : OAuthTransaction) : TokenPc → Prop
  | .publish _ _ _ url => t.authURL = url
  | .wait _ _ _ tx' => tx' = tx
  | .exchange _ _ _ tx' _ => tx' = tx
  | _ => True

/-- **A request owns a transaction.** -/
structure TokenPc.Own (b : Shared) (pc : TokenPc) (s : SessionRef) (tx : TxRef)
    (t : OAuthTransaction) : Prop where
  holds : pc.holds = some s
  active : b.activeTx s = some tx
  entry : b.txs[tx]? = some t
  status : t.status = .waitingCode
  agrees : pc.Agrees tx t

/-- The steps with which a request is done with its transaction. -/
def TokenPc.concludes : TokenPc → Choice → Bool
  | .wait .., .proceed => false
  | .wait .., _ => true
  | .exchange .., _ => true
  | _, _ => false

/-- The event that publishes an authorization URL. -/
def urlReady (authURL : String) : Event := { type := "oauth_url_ready", authURL := authURL }

/-- **The moves of a token request that owns its transaction.** -/
inductive FlowStep (cfg : Config) (b : Shared) (rq : TokenRequest) :
    TokenPc → Choice → Shared → TokenPc → Prop
  /-- The request has no transaction, before and after. -/
  | outside {pc pc' : TokenPc} {ch : Choice} {b' : Shared} (h : pc.stage = .outside)
      (h' : pc'.stage = .outside) (htxs : b'.txs = b.txs) (hdel : b'.deliveries = b.deliveries)
      (hslot : b'.slot = b.slot)
      (hact : ∀ s tx, b'.activeTx s = some tx → b.activeTx s = some tx) :
      FlowStep cfg b rq pc ch b' pc'
  | install {s : SessionRef} {d : Discovery} (p : PKCEChallenge) :
      FlowStep cfg b rq (.install s d) (.generated p) (b.installTx s (newTx rq d p))
        (.buildURL s d p)
  | build {s : SessionRef} {d : Discovery} {p : PKCEChallenge} {tx : TxRef}
      (htx : b.activeTx s = some tx) (url n : String) :
      FlowStep cfg b rq (.buildURL s d p) (.nonce n)
        (b.modifyTx tx fun t => t.setURL url cfg.callbackURL (b.sessionKey s ++ "." ++ n))
        (.publish s d p url)
  /-- The transaction is given up before its URL is published. -/
  | abandon {pc : TokenPc} {ch : Choice} {s : SessionRef} {tx : TxRef} {b' : Shared}
      (h : pc.stage = .preparing) (hc : ch ≠ .proceed) (hs : pc.holds = some s)
      (htx : b.activeTx s = some tx)
      (hb : b' = b ∨ b' = b.modifyTx tx fun t => { t with status := .failed }) (e : TokenError) :
      FlowStep cfg b rq pc ch b' (.release s (.error e))
  | publish {s : SessionRef} {d : Discovery} {p : PKCEChallenge} {url : String}
      (h : b.slot s = none) :
      FlowStep cfg b rq (.publish s d p url) .proceed
        (b.modifySession s fun o => { o with eventWaiters := some (urlReady url) })
        (.enterWait s d p)
  | enter {s : SessionRef} {d : Discovery} {p : PKCEChallenge} {tx : TxRef}
      (htx : b.activeTx s = some tx) :
      FlowStep cfg b rq (.enterWait s d p) .proceed b (.wait s d p tx)
  | receive {s : SessionRef} {d : Discovery} {p : PKCEChallenge} {tx : TxRef}
      {c : OAuthCompletion} (htx : b.activeTx s = some tx) :
      FlowStep cfg b rq (.wait s d p tx) .proceed
        (b.modifyTx tx fun t => { t with completionChan := none }) (.exchange s d p tx c)
  | conclude {pc pc' : TokenPc} {ch : Choice} {s : SessionRef} {tx : TxRef} {b' : Shared}
      {v : OAuthTxStatus} (hc : pc.concludes ch = true) (hs : pc.holds = some s)
      (htx : b.activeTx s = some tx) (h' : pc'.stage = .outside) (hv : v ≠ .waitingCode)
      (hsm : b'.sm = b.sm) (hdel : b'.deliveries = b.deliveries)
      (htxs : b'.txs = b.txs.modify tx fun t => { t with status := v }) :
      FlowStep cfg b rq pc ch b' pc'

variable {cfg : Config} {b b' : Shared} {rq : TokenRequest} {pc pc' : TokenPc} {ch : Choice}
  {s : SessionRef} {tx : TxRef} {t : OAuthTransaction}

/-! ### The steps of the code are these -/

theorem slot_modifySession (b : Shared) (s s' : SessionRef) (f : Session → Session) :
    (b.modifySession s f).slot s' =
      if s = s' then (b.sm.object s').bind fun o => (f o).eventWaiters else b.slot s' := by
  rw [slot, modifySession, object_modify]
  split
  · rw [bind_map]
    rfl
  · rfl

theorem flowStep_modifySession {f : Session → Session} (h : pc.stage = .outside)
    (h' : pc'.stage = .outside) (hf : ∀ o, (f o).eventWaiters = o.eventWaiters)
    (ha : ∀ o tx, (f o).activeOAuthTx = some tx → o.activeOAuthTx = some tx) :
    FlowStep cfg b rq pc ch (b.modifySession s f) pc' := by
  refine .outside h h' rfl rfl (funext fun s' => ?_) (tame_modifySession ha : Tame none _ _).active
  rw [slot_modifySession]
  split
  · exact congrArg (Option.bind _) (funext hf)
  · rfl

theorem flowStep_of_stepAcquire (h : stepAcquire b rq pc ch = some (b', pc')) :
    FlowStep cfg b rq pc ch b' pc' := by
  -- all but two of these steps change nothing
  have same : ∀ {pc pc' : TokenPc} {ch : Choice}, pc.stage = .outside → pc'.stage = .outside →
      FlowStep cfg b rq pc ch b pc' := fun h h' => .outside h h' rfl rfl rfl fun _ _ hact => hact
  unfold stepAcquire at h
  split at h
  · split at h
    · cases h
      exact same rfl rfl
    · split at h <;> cases h <;> exact same rfl rfl
  · split at h <;> cases h <;> exact same rfl rfl
  · split at h <;> cases h <;> exact same rfl rfl
  · split at h <;> cases h <;> exact same rfl rfl
  · split at h
    · cases h
      exact flowStep_modifySession rfl rfl (fun _ => rfl) fun _ _ hact => hact
    · cases h
  · cases h
    exact same rfl rfl
  · split at h <;> cases h <;> exact same rfl rfl
  · cases h
    exact flowStep_modifySession rfl rfl (fun _ => rfl) fun _ _ hact => hact
  · cases h

theorem setTxStatus_of_activeTx (h : b.activeTx s = some tx) (v : OAuthTxStatus) (pc : TokenPc) :
    b.setTxStatus s v pc = (b.modifyTx tx fun t => { t with status := v }, pc) := by
  rw [setTxStatus, h]

theorem flowStep_of_stepPrepare (h : stepPrepare cfg b rq pc ch = some (b', pc'))
    (hown : pc.stage ≠ .outside → ∃ s tx t, pc.Own b s tx t) : FlowStep cfg b rq pc ch b' pc' := by
  unfold stepPrepare at h
  split at h
  · cases h
    exact .outside rfl rfl rfl rfl rfl fun _ _ hact => hact
  · cases h
    exact .outside rfl rfl rfl rfl rfl fun _ _ hact => hact
  · cases h
    exact .install _
  · cases h
    exact .outside rfl rfl rfl rfl rfl fun _ _ hact => hact
  · -- the authorization URL
    obtain ⟨_, tx, t, ⟨⟩, htx, -⟩ := hown (by simp [TokenPc.stage])
    dsimp only at h
    split at h
    · rw [setTxStatus_of_activeTx htx] at h
      cases h
      exact .abandon rfl (by simp) rfl htx (.inr rfl) _
    · rw [htx] at h
      cases h
      exact .build htx _ _
  · obtain ⟨_, tx, t, ⟨⟩, htx, -⟩ := hown (by simp [TokenPc.stage])
    rw [setTxStatus_of_activeTx htx] at h
    cases h
    exact .abandon rfl (by simp) rfl htx (.inr rfl) _
  · -- the event
    split at h
    · rename_i hempty
      cases h
      obtain ⟨o, ho, hnone⟩ := map_eq_some_iff.mp hempty
      refine .publish ?_
      rw [slot, ho]
      exact hnone
    · cases h
  · obtain ⟨_, tx, t, ⟨⟩, htx, -⟩ := hown (by simp [TokenPc.stage])
    cases h
    exact .abandon rfl (by simp) rfl htx (.inl rfl) _
  · obtain ⟨_, tx, t, ⟨⟩, htx, -⟩ := hown (by simp [TokenPc.stage])
    split at h
    · cases h
      exact .abandon rfl (by simp) rfl htx (.inl rfl) _
    · cases h
  · cases h

theorem flowStep_of_stepComplete (h : stepComplete cfg b rq pc ch = some (b', pc'))
    (hown : pc.stage ≠ .outside → ∃ s tx t, pc.Own b s tx t)
    (herr : ∀ (tx : TxRef) t c, b.txs[tx]? = some t → t.completionChan = some c → c.error = none) :
    FlowStep cfg b rq pc ch b' pc' := by
  unfold stepComplete at h
  split at h
  · obtain ⟨_, tx, t, ⟨⟩, htx, -⟩ := hown (by simp [TokenPc.stage])
    rw [htx] at h
    cases h
    exact .enter htx
  · -- the completion: it carries no error
    obtain ⟨_, _, t, ⟨⟩, htx, ht, -, ⟨⟩⟩ := hown (by simp [TokenPc.stage])
    split at h
    · cases h
    · rename_i c hc
      rw [ht] at hc
      rw [herr _ t c ht hc] at h
      cases h
      exact .receive htx
  · obtain ⟨_, _, t, ⟨⟩, htx, -, -, ⟨⟩⟩ := hown (by simp [TokenPc.stage])
    rw [setTxStatus_of_activeTx htx] at h
    cases h
    exact .conclude rfl rfl htx rfl (by simp) rfl rfl rfl
  · obtain ⟨_, _, t, ⟨⟩, htx, -, -, ⟨⟩⟩ := hown (by simp [TokenPc.stage])
    split at h
    · rw [setTxStatus_of_activeTx htx] at h
      cases h
      exact .conclude rfl rfl htx rfl (by simp) rfl rfl rfl
    · cases h
  · obtain ⟨_, _, t, ⟨⟩, htx, -, -, ⟨⟩⟩ := hown (by simp [TokenPc.stage])
    rw [setTxStatus_of_activeTx htx] at h
    cases h
    exact .conclude rfl rfl htx rfl (by simp) rfl rfl rfl
  · -- the exchange
    obtain ⟨_, _, t, ⟨⟩, htx, -, -, ⟨⟩⟩ := hown (by simp [TokenPc.stage])
    split at h
    · cases h
    · dsimp only at h
      rw [setTxStatus_of_activeTx (by exact htx)] at h
      cases h
      exact .conclude rfl rfl htx rfl (by simp) rfl rfl rfl
  · obtain ⟨_, _, t, ⟨⟩, htx, -, -, ⟨⟩⟩ := hown (by simp [TokenPc.stage])
    dsimp only at h
    rw [setTxStatus_of_activeTx (by exact htx)] at h
    cases h
    exact .conclude rfl rfl htx rfl (by simp) rfl rfl rfl
  · cases h
    exact .outside rfl rfl rfl rfl rfl fun _ _ hact => hact
  · cases h
    exact flowStep_modifySession rfl rfl (fun _ => rfl) fun _ _ hact => absurd hact (by simp)
  · cases h

/-- **Every step of a token request is one of these moves**, if the request owns its
transaction and no error is in a channel. -/
theorem flowStep_of_stepToken (h : stepToken cfg b rq pc ch = some (b', pc'))
    (hown : pc.stage ≠ .outside → ∃ s tx t, pc.Own b s tx t)
    (herr : ∀ (tx : TxRef) t c, b.txs[tx]? = some t → t.completionChan = some c → c.error = none) :
    FlowStep cfg b rq pc ch b' pc' := by
  rcases stepToken_cases h with h | h | h
  · exact flowStep_of_stepAcquire h
  · exact flowStep_of_stepPrepare h hown
  · exact flowStep_of_stepComplete h hown herr

/-! ### What the moves do to the transactions -/

variable {i : ℕ} {tx' : TxRef} {t' : OAuthTransaction} {th : Thread}

/-- A session gets a new active transaction by its installation only. -/
theorem FlowStep.activeTx (h : FlowStep cfg b rq pc ch b' pc') {s' : SessionRef}
    (hact : b'.activeTx s' = some tx') : b.activeTx s' = some tx' ∨
      (pc.holds = some s' ∧ tx' = b.txs.length ∧ b'.txs.length = b.txs.length + 1) := by
  cases h with
  | outside _ _ _ _ _ hback => exact .inl (hback s' tx' hact)
  | @install s d p =>
    have heq := activeTx_modifySession b s s' fun o => { o with activeOAuthTx := some b.txs.length }
    rw [show (b.installTx s (newTx rq d p)).activeTx s' = _ from heq] at hact
    split at hact
    · rename_i hs
      obtain ⟨_, _, htx⟩ := bind_eq_some_iff.mp hact
      exact .inr ⟨congrArg some hs, (some.inj htx).symm, length_append⟩
    · exact .inl hact
  | publish =>
    refine .inl ((tame_modifySession ?_ : Tame none _ _).active s' tx' hact)
    exact fun _ _ h => h
  | abandon _ _ _ _ hb => rcases hb with rfl | rfl <;> exact .inl hact
  | conclude _ _ _ _ _ hsm =>
    rw [Shared.activeTx, hsm] at hact
    exact .inl hact
  | _ => exact .inl hact

theorem FlowStep.length_le (h : FlowStep cfg b rq pc ch b' pc') : b.txs.length ≤ b'.txs.length := by
  cases h with
  | outside _ _ htxs => exact (congrArg List.length htxs).ge
  | install =>
    show _ ≤ (b.txs ++ [_]).length
    rw [length_append]
    exact Nat.le_succ _
  | build | receive => exact (length_modify ..).ge
  | abandon _ _ _ _ hb =>
    rcases hb with rfl | rfl
    · exact le_rfl
    · exact (length_modify ..).ge
  | conclude _ _ _ _ _ _ _ htxs => exact (htxs ▸ length_modify ..).ge
  | _ => exact le_rfl

/-- **The frame rule for transactions**: a request changes its own only. -/
theorem FlowStep.txs_of_ne (h : FlowStep cfg b rq pc ch b' pc') (hlt : tx' < b.txs.length)
    (hne : ∀ s, pc.holds = some s → b.activeTx s ≠ some tx') : b'.txs[tx']? = b.txs[tx']? := by
  have modify : ∀ {s : SessionRef} {tx : TxRef} (f : OAuthTransaction → OAuthTransaction),
      pc.holds = some s → b.activeTx s = some tx → (b.txs.modify tx f)[tx']? = b.txs[tx']? := by
    intro s tx f hs htx
    refine (txs_modifyTx b tx tx' f).trans (if_neg ?_)
    rintro rfl
    exact hne s hs htx
  cases h with
  | outside _ _ htxs => rw [htxs]
  | install => exact getElem?_append_left hlt
  | build htx | receive htx => exact modify _ rfl htx
  | abandon _ _ hs htx hb =>
    rcases hb with rfl | rfl
    · rfl
    · exact modify _ hs htx
  | conclude _ hs htx _ _ _ _ htxs =>
    rw [htxs]
    exact modify _ hs htx
  | _ => rfl

theorem FlowStep.channel (h : FlowStep cfg b rq pc ch b' pc') {c : OAuthCompletion}
    (ht : b'.txs[tx']? = some t') (hc : t'.completionChan = some c) :
    ∃ t, b.txs[tx']? = some t ∧ t.completionChan = some c := by
  have modify : ∀ {tx : TxRef} {f : OAuthTransaction → OAuthTransaction},
      (b.txs.modify tx f)[tx']? = some t' →
      (∀ t c, (f t).completionChan = some c → t.completionChan = some c) →
      ∃ t, b.txs[tx']? = some t ∧ t.completionChan = some c := by
    intro tx f h' hf
    rw [show (b.txs.modify tx f)[tx']? = _ from txs_modifyTx b tx tx' f] at h'
    split at h'
    · obtain ⟨t, ht₀, rfl⟩ := map_eq_some_iff.mp h'
      exact ⟨t, ht₀, hf t c hc⟩
    · exact ⟨t', h', hc⟩
  cases h with
  | outside _ _ htxs => exact ⟨t', htxs ▸ ht, hc⟩
  | install =>
    rcases lt_or_ge tx' b.txs.length with hlt | hge
    · exact ⟨t', by rwa [installTx, getElem?_append_left hlt] at ht, hc⟩
    · rw [installTx, getElem?_append_right hge, getElem?_singleton] at ht
      split at ht
      · cases ht
        cases hc
      · cases ht
  | build => exact modify ht fun _ _ h => h
  | receive => exact modify ht fun _ _ h => absurd h (by simp)
  | abandon _ _ _ _ hb =>
    rcases hb with rfl | rfl
    · exact ⟨t', ht, hc⟩
    · exact modify ht fun _ _ h => h
  | conclude _ _ _ _ _ _ _ htxs =>
    rw [htxs] at ht
    exact modify ht fun _ _ h => h
  | _ => exact ⟨t', ht, hc⟩

theorem txs_modify_self (h : b.txs[tx]? = some t) (f : OAuthTransaction → OAuthTransaction) :
    (b.modifyTx tx f).txs[tx]? = some (f t) := by
  rw [txs_modifyTx, if_pos rfl, h]
  rfl

/-- **The move of an owner**: it owns a transaction afterwards if it has not left its flow. -/
theorem FlowStep.own (h : FlowStep cfg b rq pc ch b' pc')
    (hown : pc.stage ≠ .outside → ∃ s tx t, pc.Own b s tx t)
    (hheld : ∀ s, pc.holds = some s → (b.sm.core s).isSome) (hin : pc'.stage ≠ .outside) :
    ∃ s tx t, pc'.Own b' s tx t := by
  cases h with
  | outside _ h' | conclude _ _ _ h' => exact absurd h' hin
  | abandon => exact absurd rfl hin
  | @install s d p =>
    refine ⟨s, b.txs.length, newTx rq d p, rfl, ?_, getElem?_concat_length, rfl, trivial⟩
    exact activeTx_installTx s _ (hheld s rfl)
  | @build s d p tx htx url n =>
    obtain ⟨_, _, t, ⟨⟩, hact, ht, hst, -⟩ := hown (by simp [TokenPc.stage])
    cases htx.symm.trans hact
    exact ⟨s, tx, _, rfl, htx, txs_modify_self ht _, hst, rfl⟩
  | @publish s d p url hempty =>
    obtain ⟨_, tx, t, ⟨⟩, hact, ht, hst, -⟩ := hown (by simp [TokenPc.stage])
    refine ⟨s, tx, t, rfl, ?_, ht, hst, trivial⟩
    rw [activeTx_modifySession, if_pos rfl]
    exact hact
  | @enter s d p tx htx =>
    obtain ⟨_, _, t, ⟨⟩, hact, ht, hst, -⟩ := hown (by simp [TokenPc.stage])
    cases htx.symm.trans hact
    exact ⟨s, tx, t, rfl, htx, ht, hst, rfl⟩
  | @receive s d p tx c htx =>
    obtain ⟨_, _, t, ⟨⟩, -, ht, hst, ⟨⟩⟩ := hown (by simp [TokenPc.stage])
    exact ⟨s, tx, _, rfl, htx, txs_modify_self ht _, hst, rfl⟩

/-! ### Runs -/

/-- **The transactions and their owners**: an active transaction is one of a single session,
no error is in a channel, and a token request in its flow owns a transaction. -/
structure FlowsOwn (st : State) : Prop where
  single : SingleFlight st
  bounded : ∀ s tx, st.shared.activeTx s = some tx → tx < st.shared.txs.length
  injective : ∀ s s' tx, st.shared.activeTx s = some tx → st.shared.activeTx s' = some tx → s = s'
  errors : ∀ (tx : TxRef) t c, st.shared.txs[tx]? = some t → t.completionChan = some c →
    c.error = none
  own : ∀ (i : ℕ) rq pc, st.threads[i]? = some (.token rq pc) → pc.stage ≠ .outside →
    ∃ s tx t, pc.Own st.shared s tx t

variable {st st' : State} {a : Action}

theorem FlowsOwn.unique (h : FlowsOwn st) {j : ℕ} {rq rq' : TokenRequest} {s s' : SessionRef}
    (hi : st.threads[i]? = some (.token rq pc)) (hj : st.threads[j]? = some (.token rq' pc'))
    (hown : pc.Own st.shared s tx t) (hown' : pc'.Own st.shared s' tx t') : i = j := by
  obtain rfl := h.injective s s' tx hown.active hown'.active
  exact h.single.unique i j _ _ s hi hj hown.holds hown'.holds

/-- **What a request owns is not disturbed** by the moves of another. -/
theorem FlowsOwn.own_iff (h : FlowsOwn st) {j : ℕ} {rq' : TokenRequest} {pc₂ : TokenPc}
    (hi : st.threads[i]? = some (.token rq pc)) (hstep : TokenStep cfg st.shared rq pc b' pc')
    (hflow : FlowStep cfg st.shared rq pc ch b' pc') (hj : st.threads[j]? = some (.token rq' pc₂))
    (hne : i ≠ j) : pc₂.Own b' s tx t ↔ pc₂.Own st.shared s tx t := by
  have hact : pc₂.holds = some s → b'.activeTx s = st.shared.activeTx s := by
    intro hs
    rw [activeTx_eq_core, h.single.core_of_held hi hstep hj hs hne, ← activeTx_eq_core]
  have htxs : pc₂.holds = some s → st.shared.activeTx s = some tx →
      b'.txs[tx]? = st.shared.txs[tx]? := by
    intro hs htx
    refine hflow.txs_of_ne (h.bounded s tx htx) fun s' hs' htx' => hne ?_
    obtain rfl := h.injective s s' tx htx htx'
    exact h.single.unique i j _ _ s hi hj hs' hs
  constructor
  · rintro ⟨hs, htx, ht, hst, hag⟩
    rw [hact hs] at htx
    exact ⟨hs, htx, htxs hs htx ▸ ht, hst, hag⟩
  · rintro ⟨hs, htx, ht, hst, hag⟩
    exact ⟨hs, (hact hs).trans htx, (htxs hs htx).trans ht, hst, hag⟩

theorem FlowsOwn.flowStep (h : FlowsOwn st) (hi : st.threads[i]? = some (.token rq pc))
    (hs : stepToken cfg st.shared rq pc ch = some (b', pc')) :
    FlowStep cfg st.shared rq pc ch b' pc' :=
  flowStep_of_stepToken hs (h.own i rq pc hi) h.errors

theorem FlowsOwn.token (h : FlowsOwn st) (hi : st.threads[i]? = some (.token rq pc))
    (hs : stepToken cfg st.shared rq pc ch = some (b', pc')) :
    FlowsOwn { shared := b', threads := st.threads.set i (.token rq pc') } := by
  have hstep := tokenStep_of_stepToken hs
  have hflow := h.flowStep hi hs
  refine ⟨h.single.token hi hstep, fun s tx hact => ?_, fun s s' tx hact hact' => ?_,
    fun tx t c ht hc => ?_, fun j rq' pc₂ hj hin => ?_⟩
  · rcases hflow.activeTx hact with hold | ⟨-, rfl, hlen⟩
    · exact (h.bounded s tx hold).trans_le hflow.length_le
    · exact hlen ▸ Nat.lt_succ_self _
  · -- the new transaction is active in one session only
    rcases hflow.activeTx hact with hold | ⟨hs, rfl, -⟩
    · rcases hflow.activeTx hact' with hold' | ⟨-, rfl, -⟩
      · exact h.injective s s' tx hold hold'
      · exact absurd (h.bounded s _ hold) (lt_irrefl _)
    · rcases hflow.activeTx hact' with hold' | ⟨hs', -⟩
      · exact absurd (h.bounded s' _ hold') (lt_irrefl _)
      · exact some.inj (hs.symm.trans hs')
  · obtain ⟨t₀, ht₀, hc₀⟩ := hflow.channel ht hc
    exact h.errors tx t₀ c ht₀ hc₀
  · rcases eq_or_ne i j with rfl | hne
    · obtain ⟨rfl, rfl⟩ := Thread.token.inj (getElem?_set_eq hj)
      refine hflow.own (h.own i _ _ hi) (fun s hs => ?_) hin
      obtain ⟨c, hc, -⟩ := map_eq_some_iff.mp (h.single.taken i _ s hi hs)
      rw [hc]
      rfl
    · have hj' := getElem?_set_ne hj hne
      obtain ⟨s, tx, t, hown⟩ := h.own j rq' pc₂ hj' hin
      exact ⟨s, tx, t, (h.own_iff hi hstep hflow hj' hne).mpr hown⟩

/-- What a transaction shows to its owner. -/
structure OAuthTransaction.Same (t t' : OAuthTransaction) : Prop where
  status : t'.status = t.status
  authURL : t'.authURL = t.authURL

theorem TokenPc.Own.of_same (h : pc.Own b s tx t) (hact : b'.activeTx s = b.activeTx s)
    (ht : b'.txs[tx]? = some t') (hsame : t.Same t') : pc.Own b' s tx t' := by
  refine ⟨h.holds, hact.trans h.active, ht, hsame.status.trans h.status, ?_⟩
  have hag := h.agrees
  cases pc with
  | publish => exact hsame.authURL.trans hag
  | _ => exact hag

/-- A step that changes no active transaction, and of the transactions at most the
channels. -/
theorem FlowsOwn.frame (h : FlowsOwn st) (hsf : SingleFlight st')
    (hact : ∀ s, st'.shared.activeTx s = st.shared.activeTx s)
    {g : TxRef → OAuthTransaction → OAuthTransaction}
    (htxs : ∀ tx : TxRef, st'.shared.txs[tx]? = (st.shared.txs[tx]?).map (g tx))
    (hlen : st'.shared.txs.length = st.shared.txs.length)
    (hsame : ∀ tx t, OAuthTransaction.Same t (g tx t))
    (hchan : ∀ tx t c, (g tx t).completionChan = some c →
      t.completionChan = some c ∨ c.error = none)
    (hth : ∀ (i : ℕ) rq pc, st'.threads[i]? = some (.token rq pc) → pc.stage ≠ .outside →
      st.threads[i]? = some (.token rq pc)) : FlowsOwn st' := by
  refine ⟨hsf, fun s tx h' => ?_, fun s s' tx h' h'' => ?_, fun tx t c ht hc => ?_,
    fun i rq pc hi hin => ?_⟩
  · rw [hlen]
    exact h.bounded s tx (hact s ▸ h')
  · exact h.injective s s' tx (hact s ▸ h') (hact s' ▸ h'')
  · rw [htxs] at ht
    obtain ⟨t₀, ht₀, rfl⟩ := map_eq_some_iff.mp ht
    rcases hchan tx t₀ c hc with hold | hnone
    · exact h.errors tx t₀ c ht₀ hold
    · exact hnone
  · obtain ⟨s, tx, t, hown⟩ := h.own i rq pc (hth i rq pc hi hin) hin
    refine ⟨s, tx, g tx t, hown.of_same (hact s) ?_ (hsame tx t)⟩
    rw [htxs, hown.entry]
    rfl

theorem activeTx_congr (h : ∀ s, b'.sm.core s = b.sm.core s) (s : SessionRef) :
    b'.activeTx s = b.activeTx s := by
  rw [activeTx_eq_core, activeTx_eq_core, h]

theorem activeTx_createSession {sm' : SessionManager} {k u url : String}
    (h : b.sm.createSession cfg b.now k u url = .ok sm') (s : SessionRef) :
    ({ b with sm := sm' } : Shared).activeTx s = b.activeTx s := by
  rw [activeTx, (createSession_ok h).1 s, activeTx]
  split
  · rename_i heq
    rw [heq, object, getElem?_eq_none le_rfl]
    rfl
  · rfl

/-- A request in its flow is still where it was after another one has moved that is, or has
become, no token request. -/
theorem token_of_set {ths : List Thread} {j : ℕ} (hth : ∀ rq pc, th ≠ .token rq pc)
    (hj : (ths.set i th)[j]? = some (.token rq pc)) : ths[j]? = some (.token rq pc) := by
  rcases eq_or_ne i j with rfl | hne
  · exact absurd (getElem?_set_eq hj).symm (hth rq pc)
  · exact getElem?_set_ne hj hne

theorem token_of_append {ths : List Thread} {j : ℕ} (hnew : th.IsNew)
    (hj : (ths ++ [th])[j]? = some (.token rq pc)) (hin : pc.stage ≠ .outside) :
    ths[j]? = some (.token rq pc) := by
  rcases lt_or_ge j ths.length with hlt | hge
  · rwa [getElem?_append_left hlt] at hj
  · rw [getElem?_append_right hge, getElem?_singleton] at hj
    split at hj
    · rcases hnew with ⟨rq', rfl⟩ | hother
      · obtain ⟨-, rfl⟩ := Thread.token.inj (some.inj hj)
        exact absurd rfl hin
      · rw [some.inj hj] at hother
        exact hother.elim
    · cases hj

theorem Thread.Other.ne_token (h : th.Other) (rq : TokenRequest) (pc : TokenPc) :
    th ≠ .token rq pc := by
  rintro rfl
  exact h

theorem stepToken_of_step (hi : st.threads[i]? = some (.token rq pc))
    (h : step cfg st (.advance i ch) = some st') : ∃ b' pc',
      stepToken cfg st.shared rq pc ch = some (b', pc') ∧
      st' = { shared := b', threads := st.threads.set i (.token rq pc') } := by
  rw [step, hi] at h
  obtain ⟨⟨b', th'⟩, hstep, rfl⟩ := map_eq_some_iff.mp h
  obtain ⟨⟨b₁, pc'⟩, htok, heq⟩ := map_eq_some_iff.mp hstep
  cases heq
  exact ⟨b₁, pc', htok, rfl⟩

/-- **Every step keeps the transactions owned.** -/
theorem flowsOwn_step (h : FlowsOwn st) (hs : step cfg st a = some st') : FlowsOwn st' := by
  have hsf := singleFlight_step h.single hs
  -- a step that changes no transaction
  have keep : (∀ s, st'.shared.activeTx s = st.shared.activeTx s) → st'.shared.txs = st.shared.txs →
      (∀ (i : ℕ) rq pc, st'.threads[i]? = some (.token rq pc) → pc.stage ≠ .outside →
        st.threads[i]? = some (.token rq pc)) → FlowsOwn st' := by
    intro hact htxs hth
    refine h.frame hsf hact (g := fun _ => id) (fun tx => ?_) (congrArg List.length htxs)
      (fun _ _ => ⟨rfl, rfl⟩) (fun _ _ _ hc => .inl hc) hth
    rw [htxs, Option.map_id, id]
  cases move_of_step hs with
  | tick | refuse | cleanup => exact keep (fun _ => rfl) rfl fun _ _ _ hi _ => hi
  | create hc => exact keep (activeTx_createSession hc) rfl fun _ _ _ hi _ => hi
  | spawn hnew => exact keep (fun _ => rfl) rfl fun _ _ _ hj hin => token_of_append hnew hj hin
  | token hi _ =>
    obtain ⟨b', pc', htok, heq⟩ := stepToken_of_step hi hs
    rw [heq]
    exact h.token hi htok
  | @deliver i ch crq k u b' hi hdel =>
    obtain ⟨-, s, tx, t, -, -, -, -, rfl⟩ := completeOAuth_ok hdel
    refine h.frame hsf (fun _ => rfl) (g := fun tx' t =>
        if tx = tx' then { t with completionChan := some ⟨crq.code, crq.state, none⟩ } else t)
      (fun tx' => ?_) (length_modify ..) (fun tx' t => ?_) (fun tx' t c hc => ?_)
      fun _ _ _ hj _ => token_of_set (by simp) hj
    · refine (txs_modifyTx _ tx tx' _).trans ?_
      split
      · rfl
      · exact map_id'.symm
    · split <;> exact ⟨rfl, rfl⟩
    · split at hc
      · rw [← some.inj hc]
        exact .inr rfl
      · exact .inl hc
  | other hi hq hother =>
    exact keep (activeTx_congr hq.core) rfl fun _ _ _ hj _ => token_of_set hother.ne_token hj
  | quiet hq => exact keep (activeTx_congr hq.core) rfl fun _ _ _ hi _ => hi

theorem flowsOwn_init : FlowsOwn {} :=
  ⟨singleFlight_init, fun _ _ h => absurd h (by simp [activeTx, object]),
    fun _ _ _ h => absurd h (by simp [activeTx, object]),
    fun _ _ _ h => absurd h (by simp), fun _ _ _ h => absurd h (by simp)⟩

/-- **The transactions are owned in every run.** -/
theorem flowsOwn_run {as : List Action} (hrun : run (step cfg) {} as = some st) : FlowsOwn st :=
  run_invariant_unguarded (fun _ _ _ h => flowsOwn_step h) flowsOwn_init hrun

theorem flowsOwn_queuedRun : ∃ st, run (step hourConfig) {} queuedRun = some st ∧ FlowsOwn st := by
  have hrun : ∃ st, run (step hourConfig) {} queuedRun = some st := ⟨_, rfl⟩
  exact hrun.imp fun _ hst => ⟨hst, flowsOwn_run hst⟩

end Rossoctl.Broker
