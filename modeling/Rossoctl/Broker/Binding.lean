import Rossoctl.Broker.Flight

/-!
# Authorization codes and the transactions they are exchanged in

A callback is accepted when its state is the state of the session's active
transaction; the code is handed over in a later step, to whatever transaction is
active then. `Rossoctl.Broker.Bound` is what should hold of every exchange: the
code came in on the transaction whose verifier and token endpoint are used, with
that transaction's state.

Two facts carry it. The requests wire their flows correctly: by the single flight
of `Rossoctl.Broker.Flight` the transaction a request waits on is the one it has
installed (`Rossoctl.Broker.TokenPc.Flow`). And a transaction's state is written
once, before any code can be delivered to it (`Rossoctl.Broker.TxFrame`). What is
missing is the comparison in `CompleteOAuth`; as long as its outcome would have
been favourable (`Rossoctl.Broker.StateMatches`), every exchange is bound
(`Rossoctl.Broker.exchange_bound`). `Rossoctl.Broker.exchange_unbound` is a run
where it is not: the first flow times out between the two steps of its callback,
and the code goes to the flow queued behind it.
-/

namespace Rossoctl.Broker

open List Option SessionManager Shared

/-! ### What the binding says -/

/-- **An exchange is bound**: the transaction on whose channel the code came has
the verifier and the token endpoint that are used, a callback delivered this code
to it, and what callbacks delivered to it carried its state. -/
def Bound (b : Shared) (e : ExchangeCall) : Prop :=
  ∃ t, b.txs[e.tx]? = some t ∧ t.codeVerifier = e.codeVerifier ∧ t.tokenEndpoint = e.tokenEndpoint ∧
    (∃ d ∈ b.deliveries, d.tx = e.tx ∧ d.completion.code = e.code) ∧
    ∀ d ∈ b.deliveries, d.tx = e.tx → d.completion.state = t.state

/-- The active transaction of the session registered under a key. -/
def Shared.recipient (b : Shared) (sessionKey : String) : Option OAuthTransaction :=
  ((b.sm.sessions.lookup sessionKey).bind b.activeTx).bind (b.txs[·]?)

/-- A callback about to complete would find its own state: if the session is
still the user's and a transaction is ready to receive, that transaction carries
the callback's state. -/
def Thread.FindsState (b : Shared) : Thread → Prop
  | .callback rq (.complete sessionKey userID) =>
    b.sm.validateSession sessionKey userID = .ok () →
      ∀ t, b.recipient sessionKey = some t → t.completionChan = none → t.state = rq.state
  | _ => True

/-- The condition on a step: a callback completes only where it would find its
own state. -/
def StateMatches (st : State) : Action → Prop
  | .advance i _ => ∀ th, st.threads[i]? = some th → th.FindsState st.shared
  | _ => True

instance (b : Shared) : (th : Thread) → Decidable (th.FindsState b)
  | .callback rq (.complete k u) =>
    have : Decidable (∀ t, b.recipient k = some t → t.completionChan = none → t.state = rq.state) :=
      match b.recipient k with
      | none => isTrue (by simp)
      | some t => decidable_of_iff (t.completionChan = none → t.state = rq.state) (by simp)
    inferInstanceAs (Decidable (b.sm.validateSession k u = .ok () → _))
  | .callback _ .lookup | .callback _ (.returned _) | .token .. | .events .. | .finish .. =>
    isTrue trivial

instance (st : State) : (a : Action) → Decidable (StateMatches st a)
  | .advance i _ =>
    match h : st.threads[i]? with
    | none => isTrue fun th hth => absurd (h.symm.trans hth) (by simp)
    | some th => decidable_of_iff (th.FindsState st.shared) (by simp [StateMatches, h])
  | .createSession .. | .tick _ | .getToken _ | .events .. | .callback _ | .endSession ..
  | .fireTimer _ | .runTimer _ | .cleanupExpiredTokens | .shutdown => isTrue trivial

/-! ### The transactions -/

/-- A step's effect on the transactions: the verifier and the token endpoint stay,
and the state stays unless it was empty and the transaction is the active one of
the session `so`. -/
structure TxFrame (so : Option SessionRef) (b b' : Shared) : Prop where
  txs : ∀ (tx : TxRef) t, b.txs[tx]? = some t → ∃ t', b'.txs[tx]? = some t' ∧
    t'.codeVerifier = t.codeVerifier ∧ t'.tokenEndpoint = t.tokenEndpoint ∧
    (t'.state = t.state ∨ (t.state = "" ∧ ∃ s, so = some s ∧ b.activeTx s = some tx))
  deliveries : ∀ d ∈ b.deliveries, d ∈ b'.deliveries

variable {tx : TxRef} {so : Option SessionRef} {ths : List Thread} {sm' : SessionManager}

theorem TxFrame.of_eq {b b' : Shared} (ht : b'.txs = b.txs) (hd : b'.deliveries = b.deliveries) :
    TxFrame so b b' :=
  ⟨fun tx t h => ⟨t, by rw [ht, h], rfl, rfl, Or.inl rfl⟩, fun d h => by rwa [hd]⟩

theorem txs_modifyTx (b : Shared) (tx ref : TxRef) (f : OAuthTransaction → OAuthTransaction) :
    (b.modifyTx tx f).txs[ref]? = if tx = ref then (b.txs[ref]?).map f else b.txs[ref]? := by
  rw [modifyTx, getElem?_modify]
  split
  · rfl
  · exact id_map _

variable {f : OAuthTransaction → OAuthTransaction} {e : ExchangeCall} {th : Thread}

theorem txFrame_modifyTx {b : Shared} (hv : ∀ t, (f t).codeVerifier = t.codeVerifier)
    (he : ∀ t, (f t).tokenEndpoint = t.tokenEndpoint)
    (hs : ∀ t, b.txs[tx]? = some t →
      (f t).state = t.state ∨ (t.state = "" ∧ ∃ s, so = some s ∧ b.activeTx s = some tx)) :
    TxFrame so b (b.modifyTx tx f) := by
  refine ⟨fun ref t h => ?_, fun _ h => h⟩
  rw [txs_modifyTx]
  split
  · rename_i heq
    subst heq
    exact ⟨f t, by rw [h]; rfl, hv t, he t, hs t h⟩
  · exact ⟨t, h, rfl, rfl, Or.inl rfl⟩

/-- The transaction of a flow: it has the flow's verifier and token endpoint. -/
def TxOf (b : Shared) (d : Discovery) (p : PKCEChallenge) (tx : TxRef) : Prop :=
  ∃ t, b.txs[tx]? = some t ∧ t.codeVerifier = p.verifier ∧ t.tokenEndpoint = d.tokenEndpoint

theorem TxOf.frame {b b' : Shared} {d : Discovery} {p : PKCEChallenge} (h : TxOf b d p tx)
    (hf : TxFrame so b b') : TxOf b' d p tx := by
  obtain ⟨t, ht, hv, he⟩ := h
  obtain ⟨t', ht', hv', he', -⟩ := hf.txs tx t ht
  exact ⟨t', ht', hv'.trans hv, he'.trans he⟩

/-! ### The invariant -/

/-- **What a token request knows about its flow.** -/
def TokenPc.Flow (b : Shared) : TokenPc → Prop
  | .buildURL s d p => ∃ tx, b.activeTx s = some tx ∧ TxOf b d p tx ∧
      (b.txs[tx]?).map OAuthTransaction.state = some ""
  | .publish s d p _ => ∃ tx, b.activeTx s = some tx ∧ TxOf b d p tx
  | .enterWait s d p => ∃ tx, b.activeTx s = some tx ∧ TxOf b d p tx
  | .wait _ d p tx => TxOf b d p tx
  | .exchange _ d p tx c => TxOf b d p tx ∧ { tx := tx, completion := c } ∈ b.deliveries
  | _ => True

/-- What an exchange owes to the flow that makes it. -/
def Exchanged (b : Shared) (e : ExchangeCall) : Prop :=
  (∃ t, b.txs[e.tx]? = some t ∧ t.codeVerifier = e.codeVerifier ∧
    t.tokenEndpoint = e.tokenEndpoint) ∧
  ∃ d ∈ b.deliveries, d.tx = e.tx ∧ d.completion.code = e.code

/-- **How the transactions are wired** to the sessions, the channels and the
records. -/
structure Wired (b : Shared) : Prop where
  active : ∀ s tx, b.activeTx s = some tx → tx < b.txs.length
  injective : ∀ s s' tx, b.activeTx s = some tx → b.activeTx s' = some tx → s = s'
  channel : ∀ (tx : TxRef) t c, b.txs[tx]? = some t → t.completionChan = some c →
    { tx := tx, completion := c } ∈ b.deliveries
  delivered : ∀ d ∈ b.deliveries, ∃ t, b.txs[d.tx]? = some t ∧ t.state = d.completion.state ∧
    t.state ≠ ""
  exchanged : ∀ e ∈ b.exchanges, Exchanged b e

/-- A step that installs no transaction and delivers nothing. -/
structure Tame (so : Option SessionRef) (b b' : Shared) : Prop extends TxFrame so b b' where
  length : b.txs.length ≤ b'.txs.length
  active : ∀ s tx, b'.activeTx s = some tx → b.activeTx s = some tx
  channel : ∀ (tx : TxRef) t' c, b'.txs[tx]? = some t' → t'.completionChan = some c →
    ∃ t, b.txs[tx]? = some t ∧ t.completionChan = some c
  undelivered : b'.deliveries = b.deliveries

variable {cfg : Config} {b b' : Shared} {rq : TokenRequest} {pc pc' : TokenPc}
  {so : Option SessionRef}

theorem Exchanged.frame (h : Exchanged b e) (hf : TxFrame so b b') : Exchanged b' e := by
  obtain ⟨⟨t, ht, hv, he⟩, d, hd, hdtx⟩ := h
  obtain ⟨t', ht', hv', he', -⟩ := hf.txs _ t ht
  exact ⟨⟨t', ht', hv'.trans hv, he'.trans he⟩, d, hf.deliveries d hd, hdtx⟩

/-- What has been delivered keeps its transaction, whose state can no longer
change. -/
theorem Wired.delivered_frame (h : Wired b) (hf : TxFrame so b b') {d : Delivery}
    (hd : d ∈ b.deliveries) : ∃ t, b'.txs[d.tx]? = some t ∧ t.state = d.completion.state ∧
      t.state ≠ "" := by
  obtain ⟨t, ht, hstate, hne⟩ := h.delivered d hd
  obtain ⟨t', ht', -, -, hsame | ⟨hempty, -⟩⟩ := hf.txs _ t ht
  · exact ⟨t', ht', hsame.trans hstate, hsame ▸ hne⟩
  · exact absurd hempty hne

theorem Wired.tame (h : Wired b) (ht : Tame so b b')
    (hex : ∀ e ∈ b'.exchanges, e ∈ b.exchanges ∨ Exchanged b e) : Wired b' where
  active s tx hs := (h.active s tx (ht.active s tx hs)).trans_le ht.length
  injective s s' tx hs hs' := h.injective s s' tx (ht.active s tx hs) (ht.active s' tx hs')
  channel tx t' c htx hc := by
    obtain ⟨t, htx', hc'⟩ := ht.channel tx t' c htx hc
    exact ht.deliveries _ (h.channel tx t c htx' hc')
  delivered d hd := h.delivered_frame ht.toTxFrame (ht.undelivered ▸ hd)
  exchanged e he := by
    rcases hex e he with hold | hnew
    · exact (h.exchanged e hold).frame ht.toTxFrame
    · exact hnew.frame ht.toTxFrame

/-! ### One step of a token request -/

theorem activeTx_eq_core (b : Shared) (s : SessionRef) :
    b.activeTx s = (b.sm.core s).bind Session.Core.activeOAuthTx := by
  rw [activeTx, core, bind_map]
  rfl

theorem activeTx_modifySession (b : Shared) (s ref : SessionRef) (f : Session → Session) :
    (b.modifySession s f).activeTx ref =
      if s = ref then (b.sm.object ref).bind fun o => (f o).activeOAuthTx else b.activeTx ref := by
  rw [activeTx, modifySession, object_modify]
  split
  · rw [bind_map]
    rfl
  · rfl

/-- A change that leaves the transactions and the deliveries alone, and gives no
session a new active transaction. -/
theorem tame_of_eq (ht : b'.txs = b.txs) (hd : b'.deliveries = b.deliveries)
    (ha : ∀ s tx, b'.activeTx s = some tx → b.activeTx s = some tx) : Tame so b b' where
  toTxFrame := .of_eq ht hd
  length := le_of_eq (congrArg List.length ht.symm)
  active := ha
  channel tx t' c h hc := ⟨t', by rwa [ht] at h, hc⟩
  undelivered := hd

theorem tame_modifySession {s : SessionRef} {f : Session → Session}
    (hf : ∀ o tx, (f o).activeOAuthTx = some tx → o.activeOAuthTx = some tx) :
    Tame so b (b.modifySession s f) := by
  refine tame_of_eq rfl rfl fun ref tx h => ?_
  rw [activeTx_modifySession] at h
  split at h
  · obtain ⟨o, ho, htx⟩ := bind_eq_some_iff.mp h
    rw [activeTx, ho]
    exact hf o tx htx
  · exact h

theorem tame_modifyTx (hf : TxFrame so b (b.modifyTx tx f))
    (hc : ∀ t c, (f t).completionChan = some c → t.completionChan = some c) :
    Tame so b (b.modifyTx tx f) where
  toTxFrame := hf
  length := le_of_eq (length_modify f b.txs tx).symm
  active _ _ h := h
  channel ref t' c h hchan := by
    rw [txs_modifyTx] at h
    split at h
    · obtain ⟨t, ht, rfl⟩ := map_eq_some_iff.mp h
      exact ⟨t, ht, hc t c hchan⟩
    · exact ⟨t', h, hchan⟩
  undelivered := rfl

theorem Tame.log (h : Tame so (b.logExchange e) b') : Tame so b b' where
  txs := h.txs
  deliveries := h.deliveries
  length := h.length
  active := h.active
  channel := h.channel
  undelivered := h.undelivered

theorem tame_status (b : Shared) (tx : TxRef) (st : OAuthTxStatus) :
    Tame so b (b.modifyTx tx fun t => { t with status := st }) :=
  tame_modifyTx (txFrame_modifyTx (fun _ => rfl) (fun _ => rfl) fun _ _ => Or.inl rfl)
    fun _ _ h => h

theorem tame_receive (b : Shared) (tx : TxRef) :
    Tame so b (b.modifyTx tx fun t => { t with completionChan := none }) :=
  tame_modifyTx (txFrame_modifyTx (fun _ => rfl) (fun _ => rfl) fun _ _ => Or.inl rfl)
    fun _ _ h => absurd h (by simp)

/-- **A move is tame, or it installs a transaction.** -/
theorem tame_tokenStep (h : TokenStep cfg b rq pc b' pc') (hflow : pc.Flow b) :
    Tame pc.holds b b' ∨ ∃ s d p, b' = b.installTx s (newTx rq d p) := by
  cases h with
  | installed => exact Or.inr ⟨_, _, _, rfl⟩
  | acquired | published | released =>
    refine Or.inl (tame_modifySession ?_)
    exact fun _ _ h => h
  | finished =>
    refine Or.inl (tame_modifySession ?_)
    exact fun _ _ h => absurd h (by simp)
  | giveUpTx => exact Or.inl (tame_status _ _ _)
  | @built s d p tx hact =>
    obtain ⟨tx', hact', -, hempty⟩ := hflow
    cases hact.symm.trans hact'
    refine Or.inl (tame_modifyTx (txFrame_modifyTx (fun _ => rfl) (fun _ => rfl)
      fun t ht => Or.inr ?_) fun _ _ h => h)
    rw [ht] at hempty
    exact ⟨some.inj hempty, s, rfl, hact⟩
  | received | receivedError => exact Or.inl (tame_receive _ _)
  | exchanged | exchangeFailed => exact Or.inl (tame_status _ _ _).log
  | _ => exact Or.inl (tame_of_eq rfl rfl fun _ _ h => h)

/-- **The exchanges a request makes** owe their arguments to its flow. -/
theorem exchanged_tokenStep (h : TokenStep cfg b rq pc b' pc') (hflow : pc.Flow b) :
    ∀ e ∈ b'.exchanges, e ∈ b.exchanges ∨ Exchanged b e := by
  cases h with
  | exchanged | exchangeFailed | exchangePanic =>
    intro e he
    rcases mem_append.mp he with hold | hnew
    · exact Or.inl hold
    · obtain rfl := mem_singleton.mp hnew
      exact Or.inr ⟨hflow.1, _, hflow.2, rfl, rfl⟩
  | _ => exact fun e he => Or.inl he

theorem wired_installTx (h : Wired b) (s : SessionRef) {t : OAuthTransaction}
    (ht : t.completionChan = none) :
    TxFrame so b (b.installTx s t) ∧ Wired (b.installTx s t) := by
  have hact : ∀ ref tx, (b.installTx s t).activeTx ref = some tx →
      (ref = s ∧ tx = b.txs.length) ∨ b.activeTx ref = some tx := by
    intro ref tx href
    have heq := activeTx_modifySession b s ref fun o =>
      { o with activeOAuthTx := some b.txs.length }
    rw [show (b.installTx s t).activeTx ref = _ from heq] at href
    split at href
    · obtain ⟨_, _, heq⟩ := bind_eq_some_iff.mp href
      exact Or.inl ⟨‹s = ref›.symm, (some.inj heq).symm⟩
    · exact Or.inr href
  have htxs : ∀ (tx : TxRef) t', b.txs[tx]? = some t' → (b.installTx s t).txs[tx]? = some t' :=
    fun tx t' h' => by
      rw [installTx, List.getElem?_append_left (List.getElem?_eq_some_iff.mp h').1]
      exact h'
  have hf : TxFrame so b (b.installTx s t) :=
    ⟨fun tx t' h' => ⟨t', htxs tx t' h', rfl, rfl, Or.inl rfl⟩, fun _ h => h⟩
  have hlen : (b.installTx s t).txs.length = b.txs.length + 1 := length_append
  refine ⟨hf, ⟨fun ref tx href => ?_, fun ref ref' tx href href' => ?_, fun tx t' c h' hc => ?_,
    fun d hd => h.delivered_frame hf hd, fun e he => (h.exchanged e he).frame hf⟩⟩
  · rw [hlen]
    rcases hact ref tx href with ⟨-, rfl⟩ | hold
    · exact Nat.lt_succ_self _
    · exact Nat.lt_succ_of_lt (h.active ref tx hold)
  · -- the new transaction is active in one session only
    rcases hact ref tx href with ⟨rfl, htx⟩ | hold <;>
      rcases hact ref' tx href' with ⟨rfl, htx'⟩ | hold'
    · rfl
    · exact absurd (h.active _ _ hold') (htx ▸ lt_irrefl _)
    · exact absurd (h.active _ _ hold) (htx' ▸ lt_irrefl _)
    · exact h.injective ref ref' tx hold hold'
  · rcases lt_or_ge tx b.txs.length with hlt | hge
    · rw [installTx, getElem?_append_left hlt] at h'
      exact h.channel tx t' c h' hc
    · rw [installTx, getElem?_append_right hge, getElem?_singleton] at h'
      split at h'
      · cases h'
        exact absurd (ht.symm.trans hc) (by simp)
      · cases h'

/-- **A token request keeps the wiring.** -/
theorem wired_tokenStep (hw : Wired b) (hflow : pc.Flow b) (h : TokenStep cfg b rq pc b' pc') :
    TxFrame pc.holds b b' ∧ Wired b' := by
  rcases tame_tokenStep h hflow with ht | ⟨s, d, p, rfl⟩
  · exact ⟨ht.toTxFrame, hw.tame ht (exchanged_tokenStep h hflow)⟩
  · exact wired_installTx hw s rfl

theorem activeTx_installTx (s : SessionRef) (t : OAuthTransaction) (h : (b.sm.core s).isSome) :
    (b.installTx s t).activeTx s = some b.txs.length := by
  rw [activeTx_eq_core, core_installTx, if_pos rfl]
  rw [core, isSome_map] at h
  obtain ⟨o, ho⟩ := isSome_iff_exists.mp h
  rw [ho]
  rfl

/-- **What a token request knows after its own step.** -/
theorem flow_tokenStep (hw : Wired b) (hflow : pc.Flow b) (h : TokenStep cfg b rq pc b' pc')
    (hheld : ∀ s, pc.holds = some s → (b.sm.core s).isSome) : pc'.Flow b' := by
  have hf := (wired_tokenStep hw hflow h).1
  cases h with
  | @installed s d p =>
    have htx : (b.installTx s (newTx rq d p)).txs[b.txs.length]? = some (newTx rq d p) :=
      getElem?_concat_length
    refine ⟨b.txs.length, activeTx_installTx s _ (hheld s rfl), ⟨_, htx, rfl, rfl⟩, ?_⟩
    rw [htx]
    rfl
  | built hact =>
    obtain ⟨tx, hact', htx, -⟩ := hflow
    exact ⟨tx, hact', htx.frame hf⟩
  | published =>
    obtain ⟨tx, hact, htx⟩ := hflow
    refine ⟨tx, ?_, htx.frame hf⟩
    rw [activeTx_modifySession, if_pos rfl]
    exact hact
  | @waiting s d p tx hact =>
    obtain ⟨tx', hact', htx⟩ := hflow
    cases hact.symm.trans hact'
    exact htx
  | @received s d p tx c hc =>
    obtain ⟨t, ht, hchan⟩ := bind_eq_some_iff.mp hc
    exact ⟨TxOf.frame hflow hf, hf.deliveries _ (hw.channel tx t c ht hchan)⟩
  | _ => trivial

/-- **What a token request knows is not disturbed** by a step that changes neither
the core of its session nor, if it is not its own, a state. -/
theorem TokenPc.Flow.frame (hw : Wired b) (h : pc.Flow b) (hf : TxFrame so b b')
    (hso : ∀ s, pc.holds = some s → so ≠ some s)
    (hact : ∀ s tx, pc.holds = some s → b.activeTx s = some tx → b'.activeTx s = some tx) :
    pc.Flow b' := by
  cases pc with
  | buildURL s d p =>
    obtain ⟨tx, ha, htx, hempty⟩ := h
    refine ⟨tx, hact s tx rfl ha, htx.frame hf, ?_⟩
    obtain ⟨t, ht, hstate⟩ := map_eq_some_iff.mp hempty
    obtain ⟨t', ht', -, -, hsame | ⟨-, s', hs', ha'⟩⟩ := hf.txs tx t ht
    · rw [ht', ← hstate, ← hsame]
      rfl
    · -- another session would have the same active transaction
      obtain rfl := hw.injective s s' tx ha ha'
      exact absurd hs' (hso s rfl)
  | publish s d p url | enterWait s d p =>
    obtain ⟨tx, ha, htx⟩ := h
    exact ⟨tx, hact s tx rfl ha, htx.frame hf⟩
  | wait s d p tx => exact TxOf.frame h hf
  | exchange s d p tx c => exact ⟨TxOf.frame h.1 hf, hf.deliveries _ h.2⟩
  | _ => trivial

/-! ### Runs -/

/-- What a request knows: a token request about its flow, a callback about to
complete that its state is not empty. -/
def Thread.Flow (b : Shared) : Thread → Prop
  | .token _ pc => pc.Flow b
  | th => th.Other

/-- The transactions are wired, and every request knows what it should. -/
structure Known (b : Shared) (ths : List Thread) : Prop where
  wired : Wired b
  flow : ∀ (i : ℕ) th, ths[i]? = some th → th.Flow b

/-- **The invariant of the binding.** -/
structure Binding (st : State) : Prop where
  single : SingleFlight st
  known : Known st.shared st.threads

variable {st st' : State}

theorem flow_of_other (h : th.Other) : th.Flow b := by
  cases th with
  | token rq pc => exact h.elim
  | _ => exact h

/-- What a request knows is not disturbed by a step that touches no session. -/
theorem Thread.Flow.frame (hw : Wired b) (h : th.Flow b) (hf : TxFrame none b b')
    (hcore : ∀ s c, b.sm.core s = some c → b'.sm.core s = some c) : th.Flow b' := by
  cases th with
  | token rq pc =>
    refine TokenPc.Flow.frame hw h hf (fun _ _ => by simp) fun s tx _ ha => ?_
    rw [activeTx_eq_core] at ha ⊢
    obtain ⟨c, hc, htx⟩ := bind_eq_some_iff.mp ha
    rw [hcore s c hc]
    exact htx
  | _ => exact h

theorem flow_set {i : ℕ} {th' : Thread} (h : ∀ (j : ℕ) th, i ≠ j → ths[j]? = some th → th.Flow b')
    (h' : th'.Flow b') : ∀ (j : ℕ) th, (ths.set i th')[j]? = some th → th.Flow b' := by
  intro j th hj
  rcases eq_or_ne i j with rfl | hne
  · obtain rfl := getElem?_set_eq hj
    exact h'
  · exact h j th hne (getElem?_set_ne hj hne)

theorem Binding.token (hb : Binding st) {i : ℕ} (hi : st.threads[i]? = some (.token rq pc))
    (h : TokenStep cfg st.shared rq pc b' pc') :
    Known b' (st.threads.set i (.token rq pc')) := by
  have hflow : pc.Flow st.shared := hb.known.flow i _ hi
  obtain ⟨hf, hw⟩ := wired_tokenStep hb.known.wired hflow h
  refine ⟨hw, flow_set (fun j th hne hj => ?_)
    (flow_tokenStep hb.known.wired hflow h fun s hs => ?_)⟩
  · have hth := hb.known.flow j th hj
    cases th with
    | token rq₂ pc₂ =>
      refine TokenPc.Flow.frame hb.known.wired hth hf (fun s hs heq => ?_) fun s tx hs ha => ?_
      · exact hne (hb.single.unique i j _ _ s hi hj heq hs)
      · rw [activeTx_eq_core, hb.single.core_of_held hi h hj hs hne, ← activeTx_eq_core]
        exact ha
    | _ => exact hth
  · have htaken := hb.single.taken i _ s hi hs
    obtain ⟨c, hc, -⟩ := map_eq_some_iff.mp htaken
    rw [hc]
    rfl

/-- The delivery of a code to a transaction that carries the callback's state. -/
theorem wired_deliver {t : OAuthTransaction} {c : OAuthCompletion} (hw : Wired b)
    (ht : b.txs[tx]? = some t) (hstate : t.state = c.state) (hne : c.state ≠ "") :
    TxFrame none b (b.deliver tx c) ∧ Wired (b.deliver tx c) := by
  have htxs := txs_modifyTx b tx
  have hf : TxFrame none b (b.deliver tx c) := by
    have hfr : TxFrame none b (b.modifyTx tx fun t => { t with completionChan := some c }) :=
      txFrame_modifyTx (fun _ => rfl) (fun _ => rfl) fun _ _ => Or.inl rfl
    exact ⟨hfr.txs, fun d hd => mem_append_left _ hd⟩
  refine ⟨hf, ⟨fun s tx' h => ?_, hw.injective, fun ref t' c' h hc => ?_, fun d hd => ?_,
    fun e he => (hw.exchanged e he).frame hf⟩⟩
  · exact (hw.active s tx' h).trans_eq (length_modify _ b.txs tx).symm
  · rw [show (b.deliver tx c).txs[ref]? = _ from htxs ref _] at h
    split at h
    · rename_i heq
      subst heq
      obtain ⟨_, _, rfl⟩ := map_eq_some_iff.mp h
      cases hc
      exact mem_append_right _ (mem_singleton_self _)
    · exact mem_append_left _ (hw.channel ref t' c' h hc)
  · rcases mem_append.mp hd with hold | hnew
    · exact hw.delivered_frame hf hold
    · obtain rfl := mem_singleton.mp hnew
      refine ⟨{ t with completionChan := some c }, ?_, hstate, hstate ▸ hne⟩
      rw [show (b.deliver tx c).txs[tx]? = _ from htxs tx _, if_pos rfl, ht]
      rfl

theorem Binding.deliver (hb : Binding st) {i : ℕ} {crq : CallbackRequest} {k u : String}
    (hi : st.threads[i]? = some (.callback crq (.complete k u)))
    (hok : (Thread.callback crq (.complete k u)).FindsState st.shared)
    (h : completeOAuth st.shared k u crq.code crq.state = .ok b') :
    Known b' (st.threads.set i (.callback crq (.returned .success))) := by
  obtain ⟨hval, s, tx, t, hs, hact, htx, hnone, rfl⟩ := completeOAuth_ok h
  have hrec : st.shared.recipient k = some t := by
    rw [recipient, hs, bind_some, hact, bind_some, htx]
  obtain ⟨hf, hw⟩ := wired_deliver (c := { code := crq.code, state := crq.state, error := none })
    hb.known.wired htx (hok hval t hrec hnone) (hb.known.flow i _ hi)
  exact ⟨hw, flow_set
    (fun j th _ hj => (hb.known.flow j th hj).frame hb.known.wired hf fun _ _ h => h)
    trivial⟩

/-- A change of the session manager that leaves the cores there are alone, and
adds no active transaction. -/
theorem Binding.sessions (hb : Binding st)
    (hcore : ∀ s c, st.shared.sm.core s = some c → sm'.core s = some c)
    (hact : ∀ s tx, (sm'.core s).bind Session.Core.activeOAuthTx = some tx →
      st.shared.activeTx s = some tx)
    (hths : ∀ (j : ℕ) th, ths[j]? = some th → st.threads[j]? = some th ∨ th.Other) :
    Known { st.shared with sm := sm' } ths := by
  have ht : Tame none st.shared { st.shared with sm := sm' } := by
    refine tame_of_eq rfl rfl fun s tx h => hact s tx ?_
    rwa [activeTx_eq_core] at h
  refine ⟨hb.known.wired.tame ht fun e he => Or.inl he, fun j th hj => ?_⟩
  rcases hths j th hj with hold | hother
  · exact (hb.known.flow j th hold).frame hb.known.wired ht.toTxFrame hcore
  · exact flow_of_other hother

theorem Binding.quiet (hb : Binding st) (hq : st.shared.sm.Quiet sm')
    (hths : ∀ (j : ℕ) th, ths[j]? = some th → st.threads[j]? = some th ∨ th.Other) :
    Known { st.shared with sm := sm' } ths := by
  refine hb.sessions (fun s c h => (hq.core s).trans h) (fun s tx h => ?_) hths
  rwa [hq.core s, ← activeTx_eq_core] at h

theorem Binding.create (hb : Binding st) {k u url : String}
    (h : st.shared.sm.createSession cfg st.shared.now k u url = .ok sm') :
    Known { st.shared with sm := sm' } st.threads := by
  refine hb.sessions (fun s c => core_createSession h) (fun s tx hs => ?_) fun _ _ hj => Or.inl hj
  rw [core, (createSession_ok h).1 s] at hs
  split at hs
  · -- a new session has no transaction
    cases hs
  · rwa [activeTx_eq_core]

/-- **Every step keeps the binding**, if a callback that completes finds its own
state. -/
theorem binding_step {a : Action} (hb : Binding st) (hok : StateMatches st a)
    (hs : step cfg st a = some st') : Binding st' := by
  have hsf := singleFlight_step hb.single hs
  have same : ∀ (j : ℕ) th, st.threads[j]? = some th → st.threads[j]? = some th ∨ th.Other :=
    fun _ _ hj => Or.inl hj
  have keep : ∀ {b' : Shared}, b'.sm = st.shared.sm → b'.txs = st.shared.txs →
      b'.deliveries = st.shared.deliveries → b'.exchanges = st.shared.exchanges →
      Known b' st.threads := by
    intro b' hsm htxs hdel hex
    have ht : Tame none st.shared b' := by
      refine tame_of_eq htxs hdel fun s tx h => ?_
      rwa [activeTx, hsm] at h
    exact ⟨hb.known.wired.tame ht fun e he => Or.inl (hex ▸ he), fun j th hj =>
      (hb.known.flow j th hj).frame hb.known.wired ht.toTxFrame fun s c h => by rwa [hsm]⟩
  cases move_of_step hs with
  | tick | refuse | cleanup =>
    refine ⟨hsf, keep ?_ ?_ ?_ ?_⟩ <;> rfl
  | create hc => exact ⟨hsf, hb.create hc⟩
  | @spawn _ th hnew =>
    refine ⟨hsf, hb.known.wired, fun j th' hj => ?_⟩
    have hth : th.Flow st.shared := by
      rcases hnew with ⟨rq, rfl⟩ | hother
      · trivial
      · exact flow_of_other hother
    rcases lt_or_ge j st.threads.length with hlt | hge
    · rw [getElem?_append_left hlt] at hj
      exact hb.known.flow j th' hj
    · rw [getElem?_append_right hge, getElem?_singleton] at hj
      split at hj
      · cases hj
        exact hth
      · cases hj
  | token hi h => exact ⟨hsf, hb.token hi h⟩
  | deliver hi hdel => exact ⟨hsf, hb.deliver hi (hok _ hi) hdel⟩
  | @other i ch th th' sm' hi hq hother =>
    refine ⟨hsf, hb.quiet hq fun j th₂ hj => ?_⟩
    rcases eq_or_ne i j with rfl | hne
    · exact Or.inr (getElem?_set_eq hj ▸ hother)
    · exact Or.inl (getElem?_set_ne hj hne)
  | quiet hq => exact ⟨hsf, hb.quiet hq same⟩

theorem binding_init : Binding {} :=
  ⟨singleFlight_init, ⟨fun _ _ h => absurd h (by simp [activeTx, object]),
    fun _ _ _ h => absurd h (by simp [activeTx, object]),
    fun _ _ _ h => absurd h (by simp), fun _ h => absurd h not_mem_nil,
    fun _ h => absurd h not_mem_nil⟩, fun _ _ h => absurd h (by simp)⟩

/-- **The binding of codes.** In every run in which every callback that completes
finds its own state, every exchange is bound. -/
theorem exchange_bound (cfg : Config) (as : List Action) (st : State)
    (hok : Guarded (step cfg) StateMatches {} as) (hrun : run (step cfg) {} as = some st) :
    ∀ e ∈ st.shared.exchanges, Bound st.shared e := by
  intro e he
  have hb := run_invariant (fun _ _ _ => binding_step) binding_init hok hrun
  obtain ⟨⟨t, ht, hv, hend⟩, hdel⟩ := hb.known.wired.exchanged e he
  refine ⟨t, ht, hv, hend, hdel, fun d hd hdtx => ?_⟩
  obtain ⟨t', ht', hstate, -⟩ := hb.known.wired.delivered d hd
  rw [hdtx, ht] at ht'
  rw [some.inj ht', hstate]

/-! ### Two runs -/

/-- A token request with the flow's own endpoints, verifier and nonce, from the
semaphore to its wait for the user. -/
def flowRun (i : ℕ) (idp verifier nonce : String) : List Action :=
  [.advance i .proceed, .advance i .proceed, .advance i (.discovered
     { authEndpoint := idp ++ "/authorize", tokenEndpoint := idp ++ "/token", scopes := [] }),
   .advance i (.generated { verifier := verifier, challenge := "c", method := "S256" }),
   .advance i (.nonce nonce), .advance i .proceed, .advance i .proceed]

/-- Two token requests for different resources queue on one session; the first
one's flow is up to its wait, and a long-poll has taken its event. -/
def queuedRun : List Action :=
  [.createSession "key" "alice" "https://backend",
   .getToken { sessionKey := "key", userID := "alice", resourceURL := "https://mcp1" },
   .getToken { sessionKey := "key", userID := "alice", resourceURL := "https://mcp2" },
   .events "key" "alice"] ++
  List.replicate 4 (.advance 0 .proceed) ++ List.replicate 4 (.advance 1 .proceed) ++
  flowRun 0 "https://idp1" "v1" "n1" ++ List.replicate 5 (.advance 2 .proceed)

/-- The callback of the first flow, up to the end of its state check. -/
def callbackRun : List Action :=
  [.callback { code := "code1", state := "key.n1", error := "", errorDescription := "" },
   .advance 3 .proceed]

/-- A callback that completes at once is bound. -/
theorem exchange_bound_of_prompt_callback :
    ∃ st, run (step hourConfig) {} (queuedRun ++ callbackRun ++
        [.advance 3 .proceed, .advance 0 .proceed, .advance 0 (.token "T1")]) = some st ∧
      st.shared.exchanges ≠ [] ∧ ∀ e ∈ st.shared.exchanges, Bound st.shared e := by
  have hok : Guarded (step hourConfig) StateMatches {} (queuedRun ++ callbackRun ++
      [.advance 3 .proceed, .advance 0 .proceed, .advance 0 (.token "T1")]) := by decide
  exact ⟨_, rfl, by decide, exchange_bound hourConfig _ _ hok rfl⟩

/-- **A code can be exchanged in the wrong transaction**: the first flow times out
after its callback has been checked, the second flow installs its transaction, and
the code of the first is sent to the second's token endpoint with the second's
verifier. -/
theorem exchange_unbound : ∃ st, run (step hourConfig) {} (queuedRun ++ callbackRun ++
        [.advance 0 .timeout, .advance 0 .proceed] ++ flowRun 1 "https://idp2" "v2" "n2" ++
        [.advance 3 .proceed, .advance 1 .proceed, .advance 1 (.token "T2")]) = some st ∧
      { session := 0, tx := 1, tokenEndpoint := "https://idp2/token", code := "code1",
        codeVerifier := "v2", callbackURL := "https://broker/oauth/callback",
        result := some "T2" } ∈ st.shared.exchanges ∧
      (st.shared.txs[1]?).map OAuthTransaction.state = some "key.n2" ∧
      st.shared.deliveries = [{ tx := 1, completion :=
        { code := "code1", state := "key.n1", error := none } }] ∧
      ¬ ∀ e ∈ st.shared.exchanges, Bound st.shared e := by
  refine ⟨_, rfl, by decide, rfl, rfl, fun hall => ?_⟩
  obtain ⟨t, ht, -, -, -, hstate⟩ := hall _ mem_cons_self
  have := hstate _ mem_cons_self rfl
  cases ht
  exact absurd this (by decide)

end Rossoctl.Broker
