import Rossoctl.Broker.Acceptance
import Rossoctl.Broker.Semaphore

/-!
# Published authorization URLs

A flow publishes its authorization URL through the event slot of its session, which holds
one event until a long-poll takes it. A flow that gives up before that leaves its URL in the
slot: a later long-poll shows the user a URL of a transaction that is over, and the next flow
of the session fails because the slot is not free.

As long as the flows conclude their transactions with the URL taken
(`Rossoctl.Broker.UrlTaken`), what is in the slot belongs to the flow that is waiting
(`Rossoctl.Broker.Fresh`), and neither can happen (`Rossoctl.Broker.no_stale_url`).
-/

namespace Rossoctl.Broker

open Option SessionManager List

/-- The slot of a session holds an authorization URL. -/
def Shared.offers (b : Shared) (s : SessionRef) : Bool :=
  (b.slot s).any fun e => e.type = "oauth_url_ready"

/-- A token request is about to conclude its transaction with the URL still in the slot. -/
def Thread.leavesURL (b : Shared) (ch : Choice) : Thread → Bool
  | .token _ pc => pc.concludes ch && pc.holds.any b.offers
  | _ => false

/-- **The URLs are taken**: no flow concludes its transaction with its URL in the slot. -/
def UrlTaken (st : State) : Action → Prop
  | .advance i ch => ∀ th ∈ st.threads[i]?, th.leavesURL st.shared ch = false
  | _ => True

instance (st : State) : (a : Action) → Decidable (UrlTaken st a)
  | .advance i ch =>
    inferInstanceAs (Decidable (∀ th ∈ st.threads[i]?, th.leavesURL st.shared ch = false))
  | .createSession .. | .tick _ | .getToken _ | .events .. | .callback _ | .endSession ..
  | .fireTimer _ | .runTimer _ | .cleanupExpiredTokens | .shutdown => isTrue trivial

/-- **The URLs in the slots are fresh**: each is that of a transaction whose owner has
published it and is not done with it, and a registered session has nothing else in its
slot. -/
structure Fresh (st : State) : Prop where
  owned : FlowsOwn st
  refs : st.shared.sm.Refs
  slot : ∀ s e, st.shared.slot s = some e → e.type = "oauth_url_ready" →
    ∃ (i : ℕ) (rq : TokenRequest) (pc : TokenPc) (tx : TxRef) (t : OAuthTransaction),
      st.threads[i]? = some (.token rq pc) ∧ pc.stage.published = true ∧
      pc.Own st.shared s tx t ∧ t.authURL = e.authURL
  live : ∀ k s e, st.shared.sm.sessions.lookup k = some s → st.shared.slot s = some e →
    e.type = "oauth_url_ready"

variable {cfg : Config} {b b' : Shared} {rq : TokenRequest} {pc pc' : TokenPc} {ch : Choice}
  {s : SessionRef} {tx : TxRef} {t : OAuthTransaction} {st st' : State} {a : Action} {e : Event}

/-! ### The moves of a token request -/

theorem slot_installTx (b : Shared) (s s' : SessionRef) (t : OAuthTransaction) :
    (b.installTx s t).slot s' = b.slot s' := by
  refine (slot_modifySession b s s' _).trans ?_
  split
  · rfl
  · rfl

/-- What is in a slot after the move of a token request was there before, or is the URL the
request publishes. -/
theorem FlowStep.slot (h : FlowStep cfg b rq pc ch b' pc') (he : b'.slot s = some e) :
    b.slot s = some e ∨ ∃ d p url, pc = .publish s d p url ∧ pc' = .enterWait s d p ∧
      e = urlReady url ∧
      b' = b.modifySession s fun o => { o with eventWaiters := some (urlReady url) } := by
  cases h with
  | outside _ _ _ _ hslot => exact .inl (hslot ▸ he)
  | install => exact .inl (slot_installTx b _ _ _ ▸ he)
  | abandon _ _ _ _ hb => rcases hb with rfl | rfl <;> exact .inl he
  | @publish s₀ d p url hempty =>
    rw [slot_modifySession] at he
    split at he
    · rename_i heq
      subst heq
      obtain ⟨o, -, heq⟩ := bind_eq_some_iff.mp he
      exact .inr ⟨d, p, url, rfl, rfl, (some.inj heq).symm, rfl⟩
    · exact .inl he
  | conclude _ _ _ _ _ hsm =>
    rw [Shared.slot, hsm] at he
    exact .inl he
  | _ => exact .inl he

/-- A request that has published its URL and is not done with its transaction owns it after
its move, with the same URL. -/
theorem FlowStep.own_published (h : FlowStep cfg b rq pc ch b' pc')
    (hpub : pc.stage.published = true) (hown : pc.Own b s tx t) (hc : pc.concludes ch = false) :
    pc'.stage.published = true ∧ ∃ t', pc'.Own b' s tx t' ∧ t'.authURL = t.authURL := by
  cases h with
  | outside hout => exact absurd hout (Stage.ne_outside_of_published hpub)
  | install | build | publish => cases hpub
  | abandon hpre =>
    rw [hpre] at hpub
    cases hpub
  | @enter s₀ d p tx₀ htx =>
    cases hown.holds
    cases htx.symm.trans hown.active
    exact ⟨rfl, t, ⟨rfl, htx, hown.entry, hown.status, rfl⟩, rfl⟩
  | @receive s₀ d p tx₀ c htx =>
    cases hown.holds
    cases htx.symm.trans hown.active
    exact ⟨rfl, _, ⟨rfl, htx, txs_modify_self hown.entry _, hown.status, rfl⟩, rfl⟩
  | conclude hcon => exact absurd (hcon.symm.trans hc) (by simp)

variable {i : ℕ} {k : String}

theorem Fresh.token (h : Fresh st) (hi : st.threads[i]? = some (.token rq pc))
    (hg : (Thread.token rq pc).leavesURL st.shared ch = false)
    (hs : stepToken cfg st.shared rq pc ch = some (b', pc')) (hrefs : b'.sm.Refs) :
    Fresh { shared := b', threads := st.threads.set i (.token rq pc') } := by
  have hstep := tokenStep_of_stepToken hs
  have hflow := h.owned.flowStep hi hs
  have hset : (st.threads.set i (.token rq pc'))[i]? = some (.token rq pc') := by
    rw [getElem?_set_self', hi]
    rfl
  refine ⟨h.owned.token hi hs, hrefs, fun s e he hurl => ?_, fun k s e hk he => ?_⟩
  · rcases hflow.slot he with hold | ⟨d, p, url, rfl, rfl, rfl, rfl⟩
    · obtain ⟨j, rq', pc₂, tx, t, hj, hpub, hown, hauth⟩ := h.slot s e hold hurl
      rcases eq_or_ne i j with rfl | hne
      · obtain ⟨rfl, rfl⟩ := Thread.token.inj (some.inj (hi.symm.trans hj))
        -- the owner would leave the URL behind, so it is not done with its transaction
        have hc : pc.concludes ch = false := by
          have hoffers : pc.holds.any st.shared.offers = true := by
            rw [hown.holds, any_some, Shared.offers, hold, any_some]
            exact decide_eq_true hurl
          rw [Thread.leavesURL, hoffers, Bool.and_true] at hg
          exact hg
        obtain ⟨hpub', t', hown', hauth'⟩ := hflow.own_published hpub hown hc
        exact ⟨i, rq, pc', tx, t', hset, hpub', hown', hauth'.trans hauth⟩
      · refine ⟨j, rq', pc₂, tx, t, ?_, hpub, (h.owned.own_iff hi hstep hflow hj hne).mpr hown,
          hauth⟩
        rw [List.getElem?_set_ne hne, hj]
    · obtain ⟨s', tx, t, hown⟩ := h.owned.own i _ _ hi (by simp [TokenPc.stage])
      cases hown.holds
      refine ⟨i, rq, _, tx, t, hset, rfl, ⟨rfl, ?_, hown.entry, hown.status, trivial⟩, hown.agrees⟩
      rw [activeTx_modifySession, if_pos rfl]
      exact hown.active
  · have hsessions : b'.sm.sessions = st.shared.sm.sessions := by
      cases hstep <;> rfl
    rw [hsessions] at hk
    rcases hflow.slot he with hold | ⟨_, _, _, -, -, rfl, -⟩
    · exact h.live k s e hk hold
    · rfl

/-! ### The other moves -/

namespace SessionManager

variable {sm sm' : SessionManager} {w : Option SessionRef}

/-- The event in the slot of a session object. -/
def slot (sm : SessionManager) (s : SessionRef) : Option Event :=
  (sm.object s).bind Session.eventWaiters

/-- **A change writes no slot** but that of `w`, and the last event of a session that is
cleaned up. -/
theorem slot_of_change (h : Change w sm sm') (hr : sm.Refs) (hw : w ≠ some s)
    (he : sm'.slot s = some e) :
    sm.slot s = some e ∨ (e.type = "error" ∧ ∀ k, sm'.sessions.lookup k ≠ some s) := by
  cases h with
  | timers ho =>
    rw [slot, object, ho] at he
    exact .inl he
  | @cleanup k ref hk reason =>
    rw [slot, object_cleanupSessionLocked] at he
    split at he
    · rename_i heq
      subst heq
      rw [bind_map] at he
      obtain ⟨o, ho, hev⟩ := bind_eq_some_iff.mp he
      cases hold : o.eventWaiters with
      | some e' =>
        rw [Function.comp_apply, close, hold] at hev
        refine .inl ?_
        rw [slot, ho]
        exact hold.trans hev
      | none =>
        rw [Function.comp_apply, close, hold] at hev
        refine .inr ⟨by rw [← some.inj hev], fun k' hk' => ?_⟩
        -- the object has the key it was registered under, and that one is gone
        rw [sessions_cleanupSessionLocked, GoMap.lookup_erase_ite] at hk'
        split at hk'
        · cases hk'
        · rename_i hne
          obtain ⟨l, hl, hkey⟩ := hr k ref hk
          obtain ⟨l', hl', hkey'⟩ := hr k' ref hk'
          rw [some.inj (hl.symm.trans hl')] at hkey
          exact hne (hkey'.symm.trans hkey)
    · exact .inl he
  | @modify ref f hf hkeep =>
    rw [slot, object_modify] at he
    split at he
    · rename_i heq
      rw [bind_map] at he
      obtain ⟨o, ho, hev⟩ := bind_eq_some_iff.mp he
      refine .inl ?_
      rw [slot, ho]
      exact (hkeep (heq ▸ hw) o).symm.trans hev
    · exact .inl he

theorem lookup_of_change (h : Change w sm sm') (hk : sm'.sessions.lookup k = some s) :
    sm.sessions.lookup k = some s := by
  cases h with
  | timers _ hs => exact hs ▸ hk
  | cleanup =>
    rw [sessions_cleanupSessionLocked, GoMap.lookup_erase_ite] at hk
    split at hk
    · cases hk
    · exact hk
  | modify => exact hk

/-- After changes that write no slot, a URL in a slot was there before, and registered
sessions have nothing else in theirs. -/
theorem slot_of_changes (h : Changes none sm sm') (hr : sm.Refs)
    (hlive : ∀ k s e, sm.sessions.lookup k = some s → sm.slot s = some e →
      e.type = "oauth_url_ready") :
    (∀ s e, sm'.slot s = some e → e.type = "oauth_url_ready" → sm.slot s = some e) ∧
      ∀ k s e, sm'.sessions.lookup k = some s → sm'.slot s = some e →
        e.type = "oauth_url_ready" := by
  have key := h.induction (P := fun sm₁ => sm₁.Refs ∧
      (∀ s e, sm₁.slot s = some e → e.type = "oauth_url_ready" → sm.slot s = some e) ∧
      ∀ k s e, sm₁.sessions.lookup k = some s → sm₁.slot s = some e →
        e.type = "oauth_url_ready") ?_ ⟨hr, fun _ _ he _ => he, hlive⟩
  · exact key.2
  rintro sm₁ sm₂ hch ⟨hr₁, hurl, hl⟩
  refine ⟨hr₁.change hch, fun s e he hty => ?_, fun k s e hk he => ?_⟩
  · rcases slot_of_change hch hr₁ (by simp) he with hold | ⟨herr, -⟩
    · exact hurl s e hold hty
    · exact absurd (herr.symm.trans hty) (by decide)
  · rcases slot_of_change hch hr₁ (by simp) he with hold | ⟨-, hgone⟩
    · exact hl k s e (lookup_of_change hch hk) hold
    · exact absurd hk (hgone k)

theorem slot_createSession {cfg : Config} {now : ℤ} {u url : String}
    (h : sm.createSession cfg now k u url = .ok sm') (he : sm'.slot s = some e) :
    sm.slot s = some e ∧ s ≠ sm.objects.length := by
  rw [slot, (createSession_ok h).1] at he
  split at he
  · cases he
  · exact ⟨he, ‹_›⟩

end SessionManager

/-- **What a request owns is not disturbed** by a step that is no token request's. -/
theorem own_of_step (hs : step cfg st a = some st')
    (htok : ¬ ∃ i ch rq pc, a = .advance i ch ∧ st.threads[i]? = some (.token rq pc))
    (hi : st.threads[i]? = some (.token rq pc)) (hown : pc.Own st.shared s tx t) :
    st'.threads[i]? = some (.token rq pc) ∧ ∃ t', pc.Own st'.shared s tx t' ∧ t.Same t' := by
  have same : st'.shared.activeTx s = st.shared.activeTx s → st'.shared.txs = st.shared.txs →
      ∃ t', pc.Own st'.shared s tx t' ∧ t.Same t' := fun hact htxs =>
    ⟨t, hown.of_same hact (htxs ▸ hown.entry) ⟨rfl, rfl⟩, ⟨rfl, rfl⟩⟩
  cases move_of_step hs with
  | tick | refuse | cleanup => exact ⟨hi, same rfl rfl⟩
  | create hc => exact ⟨hi, same (activeTx_createSession hc s) rfl⟩
  | spawn =>
    refine ⟨?_, same rfl rfl⟩
    exact List.getElem?_append_left (List.getElem?_eq_some_iff.mp hi).1 ▸ hi
  | token hj => exact absurd ⟨_, _, _, _, rfl, hj⟩ htok
  | @deliver j ch crq k u b' hj hdel =>
    refine ⟨(set_iff_of_ne hj (by simp) (by simp)).mpr hi, ?_⟩
    obtain ⟨-, s', tx', t₀, -, -, -, -, rfl⟩ := completeOAuth_ok hdel
    have hentry : (st.shared.deliver tx' ⟨crq.code, crq.state, none⟩).txs[tx]? = _ :=
      txs_modifyTx st.shared tx' tx _
    rw [hown.entry] at hentry
    split at hentry
    · exact ⟨_, hown.of_same rfl hentry ⟨rfl, rfl⟩, ⟨rfl, rfl⟩⟩
    · exact ⟨t, hown.of_same rfl hentry ⟨rfl, rfl⟩, ⟨rfl, rfl⟩⟩
  | other hj hq hother hth =>
    exact ⟨(set_iff_of_ne hj hth hother.ne_token).mpr hi, same (activeTx_congr hq.core s) rfl⟩
  | quiet hq => exact ⟨hi, same (activeTx_congr hq.core s) rfl⟩

/-- **The wait of a long-poll**: it takes the event in the slot, or leaves everything as it
is. -/
theorem poll_step {u : String} {s₀ : SessionRef}
    (hi : st.threads[i]? = some (.events k u (.poll s₀)))
    (hs : step cfg st (.advance i ch) = some st') :
    ∃ r, st'.threads = st.threads.set i (.events k u (.startTimer r)) ∧
      ((∃ e, r = .event e ∧ st.shared.slot s₀ = some e ∧
          st'.shared = st.shared.modifySession s₀ fun o => { o with eventWaiters := none }) ∨
        ((∀ e, r ≠ .event e) ∧ st'.shared = st.shared)) := by
  rw [step, hi] at hs
  obtain ⟨⟨b', th'⟩, hth, rfl⟩ := map_eq_some_iff.mp hs
  obtain ⟨⟨b₁, pc'⟩, hev, heq⟩ := map_eq_some_iff.mp hth
  cases heq
  cases ch with
  | proceed =>
    rw [stepEvents] at hev
    split at hev
    · cases hev
    · rename_i e he
      cases hev
      exact ⟨_, rfl, .inl ⟨e, rfl, he, rfl⟩⟩
  | sessionDone =>
    rw [stepEvents] at hev
    split at hev
    · cases hev
      exact ⟨_, rfl, .inr ⟨by simp, rfl⟩⟩
    · cases hev
  | cancelled =>
    cases hev
    exact ⟨_, rfl, .inr ⟨by simp, rfl⟩⟩
  | _ => cases hev

theorem slot_of_poll {u : String} {s₀ : SessionRef}
    (hi : st.threads[i]? = some (.events k u (.poll s₀)))
    (hs : step cfg st (.advance i ch) = some st') :
    st'.shared.sm.sessions = st.shared.sm.sessions ∧
      ∀ s e, st'.shared.slot s = some e → st.shared.slot s = some e := by
  obtain ⟨r, -, ⟨e, -, -, hsh⟩ | ⟨-, hsh⟩⟩ := poll_step hi hs
  · rw [hsh]
    refine ⟨rfl, fun s e he => ?_⟩
    rw [slot_modifySession] at he
    split at he
    · obtain ⟨o, -, hnone⟩ := bind_eq_some_iff.mp he
      cases hnone
    · exact he
  · rw [hsh]
    exact ⟨rfl, fun _ _ h => h⟩

/-- **Every step keeps the URLs fresh**, if no flow leaves its URL behind. -/
theorem fresh_step (h : Fresh st) (hg : UrlTaken st a) (hs : step cfg st a = some st') :
    Fresh st' := by
  have howned := flowsOwn_step h.owned hs
  have hrefs := refs_step h.refs hs
  by_cases htok : ∃ i ch rq pc, a = .advance i ch ∧ st.threads[i]? = some (.token rq pc)
  · obtain ⟨i, ch, rq, pc, rfl, hi⟩ := htok
    obtain ⟨b', pc', hstep, rfl⟩ := stepToken_of_step hi hs
    exact h.token hi (hg _ hi) hstep hrefs
  -- no other step publishes anything, so the owners are where they were
  have keep : (∀ s e, st'.shared.slot s = some e → e.type = "oauth_url_ready" →
        st.shared.slot s = some e) →
      (∀ k s e, st'.shared.sm.sessions.lookup k = some s → st'.shared.slot s = some e →
        e.type = "oauth_url_ready") → Fresh st' := by
    intro hslot hlive
    refine ⟨howned, hrefs, fun s e he hurl => ?_, hlive⟩
    obtain ⟨i, rq, pc, tx, t, hi, hpub, hown, hauth⟩ := h.slot s e (hslot s e he hurl) hurl
    obtain ⟨hi', t', hown', hsame⟩ := own_of_step hs htok hi hown
    exact ⟨i, rq, pc, tx, t', hi', hpub, hown', hsame.authURL.trans hauth⟩
  rcases changes_of_step hs with ⟨k, u, url, rfl, hc⟩ | hch
  · refine keep (fun s e he _ => (slot_createSession hc he).1) fun k' s e hk he => ?_
    obtain ⟨hold, hne⟩ := slot_createSession hc he
    rw [(createSession_ok hc).2, GoMap.lookup_insert_ite] at hk
    split at hk
    · exact absurd (some.inj hk).symm hne
    · exact h.live k' s e hk hold
  · cases hw : st.writes a with
    | none =>
      rw [hw] at hch
      obtain ⟨hslot, hlive⟩ := slot_of_changes hch h.refs h.live
      exact keep hslot hlive
    | some s₀ =>
      -- of the requests that are no token requests only a long-poll writes a slot
      obtain ⟨i, ch, rfl⟩ : ∃ i ch, a = .advance i ch := by
        cases a with
        | advance i ch => exact ⟨i, ch, rfl⟩
        | _ => cases hw
      obtain ⟨th, hi, hth⟩ := bind_eq_some_iff.mp hw
      obtain ⟨k, u, rfl⟩ : ∃ k u, th = .events k u (.poll s₀) := by
        cases th with
        | token rq pc => exact absurd ⟨i, ch, rq, pc, rfl, hi⟩ htok
        | events k u pc =>
          cases pc with
          | poll s => exact ⟨k, u, by rw [some.inj hth]⟩
          | _ => cases hth
        | _ => cases hth
      obtain ⟨hsessions, hslot⟩ := slot_of_poll hi hs
      refine keep (fun s e he _ => hslot s e he) fun k' s e hk he => ?_
      rw [hsessions] at hk
      exact h.live k' s e hk (hslot s e he)

theorem fresh_init : Fresh {} :=
  ⟨flowsOwn_init, refs_empty,
    fun _ _ h => absurd h (by simp [Shared.slot, object]),
    fun _ _ _ h => absurd h (by simp)⟩

theorem flow_of_published (hpub : pc.stage.published = true) (hown : pc.Own b s tx t) :
    (Thread.token rq pc).flow = some s := by
  have hs := hown.holds
  cases pc with
  | enterWait | wait | exchange => exact hs
  | _ => cases hpub

/-- The default case of the publication is not taken while the slot is free. -/
theorem step_publish_failed {d : Discovery} {p : PKCEChallenge} {url : String}
    (hi : st.threads[i]? = some (.token rq (.publish s d p url)))
    (hempty : st.shared.slot s = none) : step cfg st (.advance i .failed) = none := by
  have hprep : stepPrepare cfg st.shared rq (.publish s d p url) .failed = none := by
    rw [stepPrepare]
    split
    · rename_i hfull
      obtain ⟨o, ho, hev⟩ := map_eq_some_iff.mp hfull
      rw [Shared.slot, ho] at hempty
      exact absurd (hempty.symm.trans hev) (by simp)
    · rfl
  rw [step, hi]
  show ((stepToken cfg st.shared rq (.publish s d p url) .failed).map _).map _ = none
  rw [stepToken, hprep]
  rfl

/-- **No stale authorization URL.** In every run in which no flow concludes its transaction
with its URL in the slot: a URL that a long-poll takes is that of the session's active
transaction, which is waiting for its code; a live session that no flow runs for has no URL
in its slot; and a flow that publishes for a live session finds the slot free. -/
theorem no_stale_url (cfg : Config) (as : List Action) (st : State)
    (hok : Guarded (step cfg) UrlTaken {} as) (hrun : run (step cfg) {} as = some st) :
    (∀ (i : ℕ) k u s e ch st', st.threads[i]? = some (.events k u (.poll s)) →
      step cfg st (.advance i ch) = some st' →
      st'.threads[i]? = some (.events k u (.startTimer (.event e))) →
      e.type = "oauth_url_ready" → ∃ tx t, st.shared.activeTx s = some tx ∧
        st.shared.txs[tx]? = some t ∧ t.status = .waitingCode ∧ t.authURL = e.authURL) ∧
    (∀ k s, st.shared.sm.sessions.lookup k = some s → (∀ th ∈ st.threads, th.flow ≠ some s) →
      st.shared.offers s = false) ∧
    ∀ (i : ℕ) rq k s d p url, st.threads[i]? = some (.token rq (.publish s d p url)) →
      st.shared.sm.sessions.lookup k = some s → step cfg st (.advance i .failed) = none := by
  have h := run_invariant (fun _ _ _ h hg hs => fresh_step h hg hs) fresh_init hok hrun
  refine ⟨fun i k u s e ch st' hi hs he hurl => ?_, fun k s hk hflow => ?_,
    fun i rq k s d p url hi hk => ?_⟩
  · obtain ⟨r, hths, ⟨e', rfl, hslot, -⟩ | ⟨hne, -⟩⟩ := poll_step hi hs
    · rw [hths] at he
      obtain ⟨-, -, hpc⟩ := Thread.events.inj (getElem?_set_eq he)
      obtain rfl := PollResult.event.inj (EventsPc.startTimer.inj hpc)
      obtain ⟨_, _, _, tx, t, _, _, hown, hauth⟩ := h.slot s e hslot hurl
      exact ⟨tx, t, hown.active, hown.entry, hown.status, hauth⟩
    · rw [hths] at he
      obtain ⟨-, -, hpc⟩ := Thread.events.inj (getElem?_set_eq he)
      exact absurd (EventsPc.startTimer.inj hpc).symm (hne e)
  · -- a URL in the slot has its flow
    by_contra hoffers
    obtain ⟨e, he, hurl⟩ := any_eq_true _ _ |>.mp (Bool.of_not_eq_false hoffers)
    obtain ⟨i, rq, pc, tx, t, hi, hpub, hown, -⟩ := h.slot s e he (of_decide_eq_true hurl)
    exact hflow _ (mem_of_getElem? hi) (flow_of_published hpub hown)
  · have hempty : st.shared.slot s = none := by
      by_contra hfull
      obtain ⟨e, he⟩ := ne_none_iff_exists'.mp hfull
      obtain ⟨j, rq', pc, tx, t, hj, hpub, hown, -⟩ := h.slot s e he (h.live k s e hk he)
      obtain rfl := h.owned.single.unique i j _ _ s hi hj rfl hown.holds
      obtain ⟨-, rfl⟩ := Thread.token.inj (some.inj (hi.symm.trans hj))
      cases hpub
    exact step_publish_failed hi hempty

/-- In a run in which a long-poll has taken the URL before the flow gives up, the slot is
free again. -/
theorem no_stale_url_taken : ∃ st,
    run (step hourConfig) {} (List.flatten [awaitingRun, [.advance 0 .timeout]]) = some st ∧
    st.shared.sm.sessions.lookup "key" = some 0 ∧ st.shared.offers 0 = false := by
  have hrun : ((run (step hourConfig) {} (List.flatten [awaitingRun, [.advance 0 .timeout]])).any
      fun st => st.shared.sm.sessions.lookup "key" = some 0 &&
        st.threads.all fun th => th.flow ≠ some 0) = true := by decide +kernel
  obtain ⟨st, hst, hcheck⟩ := any_eq_true _ _ |>.mp hrun
  simp only [Bool.and_eq_true, decide_eq_true_eq, List.all_eq_true] at hcheck
  refine ⟨st, hst, hcheck.1, ?_⟩
  exact (no_stale_url hourConfig _ st (by decide +kernel) hst).2.1 "key" 0 hcheck.1 hcheck.2

/-- Two token requests and a long-poll. The first request's flow times out before the
long-poll comes; the second request fails at its publication; then the long-poll takes what
is in the slot. -/
def staleRun : List Action := flatten
  [[.createSession "key" "alice" "https://backend", .getToken mcpRequest, .getToken mcpRequest,
    .events "key" "alice"],
   replicate 4 (.advance 0 .proceed), flowRun 0 "https://idp" "verifier" "first",
   [.advance 0 .timeout, .advance 0 .proceed], replicate 4 (.advance 1 .proceed),
   (flowRun 1 "https://idp" "verifier" "second").take 5,
   [.advance 1 .failed, .advance 1 .proceed], replicate 4 (.advance 2 .proceed)]

/-- **A stale URL**: the second flow has failed with "no event waiter available", and the
long-poll shows the URL of the first, whose transaction has failed and is not the active one
any more. -/
theorem stale_url : ∃ st, run (step hourConfig) {} staleRun = some st ∧
    st.threads[1]? = some (.token mcpRequest (.returned (.error .noEventWaiter))) ∧
    st.threads[2]? = some (.events "key" "alice" (.startTimer
      (.event (urlReady "https://idp/authorize?state=key.first")))) ∧
    st.shared.activeTx 0 = some 1 ∧
    (st.shared.txs[1]?).map OAuthTransaction.authURL =
      some "https://idp/authorize?state=key.second" := by
  have hrun : ((run (step hourConfig) {} staleRun).any fun st =>
      st.threads[1]? = some (.token mcpRequest (.returned (.error .noEventWaiter))) &&
      st.threads[2]? = some (.events "key" "alice" (.startTimer
        (.event (urlReady "https://idp/authorize?state=key.first")))) &&
      st.shared.activeTx 0 = some 1 && (st.shared.txs[1]?).map OAuthTransaction.authURL =
        some "https://idp/authorize?state=key.second") = true := by decide +kernel
  obtain ⟨st, hst, hcheck⟩ := any_eq_true _ _ |>.mp hrun
  simp only [Bool.and_eq_true, decide_eq_true_eq] at hcheck
  obtain ⟨⟨⟨hfailed, htaken⟩, hact⟩, hurl⟩ := hcheck
  exact ⟨st, hst, hfailed, htaken, hact, hurl⟩

end Rossoctl.Broker
