import Rossoctl.Broker.Store

/-!
# Idle timers and long-polls

The session manager has at most one timer for each key in its map, and the rest of the
timers ever armed are stopped, have fired, or have run. `Rossoctl.Broker.SessionManager.Timed`
is what holds of them in every run: an entry of the map is for a registered session and has
its callback still to come, and an armed timer has an entry.

A long-poll is *connected* to its key from its `ResetSessionTimer` to its deferred
`StartSessionTimer` (`Rossoctl.Broker.Thread.connected`). What the steps of the broker do to
the registered keys, to the timers and to the connected long-polls is
`Rossoctl.Broker.ClockMove`; everything else the broker does is idle there.
-/

namespace Rossoctl.Broker

open List Option SessionManager GoMap Function

/-- A timer whose callback is still to run. -/
def Timer.Pending (tm : Timer) : Prop := tm.status = .armed ∨ tm.status = .fired

instance (tm : Timer) : Decidable tm.Pending := inferInstanceAs (Decidable (_ ∨ _))

/-- What `Stop` does to a timer. -/
def Timer.stop (tm : Timer) : Timer :=
  if tm.status = .armed then { tm with status := .stopped } else tm

@[simp] theorem Timer.sessionKey_stop (tm : Timer) : tm.stop.sessionKey = tm.sessionKey := by
  rw [Timer.stop]
  split <;> rfl

theorem Timer.status_stop_ne (tm : Timer) : tm.stop.status ≠ .armed := by
  rw [Timer.stop]
  split
  · simp
  · assumption

theorem Timer.pending_stop {tm : Timer} (h : tm.stop.Pending) : tm.status = .fired := by
  rw [Timer.stop] at h
  split at h
  · rcases h with h | h <;> cases h
  · rename_i hne
    exact h.resolve_left hne

namespace SessionManager

variable {cfg : Config} {sm sm' : SessionManager} {now : ℤ} {k u url : String}

/-! ### The operations on timers -/

theorem timers_stopTimer (sm : SessionManager) (k k' : String) :
    (sm.stopTimer k).timers.lookup k' = if k' = k then none else sm.timers.lookup k' := by
  rw [stopTimer]
  split
  · rename_i hnone
    split
    · rename_i heq
      rw [heq, hnone]
    · rfl
  · exact lookup_erase_ite _ _ _

theorem timerObjects_stopTimer (sm : SessionManager) (k : String) (t : TimerRef) :
    (sm.stopTimer k).timerObjects[t]? =
      if sm.timers.lookup k = some t then (sm.timerObjects[t]?).map Timer.stop
      else sm.timerObjects[t]? := by
  rw [stopTimer]
  cases hk : sm.timers.lookup k with
  | none => rw [if_neg (by simp)]
  | some t' =>
    rw [getElem?_modify]
    by_cases heq : t' = t
    · rw [if_pos (congrArg some heq)]
      simp only [heq, if_true]
      rfl
    · rw [if_neg fun h => heq (some.inj h)]
      simp only [heq, if_false]
      exact id_map _

@[simp] theorem timers_cleanupSessionLocked (sm : SessionManager) (k : String) (ref : SessionRef)
    (reason : String) :
    (sm.cleanupSessionLocked k ref reason).timers = (sm.stopTimer k).timers := rfl

@[simp] theorem timerObjects_cleanupSessionLocked (sm : SessionManager) (k : String)
    (ref : SessionRef) (reason : String) :
    (sm.cleanupSessionLocked k ref reason).timerObjects = (sm.stopTimer k).timerObjects := rfl

/-- **The timers in every run**: an entry is for a registered session, and its timer has the
key of the entry and its callback still to come; an armed timer has an entry. -/
structure Timed (sm : SessionManager) : Prop where
  keyed : ∀ k t, sm.timers.lookup k = some t →
    ∃ tm, sm.timerObjects[t]? = some tm ∧ tm.sessionKey = k
  pending : ∀ k t tm, sm.timers.lookup k = some t → sm.timerObjects[t]? = some tm → tm.Pending
  live : ∀ k t, sm.timers.lookup k = some t → (sm.sessions.lookup k).isSome
  armed : ∀ t tm, sm.timerObjects[t]? = some tm → tm.status = .armed →
    sm.timers.lookup tm.sessionKey = some t

theorem Timed.congr (h : sm.Timed) (hs : sm'.sessions = sm.sessions)
    (ht : sm'.timers = sm.timers) (ho : sm'.timerObjects = sm.timerObjects) : sm'.Timed := by
  refine ⟨?_, ?_, ?_, ?_⟩
  · rw [ht, ho]; exact h.keyed
  · rw [ht, ho]; exact h.pending
  · rw [ht, hs]; exact h.live
  · rw [ht, ho]; exact h.armed

/-- The timer of a key is stopped, and the key may be unregistered: what held of its entry
before does not matter. -/
theorem timed_of_stopTimer (hkeyed : ∀ k t, sm.timers.lookup k = some t →
      ∃ tm, sm.timerObjects[t]? = some tm ∧ tm.sessionKey = k)
    (hpending : ∀ k' t tm, k' ≠ k → sm.timers.lookup k' = some t →
      sm.timerObjects[t]? = some tm → tm.Pending)
    (hlive : ∀ k' t, k' ≠ k → sm.timers.lookup k' = some t → (sm'.sessions.lookup k').isSome)
    (harmed : ∀ t tm, sm.timerObjects[t]? = some tm → tm.status = .armed →
      sm.timers.lookup tm.sessionKey = some t)
    (ht : sm'.timers = (sm.stopTimer k).timers)
    (ho : sm'.timerObjects = (sm.stopTimer k).timerObjects) : sm'.Timed := by
  -- an entry that is left is of another key, so its timer has not been stopped
  have left : ∀ k' t, sm'.timers.lookup k' = some t → k' ≠ k ∧ sm.timers.lookup k' = some t ∧
      sm'.timerObjects[t]? = sm.timerObjects[t]? := by
    intro k' t hk'
    rw [ht, timers_stopTimer] at hk'
    split at hk'
    · cases hk'
    · rename_i hne
      refine ⟨hne, hk', ?_⟩
      rw [ho, timerObjects_stopTimer, if_neg]
      intro hk
      obtain ⟨tm, htm, hkey⟩ := hkeyed k t hk
      obtain ⟨tm', htm', hkey'⟩ := hkeyed k' t hk'
      rw [some.inj (htm.symm.trans htm')] at hkey
      exact hne (hkey'.symm.trans hkey)
  refine ⟨fun k' t hk' => ?_, fun k' t tm hk' htm => ?_, fun k' t hk' => ?_, fun t tm htm ha => ?_⟩
  · obtain ⟨-, hold, hsame⟩ := left k' t hk'
    rw [hsame]
    exact hkeyed k' t hold
  · obtain ⟨hne, hold, hsame⟩ := left k' t hk'
    exact hpending k' t tm hne hold (hsame ▸ htm)
  · obtain ⟨hne, hold, -⟩ := left k' t hk'
    exact hlive k' t hne hold
  · rw [ho, timerObjects_stopTimer] at htm
    split at htm
    · obtain ⟨tm₀, -, rfl⟩ := map_eq_some_iff.mp htm
      exact absurd ha (Timer.status_stop_ne tm₀)
    · rename_i hne
      have hentry := harmed t tm htm ha
      rw [ht, timers_stopTimer, if_neg]
      · exact hentry
      · rintro rfl
        exact hne hentry

theorem Timed.stopTimer (h : sm.Timed) (k : String) : (sm.stopTimer k).Timed :=
  timed_of_stopTimer h.keyed (fun k' t tm _ => h.pending k' t tm)
    (fun k' t _ hk' => by rw [sessions_stopTimer]; exact h.live k' t hk') h.armed rfl rfl

theorem Timed.cleanup (h : sm.Timed) (k : String) (ref : SessionRef) (reason : String) :
    (sm.cleanupSessionLocked k ref reason).Timed := by
  refine timed_of_stopTimer h.keyed (fun k' t tm _ => h.pending k' t tm)
    (fun k' t hne hk' => ?_) h.armed rfl rfl
  rw [sessions_cleanupSessionLocked, AList.lookup_erase_ne hne]
  exact h.live k' t hk'

/-- A timer for a key that has none. -/
theorem Timed.arm (h : sm.Timed) (hk : sm.timers.lookup k = none)
    (hlive : (sm.sessions.lookup k).isSome) (d : ℤ) :
    ({ sm with
        timerObjects := sm.timerObjects ++ [⟨k, d, .armed⟩]
        timers := sm.timers.insert k sm.timerObjects.length } : SessionManager).Timed := by
  have old : ∀ {t : TimerRef} {tm : Timer}, sm.timerObjects[t]? = some tm →
      (sm.timerObjects ++ [⟨k, d, .armed⟩])[t]? = some tm := fun htm =>
    (List.getElem?_append_left (List.getElem?_eq_some_iff.mp htm).1).trans htm
  have new : (sm.timerObjects ++ [(⟨k, d, .armed⟩ : Timer)])[sm.timerObjects.length]? =
      some ⟨k, d, .armed⟩ := by simp
  refine ⟨fun k' t hk' => ?_, fun k' t tm hk' htm => ?_, fun k' t hk' => ?_, fun t tm htm ha => ?_⟩
  · rw [lookup_insert_ite] at hk'
    split at hk'
    · rename_i heq
      cases hk'
      exact ⟨_, new, heq.symm⟩
    · obtain ⟨tm, htm, hkey⟩ := h.keyed k' t hk'
      exact ⟨tm, old htm, hkey⟩
  · rw [lookup_insert_ite] at hk'
    split at hk'
    · cases hk'
      rw [← some.inj (new.symm.trans htm)]
      exact .inl rfl
    · obtain ⟨tm₀, htm₀, -⟩ := h.keyed k' t hk'
      rw [← some.inj ((old htm₀).symm.trans htm)]
      exact h.pending k' t tm₀ hk' htm₀
  · rw [lookup_insert_ite] at hk'
    split at hk'
    · rename_i heq
      rw [heq]
      exact hlive
    · exact h.live k' t hk'
  · rw [lookup_insert_ite]
    rcases lt_or_ge t sm.timerObjects.length with hlt | hge
    · rw [getElem?_append_left hlt] at htm
      have hentry := h.armed t tm htm ha
      rw [if_neg, hentry]
      rintro heq
      rw [heq, hk] at hentry
      cases hentry
    · rw [getElem?_append_right hge, getElem?_singleton] at htm
      split at htm
      · rename_i hzero
        cases htm
        rw [if_pos rfl, Nat.le_antisymm (Nat.sub_eq_zero_iff_le.mp hzero) hge]
      · cases htm

theorem Timed.resetSessionTimer (h : sm.Timed) (cfg : Config) (now : ℤ) (k : String) :
    (sm.resetSessionTimer cfg now k).Timed := by
  rw [SessionManager.resetSessionTimer]
  split
  · exact h
  · exact (h.stopTimer k).congr rfl rfl rfl

theorem Timed.startSessionTimer (h : sm.Timed) (cfg : Config) (now : ℤ) (k : String) :
    (sm.startSessionTimer cfg now k).Timed := by
  rw [SessionManager.startSessionTimer]
  split
  · exact h
  · rename_i ref hk
    refine (h.stopTimer k).arm ?_ ?_ _
    · rw [timers_stopTimer, if_pos rfl]
    · rw [sessions_stopTimer, hk]
      rfl

theorem timerObjects_setTimer (sm : SessionManager) (t t' : TimerRef) (st : TimerState) :
    (sm.setTimer t st).timerObjects[t']? =
      if t = t' then (sm.timerObjects[t']?).map fun tm => { tm with status := st }
      else sm.timerObjects[t']? := by
  rw [setTimer, getElem?_modify]
  split
  · rfl
  · exact id_map _

theorem Timed.fire (h : sm.Timed) (t : TimerRef) : (sm.setTimer t .fired).Timed := by
  refine ⟨fun k t' hk => ?_, fun k t' tm' hk htm => ?_, fun k t' hk => h.live k t' hk, ?_⟩
  · obtain ⟨tm', htm', hkey⟩ := h.keyed k t' hk
    rw [timerObjects_setTimer, htm']
    split
    · exact ⟨_, rfl, hkey⟩
    · exact ⟨tm', rfl, hkey⟩
  · rw [timerObjects_setTimer] at htm
    split at htm
    · obtain ⟨tm₀, -, rfl⟩ := map_eq_some_iff.mp htm
      exact .inr rfl
    · exact h.pending k t' tm' hk htm
  · intro t' tm' htm ha
    rw [timerObjects_setTimer] at htm
    split at htm
    · obtain ⟨tm₀, -, rfl⟩ := map_eq_some_iff.mp htm
      cases ha
    · exact h.armed t' tm' htm ha

/-- **The callback of a timer runs**: the entry of its key goes with the session. -/
theorem Timed.run (h : sm.Timed) {t : TimerRef} {tm : Timer} (ht : sm.timerObjects[t]? = some tm) :
    ((sm.setTimer t .finished).expireSession tm.sessionKey).Timed := by
  have hkeyed : ∀ k t', (sm.setTimer t .finished).timers.lookup k = some t' →
      ∃ tm', (sm.setTimer t .finished).timerObjects[t']? = some tm' ∧ tm'.sessionKey = k := by
    intro k t' hk
    obtain ⟨tm', htm', hkey⟩ := h.keyed k t' hk
    rw [timerObjects_setTimer, htm']
    split
    · exact ⟨_, rfl, hkey⟩
    · exact ⟨tm', rfl, hkey⟩
  have hpending : ∀ k t' tm', k ≠ tm.sessionKey → sm.timers.lookup k = some t' →
      (sm.setTimer t .finished).timerObjects[t']? = some tm' → tm'.Pending := by
    intro k t' tm' hne hk htm
    rw [timerObjects_setTimer, if_neg] at htm
    · exact h.pending k t' tm' hk htm
    · rintro rfl
      obtain ⟨tm₀, htm₀, hkey⟩ := h.keyed k t hk
      rw [some.inj (htm₀.symm.trans ht)] at hkey
      exact hne hkey.symm
  have harmed : ∀ t' tm', (sm.setTimer t .finished).timerObjects[t']? = some tm' →
      tm'.status = .armed → sm.timers.lookup tm'.sessionKey = some t' := by
    intro t' tm' htm ha
    rw [timerObjects_setTimer] at htm
    split at htm
    · obtain ⟨tm₀, -, rfl⟩ := map_eq_some_iff.mp htm
      cases ha
    · exact h.armed t' tm' htm ha
  rw [expireSession]
  split
  · rename_i hgone
    refine ⟨hkeyed, fun k t' tm' hk htm => hpending k t' tm' ?_ hk htm, h.live, harmed⟩
    rintro rfl
    have hlive := h.live _ t' hk
    rw [show sm.sessions.lookup tm.sessionKey = none from hgone] at hlive
    cases hlive
  · refine timed_of_stopTimer hkeyed hpending (fun k t' hne hk => ?_) harmed rfl rfl
    rw [sessions_cleanupSessionLocked, AList.lookup_erase_ne hne]
    exact h.live k t' hk

theorem Timed.create (h : sm.Timed) (hc : sm.createSession cfg now k u url = .ok sm') :
    sm'.Timed := by
  rw [createSession] at hc
  split at hc
  · cases hc
  · cases hc
    refine ⟨h.keyed, h.pending, fun k' t hk' => ?_, h.armed⟩
    rw [lookup_insert_ite]
    split
    · rfl
    · exact h.live k' t hk'

theorem Timed.shutdown (h : sm.Timed) : sm.shutdown.Timed := by
  refine List.foldlRecOn _ _ ?_ fun sm' h e _ => h.cleanup e.1 e.2 _
  exact List.foldlRecOn _ _ h fun sm' h k _ => h.stopTimer k

theorem lookup_shutdown (sm : SessionManager) (k : String) :
    sm.shutdown.sessions.lookup k = none := by
  have cleaned : ∀ (es : List (Sigma fun _ : String => SessionRef)) (sm : SessionManager),
      (∀ ref, sm.sessions.lookup k = some ref → k ∈ es.keys) →
      (es.foldl (fun acc e => acc.cleanupSessionLocked e.1 e.2 "shutdown") sm).sessions.lookup k =
        none := by
    intro es
    induction es with
    | nil =>
      intro sm h
      cases hk : sm.sessions.lookup k with
      | none => exact hk
      | some ref => exact absurd (h ref hk) (by simp)
    | cons e es ih =>
      intro sm h
      refine ih _ fun ref href => ?_
      rw [sessions_cleanupSessionLocked, lookup_erase_ite] at href
      split at href
      · cases href
      · rename_i hne
        have hmem := h ref href
        exact (mem_cons.mp hmem).resolve_left hne
  refine cleaned _ _ fun ref href => ?_
  rw [sessions_foldl_stopTimer] at href
  exact mem_keys_of_mem (mem_entries_iff.mpr href)

theorem timed_empty : ({} : SessionManager).Timed :=
  ⟨fun _ _ h => absurd h (by simp), fun _ _ _ h => absurd h (by simp),
    fun _ _ h => absurd h (by simp), fun _ _ h => absurd h (by simp)⟩

end SessionManager

/-! ### Connected long-polls -/

/-- The key a long-poll is connected to: its `ResetSessionTimer` has run, and its
`StartSessionTimer` has not. -/
def Thread.connected : Thread → Option String
  | .events k _ .getSession => some k
  | .events k _ (.poll _) => some k
  | .events k _ (.startTimer _) => some k
  | _ => none

/-- The key the request with a number is connected to. -/
def State.conn (st : State) (i : ℕ) : Option String := (st.threads[i]?).bind Thread.connected

/-- A long-poll is connected to a key. -/
def State.Connected (st : State) (k : String) : Prop := ∃ i, st.conn i = some k

/-- A step that touches no timer and creates no session. -/
def Idle (cfg : Config) (st : State) : Action → Prop
  | .createSession _ u _ => st.shared.sm.maxSessionsExceeded cfg u = true
  | .advance i _ => ∀ k u, st.threads[i]? ≠ some (.events k u .reset) ∧
      ∀ r, st.threads[i]? ≠ some (.events k u (.startTimer r))
  | _ => True

/-- **What a step does to the clock.** -/
inductive ClockMove (cfg : Config) (st : State) : Action → State → Prop
  /-- The registered keys, the timers and the connected long-polls stay as they are. -/
  | idle {a : Action} {st' : State} (ha : Idle cfg st a)
      (hs : st'.shared.sm.sessions = st.shared.sm.sessions)
      (ht : st'.shared.sm.timers = st.shared.sm.timers)
      (ho : st'.shared.sm.timerObjects = st.shared.sm.timerObjects)
      (hc : st'.conn = st.conn) : ClockMove cfg st a st'
  | create {k u url : String} {st' : State}
      (h : st.shared.sm.createSession cfg st.shared.now k u url = .ok st'.shared.sm)
      (hc : st'.conn = st.conn) : ClockMove cfg st (.createSession k u url) st'
  /-- A long-poll becomes connected. -/
  | reset {i : ℕ} {ch : Choice} {k u : String} {st' : State}
      (hi : st.threads[i]? = some (.events k u .reset))
      (hsm : st'.shared.sm = st.shared.sm.resetSessionTimer cfg st.shared.now k)
      (hc : st'.conn = update st.conn i (some k)) : ClockMove cfg st (.advance i ch) st'
  /-- A long-poll finds that its session has gone. -/
  | missed {i : ℕ} {ch : Choice} {k u : String} {st' : State}
      (hi : st.threads[i]? = some (.events k u .getSession))
      (hk : st.shared.sm.sessions.lookup k = none) (hsm : st'.shared.sm = st.shared.sm)
      (hc : st'.conn = update st.conn i none) : ClockMove cfg st (.advance i ch) st'
  /-- A long-poll ends. -/
  | start {i : ℕ} {ch : Choice} {k u : String} {r : PollResult} {st' : State}
      (hi : st.threads[i]? = some (.events k u (.startTimer r)))
      (hsm : st'.shared.sm = st.shared.sm.startSessionTimer cfg st.shared.now k)
      (hc : st'.conn = update st.conn i none) : ClockMove cfg st (.advance i ch) st'
  /-- A session is ended. -/
  | ended {a : Action} {k : String} {ref : SessionRef} {reason : String} {st' : State}
      (ha : Idle cfg st a) (hk : st.shared.sm.sessions.lookup k = some ref)
      (hsm : st'.shared.sm = st.shared.sm.cleanupSessionLocked k ref reason)
      (hc : st'.conn = st.conn) : ClockMove cfg st a st'
  | fired {t : TimerRef} {tm : Timer} {st' : State}
      (h : st.shared.sm.timerObjects[t]? = some tm) (harmed : tm.status = .armed)
      (hsm : st'.shared.sm = st.shared.sm.setTimer t .fired)
      (hc : st'.conn = st.conn) : ClockMove cfg st (.fireTimer t) st'
  | ran {t : TimerRef} {tm : Timer} {st' : State}
      (h : st.shared.sm.timerObjects[t]? = some tm) (hfired : tm.status = .fired)
      (hsm : st'.shared.sm = (st.shared.sm.setTimer t .finished).expireSession tm.sessionKey)
      (hc : st'.conn = st.conn) : ClockMove cfg st (.runTimer t) st'
  | shutdown {st' : State} (hsm : st'.shared.sm = st.shared.sm.shutdown)
      (hc : st'.conn = st.conn) : ClockMove cfg st .shutdown st'

variable {cfg : Config} {st st' : State} {a : Action}

variable {i : ℕ} {th : Thread}

theorem conn_of_getElem? (hi : st.threads[i]? = some th) : st.conn i = th.connected := by
  rw [State.conn, hi]
  rfl

theorem conn_set {th' : Thread} (hi : st.threads[i]? = some th) (b' : Shared) :
    State.conn { shared := b', threads := st.threads.set i th' } =
      update st.conn i th'.connected := by
  funext j
  rw [State.conn, update_apply]
  rcases eq_or_ne j i with rfl | hne
  · rw [if_pos rfl, getElem?_set_self', hi]
    rfl
  · rw [if_neg hne, List.getElem?_set_ne hne.symm]
    rfl

theorem conn_set_of_eq {th' : Thread} (hi : st.threads[i]? = some th)
    (h : th'.connected = th.connected) (b' : Shared) :
    State.conn { shared := b', threads := st.threads.set i th' } = st.conn := by
  rw [conn_set hi, h, ← conn_of_getElem? hi, update_eq_self]

theorem conn_append (h : th.connected = none) :
    State.conn { st with threads := st.threads ++ [th] } = st.conn := by
  funext i
  rw [State.conn, State.conn]
  rcases lt_or_ge i st.threads.length with hlt | hge
  · rw [getElem?_append_left hlt]
  · rw [getElem?_append_right hge, getElem?_eq_none hge, getElem?_singleton]
    split
    · exact h
    · rfl

theorem clock_tokenStep {b b' : Shared} {rq : TokenRequest} {pc pc' : TokenPc}
    (h : TokenStep cfg b rq pc b' pc') : b'.sm.sessions = b.sm.sessions ∧
      b'.sm.timers = b.sm.timers ∧ b'.sm.timerObjects = b.sm.timerObjects := by
  cases h with
  | _ => exact ⟨rfl, rfl, rfl⟩

theorem clockMove_of_events {ch : Choice} {k u : String} {pc pc' : EventsPc} {b' : Shared}
    (hi : st.threads[i]? = some (.events k u pc))
    (h : stepEvents cfg st.shared k u pc ch = some (b', pc')) :
    ClockMove cfg st (.advance i ch)
      { shared := b', threads := st.threads.set i (.events k u pc') } := by
  -- a long-poll that is at neither of its two calls leaves the clock alone
  have idle : pc ≠ .reset → (∀ r, pc ≠ .startTimer r) → Idle cfg st (.advance i ch) := by
    intro hreset hstart k' u'
    rw [hi]
    refine ⟨fun heq => hreset ?_, fun r heq => hstart r ?_⟩
    · exact (Thread.events.inj (some.inj heq)).2.2
    · exact (Thread.events.inj (some.inj heq)).2.2
  unfold stepEvents at h
  split at h
  · split at h <;> cases h <;>
      exact .idle (idle (by simp) (by simp)) rfl rfl rfl (conn_set_of_eq hi (by rfl) _)
  · cases h
    exact .reset hi rfl (conn_set hi _)
  · split at h
    · rename_i hget
      cases h
      refine .missed hi ?_ rfl (conn_set hi _)
      rw [getSession] at hget
      split at hget
      · assumption
      · cases hget
    · cases h
      exact .idle (idle (by simp) (by simp)) rfl rfl rfl (conn_set_of_eq hi (by rfl) _)
  · split at h
    · cases h
    · cases h
      exact .idle (idle (by simp) (by simp)) rfl rfl rfl (conn_set_of_eq hi (by rfl) _)
  · split at h
    · cases h
      exact .idle (idle (by simp) (by simp)) rfl rfl rfl (conn_set_of_eq hi (by rfl) _)
    · cases h
  · cases h
    exact .idle (idle (by simp) (by simp)) rfl rfl rfl (conn_set_of_eq hi (by rfl) _)
  · cases h
    exact .start hi rfl (conn_set hi _)
  · cases h

theorem clockMove_of_advance {ch : Choice} (h : step cfg st (.advance i ch) = some st') :
    ClockMove cfg st (.advance i ch) st' := by
  have idle : ∀ {th : Thread}, st.threads[i]? = some th → (∀ k u pc, th ≠ .events k u pc) →
      Idle cfg st (.advance i ch) := by
    intro th hi hne k u
    rw [hi]
    exact ⟨fun heq => hne _ _ _ (some.inj heq), fun r heq => hne _ _ _ (some.inj heq)⟩
  rw [step] at h
  split at h
  · cases h
  · rename_i th hi
    obtain ⟨⟨b', th'⟩, hstep, rfl⟩ := map_eq_some_iff.mp h
    cases th with
    | token rq pc =>
      obtain ⟨⟨b₁, pc'⟩, htok, heq⟩ := map_eq_some_iff.mp hstep
      cases heq
      obtain ⟨hs, ht, ho⟩ := clock_tokenStep (tokenStep_of_stepToken htok)
      exact .idle (idle hi (by simp)) hs ht ho (conn_set_of_eq hi (by rfl) _)
    | events k u pc =>
      obtain ⟨⟨b₁, pc'⟩, hev, heq⟩ := map_eq_some_iff.mp hstep
      cases heq
      exact clockMove_of_events hi hev
    | callback rq pc =>
      obtain ⟨⟨b₁, pc'⟩, hcb, heq⟩ := map_eq_some_iff.mp hstep
      cases heq
      rcases stepCallback_cases hcb with ⟨rfl, -⟩ | ⟨k, u, -, -, hok⟩
      · exact .idle (idle hi (by simp)) rfl rfl rfl (conn_set_of_eq hi (by rfl) _)
      · obtain ⟨-, s, tx, t, -, -, -, -, rfl⟩ := completeOAuth_ok hok
        exact .idle (idle hi (by simp)) rfl rfl rfl (conn_set_of_eq hi (by rfl) _)
    | finish k u pc =>
      obtain ⟨⟨b₁, pc'⟩, hend, heq⟩ := map_eq_some_iff.mp hstep
      cases heq
      unfold stepEnd at hend
      split at hend
      · split at hend <;> cases hend <;>
          exact .idle (idle hi (by simp)) rfl rfl rfl (conn_set_of_eq hi (by rfl) _)
      · split at hend
        · cases hend
          exact .idle (idle hi (by simp)) rfl rfl rfl (conn_set_of_eq hi (by rfl) _)
        · rename_i hok
          cases hend
          rw [endSession] at hok
          split at hok
          · cases hok
          · cases hok
            exact .ended (idle hi (by simp)) ‹_› rfl (conn_set_of_eq hi (by rfl) _)
      · cases hend

/-- The callback of a timer runs for one that has fired, and is about its key. -/
theorem runTimer_some {t : TimerRef} (h : step cfg st (.runTimer t) = some st') :
    ∃ tm, st.shared.sm.timerObjects[t]? = some tm ∧ tm.status = .fired ∧ st' = { st with shared :=
      { st.shared with
        sm := (st.shared.sm.setTimer t .finished).expireSession tm.sessionKey } } := by
  rw [step] at h
  split at h
  · rename_i htm
    exact ⟨_, htm, rfl, (some.inj h).symm⟩
  · cases h

/-- **Every step of the broker is one of these.** -/
theorem clockMove_of_step (h : step cfg st a = some st') : ClockMove cfg st a st' := by
  cases a with
  | tick | cleanupExpiredTokens =>
    cases h
    exact .idle trivial rfl rfl rfl rfl
  | createSession k u url =>
    rw [step] at h
    split at h
    · rename_i herr
      cases h
      exact .idle (exceeded_of_error herr) rfl rfl rfl rfl
    · cases h
      exact .create ‹_› rfl
  | getToken | events | callback | endSession =>
    cases h
    exact .idle trivial rfl rfl rfl (conn_append rfl)
  | advance i ch => exact clockMove_of_advance h
  | fireTimer t =>
    rw [step] at h
    split at h
    · rename_i htm
      split at h
      · cases h
        exact .fired htm rfl rfl rfl
      · cases h
    · cases h
  | runTimer t =>
    obtain ⟨tm, htm, hfired, rfl⟩ := runTimer_some h
    exact .ran htm hfired rfl rfl
  | shutdown =>
    cases h
    exact .shutdown rfl rfl

/-- **Every step keeps the timers in order.** -/
theorem timed_step (ht : st.shared.sm.Timed) (h : step cfg st a = some st') :
    st'.shared.sm.Timed := by
  cases clockMove_of_step h with
  | idle _ hs htm ho => exact ht.congr hs htm ho
  | create hc => exact ht.create hc
  | reset _ hsm => rw [hsm]; exact ht.resetSessionTimer cfg _ _
  | missed _ _ hsm => rw [hsm]; exact ht
  | start _ hsm => rw [hsm]; exact ht.startSessionTimer cfg _ _
  | ended _ _ hsm => rw [hsm]; exact ht.cleanup _ _ _
  | fired _ _ hsm => rw [hsm]; exact ht.fire _
  | ran htm _ hsm => rw [hsm]; exact ht.run htm
  | shutdown hsm => rw [hsm]; exact ht.shutdown

end Rossoctl.Broker
