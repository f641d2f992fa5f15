import Rossoctl.LastWrite
import Rossoctl.Broker.Timers

/-!
# The idle clock of a session

A session without a Backend is to end when its time is up, and a session with one is not.

For the first, every registered session would have to be *on the clock*
(`Rossoctl.Broker.OnClock`): a long-poll is connected to it, or its idle timer is in the map.
`CreateSession` arms no timer, so a session gets on the clock with its first long-poll, and
stays there; `Rossoctl.Broker.onClock_iff` says exactly which sessions are on it, in terms of
the calls made for their key so far.

For the second, the callback of a timer would have to be about the session the timer was
armed for, and to find no long-poll connected to it. But the timers are kept by key: a
long-poll that ends arms the timer although another one is connected, and a timer that has
fired is not stopped any more when a long-poll connects or when the key goes to another
session. Without these three there is no wrong expiry (`Rossoctl.Broker.expiry_undisturbed`).
-/

namespace Rossoctl.Broker

open List SessionManager Function

variable {cfg : Config} {st st' : State} {a : Action}

/-! ### On the clock -/

/-- **A session is on the clock**: a long-poll is connected to it, or its idle timer is in
the map and has its callback still to come. -/
def OnClock (st : State) (k : String) : Prop :=
  st.Connected k ∨ ∃ t tm, st.shared.sm.timers.lookup k = some t ∧
    st.shared.sm.timerObjects[t]? = some tm ∧ tm.Pending

theorem onClock_iff_isSome (ht : st.shared.sm.Timed) (k : String) :
    OnClock st k ↔ st.Connected k ∨ (st.shared.sm.timers.lookup k).isSome := by
  refine or_congr_right ⟨?_, fun h => ?_⟩
  · rintro ⟨t, tm, hk, -, -⟩
    rw [hk]
    rfl
  · obtain ⟨t, hk⟩ := Option.isSome_iff_exists.mp h
    obtain ⟨tm, htm, -⟩ := ht.keyed k t hk
    exact ⟨t, tm, hk, htm, ht.pending k t tm hk htm⟩

/-- What the steps note about the clock of a key: a `CreateSession` notes whether it finds a
long-poll connected or a timer, and the two calls of a long-poll note that the key is on the
clock, if it is registered. -/
def clockNotes (cfg : Config) (st : State) : Action → List (String × Bool)
  | .createSession k u _ =>
    if st.shared.sm.maxSessionsExceeded cfg u then []
    else [(k, st.threads.any (fun th => th.connected = some k) ||
      (st.shared.sm.timers.lookup k).isSome)]
  | .advance i _ =>
    match st.threads[i]? with
    | some (.events k _ .reset) =>
      if (st.shared.sm.sessions.lookup k).isSome then [(k, true)] else []
    | some (.events k _ (.startTimer _)) =>
      if (st.shared.sm.sessions.lookup k).isSome then [(k, true)] else []
    | _ => []
  | _ => []

/-- The last note about a key. -/
def lastNote (ns : List (String × Bool)) : String → Option Bool :=
  LastWrite.writeAll some (fun _ => none) ns

theorem lastNote_append (ns : List (String × Bool)) (k : String) (b : Bool) (k' : String) :
    lastNote (ns ++ [(k, b)]) k' = if k' = k then some b else lastNote ns k' := by
  rw [lastNote, LastWrite.writeAll_append]
  exact update_apply _ _ _ _

theorem connected_iff_any (st : State) (k : String) :
    st.Connected k ↔ st.threads.any (fun th => th.connected = some k) = true := by
  rw [any_eq_true]
  constructor
  · rintro ⟨i, hi⟩
    obtain ⟨th, hth, hk⟩ := Option.bind_eq_some_iff.mp hi
    exact ⟨th, mem_of_getElem? hth, decide_eq_true hk⟩
  · rintro ⟨th, hmem, hk⟩
    obtain ⟨i, hi⟩ := getElem?_of_mem hmem
    exact ⟨i, (conn_of_getElem? hi).trans (of_decide_eq_true hk)⟩

theorem clockNotes_of_idle (h : Idle cfg st a) : clockNotes cfg st a = [] := by
  cases a with
  | createSession k u url => exact if_pos h
  | advance i ch =>
    rw [clockNotes]
    split
    · rename_i k u hi
      exact absurd hi (h k u).1
    · rename_i k u r hi
      exact absurd hi ((h k u).2 r)
    · rfl
  | _ => rfl

/-- **The notes tell which registered sessions are on the clock.** -/
structure Clocked (st : State) (ns : List (String × Bool)) : Prop where
  timed : st.shared.sm.Timed
  notes : ∀ k s, st.shared.sm.sessions.lookup k = some s →
    ((st.Connected k ∨ (st.shared.sm.timers.lookup k).isSome) ↔ lastNote ns k = some true)

variable {k k' : String} {sm : SessionManager} {ns : List SessionRef}

variable {i : ℕ} {t : TimerRef} {tm : Timer}

/-- A long-poll that moves changes the connections to its own key only. -/
theorem connected_update {c : Option String} (hc : st'.conn = update st.conn i c)
    (hold : st.conn i ≠ some k) (hnew : c ≠ some k) : st'.Connected k ↔ st.Connected k := by
  constructor
  · rintro ⟨j, hj⟩
    rw [hc, update_apply] at hj
    split at hj
    · exact absurd hj hnew
    · exact ⟨j, hj⟩
  · rintro ⟨j, hj⟩
    refine ⟨j, ?_⟩
    rw [hc, update_of_ne, hj]
    rintro rfl
    exact hold hj

theorem connected_congr (hc : st'.conn = st.conn) (k : String) :
    st'.Connected k ↔ st.Connected k := by
  rw [State.Connected, State.Connected, hc]

theorem timers_resetSessionTimer (sm : SessionManager) (now : ℤ) (hne : k' ≠ k) :
    (sm.resetSessionTimer cfg now k).timers.lookup k' = sm.timers.lookup k' := by
  rw [resetSessionTimer]
  split
  · rfl
  · show (sm.stopTimer k).timers.lookup k' = _
    rw [timers_stopTimer, if_neg hne]

theorem length_stopTimer (sm : SessionManager) (k : String) :
    (sm.stopTimer k).timerObjects.length = sm.timerObjects.length := by
  rw [stopTimer]
  split
  · rfl
  · exact length_modify ..

theorem timers_startSessionTimer (sm : SessionManager) (now : ℤ) (k k' : String) :
    (sm.startSessionTimer cfg now k).timers.lookup k' =
      if k' = k ∧ (sm.sessions.lookup k).isSome then some sm.timerObjects.length
      else sm.timers.lookup k' := by
  rw [startSessionTimer]
  split
  · rename_i hnone
    rw [if_neg]
    rintro ⟨-, hsome⟩
    rw [hnone] at hsome
    cases hsome
  · rename_i ref hk
    rw [GoMap.lookup_insert_ite, timers_stopTimer, length_stopTimer, hk]
    by_cases heq : k' = k
    · rw [if_pos heq, if_pos ⟨heq, rfl⟩]
    · rw [if_neg heq, if_neg heq, if_neg fun h => heq h.1]

theorem sessions_resetSessionTimer (sm : SessionManager) (now : ℤ) (k : String) :
    (sm.resetSessionTimer cfg now k).sessions = sm.sessions := by
  rw [resetSessionTimer]
  split
  · rfl
  · exact sessions_stopTimer sm k

theorem sessions_startSessionTimer (sm : SessionManager) (now : ℤ) (k : String) :
    (sm.startSessionTimer cfg now k).sessions = sm.sessions := by
  rw [startSessionTimer]
  split
  · rfl
  · exact sessions_stopTimer sm k

theorem lastNote_append_ite {ns : List (String × Bool)} (hne : k' ≠ k) (c b : Bool) :
    lastNote (ns ++ if c then [(k, b)] else []) k' = lastNote ns k' := by
  split
  · rw [lastNote_append, if_neg hne]
  · rw [append_nil]

/-- What is registered after a callback was registered before, and is of another key. -/
theorem lookup_expireSession {s : SessionRef}
    (h : (sm.expireSession k).sessions.lookup k' = some s) :
    k' ≠ k ∧ sm.sessions.lookup k' = some s := by
  rw [expireSession] at h
  split at h
  · rename_i hnone
    refine ⟨?_, h⟩
    rintro rfl
    exact absurd (hnone.symm.trans h) (by simp)
  · rw [sessions_cleanupSessionLocked, GoMap.lookup_erase_ite] at h
    split at h
    · cases h
    · exact ⟨‹_›, h⟩

theorem timers_expireSession (hne : k' ≠ k) :
    (sm.expireSession k).timers.lookup k' = sm.timers.lookup k' := by
  rw [expireSession]
  split
  · rfl
  · rw [timers_cleanupSessionLocked, timers_stopTimer, if_neg hne]

/-- **Every step keeps the notes right.** -/
theorem clocked_step {ns : List (String × Bool)} (hcl : Clocked st ns)
    (h : step cfg st a = some st') : Clocked st' (ns ++ clockNotes cfg st a) := by
  refine ⟨timed_step hcl.timed h, fun k' s hk' => ?_⟩
  -- where neither the key nor its timer nor its long-polls are touched
  have frame : st.shared.sm.sessions.lookup k' = some s → (st'.Connected k' ↔ st.Connected k') →
      st'.shared.sm.timers.lookup k' = st.shared.sm.timers.lookup k' →
      ((st'.Connected k' ∨ (st'.shared.sm.timers.lookup k').isSome) ↔
        lastNote ns k' = some true) := by
    intro hold hconn htimer
    rw [hconn, htimer]
    exact hcl.notes k' s hold
  cases clockMove_of_step h with
  | idle ha hs ht ho hc =>
    rw [clockNotes_of_idle ha, append_nil]
    exact frame (hs ▸ hk') (connected_congr hc k') (by rw [ht])
  | @create k u url _ hcreate hc =>
    obtain ⟨-, hses⟩ := createSession_ok hcreate
    have hroom : st.shared.sm.maxSessionsExceeded cfg u = false := by
      rw [createSession] at hcreate
      split at hcreate
      · cases hcreate
      · exact Bool.eq_false_iff.mpr ‹_›
    have htimer : st'.shared.sm.timers = st.shared.sm.timers := by
      rw [createSession, hroom] at hcreate
      rw [← Except.ok.inj hcreate]
    rw [clockNotes, hroom, if_neg Bool.false_ne_true, lastNote_append, connected_congr hc, htimer]
    split
    · rename_i heq
      rw [heq, connected_iff_any, Option.some_inj, Bool.or_eq_true]
    · rename_i hne
      rw [hses, AList.lookup_insert_ne hne] at hk'
      exact hcl.notes k' s hk'
  | @reset i ch k u _ hi hsm hc =>
    rw [hsm, sessions_resetSessionTimer] at hk'
    have hnot : st.conn i = none := conn_of_getElem? hi
    rw [clockNotes, hi]
    dsimp only
    by_cases heq : k' = k
    · subst heq
      rw [hk', Option.isSome_some, if_pos rfl, lastNote_append, if_pos rfl]
      exact iff_of_true (.inl ⟨i, by rw [hc, update_self]⟩) rfl
    · rw [lastNote_append_ite heq]
      refine frame hk' (connected_update hc (by rw [hnot]; simp) ?_) ?_
      · exact fun h => heq (Option.some.inj h).symm
      · rw [hsm, timers_resetSessionTimer _ _ heq]
  | @missed i ch k u _ hi hk hsm hc =>
    rw [hsm] at hk'
    rw [clockNotes, hi, append_nil]
    refine frame hk' (connected_update hc ?_ (by simp)) (by rw [hsm])
    rw [conn_of_getElem? hi]
    intro heq
    rw [← Option.some.inj heq, hk] at hk'
    cases hk'
  | @start i ch k u r _ hi hsm hc =>
    rw [hsm, sessions_startSessionTimer] at hk'
    rw [clockNotes, hi]
    dsimp only
    by_cases heq : k' = k
    · subst heq
      rw [hk', Option.isSome_some, if_pos rfl, lastNote_append, if_pos rfl]
      refine iff_of_true (.inr ?_) rfl
      rw [hsm, timers_startSessionTimer, if_pos ⟨rfl, by rw [hk']; rfl⟩]
      rfl
    · rw [lastNote_append_ite heq]
      refine frame hk' (connected_update hc ?_ (by simp)) ?_
      · rw [conn_of_getElem? hi]
        exact fun h => heq (Option.some.inj h).symm
      · rw [hsm, timers_startSessionTimer, if_neg fun h => heq h.1]
  | @ended _ k ref reason _ ha hk hsm hc =>
    rw [clockNotes_of_idle ha, append_nil]
    rw [hsm, sessions_cleanupSessionLocked, GoMap.lookup_erase_ite] at hk'
    split at hk'
    · cases hk'
    · rename_i hne
      refine frame hk' (connected_congr hc k') ?_
      rw [hsm, timers_cleanupSessionLocked, timers_stopTimer,
        if_neg hne]
  | fired htm harmed hsm hc =>
    rw [clockNotes_of_idle (a := .fireTimer _) trivial, append_nil]
    rw [hsm] at hk'
    exact frame hk' (connected_congr hc k') (by rw [hsm]; rfl)
  | ran htm hfired hsm hc =>
    rw [clockNotes_of_idle (a := .runTimer _) trivial, append_nil]
    rw [hsm] at hk'
    obtain ⟨hne, hold⟩ := lookup_expireSession hk'
    refine frame hold (connected_congr hc k') ?_
    rw [hsm, timers_expireSession hne]
    rfl
  | shutdown hsm hc =>
    rw [hsm, lookup_shutdown] at hk'
    cases hk'

/-- **The clock of the sessions**: a timer is for a registered session; and a registered
session is on the clock exactly if a long-poll has called `ResetSessionTimer` or
`StartSessionTimer` for its key since it was created, or it was created under a key to which
a long-poll was connected or that had a timer. -/
theorem onClock_iff (cfg : Config) (as : List Action) (st : State)
    (hrun : run (step cfg) {} as = some st) (k : String) :
    (∀ t, st.shared.sm.timers.lookup k = some t → (st.shared.sm.sessions.lookup k).isSome) ∧
    ∀ s, st.shared.sm.sessions.lookup k = some s →
      (OnClock st k ↔ lastNote (recorded (step cfg) (clockNotes cfg) {} as) k = some true) := by
  have hcl : Clocked st (recorded (step cfg) (clockNotes cfg) {} as) := by
    refine run_invariant_recorded_unguarded (fun _ _ _ _ h hs => clocked_step h hs) ?_ hrun
    exact ⟨timed_empty, fun _ _ h => absurd h (by simp)⟩
  refine ⟨fun t ht => hcl.timed.live k t ht, fun s hs => ?_⟩
  rw [onClock_iff_isSome hcl.timed]
  exact hcl.notes k s hs

/-- A long-poll comes for a session and its client goes away: the idle timer is armed. -/
def polledRun : List Action :=
  [.createSession "key" "alice" "https://backend", .events "key" "alice", .advance 0 .proceed,
   .advance 0 .proceed, .advance 0 .proceed, .advance 0 .cancelled, .advance 0 .proceed]

/-- A session whose first long-poll has ended is on the clock. -/
theorem onClock_polled : ∃ st, run (step hourConfig) {} polledRun = some st ∧ OnClock st "key" :=
  ⟨_, rfl, ((onClock_iff hourConfig polledRun _ rfl "key").2 0 rfl).mpr (by decide +kernel)⟩

/-- **A session that is never on the clock**: nothing arms a timer for it as long as no
long-poll comes. -/
theorem not_onClock_created :
    ∃ st, run (step hourConfig) {} [.createSession "key" "alice" "https://backend",
        .tick 3600000000000] = some st ∧
      st.shared.sm.sessions.lookup "key" = some 0 ∧ st.shared.sm.timers.lookup "key" = none ∧
      st.threads = [] ∧ ¬ OnClock st "key" := by
  refine ⟨_, rfl, rfl, rfl, rfl, ?_⟩
  rintro (⟨i, hi⟩ | ⟨t, tm, ht, -, -⟩)
  · cases hi
  · exact absurd (show (none : Option TimerRef) = some t from ht) (by simp)

/-! ### No wrong expiry -/

/-- The session object for which a step arms a timer. The notes of a run are in the order
of its timers. -/
def armNotes (st : State) : Action → List SessionRef
  | .advance i _ =>
    match st.threads[i]? with
    | some (.events k _ (.startTimer _)) => (st.shared.sm.sessions.lookup k).toList
    | _ => []
  | _ => []

/-- **The timers are not disturbed**: a session is created under a key that has no timer with
its callback still to come; a long-poll connects to a registered session when no timer of
its key has fired and not run; and a long-poll of a registered session ends when no other
one is connected. -/
def Undisturbed (cfg : Config) (st : State) : Action → Prop
  | .createSession k u _ => st.shared.sm.maxSessionsExceeded cfg u = true ∨
      ∀ tm ∈ st.shared.sm.timerObjects, tm.sessionKey = k → ¬ tm.Pending
  | .advance i _ =>
    match st.threads[i]? with
    | some (.events k _ .reset) => st.shared.sm.sessions.lookup k = none ∨
        ∀ tm ∈ st.shared.sm.timerObjects, tm.sessionKey = k → tm.status ≠ .fired
    | some (.events k _ (.startTimer _)) => st.shared.sm.sessions.lookup k = none ∨
        ∀ j < st.threads.length, j ≠ i → st.conn j ≠ some k
    | _ => True
  | _ => True

instance (cfg : Config) (st : State) (a : Action) : Decidable (Undisturbed cfg st a) := by
  unfold Undisturbed
  split
  · infer_instance
  · split <;> infer_instance
  · infer_instance

theorem armNotes_of_idle (h : Idle cfg st a) : armNotes st a = [] := by
  cases a with
  | advance i ch =>
    rw [armNotes]
    split
    · rename_i k u r hi
      exact absurd hi ((h k u).2 r)
    · rfl
  | _ => rfl

/-- **The timers are about the sessions they were armed for**: where the callback of a timer
is still to come and its key is registered, no long-poll is connected to the key, and the
session is the one the timer was armed for. -/
structure Sound (st : State) (ns : List SessionRef) : Prop where
  timed : st.shared.sm.Timed
  length : ns.length = st.shared.sm.timerObjects.length
  sound : ∀ (t : TimerRef) (tm : Timer) (s : SessionRef),
    st.shared.sm.timerObjects[t]? = some tm → tm.Pending →
    st.shared.sm.sessions.lookup tm.sessionKey = some s →
    ¬ st.Connected tm.sessionKey ∧ ns[t]? = some s

/-- A timer that is pending in the one manager is pending, under the same key, in the
other. -/
def Earlier (sm sm' : SessionManager) : Prop :=
  ∀ (t : TimerRef) (tm : Timer), sm'.timerObjects[t]? = some tm → tm.Pending →
    ∃ tm₀, sm.timerObjects[t]? = some tm₀ ∧ tm₀.Pending ∧ tm₀.sessionKey = tm.sessionKey

theorem earlier_of_eq {sm' : SessionManager} (h : sm'.timerObjects = sm.timerObjects) :
    Earlier sm sm' := fun t tm ht hp => ⟨tm, by rw [← h, ht], hp, rfl⟩

theorem Earlier.trans {sm₁ sm₂ : SessionManager} (h : Earlier sm sm₁) (h' : Earlier sm₁ sm₂) :
    Earlier sm sm₂ := by
  intro t tm ht hp
  obtain ⟨tm₁, ht₁, hp₁, hk₁⟩ := h' t tm ht hp
  obtain ⟨tm₀, ht₀, hp₀, hk₀⟩ := h t tm₁ ht₁ hp₁
  exact ⟨tm₀, ht₀, hp₀, hk₀.trans hk₁⟩

theorem earlier_stopTimer (sm : SessionManager) (k : String) : Earlier sm (sm.stopTimer k) := by
  intro t tm ht hp
  rw [timerObjects_stopTimer] at ht
  split at ht
  · obtain ⟨tm₀, ht₀, rfl⟩ := Option.map_eq_some_iff.mp ht
    exact ⟨tm₀, ht₀, .inr (Timer.pending_stop hp), (Timer.sessionKey_stop tm₀).symm⟩
  · exact ⟨tm, ht, hp, rfl⟩

/-- Where the timer of a key is stopped, what is still pending for the key has fired. -/
theorem fired_of_stopTimer (h : sm.Timed)
    (ht : (sm.stopTimer k).timerObjects[t]? = some tm) (hp : tm.Pending) (hk : tm.sessionKey = k) :
    ∃ tm₀ ∈ sm.timerObjects, tm₀.sessionKey = k ∧ tm₀.status = .fired := by
  rw [timerObjects_stopTimer] at ht
  split at ht
  · obtain ⟨tm₀, ht₀, rfl⟩ := Option.map_eq_some_iff.mp ht
    rw [Timer.sessionKey_stop] at hk
    exact ⟨tm₀, mem_of_getElem? ht₀, hk, Timer.pending_stop hp⟩
  · rename_i hne
    refine ⟨tm, mem_of_getElem? ht, hk, hp.resolve_left fun harmed => hne ?_⟩
    rw [← hk]
    exact h.armed t tm ht harmed

theorem earlier_setTimer (ht : sm.timerObjects[t]? = some tm)
    (hp : tm.Pending) (s : TimerState) : Earlier sm (sm.setTimer t s) := by
  intro t' tm' ht' hp'
  rw [timerObjects_setTimer] at ht'
  split at ht'
  · rename_i heq
    obtain ⟨tm₀, ht₀, rfl⟩ := Option.map_eq_some_iff.mp ht'
    rw [← heq, ht] at ht₀
    cases ht₀
    exact ⟨tm, heq ▸ ht, hp, rfl⟩
  · exact ⟨tm', ht', hp', rfl⟩

theorem earlier_expireSession (sm : SessionManager) (k : String) :
    Earlier sm (sm.expireSession k) := by
  rw [expireSession]
  split
  · exact earlier_of_eq rfl
  · exact (earlier_stopTimer sm k).trans
      (earlier_of_eq (timerObjects_cleanupSessionLocked ..))

theorem length_setTimer (sm : SessionManager) (t : TimerRef) (s : TimerState) :
    (sm.setTimer t s).timerObjects.length = sm.timerObjects.length := length_modify ..

theorem length_expireSession (sm : SessionManager) (k : String) :
    (sm.expireSession k).timerObjects.length = sm.timerObjects.length := by
  rw [expireSession]
  split
  · rfl
  · rw [timerObjects_cleanupSessionLocked, length_stopTimer]

theorem length_shutdown (sm : SessionManager) :
    sm.shutdown.timerObjects.length = sm.timerObjects.length := by
  let same (sm' : SessionManager) : Prop := sm'.timerObjects.length = sm.timerObjects.length
  refine List.foldlRecOn (motive := same) _ _ ?_ fun sm' h e _ => (length_stopTimer _ _).trans h
  exact List.foldlRecOn (motive := same) _ _ rfl fun sm' h k _ => (length_stopTimer _ _).trans h

/-- A step that arms no timer: it has to register no session under the key of a pending
timer, and to connect no long-poll to such a key. -/
theorem Sound.frame (h : Sound st ns) (hstep : step cfg st a = some st')
    (hlen : st'.shared.sm.timerObjects.length = st.shared.sm.timerObjects.length)
    (he : Earlier st.shared.sm st'.shared.sm)
    (hkey : ∀ (t : TimerRef) (tm : Timer) (s : SessionRef),
      st'.shared.sm.timerObjects[t]? = some tm → tm.Pending →
      st'.shared.sm.sessions.lookup tm.sessionKey = some s →
      st.shared.sm.sessions.lookup tm.sessionKey = some s ∧
      (st'.Connected tm.sessionKey → st.Connected tm.sessionKey)) : Sound st' ns := by
  refine ⟨timed_step h.timed hstep, h.length.trans hlen.symm, fun t tm s ht hp hs => ?_⟩
  obtain ⟨hold, hconn⟩ := hkey t tm s ht hp hs
  obtain ⟨tm₀, ht₀, hp₀, heq⟩ := he t tm ht hp
  rw [← heq] at hold hconn ⊢
  obtain ⟨hnot, hns⟩ := h.sound t tm₀ s ht₀ hp₀ hold
  exact ⟨fun hc => hnot (hconn hc), hns⟩

theorem connected_of_update_none (hc : st'.conn = update st.conn i none)
    (h : st'.Connected k) : st.Connected k := by
  obtain ⟨j, hj⟩ := h
  rw [hc, update_apply] at hj
  split at hj
  · cases hj
  · exact ⟨j, hj⟩

/-- **A long-poll ends and arms a timer**, with no other one connected. -/
theorem sound_start {s₀ : SessionRef} (h : Sound st ns) (hstep : step cfg st a = some st')
    (hk : st.shared.sm.sessions.lookup k = some s₀)
    (halone : ∀ j < st.threads.length, j ≠ i → st.conn j ≠ some k)
    (hsm : st'.shared.sm = st.shared.sm.startSessionTimer cfg st.shared.now k)
    (hc : st'.conn = update st.conn i none) : Sound st' (ns ++ [s₀]) := by
  have hlen := length_stopTimer st.shared.sm k
  have hobj : st'.shared.sm.timerObjects = (st.shared.sm.stopTimer k).timerObjects ++
      [⟨k, st.shared.now + cfg.sessionTimeout, .armed⟩] := by
    rw [hsm, startSessionTimer, hk]
  refine ⟨timed_step h.timed hstep, ?_, fun t tm s ht hp hs => ?_⟩
  · rw [hobj, length_append, length_append, hlen, h.length]
    rfl
  rw [hsm, sessions_startSessionTimer] at hs
  rw [hobj] at ht
  rcases lt_or_ge t (st.shared.sm.stopTimer k).timerObjects.length with hlt | hge
  · rw [getElem?_append_left hlt] at ht
    obtain ⟨tm₀, ht₀, hp₀, heq⟩ := earlier_stopTimer _ k t tm ht hp
    rw [← heq] at hs ⊢
    obtain ⟨hnot, hns⟩ := h.sound t tm₀ s ht₀ hp₀ hs
    refine ⟨fun hconn => hnot (connected_of_update_none hc hconn), ?_⟩
    rw [getElem?_append_left (h.length ▸ hlen ▸ hlt), hns]
  · rw [getElem?_append_right hge, getElem?_singleton] at ht
    split at ht
    · rename_i hzero
      cases ht
      obtain rfl : t = ns.length := by
        rw [h.length, ← hlen]
        exact Nat.le_antisymm (Nat.sub_eq_zero_iff_le.mp hzero) hge
      constructor
      · rintro ⟨j, hj⟩
        rw [hc, update_apply] at hj
        split at hj
        · cases hj
        · rename_i hne
          refine halone j ?_ hne hj
          obtain ⟨th, hth, -⟩ := Option.bind_eq_some_iff.mp hj
          exact (List.getElem?_eq_some_iff.mp hth).1
      · rw [getElem?_append_right le_rfl, Nat.sub_self]
        exact hk.symm.trans hs
    · cases ht

/-- **Every undisturbed step keeps the timers sound.** -/
theorem sound_step (h : Sound st ns) (hg : Undisturbed cfg st a)
    (hstep : step cfg st a = some st') : Sound st' (ns ++ armNotes st a) := by
  cases clockMove_of_step hstep with
  | idle ha hs ht ho hc =>
    rw [armNotes_of_idle ha, append_nil]
    refine h.frame hstep (by rw [ho]) (earlier_of_eq ho) fun t tm s _ _ hk => ?_
    exact ⟨hs ▸ hk, (connected_congr hc _).mp⟩
  | @create k u url _ hcreate hc =>
    obtain ⟨-, hses⟩ := createSession_ok hcreate
    rw [createSession] at hcreate
    split at hcreate
    · cases hcreate
    · rename_i hroom
      have ho : st'.shared.sm.timerObjects = st.shared.sm.timerObjects := by
        rw [← Except.ok.inj hcreate]
      show Sound st' (ns ++ [])
      rw [append_nil]
      refine h.frame hstep (by rw [ho]) (earlier_of_eq ho) fun t tm s ht hp hk => ?_
      refine ⟨?_, (connected_congr hc _).mp⟩
      rw [hses, AList.lookup_insert_ne] at hk
      · exact hk
      · intro heq
        exact hg.resolve_left hroom tm (mem_of_getElem? (ho ▸ ht)) heq hp
  | @reset i ch k u _ hi hsm hc =>
    have hnotes : armNotes st (.advance i ch) = [] := by
      rw [armNotes, hi]
    have hguard : st.shared.sm.sessions.lookup k = none ∨
        ∀ tm ∈ st.shared.sm.timerObjects, tm.sessionKey = k → tm.status ≠ .fired := by
      rw [Undisturbed, hi] at hg
      exact hg
    rw [hnotes, append_nil]
    have he : Earlier st.shared.sm st'.shared.sm := by
      rw [hsm, resetSessionTimer]
      split
      · exact earlier_of_eq rfl
      · exact (earlier_stopTimer _ k).trans (earlier_of_eq rfl)
    have hlen : st'.shared.sm.timerObjects.length = st.shared.sm.timerObjects.length := by
      rw [hsm, resetSessionTimer]
      split
      · rfl
      · exact length_stopTimer _ k
    refine h.frame hstep hlen he fun t tm s ht hp hs => ?_
    rw [hsm, sessions_resetSessionTimer] at hs
    have hne : tm.sessionKey ≠ k := by
      intro heq
      rw [heq] at hs
      rw [hsm, resetSessionTimer, hs] at ht
      obtain ⟨tm₀, hmem, hkey, hfired⟩ := fired_of_stopTimer h.timed ht hp heq
      exact hguard.resolve_left (by rw [hs]; simp) tm₀ hmem hkey hfired
    refine ⟨hs, (connected_update hc ?_ fun heq => hne (Option.some.inj heq).symm).mp⟩
    rw [conn_of_getElem? hi]
    simp [Thread.connected]
  | @missed i ch k u _ hi hk hsm hc =>
    have hnotes : armNotes st (.advance i ch) = [] := by
      rw [armNotes, hi]
    rw [hnotes, append_nil]
    refine h.frame hstep (by rw [hsm]) (earlier_of_eq (by rw [hsm])) fun t tm s _ _ hs => ?_
    exact ⟨hsm ▸ hs, connected_of_update_none hc⟩
  | @start i ch k u r _ hi hsm hc =>
    have hguard : st.shared.sm.sessions.lookup k = none ∨
        ∀ j < st.threads.length, j ≠ i → st.conn j ≠ some k := by
      rw [Undisturbed, hi] at hg
      exact hg
    have hnotes : armNotes st (.advance i ch) = (st.shared.sm.sessions.lookup k).toList := by
      rw [armNotes, hi]
    rw [hnotes]
    cases hk : st.shared.sm.sessions.lookup k with
    | none =>
      have hsame : st'.shared.sm = st.shared.sm := by
        rw [hsm, startSessionTimer, hk]
      rw [Option.toList_none, append_nil]
      refine h.frame hstep (by rw [hsame]) (earlier_of_eq (by rw [hsame])) fun t tm s _ _ hs => ?_
      exact ⟨hsame ▸ hs, connected_of_update_none hc⟩
    | some s₀ =>
      exact sound_start h hstep hk (hguard.resolve_left (by rw [hk]; simp)) hsm hc
  | @ended _ k ref reason _ ha hk hsm hc =>
    rw [armNotes_of_idle ha, append_nil]
    refine h.frame hstep (by rw [hsm]; exact length_stopTimer _ k)
      (by rw [hsm]; exact earlier_stopTimer _ k) fun t tm s _ _ hs => ?_
    refine ⟨?_, (connected_congr hc _).mp⟩
    rw [hsm, sessions_cleanupSessionLocked, GoMap.lookup_erase_ite] at hs
    split at hs
    · cases hs
    · exact hs
  | @fired t tm _ htm harmed hsm hc =>
    show Sound st' (ns ++ [])
    rw [append_nil]
    refine h.frame hstep (by rw [hsm, length_setTimer])
      (hsm ▸ earlier_setTimer htm (.inl harmed) _) fun t tm s _ _ hs => ?_
    rw [hsm] at hs
    exact ⟨hs, (connected_congr hc _).mp⟩
  | @ran t tm _ htm hfired hsm hc =>
    show Sound st' (ns ++ [])
    rw [append_nil]
    refine h.frame hstep (by rw [hsm, length_expireSession, length_setTimer])
      (hsm ▸ (earlier_setTimer htm (.inr hfired) _).trans (earlier_expireSession _ _))
      fun t tm s _ _ hs => ?_
    rw [hsm] at hs
    exact ⟨(lookup_expireSession hs).2, (connected_congr hc _).mp⟩
  | shutdown hsm hc =>
    show Sound st' (ns ++ [])
    rw [append_nil]
    refine ⟨timed_step h.timed hstep, ?_, fun t tm s _ _ hs => ?_⟩
    · rw [hsm, length_shutdown, h.length]
    · rw [hsm, lookup_shutdown] at hs
      cases hs

/-- **No wrong expiry**: in a run whose steps leave the timers undisturbed, a callback that
removes a session finds no long-poll connected to it, and removes the session its timer was
armed for. -/
theorem expiry_undisturbed (cfg : Config) (as : List Action) (st : State)
    (hok : Guarded (step cfg) (Undisturbed cfg) {} as) (hrun : run (step cfg) {} as = some st)
    (t : TimerRef) (st' : State) (hstep : step cfg st (.runTimer t) = some st') (k : String)
    (s : SessionRef) (hlive : st.shared.sm.sessions.lookup k = some s)
    (hgone : st'.shared.sm.sessions.lookup k ≠ some s) :
    ¬ st.Connected k ∧ (recorded (step cfg) armNotes {} as)[t]? = some s := by
  have hsound : Sound st (recorded (step cfg) armNotes {} as) := by
    have h0 : Sound {} [] :=
      ⟨timed_empty, rfl, fun _ _ _ h => absurd h (by simp)⟩
    exact run_invariant_recorded (I := Sound) (fun _ _ _ _ h hg hs => sound_step h hg hs) h0 hok
      hrun
  obtain ⟨tm, htm, hfired, rfl⟩ := runTimer_some hstep
  -- the callback removes the session of its timer's key, and no other
  have hkey : tm.sessionKey = k := by
    by_contra hne
    apply hgone
    rw [expireSession]
    split
    · exact hlive
    · rw [sessions_cleanupSessionLocked, AList.lookup_erase_ne (Ne.symm hne)]
      exact hlive
  subst hkey
  exact hsound.sound t tm s htm (.inr hfired) hlive

/-- The last long-poll of a session ends, and the timer it arms runs out. -/
def idleRun : List Action := List.flatten [polledRun, [.tick 300000000000, .fireTimer 0]]

/-- The callback at the end of that run removes the session, to which nobody is connected. -/
theorem expiry_undisturbed_idle : ∃ st st', run (step hourConfig) {} idleRun = some st ∧
    step hourConfig st (.runTimer 0) = some st' ∧
    st.shared.sm.sessions.lookup "key" = some 0 ∧ st'.shared.sm.sessions.lookup "key" = none ∧
    ¬ st.Connected "key" ∧ (recorded (step hourConfig) armNotes {} idleRun)[0]? = some 0 := by
  refine ⟨_, _, rfl, rfl, rfl, rfl, ?_⟩
  exact expiry_undisturbed hourConfig idleRun _ (by decide +kernel) rfl 0 _ rfl "key" 0 rfl
    (by decide +kernel)

/-- **A callback that ends a session with its Backend connected**: two long-polls overlap, the
first one's end arms the timer, and it runs out while the second is waiting. -/
theorem expiry_connected : ∃ st st', run (step hourConfig) {}
      (List.flatten [[.createSession "key" "alice" "https://backend", .events "key" "alice",
        .events "key" "alice"], List.replicate 3 (.advance 0 .proceed),
        List.replicate 3 (.advance 1 .proceed),
        [.advance 0 .cancelled, .advance 0 .proceed, .tick 300000000000, .fireTimer 0]]) =
      some st ∧
    step hourConfig st (.runTimer 0) = some st' ∧ st.conn 1 = some "key" ∧
    st.shared.sm.sessions.lookup "key" = some 0 ∧
    st'.shared.sm.sessions.lookup "key" = none :=
  ⟨_, _, rfl, rfl, rfl, rfl, rfl⟩

end Rossoctl.Broker
