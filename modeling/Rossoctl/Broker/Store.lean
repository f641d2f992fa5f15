import Rossoctl.Broker.Steps

/-!
# The session manager by itself

`Rossoctl.Broker.Store` is the session manager together with the clock it reads, and
`Rossoctl.Broker.Store.step` lets its operations be called in any order and with any keys,
as `internal/session/manager.go` offers them. The requests of the broker call them only
in the orders of `Rossoctl.Broker.step`.

Both have in common what an operation other than `CreateSession` can do to the session
objects and to the two maps that say which of them are registered: nothing, a clean-up
under a registered key, or a change in place of what the manager does not look at. This
is `Rossoctl.Broker.SessionManager.Change`, and every step of the manager
(`Rossoctl.Broker.Store.changes_of_step`) and of the broker
(`Rossoctl.Broker.changes_of_step`) is a `CreateSession` or a sequence of such changes. What
a change keeps therefore holds in both.
-/

namespace Rossoctl.Broker

open List Option SessionManager

/-! ### The machine -/

/-- The session manager, and the time. -/
structure Store where
  now : ℤ := 0
  sm : SessionManager := {}

/-- A call of the session manager, or a timer. -/
inductive StoreAction where
  | tick (d : ℕ)
  | createSession (sessionKey userID backendRedirectURL : String)
  | endSession (sessionKey : String)
  | expireSession (sessionKey : String)
  | resetSessionTimer (sessionKey : String)
  | startSessionTimer (sessionKey : String)
  /-- An armed timer reaches its deadline. -/
  | fireTimer (t : TimerRef)
  /-- The callback of a fired timer runs. -/
  | runTimer (t : TimerRef)
  | shutdown

/-- **One step of the session manager.** A call that fails leaves it as it is. -/
def Store.step (cfg : Config) (st : Store) : StoreAction → Option Store
  | .tick d => some { st with now := st.now + d }
  | .createSession k u url =>
    match st.sm.createSession cfg st.now k u url with
    | .error _ => some st
    | .ok sm => some { st with sm := sm }
  | .endSession k =>
    match st.sm.endSession k with
    | .error _ => some st
    | .ok sm => some { st with sm := sm }
  | .expireSession k => some { st with sm := st.sm.expireSession k }
  | .resetSessionTimer k => some { st with sm := st.sm.resetSessionTimer cfg st.now k }
  | .startSessionTimer k => some { st with sm := st.sm.startSessionTimer cfg st.now k }
  | .fireTimer t =>
    match st.sm.timerObjects[t]? with
    | some { status := .armed, deadline := d, .. } =>
      if d ≤ st.now then some { st with sm := st.sm.setTimer t .fired } else none
    | _ => none
  | .runTimer t =>
    match st.sm.timerObjects[t]? with
    | some { status := .fired, sessionKey := k, .. } =>
      some { st with sm := (st.sm.setTimer t .finished).expireSession k }
    | _ => none
  | .shutdown => some { st with sm := st.sm.shutdown }

/-! ### Changes -/

/-- What of a session object is the manager's. -/
structure Session.Life where
  sessionKey : String
  userID : String
  doneCloses : ℕ

/-- The manager's part of a session object. -/
def Session.life (s : Session) : Session.Life where
  sessionKey := s.sessionKey
  userID := s.userID
  doneCloses := s.doneCloses

namespace SessionManager

variable {sm sm' : SessionManager} {k : String} {ref : SessionRef} {w : Option SessionRef}

/-- What the clean-up of a session does to its object. -/
def close (reason : String) (s : Session) : Session :=
  { s with
    doneCloses := s.doneCloses + 1
    eventWaiters := s.eventWaiters <|>
      some { type := "error", message := reason, code := "session_expired" } }

variable {st st' : State} {k u : String} {a : Action} {s : SessionRef}

theorem exceeded_of_error {cfg : Config} {now : ℤ} {url e : String}
    (h : sm.createSession cfg now k u url = .error e) : sm.maxSessionsExceeded cfg u = true := by
  by_contra hroom
  rw [createSession, if_neg hroom] at h
  cases h

@[simp] theorem sessions_stopTimer (sm : SessionManager) (k : String) :
    (sm.stopTimer k).sessions = sm.sessions := by
  rw [stopTimer]
  split <;> rfl

@[simp] theorem objects_stopTimer (sm : SessionManager) (k : String) :
    (sm.stopTimer k).objects = sm.objects := by
  rw [stopTimer]
  split <;> rfl

@[simp] theorem userSessions_stopTimer (sm : SessionManager) (k : String) :
    (sm.stopTimer k).userSessions = sm.userSessions := by
  rw [stopTimer]
  split <;> rfl

@[simp] theorem object_stopTimer (sm : SessionManager) (k : String) (ref : SessionRef) :
    (sm.stopTimer k).object ref = sm.object ref := by
  rw [object, objects_stopTimer, object]

@[simp] theorem sessions_cleanupSessionLocked (sm : SessionManager) (k : String)
    (ref : SessionRef) (reason : String) :
    (sm.cleanupSessionLocked k ref reason).sessions = sm.sessions.erase k := by
  show (sm.stopTimer k).sessions.erase k = _
  rw [sessions_stopTimer]

theorem object_cleanupSessionLocked (sm : SessionManager) (k : String)
    (ref : SessionRef) (reason : String) (s : SessionRef) :
    (sm.cleanupSessionLocked k ref reason).object s =
      if ref = s then (sm.object s).map (close reason) else sm.object s := by
  show ((sm.stopTimer k).modify ref (close reason)).object s = _
  rw [object_modify, object_stopTimer]

/-- **A change** of the session manager that is no `CreateSession`; `w` is the object whose
event slot it may write. -/
inductive Change (w : Option SessionRef) : SessionManager → SessionManager → Prop
  /-- The timers are changed, and nothing else. -/
  | timers {sm sm' : SessionManager} (ho : sm'.objects = sm.objects)
      (hs : sm'.sessions = sm.sessions) (hu : sm'.userSessions = sm.userSessions) : Change w sm sm'
  /-- A registered session is cleaned up. -/
  | cleanup {sm : SessionManager} {k : String} {ref : SessionRef}
      (h : sm.sessions.lookup k = some ref) (reason : String) :
      Change w sm (sm.cleanupSessionLocked k ref reason)
  /-- An object is changed in place. -/
  | modify (sm : SessionManager) (ref : SessionRef) {f : Session → Session}
      (hf : ∀ o, (f o).life = o.life)
      (hw : w ≠ some ref → ∀ o, (f o).eventWaiters = o.eventWaiters) : Change w sm (sm.modify ref f)

/-- Several changes, one after the other. -/
abbrev Changes (w : Option SessionRef) : SessionManager → SessionManager → Prop :=
  Relation.ReflTransGen (Change w)

theorem Changes.induction {P : SessionManager → Prop}
    (h : ∀ sm sm', Change w sm sm' → P sm → P sm') (hc : Changes w sm sm') (h0 : P sm) : P sm' := by
  induction hc with
  | refl => exact h0
  | tail _ hlast ih => exact h _ _ hlast ih

theorem change_stopTimer (sm : SessionManager) (k : String) : Change w sm (sm.stopTimer k) :=
  .timers (objects_stopTimer sm k) (sessions_stopTimer sm k) (userSessions_stopTimer sm k)

theorem changes_endSession (h : sm.endSession k = .ok sm') : Changes w sm sm' := by
  rw [endSession] at h
  split at h
  · cases h
  · rename_i hk
    cases h
    exact .single (.cleanup hk _)

theorem changes_expireSession (sm : SessionManager) (k : String) :
    Changes w sm (sm.expireSession k) := by
  rw [expireSession]
  split
  · exact .refl
  · rename_i hk
    exact .single (.cleanup hk _)

theorem changes_runTimer (sm : SessionManager) (t : TimerRef) (k : String) :
    Changes w sm ((sm.setTimer t .finished).expireSession k) := by
  have hset : Change w sm (sm.setTimer t .finished) := .timers rfl rfl rfl
  exact .head hset (changes_expireSession _ k)

theorem changes_resetSessionTimer (cfg : Config) (now : ℤ) (sm : SessionManager) (k : String) :
    Changes w sm (sm.resetSessionTimer cfg now k) := by
  rw [resetSessionTimer]
  split
  · exact .refl
  · exact .tail (.single (change_stopTimer sm k)) (.modify _ _ (fun _ => rfl) fun _ _ => rfl)

theorem changes_startSessionTimer (cfg : Config) (now : ℤ) (sm : SessionManager) (k : String) :
    Changes w sm (sm.startSessionTimer cfg now k) := by
  rw [startSessionTimer]
  split
  · exact .refl
  · exact .tail (.single (change_stopTimer sm k)) (.timers rfl rfl rfl)

/-- The loop of the shutdown: the entries still to come are still registered. -/
theorem changes_foldl_cleanup (reason : String) (es : List (Sigma fun _ : String => SessionRef))
    (hnd : es.NodupKeys) (sm : SessionManager)
    (hes : ∀ e ∈ es, sm.sessions.lookup e.1 = some e.2) :
    Changes w sm (es.foldl (fun acc e => acc.cleanupSessionLocked e.1 e.2 reason) sm) := by
  induction es generalizing sm with
  | nil => exact .refl
  | cons e es ih =>
    obtain ⟨hne, hnd'⟩ := nodupKeys_cons.mp hnd
    refine .head (.cleanup (hes e mem_cons_self) reason) (ih hnd' _ fun e' he' => ?_)
    have hkey : e'.1 ≠ e.1 := by
      rintro heq
      exact hne (heq ▸ mem_keys_of_mem he')
    rw [sessions_cleanupSessionLocked, AList.lookup_erase_ne hkey]
    exact hes e' (mem_cons_of_mem e he')

theorem sessions_foldl_stopTimer (keys : List String) (sm : SessionManager) :
    (keys.foldl stopTimer sm).sessions = sm.sessions :=
  List.foldlRecOn (motive := fun sm' => sm'.sessions = sm.sessions) _ _ rfl
    fun sm' h k _ => (sessions_stopTimer sm' k).trans h

theorem changes_shutdown (sm : SessionManager) : Changes w sm sm.shutdown := by
  have hstopped : Changes w sm (sm.timers.keys.foldl stopTimer sm) :=
    List.foldlRecOn _ _ .refl fun sm' h k _ => .tail h (change_stopTimer sm' k)
  refine hstopped.trans ?_
  refine changes_foldl_cleanup _ sm.sessions.entries sm.sessions.nodupKeys _ ?_
  rintro ⟨k, ref⟩ he
  rw [sessions_foldl_stopTimer]
  exact GoMap.mem_entries_iff.mp he

end SessionManager

/-! ### Every step is a sequence of changes -/

/-- **The steps of the manager.** -/
theorem Store.changes_of_step {cfg : Config} {st st' : Store} {a : StoreAction}
    (h : st.step cfg a = some st') :
    (∃ k u url, a = .createSession k u url ∧ st.sm.createSession cfg st.now k u url = .ok st'.sm) ∨
      st.sm.Changes none st'.sm := by
  cases a with
  | tick d =>
    cases h
    exact .inr .refl
  | createSession k u url =>
    rw [Store.step] at h
    split at h
    · cases h
      exact .inr .refl
    · cases h
      exact .inl ⟨k, u, url, rfl, ‹_›⟩
  | endSession k =>
    rw [Store.step] at h
    split at h
    · cases h
      exact .inr .refl
    · cases h
      exact .inr (changes_endSession ‹_›)
  | expireSession k =>
    cases h
    exact .inr (changes_expireSession _ k)
  | resetSessionTimer k =>
    cases h
    exact .inr (changes_resetSessionTimer cfg _ _ k)
  | startSessionTimer k =>
    cases h
    exact .inr (changes_startSessionTimer cfg _ _ k)
  | fireTimer t =>
    rw [Store.step] at h
    split at h
    · split at h
      · cases h
        exact .inr (.single (.timers rfl rfl rfl))
      · cases h
    · cases h
  | runTimer t =>
    rw [Store.step] at h
    split at h
    · cases h
      exact .inr (changes_runTimer _ t _)
    · cases h
  | shutdown =>
    cases h
    exact .inr (changes_shutdown _)

variable {cfg : Config} {b b' : Shared} {ch : Choice}

/-- The object whose event slot a request is about to write. -/
def Thread.writes : Thread → Option SessionRef
  | .token _ (.publish s _ _ _) => some s
  | .events _ _ (.poll s) => some s
  | _ => none

/-- The object whose event slot a step may write, beyond leaving the last event in it. -/
def State.writes (st : State) : Action → Option SessionRef
  | .advance i _ => (st.threads[i]?).bind Thread.writes
  | _ => none

theorem changes_tokenStep {rq : TokenRequest} {pc pc' : TokenPc}
    (h : TokenStep cfg b rq pc b' pc') : b.sm.Changes (Thread.token rq pc).writes b'.sm := by
  cases h with
  | acquired | finished | released | installed =>
    exact .single (.modify _ _ (fun _ => rfl) fun _ _ => rfl)
  | published => exact .single (.modify _ _ (fun _ => rfl) fun hw => absurd rfl hw)
  | _ => exact .refl

theorem changes_stepEvents {pc pc' : EventsPc} (h : stepEvents cfg b k u pc ch = some (b', pc')) :
    b.sm.Changes (Thread.events k u pc).writes b'.sm := by
  unfold stepEvents at h
  split at h
  · split at h <;> cases h <;> exact .refl
  · cases h
    exact changes_resetSessionTimer cfg _ _ k
  · split at h <;> cases h <;> exact .refl
  · -- the event is taken out of its channel
    split at h
    · cases h
    · cases h
      exact .single (.modify _ _ (fun _ => rfl) fun hw => absurd rfl hw)
  · split at h
    · cases h
      exact .refl
    · cases h
  · cases h
    exact .refl
  · cases h
    exact changes_startSessionTimer cfg _ _ k
  · cases h

theorem changes_stepEnd {pc pc' : EndPc} (h : stepEnd b k u pc ch = some (b', pc')) :
    b.sm.Changes none b'.sm := by
  unfold stepEnd at h
  split at h
  · split at h <;> cases h <;> exact .refl
  · split at h
    · cases h
      exact .refl
    · cases h
      exact changes_endSession ‹_›
  · cases h

theorem changes_stepThread {th th' : Thread} (h : stepThread cfg b ch th = some (b', th')) :
    b.sm.Changes th.writes b'.sm := by
  cases th with
  | token rq pc =>
    obtain ⟨⟨b₁, pc'⟩, htok, heq⟩ := map_eq_some_iff.mp h
    cases heq
    exact changes_tokenStep (tokenStep_of_stepToken htok)
  | events k u pc =>
    obtain ⟨⟨b₁, pc'⟩, hev, heq⟩ := map_eq_some_iff.mp h
    cases heq
    exact changes_stepEvents hev
  | callback rq pc =>
    obtain ⟨⟨b₁, pc'⟩, hcb, heq⟩ := map_eq_some_iff.mp h
    cases heq
    rcases stepCallback_cases hcb with ⟨rfl, -⟩ | ⟨k, u, -, -, hok⟩
    · exact .refl
    · obtain ⟨-, s, tx, t, -, -, -, -, rfl⟩ := completeOAuth_ok hok
      exact .refl
  | finish k u pc =>
    obtain ⟨⟨b₁, pc'⟩, hend, heq⟩ := map_eq_some_iff.mp h
    cases heq
    exact changes_stepEnd hend

/-- **The steps of the broker.** -/
theorem changes_of_step (h : step cfg st a = some st') : (∃ k u url, a = .createSession k u url ∧
        st.shared.sm.createSession cfg st.shared.now k u url = .ok st'.shared.sm) ∨
      st.shared.sm.Changes (st.writes a) st'.shared.sm := by
  cases a with
  | createSession k u url =>
    rw [step] at h
    split at h
    · cases h
      exact .inr .refl
    · cases h
      exact .inl ⟨k, u, url, rfl, ‹_›⟩
  | advance i ch =>
    rw [step] at h
    split at h
    · cases h
    · rename_i th hi
      obtain ⟨⟨b', th'⟩, hstep, rfl⟩ := map_eq_some_iff.mp h
      refine .inr ?_
      rw [State.writes, hi]
      exact changes_stepThread hstep
  | fireTimer t =>
    rw [step] at h
    split at h
    · split at h
      · cases h
        exact .inr (.single (.timers rfl rfl rfl))
      · cases h
    · cases h
  | runTimer t =>
    rw [step] at h
    split at h
    · cases h
      exact .inr (changes_runTimer _ t _)
    · cases h
  | shutdown =>
    cases h
    exact .inr (changes_shutdown _)
  | tick | getToken | events | callback | endSession | cleanupExpiredTokens =>
    cases h
    exact .inr .refl

/-! ### Registered sessions -/

namespace SessionManager

variable {sm sm' : SessionManager} {now : ℤ} {k u url : String} {w : Option SessionRef}

/-- The manager's part of the object a pointer leads to. -/
def life (sm : SessionManager) (ref : SessionRef) : Option Session.Life :=
  (sm.object ref).map Session.life

theorem life_modify {f : Session → Session} (hf : ∀ o, (f o).life = o.life)
    (sm : SessionManager) (s ref : SessionRef) : (sm.modify s f).life ref = sm.life ref := by
  rw [life, object_modify, life]
  split
  · rw [Option.map_map]
    exact congrArg (Option.map · _) (funext hf)
  · rfl

theorem life_cleanupSessionLocked (sm : SessionManager) (k : String) (s : SessionRef)
    (reason : String) (ref : SessionRef) :
    (sm.cleanupSessionLocked k s reason).life ref =
      if s = ref then (sm.life ref).map fun l => { l with doneCloses := l.doneCloses + 1 }
      else sm.life ref := by
  rw [life, object_cleanupSessionLocked, life]
  split
  · rw [Option.map_map, Option.map_map]
    rfl
  · rfl

theorem life_createSession (h : sm.createSession cfg now k u url = .ok sm') (ref : SessionRef) :
    sm'.life ref =
      if ref = sm.objects.length then some ⟨k, u, 0⟩ else sm.life ref := by
  rw [life, (createSession_ok h).1, life]
  split
  · rfl
  · rfl

/-- **Registered objects exist**, and have the key they are registered under. -/
def Refs (sm : SessionManager) : Prop :=
  ∀ k ref, sm.sessions.lookup k = some ref → ∃ l, sm.life ref = some l ∧ l.sessionKey = k

theorem Refs.change (h : Change w sm sm') (hr : sm.Refs) : sm'.Refs := by
  cases h with
  | timers ho hs hu =>
    intro k ref hk
    rw [hs] at hk
    rw [life, object, ho]
    exact hr k ref hk
  | @cleanup k₀ s h₀ reason =>
    intro k ref hk
    rw [sessions_cleanupSessionLocked, GoMap.lookup_erase_ite] at hk
    split at hk
    · cases hk
    · obtain ⟨l, hl, hkey⟩ := hr k ref hk
      rw [life_cleanupSessionLocked, hl]
      split
      · exact ⟨_, rfl, hkey⟩
      · exact ⟨l, rfl, hkey⟩
  | modify s hf =>
    intro k ref hk
    rw [life_modify hf]
    exact hr k ref hk

variable {ref : SessionRef}

theorem Refs.ne_length (hr : sm.Refs) (h : sm.sessions.lookup k = some ref) :
    ref ≠ sm.objects.length := by
  rintro rfl
  obtain ⟨l, hl, -⟩ := hr k _ h
  rw [life, object, getElem?_eq_none le_rfl] at hl
  cases hl

theorem Refs.create (hr : sm.Refs) (h : sm.createSession cfg now k u url = .ok sm') :
    sm'.Refs := by
  intro k' ref hk
  rw [(createSession_ok h).2, GoMap.lookup_insert_ite] at hk
  rw [life_createSession h]
  split at hk
  · rename_i heq
    cases hk
    exact ⟨⟨k, u, 0⟩, if_pos rfl, heq.symm⟩
  · rw [if_neg (hr.ne_length hk)]
    exact hr k' ref hk

theorem refs_empty : ({} : SessionManager).Refs :=
  fun _ _ h => absurd h (by simp)

/-- A pointer leads to an object with a key. -/
def KeyAt (sm : SessionManager) (ref : SessionRef) (k : String) : Prop :=
  ∃ l, sm.life ref = some l ∧ l.sessionKey = k

theorem KeyAt.unique {k' : String} (h : sm.KeyAt ref k) (h' : sm.KeyAt ref k') : k = k' := by
  obtain ⟨l, hl, rfl⟩ := h
  obtain ⟨l', hl', rfl⟩ := h'
  rw [some.inj (hl.symm.trans hl')]

theorem KeyAt.change (h : Change w sm sm') (hk : sm.KeyAt ref k) : sm'.KeyAt ref k := by
  obtain ⟨l, hl, hkey⟩ := hk
  cases h with
  | timers ho hs hu =>
    refine ⟨l, ?_, hkey⟩
    rw [life, object, ho]
    exact hl
  | cleanup h₀ reason =>
    rw [KeyAt, life_cleanupSessionLocked, hl]
    split
    · exact ⟨_, rfl, hkey⟩
    · exact ⟨l, rfl, hkey⟩
  | modify s hf => exact ⟨l, (life_modify hf _ s ref).trans hl, hkey⟩

theorem KeyAt.create {k' : String} (hk : sm.KeyAt ref k')
    (h : sm.createSession cfg now k u url = .ok sm') : sm'.KeyAt ref k' := by
  obtain ⟨l, hl, hkey⟩ := hk
  refine ⟨l, ?_, hkey⟩
  rw [life_createSession h, if_neg, hl]
  rintro rfl
  rw [life, object, getElem?_eq_none le_rfl] at hl
  cases hl

end SessionManager

theorem Store.refs_step {st st' : Store} {a : StoreAction} (hr : st.sm.Refs)
    (h : st.step cfg a = some st') : st'.sm.Refs := by
  rcases Store.changes_of_step h with ⟨k, u, url, -, hc⟩ | hc
  · exact hr.create hc
  · exact hc.induction (fun _ _ => SessionManager.Refs.change) hr

theorem refs_step (hr : st.shared.sm.Refs) (h : step cfg st a = some st') : st'.shared.sm.Refs := by
  rcases changes_of_step h with ⟨k, u, url, -, hc⟩ | hc
  · exact hr.create hc
  · exact hc.induction (fun _ _ => SessionManager.Refs.change) hr

theorem keyAt_step (hk : st.shared.sm.KeyAt s k) (h : step cfg st a = some st') :
    st'.shared.sm.KeyAt s k := by
  rcases changes_of_step h with ⟨k', u, url, -, hc⟩ | hc
  · exact hk.create hc
  · exact hc.induction (fun _ _ => SessionManager.KeyAt.change) hk

/-! ### The pointers of the requests -/

/-- The session object a request has a pointer to, and the key it was found under. -/
def Thread.pointer : Thread → Option (SessionRef × String)
  | .token rq pc => pc.session.map fun s => (s, rq.sessionKey)
  | .events k _ (.poll s) => some (s, k)
  | _ => none

theorem session_tokenStep {rq : TokenRequest} {pc pc' : TokenPc}
    (h : TokenStep cfg b rq pc b' pc') (hs : pc'.session = some s) :
    pc.session = some s ∨ b.sm.sessions.lookup rq.sessionKey = some s := by
  cases h with
  | found hfound =>
    cases hs
    exact .inr hfound
  | giveUp hp | giveUpTx hp =>
    cases hs
    exact .inl (session_of_holds hp)
  | reject | admitted | validated | cached | uncached | released =>
    cases hs
  | _ => exact .inl hs

theorem pointer_stepEvents {pc pc' : EventsPc} (h : stepEvents cfg b k u pc ch = some (b', pc'))
    (hs : pc' = .poll s) : b.sm.sessions.lookup k = some s := by
  subst hs
  unfold stepEvents at h
  split at h
  · split at h <;> exact absurd (Prod.mk.inj (some.inj h)).2 (by simp)
  · exact absurd (Prod.mk.inj (some.inj h)).2 (by simp)
  · split at h
    · exact absurd (Prod.mk.inj (some.inj h)).2 (by simp)
    · rename_i hget
      obtain rfl := EventsPc.poll.inj (Prod.mk.inj (some.inj h)).2
      exact getSession_ok hget
  · split at h
    · cases h
    · exact absurd (Prod.mk.inj (some.inj h)).2 (by simp)
  · split at h
    · exact absurd (Prod.mk.inj (some.inj h)).2 (by simp)
    · cases h
  · exact absurd (Prod.mk.inj (some.inj h)).2 (by simp)
  · exact absurd (Prod.mk.inj (some.inj h)).2 (by simp)
  · cases h

theorem pointer_stepThread {th th' : Thread} (h : stepThread cfg b ch th = some (b', th'))
    (hp : th'.pointer = some (s, k)) :
    th.pointer = some (s, k) ∨ b.sm.sessions.lookup k = some s := by
  cases th with
  | token rq pc =>
    obtain ⟨⟨b₁, pc'⟩, htok, heq⟩ := map_eq_some_iff.mp h
    cases heq
    obtain ⟨s', hs', hpair⟩ := map_eq_some_iff.mp hp
    cases hpair
    rcases session_tokenStep (tokenStep_of_stepToken htok) hs' with hold | hfound
    · exact .inl (by rw [Thread.pointer, hold]; rfl)
    · exact .inr hfound
  | events k' u pc =>
    obtain ⟨⟨b₁, pc'⟩, hev, heq⟩ := map_eq_some_iff.mp h
    cases heq
    cases pc' with
    | poll s' =>
      cases hp
      exact .inr (pointer_stepEvents hev rfl)
    | _ => cases hp
  | callback rq pc =>
    obtain ⟨r, -, heq⟩ := map_eq_some_iff.mp h
    cases heq
    cases hp
  | finish k' u pc =>
    obtain ⟨r, -, heq⟩ := map_eq_some_iff.mp h
    cases heq
    cases hp

/-- **Pointers lead to objects**: those that are registered, and those of the requests. -/
structure Pointed (st : State) : Prop where
  refs : st.shared.sm.Refs
  threads : ∀ th ∈ st.threads, ∀ s k, th.pointer = some (s, k) → st.shared.sm.KeyAt s k

/-- **Every step keeps the pointers good.** -/
theorem pointed_step (hp : Pointed st) (h : step cfg st a = some st') : Pointed st' := by
  refine ⟨refs_step hp.refs h, fun th hth s k hth' => keyAt_step ?_ h⟩
  -- a request whose pointer is new has found it in the registry
  have spawned : ∀ {th₀ : Thread}, th₀.pointer = none → th ∈ st.threads ++ [th₀] →
      st.shared.sm.KeyAt s k := by
    intro th₀ hnone hmem
    rcases mem_append.mp hmem with hold | hnew
    · exact hp.threads th hold s k hth'
    · obtain rfl := mem_singleton.mp hnew
      exact absurd (hnone.symm.trans hth') (by simp)
  cases a with
  | advance i ch =>
    rw [step] at h
    split at h
    · cases h
    · rename_i th₀ hi
      obtain ⟨⟨b', th'⟩, hstep, rfl⟩ := map_eq_some_iff.mp h
      rcases mem_or_eq_of_mem_set hth with hold | rfl
      · exact hp.threads th hold s k hth'
      · rcases pointer_stepThread hstep hth' with hsame | hfound
        · exact hp.threads th₀ (mem_of_getElem? hi) s k hsame
        · exact hp.refs k s hfound
  | getToken | events | callback | endSession =>
    cases h
    exact spawned rfl hth
  | tick | cleanupExpiredTokens | shutdown =>
    cases h
    exact hp.threads th hth s k hth'
  | createSession =>
    rw [step] at h
    split at h <;> obtain rfl := some.inj h <;> exact hp.threads th hth s k hth'
  | fireTimer t =>
    rw [step] at h
    split at h
    · split at h
      · cases h
        exact hp.threads th hth s k hth'
      · cases h
    · cases h
  | runTimer t =>
    rw [step] at h
    split at h
    · cases h
      exact hp.threads th hth s k hth'
    · cases h

/-- **Pointers lead to objects, in every run.** -/
theorem pointed_run {as : List Action} (hrun : run (step cfg) {} as = some st) : Pointed st :=
  run_invariant_unguarded (fun _ _ _ h => pointed_step h)
    ⟨refs_empty, fun _ h => absurd h not_mem_nil⟩ hrun

end Rossoctl.Broker
