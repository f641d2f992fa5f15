import Rossoctl.Index
import Rossoctl.Broker.Semaphore

/-!
# The registry of sessions

Two things are promised of the maps of the session manager. The list of a user is an
index: it has the keys of the user's sessions, each once, and no more of them than
allowed (`Rossoctl.Broker.SessionManager.Indexed`). And a session that leaves the registry
is told so: its `Done` channel is closed, once (`Rossoctl.Broker.SessionManager.Broadcast`).

The operations that remove a session keep both, and so does a `CreateSession` under a key
that is not in use. Under a key that is, `CreateSession` puts its own object in the place of
the old one, which nobody closes, and appends the key to a list of keys where it may stand
already, while it stays in the list of the user it belonged to. So the runs that keep the
promises are those that create sessions under unused keys only
(`Rossoctl.Broker.Store.indexed_iff`, `Rossoctl.Broker.broadcast_iff`).
-/

namespace Rossoctl.Broker

open List Option SessionManager GoMap Function

namespace SessionManager

variable {cfg : Config} {sm sm' : SessionManager} {now : ℤ} {k u url : String}

/-! ### The two promises -/

/-- The user of the session that is registered under a key. -/
def owner (sm : SessionManager) (k : String) : Option String :=
  ((sm.sessions.lookup k).bind sm.object).map Session.userID

/-- **The index of the sessions**: the list of a user has the keys of its sessions, each of
them once, and there is no list without keys; and no user has more than allowed. -/
structure Indexed (cfg : Config) (sm : SessionManager) : Prop where
  index : IsIndex sm.owner fun u => sm.userSessions.lookup u
  le_max : ∀ u keys, sm.userSessions.lookup u = some keys →
    (keys.length : ℤ) ≤ cfg.maxSessionsPerUser

/-- **The broadcast**: `Done` is open as long as the session is registered, and has been
closed once when it is not. -/
def Broadcast (sm : SessionManager) : Prop :=
  ∀ ref o, sm.object ref = some o →
    o.doneCloses = if sm.sessions.lookup o.sessionKey = some ref then 0 else 1

/-! ### The index -/

theorem owner_eq_life (sm : SessionManager) (k : String) :
    sm.owner k = ((sm.sessions.lookup k).bind sm.life).map Session.Life.userID := by
  rw [owner, Option.map_bind, Option.map_bind]
  congr 1
  funext ref
  rw [comp_apply, comp_apply, life, Option.map_map]
  rfl

theorem owner_eq_none_iff (hr : sm.Refs) : sm.owner k = none ↔ sm.sessions.lookup k = none := by
  rw [owner_eq_life, map_eq_none_iff]
  cases hk : sm.sessions.lookup k with
  | none => simp
  | some ref =>
    obtain ⟨l, hl, -⟩ := hr k ref hk
    simp [hl]

/-- What a clean-up does to the lists of the users. -/
def dropKey (userSessions : GoMap String (List String)) (userID k : String) :
    GoMap String (List String) :=
  match userSessions.lookup userID with
  | none => userSessions
  | some keys =>
    match keys.filter (· ≠ k) with
    | [] => userSessions.erase userID
    | newSessions => userSessions.insert userID newSessions

theorem userSessions_cleanupSessionLocked {ref : SessionRef} {o : Session}
    (ho : sm.object ref = some o) (reason : String) :
    (sm.cleanupSessionLocked k ref reason).userSessions = dropKey sm.userSessions o.userID k := by
  show dropKey (sm.stopTimer k).userSessions
    ((((sm.stopTimer k).object ref).map Session.userID).getD "") k = _
  rw [userSessions_stopTimer, object_stopTimer, ho]
  rfl

/-- The key is taken out of the user's list, and the list goes when it was the last. -/
theorem lookup_dropKey (us : GoMap String (List String)) (u k : String) :
    (fun v => (dropKey us u k).lookup v) = update (fun v => us.lookup v) u
        (listOrNone (((us.lookup u).getD []).filter (· ≠ k))) := by
  funext v
  rw [dropKey]
  cases hkeys : us.lookup u with
  | none =>
    have hsame : update (fun v => us.lookup v) u none = fun v => us.lookup v := by
      rw [← hkeys]
      exact update_eq_self u _
    rw [getD_none, filter_nil, listOrNone, hsame]
  | some keys =>
    rw [getD_some]
    dsimp only
    cases keys.filter (· ≠ k) with
    | nil => rw [lookup_erase_ite, listOrNone, update_apply]
    | cons k₀ left =>
      rw [lookup_insert_ite, listOrNone, update_apply]
      rintro ⟨⟩

/-- After a clean-up the key has no owner, and the others have theirs. -/
theorem owner_cleanupSessionLocked (sm : SessionManager) (k : String) (ref : SessionRef)
    (reason : String) :
    (sm.cleanupSessionLocked k ref reason).owner = update sm.owner k none := by
  funext k'
  rw [owner_eq_life, sessions_cleanupSessionLocked, lookup_erase_ite, update_apply,
    owner_eq_life]
  split
  · rfl
  · cases sm.sessions.lookup k' with
    | none => rfl
    | some s =>
      rw [bind_some, bind_some, life_cleanupSessionLocked]
      split
      · rw [Option.map_map]
        rfl
      · rfl

/-- After a `CreateSession` the key has the new user for its owner. -/
theorem owner_createSession (hr : sm.Refs) (h : sm.createSession cfg now k u url = .ok sm') :
    sm'.owner = update sm.owner k (some u) := by
  funext k'
  rw [owner_eq_life, (createSession_ok h).2, lookup_insert_ite, update_apply,
    owner_eq_life]
  split
  · rw [bind_some, life_createSession h, if_pos rfl]
    rfl
  · cases hk' : sm.sessions.lookup k' with
    | none => rfl
    | some ref => rw [bind_some, bind_some, life_createSession h, if_neg (hr.ne_length hk')]

theorem owner_congr (ho : sm'.life = sm.life) (hs : sm'.sessions = sm.sessions) :
    sm'.owner = sm.owner := by
  funext k'
  rw [owner_eq_life, owner_eq_life, ho, hs]

/-- **Every change keeps the index.** -/
theorem Indexed.change {w : Option SessionRef} (h : Change w sm sm') (hr : sm.Refs)
    (hi : sm.Indexed cfg) :
    sm'.Indexed cfg := by
  cases h with
  | timers ho hs hu =>
    have hlife : sm'.life = sm.life := by
      funext ref
      rw [life, life, object, object, ho]
    exact ⟨by rw [owner_congr hlife hs, hu]; exact hi.index, by rw [hu]; exact hi.le_max⟩
  | modify s hf =>
    have hlife : (sm.modify s _).life = sm.life := funext fun ref => life_modify hf sm s ref
    refine ⟨?_, hi.le_max⟩
    rw [owner_congr hlife rfl]
    exact hi.index
  | @cleanup k₀ ref h₀ reason =>
    obtain ⟨l, hl, -⟩ := hr k₀ ref h₀
    obtain ⟨o, ho, rfl⟩ := map_eq_some_iff.mp hl
    have howner : sm.owner k₀ = some o.userID := by
      rw [owner, h₀, bind_some, ho]
      rfl
    have hlists := (congrArg (fun us : GoMap String (List String) => fun v => us.lookup v)
      (userSessions_cleanupSessionLocked (k := k₀) ho reason)).trans
        (lookup_dropKey sm.userSessions o.userID k₀)
    refine ⟨?_, fun v keys hkeys => ?_⟩
    · rw [owner_cleanupSessionLocked, hlists]
      exact hi.index.remove howner
    · have hv := (congrFun hlists v).symm.trans hkeys
      rw [update_apply] at hv
      split at hv
      · -- the list has become shorter
        rw [eq_of_listOrNone_eq_some hv]
        cases hold : sm.userSessions.lookup o.userID with
        | none => rw [hold] at hv; cases hv
        | some keys' =>
          have hlen := length_filter_le (· ≠ k₀) keys'
          have hmax := hi.le_max o.userID keys' hold
          rw [getD_some]
          omega
      · exact hi.le_max v keys hv

theorem createSession_userSessions (h : sm.createSession cfg now k u url = .ok sm') :
    sm.maxSessionsExceeded cfg u = false ∧
      (fun v => sm'.userSessions.lookup v) = update (fun v => sm.userSessions.lookup v) u
        (some ((sm.userSessions.lookup u).getD [] ++ [k])) := by
  rw [createSession] at h
  split at h
  · cases h
  · rename_i hmax
    cases h
    refine ⟨Bool.eq_false_iff.mpr hmax, funext fun v => ?_⟩
    rw [lookup_insert_ite, update_apply]

/-- **A `CreateSession` keeps the index** exactly under an unused key, and if a session is
allowed at all. -/
theorem Indexed.create_iff (hi : sm.Indexed cfg) (hr : sm.Refs)
    (h : sm.createSession cfg now k u url = .ok sm') :
    sm'.Indexed cfg ↔ sm.sessions.lookup k = none ∧ 0 < cfg.maxSessionsPerUser := by
  obtain ⟨hroom, hlists⟩ := createSession_userSessions h
  rw [← owner_eq_none_iff hr, ← hi.index.add_iff k u]
  constructor
  · rintro ⟨hindex, hmax⟩
    rw [owner_createSession hr h, hlists] at hindex
    refine ⟨hindex, ?_⟩
    have hlen := hmax u _ ((congrFun hlists u).trans (update_self u _ _))
    rw [length_append, length_singleton] at hlen
    omega
  · rintro ⟨hindex, hpos⟩
    refine ⟨by rw [owner_createSession hr h, hlists]; exact hindex, fun v keys hkeys => ?_⟩
    have hv := (congrFun hlists v).symm.trans hkeys
    rw [update_apply] at hv
    split at hv
    · cases hv
      rw [length_append, length_singleton]
      rw [maxSessionsExceeded] at hroom
      cases hold : sm.userSessions.lookup u with
      | none =>
        rw [getD_none, length_nil]
        omega
      | some keys' =>
        rw [hold] at hroom
        have hlt := of_decide_eq_false hroom
        rw [getD_some]
        omega
    · exact hi.le_max v keys hv

/-! ### The broadcast -/

/-- **Every change keeps the broadcast.** -/
theorem Broadcast.change {w : Option SessionRef} (h : Change w sm sm') (hr : sm.Refs)
    (hb : sm.Broadcast) :
    sm'.Broadcast := by
  cases h with
  | timers ho hs hu =>
    intro ref o hobj
    rw [object, ho] at hobj
    rw [hs]
    exact hb ref o hobj
  | @modify s f hf =>
    intro ref o hobj
    rw [object_modify] at hobj
    split at hobj
    · obtain ⟨o₀, ho₀, rfl⟩ := map_eq_some_iff.mp hobj
      have hlife := hf o₀
      rw [show (f o₀).doneCloses = o₀.doneCloses from congrArg Session.Life.doneCloses hlife,
        show (f o₀).sessionKey = o₀.sessionKey from congrArg Session.Life.sessionKey hlife]
      exact hb ref o₀ ho₀
    · exact hb ref o hobj
  | @cleanup k₀ s h₀ reason =>
    intro ref o hobj
    rw [object_cleanupSessionLocked] at hobj
    rw [sessions_cleanupSessionLocked, lookup_erase_ite]
    split at hobj
    · -- the object that is closed has lost its key
      rename_i heq
      subst heq
      obtain ⟨o₀, ho₀, rfl⟩ := map_eq_some_iff.mp hobj
      obtain ⟨l, hl, hkey⟩ := hr k₀ s h₀
      rw [life, ho₀] at hl
      cases hl
      have hopen := hb s o₀ ho₀
      rw [show o₀.sessionKey = k₀ from hkey, if_pos h₀] at hopen
      rw [if_pos (show (close reason o₀).sessionKey = k₀ from hkey), if_neg (by simp)]
      exact congrArg (· + 1) hopen
    · -- no other object is registered under that key
      rename_i hne
      split
      · rename_i hkey
        rw [if_neg (by simp), hb ref o hobj, if_neg]
        rw [hkey, h₀]
        exact fun heq => hne (some.inj heq)
      · exact hb ref o hobj

/-- **A `CreateSession` keeps the broadcast** exactly under an unused key. -/
theorem Broadcast.create_iff (hb : sm.Broadcast) (hr : sm.Refs)
    (h : sm.createSession cfg now k u url = .ok sm') :
    sm'.Broadcast ↔ sm.sessions.lookup k = none := by
  obtain ⟨hobj, hses⟩ := createSession_ok h
  constructor
  · intro hb'
    by_contra hused
    obtain ⟨ref, href⟩ := ne_none_iff_exists'.mp hused
    obtain ⟨l, hl, hkey⟩ := hr k ref href
    obtain ⟨o, ho, rfl⟩ := map_eq_some_iff.mp hl
    -- the object that is replaced is no longer registered, and nobody has closed it
    have hopen := hb ref o ho
    rw [show o.sessionKey = k from hkey, if_pos href] at hopen
    have hclosed := hb' ref o (by rw [hobj, if_neg (hr.ne_length href)]; exact ho)
    rw [hses, show o.sessionKey = k from hkey, AList.lookup_insert, if_neg] at hclosed
    · omega
    · exact fun heq => hr.ne_length href (some.inj heq).symm
  · intro hnone ref o ho
    rw [hobj] at ho
    rw [hses, lookup_insert_ite]
    split at ho
    · rename_i heq
      cases ho
      rw [if_pos (show (newSession cfg now k u url).sessionKey = k from rfl),
        if_pos (congrArg some heq.symm)]
      rfl
    · rename_i hne
      rw [hb ref o ho]
      by_cases hkey : o.sessionKey = k
      · rw [if_pos hkey, hkey, hnone, if_neg (by simp), if_neg fun heq => hne (some.inj heq).symm]
      · rw [if_neg hkey]

end SessionManager

/-! ### The runs of the manager -/

/-- A `CreateSession` is refused, or meets a condition on its key. -/
def Store.Creates (cfg : Config) (G : SessionManager → String → Prop) (st : Store) :
    StoreAction → Prop
  | .createSession k u _ => st.sm.maxSessionsExceeded cfg u = true ∨ G st.sm k
  | _ => True

section Promise

variable {cfg : Config} {I : SessionManager → Prop} {G : SessionManager → String → Prop}
  (hchange : ∀ w sm sm', SessionManager.Change w sm sm' → sm.Refs → I sm → I sm')
  (hcreate : ∀ sm sm' now k u url, I sm → sm.Refs →
    sm.createSession cfg now k u url = .ok sm' → (I sm' ↔ G sm k))

include hchange hcreate

/-- What every change keeps, and a `CreateSession` keeps under a condition, is kept by a
step exactly if it is allowed. -/
theorem Store.step_iff {st st' : Store} {a : StoreAction} (hr : st.sm.Refs) (hi : I st.sm)
    (h : st.step cfg a = some st') : I st'.sm ↔ Store.Creates cfg G st a := by
  cases a with
  | createSession k u url =>
    rw [Store.step] at h
    split at h
    · rename_i herr
      cases h
      exact iff_of_true hi (.inl (exceeded_of_error herr))
    · rename_i hc
      cases h
      rw [hcreate _ _ _ _ _ _ hi hr hc, Store.Creates,
        (createSession_userSessions hc).1]
      simp
  | _ =>
    refine iff_of_true ?_ trivial
    rcases Store.changes_of_step h with ⟨k, u, url, heq, -⟩ | hc
    · cases heq
    · exact (hc.induction (P := fun sm => sm.Refs ∧ I sm)
        (fun sm sm' hch hsm => ⟨hsm.1.change hch, hchange _ sm sm' hch hsm.1 hsm.2⟩) ⟨hr, hi⟩).2

/-- **A promise and its guard**: such a promise holds at every point of a run exactly if
every step of the run is allowed. -/
theorem Store.guarded_iff (h0 : I {}) (as : List StoreAction) :
    Guarded (Store.step cfg) (Store.Creates cfg G) {} as ↔
      ∀ bs st, bs <+: as → run (Store.step cfg) {} bs = some st → I st.sm := by
  refine guarded_iff_forall_isPrefix_of_invariant (s := {}) (J := fun st => st.sm.Refs)
    (I := fun st => I st.sm) (fun _ _ _ hr h => Store.refs_step hr h)
    (fun _ _ _ hr hi h => Store.step_iff hchange hcreate hr hi h) ?_
    refs_empty h0 as
  intro st a hnone
  cases a with
  | createSession k u url =>
    rw [Store.step] at hnone
    split at hnone <;> cases hnone
  | _ => trivial

end Promise

/-- The key is unused, and a session is allowed at all. -/
def SessionManager.Free (cfg : Config) (sm : SessionManager) (k : String) : Prop :=
  sm.sessions.lookup k = none ∧ 0 < cfg.maxSessionsPerUser

/-- The key is unused. -/
def SessionManager.Unused (sm : SessionManager) (k : String) : Prop := sm.sessions.lookup k = none

/-- **The index of the sessions, in every run**: the list of every user is right at every
point of a run exactly if every `CreateSession` is refused, or has an unused key and there
is room for one session. And a call that fails changes nothing. -/
theorem Store.indexed_iff (cfg : Config) (as : List StoreAction) :
    (Guarded (Store.step cfg) (Store.Creates cfg (SessionManager.Free cfg)) {} as ↔
      ∀ bs st, bs <+: as → run (Store.step cfg) {} bs = some st → st.sm.Indexed cfg) ∧
    ∀ st : Store, (∀ k u url e, st.sm.createSession cfg st.now k u url = .error e →
        st.step cfg (.createSession k u url) = some st) ∧
      (∀ k, st.sm.sessions.lookup k = none →
        st.step cfg (.endSession k) = some st ∧ st.step cfg (.expireSession k) = some st ∧
        st.step cfg (.resetSessionTimer k) = some st ∧
        st.step cfg (.startSessionTimer k) = some st) := by
  refine ⟨?_, fun st => ⟨fun k u url e herr => ?_, fun k hk => ⟨?_, ?_, ?_, ?_⟩⟩⟩
  · refine Store.guarded_iff (fun _ _ _ => SessionManager.Indexed.change)
      (fun _ _ _ _ _ _ hi hr hc => hi.create_iff hr hc) ?_ as
    exact ⟨fun _ => lists_none fun _ h => absurd h (by simp [owner]),
      fun _ _ h => absurd h (by simp)⟩
  · rw [Store.step, herr]
  · rw [Store.step, endSession, hk]
  · rw [Store.step, expireSession, hk]
  · rw [Store.step, resetSessionTimer, hk]
  · rw [Store.step, startSessionTimer, hk]

/-- **A key that is taken over**: the session of the first user is replaced and then
ended, and its key stays in the first user's list for good. -/
theorem not_indexed_takenOver :
    ∃ st, run (Store.step hourConfig) {} [.createSession "key" "alice" "https://backend",
        .createSession "key" "bob" "https://backend", .endSession "key"] = some st ∧
      st.sm.sessions.lookup "key" = none ∧ st.sm.userSessions.lookup "alice" = some ["key"] ∧
      ¬ st.sm.Indexed hourConfig := by
  refine ⟨_, rfl, rfl, rfl, fun h => ?_⟩
  have howner := ((h.index "alice").mem_iff "key").mp (mem_cons_self)
  cases howner

/-! ### The requests of the broker -/

section Requests

variable {cfg : Config} {st st' : State} {a : Action}

/-- A `CreateSession` of the broker is refused, or has an unused key. -/
def CreatesUnused (cfg : Config) (st : State) : Action → Prop
  | .createSession k u _ => st.shared.sm.maxSessionsExceeded cfg u = true ∨ st.shared.sm.Unused k
  | _ => True

/-- **The steps of the broker keep the broadcast**, if sessions are created under unused
keys. -/
theorem broadcast_step (hr : st.shared.sm.Refs) (hb : st.shared.sm.Broadcast)
    (hok : CreatesUnused cfg st a) (h : step cfg st a = some st') : st'.shared.sm.Broadcast := by
  rcases changes_of_step h with ⟨k, u, url, rfl, hc⟩ | hc
  · refine (hb.create_iff hr hc).mpr (hok.resolve_left ?_)
    rw [(createSession_userSessions hc).1]
    exact Bool.false_ne_true
  · exact (hc.induction (P := fun sm => sm.Refs ∧ sm.Broadcast)
      (fun _ _ hch hsm => ⟨hsm.1.change hch, hsm.2.change hch hsm.1⟩) ⟨hr, hb⟩).2

/-- **A request can go on** without its context being cancelled or its wait running out of
time. -/
def Runs (cfg : Config) (st : State) (i : ℕ) : Prop :=
  ∃ ch st', ch ≠ .timeout ∧ ch ≠ .cancelled ∧ step cfg st (.advance i ch) = some st'

variable {s : SessionRef} {th : Thread}

theorem runs_of_stepThread {i : ℕ} (ch : Choice) (hi : st.threads[i]? = some th)
    (ht : ch ≠ .timeout) (hc : ch ≠ .cancelled) (h : (stepThread cfg st.shared ch th).isSome) :
    Runs cfg st i := by
  obtain ⟨r, hr⟩ := isSome_iff_exists.mp h
  exact ⟨ch, _, ht, hc, by rw [step, hi]; exact congrArg (Option.map _) hr⟩

/-- The answer of the outside world, or the channel, with which a request that holds the
semaphore of a session that is gone goes on. -/
def TokenPc.way (b : Shared) : TokenPc → Choice
  | .discover _ => .failed
  | .install _ _ => .failed
  | .buildURL _ _ _ => .failed
  | .publish s _ _ _ =>
    if (b.sm.object s).bind Session.eventWaiters = none then .proceed else .failed
  | .wait _ _ _ _ => .sessionDone
  | .exchange _ _ _ _ _ => .failed
  | _ => .proceed

/-- **The holder of a semaphore is never stuck** once its session is gone. -/
theorem stepToken_isSome {b : Shared} {rq : TokenRequest} {pc : TokenPc} {o : Session}
    (hs : pc.holds = some s) (ho : b.sm.object s = some o) (hdone : o.done = true) :
    (stepToken cfg b rq pc (pc.way b)).isSome := by
  cases pc with
  | handler | validate | cacheLookup | getSession | acquire | returned =>
    cases hs
  | cacheRecheck s' =>
    simp only [TokenPc.way, stepToken, stepAcquire]
    split <;> rfl
  | publish s' d p authURL =>
    cases hs
    cases hev : o.eventWaiters with
    | none => simp [TokenPc.way, stepToken, stepAcquire, stepPrepare, ho, hev]
    | some e => simp [TokenPc.way, stepToken, stepAcquire, stepPrepare, ho, hev]
  | enterWait s' d p =>
    simp only [TokenPc.way, stepToken, stepAcquire, stepPrepare, stepComplete]
    split <;> rfl
  | wait s' d p tx =>
    cases hs
    simp [TokenPc.way, stepToken, stepAcquire, stepPrepare, stepComplete, ho, hdone]
  | _ => rfl

theorem way_ne (b : Shared) (pc : TokenPc) : pc.way b ≠ .timeout ∧ pc.way b ≠ .cancelled := by
  cases pc with
  | publish s d p authURL =>
    rw [TokenPc.way]
    split <;> simp
  | _ => simp [TokenPc.way]

theorem done_of_gone (hb : st.shared.sm.Broadcast) {k : String} (hk : st.shared.sm.KeyAt s k)
    (hgone : st.shared.sm.sessions.lookup k ≠ some s) :
    ∃ o, st.shared.sm.object s = some o ∧ o.done = true := by
  obtain ⟨l, hl, hkey⟩ := hk
  obtain ⟨o, ho, rfl⟩ := map_eq_some_iff.mp hl
  have hclosed := hb s o ho
  rw [show o.sessionKey = k from hkey, if_neg hgone] at hclosed
  exact ⟨o, ho, by rw [Session.done, hclosed]; rfl⟩

theorem runs_of_holds {i : ℕ} {o : Session} (hi : st.threads[i]? = some th)
    (hs : th.holds = some s) (ho : st.shared.sm.object s = some o) (hdone : o.done = true) :
    Runs cfg st i := by
  cases th with
  | token rq pc =>
    refine runs_of_stepThread _ hi (way_ne st.shared pc).1 (way_ne st.shared pc).2 ?_
    rw [stepThread, isSome_map]
    exact stepToken_isSome hs ho hdone
  | _ => cases hs

/-- **No request is stuck on a session that is gone**: it can go on, or it queues on the
semaphore and the request that holds it can. -/
theorem runs_of_gone (hoc : Occupied st) (hb : st.shared.sm.Broadcast) {i : ℕ} {k : String}
    (hi : st.threads[i]? = some th) (hp : th.pointer = some (s, k)) (hk : st.shared.sm.KeyAt s k)
    (hgone : st.shared.sm.sessions.lookup k ≠ some s) :
    Runs cfg st i ∨ ∃ (j : ℕ) (th' : Thread), st.threads[j]? = some th' ∧
      th'.holds = some s ∧ Runs cfg st j := by
  obtain ⟨o, ho, hdone⟩ := done_of_gone hb hk hgone
  cases th with
  | token rq pc =>
    obtain ⟨s', hs', hpair⟩ := map_eq_some_iff.mp hp
    obtain ⟨rfl, -⟩ := Prod.mk.inj hpair
    cases pc with
    | acquire s₀ =>
      obtain rfl : s₀ = s' := some.inj hs'
      cases hsem : o.acquisitionSemaphore with
      | false =>
        refine .inl (runs_of_stepThread .proceed hi (by simp) (by simp) ?_)
        simp [stepThread, stepToken, stepAcquire, ho, hsem]
      | true =>
        have htaken : st.shared.semaphore s₀ = some true := by
          rw [Shared.semaphore, core, ho]
          exact congrArg some hsem
        obtain ⟨j, th', hj, hhold⟩ := hoc s₀ htaken
        exact .inr ⟨j, th', hj, hhold, runs_of_holds hj hhold ho hdone⟩
    | _ => exact .inl (runs_of_holds hi hs' ho hdone)
  | events k' u pc =>
    cases pc with
    | poll s' =>
      cases hp
      refine .inl (runs_of_stepThread .sessionDone hi (by simp) (by simp) ?_)
      simp [stepThread, stepEvents, ho, hdone]
    | _ => cases hp
  | _ => cases hp

end Requests

/-- **The broadcast, in every run**: at every point of a run of the manager `Done` is open
for the registered sessions and has been closed once for the others, exactly if every
`CreateSession` is refused or has an unused key. And in a run of the broker that keeps to
this no request with a pointer to a session that is gone is stuck: it can go on without its
context or its time, or it queues on the semaphore and the request that holds it can. -/
theorem broadcast_iff (cfg : Config) :
    (∀ as, Guarded (Store.step cfg) (Store.Creates cfg SessionManager.Unused) {} as ↔
      ∀ bs st, bs <+: as → run (Store.step cfg) {} bs = some st → st.sm.Broadcast) ∧
    ∀ as st, Guarded (step cfg) (CreatesUnused cfg) {} as → run (step cfg) {} as = some st →
      ∀ (i : ℕ) (th : Thread) s k, st.threads[i]? = some th → th.pointer = some (s, k) →
        st.shared.sm.sessions.lookup k ≠ some s →
        Runs cfg st i ∨ ∃ (j : ℕ) (th' : Thread), st.threads[j]? = some th' ∧
          th'.holds = some s ∧ Runs cfg st j := by
  have hempty : ({} : SessionManager).Broadcast :=
    fun _ _ h => absurd h (by simp [object])
  constructor
  · intro as
    exact Store.guarded_iff (fun _ _ _ => SessionManager.Broadcast.change)
      (fun _ _ _ _ _ _ hb hr hc => hb.create_iff hr hc) hempty as
  · intro as st hok hrun i th s k hi hp hgone
    have hpt := pointed_run hrun
    have hb : st.shared.sm.Refs ∧ st.shared.sm.Broadcast :=
      run_invariant (I := fun st => st.shared.sm.Refs ∧ st.shared.sm.Broadcast)
        (fun _ _ _ h hok hs => ⟨refs_step h.1 hs, broadcast_step h.1 h.2 hok hs⟩)
        ⟨refs_empty, hempty⟩ hok hrun
    exact runs_of_gone (occupied_run hrun) hb.2 hi hp
      (hpt.threads th (mem_of_getElem? hi) s k hp) hgone

/-- A long-poll waits on a session while the key is taken over by another session, which is
then ended. -/
def takenOverRun : List Action := List.flatten
  [[.createSession "key" "alice" "https://backend", .events "key" "alice"],
   List.replicate 3 (.advance 0 .proceed),
   [.createSession "key" "alice" "https://backend", .endSession "key" "alice"],
   List.replicate 2 (.advance 1 .proceed)]

/-- **A session that nobody closes**: neither the end of the session that has taken over
its key nor the shutdown reaches it, and a long-poll on it waits for its client to go away. -/
theorem not_broadcast_takenOver :
    (∃ st o, run (Store.step hourConfig) {} [.createSession "key" "alice" "https://backend",
        .createSession "key" "alice" "https://backend", .endSession "key", .shutdown] = some st ∧
      st.sm.object 0 = some o ∧ o.doneCloses = 0 ∧ st.sm.sessions.lookup "key" = none ∧
      ¬ st.sm.Broadcast) ∧
    ∃ st, run (step hourConfig) {} takenOverRun = some st ∧
      st.threads[0]? = some (.events "key" "alice" (.poll 0)) ∧
      st.shared.sm.sessions.lookup "key" = none ∧ ¬ Runs hourConfig st 0 := by
  constructor
  · refine ⟨_, _, rfl, rfl, rfl, rfl, fun h => ?_⟩
    exact absurd (h 0 _ rfl) (by decide)
  · refine ⟨_, rfl, rfl, rfl, ?_⟩
    rintro ⟨ch, st', -, hc, h⟩
    cases ch with
    | cancelled => exact hc rfl
    | _ => exact absurd (show (none : Option State) = some st' from h) (by simp)

end Rossoctl.Broker
