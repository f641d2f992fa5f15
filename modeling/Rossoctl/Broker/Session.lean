import Mathlib.Data.List.Basic
import Mathlib.Algebra.Order.Group.Int
import Rossoctl.GoMap

/-!
# The session manager of the token broker

The model of `internal/session/manager.go` and of the session types of
`internal/core/interfaces.go`. A Go pointer is an index into a list of objects
that only ever grows: an object that the store no longer registers is still there
for the requests that hold a pointer to it, which is exactly the situation the
concurrency statements are about.

A channel of capacity one is an `Option`, the semaphore of a session is the
occupation of its one slot, and the `Done` channel counts how often it has been
closed – a second `close` would be a run-time panic. Points in time are integers,
in nanoseconds. Every operation below runs
under the manager's mutex and is one atomic step of the broker
(`Rossoctl.Broker.System`).
-/

namespace Rossoctl.Broker

open List

/-- A pointer to a session object. -/
abbrev SessionRef := ℕ

/-- A pointer to an OAuth transaction, which is also the identity of its
completion channel. -/
abbrev TxRef := ℕ

/-- A pointer to a timer. -/
abbrev TimerRef := ℕ

/-! ### The data -/

/-- An event for the Backend's long-poll. -/
structure Event where
  type : String
  authURL : String := ""
  message : String := ""
  code : String := ""
  deriving DecidableEq

/-- The PKCE challenge of an OAuth flow. -/
structure PKCEChallenge where
  verifier : String
  challenge : String
  method : String
  deriving DecidableEq

/-- The result an OAuth callback hands to the waiting flow. -/
structure OAuthCompletion where
  code : String
  state : String
  error : Option String
  deriving DecidableEq

/-- The status of an OAuth transaction. -/
inductive OAuthTxStatus where
  | waitingCode
  | completed
  | failed
  deriving DecidableEq

/-- An OAuth transaction. Its fields are filled in two steps: `state`, `authURL`
and `callbackURL` stay empty until the authorization URL has been built. -/
structure OAuthTransaction where
  resourceURL : String
  authEndpoint : String
  tokenEndpoint : String
  scopes : List String
  pkce : PKCEChallenge
  codeVerifier : String
  state : String := ""
  callbackURL : String := ""
  authURL : String := ""
  status : OAuthTxStatus := .waitingCode
  completionChan : Option OAuthCompletion := none
  deriving DecidableEq

/-- A session object. -/
structure Session where
  sessionKey : String
  userID : String
  backendSessionRedirectURL : String
  createdAt : ℤ
  lastPollAt : ℤ
  expirationDeadline : ℤ
  /-- The semaphore's one slot is taken. -/
  acquisitionSemaphore : Bool := false
  eventWaiters : Option Event := none
  /-- How often `Done` has been closed. -/
  doneCloses : ℕ := 0
  activeOAuthTx : Option TxRef := none
  deriving DecidableEq

/-- A session's `Done` channel is closed. -/
def Session.done (s : Session) : Bool := 0 < s.doneCloses

/-- The life of a timer: `Stop` only has an effect while it is armed, and a
timer that has fired runs its callback some time later. -/
inductive TimerState where
  | armed
  | stopped
  | fired
  | finished
  deriving DecidableEq

/-- A timer armed by `time.AfterFunc`. -/
structure Timer where
  sessionKey : String
  deadline : ℤ
  status : TimerState
  deriving DecidableEq

/-- What does not change during the life of the broker. -/
structure Config where
  sessionTimeout : ℤ
  maxSessionsPerUser : ℤ
  callbackURL : String
  /-- The authorization URL for an endpoint, a callback URL, a state, scopes and
  a challenge; `none` when the endpoint does not parse. -/
  authorizationURL : String → String → String → List String → PKCEChallenge → Option String
  /-- The expiry a token carries, read at a point in time. -/
  parseJWTExpiry : ℤ → String → ℤ

/-- The session manager: the objects ever allocated, and the maps that say which
of them are registered. -/
structure SessionManager where
  objects : List Session := []
  timerObjects : List Timer := []
  sessions : GoMap String SessionRef := ∅
  userSessions : GoMap String (List String) := ∅
  timers : GoMap String TimerRef := ∅

namespace SessionManager

/-! ### Access to the objects -/

/-- The session object a pointer leads to. -/
def object (sm : SessionManager) (ref : SessionRef) : Option Session := sm.objects[ref]?

/-- Change a session object in place. -/
def modify (sm : SessionManager) (ref : SessionRef) (f : Session → Session) : SessionManager :=
  { sm with objects := sm.objects.modify ref f }

/-- Stop the timer registered for a key and forget it. A timer that has already
fired is forgotten without being stopped. -/
def stopTimer (sm : SessionManager) (sessionKey : String) : SessionManager :=
  match sm.timers.lookup sessionKey with
  | none => sm
  | some t =>
    { sm with
      timerObjects := sm.timerObjects.modify t fun tm =>
        if tm.status = .armed then { tm with status := .stopped } else tm
      timers := sm.timers.erase sessionKey }

/-! ### The operations -/

/-- A fresh session object. -/
def newSession (cfg : Config) (now : ℤ) (sessionKey userID backendRedirectURL : String) :
    Session where
  sessionKey := sessionKey
  userID := userID
  backendSessionRedirectURL := backendRedirectURL
  createdAt := now
  lastPollAt := now
  expirationDeadline := now + cfg.sessionTimeout

/-- The user already has as many sessions as allowed. A user with no list passes
whatever the limit is. -/
def maxSessionsExceeded (sm : SessionManager) (cfg : Config) (userID : String) : Bool :=
  match sm.userSessions.lookup userID with
  | some existing => decide (cfg.maxSessionsPerUser ≤ existing.length)
  | none => false

/-- `CreateSession`: an existing session under the same key is overwritten, not
ended, and the key is appended to the user's list once more. -/
def createSession (cfg : Config) (now : ℤ) (sm : SessionManager)
    (sessionKey userID backendRedirectURL : String) : Except String SessionManager :=
  if sm.maxSessionsExceeded cfg userID then .error "max sessions per user exceeded"
  else .ok
    { sm with
      objects := sm.objects ++ [newSession cfg now sessionKey userID backendRedirectURL]
      sessions := sm.sessions.insert sessionKey sm.objects.length
      userSessions := sm.userSessions.insert userID
        ((sm.userSessions.lookup userID).getD [] ++ [sessionKey]) }

/-- `GetSession`. -/
def getSession (sm : SessionManager) (sessionKey : String) : Except String SessionRef :=
  match sm.sessions.lookup sessionKey with
  | none => .error "session not found"
  | some ref => .ok ref

/-- What stands before the last dot of a state parameter. -/
def beforeLastDot (state : String) : Option String :=
  match state.toList.reverse.dropWhile (· ≠ '.') with
  | [] => none
  | _ :: rest => some (String.ofList rest.reverse)

/-- `GetSessionByState`: the session registered under the key in front of the
last dot, provided its active transaction carries exactly this state. -/
def getSessionByState (sm : SessionManager) (txs : List OAuthTransaction) (state : String) :
    Except String SessionRef :=
  match beforeLastDot state with
  | none => .error "invalid state format: no separator found"
  | some sessionKey =>
    match sm.sessions.lookup sessionKey with
    | none => .error "session not found for state"
    | some ref =>
      let tx := ((sm.object ref).bind Session.activeOAuthTx).bind (txs[·]?)
      if tx.map OAuthTransaction.state = some state then .ok ref
      else .error "state mismatch"

/-- `ValidateSession`: the session is there, and the user is the one it was made for. -/
def validateSession (sm : SessionManager) (sessionKey userID : String) : Except String Unit :=
  match (sm.sessions.lookup sessionKey).bind sm.object with
  | none => .error "session not found"
  | some s => if s.userID = userID then .ok () else .error "session user mismatch"

/-- `cleanupSessionLocked`: stop the timer, close `Done`, leave an error event
for a connected long-poll, and unregister the key. -/
def cleanupSessionLocked (sm : SessionManager) (sessionKey : String) (ref : SessionRef)
    (reason : String) : SessionManager :=
  let sm := sm.stopTimer sessionKey
  let userID := ((sm.object ref).map Session.userID).getD ""
  let sm := sm.modify ref fun s =>
    { s with
      doneCloses := s.doneCloses + 1
      eventWaiters := s.eventWaiters <|>
        some { type := "error", message := reason, code := "session_expired" } }
  let userSessions := match sm.userSessions.lookup userID with
    | none => sm.userSessions
    | some keys =>
      match keys.filter (· ≠ sessionKey) with
      | [] => sm.userSessions.erase userID
      | newSessions => sm.userSessions.insert userID newSessions
  { sm with userSessions := userSessions, sessions := sm.sessions.erase sessionKey }

/-- `EndSession`. -/
def endSession (sm : SessionManager) (sessionKey : String) : Except String SessionManager :=
  match sm.sessions.lookup sessionKey with
  | none => .error "session not found"
  | some ref => .ok (sm.cleanupSessionLocked sessionKey ref "session ended")

/-- `ExpireSession`, the callback of the idle timer. -/
def expireSession (sm : SessionManager) (sessionKey : String) : SessionManager :=
  match sm.sessions.lookup sessionKey with
  | none => sm
  | some ref => sm.cleanupSessionLocked sessionKey ref "session expired"

/-- `ResetSessionTimer`: the Backend is connected, so the idle timer is off. -/
def resetSessionTimer (cfg : Config) (now : ℤ) (sm : SessionManager) (sessionKey : String) :
    SessionManager :=
  match sm.sessions.lookup sessionKey with
  | none => sm
  | some ref => (sm.stopTimer sessionKey).modify ref fun s =>
      { s with lastPollAt := now, expirationDeadline := now + cfg.sessionTimeout }

/-- `StartSessionTimer`: stop a registered timer and arm a new one. -/
def startSessionTimer (cfg : Config) (now : ℤ) (sm : SessionManager) (sessionKey : String) :
    SessionManager :=
  match sm.sessions.lookup sessionKey with
  | none => sm
  | some _ =>
    let sm := sm.stopTimer sessionKey
    { sm with
      timerObjects := sm.timerObjects ++
        [{ sessionKey := sessionKey, deadline := now + cfg.sessionTimeout, status := .armed }]
      timers := sm.timers.insert sessionKey sm.timerObjects.length }

/-- `Shutdown`: every registered timer is stopped and every registered session
is cleaned up. -/
def shutdown (sm : SessionManager) : SessionManager :=
  let stopped := sm.timers.keys.foldl stopTimer sm
  sm.sessions.entries.foldl (fun acc e => acc.cleanupSessionLocked e.1 e.2 "shutdown") stopped

/-! ### What the operations leave alone

Every operation but `CreateSession` is *quiet*: it allocates no session object,
registers none, and changes neither whom an object belongs to nor its semaphore
nor its active transaction. -/

end SessionManager

/-- The part of a session object that only the flow holding its semaphore
changes, together with the part that nobody changes. -/
structure Session.Core where
  sessionKey : String
  userID : String
  acquisitionSemaphore : Bool
  activeOAuthTx : Option TxRef

/-- The core of a session object. -/
def Session.core (s : Session) : Session.Core where
  sessionKey := s.sessionKey
  userID := s.userID
  acquisitionSemaphore := s.acquisitionSemaphore
  activeOAuthTx := s.activeOAuthTx

namespace SessionManager

/-- The core of the session object a pointer leads to. -/
def core (sm : SessionManager) (ref : SessionRef) : Option Session.Core :=
  (sm.object ref).map Session.core

/-- **A quiet change**: no session object is new, registered or changed in its
core. -/
structure Quiet (sm sm' : SessionManager) : Prop where
  core : ∀ ref, sm'.core ref = sm.core ref
  sessions : ∀ k ref, sm'.sessions.lookup k = some ref → sm.sessions.lookup k = some ref

theorem Quiet.refl (sm : SessionManager) : Quiet sm sm := ⟨fun _ => rfl, fun _ _ h => h⟩

theorem Quiet.trans {sm₁ sm₂ sm₃ : SessionManager} (h : Quiet sm₁ sm₂) (h' : Quiet sm₂ sm₃) :
    Quiet sm₁ sm₃ :=
  ⟨fun ref => (h'.core ref).trans (h.core ref),
    fun k ref hk => h.sessions k ref (h'.sessions k ref hk)⟩

variable {sm sm' : SessionManager} {k : String}

/-- A change that leaves the objects and the registration alone is quiet. -/
theorem quiet_of_eq (ho : sm'.objects = sm.objects) (hs : sm'.sessions = sm.sessions) :
    Quiet sm sm' := by
  refine ⟨fun ref => ?_, fun k ref h => ?_⟩
  · rw [SessionManager.core, SessionManager.core, object, object, ho]
  · rwa [hs] at h

@[simp] theorem object_modify (sm : SessionManager) (s ref : SessionRef) (f : Session → Session) :
    (sm.modify s f).object ref = if s = ref then (sm.object ref).map f else sm.object ref := by
  simp only [object, modify, getElem?_modify]
  split
  · rfl
  · exact id_map _

@[simp] theorem sessions_modify (sm : SessionManager) (s : SessionRef) (f : Session → Session) :
    (sm.modify s f).sessions = sm.sessions := rfl

theorem core_modify (sm : SessionManager) (s ref : SessionRef) (f : Session → Session) :
    (sm.modify s f).core ref =
      if s = ref then (sm.object ref).map fun o => (f o).core else sm.core ref := by
  rw [SessionManager.core, object_modify]
  split
  · rw [Option.map_map]
    rfl
  · rfl

theorem quiet_modify (sm : SessionManager) (s : SessionRef) {f : Session → Session}
    (hf : ∀ o, (f o).core = o.core) : Quiet sm (sm.modify s f) := by
  refine ⟨fun ref => ?_, fun k ref h => h⟩
  rw [core_modify]
  split
  · simp only [hf]
    rfl
  · rfl

theorem quiet_stopTimer (sm : SessionManager) (k : String) : Quiet sm (sm.stopTimer k) := by
  rw [stopTimer]
  split
  · exact Quiet.refl sm
  · exact quiet_of_eq rfl rfl

theorem quiet_erase (sm : SessionManager) (us : GoMap String (List String)) (k : String) :
    Quiet sm { sm with userSessions := us, sessions := sm.sessions.erase k } := by
  refine ⟨fun ref => rfl, fun k' ref h => ?_⟩
  rw [GoMap.lookup_erase_ite] at h
  split at h
  · cases h
  · exact h

theorem quiet_cleanupSessionLocked (sm : SessionManager) (k : String) (ref : SessionRef)
    (reason : String) : Quiet sm (sm.cleanupSessionLocked k ref reason) := by
  refine ((quiet_stopTimer sm k).trans ?_).trans (quiet_erase _ _ k)
  exact quiet_modify _ ref fun _ => rfl

theorem quiet_endSession (h : sm.endSession k = .ok sm') : Quiet sm sm' := by
  rw [endSession] at h
  split at h
  · cases h
  · cases h
    exact quiet_cleanupSessionLocked _ _ _ _

theorem quiet_expireSession (sm : SessionManager) (k : String) : Quiet sm (sm.expireSession k) := by
  rw [expireSession]
  split
  · exact Quiet.refl sm
  · exact quiet_cleanupSessionLocked _ _ _ _

theorem quiet_resetSessionTimer (cfg : Config) (now : ℤ) (sm : SessionManager) (k : String) :
    Quiet sm (sm.resetSessionTimer cfg now k) := by
  rw [resetSessionTimer]
  split
  · exact Quiet.refl sm
  · exact (quiet_stopTimer sm k).trans (quiet_modify _ _ fun _ => rfl)

theorem quiet_startSessionTimer (cfg : Config) (now : ℤ) (sm : SessionManager) (k : String) :
    Quiet sm (sm.startSessionTimer cfg now k) := by
  rw [startSessionTimer]
  split
  · exact Quiet.refl sm
  · exact (quiet_stopTimer sm k).trans (quiet_of_eq rfl rfl)

theorem quiet_shutdown (sm : SessionManager) : Quiet sm sm.shutdown := by
  refine foldlRecOn _ _ ?_ fun sm' h e _ => h.trans (quiet_cleanupSessionLocked _ _ _ _)
  exact foldlRecOn _ _ (Quiet.refl sm) fun sm' h k _ => h.trans (quiet_stopTimer sm' k)

/-! ### What `CreateSession` does -/

/-- **A created session** is one more object, and the one the key leads to. -/
theorem createSession_ok {cfg : Config} {now : ℤ} {u url : String}
    (h : sm.createSession cfg now k u url = .ok sm') :
    (∀ ref, sm'.object ref =
      if ref = sm.objects.length then some (newSession cfg now k u url) else sm.object ref) ∧
    sm'.sessions = sm.sessions.insert k sm.objects.length := by
  rw [createSession] at h
  split at h
  · cases h
  · cases h
    refine ⟨fun ref => ?_, rfl⟩
    rw [object, object]
    rcases lt_trichotomy ref sm.objects.length with hlt | rfl | hgt
    · rw [getElem?_append_left hlt, if_neg hlt.ne]
    · simp
    · have hle : (sm.objects ++ [newSession cfg now k u url]).length ≤ ref := by
        rw [length_append]
        exact hgt
      rw [if_neg hgt.ne', getElem?_eq_none hle, getElem?_eq_none hgt.le]

/-- **A validated session** is registered and belongs to the user. -/
theorem validateSession_ok {u : String} (h : sm.validateSession k u = .ok ()) :
    ∃ ref o, sm.sessions.lookup k = some ref ∧ sm.object ref = some o ∧ o.userID = u := by
  rw [validateSession] at h
  split at h
  · cases h
  · rename_i o ho
    obtain ⟨ref, hk, hobj⟩ := Option.bind_eq_some_iff.mp ho
    split at h
    · exact ⟨ref, o, hk, hobj, ‹_›⟩
    · cases h

theorem getSession_ok {ref : SessionRef} (h : sm.getSession k = .ok ref) :
    sm.sessions.lookup k = some ref := by
  rw [getSession] at h
  split at h
  · cases h
  · rename_i hk
    rw [hk, Except.ok.inj h]

end SessionManager

end Rossoctl.Broker
