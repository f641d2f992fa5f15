import Rossoctl.Run
import Rossoctl.Broker.TokenCache

/-!
# The token broker as a transition system

The model of `internal/core/broker.go` and `internal/api/handlers.go`. A request
is a thread with a program counter; between two steps of one thread any number of
steps of others may happen, and a step is what the Go code does under one lock or
in one channel operation. The four request handlers with more than one such step
are `Rossoctl.Broker.stepToken` (`HandleGetToken`, `AcquireToken` and
`performOAuthFlow`), `Rossoctl.Broker.stepEvents` (`handleEventLongPoll`),
`Rossoctl.Broker.stepCallback` (`HandleOAuthCallback`, whose `CompleteOAuth` is
`Rossoctl.Broker.completeOAuth`) and `Rossoctl.Broker.stepEnd`
(`HandleEndSession`).

What the code does not determine – which ready case of a `select` is taken, what
the OAuth provider answers, which random bytes are drawn, when a context is
cancelled – is the `Rossoctl.Broker.Choice` that comes with a step.

Two components of the state are history and are read by no step: the calls of
`ExchangeToken` made so far, and the completions handed to a transaction's
channel so far. The statements about runs are statements about these.
-/

namespace Rossoctl.Broker

/-! ### Requests and where they are -/

/-- The ways a token request fails, one for each error the code returns. -/
inductive TokenError where
  /-- No `X-Server-Url` header. -/
  | missingServerURL
  /-- The handler's own session check failed. -/
  | invalidSession (err : String)
  /-- The session check of `AcquireToken` failed. -/
  | sessionValidation (err : String)
  /-- The session was gone between the check and its lookup. -/
  | getSession (err : String)
  /-- The context was cancelled while queueing on the semaphore. -/
  | semaphore
  /-- Endpoint discovery failed, an `ErrOAuthUpstream`. -/
  | discovery
  | pkce
  | authorizationURL
  | publishCancelled
  | noEventWaiter
  | completion (err : String)
  /-- `ErrOAuthTimeout`. -/
  | oauthTimeout
  /-- `ErrSessionEnded`. -/
  | sessionEnded
  | cancelled
  /-- The token exchange failed, an `ErrOAuthUpstream`. -/
  | exchange
  /-- A nil pointer was followed. -/
  | panic
  deriving DecidableEq

/-- The result of a token request. -/
abbrev TokenResult := Except TokenError String

/-- `HandleGetToken`'s status code for an error, by `errors.Is` on the sentinels
the error wraps. -/
def TokenError.status : TokenError → ℕ
  | .missingServerURL => 400
  | .invalidSession _ => 401
  | .oauthTimeout => 408
  | .sessionEnded => 401
  | .discovery => 502
  | .exchange => 502
  | _ => 500

/-- A token request: the two claims of its JWT, and the resource it is for. -/
structure TokenRequest where
  sessionKey : String
  userID : String
  resourceURL : String
  deriving DecidableEq

/-- What endpoint discovery found. -/
structure Discovery where
  authEndpoint : String
  tokenEndpoint : String
  scopes : List String
  deriving DecidableEq

/-- Where a token request is. A session pointer is held from `GetSession` on,
the semaphore's slot from `cacheRecheck` to `release`. -/
inductive TokenPc where
  | handler
  | validate
  | cacheLookup
  | getSession
  | acquire (s : SessionRef)
  | cacheRecheck (s : SessionRef)
  | discover (s : SessionRef)
  | install (s : SessionRef) (d : Discovery)
  | buildURL (s : SessionRef) (d : Discovery) (p : PKCEChallenge)
  | publish (s : SessionRef) (d : Discovery) (p : PKCEChallenge) (authURL : String)
  | enterWait (s : SessionRef) (d : Discovery) (p : PKCEChallenge)
  /-- Blocked on the completion channel of a transaction. -/
  | wait (s : SessionRef) (d : Discovery) (p : PKCEChallenge) (tx : TxRef)
  /-- Has received a completion from that channel. -/
  | exchange (s : SessionRef) (d : Discovery) (p : PKCEChallenge) (tx : TxRef) (c : OAuthCompletion)
  | setToken (s : SessionRef) (token : String)
  | finish (s : SessionRef) (token : String)
  | release (s : SessionRef) (r : TokenResult)
  | returned (r : TokenResult)
  deriving DecidableEq

/-- The answers of an event long-poll. -/
inductive PollResult where
  | unauthorized (err : String)
  | sessionNotFound (err : String)
  | event (e : Event)
  | sessionClosed
  | cancelled
  deriving DecidableEq

/-- Where an event long-poll is. -/
inductive EventsPc where
  | validate
  | reset
  | getSession
  | poll (s : SessionRef)
  | startTimer (r : PollResult)
  | returned (r : PollResult)
  deriving DecidableEq

/-- An OAuth callback, with its query parameters. -/
structure CallbackRequest where
  code : String
  state : String
  error : String
  errorDescription : String
  deriving DecidableEq

/-- The answers of the OAuth callback. -/
inductive CallbackResult where
  | providerError
  | missingParameter
  | invalidSession (err : String)
  | failed (err : String)
  | success
  deriving DecidableEq

/-- Where an OAuth callback is: between `lookup` and `complete` it has the
session's key and user, not the transaction whose state it has compared. -/
inductive CallbackPc where
  | lookup
  | complete (sessionKey userID : String)
  | returned (r : CallbackResult)
  deriving DecidableEq

/-- Where the end of a session is. -/
inductive EndPc where
  | validate
  | finish
  | returned (r : Except String Unit)
  deriving DecidableEq

/-- A request in progress. -/
inductive Thread where
  | token (rq : TokenRequest) (pc : TokenPc)
  | events (sessionKey userID : String) (pc : EventsPc)
  | callback (rq : CallbackRequest) (pc : CallbackPc)
  | finish (sessionKey userID : String) (pc : EndPc)
  deriving DecidableEq

/-! ### The state -/

/-- A call of `ExchangeToken`: the session its flow ran for, the transaction on
whose channel the code came, the arguments, and the token if there was one. -/
structure ExchangeCall where
  session : SessionRef
  tx : TxRef
  tokenEndpoint : String
  code : String
  codeVerifier : String
  callbackURL : String
  result : Option String
  deriving DecidableEq

/-- A completion that `CompleteOAuth` put on the channel of a transaction. -/
structure Delivery where
  tx : TxRef
  completion : OAuthCompletion
  deriving DecidableEq

/-- What the requests share. -/
structure Shared where
  now : ℤ := 0
  sm : SessionManager := {}
  cache : TokenCache := {}
  txs : List OAuthTransaction := []
  exchanges : List ExchangeCall := []
  deliveries : List Delivery := []

namespace Shared

/-- Change a session object in place. -/
def modifySession (b : Shared) (s : SessionRef) (f : Session → Session) : Shared :=
  { b with sm := b.sm.modify s f }

/-- Change an OAuth transaction in place. -/
def modifyTx (b : Shared) (tx : TxRef) (f : OAuthTransaction → OAuthTransaction) : Shared :=
  { b with txs := b.txs.modify tx f }

/-- The key of a session object. -/
def sessionKey (b : Shared) (s : SessionRef) : String :=
  ((b.sm.object s).map Session.sessionKey).getD ""

/-- Make a new transaction the active one of a session. -/
def installTx (b : Shared) (s : SessionRef) (t : OAuthTransaction) : Shared :=
  { b with
    txs := b.txs ++ [t]
    sm := b.sm.modify s fun o => { o with activeOAuthTx := some b.txs.length } }

/-- Record a call of `ExchangeToken`. -/
def logExchange (b : Shared) (e : ExchangeCall) : Shared :=
  { b with exchanges := b.exchanges ++ [e] }

/-- Put a completion on the channel of a transaction, and record it. -/
def deliver (b : Shared) (tx : TxRef) (c : OAuthCompletion) : Shared :=
  { b with
    txs := b.txs.modify tx fun t => { t with completionChan := some c }
    deliveries := b.deliveries ++ [{ tx := tx, completion := c }] }

/-- `session.ActiveOAuthTx`. -/
def activeTx (b : Shared) (s : SessionRef) : Option TxRef :=
  (b.sm.object s).bind Session.activeOAuthTx

/-- `session.ActiveOAuthTx.Status = st`, then on to `pc`; following a nil pointer
ends the request. -/
def setTxStatus (b : Shared) (s : SessionRef) (st : OAuthTxStatus) (pc : TokenPc) :
    Shared × TokenPc :=
  match b.activeTx s with
  | none => (b, .release s (.error .panic))
  | some tx => (b.modifyTx tx fun t => { t with status := st }, pc)

end Shared

/-- The transaction a flow starts with. -/
def newTx (rq : TokenRequest) (d : Discovery) (p : PKCEChallenge) : OAuthTransaction where
  resourceURL := rq.resourceURL
  authEndpoint := d.authEndpoint
  tokenEndpoint := d.tokenEndpoint
  scopes := d.scopes
  pkce := p
  codeVerifier := p.verifier

/-- The three fields that are set once the authorization URL is there. -/
def OAuthTransaction.setURL (t : OAuthTransaction) (authURL callbackURL state : String) :
    OAuthTransaction :=
  { t with authURL := authURL, callbackURL := callbackURL, state := state }

/-- What the environment decides at a step. -/
inductive Choice where
  /-- The ordinary way on. -/
  | proceed
  /-- The request's context is cancelled. -/
  | cancelled
  /-- The wait for the user has run out of time. -/
  | timeout
  /-- The session's `Done` channel is closed. -/
  | sessionDone
  /-- An outside call fails, or a `select` takes its default. -/
  | failed
  | discovered (d : Discovery)
  | generated (p : PKCEChallenge)
  | nonce (n : String)
  | token (t : String)

/-! ### Token requests -/

/-- One step of a token request: the lookups up to the semaphore. -/
def stepAcquire (b : Shared) (rq : TokenRequest) : TokenPc → Choice → Option (Shared × TokenPc)
  | .handler, .proceed =>
    if rq.resourceURL = "" then some (b, .returned (.error .missingServerURL))
    else match b.sm.validateSession rq.sessionKey rq.userID with
      | .error e => some (b, .returned (.error (.invalidSession e)))
      | .ok _ => some (b, .validate)
  | .validate, .proceed =>
    match b.sm.validateSession rq.sessionKey rq.userID with
    | .error e => some (b, .returned (.error (.sessionValidation e)))
    | .ok _ => some (b, .cacheLookup)
  | .cacheLookup, .proceed =>
    match b.cache.getToken b.now rq.sessionKey rq.resourceURL with
    | some t => some (b, .returned (.ok t))
    | none => some (b, .getSession)
  | .getSession, .proceed =>
    match b.sm.getSession rq.sessionKey with
    | .error e => some (b, .returned (.error (.getSession e)))
    | .ok s => some (b, .acquire s)
  | .acquire s, .proceed =>
    match (b.sm.object s).map Session.acquisitionSemaphore with
    | some false =>
      some (b.modifySession s fun o => { o with acquisitionSemaphore := true }, .cacheRecheck s)
    | _ => none
  | .acquire _, .cancelled => some (b, .returned (.error .semaphore))
  | .cacheRecheck s, .proceed =>
    match b.cache.getToken b.now rq.sessionKey rq.resourceURL with
    | some t => some (b, .release s (.ok t))
    | none => some (b, .discover s)
  | .release s r, .proceed =>
    some (b.modifySession s fun o => { o with acquisitionSemaphore := false }, .returned r)
  | _, _ => none

/-- One step of `performOAuthFlow` up to the wait: discovery, the installation
of the transaction, its authorization URL and the event that publishes it. -/
def stepPrepare (cfg : Config) (b : Shared) (rq : TokenRequest) :
    TokenPc → Choice → Option (Shared × TokenPc)
  | .discover s, .discovered d => some (b, .install s d)
  | .discover s, .failed => some (b, .release s (.error .discovery))
  | .install s d, .generated p => some (b.installTx s (newTx rq d p), .buildURL s d p)
  | .install s _, .failed => some (b, .release s (.error .pkce))
  | .buildURL s d p, .nonce n =>
    let state := b.sessionKey s ++ "." ++ n
    match cfg.authorizationURL d.authEndpoint cfg.callbackURL state d.scopes p with
    | none => some (b.setTxStatus s .failed (.release s (.error .authorizationURL)))
    | some authURL =>
      match b.activeTx s with
      | none => some (b, .release s (.error .panic))
      | some tx =>
        some (b.modifyTx tx fun t => t.setURL authURL cfg.callbackURL state, .publish s d p authURL)
  | .buildURL s _ _, .failed =>
    some (b.setTxStatus s .failed (.release s (.error .authorizationURL)))
  | .publish s d p authURL, .proceed =>
    match (b.sm.object s).map Session.eventWaiters with
    | some none =>
      some (b.modifySession s fun o =>
          { o with eventWaiters := some { type := "oauth_url_ready", authURL := authURL } },
        .enterWait s d p)
    | _ => none
  | .publish s _ _ _, .cancelled => some (b, .release s (.error .publishCancelled))
  | .publish s _ _ _, .failed =>
    -- The default case of the select: nobody has taken the previous event.
    match (b.sm.object s).map Session.eventWaiters with
    | some (some _) => some (b, .release s (.error .noEventWaiter))
    | _ => none
  | _, _ => none

/-- One step of `performOAuthFlow` from the wait on: the code, the exchange, the
cache, and the end of the transaction. -/
def stepComplete (cfg : Config) (b : Shared) (rq : TokenRequest) :
    TokenPc → Choice → Option (Shared × TokenPc)
  | .enterWait s d p, .proceed =>
    match b.activeTx s with
    | none => some (b, .release s (.error .panic))
    | some tx => some (b, .wait s d p tx)
  | .wait s d p tx, .proceed =>
    match (b.txs[tx]?).bind OAuthTransaction.completionChan with
    | none => none
    | some c =>
      let b := b.modifyTx tx fun t => { t with completionChan := none }
      match c.error with
      | some e => some (b, .release s (.error (.completion e)))
      | none => some (b, .exchange s d p tx c)
  | .wait s _ _ _, .timeout => some (b.setTxStatus s .failed (.release s (.error .oauthTimeout)))
  | .wait s _ _ _, .sessionDone =>
    if (b.sm.object s).map Session.done = some true then
      some (b.setTxStatus s .failed (.release s (.error .sessionEnded)))
    else none
  | .wait s _ _ _, .cancelled => some (b.setTxStatus s .failed (.release s (.error .cancelled)))
  | .exchange s d p tx c, .token t =>
    if t = "" then none
    else
      let b := b.logExchange {
        session := s, tx := tx, tokenEndpoint := d.tokenEndpoint, code := c.code,
        codeVerifier := p.verifier, callbackURL := cfg.callbackURL, result := some t }
      some (b.setTxStatus s .completed (.setToken s t))
  | .exchange s d p tx c, .failed =>
    let b := b.logExchange {
      session := s, tx := tx, tokenEndpoint := d.tokenEndpoint, code := c.code,
      codeVerifier := p.verifier, callbackURL := cfg.callbackURL, result := none }
    some (b.setTxStatus s .failed (.release s (.error .exchange)))
  | .setToken s t, .proceed =>
    let cache := b.cache.setToken cfg b.now (b.sessionKey s) rq.resourceURL t
    some ({ b with cache := cache }, .finish s t)
  | .finish s t, .proceed =>
    some (b.modifySession s fun o => { o with activeOAuthTx := none }, .release s (.ok t))
  | _, _ => none

/-- **One step of a token request.** The three parts have no program counter in
common. -/
def stepToken (cfg : Config) (b : Shared) (rq : TokenRequest) (pc : TokenPc) (ch : Choice) :
    Option (Shared × TokenPc) :=
  stepAcquire b rq pc ch <|> stepPrepare cfg b rq pc ch <|> stepComplete cfg b rq pc ch

/-! ### The other requests -/

/-- One step of `handleEventLongPoll`. -/
def stepEvents (cfg : Config) (b : Shared) (sessionKey userID : String) :
    EventsPc → Choice → Option (Shared × EventsPc)
  | .validate, .proceed =>
    match b.sm.validateSession sessionKey userID with
    | .error e => some (b, .returned (.unauthorized e))
    | .ok _ => some (b, .reset)
  | .reset, .proceed =>
    some ({ b with sm := b.sm.resetSessionTimer cfg b.now sessionKey }, .getSession)
  | .getSession, .proceed =>
    -- The deferred StartSessionTimer is not yet in place here.
    match b.sm.getSession sessionKey with
    | .error e => some (b, .returned (.sessionNotFound e))
    | .ok s => some (b, .poll s)
  | .poll s, .proceed =>
    match (b.sm.object s).bind Session.eventWaiters with
    | none => none
    | some e =>
      some (b.modifySession s fun o => { o with eventWaiters := none }, .startTimer (.event e))
  | .poll s, .sessionDone =>
    if (b.sm.object s).map Session.done = some true then some (b, .startTimer .sessionClosed)
    else none
  | .poll _, .cancelled => some (b, .startTimer .cancelled)
  | .startTimer r, .proceed =>
    some ({ b with sm := b.sm.startSessionTimer cfg b.now sessionKey }, .returned r)
  | _, _ => none

/-- `CompleteOAuth`: the code goes to whatever transaction is active now; the
state is passed along and compared with nothing. -/
def completeOAuth (b : Shared) (sessionKey userID code state : String) : Except String Shared :=
  match b.sm.validateSession sessionKey userID with
  | .error e => .error e
  | .ok _ =>
    match b.sm.getSession sessionKey with
    | .error e => .error e
    | .ok s =>
      match b.activeTx s with
      | none => .error "no active OAuth transaction"
      | some tx =>
        match (b.txs[tx]?).map OAuthTransaction.completionChan with
        | some none => .ok (b.deliver tx { code := code, state := state, error := none })
        | _ => .error "no waiter for OAuth completion"

/-- One step of `HandleOAuthCallback`. -/
def stepCallback (b : Shared) (rq : CallbackRequest) :
    CallbackPc → Choice → Option (Shared × CallbackPc)
  | .lookup, .proceed =>
    if rq.error ≠ "" then some (b, .returned .providerError)
    else if rq.code = "" ∨ rq.state = "" then some (b, .returned .missingParameter)
    else match b.sm.getSessionByState b.txs rq.state with
      | .error e => some (b, .returned (.invalidSession e))
      | .ok s =>
        match b.sm.object s with
        | none => none
        | some o => some (b, .complete o.sessionKey o.userID)
  | .complete sessionKey userID, .proceed =>
    match completeOAuth b sessionKey userID rq.code rq.state with
    | .error e => some (b, .returned (.failed e))
    | .ok b => some (b, .returned .success)
  | _, _ => none

/-- One step of `HandleEndSession`. -/
def stepEnd (b : Shared) (sessionKey userID : String) : EndPc → Choice → Option (Shared × EndPc)
  | .validate, .proceed =>
    match b.sm.validateSession sessionKey userID with
    | .error e => some (b, .returned (.error e))
    | .ok _ => some (b, .finish)
  | .finish, .proceed =>
    match b.sm.endSession sessionKey with
    | .error e => some (b, .returned (.error e))
    | .ok sm => some ({ b with sm := sm }, .returned (.ok ()))
  | _, _ => none

/-- One step of a request. -/
def stepThread (cfg : Config) (b : Shared) (ch : Choice) : Thread → Option (Shared × Thread)
  | .token rq pc => (stepToken cfg b rq pc ch).map fun r => (r.1, .token rq r.2)
  | .events k u pc => (stepEvents cfg b k u pc ch).map fun r => (r.1, .events k u r.2)
  | .callback rq pc => (stepCallback b rq pc ch).map fun r => (r.1, .callback rq r.2)
  | .finish k u pc => (stepEnd b k u pc ch).map fun r => (r.1, .finish k u r.2)

/-! ### The broker -/

/-- The broker: what is shared, and the requests ever made. -/
structure State where
  shared : Shared := {}
  threads : List Thread := []

/-- What can happen. -/
inductive Action where
  /-- Time passes. -/
  | tick (d : ℕ)
  /-- `HandleCreateSession`. -/
  | createSession (sessionKey userID backendRedirectURL : String)
  /-- A `HandleGetToken` request comes in. -/
  | getToken (rq : TokenRequest)
  /-- A `HandleEvents` request comes in. -/
  | events (sessionKey userID : String)
  /-- A `HandleOAuthCallback` request comes in. -/
  | callback (rq : CallbackRequest)
  /-- A `HandleEndSession` request comes in. -/
  | endSession (sessionKey userID : String)
  /-- A request in progress takes its next step. -/
  | advance (i : ℕ) (ch : Choice)
  /-- An armed timer reaches its deadline. -/
  | fireTimer (t : TimerRef)
  /-- The callback of a fired timer runs. -/
  | runTimer (t : TimerRef)
  /-- The periodic clean-up of the token cache. -/
  | cleanupExpiredTokens
  | shutdown

/-- The session manager with a new status for one timer. -/
def SessionManager.setTimer (sm : SessionManager) (t : TimerRef) (st : TimerState) :
    SessionManager :=
  { sm with timerObjects := sm.timerObjects.modify t fun tm => { tm with status := st } }

/-- **One step of the broker.** -/
def step (cfg : Config) (st : State) : Action → Option State
  | .tick d => some { st with shared := { st.shared with now := st.shared.now + d } }
  | .createSession k u url =>
    match st.shared.sm.createSession cfg st.shared.now k u url with
    | .error _ => some st
    | .ok sm => some { st with shared := { st.shared with sm := sm } }
  | .getToken rq => some { st with threads := st.threads ++ [.token rq .handler] }
  | .events k u => some { st with threads := st.threads ++ [.events k u .validate] }
  | .callback rq => some { st with threads := st.threads ++ [.callback rq .lookup] }
  | .endSession k u => some { st with threads := st.threads ++ [.finish k u .validate] }
  | .advance i ch =>
    match st.threads[i]? with
    | none => none
    | some th => (stepThread cfg st.shared ch th).map fun r =>
        { shared := r.1, threads := st.threads.set i r.2 }
  | .fireTimer t =>
    match st.shared.sm.timerObjects[t]? with
    | some { status := .armed, deadline := d, .. } =>
      if d ≤ st.shared.now then
        some { st with shared := { st.shared with sm := st.shared.sm.setTimer t .fired } }
      else none
    | _ => none
  | .runTimer t =>
    match st.shared.sm.timerObjects[t]? with
    | some { status := .fired, sessionKey := k, .. } =>
      let sm := (st.shared.sm.setTimer t .finished).expireSession k
      some { st with shared := { st.shared with sm := sm } }
    | _ => none
  | .cleanupExpiredTokens =>
    some { st with shared :=
      { st.shared with cache := st.shared.cache.cleanupExpiredTokens st.shared.now } }
  | .shutdown => some { st with shared := { st.shared with sm := st.shared.sm.shutdown } }

/-- A configuration to run the broker with: every endpoint parses, and tokens live
for an hour. -/
def hourConfig : Config where
  sessionTimeout := 300000000000
  maxSessionsPerUser := 5
  callbackURL := "https://broker/oauth/callback"
  authorizationURL _ _ state _ _ := some ("https://idp/authorize?state=" ++ state)
  parseJWTExpiry now _ := now + 3600000000000

end Rossoctl.Broker
