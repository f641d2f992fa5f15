import Rossoctl.Broker.Session

/-!
# The token cache

The model of `internal/cache/token_cache.go`: a map from session keys to maps
from resource URLs to tokens. `Rossoctl.Broker.TokenCache.entry` reads the two
levels as one, and the `entry_` theorems say what each operation does to it; no
proof elsewhere looks at the nesting.

An entry counts as expired from five minutes before its expiry on
(`Rossoctl.Broker.isTokenExpired`), and once it does it does for ever
(`Rossoctl.Broker.isTokenExpired_mono`).
-/

namespace Rossoctl.Broker

open GoMap

/-- A cached token. -/
structure TokenEntry where
  accessToken : String
  expiresAt : ℤ
  createdAt : ℤ
  deriving DecidableEq

/-- The token cache: session key, then resource URL. -/
structure TokenCache where
  tokens : GoMap String (GoMap String TokenEntry) := ∅

/-- Five minutes, in nanoseconds. -/
def fiveMinutes : ℤ := 5 * 60 * 1000000000

/-- `IsTokenExpired`: expired, or less than five minutes to go. -/
def isTokenExpired (now expiresAt : ℤ) : Bool :=
  decide (expiresAt < now) || decide (expiresAt - now < fiveMinutes)

theorem isTokenExpired_mono {now now' e : ℤ} (h : now ≤ now') (he : isTokenExpired now e = true) :
    isTokenExpired now' e = true := by
  simp only [isTokenExpired, Bool.or_eq_true, decide_eq_true_eq] at he ⊢
  omega

namespace TokenCache

/-- The entry for a session key and a resource URL, expired or not. -/
def entry (tc : TokenCache) (sessionKey resourceURL : String) : Option TokenEntry :=
  (tc.tokens.lookup sessionKey).bind fun sessionTokens => sessionTokens.lookup resourceURL

/-- `GetToken`: an expired token is not handed out. -/
def getToken (now : ℤ) (tc : TokenCache) (sessionKey resourceURL : String) : Option String :=
  match tc.entry sessionKey resourceURL with
  | none => none
  | some e => if isTokenExpired now e.expiresAt then none else some e.accessToken

/-- `SetToken`, with the expiry that the token itself states. -/
def setToken (cfg : Config) (now : ℤ) (tc : TokenCache) (sessionKey resourceURL token : String) :
    TokenCache where
  tokens := tc.tokens.insert sessionKey
    (((tc.tokens.lookup sessionKey).getD ∅).insert resourceURL
      { accessToken := token, expiresAt := cfg.parseJWTExpiry now token, createdAt := now })

/-- One round of `CleanupExpiredTokens`: the tokens of one session that are not
expired, and nothing at all when none is left. -/
def dropExpired (now : ℤ) (sessionTokens : GoMap String TokenEntry) :
    Option (GoMap String TokenEntry) :=
  let left := sessionTokens.filterMap fun _ e =>
    if isTokenExpired now e.expiresAt then none else some e
  if left.entries.isEmpty then none else some left

/-- `CleanupExpiredTokens`; a session without tokens loses its map. -/
def cleanupExpiredTokens (now : ℤ) (tc : TokenCache) : TokenCache where
  tokens := tc.tokens.filterMap fun _ sessionTokens => dropExpired now sessionTokens

/-! ### What the operations do to an entry -/

theorem getToken_eq_some {now : ℤ} {tc : TokenCache} {k r t : String}
    (h : tc.getToken now k r = some t) :
    ∃ e, tc.entry k r = some e ∧ isTokenExpired now e.expiresAt = false ∧ e.accessToken = t := by
  rw [getToken] at h
  rcases he : tc.entry k r with _ | e
  · simp [he] at h
  · simp only [he] at h
    split at h
    · simp at h
    · rename_i hexp
      exact ⟨e, rfl, Bool.eq_false_iff.mpr hexp, Option.some.inj h⟩

theorem entry_setToken (cfg : Config) (now : ℤ) (tc : TokenCache) (k r t k' r' : String) :
    (tc.setToken cfg now k r t).entry k' r' =
      if k' = k ∧ r' = r then
        some { accessToken := t, expiresAt := cfg.parseJWTExpiry now t, createdAt := now }
      else tc.entry k' r' := by
  simp only [entry, setToken, lookup_insert_ite]
  by_cases hk : k' = k
  · subst hk
    rw [if_pos rfl, Option.bind_some, lookup_insert_ite]
    by_cases hr : r' = r
    · rw [if_pos hr, if_pos ⟨rfl, hr⟩]
    · rw [if_neg hr, if_neg fun h => hr h.2]
      rcases tc.tokens.lookup k' with _ | m
      · exact AList.lookup_empty r'
      · rfl
  · rw [if_neg hk, if_neg fun h => hk h.1]

theorem lookup_dropExpired (now : ℤ) (m : GoMap String TokenEntry) (r : String) :
    ((dropExpired now m).bind fun left => left.lookup r) =
      (m.lookup r).bind fun e => if isTokenExpired now e.expiresAt then none else some e := by
  rw [dropExpired]
  split
  · rename_i hempty
    have hl := lookup_filterMap
      (fun _ e => if isTokenExpired now e.expiresAt then none else some e) m r
    rw [← hl, Option.bind_none]
    exact (lookup_of_isEmpty hempty r).symm
  · exact lookup_filterMap _ m r

/-- **A clean-up removes exactly the expired entries.** -/
theorem entry_cleanupExpiredTokens (now : ℤ) (tc : TokenCache) (k r : String) :
    (tc.cleanupExpiredTokens now).entry k r =
      (tc.entry k r).bind fun e => if isTokenExpired now e.expiresAt then none else some e := by
  rw [entry, entry, cleanupExpiredTokens, lookup_filterMap]
  rcases tc.tokens.lookup k with _ | m
  · rfl
  · exact lookup_dropExpired now m r

end TokenCache

end Rossoctl.Broker
