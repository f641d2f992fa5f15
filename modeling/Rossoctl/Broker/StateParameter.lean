import Rossoctl.Broker.Acceptance
import Rossoctl.Broker.Store
import Rossoctl.Kube

/-!
# The state parameter

A state is a session key, a dot and a nonce, and `GetSessionByState` cuts it at the last dot. A
key may have dots in it, a nonce is base64url text and has none, so the cut gives back the key
(`Rossoctl.Broker.SessionManager.beforeLastDot_append`). In every run a session answers to a state
exactly if it is registered under what stands before the last dot – which is then its own key –
and the state is that of its active transaction (`Rossoctl.Broker.getSessionByState_iff`).
-/

namespace Rossoctl.Broker

open Option SessionManager

/-- The alphabet of `base64.RawURLEncoding`. -/
def isBase64URL (c : Char) : Bool := c.isAlphanum || c == '-' || c == '_'

namespace SessionManager

/-- **The cut undoes the construction.** -/
theorem beforeLastDot_append (key : String) {nonce : String}
    (h : ∀ c ∈ nonce.toList, isBase64URL c = true) :
    beforeLastDot (key ++ "." ++ nonce) = some key := by
  have hdot : '.' ∉ nonce.toList := fun hc => absurd (h _ hc) (by decide)
  have hchars : (key ++ "." ++ nonce).toList = key.toList ++ '.' :: nonce.toList := by simp
  rw [beforeLastDot, hchars, Kube.dropWhile_reverse_append_cons _ hdot]
  dsimp only
  rw [List.reverse_reverse, String.ofList_toList]

theorem getSessionByState_ok_iff {sm : SessionManager} {txs : List OAuthTransaction}
    {state : String} {ref : SessionRef} :
    sm.getSessionByState txs state = .ok ref ↔
      ∃ key, beforeLastDot state = some key ∧ sm.sessions.lookup key = some ref ∧
        (((sm.object ref).bind Session.activeOAuthTx).bind (txs[·]?)).map
          OAuthTransaction.state = some state := by
  rw [getSessionByState]
  cases beforeLastDot state with
  | none => simp
  | some key =>
    cases hkey : sm.sessions.lookup key with
    | none => simp [hkey]
    | some r =>
      simp only [hkey, some.injEq, exists_eq_left']
      split
      · rename_i htx
        exact ⟨fun h => by cases h; exact ⟨rfl, htx⟩, fun h => by rw [h.1]⟩
      · rename_i htx
        refine ⟨fun h => (by cases h), ?_⟩
        rintro ⟨rfl, h⟩
        exact absurd h htx

end SessionManager

/-- **States and sessions.** What is built of a key and a nonce is cut back into that key; and at
every moment of every run a session answers to a state exactly if it is registered under what
stands before the last dot, which is its own key, and its active transaction has this state. -/
theorem getSessionByState_iff (cfg : Config) (as : List Action) (st : State)
    (hrun : run (step cfg) {} as = some st) :
    (∀ key nonce : String, (∀ c ∈ nonce.toList, isBase64URL c = true) →
      beforeLastDot (key ++ "." ++ nonce) = some key) ∧
    ∀ state ref, st.shared.sm.getSessionByState st.shared.txs state = .ok ref ↔
      ∃ s tx t, beforeLastDot state = some s.sessionKey ∧
        st.shared.sm.sessions.lookup s.sessionKey = some ref ∧ st.shared.sm.object ref = some s ∧
        s.activeOAuthTx = some tx ∧ st.shared.txs[tx]? = some t ∧ t.state = state := by
  have hrefs : st.shared.sm.Refs :=
    run_invariant_unguarded (I := fun st => st.shared.sm.Refs) (fun _ _ _ => refs_step)
      refs_empty hrun
  refine ⟨fun key nonce => beforeLastDot_append key, fun state ref => ?_⟩
  rw [getSessionByState_ok_iff]
  constructor
  · rintro ⟨key, hcut, hkey, htx⟩
    obtain ⟨l, hl, rfl⟩ := hrefs key ref hkey
    obtain ⟨s, hs, rfl⟩ := map_eq_some_iff.mp hl
    rw [hs, bind_some] at htx
    obtain ⟨t, ht, hstate⟩ := map_eq_some_iff.mp htx
    obtain ⟨tx, hact, ht⟩ := bind_eq_some_iff.mp ht
    exact ⟨s, tx, t, hcut, hkey, hs, hact, ht, hstate⟩
  · rintro ⟨s, tx, t, hcut, hkey, hs, hact, ht, rfl⟩
    refine ⟨s.sessionKey, hcut, hkey, ?_⟩
    rw [hs, bind_some, hact, bind_some, ht]
    rfl

/-- The session whose flow waits for the user answers to the state of its transaction. -/
theorem getSessionByState_awaiting : ∃ st, run (step hourConfig) {} awaitingRun = some st ∧
    st.shared.sm.getSessionByState st.shared.txs answer.state = .ok 0 := by
  have hrun : ((run (step hourConfig) {} awaitingRun).any fun st =>
      (st.shared.sm.object 0).any fun s => (st.shared.txs[0]?).any fun t =>
        st.shared.sm.sessions.lookup s.sessionKey = some 0 && s.activeOAuthTx = some 0 &&
        t.state = answer.state &&
        beforeLastDot answer.state = some s.sessionKey) = true := by decide +kernel
  obtain ⟨st, hst, hcheck⟩ := (any_eq_true _ _).mp hrun
  obtain ⟨s, hs, hcheck⟩ := (any_eq_true _ _).mp hcheck
  obtain ⟨t, ht, hcheck⟩ := (any_eq_true _ _).mp hcheck
  simp only [Bool.and_eq_true, decide_eq_true_eq] at hcheck
  obtain ⟨⟨⟨hkey, hact⟩, hstate⟩, hcut⟩ := hcheck
  exact ⟨st, hst, ((getSessionByState_iff hourConfig _ st hst).2 _ 0).mpr
    ⟨s, 0, t, hcut, hkey, hs, hact, ht, hstate⟩⟩

end Rossoctl.Broker
