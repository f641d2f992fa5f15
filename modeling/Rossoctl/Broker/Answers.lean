import Rossoctl.Broker.Transactions

/-!
# What a lost session answers

A token request checks its session several times: in the handler, in `AcquireToken`, at the
lookup of the session, when it publishes its authorization URL and while it waits for the
code. When the session is gone, each of these makes the request fail, but only two of the
errors are classified as the session's: the handler answers by itself, and the wait returns
`ErrSessionEnded`. The others become a 500, which tells the caller that the route is dead.
A request that cannot publish is among them: the slot for the event is taken, by the last event
of the session or by one that was there before.

`Rossoctl.Broker.sessionNotes` collects the failures that are due to the session, and
`Rossoctl.Broker.session_errors_iff` says in which runs they are all answered with a 401.
-/

namespace Rossoctl.Broker

open List Option

/-- What a token request that is on its way out will answer. -/
def TokenPc.result : TokenPc → Option TokenResult
  | .release _ r => some r
  | .returned r => some r
  | _ => none

/-- What a request that is on its way out will answer. -/
def Thread.result : Thread → Option TokenResult
  | .token _ pc => pc.result
  | _ => none

/-- The errors that are about the session whatever the state. -/
def TokenError.aboutSession : TokenError → Bool
  | .invalidSession _ => true
  | .sessionValidation _ => true
  | .getSession _ => true
  | .sessionEnded => true
  | _ => false

/-- A session has been ended, or has expired. -/
def Shared.sessionOver (b : Shared) (s : SessionRef) : Bool :=
  (b.sm.object s).any Session.done

/-- The slot of a session holds an event. -/
def Shared.slotTaken (b : Shared) (s : SessionRef) : Bool :=
  ((b.sm.object s).bind Session.eventWaiters).isSome

/-- **A request fails because of its session**: the error says so, or the request cannot publish
its event and the session is over. Whose event is in the slot does not matter: the one that says
that the session is over is only put there if there is room. -/
def TokenPc.failsBySession (b : Shared) (pc : TokenPc) : TokenError → Bool
  | .noEventWaiter => pc.holds.any b.sessionOver
  | e => e.aboutSession

/-- The failures of a step that are due to the session. -/
def sessionNotes (cfg : Config) (st : State) : Action → List (ℕ × TokenError)
  | .advance i ch =>
    match st.threads[i]? with
    | some (.token rq pc) =>
      match pc.result, (stepToken cfg st.shared rq pc ch).bind fun r => r.2.result with
      | none, some (.error e) => if pc.failsBySession st.shared e then [(i, e)] else []
      | _, _ => []
    | _ => []
  | _ => []

/-- A token request at one of its later checks finds its session. -/
def TokenPc.findsSession (b : Shared) (rq : TokenRequest) : TokenPc → Choice → Bool
  | .validate, .proceed => (b.sm.validateSession rq.sessionKey rq.userID).isOk
  | .getSession, .proceed => (b.sm.sessions.lookup rq.sessionKey).isSome
  | .publish s _ _ _, .failed => !(b.slotTaken s && b.sessionOver s)
  | _, _ => true

/-- **The session is there** whenever a token request looks for it between the handler and
the wait. -/
def SessionThere (st : State) : Action → Prop
  | .advance i ch => ∀ rq pc, st.threads[i]? = some (.token rq pc) →
      pc.findsSession st.shared rq ch = true
  | _ => True

variable {cfg : Config} {b b' : Shared} {rq : TokenRequest} {pc pc' : TokenPc} {ch : Choice}
  {st st' : State} {a : Action} {e : TokenError}

/-! ### The failures of one step -/

theorem failsBySession_stepAcquire (h : stepAcquire b rq pc ch = some (b', pc'))
    (hr : pc.result = none) (he : pc'.result = some (.error e))
    (hs : pc.failsBySession b e = true) :
    e.status = 401 ∨ pc.findsSession b rq ch = false := by
  unfold stepAcquire at h
  split at h
  · -- the handler answers by itself
    split at h
    · cases h
      cases he
      cases hs
    · split at h
      · cases h
        cases he
        exact .inl rfl
      · cases h
        cases he
  · split at h
    · rename_i herr
      right
      rw [TokenPc.findsSession, herr]
      rfl
    · cases h
      cases he
  · split at h <;> cases h <;> cases he
  · split at h
    · rename_i herr
      right
      rw [SessionManager.getSession] at herr
      split at herr
      · rename_i hk
        rw [TokenPc.findsSession, hk]
        rfl
      · cases herr
    · cases h
      cases he
  · split at h
    · cases h
      cases he
    · cases h
  · cases h
    cases he
    cases hs
  · split at h <;> cases h <;> cases he
  · cases hr
  · cases h

/-- Where a status is recorded, the request has failed with the error it was given, or has
followed a nil pointer. -/
theorem result_setTxStatus {s : SessionRef} {x : TokenError}
    (h : b.setTxStatus s .failed (.release s (.error x)) = (b', pc'))
    (he : pc'.result = some (.error e)) : e = x ∨ e = .panic := by
  rw [Shared.setTxStatus] at h
  split at h
  · cases h
    cases he
    exact .inr rfl
  · cases h
    cases he
    exact .inl rfl

theorem failsBySession_stepPrepare (h : stepPrepare cfg b rq pc ch = some (b', pc'))
    (he : pc'.result = some (.error e)) (hs : pc.failsBySession b e = true) :
    e.status = 401 ∨ pc.findsSession b rq ch = false := by
  unfold stepPrepare at h
  split at h
  · cases h
    cases he
  · cases h
    cases he
    cases hs
  · cases h
    cases he
  · cases h
    cases he
    cases hs
  · dsimp only at h
    split at h
    · rcases result_setTxStatus (some.inj h) he with rfl | rfl <;> cases hs
    · split at h
      · cases h
        cases he
        cases hs
      · cases h
        cases he
  · rcases result_setTxStatus (some.inj h) he with rfl | rfl <;> cases hs
  · split at h
    · cases h
      cases he
    · cases h
  · cases h
    cases he
    cases hs
  · -- the default case of the select
    split at h
    · rename_i hslot
      cases h
      cases he
      obtain ⟨o, ho, hfull⟩ := map_eq_some_iff.mp hslot
      right
      rw [TokenPc.findsSession, Bool.not_eq_false', Bool.and_eq_true]
      refine ⟨?_, hs⟩
      rw [Shared.slotTaken, ho, bind_some, hfull]
      rfl
    · cases h
  · cases h

theorem failsBySession_stepComplete (h : stepComplete cfg b rq pc ch = some (b', pc'))
    (he : pc'.result = some (.error e)) (hs : pc.failsBySession b e = true) :
    e.status = 401 := by
  unfold stepComplete at h
  split at h
  · split at h
    · cases h
      cases he
      cases hs
    · cases h
      cases he
  · split at h
    · cases h
    · dsimp only at h
      split at h
      · cases h
        cases he
        cases hs
      · cases h
        cases he
  · rcases result_setTxStatus (some.inj h) he with rfl | rfl <;> cases hs
  · -- the session's own case of the select
    split at h
    · rcases result_setTxStatus (some.inj h) he with rfl | rfl
      · rfl
      · cases hs
    · cases h
  · rcases result_setTxStatus (some.inj h) he with rfl | rfl <;> cases hs
  · split at h
    · cases h
    · dsimp only [Shared.setTxStatus] at h
      split at h
      · cases h
        cases he
        cases hs
      · cases h
        cases he
  · rcases result_setTxStatus (some.inj h) he with rfl | rfl <;> cases hs
  · cases h
    cases he
  · cases h
    cases he
  · cases h

/-- **Where a request fails because of its session**: the answer is a 401, or it is at one of
the checks between the handler and the wait. -/
theorem failsBySession_cases (h : stepToken cfg b rq pc ch = some (b', pc'))
    (hr : pc.result = none) (he : pc'.result = some (.error e))
    (hs : pc.failsBySession b e = true) :
    e.status = 401 ∨ pc.findsSession b rq ch = false := by
  rcases stepToken_cases h with h | h | h
  · exact failsBySession_stepAcquire h hr he hs
  · exact failsBySession_stepPrepare h he hs
  · exact .inl (failsBySession_stepComplete h he hs)

/-- **A request that does not find its session fails**, and not with a 401. -/
theorem stepToken_of_not_findsSession (cfg : Config) (h : pc.findsSession b rq ch = false) :
    ∃ e b' pc', pc.result = none ∧ stepToken cfg b rq pc ch = some (b', pc') ∧
      pc'.result = some (.error e) ∧ pc.failsBySession b e = true ∧ e.status = 500 := by
  unfold TokenPc.findsSession at h
  split at h
  · cases hv : b.sm.validateSession rq.sessionKey rq.userID with
    | ok _ =>
      rw [hv] at h
      cases h
    | error x =>
      refine ⟨.sessionValidation x, b, .returned (.error (.sessionValidation x)), rfl, ?_, rfl, rfl,
        rfl⟩
      rw [stepToken, stepAcquire, hv]
      rfl
  · cases hk : b.sm.sessions.lookup rq.sessionKey with
    | some s =>
      rw [hk] at h
      cases h
    | none =>
      refine ⟨.getSession "session not found", b,
        .returned (.error (.getSession "session not found")), rfl, ?_, rfl, rfl, rfl⟩
      rw [stepToken, stepAcquire, SessionManager.getSession, hk]
      rfl
  · rename_i s d p url
    rw [Bool.not_eq_false', Bool.and_eq_true] at h
    refine ⟨.noEventWaiter, b, .release s (.error .noEventWaiter), rfl, ?_, rfl, h.2, rfl⟩
    obtain ⟨ev, hev⟩ := isSome_iff_exists.mp h.1
    obtain ⟨o, ho, hfull⟩ := bind_eq_some_iff.mp hev
    have hprep : stepPrepare cfg b rq (.publish s d p url) .failed =
        some (b, .release s (.error .noEventWaiter)) := by
      rw [stepPrepare, ho, map_some, hfull]
    rw [stepToken, hprep]
    rfl
  · cases h

/-! ### The failures of a run -/

theorem mem_sessionNotes {n : ℕ × TokenError} : n ∈ sessionNotes cfg st a ↔
    ∃ ch rq pc b' pc', a = .advance n.1 ch ∧ st.threads[n.1]? = some (.token rq pc) ∧
      pc.result = none ∧ stepToken cfg st.shared rq pc ch = some (b', pc') ∧
      pc'.result = some (.error n.2) ∧ pc.failsBySession st.shared n.2 = true := by
  constructor
  · intro h
    unfold sessionNotes at h
    split at h
    · split at h
      · rename_i i ch _ rq pc hi
        split at h
        · rename_i e hr hres
          obtain ⟨⟨b', pc'⟩, hstep, he⟩ := bind_eq_some_iff.mp hres
          split at h
          · obtain rfl := mem_singleton.mp h
            exact ⟨ch, rq, pc, b', pc', rfl, hi, hr, hstep, he, ‹_›⟩
          · exact absurd h not_mem_nil
        · exact absurd h not_mem_nil
      · exact absurd h not_mem_nil
    · exact absurd h not_mem_nil
  · rintro ⟨ch, rq, pc, b', pc', rfl, hi, hr, hstep, he, hs⟩
    rw [sessionNotes, hi]
    dsimp only
    rw [hr, hstep, bind_some, he]
    dsimp only
    rw [if_pos hs]
    exact mem_singleton_self _

/-- The failures of a step are answered with a 401 exactly if the session is there. -/
theorem sessionNotes_iff (cfg : Config) (st : State) (a : Action) :
    (∀ n ∈ sessionNotes cfg st a, n.2.status = 401) ↔ SessionThere st a := by
  constructor
  · intro hgood
    cases a with
    | advance i ch =>
      intro rq pc hi
      by_contra hnot
      obtain ⟨e, b', pc', hr, hstep, he, hs, hstatus⟩ :=
        stepToken_of_not_findsSession cfg (Bool.eq_false_iff.mpr hnot)
      have hbad := hgood (i, e)
        (mem_sessionNotes.mpr ⟨ch, rq, pc, b', pc', rfl, hi, hr, hstep, he, hs⟩)
      exact absurd (hstatus.symm.trans hbad) (by decide)
    | _ => trivial
  · rintro hthere ⟨i, e⟩ hn
    obtain ⟨ch, rq, pc, b', pc', rfl, hi, hr, hstep, he, hs⟩ := mem_sessionNotes.mp hn
    refine (failsBySession_cases hstep hr he hs).resolve_right fun hnot => ?_
    exact absurd (hthere rq pc hi) (by rw [hnot]; simp)

theorem step_of_stepToken {i : ℕ} (hi : st.threads[i]? = some (.token rq pc))
    (h : stepToken cfg st.shared rq pc ch = some (b', pc')) : step cfg st (.advance i ch) =
      some { shared := b', threads := st.threads.set i (.token rq pc') } := by
  rw [step, hi]
  show ((stepToken cfg st.shared rq pc ch).map _).map _ = _
  rw [h]
  rfl

theorem result_of_stepToken {r : TokenResult} (h : stepToken cfg b rq pc ch = some (b', pc'))
    (hr : pc.result = some r) : pc'.result = some r := by
  cases pc with
  | release s r' =>
    cases hr
    cases ch with
    | proceed =>
      cases h
      rfl
    | _ => cases h
  | returned =>
    exact absurd h (by cases ch <;> simp [stepToken, stepAcquire, stepPrepare, stepComplete])
  | _ => cases hr

/-- **The failures of a run are the answers**: what is noted of a request is what it answers,
and an answer that is about the session is noted. -/
structure Answered (st : State) (ns : List (ℕ × TokenError)) : Prop where
  noted : ∀ i e, (i, e) ∈ ns → (st.threads[i]?).bind Thread.result = some (.error e)
  answered : ∀ i e, (st.threads[i]?).bind Thread.result = some (.error e) →
    e.aboutSession = true → (i, e) ∈ ns

theorem failsBySession_of_aboutSession (h : e.aboutSession = true) :
    pc.failsBySession b e = true := by
  cases e with
  | noEventWaiter => cases h
  | _ => exact h

/-- What a step makes of the answers: those there are stay, and a new one is that of the
token request that moves. -/
theorem result_of_step (hs : step cfg st a = some st') (i : ℕ) :
    (st'.threads[i]?).bind Thread.result = (st.threads[i]?).bind Thread.result ∨
      ∃ ch rq pc b' pc', a = .advance i ch ∧ st.threads[i]? = some (.token rq pc) ∧
        pc.result = none ∧ stepToken cfg st.shared rq pc ch = some (b', pc') ∧
        (st'.threads[i]?).bind Thread.result = pc'.result := by
  by_cases htok : ∃ j ch rq pc, a = .advance j ch ∧ st.threads[j]? = some (.token rq pc)
  · obtain ⟨j, ch, rq, pc, rfl, hj⟩ := htok
    obtain ⟨b', pc', hstep, rfl⟩ := stepToken_of_step hj hs
    rcases eq_or_ne j i with rfl | hne
    · have hset : (st.threads.set j (.token rq pc'))[j]? = some (.token rq pc') := by
        rw [getElem?_set_self', hj]
        rfl
      rw [hset, hj]
      cases hr : pc.result with
      | some r => exact .inl ((result_of_stepToken hstep hr).trans hr.symm)
      | none => exact .inr ⟨ch, rq, pc, b', pc', rfl, rfl, hr, hstep, rfl⟩
    · left
      rw [List.getElem?_set_ne hne]
  · -- no other request has such an answer
    have hother : ∀ {th : Thread}, (∀ rq pc, th ≠ .token rq pc) → th.result = none := by
      intro th hth
      cases th with
      | token rq pc => exact absurd rfl (hth rq pc)
      | _ => rfl
    have hset : ∀ {j : ℕ} {th th' : Thread}, st.threads[j]? = some th →
        (∀ rq pc, th ≠ .token rq pc) → (∀ rq pc, th' ≠ .token rq pc) →
        ((st.threads.set j th')[i]?).bind Thread.result = (st.threads[i]?).bind Thread.result := by
      intro j th th' hj hth hth'
      rcases eq_or_ne j i with rfl | hne
      · rw [getElem?_set_self', hj]
        exact (hother hth').trans (hother hth).symm
      · rw [List.getElem?_set_ne hne]
    left
    cases move_of_step hs with
    | tick | refuse | cleanup | create | quiet => rfl
    | @spawn _ th hnew =>
      have hnone : th.result = none := by
        rcases hnew with ⟨rq, rfl⟩ | h
        · rfl
        · exact hother h.ne_token
      rcases lt_or_ge i st.threads.length with hlt | hge
      · rw [getElem?_append_left hlt]
      · rw [getElem?_append_right hge, getElem?_eq_none hge, getElem?_singleton]
        split
        · exact hnone
        · rfl
    | token hj => exact absurd ⟨_, _, _, _, rfl, hj⟩ htok
    | deliver hj => exact hset hj (by simp) (by simp)
    | other hj _ h hth => exact hset hj hth h.ne_token

theorem answered_step {ns : List (ℕ × TokenError)} (h : Answered st ns)
    (hs : step cfg st a = some st') : Answered st' (ns ++ sessionNotes cfg st a) := by
  refine ⟨fun i e hmem => ?_, fun i e he hab => ?_⟩
  · rcases mem_append.mp hmem with hold | hnew
    · rcases result_of_step hs i with hsame | ⟨ch, rq, pc, b', pc', -, hi, hr, -, -⟩
      · exact hsame.trans (h.noted i e hold)
      · have hres := h.noted i e hold
        rw [hi, bind_some] at hres
        exact absurd (hr.symm.trans hres) (by simp)
    · obtain ⟨ch, rq, pc, b', pc', rfl, hi, -, hstep, he, -⟩ := mem_sessionNotes.mp hnew
      cases hs.symm.trans (step_of_stepToken hi hstep)
      rw [getElem?_set_self', hi]
      exact he
  · rcases result_of_step hs i with hsame | ⟨ch, rq, pc, b', pc', rfl, hi, hr, hstep, hres⟩
    · exact mem_append_left _ (h.answered i e (hsame.symm.trans he) hab)
    · refine mem_append_right _ (mem_sessionNotes.mpr ?_)
      exact ⟨ch, rq, pc, b', pc', rfl, hi, hr, hstep, hres.symm.trans he,
        failsBySession_of_aboutSession hab⟩

/-- **What a lost session answers.** In a run, all requests that fail because of their session
are answered with a 401 exactly if the session is there whenever a token request looks for it
between the handler and the wait. The failures are recorded when they happen: what is
recorded of a request is what it answers, and an answer that is about the session is
recorded. -/
theorem session_errors_iff (cfg : Config) (as : List Action) :
    ((∀ n ∈ recorded (step cfg) (sessionNotes cfg) {} as, n.2.status = 401) ↔
      Guarded (step cfg) SessionThere {} as) ∧
    ∀ st, run (step cfg) {} as = some st → ∀ i e,
      ((i, e) ∈ recorded (step cfg) (sessionNotes cfg) {} as →
        (st.threads[i]?).bind Thread.result = some (.error e)) ∧
      ((st.threads[i]?).bind Thread.result = some (.error e) → e.aboutSession = true →
        (i, e) ∈ recorded (step cfg) (sessionNotes cfg) {} as) := by
  constructor
  · refine forall_recorded_iff_guarded (fun st a _ _ => sessionNotes_iff cfg st a)
      (fun st a hnone => ?_)
      {} as
    refine (sessionNotes_iff cfg st a).mp fun n hn => ?_
    obtain ⟨ch, rq, pc, b', pc', rfl, hi, -, hstep, -⟩ := mem_sessionNotes.mp hn
    exact absurd (hnone.symm.trans (step_of_stepToken hi hstep)) (by simp)
  · intro st hrun i e
    have h : Answered st (recorded (step cfg) (sessionNotes cfg) {} as) := by
      refine run_invariant_recorded_unguarded (fun _ _ _ _ h hs => answered_step h hs) ?_ hrun
      exact ⟨fun _ _ h => absurd h not_mem_nil, fun _ _ h => absurd h (by simp)⟩
    exact ⟨h.noted i e, h.answered i e⟩

/-- A session is ended between the handler's check and that of `AcquireToken`. -/
def endedRun : List Action := List.flatten [[.createSession "key" "alice" "https://backend",
    .getToken { sessionKey := "key", userID := "alice", resourceURL := "https://mcp" },
    .endSession "key" "alice", .advance 0 .proceed],
   List.replicate 2 (.advance 1 .proceed), [.advance 0 .proceed]]

/-- **A lost session is answered with a 500.** -/
theorem session_error_500 : (0, TokenError.sessionValidation "session not found") ∈
      recorded (step hourConfig) (sessionNotes hourConfig) {} endedRun ∧
    (TokenError.sessionValidation "session not found").status = 500 :=
  ⟨by decide +kernel, rfl⟩

end Rossoctl.Broker
