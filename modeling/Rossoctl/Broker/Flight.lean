import Rossoctl.Broker.Steps

/-!
# Single flight

The semaphore of a session lets one token request at a time into the OAuth flow.
`Rossoctl.Broker.SingleFlight` is the invariant behind it, and it holds in every
run without any condition (`Rossoctl.Broker.singleFlight_run`).

What it is good for is a frame rule. The core of a session object – its semaphore
and its active transaction – is changed only by the request that holds it or is
about to (`Rossoctl.Broker.core_tokenStep`), so what a request knows about the
session it holds is not disturbed by the steps of the others
(`Rossoctl.Broker.SingleFlight.core_of_held`).
-/

namespace Rossoctl.Broker

open Option SessionManager Shared

/-- The session whose semaphore a request holds. -/
def Thread.holds : Thread → Option SessionRef
  | .token _ pc => pc.holds
  | _ => none

/-- The semaphore of a session object. -/
def Shared.semaphore (b : Shared) (s : SessionRef) : Option Bool :=
  (b.sm.core s).map Session.Core.acquisitionSemaphore

/-- **Single flight**: a held semaphore is taken, and by one request only. -/
structure SingleFlight (st : State) : Prop where
  taken : ∀ (i : ℕ) (th : Thread) s, st.threads[i]? = some th → th.holds = some s →
    st.shared.semaphore s = some true
  unique : ∀ (i j : ℕ) (th th' : Thread) s, st.threads[i]? = some th → st.threads[j]? = some th' →
    th.holds = some s → th'.holds = some s → i = j

variable {cfg : Config} {b b' : Shared} {rq : TokenRequest} {pc pc' : TokenPc}

/-! ### One step of a token request -/

theorem core_modifySession (b : Shared) (s ref : SessionRef) (f : Session → Session) :
    (b.modifySession s f).sm.core ref =
      if s = ref then (b.sm.object ref).map fun o => (f o).core else b.sm.core ref :=
  core_modify b.sm s ref f

theorem core_installTx (b : Shared) (s ref : SessionRef) (t : OAuthTransaction) :
    (b.installTx s t).sm.core ref =
      if s = ref then (b.sm.object ref).map fun o =>
        { o.core with activeOAuthTx := some b.txs.length } else b.sm.core ref :=
  core_modify b.sm s ref _

variable {s : SessionRef} {i : ℕ} {th th' : Thread} {ths : List Thread}

/-- **A token request changes the core of no session but its own.** -/
theorem core_tokenStep (h : TokenStep cfg b rq pc b' pc') (hs : pc.session ≠ some s) :
    b'.sm.core s = b.sm.core s := by
  cases h with
  | @acquired s' | @published s' | @finished s' | @released s' =>
    rw [core_modifySession, if_neg fun heq => hs (congrArg some heq)]
  | @installed s' =>
    rw [core_installTx, if_neg fun heq => hs (congrArg some heq)]
  | _ => rfl

theorem semaphore_modifySession {f : Session → Session} {v : Bool}
    (hf : ∀ o, (f o).acquisitionSemaphore = v) (hs : (b.semaphore s).isSome) :
    (b.modifySession s f).semaphore s = some v := by
  rw [semaphore, core, map_map, isSome_map] at hs
  obtain ⟨o, ho⟩ := isSome_iff_exists.mp hs
  rw [semaphore, core_modifySession, if_pos rfl, ho]
  exact congrArg some (hf o)

theorem semaphore_modifySession_of_eq {f : Session → Session}
    (hf : ∀ o, (f o).acquisitionSemaphore = o.acquisitionSemaphore) (ref : SessionRef) :
    (b.modifySession s f).semaphore ref = b.semaphore ref := by
  rw [semaphore, core_modifySession, semaphore]
  split
  · rw [core, map_map, map_map]
    exact congrArg (Option.map · _) (funext hf)
  · rfl

theorem semaphore_installTx (s ref : SessionRef) (t : OAuthTransaction) :
    (b.installTx s t).semaphore ref = b.semaphore ref := by
  have hf : ∀ o : Session,
      ({ o with activeOAuthTx := some b.txs.length } : Session).acquisitionSemaphore
      = o.acquisitionSemaphore := fun _ => rfl
  exact semaphore_modifySession_of_eq hf ref

/-- After a step a token request holds what it held, or has acquired a free
semaphore. -/
theorem holds_tokenStep (h : TokenStep cfg b rq pc b' pc') (hs : pc'.holds = some s) :
    (pc.holds = some s ∧ b'.semaphore s = b.semaphore s) ∨
      (b.semaphore s = some false ∧ b'.semaphore s = some true) := by
  cases h with
  | @acquired s' o hobj hfree =>
    obtain rfl : s' = s := some.inj hs
    have hsem : b.semaphore s' = some false := by
      rw [semaphore, core, hobj]
      exact congrArg some hfree
    exact Or.inr ⟨hsem, semaphore_modifySession (fun _ => rfl) (by rw [hsem]; rfl)⟩
  | published | finished =>
    refine Or.inl ⟨hs, semaphore_modifySession_of_eq ?_ _⟩
    exact fun _ => rfl
  | installed => exact Or.inl ⟨hs, semaphore_installTx _ _ _⟩
  | giveUp hp | giveUpTx hp => exact Or.inl ⟨hp.trans hs, rfl⟩
  | reject | admitted | validated | cached | uncached | found | released =>
    cases hs
  | _ => exact Or.inl ⟨hs, rfl⟩

/-! ### The frame rule -/

variable {st st' : State}

/-- **The frame rule**: what one request holds, no step of another changes. -/
theorem SingleFlight.core_of_held (hsf : SingleFlight st) {j : ℕ}
    (hi : st.threads[i]? = some (.token rq pc)) (h : TokenStep cfg st.shared rq pc b' pc')
    (hj : st.threads[j]? = some th) (hs : th.holds = some s) (hne : i ≠ j) :
    b'.sm.core s = st.shared.sm.core s := by
  by_cases hpc : pc.session = some s
  · cases h with
    | @acquired s' o hobj hfree =>
      obtain rfl : s' = s := some.inj hpc
      have htaken := hsf.taken j th s' hj hs
      rw [semaphore, core, hobj] at htaken
      exact absurd ((some.inj htaken).symm.trans hfree) (by simp)
    | published | finished | released | installed =>
      exact absurd (hsf.unique i j _ th s hi hj hpc hs) hne
    | _ => rfl
  · exact core_tokenStep h hpc

/-! ### Runs -/

theorem getElem?_set_ne {j : ℕ} (h : (ths.set i th')[j]? = some th) (hne : i ≠ j) :
    ths[j]? = some th := by
  rwa [List.getElem?_set_ne hne] at h

theorem getElem?_set_eq (h : (ths.set i th')[i]? = some th) : th = th' := by
  rw [List.getElem?_set_self'] at h
  obtain ⟨_, -, rfl⟩ := map_eq_some_iff.mp h
  rfl

/-- A step that changes no semaphore of a session object there is, and lets one
request let go or keep what it holds. -/
theorem SingleFlight.frame (h : SingleFlight st)
    (hsem : ∀ s, st.shared.semaphore s = some true → st'.shared.semaphore s = some true)
    (hth : ∀ (i : ℕ) (th : Thread) s, st'.threads[i]? = some th → th.holds = some s →
      ∃ th' : Thread, st.threads[i]? = some th' ∧ th'.holds = some s) : SingleFlight st' where
  taken i th s hi hs := by
    obtain ⟨th', hi', hs'⟩ := hth i th s hi hs
    exact hsem s (h.taken i th' s hi' hs')
  unique i j th₁ th₂ s hi hj h₁ h₂ := by
    obtain ⟨th₁', hi', h₁'⟩ := hth i th₁ s hi h₁
    obtain ⟨th₂', hj', h₂'⟩ := hth j th₂ s hj h₂
    exact h.unique i j th₁' th₂' s hi' hj' h₁' h₂'

theorem holds_of_other (h : th.Other) : th.holds = none := by
  cases th with
  | token rq pc => exact h.elim
  | _ => rfl

theorem core_createSession {sm' : SessionManager} {k u url : String}
    (h : b.sm.createSession cfg b.now k u url = .ok sm') {c : Session.Core}
    (hs : b.sm.core s = some c) : sm'.core s = some c := by
  have hlt : s ≠ b.sm.objects.length := by
    rintro rfl
    rw [core, object, List.getElem?_eq_none le_rfl] at hs
    cases hs
  rw [core, (createSession_ok h).1 s, if_neg hlt]
  exact hs

theorem SingleFlight.token (hsf : SingleFlight st) (hi : st.threads[i]? = some (.token rq pc))
    (h : TokenStep cfg st.shared rq pc b' pc') :
    SingleFlight { shared := b', threads := st.threads.set i (.token rq pc') } where
  taken j th s hj hs := by
    rcases eq_or_ne i j with rfl | hne
    · obtain rfl := getElem?_set_eq hj
      rcases holds_tokenStep h hs with ⟨hold, hsem⟩ | ⟨-, htrue⟩
      · exact hsem.trans (hsf.taken i _ s hi hold)
      · exact htrue
    · have hj' := getElem?_set_ne hj hne
      rw [semaphore, hsf.core_of_held hi h hj' hs hne]
      exact hsf.taken j th s hj' hs
  unique j k th th' s hj hk hs hs' := by
    -- a request that acquires a semaphore has found it free
    have key : ∀ (l : ℕ) (th : Thread),
        (st.threads.set i (.token rq pc'))[l]? = some th → th.holds = some s →
        pc'.holds = some s → i = l := by
      intro l th hl hth hpc
      by_contra hne
      have hl' := getElem?_set_ne hl hne
      rcases holds_tokenStep h hpc with ⟨hold, -⟩ | ⟨hfree, -⟩
      · exact hne (hsf.unique i l _ th s hi hl' hold hth)
      · exact absurd (hfree.symm.trans (hsf.taken l th s hl' hth)) (by simp)
    by_cases hij : i = j
    · subst hij
      obtain rfl := getElem?_set_eq hj
      exact key k th' hk hs' hs
    · by_cases hik : i = k
      · subst hik
        obtain rfl := getElem?_set_eq hk
        exact (key j th hj hs hs').symm
      · exact hsf.unique j k th th' s (getElem?_set_ne hj hij) (getElem?_set_ne hk hik) hs hs'

theorem holds_set_of_none (h' : th'.holds = none) {j : ℕ} (hj : (ths.set i th')[j]? = some th)
    (hs : th.holds = some s) : ∃ th' : Thread, ths[j]? = some th' ∧ th'.holds = some s := by
  rcases eq_or_ne i j with rfl | hne
  · obtain rfl := getElem?_set_eq hj
    exact absurd (h'.symm.trans hs) (by simp)
  · exact ⟨th, getElem?_set_ne hj hne, hs⟩

/-- **Every step keeps the single flight.** -/
theorem singleFlight_step {a : Action} (hsf : SingleFlight st) (hs : step cfg st a = some st') :
    SingleFlight st' := by
  have same : ∀ (i : ℕ) (th : Thread) s, st.threads[i]? = some th → th.holds = some s →
      ∃ th' : Thread, st.threads[i]? = some th' ∧ th'.holds = some s :=
    fun _ th _ hi h => ⟨th, hi, h⟩
  have quiet : ∀ {sm' : SessionManager}, st.shared.sm.Quiet sm' → ∀ s,
      st.shared.semaphore s = some true →
        ({ st.shared with sm := sm' } : Shared).semaphore s = some true := by
    intro sm' hq s h
    rw [semaphore, hq.core s]
    exact h
  cases move_of_step hs with
  | tick | refuse | cleanup => exact hsf.frame (fun _ h => h) same
  | create hc =>
    refine hsf.frame (fun s h => ?_) same
    obtain ⟨c, hcore, htrue⟩ := map_eq_some_iff.mp h
    rw [semaphore, core_createSession hc hcore]
    exact congrArg some htrue
  | @spawn _ th hnew =>
    refine hsf.frame (fun _ h => h) fun i th' s hi h => ?_
    have hnone : th.holds = none := by
      rcases hnew with ⟨rq, rfl⟩ | hother
      · rfl
      · exact holds_of_other hother
    rcases lt_or_ge i st.threads.length with hlt | hge
    · exact ⟨th', by rwa [List.getElem?_append_left hlt] at hi, h⟩
    · rw [List.getElem?_append_right hge, List.getElem?_singleton] at hi
      split at hi
      · cases hi
        exact absurd (hnone.symm.trans h) (by simp)
      · cases hi
  | token hi h => exact hsf.token hi h
  | deliver hi hdel =>
    obtain ⟨-, s, tx, t, -, -, -, -, rfl⟩ := completeOAuth_ok hdel
    exact hsf.frame (fun _ h => h) fun _ _ _ hj hs => holds_set_of_none rfl hj hs
  | other hi hq hother =>
    exact hsf.frame (quiet hq) fun _ _ _ hj hs => holds_set_of_none (holds_of_other hother) hj hs
  | quiet hq => exact hsf.frame (quiet hq) same

theorem singleFlight_init : SingleFlight {} :=
  ⟨fun _ _ _ h => absurd h (by simp), fun _ _ _ _ _ h => absurd h (by simp)⟩

/-- **Single flight in every run.** -/
theorem singleFlight_run {as : List Action} (hrun : run (step cfg) {} as = some st) :
    SingleFlight st :=
  run_invariant_unguarded (fun _ _ _ h => singleFlight_step h) singleFlight_init hrun

end Rossoctl.Broker
