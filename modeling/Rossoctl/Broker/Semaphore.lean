import Rossoctl.Broker.Flight
import Rossoctl.Broker.Store

/-!
# One flow at a time, and none for a cached token

`Rossoctl.Broker.SingleFlight` says that a held semaphore is taken. The converse,
`Rossoctl.Broker.Occupied`, is what the deferred `Release` of `AcquireToken` is for: a taken
semaphore is held, by a request that is between its `Acquire` and its `Release`. Together
they say that a `Release` frees the slot of the request that calls it and no other
(`Rossoctl.Broker.free_of_release`).

The second look at the cache, after the semaphore, is what makes the flows of a session
worth waiting for: a token that has been stored stays in the cache until it expires or
another one is stored for the same key and resource (`Rossoctl.Broker.entry_of_not_stored`),
and a request that finds one there returns it and starts no flow
(`Rossoctl.Broker.release_of_recheck`).
-/

namespace Rossoctl.Broker

open List Option SessionManager Shared

/-! ### A taken semaphore is held -/

/-- **A taken semaphore is held** by some request. -/
def Occupied (st : State) : Prop :=
  ∀ s, st.shared.semaphore s = some true →
    ∃ (i : ℕ) (th : Thread), st.threads[i]? = some th ∧ th.holds = some s

variable {cfg : Config} {b b' : Shared} {rq : TokenRequest} {pc pc' : TokenPc}
  {st st' : State} {a : Action}

variable {s : SessionRef} {e : TokenEntry}

theorem held_tokenStep (h : TokenStep cfg b rq pc b' pc') (hs : pc.holds = some s)
    (hsem : b.semaphore s = some true) : pc'.holds = some s ∨ b'.semaphore s = some false := by
  cases h with
  | @released s' r =>
    cases hs
    exact .inr (semaphore_modifySession (fun _ => rfl) (by rw [hsem]; rfl))
  | giveUp hp | giveUpTx hp => exact .inl (hp.symm.trans hs)
  | reject hp => exact absurd (hp.symm.trans hs) (by simp)
  | admitted | validated | cached | uncached | found | acquired =>
    cases hs
  | _ => exact .inl hs

/-- A semaphore that a request finds taken after its step was taken before, or is now held
by the request. -/
theorem taken_tokenStep (h : TokenStep cfg b rq pc b' pc') (hs : b'.semaphore s = some true) :
    b.semaphore s = some true ∨ pc'.holds = some s := by
  have sem_modify : ∀ {s' : SessionRef} {f : Session → Session},
      (b.modifySession s' f).semaphore s = some true → s' ≠ s → b.semaphore s = some true := by
    intro s' f h' hne
    rw [semaphore, core_modifySession, if_neg hne] at h'
    exact h'
  cases h with
  | @acquired s' o hobj hfree =>
    rcases eq_or_ne s' s with rfl | hne
    · exact .inr rfl
    · exact .inl (sem_modify hs hne)
  | @released s' r =>
    rcases eq_or_ne s' s with rfl | hne
    · rw [semaphore, core_modifySession, if_pos rfl, Option.map_map] at hs
      obtain ⟨o, -, hfalse⟩ := map_eq_some_iff.mp hs
      exact absurd hfalse Bool.false_ne_true
    · exact .inl (sem_modify hs hne)
  | published | finished =>
    rw [semaphore_modifySession_of_eq] at hs
    · exact .inl hs
    · exact fun _ => rfl
  | installed =>
    rw [semaphore_installTx] at hs
    exact .inl hs
  | _ => exact .inl hs

/-- The holders are those of before: no request that holds something has moved. -/
theorem Occupied.frame (h : Occupied st)
    (hsem : ∀ s, st'.shared.semaphore s = some true → st.shared.semaphore s = some true)
    (hth : ∀ (i : ℕ) (th : Thread) s, st.threads[i]? = some th → th.holds = some s →
      st'.threads[i]? = some th) : Occupied st' := by
  intro s hs
  obtain ⟨i, th, hi, hhold⟩ := h s (hsem s hs)
  exact ⟨i, th, hth i th s hi hhold, hhold⟩

theorem Occupied.token (hoc : Occupied st) {i : ℕ} (hi : st.threads[i]? = some (.token rq pc))
    (h : TokenStep cfg st.shared rq pc b' pc') :
    Occupied { shared := b', threads := st.threads.set i (.token rq pc') } := by
  intro s hs
  have hset : (st.threads.set i (.token rq pc'))[i]? = some (.token rq pc') := by
    rw [getElem?_set_self', hi]
    rfl
  rcases taken_tokenStep h hs with htaken | hhold
  · obtain ⟨j, th, hj, hhold⟩ := hoc s htaken
    rcases eq_or_ne i j with rfl | hne
    · cases hi.symm.trans hj
      rcases held_tokenStep h hhold htaken with hkept | hfree
      · exact ⟨i, _, hset, hkept⟩
      · exact absurd (hs.symm.trans hfree) (by simp)
    · exact ⟨j, th, by rwa [List.getElem?_set_ne hne], hhold⟩
  · exact ⟨i, _, hset, hhold⟩

/-- **Every step keeps taken semaphores held.** -/
theorem occupied_step (hoc : Occupied st) (hs : step cfg st a = some st') : Occupied st' := by
  -- a request that is no token request holds nothing, so its steps move no holder
  have moved : ∀ {i : ℕ} {th th' : Thread}, st.threads[i]? = some th → th.holds = none →
      ∀ (j : ℕ) (th₁ : Thread) s, st.threads[j]? = some th₁ → th₁.holds = some s →
        (st.threads.set i th')[j]? = some th₁ := by
    intro i th th' hi hnone j th₁ s hj hhold
    rcases eq_or_ne i j with rfl | hne
    · cases hi.symm.trans hj
      exact absurd (hnone.symm.trans hhold) (by simp)
    · rwa [List.getElem?_set_ne hne]
  have quiet : ∀ {sm' : SessionManager}, st.shared.sm.Quiet sm' → ∀ s,
      ({ st.shared with sm := sm' } : Shared).semaphore s = some true →
        st.shared.semaphore s = some true := by
    intro sm' hq s h
    rwa [semaphore, hq.core s] at h
  cases move_of_step hs with
  | tick | refuse | cleanup => exact hoc.frame (fun _ h => h) fun _ _ _ hi _ => hi
  | create hc =>
    refine hoc.frame (fun s h => ?_) fun _ _ _ hi _ => hi
    obtain ⟨hobj, -⟩ := createSession_ok hc
    rw [semaphore, core, hobj] at h
    split at h
    · exact absurd (some.inj h) Bool.false_ne_true
    · exact h
  | spawn =>
    refine hoc.frame (fun _ h => h) fun i th s hi _ => ?_
    exact List.getElem?_append_left (List.getElem?_eq_some_iff.mp hi).1 ▸ hi
  | token hi h => exact hoc.token hi h
  | deliver hi hdel =>
    obtain ⟨-, s, tx, t, -, -, -, -, rfl⟩ := completeOAuth_ok hdel
    exact hoc.frame (fun _ h => h) (moved hi rfl)
  | @other i ch th th' sm' hi hq hother ht =>
    refine hoc.frame (quiet hq) (moved hi ?_)
    cases th with
    | token rq pc => exact absurd rfl (ht rq pc)
    | _ => rfl
  | quiet hq => exact hoc.frame (quiet hq) fun _ _ _ hi _ => hi

/-- **A taken semaphore is held, in every run.** -/
theorem occupied_run {as : List Action} (hrun : run (step cfg) {} as = some st) : Occupied st :=
  run_invariant_unguarded (fun _ _ _ h => occupied_step h)
    (fun s h => absurd h (by simp [semaphore, core, object]))
    hrun

/-- **A `Release` frees the slot of its own request**: it was taken before, and no request
holds it afterwards. -/
theorem free_of_release (hsf : SingleFlight st) {i : ℕ} {r : TokenResult}
    (hi : st.threads[i]? = some (.token rq (.release s r)))
    (hs : step cfg st (.advance i .proceed) = some st') :
    st.shared.semaphore s = some true ∧ st'.shared.semaphore s = some false ∧
      ∀ (j : ℕ) (th : Thread), st'.threads[j]? = some th → th.holds ≠ some s := by
  have htaken := hsf.taken i _ s hi rfl
  rw [step, hi] at hs
  cases hs
  refine ⟨htaken, semaphore_modifySession (fun _ => rfl) (by rw [htaken]; rfl), ?_⟩
  intro j th hj hhold
  rcases eq_or_ne i j with rfl | hne
  · obtain rfl := getElem?_set_eq hj
    cases hhold
  · exact hne (hsf.unique i j _ th s hi (getElem?_set_ne hj hne) rfl hhold)

/-! ### The cache -/

/-- The key and the resource for which a step stores a token. -/
def storedBy (st : State) : Action → List (String × String)
  | .advance i _ =>
    match st.threads[i]? with
    | some (.token rq (.setToken s _)) => [(st.shared.sessionKey s, rq.resourceURL)]
    | _ => []
  | _ => []

/-- A step that stores no token for a key and a resource leaves their entry alone until it
expires. -/
theorem entry_step {k r : String} (h : step cfg st a = some st') (hns : (k, r) ∉ storedBy st a)
    (he : st.shared.cache.entry k r = some e)
    (hlive : isTokenExpired st'.shared.now e.expiresAt = false) :
    st'.shared.cache.entry k r = some e := by
  cases move_of_step h with
  | @token i ch rq pc pc' b' hi htok =>
    cases htok with
    | @stored s t =>
      rw [TokenCache.entry_setToken, if_neg, he]
      rintro ⟨rfl, rfl⟩
      rw [storedBy, hi] at hns
      exact hns mem_cons_self
    | _ => exact he
  | deliver hi hdel =>
    obtain ⟨-, s, tx, t, -, -, -, -, rfl⟩ := completeOAuth_ok hdel
    exact he
  | cleanup =>
    rw [TokenCache.entry_cleanupExpiredTokens, he, bind_some, if_neg]
    exact Bool.eq_false_iff.mp hlive
  | _ => exact he

theorem now_le_of_step (h : step cfg st a = some st') : st.shared.now ≤ st'.shared.now := by
  cases move_of_step h with
  | tick d => exact Int.le_add_of_nonneg_right (Int.natCast_nonneg d)
  | token hi htok => cases htok with | _ => exact le_rfl
  | deliver hi hdel =>
    obtain ⟨-, s, tx, t, -, -, -, -, rfl⟩ := completeOAuth_ok hdel
    exact le_rfl
  | _ => exact le_rfl

/-- **A stored token stays** until it expires, or another one is stored for the same key
and resource. -/
theorem entry_of_not_stored {k r : String} {as : List Action}
    (hrun : run (step cfg) st as = some st') (he : st.shared.cache.entry k r = some e)
    (hns : (k, r) ∉ recorded (step cfg) storedBy st as)
    (hlive : isTokenExpired st'.shared.now e.expiresAt = false) :
    st'.shared.cache.entry k r = some e := by
  -- kept by every step: if nothing has been stored and `e` is still good, it is there
  refine run_invariant_recorded_unguarded
    (I := fun st ns => (k, r) ∉ ns → isTokenExpired st.shared.now e.expiresAt = false →
      st.shared.cache.entry k r = some e) ?_ (fun _ _ => he) hrun hns hlive
  intro s a s' ns ih hs hnot hgood
  rw [mem_append, not_or] at hnot
  refine entry_step hs hnot.2 (ih hnot.1 ?_) hgood
  by_contra hexp
  have hlater := isTokenExpired_mono (now_le_of_step hs) (Bool.eq_true_of_not_eq_false hexp)
  exact Bool.false_ne_true (hgood.symm.trans hlater)

/-- **A request that finds a good token after the semaphore returns it** and starts no
flow. -/
theorem release_of_recheck {i : ℕ} {ch : Choice}
    (hi : st.threads[i]? = some (.token rq (.cacheRecheck s)))
    (he : st.shared.cache.entry rq.sessionKey rq.resourceURL = some e)
    (hlive : isTokenExpired st.shared.now e.expiresAt = false)
    (h : step cfg st (.advance i ch) = some st') :
    st'.threads[i]? = some (.token rq (.release s (.ok e.accessToken))) := by
  have hget : st.shared.cache.getToken st.shared.now rq.sessionKey rq.resourceURL =
      some e.accessToken := by
    rw [TokenCache.getToken, he]
    exact if_neg (Bool.eq_false_iff.mp hlive)
  rw [step, hi] at h
  obtain ⟨⟨b', th'⟩, hstep, rfl⟩ := map_eq_some_iff.mp h
  obtain ⟨⟨b₁, pc'⟩, htok, heq⟩ := map_eq_some_iff.mp hstep
  cases heq
  have hpc : pc' = .release s (.ok e.accessToken) := by
    cases ch with
    | proceed =>
      rw [stepToken, stepAcquire, hget] at htok
      exact (Prod.mk.inj (some.inj htok)).2.symm
    | _ => cases htok
  rw [hpc, getElem?_set_self', hi]
  rfl

/-- **What `SetToken` stores**, under the key the session was found under. -/
theorem entry_of_setToken (hp : Pointed st) {i : ℕ} {t : String}
    (hi : st.threads[i]? = some (.token rq (.setToken s t)))
    (h : step cfg st (.advance i .proceed) = some st') :
    st'.shared.cache.entry rq.sessionKey rq.resourceURL =
      some ⟨t, cfg.parseJWTExpiry st.shared.now t, st.shared.now⟩ := by
  obtain ⟨l, hl, hkey⟩ := hp.threads _ (mem_of_getElem? hi) s rq.sessionKey rfl
  obtain ⟨o, ho, rfl⟩ := map_eq_some_iff.mp hl
  have hname : st.shared.sessionKey s = rq.sessionKey := by
    rw [sessionKey, ho]
    exact hkey
  rw [step, hi] at h
  cases h
  rw [hname, TokenCache.entry_setToken, if_pos ⟨rfl, rfl⟩]

/-! ### Single flight -/

/-- A request is inside `performOAuthFlow`, for a session. -/
def TokenPc.flow : TokenPc → Option SessionRef
  | .cacheRecheck _ => none
  | .release _ _ => none
  | pc => pc.holds

/-- The session whose flow a request is in. -/
def Thread.flow : Thread → Option SessionRef
  | .token _ pc => pc.flow
  | _ => none

theorem holds_of_flow {th : Thread} (h : th.flow = some s) : th.holds = some s := by
  cases th with
  | token rq pc =>
    cases pc with
    | cacheRecheck | release => cases h
    | _ => exact h
  | _ => cases h

/-- **Single flight.** In every run at most one request at a time is inside the flow of a
session; the semaphore is taken exactly while a request is between its `Acquire` and its
`Release`, and a `Release` frees no other request's slot. Once a token has been stored it
stays in the cache until it expires or another one is stored in its place, and as long as
it is there every request of the session for the same resource that passes the semaphore
returns it and starts no flow. -/
theorem single_flight (cfg : Config) (as : List Action) (st : State)
    (hrun : run (step cfg) {} as = some st) :
    (∀ (i j : ℕ) (th th' : Thread) s, st.threads[i]? = some th → st.threads[j]? = some th' →
      th.flow = some s → th'.flow = some s → i = j) ∧
    (∀ s o, st.shared.sm.object s = some o → (o.acquisitionSemaphore = true ↔
      ∃ (i : ℕ) (th : Thread), st.threads[i]? = some th ∧ th.holds = some s)) ∧
    (∀ (i : ℕ) rq s r st', st.threads[i]? = some (.token rq (.release s r)) →
      step cfg st (.advance i .proceed) = some st' →
      st.shared.semaphore s = some true ∧ st'.shared.semaphore s = some false ∧
        ∀ (j : ℕ) (th : Thread), st'.threads[j]? = some th → th.holds ≠ some s) ∧
    (∀ (i : ℕ) rq s t st₁, st.threads[i]? = some (.token rq (.setToken s t)) →
      step cfg st (.advance i .proceed) = some st₁ →
      ∃ e, st₁.shared.cache.entry rq.sessionKey rq.resourceURL = some e ∧ e.accessToken = t ∧
        ∀ bs st₂, run (step cfg) st₁ bs = some st₂ →
          isTokenExpired st₂.shared.now e.expiresAt = false →
          ((rq.sessionKey, rq.resourceURL) ∉ recorded (step cfg) storedBy st₁ bs →
            st₂.shared.cache.entry rq.sessionKey rq.resourceURL = some e) ∧
          (st₂.shared.cache.entry rq.sessionKey rq.resourceURL = some e →
            ∀ (j : ℕ) rq' ch st₃, st₂.threads[j]? = some (.token rq' (.cacheRecheck s)) →
              rq'.resourceURL = rq.resourceURL → step cfg st₂ (.advance j ch) = some st₃ →
              st₃.threads[j]? = some (.token rq' (.release s (.ok t))))) := by
  have hsf := singleFlight_run hrun
  refine ⟨?_, ?_, ?_, ?_⟩
  · intro i j th th' s hi hj hs hs'
    exact hsf.unique i j th th' s hi hj (holds_of_flow hs) (holds_of_flow hs')
  · intro s o ho
    have hsem : st.shared.semaphore s = some o.acquisitionSemaphore := by
      rw [semaphore, core, ho]
      rfl
    constructor
    · intro htaken
      exact occupied_run hrun s (by rw [hsem, htaken])
    · rintro ⟨i, th, hi, hhold⟩
      exact some.inj (hsem.symm.trans (hsf.taken i _ s hi hhold))
  · intro i rq s r st' hi hs
    exact free_of_release hsf hi hs
  · intro i rq s t st₁ hi hs
    have hp₁ := pointed_step (pointed_run hrun) hs
    have hi₁ := keyAt_step ((pointed_run hrun).threads _ (mem_of_getElem? hi) s _ rfl) hs
    have he := entry_of_setToken (pointed_run hrun) hi hs
    refine ⟨_, he, rfl, fun bs st₂ hrun₂ hlive => ⟨fun hns => ?_, fun he₂ => ?_⟩⟩
    · exact entry_of_not_stored hrun₂ he hns hlive
    · intro j rq' ch st₃ hj hres hs₃
      -- both requests have their pointer from the same key
      have hp₂ : Pointed st₂ ∧ st₂.shared.sm.KeyAt s rq.sessionKey :=
        run_invariant_unguarded (I := fun st => Pointed st ∧ st.shared.sm.KeyAt s rq.sessionKey)
          (fun _ _ _ h hs => ⟨pointed_step h.1 hs, keyAt_step h.2 hs⟩) ⟨hp₁, hi₁⟩ hrun₂
      have hkey := hp₂.2.unique (hp₂.1.threads _ (mem_of_getElem? hj) s rq'.sessionKey rfl)
      rw [hkey, ← hres] at he₂
      exact release_of_recheck hj he₂ hlive hs₃

/-! ### A queued request -/

/-- A request for a resource, under a key. -/
def mcpRequest : TokenRequest where
  sessionKey := "key"
  userID := "alice"
  resourceURL := "https://mcp"

/-- Two requests for one resource: request `0` is through its flow and about to store its
token, request `1` queues on the semaphore, and request `2` is the callback. -/
def waitingRun : List Action := List.flatten
  [[.createSession "key" "alice" "https://backend", .getToken mcpRequest, .getToken mcpRequest],
   List.replicate 5 (.advance 0 .proceed), List.replicate 4 (.advance 1 .proceed),
   [.advance 0 .proceed, .advance 0 (.discovered
      { authEndpoint := "https://idp/authorize", tokenEndpoint := "https://idp/token",
        scopes := [] }),
    .advance 0 (.generated { verifier := "v", challenge := "c", method := "S256" }),
    .advance 0 (.nonce "n"), .advance 0 .proceed, .advance 0 .proceed,
    .callback { code := "code", state := "key.n", error := "", errorDescription := "" },
    .advance 2 .proceed, .advance 2 .proceed, .advance 0 .proceed, .advance 0 (.token "T")]]

/-- Request `0` is the only one in the flow of the session. -/
theorem single_flight_waiting :
    ∃ st th, run (step hourConfig) {} waitingRun = some st ∧ st.threads[0]? = some th ∧
      th.flow = some 0 ∧
      ∀ (j : ℕ) (th' : Thread), st.threads[j]? = some th' → th'.flow = some 0 → 0 = j := by
  have hrun : ((run (step hourConfig) {} waitingRun).any fun st =>
      (st.threads[0]?).any fun th => th.flow = some 0) = true := by decide +kernel
  obtain ⟨st, hst, hflow⟩ := any_eq_true _ _ |>.mp hrun
  obtain ⟨th, hth, hflow⟩ := any_eq_true _ _ |>.mp hflow
  have hflow := of_decide_eq_true hflow
  refine ⟨st, th, hst, hth, hflow, fun j th' hj hflow' => ?_⟩
  exact (single_flight hourConfig waitingRun st hst).1 0 j th th' 0 hth hj hflow hflow'

end Rossoctl.Broker
