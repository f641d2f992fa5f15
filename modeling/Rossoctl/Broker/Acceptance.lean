import Rossoctl.Broker.Transactions

/-!
# Which callbacks are accepted

`CompleteOAuth` puts the code into the channel of the session's active transaction, and
reports a success whenever there is room. The code should go to a flow that waits for it:
one that has published the authorization URL and has not returned
(`Rossoctl.Broker.Attends`), and only once. But the transaction stays in the session when
its flow fails, with an empty channel that nobody reads any more, and after the one code has
been taken out there is room for another.

`Rossoctl.Broker.accepted_iff` says when a success is deserved. What decides is whether the
transaction's URL has been published, what its status says, and whether a request is already
exchanging a code of it; `CompleteOAuth` looks at none of the three.
-/

namespace Rossoctl.Broker

open List

/-! ### What an acceptance should mean -/

/-- The transaction whose code a token request waits for: its authorization URL is
published, and the request has not returned. -/
def Thread.awaits (b : Shared) : Thread → Option TxRef
  | .token _ (.enterWait s _ _) => b.activeTx s
  | .token _ (.wait _ _ _ tx) => some tx
  | _ => none

/-- **A flow attends to a transaction**: it is in its completion wait. -/
def Attends (st : State) (tx : TxRef) : Prop :=
  ∃ th ∈ st.threads, th.awaits st.shared = some tx

instance (st : State) (tx : TxRef) : Decidable (Attends st tx) :=
  inferInstanceAs (Decidable (∃ th ∈ st.threads, th.awaits st.shared = some tx))

/-- The transaction whose code a token request is exchanging. -/
def Thread.exchanging : Thread → Option TxRef
  | .token _ (.exchange _ _ _ tx _) => some tx
  | _ => none

/-- The transaction whose authorization URL a step publishes. -/
def publishNotes (st : State) : Action → List TxRef
  | .advance i .proceed =>
    match st.threads[i]? with
    | some (.token _ (.publish s _ _ _)) => (st.shared.activeTx s).toList
    | _ => []
  | _ => []

/-! ### The invariant -/

/-- The channel has not been read. -/
def Stage.unread : Stage → Bool
  | .preparing => true
  | .waiting => true
  | _ => false

/-- **The transactions and what has been published of them**: a published transaction that
is still waiting for its code has its owner in the flow, past the publication, and a code
that came to an owner who has not read its channel is still there. -/
structure Attended (st : State) (ns : List TxRef) : Prop where
  owned : FlowsOwn st
  delivered : ∀ d ∈ st.shared.deliveries, d.tx < st.shared.txs.length
  bounded : ∀ tx ∈ ns, tx < st.shared.txs.length
  unread : ∀ (i : ℕ) rq pc s tx t, st.threads[i]? = some (.token rq pc) →
    pc.stage.unread = true → pc.Own st.shared s tx t → t.completionChan = none →
    ∀ d ∈ st.shared.deliveries, d.tx ≠ tx
  published : ∀ (i : ℕ) rq pc s tx t, st.threads[i]? = some (.token rq pc) →
    pc.stage.published = true → pc.Own st.shared s tx t → tx ∈ ns
  attended : ∀ tx t, tx ∈ ns → st.shared.txs[tx]? = some t → t.status = .waitingCode →
    ∃ (i : ℕ) (rq : TokenRequest) (pc : TokenPc) (s : SessionRef),
      st.threads[i]? = some (.token rq pc) ∧ pc.stage.published = true ∧ pc.Own st.shared s tx t

variable {cfg : Config} {b b' : Shared} {rq : TokenRequest} {pc pc' : TokenPc} {ch : Choice}
  {s : SessionRef} {tx : TxRef} {t : OAuthTransaction} {st st' : State} {a : Action}
  {ns : List TxRef}

theorem FlowStep.deliveries (h : FlowStep cfg b rq pc ch b' pc') :
    b'.deliveries = b.deliveries := by
  cases h with
  | outside _ _ _ hdel => exact hdel
  | abandon _ _ _ _ hb => rcases hb with rfl | rfl <;> rfl
  | conclude _ _ _ _ _ _ hdel => exact hdel
  | _ => rfl

/-- The owner of an unread channel after a move: it has just installed its transaction, or
owned it before, with the same channel. -/
theorem FlowStep.unread (h : FlowStep cfg b rq pc ch b' pc')
    (hown : pc.stage ≠ .outside → ∃ s tx t, pc.Own b s tx t)
    (hheld : ∀ s, pc.holds = some s → (b.sm.core s).isSome) (hin : pc'.stage.unread = true)
    (h' : pc'.Own b' s tx t) : tx = b.txs.length ∨
      ∃ t₀, pc.stage.unread = true ∧ pc.Own b s tx t₀ ∧ t₀.completionChan = t.completionChan := by
  cases h with
  | outside _ hout | conclude _ _ _ hout =>
    rw [hout] at hin
    cases hin
  | abandon | receive => cases hin
  | @install s₀ d p =>
    obtain rfl : s₀ = s := Option.some.inj h'.holds
    have hact := activeTx_installTx s₀ (newTx rq d p) (hheld s₀ rfl)
    exact .inl (Option.some.inj (h'.active.symm.trans hact))
  | @build s₀ d p tx₀ htx url n =>
    obtain ⟨s₁, tx₁, t₀, hown₀⟩ := hown (by simp [TokenPc.stage])
    cases h'.holds
    cases hown₀.holds
    cases htx.symm.trans h'.active
    cases htx.symm.trans hown₀.active
    have heq := (txs_modify_self hown₀.entry _).symm.trans h'.entry
    exact .inr ⟨t₀, rfl, hown₀, by rw [← Option.some.inj heq]; rfl⟩
  | @publish s₀ d p url hempty =>
    obtain ⟨s₁, tx₁, t₀, hown₀⟩ := hown (by simp [TokenPc.stage])
    cases h'.holds
    cases hown₀.holds
    have hact := h'.active
    rw [activeTx_modifySession, if_pos rfl] at hact
    cases hown₀.active.symm.trans hact
    exact .inr ⟨t₀, rfl, hown₀, by rw [Option.some.inj (hown₀.entry.symm.trans h'.entry)]⟩
  | @enter s₀ d p tx₀ htx =>
    obtain ⟨s₁, tx₁, t₀, hown₀⟩ := hown (by simp [TokenPc.stage])
    cases h'.holds
    cases hown₀.holds
    cases hown₀.active.symm.trans h'.active
    exact .inr ⟨t₀, rfl, hown₀, by rw [Option.some.inj (hown₀.entry.symm.trans h'.entry)]⟩

variable {i : ℕ}

theorem publishNotes_eq_nil (hi : st.threads[i]? = some (.token rq pc))
    (h : ch = .proceed → ∀ s d p url, pc ≠ .publish s d p url) :
    publishNotes st (.advance i ch) = [] := by
  cases ch with
  | proceed =>
    rw [publishNotes, hi]
    cases pc with
    | publish s d p url => exact absurd rfl (h rfl s d p url)
    | _ => rfl
  | _ => rfl

theorem publishNotes_publish {d : Discovery} {p : PKCEChallenge} {url : String}
    (hi : st.threads[i]? = some (.token rq (.publish s d p url)))
    (htx : st.shared.activeTx s = some tx) : publishNotes st (.advance i .proceed) = [tx] := by
  rw [publishNotes, hi]
  dsimp only
  rw [htx]
  rfl

/-- **A published transaction keeps its owner** when a token request moves: if it is not the
one that moves, it is not disturbed. -/
theorem Attended.other (h : Attended st ns) (hi : st.threads[i]? = some (.token rq pc))
    (hstep : TokenStep cfg st.shared rq pc b' pc')
    (hflow : FlowStep cfg st.shared rq pc ch b' pc') (htx : tx ∈ ns)
    (ht : st.shared.txs[tx]? = some t) (hst : t.status = .waitingCode)
    (hne : pc.stage.published = true → ∀ s, st.shared.activeTx s = some tx → pc.holds ≠ some s) :
    ∃ (j : ℕ) (rq' : TokenRequest) (pc₂ : TokenPc) (s : SessionRef),
      (st.threads.set i (.token rq pc'))[j]? = some (.token rq' pc₂) ∧
      pc₂.stage.published = true ∧ pc₂.Own b' s tx t := by
  obtain ⟨j, rq', pc₂, s, hj, hpub, hown⟩ := h.attended tx t htx ht hst
  have hij : i ≠ j := by
    rintro rfl
    obtain ⟨rfl, rfl⟩ := Thread.token.inj (Option.some.inj (hi.symm.trans hj))
    exact hne hpub s hown.active hown.holds
  refine ⟨j, rq', pc₂, s, ?_, hpub, (h.owned.own_iff hi hstep hflow hj hij).mpr hown⟩
  rw [List.getElem?_set_ne hij, hj]

theorem Attended.attended_token (h : Attended st ns) (hi : st.threads[i]? = some (.token rq pc))
    (hs : stepToken cfg st.shared rq pc ch = some (b', pc'))
    (htx : tx ∈ ns ++ publishNotes st (.advance i ch)) (ht : b'.txs[tx]? = some t)
    (hst : t.status = .waitingCode) :
    ∃ (j : ℕ) (rq' : TokenRequest) (pc₂ : TokenPc) (s : SessionRef),
      (st.threads.set i (.token rq pc'))[j]? = some (.token rq' pc₂) ∧
      pc₂.stage.published = true ∧ pc₂.Own b' s tx t := by
  have hstep := tokenStep_of_stepToken hs
  have hflow := h.owned.flowStep hi hs
  have hown := h.owned.own i rq pc hi
  have hset : (st.threads.set i (.token rq pc'))[i]? = some (.token rq pc') := by
    rw [getElem?_set_self', hi]
    rfl
  -- while it is prepared, a transaction is not published yet
  have fresh : ∀ {s : SessionRef} {tx₀ : TxRef}, pc.stage = .preparing → pc.holds = some s →
      st.shared.activeTx s = some tx₀ → tx₀ ∉ ns := by
    intro s tx₀ hprep hs htx₀ hmem
    obtain ⟨s', tx', t', hown'⟩ := hown (by rw [hprep]; simp)
    cases hs.symm.trans hown'.holds
    cases htx₀.symm.trans hown'.active
    obtain ⟨j, rq', pc₂, s₂, hj, hpub, hown₂⟩ :=
      h.attended tx₀ t' hmem hown'.entry hown'.status
    obtain rfl := h.owned.unique hi hj hown' hown₂
    obtain ⟨rfl, rfl⟩ := Thread.token.inj (Option.some.inj (hi.symm.trans hj))
    rw [hprep] at hpub
    cases hpub
  -- a request that publishes nothing leaves no note
  have quiet : (ch = .proceed → ∀ s d p url, pc ≠ .publish s d p url) → tx ∈ ns := by
    intro hne
    rwa [publishNotes_eq_nil hi hne, append_nil] at htx
  have hprep : pc.stage = .preparing → pc.stage.published ≠ true := by
    intro h
    rw [h]
    simp [Stage.published]
  cases hflow with
  | outside hout _ htxs =>
    rw [htxs] at ht
    refine h.other hi hstep (h.owned.flowStep hi hs) (quiet ?_) ht hst fun hpub => ?_
    · rintro - s d p url rfl
      cases hout
    · exact absurd hout (Stage.ne_outside_of_published hpub)
  | install =>
    have hmem := quiet (by simp)
    rw [Shared.installTx, getElem?_append_left (h.bounded tx hmem)] at ht
    exact h.other hi hstep (h.owned.flowStep hi hs) hmem ht hst fun hpub => by
      simp [TokenPc.stage, Stage.published] at hpub
  | @build s₀ d p tx₀ htx₀ url n =>
    have hmem := quiet (by simp)
    have hne : tx₀ ≠ tx := by
      rintro rfl
      exact fresh rfl rfl htx₀ hmem
    rw [txs_modifyTx, if_neg hne] at ht
    exact h.other hi hstep (h.owned.flowStep hi hs) hmem ht hst fun hpub => absurd hpub (hprep rfl)
  | @abandon _ _ s₀ tx₀ _ hpre hc hs₀ htx₀ hb =>
    have hmem := quiet fun hp => absurd hp hc
    have hne : tx₀ ≠ tx := by
      rintro rfl
      exact fresh hpre hs₀ htx₀ hmem
    have ht' : st.shared.txs[tx]? = some t := by
      rcases hb with rfl | rfl
      · exact ht
      · rwa [txs_modifyTx, if_neg hne] at ht
    exact h.other hi hstep (h.owned.flowStep hi hs) hmem ht' hst fun hpub =>
      absurd hpub (hprep hpre)
  | @publish s₀ d p url hempty =>
    obtain ⟨s₁, tx₁, t₁, hown₁⟩ := hown (by simp [TokenPc.stage])
    cases hown₁.holds
    rw [publishNotes_publish hi hown₁.active] at htx
    rcases mem_append.mp htx with hmem | hnew
    · exact h.other hi hstep (h.owned.flowStep hi hs) hmem ht hst fun hpub =>
        absurd hpub (hprep rfl)
    · obtain rfl := mem_singleton.mp hnew
      refine ⟨i, rq, _, s₀, hset, rfl, rfl, ?_, ht, hst, trivial⟩
      rw [activeTx_modifySession, if_pos rfl]
      exact hown₁.active
  | @enter s₀ d p tx₀ htx₀ =>
    have hmem := quiet (by simp)
    by_cases heq : tx₀ = tx
    · subst heq
      exact ⟨i, rq, _, s₀, hset, rfl, rfl, htx₀, ht, hst, rfl⟩
    · refine h.other hi hstep (h.owned.flowStep hi hs) hmem ht hst fun _ s hs' hh => heq ?_
      cases hh
      exact Option.some.inj (htx₀.symm.trans hs')
  | @receive s₀ d p tx₀ c htx₀ =>
    have hmem := quiet (by simp)
    by_cases heq : tx₀ = tx
    · subst heq
      exact ⟨i, rq, _, s₀, hset, rfl, rfl, htx₀, ht, hst, rfl⟩
    · rw [txs_modifyTx, if_neg heq] at ht
      refine h.other hi hstep (h.owned.flowStep hi hs) hmem ht hst fun _ s hs' hh => heq ?_
      cases hh
      exact Option.some.inj (htx₀.symm.trans hs')
  | @conclude _ _ _ s₀ tx₀ _ v hc hs₀ htx₀ _ hv _ _ htxs =>
    have hmem : tx ∈ ns := by
      refine quiet ?_
      rintro - s d p url rfl
      cases hc
    have hmod : (st.shared.txs.modify tx₀ fun t => { t with status := v })[tx]? = _ :=
      txs_modifyTx st.shared tx₀ tx _
    rw [htxs, hmod] at ht
    split at ht
    · -- the transaction that is concluded is not waiting any more
      obtain ⟨t₀, -, rfl⟩ := Option.map_eq_some_iff.mp ht
      exact absurd hst hv
    · rename_i hne
      refine h.other hi hstep (h.owned.flowStep hi hs) hmem ht hst fun _ s hs' hh => hne ?_
      cases hs₀.symm.trans hh
      exact Option.some.inj (htx₀.symm.trans hs')

/-- What a request has published it had published before, or publishes with this step. -/
theorem FlowStep.published (h : FlowStep cfg b rq pc ch b' pc') (hin : pc'.stage.published = true)
    (hown : pc.stage ≠ .outside → ∃ s tx t, pc.Own b s tx t) (h' : pc'.Own b' s tx t) :
    (pc.stage.published = true ∧ ∃ t₀, pc.Own b s tx t₀) ∨
      ((∃ d p url, pc = .publish s d p url) ∧ ch = .proceed ∧ b.activeTx s = some tx) := by
  cases h with
  | outside _ hout | conclude _ _ _ hout =>
    rw [hout] at hin
    cases hin
  | abandon | install | build => cases hin
  | @publish s₀ d p url hempty =>
    cases h'.holds
    have hact := h'.active
    rw [activeTx_modifySession, if_pos rfl] at hact
    exact .inr ⟨⟨d, p, url, rfl⟩, rfl, hact⟩
  | @enter s₀ | @receive s₀ =>
    obtain ⟨s₁, tx₁, t₀, hown₀⟩ := hown (by simp [TokenPc.stage])
    cases h'.holds
    cases hown₀.holds
    cases hown₀.active.symm.trans h'.active
    exact .inl ⟨rfl, t₀, hown₀⟩

theorem mem_publishNotes (h : tx ∈ publishNotes st a) : ∃ s, st.shared.activeTx s = some tx := by
  unfold publishNotes at h
  split at h
  · split at h
    · exact ⟨_, Option.mem_toList.mp h⟩
    · exact absurd h not_mem_nil
  · exact absurd h not_mem_nil

theorem Attended.token (h : Attended st ns) (hi : st.threads[i]? = some (.token rq pc))
    (hs : stepToken cfg st.shared rq pc ch = some (b', pc')) :
    Attended { shared := b', threads := st.threads.set i (.token rq pc') }
      (ns ++ publishNotes st (.advance i ch)) := by
  have hstep := tokenStep_of_stepToken hs
  have hflow := h.owned.flowStep hi hs
  refine ⟨h.owned.token hi hs, fun d hd => ?_, fun tx htx => ?_,
    fun j rq' pc₂ s tx t hj hun hown hnone => ?_, fun j rq' pc₂ s tx t hj hpub hown => ?_,
    fun tx t htx ht hst => h.attended_token hi hs htx ht hst⟩
  · rw [hflow.deliveries] at hd
    exact (h.delivered d hd).trans_le hflow.length_le
  · refine lt_of_lt_of_le ?_ hflow.length_le
    rcases mem_append.mp htx with hold | hnew
    · exact h.bounded tx hold
    · obtain ⟨s, hact⟩ := mem_publishNotes hnew
      exact h.owned.bounded s tx hact
  · show ∀ d ∈ b'.deliveries, d.tx ≠ tx
    rw [hflow.deliveries]
    rcases eq_or_ne i j with rfl | hne
    · obtain ⟨rfl, rfl⟩ := Thread.token.inj (getElem?_set_eq hj)
      have hheld : ∀ s, pc.holds = some s → (st.shared.sm.core s).isSome := by
        intro s hs'
        obtain ⟨c, hc, -⟩ := Option.map_eq_some_iff.mp (h.owned.single.taken i _ s hi hs')
        rw [hc]
        rfl
      rcases hflow.unread (h.owned.own i _ _ hi) hheld hun hown with rfl | ⟨t₀, hun₀, hown₀, hchan⟩
      · exact fun d hd => (h.delivered d hd).ne
      · exact h.unread i _ _ s tx t₀ hi hun₀ hown₀ (hchan.trans hnone)
    · have hj' := getElem?_set_ne hj hne
      exact h.unread j rq' pc₂ s tx t hj' hun
        ((h.owned.own_iff hi hstep hflow hj' hne).mp hown) hnone
  · rcases eq_or_ne i j with rfl | hne
    · obtain ⟨rfl, rfl⟩ := Thread.token.inj (getElem?_set_eq hj)
      rcases hflow.published hpub (h.owned.own i _ _ hi) hown with
        ⟨hpub₀, t₀, hown₀⟩ | ⟨⟨d, p, url, rfl⟩, rfl, hact⟩
      · exact mem_append_left _ (h.published i _ _ s tx t₀ hi hpub₀ hown₀)
      · rw [publishNotes_publish hi hact]
        exact mem_append_right _ (mem_singleton_self tx)
    · have hj' := getElem?_set_ne hj hne
      exact mem_append_left _
        (h.published j rq' pc₂ s tx t hj' hpub ((h.owned.own_iff hi hstep hflow hj' hne).mp hown))

/-! ### The other moves -/

/-- A step that changes of the transactions at most the channels, and that leaves the
requests in a flow where they are. -/
theorem Attended.frame (h : Attended st ns) (howned : FlowsOwn st')
    (hact : ∀ s, st'.shared.activeTx s = st.shared.activeTx s)
    {g : TxRef → OAuthTransaction → OAuthTransaction}
    (htxs : ∀ tx : TxRef, st'.shared.txs[tx]? = (st.shared.txs[tx]?).map (g tx))
    (hlen : st'.shared.txs.length = st.shared.txs.length)
    (hsame : ∀ tx t, OAuthTransaction.Same t (g tx t))
    (hbound : ∀ d ∈ st'.shared.deliveries, d.tx < st.shared.txs.length)
    (hunread : ∀ tx t, (g tx t).completionChan = none → t.completionChan = none ∧
      ∀ d ∈ st'.shared.deliveries, d.tx = tx → d ∈ st.shared.deliveries)
    (hth : ∀ (i : ℕ) rq pc, pc.stage ≠ .outside →
      (st'.threads[i]? = some (.token rq pc) ↔ st.threads[i]? = some (.token rq pc))) :
    Attended st' ns := by
  have hback : ∀ {pc : TokenPc} {s : SessionRef} {tx : TxRef} {t' : OAuthTransaction},
      pc.Own st'.shared s tx t' → ∃ t, t' = g tx t ∧ pc.Own st.shared s tx t := by
    intro pc s tx t' ho
    have hentry := ho.entry
    rw [htxs] at hentry
    obtain ⟨t, ht, rfl⟩ := Option.map_eq_some_iff.mp hentry
    refine ⟨t, rfl, ho.of_same (hact s).symm ht ?_⟩
    exact ⟨(hsame tx t).status.symm, (hsame tx t).authURL.symm⟩
  have hout : ∀ {g : Stage}, g.unread = true → g ≠ .outside := by
    rintro g hg rfl
    cases hg
  refine ⟨howned, fun d hd => hlen ▸ hbound d hd, fun tx htx => hlen ▸ h.bounded tx htx,
    fun i rq pc s tx t' hi hun ho hnone d hd heq => ?_, fun i rq pc s tx t' hi hpub ho => ?_,
    fun tx t' htx ht hst => ?_⟩
  · obtain ⟨t, rfl, hown⟩ := hback ho
    obtain ⟨hnone', hsub⟩ := hunread tx t hnone
    exact h.unread i rq pc s tx t ((hth i rq pc (hout hun)).mp hi) hun hown hnone' d
      (hsub d hd heq) heq
  · obtain ⟨t, -, hown⟩ := hback ho
    exact h.published i rq pc s tx t
      ((hth i rq pc (Stage.ne_outside_of_published hpub)).mp hi) hpub hown
  · rw [htxs] at ht
    obtain ⟨t, ht₀, rfl⟩ := Option.map_eq_some_iff.mp ht
    obtain ⟨i, rq, pc, s, hi, hpub, hown⟩ :=
      h.attended tx t htx ht₀ ((hsame tx t).status.symm.trans hst)
    refine ⟨i, rq, pc, s, (hth i rq pc (Stage.ne_outside_of_published hpub)).mpr hi, hpub, ?_⟩
    exact hown.of_same (hact s) ((htxs tx).trans ht) (hsame tx t)

theorem set_iff_of_ne {ths : List Thread} {j : ℕ} {th th' : Thread} (hi : ths[i]? = some th)
    (hth : ∀ rq pc, th ≠ .token rq pc) (hth' : ∀ rq pc, th' ≠ .token rq pc) :
    (ths.set i th')[j]? = some (.token rq pc) ↔ ths[j]? = some (.token rq pc) := by
  refine ⟨token_of_set hth', fun hj => ?_⟩
  rw [List.getElem?_set_ne, hj]
  rintro rfl
  exact hth rq pc (Option.some.inj (hi.symm.trans hj))

/-- **Every step keeps the published transactions attended.** -/
theorem attended_step (h : Attended st ns) (hs : step cfg st a = some st') :
    Attended st' (ns ++ publishNotes st a) := by
  have howned := flowsOwn_step h.owned hs
  by_cases htok : ∃ i ch rq pc, a = .advance i ch ∧ st.threads[i]? = some (.token rq pc)
  · obtain ⟨i, ch, rq, pc, rfl, hi⟩ := htok
    obtain ⟨b', pc', hstep, rfl⟩ := stepToken_of_step hi hs
    exact h.token hi hstep
  -- only a token request publishes
  have hnotes : publishNotes st a = [] := by
    unfold publishNotes
    split
    · split
      · rename_i hi
        exact absurd ⟨_, _, _, _, rfl, hi⟩ htok
      · rfl
    · rfl
  rw [hnotes, append_nil]
  have keep : (∀ s, st'.shared.activeTx s = st.shared.activeTx s) →
      st'.shared.txs = st.shared.txs → st'.shared.deliveries = st.shared.deliveries →
      (∀ (i : ℕ) rq pc, pc.stage ≠ .outside →
        (st'.threads[i]? = some (.token rq pc) ↔ st.threads[i]? = some (.token rq pc))) →
      Attended st' ns := by
    intro hact htxs hdel hth
    refine h.frame howned hact (g := fun _ => id) (fun tx => ?_) (congrArg List.length htxs)
      (fun _ _ => ⟨rfl, rfl⟩) (hdel ▸ h.delivered) (fun _ _ hnone => ⟨hnone, fun d hd _ => ?_⟩) hth
    · rw [htxs, Option.map_id, id]
    · exact hdel ▸ hd
  cases move_of_step hs with
  | tick | refuse | cleanup => exact keep (fun _ => rfl) rfl rfl fun _ _ _ _ => Iff.rfl
  | create hc => exact keep (activeTx_createSession hc) rfl rfl fun _ _ _ _ => Iff.rfl
  | spawn hnew =>
    refine keep (fun _ => rfl) rfl rfl fun i rq pc hin => ⟨fun hj => ?_, fun hj => ?_⟩
    · exact token_of_append hnew hj hin
    · exact List.getElem?_append_left (List.getElem?_eq_some_iff.mp hj).1 ▸ hj
  | token hi => exact absurd ⟨_, _, _, _, rfl, hi⟩ htok
  | @deliver i ch crq k u b' hi hdel =>
    obtain ⟨-, s, tx, t, -, hact, -, -, rfl⟩ := completeOAuth_ok hdel
    refine h.frame howned (fun _ => rfl) (g := fun tx' t =>
        if tx = tx' then { t with completionChan := some ⟨crq.code, crq.state, none⟩ } else t)
      (fun tx' => ?_) (length_modify ..) (fun tx' t => ?_) (fun d hd => ?_)
      (fun tx' t hnone => ?_) fun _ _ _ _ => set_iff_of_ne hi (by simp) (by simp)
    · refine (txs_modifyTx _ tx tx' _).trans ?_
      split
      · rfl
      · exact Option.map_id'.symm
    · split <;> exact ⟨rfl, rfl⟩
    · rcases mem_append.mp hd with hold | hnew
      · exact h.delivered d hold
      · rw [mem_singleton.mp hnew]
        exact h.owned.bounded s tx hact
    · -- the channel that receives the code is not empty
      split at hnone
      · cases hnone
      · rename_i hne
        refine ⟨hnone, fun d hd heq => (mem_append.mp hd).resolve_right fun hnew => hne ?_⟩
        rw [← heq, mem_singleton.mp hnew]
  | @other i ch th th' sm' hi hq hother hth =>
    exact keep (activeTx_congr hq.core) rfl rfl fun _ _ _ _ =>
      set_iff_of_ne hi hth hother.ne_token
  | quiet hq => exact keep (activeTx_congr hq.core) rfl rfl fun _ _ _ _ => Iff.rfl

theorem attended_run {as : List Action} (hrun : run (step cfg) {} as = some st) :
    Attended st (recorded (step cfg) publishNotes {} as) := by
  refine run_invariant_recorded_unguarded (fun _ _ _ _ h hs => attended_step h hs) ?_ hrun
  exact ⟨flowsOwn_init, fun _ h => absurd h not_mem_nil, fun _ h => absurd h not_mem_nil,
    fun _ _ _ _ _ _ h => absurd h (by simp), fun _ _ _ _ _ _ h => absurd h (by simp),
    fun _ _ h => absurd h not_mem_nil⟩

/-! ### Accepted callbacks -/

/-- The flows that attend to a transaction are its owners in the wait. -/
theorem attends_iff (h : FlowsOwn st) : Attends st tx ↔
    ∃ (i : ℕ) (rq : TokenRequest) (pc : TokenPc) (s : SessionRef) (t : OAuthTransaction),
      st.threads[i]? = some (.token rq pc) ∧ pc.stage = .waiting ∧ pc.Own st.shared s tx t := by
  constructor
  · rintro ⟨th, hmem, haw⟩
    obtain ⟨i, hi⟩ := getElem?_of_mem hmem
    cases th with
    | token rq pc =>
      have hstage : pc.stage = .waiting := by
        cases pc with
        | enterWait | wait => rfl
        | _ => cases haw
      obtain ⟨s, tx', t, hown⟩ := h.own i rq pc hi (by rw [hstage]; simp)
      refine ⟨i, rq, pc, s, t, hi, hstage, ?_⟩
      suffices heq : tx' = tx by exact heq ▸ hown
      cases pc with
      | enterWait s' d p =>
        cases hown.holds
        exact Option.some.inj (hown.active.symm.trans haw)
      | wait s' d p tx₀ => exact (show tx₀ = tx' from hown.agrees) ▸ Option.some.inj haw
      | _ => cases hstage
    | _ => cases haw
  · rintro ⟨i, rq, pc, s, t, hi, hstage, hown⟩
    refine ⟨_, mem_of_getElem? hi, ?_⟩
    cases pc with
    | enterWait s' d p =>
      cases hown.holds
      exact hown.active
    | wait s' d p tx' => exact congrArg some hown.agrees
    | _ => cases hstage

/-- A callback is answered with a success when `CompleteOAuth` returns without an error. -/
theorem stepCallback_success {crq : CallbackRequest} {k u : String}
    (h : stepCallback b crq (.complete k u) ch = some (b', .returned .success)) :
    completeOAuth b k u crq.code crq.state = .ok b' := by
  unfold stepCallback at h
  split at h
  · rename_i heq
    cases heq
  · rename_i heq
    obtain ⟨rfl, rfl⟩ := CallbackPc.complete.inj heq
    split at h
    · obtain ⟨-, heq⟩ := Prod.mk.inj (Option.some.inj h)
      cases heq
    · rename_i hok
      rw [hok, (Prod.mk.inj (Option.some.inj h)).1]
  · cases h

/-- **When a callback deserves its success.** In every run, `CompleteOAuth` succeeds with a
transaction that a flow attends to and that has not received a code before, exactly if the
transaction's authorization URL has been published, its status says that it is waiting, and
no request is exchanging a code of it. -/
theorem accepted_iff (cfg : Config) (as : List Action) (st : State)
    (hrun : run (step cfg) {} as = some st) (i : ℕ) (ch : Choice) (st' : State)
    (hstep : step cfg st (.advance i ch) = some st') (rq : CallbackRequest) (k u : String)
    (hi : st.threads[i]? = some (.callback rq (.complete k u)))
    (hok : st'.threads[i]? = some (.callback rq (.returned .success))) :
    ∃ s tx, st.shared.sm.sessions.lookup k = some s ∧ st.shared.activeTx s = some tx ∧
      ((Attends st tx ∧ ∀ d ∈ st.shared.deliveries, d.tx ≠ tx) ↔
        (tx ∈ recorded (step cfg) publishNotes {} as ∧
          (st.shared.txs[tx]?).map OAuthTransaction.status = some .waitingCode ∧
          ∀ th ∈ st.threads, th.exchanging ≠ some tx)) := by
  have h := attended_run hrun
  obtain ⟨s, tx, t, hk, hact, ht, hnone⟩ : ∃ s tx t, st.shared.sm.sessions.lookup k = some s ∧
      st.shared.activeTx s = some tx ∧ st.shared.txs[tx]? = some t ∧ t.completionChan = none := by
    rw [step, hi] at hstep
    obtain ⟨⟨b', th'⟩, hth, rfl⟩ := Option.map_eq_some_iff.mp hstep
    obtain ⟨⟨b₁, pc'⟩, hcb, heq⟩ := Option.map_eq_some_iff.mp hth
    cases heq
    obtain ⟨-, rfl⟩ := Thread.callback.inj (getElem?_set_eq hok)
    have hcomplete := stepCallback_success hcb
    obtain ⟨-, s, tx, t, hk, hact, ht, hnone, -⟩ := completeOAuth_ok hcomplete
    exact ⟨s, tx, t, hk, hact, ht, hnone⟩
  refine ⟨s, tx, hk, hact, ?_⟩
  rw [attends_iff h.owned, ht]
  constructor
  · rintro ⟨⟨j, rq', pc, s', t', hj, hwait, hown⟩, -⟩
    have hpub : pc.stage.published = true := by rw [hwait]; rfl
    cases ht.symm.trans hown.entry
    refine ⟨h.published j rq' pc s' tx t hj hpub hown, congrArg some hown.status, ?_⟩
    -- the owner of a transaction is in one place
    intro th hmem hex
    obtain ⟨l, hl⟩ := getElem?_of_mem hmem
    cases th with
    | token rq₂ pc₂ =>
      cases pc₂ with
      | exchange s₂ d p tx₂ c =>
        obtain rfl : tx₂ = tx := Option.some.inj hex
        obtain ⟨s₃, tx₃, t₃, hown₃⟩ := h.owned.own l _ _ hl (by simp [TokenPc.stage])
        obtain rfl : tx₂ = tx₃ := hown₃.agrees
        obtain rfl := h.owned.unique hj hl hown hown₃
        obtain ⟨-, rfl⟩ := Thread.token.inj (Option.some.inj (hj.symm.trans hl))
        cases hwait
      | _ => cases hex
    | _ => cases hex
  · rintro ⟨hpub, hst, hex⟩
    obtain ⟨j, rq', pc, s', hj, hpc, hown⟩ := h.attended tx t hpub ht (Option.some.inj hst)
    have hwait : pc.stage = .waiting := by
      cases pc with
      | exchange s₀ d p tx₀ c =>
        obtain rfl : tx₀ = tx := hown.agrees
        exact absurd rfl (hex _ (mem_of_getElem? hj))
      | enterWait | wait => rfl
      | _ => cases hpc
    refine ⟨⟨j, rq', pc, s', t, hj, hwait, hown⟩, ?_⟩
    exact h.unread j rq' pc s' tx t hj (by rw [hwait]; rfl) hown hnone

/-- A token request up to its wait for the user, whose event a long-poll has taken. -/
def awaitingRun : List Action := List.flatten [[.createSession "key" "alice" "https://backend",
    .getToken { sessionKey := "key", userID := "alice", resourceURL := "https://mcp" },
    .events "key" "alice"],
   List.replicate 4 (.advance 0 .proceed), flowRun 0 "https://idp" "verifier" "nonce",
   List.replicate 5 (.advance 1 .proceed)]

/-- The callback of that request's transaction. -/
def answer : CallbackRequest where
  code := "code"
  state := "key.nonce"
  error := ""
  errorDescription := ""

/-- That callback, up to the end of its state check. -/
def answeringRun : List Action := [.callback answer, .advance 2 .proceed]

/-- The callback of a flow that waits for it deserves its success. -/
theorem accepted_awaiting : ∃ st st',
    run (step hourConfig) {} (List.flatten [awaitingRun, answeringRun]) = some st ∧
    step hourConfig st (.advance 2 .proceed) = some st' ∧
    st'.threads[2]? = some (.callback answer (.returned .success)) ∧
    Attends st 0 ∧ ∀ d ∈ st.shared.deliveries, d.tx ≠ 0 := by
  have hrun : ((run (step hourConfig) {} (List.flatten [awaitingRun, answeringRun])).any fun st =>
      (step hourConfig st (.advance 2 .proceed)).any fun st' =>
        st.threads[2]? = some (.callback answer (.complete "key" "alice")) &&
        st'.threads[2]? = some (.callback answer (.returned .success)) &&
        st.shared.sm.sessions.lookup "key" = some 0 && st.shared.activeTx 0 = some 0 &&
        (st.shared.txs[0]?).map OAuthTransaction.status = some .waitingCode &&
        st.threads.all fun th => th.exchanging ≠ some 0) = true := by decide +kernel
  obtain ⟨st, hst, hcheck⟩ := Option.any_eq_true _ _ |>.mp hrun
  obtain ⟨st', hst', hcheck⟩ := Option.any_eq_true _ _ |>.mp hcheck
  simp only [Bool.and_eq_true, decide_eq_true_eq, all_eq_true] at hcheck
  obtain ⟨⟨⟨⟨⟨hi, hok⟩, hk⟩, hact⟩, hstatus⟩, hex⟩ := hcheck
  refine ⟨st, st', hst, hst', hok, ?_⟩
  obtain ⟨s, tx, hk', hact', hiff⟩ :=
    accepted_iff hourConfig _ st hst 2 .proceed st' hst' answer "key" "alice" hi hok
  cases hk.symm.trans hk'
  cases hact.symm.trans hact'
  exact hiff.mpr ⟨by decide +kernel, hstatus, hex⟩

/-- **A callback that nobody waits for is accepted**: its flow has timed out and returned. -/
theorem accepted_timedOut : ∃ st st', run (step hourConfig) {} (List.flatten [awaitingRun,
      [.advance 0 .timeout, .advance 0 .proceed], answeringRun]) = some st ∧
    step hourConfig st (.advance 2 .proceed) = some st' ∧
    st.shared.activeTx 0 = some 0 ∧ ¬ Attends st 0 ∧
    st'.threads[2]? = some (.callback answer (.returned .success)) := by
  have hrun : ((run (step hourConfig) {} (List.flatten [awaitingRun,
      [.advance 0 .timeout, .advance 0 .proceed], answeringRun])).any fun st =>
      (step hourConfig st (.advance 2 .proceed)).any fun st' =>
        st.shared.activeTx 0 = some 0 && !decide (Attends st 0) &&
        st'.threads[2]? = some (.callback answer (.returned .success))) = true := by decide +kernel
  obtain ⟨st, hst, hcheck⟩ := Option.any_eq_true _ _ |>.mp hrun
  obtain ⟨st', hst', hcheck⟩ := Option.any_eq_true _ _ |>.mp hcheck
  simp only [Bool.and_eq_true, decide_eq_true_eq, Bool.not_eq_true', decide_eq_false_iff_not]
    at hcheck
  obtain ⟨⟨hact, hnone⟩, hok⟩ := hcheck
  exact ⟨st, st', hst, hst', hact, hnone, hok⟩

end Rossoctl.Broker
