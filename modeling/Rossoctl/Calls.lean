import Mathlib.Logic.Basic

/-!
# Programs that talk to a server

A client that makes requests one after the other, and whose next request depends on the
answers so far, is a tree: `Rossoctl.Calls`. The server is a function on its own state,
and the network may lose a request, or the answer to one, so that the client sees a
failure where the server did nothing, or did all (`Rossoctl.Calls.exec`). Nothing in this
file knows what the requests are.

What holds of every execution is reasoned about backwards, by the weakest precondition
`Rossoctl.Calls.wp`, which goes over the tree (`Rossoctl.Calls.wp_bind`) and covers every
pattern of failures at once (`Rossoctl.Calls.exec_of_wp`). With no response that counts
as a failure it is about the executions in which all goes well.
-/

namespace Rossoctl

/-- **A client**: it is done, or it makes a request and goes on with the answer. -/
inductive Calls (Q R α : Type) where
  | done (a : α)
  | ask (q : Q) (k : R → Calls Q R α)

namespace Calls

variable {Q R α β σ : Type}

/-- One client after the other. -/
def bind : Calls Q R α → (α → Calls Q R β) → Calls Q R β
  | .done a, f => f a
  | .ask q k, f => .ask q fun r => (k r).bind f

instance : Monad (Calls Q R) where
  pure := .done
  bind := bind

/-- A single request. -/
def request (q : Q) : Calls Q R R := .ask q .done

/-- A single request, and what the client makes of the answer. -/
def askFor (q : Q) (read : R → α) : Calls Q R α := .ask q fun r => .done (read r)

/-- What the network does to one request: the client sees a response that is bad, and the
server has seen the request or not. -/
structure Fault (bad : R → Prop) where
  served : Bool
  response : R
  bad_response : bad response

/-- **An execution**: state of the server and result, where the faults, if there are any,
befall the requests one after the other. -/
def exec (serve : σ → Q → σ × R) (bad : R → Prop) :
    List (Option (Fault bad)) → σ → Calls Q R α → σ × α
  | _, s, .done a => (s, a)
  | [], s, .ask q k => exec serve bad [] (serve s q).1 (k (serve s q).2)
  | none :: faults, s, .ask q k => exec serve bad faults (serve s q).1 (k (serve s q).2)
  | some f :: faults, s, .ask q k =>
    exec serve bad faults (if f.served then (serve s q).1 else s) (k f.response)

/-- **The weakest precondition** of a client: the states from which every execution ends
in `post`, whatever bad responses come in between. -/
def wp (serve : σ → Q → σ × R) (bad : R → Prop) (post : σ → α → Prop) : Calls Q R α → σ → Prop
  | .done a, s => post s a
  | .ask q k, s => wp serve bad post (k (serve s q).2) (serve s q).1 ∧
      ∀ r, bad r → wp serve bad post (k r) s ∧ wp serve bad post (k r) (serve s q).1

variable {serve : σ → Q → σ × R} {bad : R → Prop}

theorem wp_bind {post : σ → β → Prop} (c : Calls Q R α) (f : α → Calls Q R β) (s : σ) :
    wp serve bad post (c >>= f) s ↔ wp serve bad (fun s a => wp serve bad post (f a) s) c s := by
  induction c generalizing s with
  | done a => exact Iff.rfl
  | ask q k ih =>
    exact and_congr (ih _ _) (forall_congr' fun r => imp_congr_right fun _ =>
      and_congr (ih r s) (ih r _))

variable {s : σ} {post : σ → α → Prop} {c : Calls Q R α}

theorem wp_mono {post' : σ → α → Prop} (h : ∀ s a, post s a → post' s a)
    (hc : wp serve bad post c s) : wp serve bad post' c s := by
  induction c generalizing s with
  | done a => exact h s a hc
  | ask q k ih => exact ⟨ih _ hc.1, fun r hr => ⟨ih r (hc.2 r hr).1, ih r (hc.2 r hr).2⟩⟩

theorem wp_askFor {q : Q} {read : R → α} (hdone : post (serve s q).1 (read (serve s q).2))
    (hfail : ∀ r, bad r → post s (read r) ∧ post (serve s q).1 (read r)) :
    wp serve bad post (askFor q read) s :=
  ⟨hdone, hfail⟩

/-- Without faults it does not matter which responses would be bad. -/
theorem exec_nil_congr (bad bad' : R → Prop) (c : Calls Q R α) (s : σ) :
    exec serve bad [] s c = exec serve bad' [] s c := by
  induction c generalizing s with
  | done a => rw [exec, exec]
  | ask q k ih =>
    rw [exec, exec]
    exact ih _ _

theorem wp_and {post' : σ → α → Prop} (h : wp serve bad post c s) (h' : wp serve bad post' c s) :
    wp serve bad (fun s a => post s a ∧ post' s a) c s := by
  induction c generalizing s with
  | done a => exact ⟨h, h'⟩
  | ask q k ih =>
    exact ⟨ih _ h.1 h'.1, fun r hr =>
      ⟨ih r (h.2 r hr).1 (h'.2 r hr).1, ih r (h.2 r hr).2 (h'.2 r hr).2⟩⟩

/-- **Soundness**: every execution from a state of the weakest precondition ends in the
postcondition. -/
theorem exec_of_wp (h : wp serve bad post c s) (faults : List (Option (Fault bad))) :
    post (exec serve bad faults s c).1 (exec serve bad faults s c).2 := by
  induction c generalizing s faults with
  | done a =>
    rw [exec]
    exact h
  | ask q k ih =>
    match faults with
    | [] =>
      rw [exec]
      exact ih _ h.1 []
    | none :: faults =>
      rw [exec]
      exact ih _ h.1 faults
    | some f :: faults =>
      obtain ⟨hlost, hserved⟩ := h.2 f.response f.bad_response
      rw [exec]
      cases f.served with
      | true => exact ih _ hserved faults
      | false => exact ih _ hlost faults

theorem wp_anti {bad' : R → Prop} (hbad : ∀ r, bad' r → bad r) (h : wp serve bad post c s) :
    wp serve bad' post c s := by
  induction c generalizing s with
  | done a => exact h
  | ask q k ih =>
    exact ⟨ih _ h.1, fun r hr => ⟨ih r (h.2 r (hbad r hr)).1, ih r (h.2 r (hbad r hr)).2⟩⟩

theorem wp_of_forall (h : ∀ s a, post s a) (c : Calls Q R α) (s : σ) : wp serve bad post c s := by
  induction c generalizing s with
  | done a => exact h s a
  | ask q k ih => exact ⟨ih _ _, fun r _ => ⟨ih r s, ih r _⟩⟩

theorem exec_of_forall_none {faults : List (Option (Fault bad))} (h : ∀ f ∈ faults, f = none)
    (c : Calls Q R α) (s : σ) : exec serve bad faults s c = exec serve bad [] s c := by
  induction c generalizing s faults with
  | done a => rw [exec, exec]
  | ask q k ih =>
    cases faults with
    | nil => rfl
    | cons f faults =>
      obtain ⟨rfl, hrest⟩ := List.forall_mem_cons.mp h
      rw [exec, exec]
      exact ih _ hrest _

/-- **Soundness without failures**: if no request fails, it is enough that the postcondition is
met when there are no bad responses. -/
theorem exec_of_wp_false (hc : wp serve (fun _ => False) post c s)
    {faults : List (Option (Fault bad))} (h : ∀ f ∈ faults, f = none) :
    post (exec serve bad faults s c).1 (exec serve bad faults s c).2 := by
  rw [exec_of_forall_none h, exec_nil_congr bad fun _ => False]
  exact exec_of_wp hc []

/-! ### Trying again -/

variable {ρ τ : Type}

/-- Try, and try again at most so many times while the result asks for it. What one attempt
leaves behind for the next is handed on. -/
def retry (again : ρ → Bool) : Nat → (τ → Calls Q R (ρ × τ)) → τ → Calls Q R (ρ × τ)
  | 0, body, t => body t
  | n + 1, body, t => body t >>= fun x => if again x.1 then retry again n body x.2 else pure x

/-- **The rule for attempts**: an attempt that starts with the invariant ends in the
postcondition, and with the invariant whenever it may be followed by another one. -/
theorem wp_retry {again : ρ → Bool} {body : τ → Calls Q R (ρ × τ)} {P : σ → ρ × τ → Prop}
    {I : σ → τ → Prop}
    (hbody : ∀ s t, I s t →
      wp serve bad (fun s' x => P s' x ∧ (again x.1 = true → I s' x.2)) (body t) s) (n : Nat)
    {t : τ} (h : I s t) : wp serve bad P (retry again n body t) s := by
  induction n generalizing s t with
  | zero => exact wp_mono (fun _ _ hx => hx.1) (hbody s t h)
  | succ n ih =>
    rw [retry, wp_bind]
    refine wp_mono (fun s' x hx => ?_) (hbody s t h)
    obtain ⟨hpost, hagain⟩ := hx
    split
    · rename_i hx
      exact ih (hagain hx)
    · exact hpost

end Calls

end Rossoctl
