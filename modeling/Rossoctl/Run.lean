import Mathlib.Data.Option.Basic
import Mathlib.Data.List.Basic

/-!
# Runs of a partial step function

A system is given here by one partial function `step : σ → α → Option σ`: the
state it goes to when the action is possible, `none` when it is not. Nothing in
this file knows what the states and the actions are.

A *run* is a list of actions all of which are possible one after the other
(`Rossoctl.run`). A safety statement is about every run, possibly under a
condition on the states its actions are taken in; `Rossoctl.Guarded` is that
condition, spread over the list. The one rule everything else goes through is
`Rossoctl.run_invariant`: what holds at the start and is kept by every guarded
step holds at the end of every guarded run. As every prefix of a run is a run
(`Rossoctl.run_append`), a statement about the end of every run is a statement
about every state a run goes through.
-/

namespace Rossoctl

open List Option

variable {σ α : Type*}

/-- **A run**: the state reached by a list of actions, if each of them is
possible in the state the previous ones lead to. -/
def run (step : σ → α → Option σ) : σ → List α → Option σ
  | s, [] => some s
  | s, a :: as => (step s a).bind fun s' => run step s' as

/-- **A guarded run**: every action is taken in a state where the condition `ok`
allows it. Nothing is asked after an action that is not possible. -/
def Guarded (step : σ → α → Option σ) (ok : σ → α → Prop) : σ → List α → Prop
  | _, [] => True
  | s, a :: as => ok s a ∧
      match step s a with
      | none => True
      | some s' => Guarded step ok s' as

variable {step : σ → α → Option σ} {ok : σ → α → Prop}

@[simp] theorem run_nil (s : σ) : run step s [] = some s := rfl

theorem run_cons (s : σ) (a : α) (as : List α) :
    run step s (a :: as) = (step s a).bind fun s' => run step s' as := rfl

variable {s t : σ} {as : List α} {I : σ → Prop}

theorem run_cons_of_step {s' : σ} {a : α} (h : step s a = some s') (as : List α) :
    run step s (a :: as) = run step s' as := by
  rw [run_cons, h, bind_some]

theorem run_append (s : σ) (as bs : List α) :
    run step s (as ++ bs) = (run step s as).bind fun s' => run step s' bs := by
  induction as generalizing s with
  | nil => rfl
  | cons a as ih =>
    rw [cons_append, run_cons, run_cons, bind_assoc]
    exact congrArg _ (funext fun s' => ih s')

theorem guarded_cons {a : α} : Guarded step ok s (a :: as) ↔
      ok s a ∧ ∀ s', step s a = some s' → Guarded step ok s' as := by
  rw [Guarded]
  cases h : step s a <;> simp

instance Guarded.decidable [∀ s a, Decidable (ok s a)] :
    ∀ (as : List α) (s : σ), Decidable (Guarded step ok s as)
  | [], _ => isTrue trivial
  | a :: as, s =>
    have : Decidable (match step s a with
        | none => True
        | some s' => Guarded step ok s' as) :=
      match step s a with
      | none => isTrue trivial
      | some s' => Guarded.decidable as s'
    inferInstanceAs (Decidable (_ ∧ _))

/-- **The invariant rule**: what holds in the first state and is kept by every
guarded step holds in the last state of every guarded run. -/
theorem run_invariant (hstep : ∀ s a s', I s → ok s a → step s a = some s' → I s') (h0 : I s)
    (hok : Guarded step ok s as) (hrun : run step s as = some t) : I t := by
  induction as generalizing s with
  | nil =>
    cases hrun
    exact h0
  | cons a as ih =>
    obtain ⟨s', hs, hrest⟩ := bind_eq_some_iff.mp hrun
    obtain ⟨ha, htail⟩ := guarded_cons.mp hok
    exact ih (hstep s a s' h0 ha hs) (htail s' hs) hrest

/-- **The exact guard**: if in a state with the invariant `I` an action keeps it exactly
when the guard allows the action, then the guarded runs are those all of whose beginnings
end with the invariant. An action that is not possible has to be allowed; and what every
step keeps anyway, `J`, may be used. -/
theorem guarded_iff_forall_isPrefix_of_invariant {J : σ → Prop}
    (hJ : ∀ s a s', J s → step s a = some s' → J s')
    (hstep : ∀ s a s', J s → I s → step s a = some s' → (I s' ↔ ok s a))
    (hnone : ∀ s a, step s a = none → ok s a) (j0 : J s) (h0 : I s) (as : List α) :
    Guarded step ok s as ↔ ∀ bs t, bs <+: as → run step s bs = some t → I t := by
  constructor
  · intro hok bs t hbs hrun
    induction bs generalizing s as with
    | nil =>
      cases hrun
      exact h0
    | cons b bs ih =>
      obtain ⟨cs, rfl⟩ := hbs
      obtain ⟨ha, htail⟩ := guarded_cons.mp hok
      obtain ⟨s', hs, hrest⟩ := bind_eq_some_iff.mp hrun
      exact ih (hJ s b s' j0 hs) ((hstep s b s' j0 h0 hs).mpr ha) (bs ++ cs) (htail s' hs)
        (prefix_append bs cs) hrest
  · intro hall
    induction as generalizing s with
    | nil => trivial
    | cons a as ih =>
      cases hs : step s a with
      | none =>
        refine guarded_cons.mpr ⟨hnone s a hs, fun s' hs' => ?_⟩
        exact absurd (hs.symm.trans hs') (by simp)
      | some s' =>
        have hkept : I s' := hall [a] s' ⟨as, rfl⟩ (by rw [run_cons_of_step hs, run_nil])
        refine guarded_cons.mpr ⟨(hstep s a s' j0 h0 hs).mp hkept, fun t ht => ?_⟩
        cases hs.symm.trans ht
        refine ih (hJ s a s' j0 hs) hkept fun bs t hbs hrun => hall (a :: bs) t ?_ ?_
        · exact cons_prefix_cons.mpr ⟨rfl, hbs⟩
        · rw [run_cons_of_step hs, hrun]

theorem guarded_iff_forall_isPrefix (hstep : ∀ s a s', I s → step s a = some s' → (I s' ↔ ok s a))
    (hnone : ∀ s a, step s a = none → ok s a) (h0 : I s) (as : List α) :
    Guarded step ok s as ↔ ∀ bs t, bs <+: as → run step s bs = some t → I t :=
  guarded_iff_forall_isPrefix_of_invariant (J := fun _ => True) (fun _ _ _ _ _ => trivial)
    (fun s a s' _ => hstep s a s') hnone trivial h0 as

theorem guarded_of_forall_mem (h : ∀ a ∈ as, ∀ s, ok s a) (s : σ) : Guarded step ok s as := by
  induction as generalizing s with
  | nil => trivial
  | cons a as ih =>
    obtain ⟨ha, htail⟩ := forall_mem_cons.mp h
    exact guarded_cons.mpr ⟨ha s, fun s' _ => ih htail s'⟩

theorem guarded_of_forall (h : ∀ s a, ok s a) (s : σ) (as : List α) : Guarded step ok s as :=
  guarded_of_forall_mem (fun a _ s => h s a) s

theorem Guarded.mono {ok' : σ → α → Prop} (h : ∀ s a, ok s a → ok' s a)
    (hok : Guarded step ok s as) : Guarded step ok' s as := by
  induction as generalizing s with
  | nil => trivial
  | cons a as ih =>
    obtain ⟨ha, htail⟩ := guarded_cons.mp hok
    exact guarded_cons.mpr ⟨h s a ha, fun s' hs => ih (htail s' hs)⟩

theorem run_invariant_unguarded (hstep : ∀ s a s', I s → step s a = some s' → I s') (h0 : I s)
    (hrun : run step s as = some t) : I t :=
  run_invariant (fun s a s' h _ => hstep s a s' h) h0
    (guarded_of_forall (fun _ _ => trivial) s as) hrun

/-! ### The history of a run -/

variable {β : Type*}

/-- **What a run has left behind**: the actions of a run each leave a note, which may
depend on the state they are taken in. -/
def recorded (step : σ → α → Option σ) (note : σ → α → List β) : σ → List α → List β
  | _, [] => []
  | s, a :: as =>
    match step s a with
    | none => []
    | some s' => note s a ++ recorded step note s' as

theorem recorded_actions (hrun : run step s as = some t) :
    recorded step (fun _ a => [a]) s as = as := by
  induction as generalizing s with
  | nil => rfl
  | cons a as ih =>
    obtain ⟨s', hs, hrest⟩ := bind_eq_some_iff.mp hrun
    rw [recorded, hs]
    exact congrArg (a :: ·) (ih hrest)

/-- **The invariant rule with a history**: what relates a state to the notes so far, and is
kept by every step and the note it leaves, relates the last state to all the notes. -/
theorem run_invariant_recorded {note : σ → α → List β} {I : σ → List β → Prop}
    (hstep : ∀ s a s' ns, I s ns → ok s a → step s a = some s' → I s' (ns ++ note s a))
    {ns : List β} (h0 : I s ns) (hok : Guarded step ok s as) (hrun : run step s as = some t) :
    I t (ns ++ recorded step note s as) := by
  induction as generalizing s ns with
  | nil =>
    cases hrun
    rwa [recorded, append_nil]
  | cons a as ih =>
    obtain ⟨s', hs, hrest⟩ := bind_eq_some_iff.mp hrun
    obtain ⟨ha, htail⟩ := guarded_cons.mp hok
    rw [recorded, hs]
    show I t (ns ++ (note s a ++ recorded step note s' as))
    rw [← append_assoc]
    exact ih (hstep s a s' ns h0 ha hs) (htail s' hs) hrest

theorem run_invariant_recorded_unguarded {note : σ → α → List β} {I : σ → List β → Prop}
    (hstep : ∀ s a s' ns, I s ns → step s a = some s' → I s' (ns ++ note s a)) (h0 : I s [])
    (hrun : run step s as = some t) : I t (recorded step note s as) :=
  run_invariant_recorded (fun s a s' ns h _ => hstep s a s' ns h) h0
    (guarded_of_forall (fun _ _ => trivial) s as) hrun

/-- **Good notes**: if guarded steps keep the invariant and leave good notes, all notes of a
guarded run are good. -/
theorem forall_recorded_of_guarded {note : σ → α → List β} {P : β → Prop}
    (hstep : ∀ s a s', I s → ok s a → step s a = some s' → I s' ∧ ∀ n ∈ note s a, P n)
    (h0 : I s) (hok : Guarded step ok s as) : ∀ n ∈ recorded step note s as, P n := by
  induction as generalizing s with
  | nil => exact fun _ h => absurd h not_mem_nil
  | cons a as ih =>
    obtain ⟨ha, htail⟩ := guarded_cons.mp hok
    rw [recorded]
    cases hs : step s a with
    | none => exact fun _ h => absurd h not_mem_nil
    | some s' =>
      obtain ⟨hI, hnotes⟩ := hstep s a s' h0 ha hs
      exact forall_mem_append.mpr ⟨hnotes, ih hI (htail s' hs)⟩

/-- **Good notes and their guard**: if the notes of an action that is possible are good
exactly when the guard allows the action, then the runs with good notes are the guarded
ones. An action that is not possible has to be allowed; and what every step keeps anyway,
`J`, may be used. -/
theorem forall_recorded_iff_guarded_of_invariant {note : σ → α → List β} {P : β → Prop}
    {J : σ → Prop} (hJ : ∀ s a s', J s → step s a = some s' → J s')
    (hstep : ∀ s a s', J s → step s a = some s' → ((∀ n ∈ note s a, P n) ↔ ok s a))
    (hnone : ∀ s a, step s a = none → ok s a) (j0 : J s) (as : List α) :
    (∀ n ∈ recorded step note s as, P n) ↔ Guarded step ok s as := by
  induction as generalizing s with
  | nil => exact iff_of_true (fun _ h => absurd h not_mem_nil) trivial
  | cons a as ih =>
    rw [recorded, Guarded]
    cases hs : step s a with
    | none => exact iff_of_true (fun _ h => absurd h not_mem_nil) ⟨hnone s a hs, trivial⟩
    | some s' =>
      dsimp only
      rw [forall_mem_append, hstep s a s' j0 hs, ih (hJ s a s' j0 hs)]

theorem forall_recorded_iff_guarded {note : σ → α → List β} {P : β → Prop}
    (hstep : ∀ s a s', step s a = some s' → ((∀ n ∈ note s a, P n) ↔ ok s a))
    (hnone : ∀ s a, step s a = none → ok s a) (s : σ) (as : List α) :
    (∀ n ∈ recorded step note s as, P n) ↔ Guarded step ok s as :=
  forall_recorded_iff_guarded_of_invariant (J := fun _ => True) (fun _ _ _ _ _ => trivial)
    (fun s a s' _ => hstep s a s') hnone trivial as

end Rossoctl
