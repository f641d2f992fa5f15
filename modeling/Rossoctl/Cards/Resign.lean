import Rossoctl.Cards.Aggregation

/-!
# Restarts for a new signature

`maybeRestartForResign` and what it calls (`internal/controller/agentcard_controller.go`). The
pods of a workload are restarted, so that they sign their card again, when the certificate that
signed it is about to expire or when the trust bundle has changed. What keeps the restarts from
following each other are three annotations: on the pod template the time of the last restart and
the expiry it was for, and on the workload the hash of the bundle.

Times are nanoseconds, and only those are considered that RFC 3339 can write
(`Rossoctl.Cards.Moment`). A call asks for the time more than once, and each of its requests may
fail (`Rossoctl.Cards.ResignInput`); a write that is answered with an error may still have been
made.

For one certificate and one bundle there is at most one restart, whatever fails; and any two
restarts are a grace period apart, up to the second that the stored time is cut down to
(`Rossoctl.Cards.Resigner.restarts_spaced`). The two reasons are not independent, though: a
certificate for which there was a restart already hides a new bundle
(`Rossoctl.Cards.Resigner.rotation_restarts_iff`).
-/

namespace Rossoctl.Cards

open Kube List

def annotationResignTrigger : String := "agentcard.rossoctl.dev/resign-trigger"

def annotationResignLeafExpiry : String := "agentcard.rossoctl.dev/resign-leaf-expiry"

def annotationBundleHash : String := "agentcard.rossoctl.dev/bundle-hash"

/-! ### Times -/

/-- One second, in nanoseconds. -/
def second : ℤ := 1000000000

/-- **A time** from the year 0 to the year 9999, counted from the start of 1970. -/
structure Moment where
  ns : ℤ
  first : -62167219200 * second ≤ ns
  last : ns < 253402300800 * second

/-- `Time.IsZero`: the start of the year 1. -/
def Moment.isZero (t : Moment) : Bool := t.ns = -62135596800 * second

/-- `Time.Sub`: a difference that does not fit into a duration is cut off. -/
def saturate (d : ℤ) : ℤ := max (-2 ^ 63) (min d (2 ^ 63 - 1))

/-- `Time.Format` and `time.Parse` for `time.RFC3339`. The text has no fractions of a second. -/
structure TimeText where
  format : Moment → String
  parse : String → Option ℤ
  parse_format : ∀ t, parse (format t) = some (t.ns / second * second)

def defaultSVIDExpiryGracePeriod : ℤ := 30 * 60 * second

/-! ### Requests -/

/-- The answer to an Update; an error other than a conflict does not say whether the object was
written. -/
inductive UpdateAnswer where
  | ok
  | conflict
  | failed (applied : Bool)

/-- One attempt to read, change and write the workload. -/
structure Attempt where
  get : Bool := true
  now : Moment
  update : UpdateAnswer := .ok

/-- `retry.RetryOnConflict` over Get, a change and Update: what is written, and when. -/
def writeOnConflict {α : Type} (change : Moment → Option α) : ℕ → List Attempt → Option (Moment × α)
  | n + 1, a :: rest =>
    if a.get then
      match change a.now with
      | none => none
      | some written =>
        match a.update with
        | .ok => some (a.now, written)
        | .conflict => writeOnConflict change n rest
        | .failed applied => if applied then some (a.now, written) else none
    else none
  | _, _ => none

theorem writeOnConflict_eq_some {α : Type} {change : Moment → Option α} {n : ℕ}
    {attempts : List Attempt} {t : Moment} {written : α}
    (h : writeOnConflict change n attempts = some (t, written)) :
    (∃ a ∈ attempts, a.now = t) ∧ change t = some written := by
  induction n generalizing attempts with
  | zero => cases h
  | succ n ih =>
    cases attempts with
    | nil => cases h
    | cons a rest =>
      rw [writeOnConflict] at h
      split at h
      · split at h
        · cases h
        · rename_i written' hchange
          have hfirst (h : some (a.now, written') = some (t, written)) :
              (∃ a' ∈ a :: rest, a'.now = t) ∧ change t = some written := by
            cases h
            exact ⟨⟨a, mem_cons_self, rfl⟩, hchange⟩
          split at h
          · exact hfirst h
          · obtain ⟨⟨a', hmem, hnow⟩, hwritten⟩ := ih h
            exact ⟨⟨a', mem_cons_of_mem _ hmem, hnow⟩, hwritten⟩
          · split at h
            · exact hfirst h
            · cases h
      · cases h

/-- **What a call of `maybeRestartForResign` is given**: the kind of the workload, if there is
one, the hash of the current bundle, if there is a provider, and the expiry of the verified leaf;
then the times it looks at the clock and the answers to its requests. -/
structure ResignInput where
  kind : Option String
  bundleHash : Option String
  leafNotAfter : Moment
  get : Bool := true
  since : Moment
  untilExpiry : Moment
  attempts : List Attempt
  finish : Moment

/-- The times of a call, in the order in which the clock is read. -/
def ResignInput.times (inp : ResignInput) : List ℤ :=
  inp.since.ns :: inp.untilExpiry.ns :: inp.attempts.map (·.now.ns) ++ [inp.finish.ns]

theorem ResignInput.le_of_times {inp : ResignInput} {clock : ℤ}
    (h : (clock :: inp.times).Pairwise (· ≤ ·)) : clock ≤ inp.since.ns ∧ clock ≤ inp.finish.ns ∧
      ∀ a ∈ inp.attempts, inp.since.ns ≤ a.now.ns ∧ a.now.ns ≤ inp.finish.ns := by
  rw [ResignInput.times, cons_append, pairwise_cons, pairwise_cons,
    cons_append, pairwise_cons, pairwise_append] at h
  obtain ⟨hclock, hsince, -, -, -, hfinish⟩ := h
  refine ⟨hclock _ mem_cons_self, hclock _ (by simp), fun a ha => ⟨hsince _ ?_, ?_⟩⟩
  · simp only [mem_cons, mem_append, mem_map]
    exact .inr (.inl ⟨a, ha, rfl⟩)
  · exact hfinish _ (mem_map_of_mem ha) _ (mem_singleton_self _)

/-- The requests of a call succeed. -/
def ResignInput.Succeeds (inp : ResignInput) : Prop :=
  inp.get = true ∧ ∃ now rest, inp.attempts = ⟨true, now, .ok⟩ :: rest

/-- `newPodTemplateAccessor`: whether there is one. -/
def hasAccessor (kind : String) : Bool := kind = "Deployment" || kind = "StatefulSet"

/-! ### The decision -/

/-- The controller, as far as restarts go. -/
structure Resigner where
  text : TimeText
  svidExpiryGracePeriod : ℤ
  minDuration : -2 ^ 63 ≤ svidExpiryGracePeriod
  maxDuration : svidExpiryGracePeriod ≤ 2 ^ 63 - 1

/-- The hash that a workload has on record; none is the empty one. -/
def Workload.bundleHash (w : Workload) : String :=
  (w.annotations.lookup annotationBundleHash).getD ""

namespace Resigner

variable (r : Resigner) {Rest : Type}

/-- The grace period. -/
def grace : ℤ :=
  if r.svidExpiryGracePeriod = 0 then defaultSVIDExpiryGracePeriod else r.svidExpiryGracePeriod

/-- There was a restart less than a grace period ago. A time that cannot be read counts for
nothing. -/
def triggeredRecently (o : Deployed Rest) (now : Moment) : Bool :=
  match (o.templateAnnotations.lookup annotationResignTrigger).bind r.text.parse with
  | none => false
  | some lastTrigger => saturate (now.ns - lastTrigger) < r.grace

/-- The leaf is about to expire. -/
def leafExpires (leafNotAfter now : Moment) : Bool :=
  !leafNotAfter.isZero && saturate (leafNotAfter.ns - now.ns) < r.grace

/-- There was a restart for this expiry. -/
def expiryStored (o : Deployed Rest) (leafNotAfter : Moment) : Bool :=
  (o.templateAnnotations.lookup annotationResignLeafExpiry).getD "" = r.text.format leafNotAfter

/-- The bundle is another one than the one on record. -/
def rotated (w : Workload) (currentBundleHash : String) : Bool :=
  w.bundleHash ≠ "" && currentBundleHash ≠ "" && w.bundleHash ≠ currentBundleHash

/-- What `triggerRolloutRestart` writes. -/
def restarted (o : Deployed Rest) (bundleHash : String) (leafNotAfter now : Moment) :
    Deployed Rest :=
  let triggered := o.templateAnnotations.insert annotationResignTrigger (r.text.format now)
  { o with
    templateAnnotations :=
      if leafNotAfter.isZero then triggered
      else triggered.insert annotationResignLeafExpiry (r.text.format leafNotAfter)
    annotations := o.annotations.insert annotationBundleHash bundleHash }

/-- What `patchBundleHashAnnotation` writes. -/
def hashed (o : Deployed Rest) (bundleHash : String) : Option (Deployed Rest) :=
  if o.bundleHash = bundleHash then none
  else some { o with annotations := o.annotations.insert annotationBundleHash bundleHash }

/-- **`maybeRestartForResign`**: the workload afterwards, and the time of the restart, if there is
one. -/
def maybeRestartForResign (o : Deployed Rest) (inp : ResignInput) : Deployed Rest × Option Moment :=
  match inp.bundleHash with
  | none => (o, none)
  | some currentBundleHash =>
    if !(inp.kind.any hasAccessor && inp.get) || r.triggeredRecently o inp.since then (o, none)
    else if r.leafExpires inp.leafNotAfter inp.untilExpiry && r.expiryStored o inp.leafNotAfter then
      (o, none)
    else if r.leafExpires inp.leafNotAfter inp.untilExpiry ||
        rotated o.toWorkload currentBundleHash then
      match writeOnConflict
        (fun now => some (r.restarted o currentBundleHash inp.leafNotAfter now)) 5 inp.attempts with
      | none => (o, none)
      | some (now, o') => (o', some now)
    else if o.bundleHash = "" && currentBundleHash ≠ "" then
      match writeOnConflict (fun _ => hashed o currentBundleHash) 5 inp.attempts with
      | none => (o, none)
      | some (_, o') => (o', none)
    else (o, none)

/-- **What a call does**: it restarts the workload, after all the checks, at the time of one of its
attempts; or it puts the hash on record, if there is none; or nothing. -/
theorem maybeRestartForResign_cases (o : Deployed Rest) (inp : ResignInput) :
    (∃ currentBundleHash t, inp.bundleHash = some currentBundleHash ∧
        r.triggeredRecently o inp.since = false ∧
        (r.leafExpires inp.leafNotAfter inp.untilExpiry = true →
          r.expiryStored o inp.leafNotAfter = false) ∧
        (r.leafExpires inp.leafNotAfter inp.untilExpiry = true ∨
          rotated o.toWorkload currentBundleHash = true) ∧
        (∃ a ∈ inp.attempts, a.now = t) ∧
        r.maybeRestartForResign o inp =
          (r.restarted o currentBundleHash inp.leafNotAfter t, some t)) ∨
      (∃ currentBundleHash, inp.bundleHash = some currentBundleHash ∧ o.bundleHash = "" ∧
        currentBundleHash ≠ "" ∧ r.maybeRestartForResign o inp =
          ({ o with annotations := o.annotations.insert annotationBundleHash currentBundleHash },
            none)) ∨
      r.maybeRestartForResign o inp = (o, none) := by
  rw [maybeRestartForResign]
  split
  · exact .inr (.inr rfl)
  · rename_i currentBundleHash hhash
    split
    · exact .inr (.inr rfl)
    · rename_i hready
      split
      · exact .inr (.inr rfl)
      · rename_i hstored
        split
        · rename_i hreason
          split
          · exact .inr (.inr rfl)
          · rename_i now o' hwritten
            obtain ⟨hnow, hwritten⟩ := writeOnConflict_eq_some hwritten
            cases hwritten
            refine .inl ⟨currentBundleHash, now, hhash, ?_, fun hleaf => ?_, ?_, hnow, rfl⟩
            · simp only [Bool.or_eq_true, not_or, Bool.not_eq_true] at hready
              exact hready.2
            · simpa [hleaf] using hstored
            · simpa using hreason
        · split
          · rename_i hempty
            simp only [Bool.and_eq_true, decide_eq_true_eq] at hempty
            split
            · exact .inr (.inr rfl)
            · rename_i now o' hwritten
              obtain ⟨-, hwritten⟩ := writeOnConflict_eq_some hwritten
              rw [hashed, if_neg (hempty.1 ▸ Ne.symm hempty.2)] at hwritten
              cases hwritten
              exact .inr (.inl ⟨currentBundleHash, hhash, hempty.1, hempty.2, rfl⟩)
          · exact .inr (.inr rfl)

theorem lookup_trigger_restarted (o : Deployed Rest) (bundleHash : String)
    (leafNotAfter now : Moment) :
    (r.restarted o bundleHash leafNotAfter now).templateAnnotations.lookup annotationResignTrigger =
      some (r.text.format now) := by
  rw [restarted]
  split
  · exact AList.lookup_insert _
  · exact (AList.lookup_insert_ne (by decide)).trans (AList.lookup_insert _)

variable {o : Deployed Rest} {leafNotAfter : Moment}

theorem lookup_expiry_restarted (o : Deployed Rest) (bundleHash : String)
    (h : leafNotAfter.isZero = false) (now : Moment) :
    (r.restarted o bundleHash leafNotAfter now).templateAnnotations.lookup
      annotationResignLeafExpiry = some (r.text.format leafNotAfter) := by
  rw [restarted, h]
  exact AList.lookup_insert _

theorem lookup_hash_restarted (o : Deployed Rest) (bundleHash : String)
    (leafNotAfter now : Moment) :
    (r.restarted o bundleHash leafNotAfter now).annotations.lookup annotationBundleHash =
      some bundleHash :=
  AList.lookup_insert _

/-! ### Runs -/

/-- The workload, and the time. -/
structure World (Rest : Type) where
  workload : Deployed Rest
  clock : ℤ

/-- Calls of the controller, and what others do to the workload. -/
inductive Action (Rest : Type) where
  | call (inp : ResignInput)
  | edit (workload : Deployed Rest)

/-- The three annotations are the same. -/
def SameRecords (o o' : Deployed Rest) : Prop :=
  o'.templateAnnotations.lookup annotationResignTrigger =
      o.templateAnnotations.lookup annotationResignTrigger ∧
    o'.templateAnnotations.lookup annotationResignLeafExpiry =
      o.templateAnnotations.lookup annotationResignLeafExpiry ∧
    o'.annotations.lookup annotationBundleHash = o.annotations.lookup annotationBundleHash

instance (o o' : Deployed Rest) : Decidable (SameRecords o o') :=
  inferInstanceAs (Decidable (_ ∧ _))

/-- **A step**: a call, at times that come after all earlier ones, or a change by someone else, who
leaves the three annotations alone. -/
def step (w : World Rest) : Action Rest → Option (World Rest)
  | .call inp =>
    if (w.clock :: inp.times).Pairwise (· ≤ ·) then
      some ⟨(r.maybeRestartForResign w.workload inp).1, inp.finish.ns⟩
    else none
  | .edit o => if SameRecords w.workload o then some { w with workload := o } else none

/-- The restarts of a step, by their times. -/
def restarts (w : World Rest) : Action Rest → List Moment
  | .call inp => (r.maybeRestartForResign w.workload inp).2.toList
  | .edit _ => []

variable {r} {w w' : World Rest} {a : Action Rest}

/-- **What a step does.** -/
theorem step_cases (h : r.step w a = some w') :
    (∃ inp, a = .call inp ∧ (w.clock :: inp.times).Pairwise (· ≤ ·) ∧
        w' = ⟨(r.maybeRestartForResign w.workload inp).1, inp.finish.ns⟩) ∨
      ∃ o, a = .edit o ∧ SameRecords w.workload o ∧ w' = { w with workload := o } := by
  cases a with
  | call inp =>
    rw [step] at h
    split at h
    · rename_i htimes
      exact .inl ⟨inp, rfl, htimes, (Option.some.inj h).symm⟩
    · cases h
  | edit o =>
    rw [step] at h
    split at h
    · rename_i hsame
      exact .inr ⟨o, rfl, hsame, (Option.some.inj h).symm⟩
    · cases h

/-! ### One certificate and one bundle -/

/-- A restart for this leaf and this bundle is on record. -/
structure Quiet (r : Resigner) (o : Deployed Rest) (leafNotAfter : Moment) (bundleHash : String) :
    Prop where
  expiry : leafNotAfter.isZero = false →
    o.templateAnnotations.lookup annotationResignLeafExpiry = some (r.text.format leafNotAfter)
  hash : o.bundleHash = bundleHash

variable {bundleHash : String} {ts : List Moment}

/-- **Nothing happens any more**, for the same leaf and the same bundle. -/
theorem Quiet.maybeRestartForResign {inp : ResignInput}
    (h : r.Quiet o inp.leafNotAfter bundleHash) (hhash : ∀ b ∈ inp.bundleHash, b = bundleHash) :
    r.maybeRestartForResign o inp = (o, none) := by
  obtain ⟨current, t, hb, -, hstored, hreason, -, -⟩ | ⟨current, hb, hempty, hne, -⟩ | hnone :=
    r.maybeRestartForResign_cases o inp
  · obtain rfl := hhash current hb
    obtain hleaf | hrotated := hreason
    · -- the expiry is on record
      have hzero : inp.leafNotAfter.isZero = false := by
        rw [leafExpires, Bool.and_eq_true] at hleaf
        simpa using hleaf.1
      have := hstored hleaf
      rw [expiryStored, h.expiry hzero] at this
      simp at this
    · -- the hash is on record
      rw [rotated, h.hash] at hrotated
      simp at hrotated
  · obtain rfl := hhash current hb
    exact absurd (h.hash.symm.trans hempty) hne
  · exact hnone

theorem Quiet.of_sameRecords {o' : Deployed Rest}
    (h : r.Quiet o leafNotAfter bundleHash) (hsame : SameRecords o o') :
    r.Quiet o' leafNotAfter bundleHash where
  expiry hzero := hsame.2.1.trans (h.expiry hzero)
  hash := by
    rw [Workload.bundleHash, hsame.2.2]
    exact h.hash

theorem quiet_restarted (o : Deployed Rest) (bundleHash : String) (leafNotAfter now : Moment) :
    r.Quiet (r.restarted o bundleHash leafNotAfter now) leafNotAfter bundleHash where
  expiry hzero := r.lookup_expiry_restarted o bundleHash hzero now
  hash := by rw [Workload.bundleHash, lookup_hash_restarted, Option.getD_some]

/-- The calls are all for one leaf and one bundle. -/
def SameInput (leafNotAfter : Moment) (bundleHash : Option String) : Action Rest → Prop
  | .call inp => inp.leafNotAfter = leafNotAfter ∧ inp.bundleHash = bundleHash
  | .edit _ => True

/-- **At most one restart**, and after one the workload is quiet. -/
def AtMostOnce (r : Resigner) (leafNotAfter : Moment) (bundleHash : Option String)
    (w : World Rest) (ts : List Moment) : Prop :=
  ts = [] ∨ ∃ t b, ts = [t] ∧ bundleHash = some b ∧ r.Quiet w.workload leafNotAfter b

theorem AtMostOnce.step {bundleHash : Option String}
    (h : r.AtMostOnce leafNotAfter bundleHash w ts) (hsame : SameInput leafNotAfter bundleHash a)
    (hstep : r.step w a = some w') :
    r.AtMostOnce leafNotAfter bundleHash w' (ts ++ r.restarts w a) := by
  obtain ⟨inp, rfl, -, rfl⟩ | ⟨o, rfl, hrecords, rfl⟩ := step_cases hstep
  · obtain ⟨rfl, rfl⟩ := hsame
    obtain rfl | ⟨t, b, rfl, hb, hquiet⟩ := h
    · rw [AtMostOnce, nil_append, restarts]
      obtain ⟨current, t, hb, -, -, -, -, heq⟩ | ⟨current, -, -, -, heq⟩ | heq :=
        r.maybeRestartForResign_cases w.workload inp
      · rw [heq]
        exact .inr ⟨t, current, rfl, hb, quiet_restarted _ _ _ _⟩
      · rw [heq]
        exact .inl rfl
      · rw [heq]
        exact .inl rfl
    · have hnone := hquiet.maybeRestartForResign fun b' hb' =>
        Option.some.inj (hb'.symm.trans hb)
      rw [restarts, hnone]
      exact .inr ⟨t, b, rfl, hb, hquiet⟩
  · rw [restarts, append_nil]
    refine h.imp id ?_
    rintro ⟨t, b, hts, hb, hquiet⟩
    exact ⟨t, b, hts, hb, hquiet.of_sameRecords hrecords⟩

/-! ### Any two restarts -/

/-- The restarts so far are apart, and the last of them is on record. -/
structure Spaced (r : Resigner) (w : World Rest) (ts : List Moment) : Prop where
  pairwise : ts.Pairwise fun t t' => t.ns + r.grace - second < t'.ns
  stored : ts = [] ∨ ∃ last, w.workload.templateAnnotations.lookup annotationResignTrigger =
    some (r.text.format last) ∧ last.ns ≤ w.clock ∧ ∀ t ∈ ts, t.ns ≤ last.ns

/-- **A stored time keeps the next restart away** for a grace period; what is lost is less than the
second it was cut by. -/
theorem lt_of_not_triggeredRecently {last now : Moment}
    (hlast : o.templateAnnotations.lookup annotationResignTrigger = some (r.text.format last))
    (hle : last.ns ≤ now.ns) (h : r.triggeredRecently o now = false) :
    last.ns + r.grace - second < now.ns := by
  have hparse : (o.templateAnnotations.lookup annotationResignTrigger).bind r.text.parse =
      some (last.ns / second * second) := by
    rw [hlast, Option.bind_some, r.text.parse_format]
  rw [triggeredRecently, hparse] at h
  have hage : ¬ saturate (now.ns - last.ns / second * second) < r.grace := of_decide_eq_false h
  rw [saturate] at hage
  rw [second] at hage ⊢
  omega

/-- **The step lemma** for the times. -/
theorem Spaced.step (h : r.Spaced w ts) (hstep : r.step w a = some w') :
    r.Spaced w' (ts ++ r.restarts w a) := by
  obtain ⟨inp, rfl, htimes, rfl⟩ | ⟨o, rfl, hrecords, rfl⟩ := step_cases hstep
  · obtain ⟨hclock, hfinish, hattempts⟩ := ResignInput.le_of_times htimes
    -- Without a restart the time on record stays.
    have hkept (o : Deployed Rest) (ho : o.templateAnnotations = w.workload.templateAnnotations) :
        r.Spaced ⟨o, inp.finish.ns⟩ ts := by
      refine ⟨h.pairwise, h.stored.imp id ?_⟩
      rintro ⟨last, hlast, hle, hall⟩
      exact ⟨last, by rw [← hlast, ho], hle.trans hfinish, hall⟩
    obtain ⟨current, t, -, hrecent, -, -, ⟨attempt, hmem, rfl⟩, heq⟩ | ⟨_, -, -, -, heq⟩ | heq :=
      r.maybeRestartForResign_cases w.workload inp
    · rw [restarts, heq]
      obtain ⟨hsince, hend⟩ := hattempts attempt hmem
      have hapart : ∀ t ∈ ts, t.ns + r.grace - second < attempt.now.ns ∧ t.ns ≤ attempt.now.ns := by
        intro t ht
        obtain rfl | ⟨last, hlast, hle, hall⟩ := h.stored
        · cases ht
        · have := lt_of_not_triggeredRecently hlast (hle.trans hclock) hrecent
          have := hall t ht
          omega
      refine ⟨pairwise_append.mpr ⟨h.pairwise, pairwise_singleton _ _, ?_⟩,
        .inr ⟨attempt.now, r.lookup_trigger_restarted _ _ _ _, hend, ?_⟩⟩
      · intro t ht t' ht'
        obtain rfl := mem_singleton.mp ht'
        exact (hapart t ht).1
      · intro t ht
        obtain ht | ht := mem_append.mp ht
        · exact (hapart t ht).2
        · exact le_of_eq (congrArg _ (mem_singleton.mp ht))
    · rw [restarts, heq, Option.toList_none, append_nil]
      exact hkept _ rfl
    · rw [restarts, heq, Option.toList_none, append_nil]
      exact hkept _ rfl
  · rw [restarts, append_nil]
    refine ⟨h.pairwise, h.stored.imp id ?_⟩
    rintro ⟨last, hlast, hrest⟩
    exact ⟨last, hrecords.1.trans hlast, hrest⟩

/-- **Restarts do not follow each other.** In any run, with any requests failing: if all the calls
are for one leaf and one bundle, there is at most one restart; and in any case each comes later than
a grace period less one second after all the earlier ones. -/
theorem restarts_spaced (r : Resigner) {w w' : World Rest} {actions : List (Action Rest)}
    (hrun : run r.step w actions = some w') :
    (∀ leafNotAfter bundleHash, (∀ a ∈ actions, SameInput leafNotAfter bundleHash a) →
        (recorded r.step r.restarts w actions).length ≤ 1) ∧
      (recorded r.step r.restarts w actions).Pairwise
        fun t t' => t.ns + r.grace - second < t'.ns := by
  constructor
  · intro leafNotAfter bundleHash hsame
    have hstep (w : World Rest) (a : Action Rest) (w' : World Rest) (ts : List Moment)
        (h : r.AtMostOnce leafNotAfter bundleHash w ts) (ha : SameInput leafNotAfter bundleHash a)
        (hs : r.step w a = some w') :
        r.AtMostOnce leafNotAfter bundleHash w' (ts ++ r.restarts w a) :=
      h.step ha hs
    have hguard : Guarded r.step (fun _ => SameInput leafNotAfter bundleHash) w actions :=
      guarded_of_forall_mem (fun a ha _ => hsame a ha) w
    have honce := run_invariant_recorded hstep (.inl rfl) hguard hrun
    rw [nil_append] at honce
    obtain hnil | ⟨t, b, hone, -⟩ := honce
    · rw [hnil]
      exact Nat.zero_le 1
    · rw [hone]
      exact le_rfl
  · have hstep (w : World Rest) (a : Action Rest) (w' : World Rest) (ts : List Moment)
        (h : r.Spaced w ts) (hs : r.step w a = some w') : r.Spaced w' (ts ++ r.restarts w a) :=
      h.step hs
    exact (run_invariant_recorded_unguarded hstep ⟨.nil, .inl rfl⟩ hrun).pairwise

/-- A stand-in for RFC 3339 in the runs below: the seconds since the year 0 as so many strokes.
The calendar plays no part in them, since a time is read back before it is compared, and a text
is compared with another for equality only. -/
def strokes : TimeText where
  format t := String.ofList (List.replicate (t.ns / second + 62167219200).toNat '|')
  parse s := some ((s.length - 62167219200) * second)
  parse_format t := by
    have hfirst := t.first
    rw [second] at hfirst ⊢
    rw [String.length_ofList, length_replicate]
    congr 2
    omega

/-- A second of the year 0. -/
def atSecond (s : Fin 100) : Moment where
  ns := -62167219200 * second + s * second
  first := by
    have hs := s.isLt
    rw [second]
    omega
  last := by
    have hs := s.isLt
    rw [second]
    omega

/-- A grace period of five seconds. -/
def fiveSeconds : Resigner where
  text := strokes
  svidExpiryGracePeriod := 5 * second
  minDuration := by decide
  maxDuration := by decide

/-- A workload that has the hash `first` on record. -/
def hashedFirst : Deployed Unit where
  annotations := (∅ : StringMap).insert annotationBundleHash "first"
  rest := ()

/-- A call for a bundle, with a leaf that expires at the 90th second, if its requests succeed. -/
def callAt (bundleHash : String) (s : Fin 100) : ResignInput where
  kind := some "Deployment"
  bundleHash := some bundleHash
  leafNotAfter := atSecond 90
  since := atSecond s
  untilExpiry := atSecond s
  attempts := [⟨true, atSecond s, .conflict⟩, ⟨true, atSecond s, .ok⟩]
  finish := atSecond s

theorem restarts_spaced_twice : ∃ w', run fiveSeconds.step ⟨hashedFirst, -62167219200 * second⟩
      [.call (callAt "second" 10), .call (callAt "third" 14), .call (callAt "third" 15)] = some w' ∧
    ((recorded fiveSeconds.step fiveSeconds.restarts ⟨hashedFirst, -62167219200 * second⟩
      [.call (callAt "second" 10), .call (callAt "third" 14), .call (callAt "third" 15)]).Pairwise
        fun t t' => t.ns + fiveSeconds.grace - second < t'.ns) ∧
    (recorded fiveSeconds.step fiveSeconds.restarts ⟨hashedFirst, -62167219200 * second⟩
      [.call (callAt "second" 10), .call (callAt "third" 14), .call (callAt "third" 15)]).length =
        2 := by
  obtain ⟨w', hrun⟩ := Option.isSome_iff_exists.mp (by decide +kernel :
    (run fiveSeconds.step ⟨hashedFirst, -62167219200 * second⟩
      [.call (callAt "second" 10), .call (callAt "third" 14),
        .call (callAt "third" 15)]).isSome = true)
  exact ⟨w', hrun, (restarts_spaced fiveSeconds hrun).2, by decide +kernel⟩

/-! ### A new bundle -/

/-- **The workload is restarted for a new bundle**, which is on record then. -/
def RestartedFor (r : Resigner) (o : Deployed Rest) (inp : ResignInput) (bundleHash : String) :
    Prop :=
  ∃ t, (r.maybeRestartForResign o inp).2 = some t ∧
    (r.maybeRestartForResign o inp).1.templateAnnotations.lookup annotationResignTrigger =
      some (r.text.format t) ∧
    (r.maybeRestartForResign o inp).1.annotations.lookup annotationBundleHash = some bundleHash

/-- The last restart that is on record, if there is one that can be read, is a grace period old. -/
def OldTrigger (r : Resigner) (o : Deployed Rest) (now : Moment) : Prop :=
  ∀ ts ∈ o.templateAnnotations.lookup annotationResignTrigger, ∀ lastTrigger ∈ r.text.parse ts,
    r.grace ≤ saturate (now.ns - lastTrigger)

theorem triggeredRecently_eq_false {now : Moment} (h : r.OldTrigger o now) :
    r.triggeredRecently o now = false := by
  rw [triggeredRecently]
  split
  · rfl
  · rename_i lastTrigger hparse
    obtain ⟨ts, hts, hlast⟩ := Option.bind_eq_some_iff.mp hparse
    exact decide_eq_false (not_lt.mpr (h ts hts lastTrigger hlast))

/-- **A new bundle leads to a restart** just if the leaf is not one that is about to expire and
for which there was a restart already. -/
theorem rotation_restarts_iff (r : Resigner) (o : Deployed Rest) (inp : ResignInput)
    (bundleHash : String) (hkind : inp.kind.any hasAccessor = true) (hcalls : inp.Succeeds)
    (hcurrent : inp.bundleHash = some bundleHash) (hnew : bundleHash ≠ "" ∧ o.bundleHash ≠ "" ∧
      o.bundleHash ≠ bundleHash) (hold : r.OldTrigger o inp.since) :
    r.RestartedFor o inp bundleHash ↔ ¬ (inp.leafNotAfter.isZero = false ∧
        saturate (inp.leafNotAfter.ns - inp.untilExpiry.ns) < r.grace ∧
        (o.templateAnnotations.lookup annotationResignLeafExpiry).getD "" =
          r.text.format inp.leafNotAfter) := by
  obtain ⟨hget, now, rest, hattempts⟩ := hcalls
  have hready : (!(inp.kind.any hasAccessor && inp.get) ||
      r.triggeredRecently o inp.since) = false := by
    rw [hkind, hget, triggeredRecently_eq_false hold]
    rfl
  have hrotated : rotated o.toWorkload bundleHash = true := by
    simp only [rotated, Bool.and_eq_true, decide_eq_true_eq]
    exact ⟨⟨hnew.2.1, hnew.1⟩, hnew.2.2⟩
  have hwritten : writeOnConflict
      (fun now => some (r.restarted o bundleHash inp.leafNotAfter now)) 5 inp.attempts =
      some (now, r.restarted o bundleHash inp.leafNotAfter now) := by
    rw [hattempts]
    rfl
  by_cases hhidden : (r.leafExpires inp.leafNotAfter inp.untilExpiry &&
      r.expiryStored o inp.leafNotAfter) = true
  · have hnone : r.maybeRestartForResign o inp = (o, none) := by
      rw [maybeRestartForResign, hcurrent]
      dsimp only
      rw [hready, if_neg Bool.false_ne_true, if_pos hhidden]
    refine iff_of_false ?_ (not_not.mpr ?_)
    · rintro ⟨t, ht, -⟩
      rw [hnone] at ht
      cases ht
    · simpa [leafExpires, expiryStored, and_assoc] using hhidden
  · have hsome : r.maybeRestartForResign o inp =
        (r.restarted o bundleHash inp.leafNotAfter now, some now) := by
      rw [maybeRestartForResign, hcurrent]
      dsimp only
      rw [hready, if_neg Bool.false_ne_true, if_neg hhidden, hrotated, Bool.or_true, if_pos rfl,
        hwritten]
    refine iff_of_true ⟨now, ?_, ?_, ?_⟩ ?_
    · rw [hsome]
    · rw [hsome]
      exact r.lookup_trigger_restarted _ _ _ _
    · rw [hsome]
      exact r.lookup_hash_restarted _ _ _ _
    · simpa [leafExpires, expiryStored, and_assoc] using hhidden

theorem rotation_restarts_second : fiveSeconds.RestartedFor hashedFirst { callAt "second" 10 with
      attempts := [⟨true, atSecond 10, .ok⟩] } "second" :=
  (rotation_restarts_iff fiveSeconds hashedFirst _ "second" rfl ⟨rfl, _, _, rfl⟩ rfl
    (by decide +kernel) (by rintro ts ⟨⟩)).mpr (by decide +kernel)

/-- **A new bundle that goes unnoticed**: the leaf expires in two seconds, and a restart for this
very expiry is on record from long ago. -/
theorem rotation_hidden :
    let o : Deployed Unit := { hashedFirst with
      templateAnnotations := ((∅ : StringMap).insert annotationResignTrigger
        (strokes.format (atSecond 50))).insert annotationResignLeafExpiry
          (strokes.format (atSecond 90)) }
    let inp : ResignInput := { callAt "second" 88 with attempts := [⟨true, atSecond 88, .ok⟩] }
    inp.kind.any hasAccessor = true ∧ inp.Succeeds ∧ inp.bundleHash = some "second" ∧
      o.bundleHash = "first" ∧ fiveSeconds.OldTrigger o inp.since ∧
      ¬ fiveSeconds.RestartedFor o inp "second" := by
  refine ⟨rfl, ⟨rfl, _, _, rfl⟩, rfl, by decide +kernel, ?_, ?_⟩
  · have hold : ∀ ts ∈ some (strokes.format (atSecond 50)), ∀ lastTrigger ∈ strokes.parse ts,
        fiveSeconds.grace ≤ saturate ((atSecond 88).ns - lastTrigger) := by decide +kernel
    exact hold
  · rintro ⟨t, ht, -⟩
    have hnone : (fiveSeconds.maybeRestartForResign
        { hashedFirst with
          templateAnnotations := ((∅ : StringMap).insert annotationResignTrigger
            (strokes.format (atSecond 50))).insert annotationResignLeafExpiry
              (strokes.format (atSecond 90)) }
        { callAt "second" 88 with attempts := [⟨true, atSecond 88, .ok⟩] }).2.isNone = true := by
      decide +kernel
    rw [ht] at hnone
    cases hnone

end Resigner

end Rossoctl.Cards
