import Mathlib.Data.Finset.Basic
import Mathlib.Logic.Relation
import Rossoctl.Bundle.Coherence

/-!
# The bundle service as a transition system

The same service as `Rossoctl.Bundle.Service.getBundle` and
`Rossoctl.Bundle.Watcher.invalidate`, at the grain of its locks. A call of
`GetBundle` has a program counter, and a step of it is one access to a cache, one
read of the store, or one operation on the table of flights or the build slots;
between two steps of one call anything else may happen. The informer changes its
store and queues the object for the handler, which later works through the calls of
`Rossoctl.Bundle.Watcher.invalidate` one by one.

Concurrent calls for one client share a flight, as `singleflight` has it: the
first leads, the others wait, and all return what the first one finds. A call whose
context has ended may give up while it waits for a build slot.

A call that runs alone does what the sequential definition says:
`Rossoctl.Bundle.Service.advance_alone`.
-/

namespace Rossoctl.Bundle

open Option List

/-! ### Calls -/

/-- The limit on builds at a time. -/
def maxConcurrentBuilds : ℕ := 10

/-- What a flight ends with. -/
abbrev BuildResult := Except BundleError (Data × String)

/-- Where a call of `GetBundle` is, and what it carries there. -/
inductive Pc where
  | checkETag
  | checkBundle
  /-- Has found an archive, and is about to set its ETag. -/
  | hit (data : Data) (etag : String)
  | enter
  /-- Waits for the result of a flight that another call leads. -/
  | waiting
  | acquire
  | lookupGlobal
  | readGlobal
  | fillGlobal (g : List PolicyEntry)
  | lookupNamespace (g : List PolicyEntry)
  | readNamespace (g : List PolicyEntry)
  | fillNamespace (g n : List PolicyEntry)
  | readClient (g n : List PolicyEntry)
  | setETag (policies : List Policy)
  | setBundle (data : Data) (hash : String)
  | release (r : BuildResult)
  | finish (r : BuildResult)
  | returned (r : Except BundleError (Option Data × String))
  deriving DecidableEq

/-- A call of `GetBundle`. -/
structure Call where
  id : ClientIdentity
  ifNoneMatch : String
  /-- Its context has ended. -/
  cancelled : Bool := false
  pc : Pc := .checkETag

/-- What the calls share. -/
structure Shared where
  store : Indexer
  now : ℕ := 0
  caches : Caches
  /-- The build slots in use. -/
  slots : ℕ := 0
  /-- The clients with a flight under way. -/
  flights : Finset String := ∅

/-- The result of a flight, for every call that is on it. -/
def resultOf (r : BuildResult) : Except BundleError (Option Data × String) :=
  r.map fun (data, hash) => (some data, hash)

namespace Service

variable (sv : Service)

/-- One step of a call before and around its flight. -/
def stepServe (b : Shared) (id : ClientIdentity) (ifNoneMatch : String) : Pc → Option (Shared × Pc)
  | .checkETag =>
    if notModified b.caches id ifNoneMatch then some (b, .returned (.ok (none, ifNoneMatch)))
    else some (b, .checkBundle)
  | .checkBundle =>
    let r := b.caches.bundle.get b.now id.cacheKey
    some ({ b with caches := { b.caches with bundle := r.2 } },
      match r.1 with
      | some (data, etag) => .hit data etag
      | none => .enter)
  | .hit data etag =>
    some ({ b with caches := { b.caches with etag := b.caches.etag.insert id.cacheKey etag } },
      .returned (.ok (some data, etag)))
  | .enter =>
    if id.cacheKey ∈ b.flights then some (b, .waiting)
    else some ({ b with flights := insert id.cacheKey b.flights }, .acquire)
  | .acquire =>
    if b.slots < maxConcurrentBuilds then some ({ b with slots := b.slots + 1 }, .lookupGlobal)
    else none
  | .release r => some ({ b with slots := b.slots - 1 }, .finish r)
  | _ => none

/-- One step of a build. -/
def stepBuild (b : Shared) (id : ClientIdentity) : Pc → Option (Shared × Pc)
  | .lookupGlobal =>
    match b.caches.policy.get .global with
    | some d => some (b, .lookupNamespace d.policies)
    | none => some (b, .readGlobal)
  | .readGlobal => some (b, .fillGlobal (sv.tierPolicies b.store .global))
  | .fillGlobal g =>
    let policy := b.caches.policy.set (sv.policyData g) .global
    some ({ b with caches := { b.caches with policy := policy } }, .lookupNamespace g)
  | .lookupNamespace g =>
    match b.caches.policy.get (.namespace id.ns) with
    | some d => some (b, .readClient g d.policies)
    | none => some (b, .readNamespace g)
  | .readNamespace g => some (b, .fillNamespace g (sv.tierPolicies b.store (.namespace id.ns)))
  | .fillNamespace g n =>
    let policy := b.caches.policy.set (sv.policyData n) (.namespace id.ns)
    some ({ b with caches := { b.caches with policy := policy } }, .readClient g n)
  | .readClient g n =>
    match getClientPolicies b.store id with
    | .error err => some (b, .release (.error err))
    | .ok ps => some (b, .setETag (allPolicies g n ps))
  | .setETag policies =>
    let etag := b.caches.etag.insert id.cacheKey (sv.tools.contentHash policies)
    some ({ b with caches := { b.caches with etag := etag } },
      match sv.archiveOf policies with
      | .error err => .release (.error err)
      | .ok (data, hash) => .setBundle data hash)
  | .setBundle data hash =>
    let bundle := b.caches.bundle.set b.now id.cacheKey data hash
    some ({ b with caches := { b.caches with bundle := bundle } }, .release (.ok (data, hash)))
  | _ => none

/-- **One step of a call**, apart from the end of a flight, which concerns others. The
two parts have no program counter in common. -/
def stepCall (b : Shared) (c : Call) : Option (Shared × Pc) :=
  stepServe b c.id c.ifNoneMatch c.pc <|> sv.stepBuild b c.id c.pc

end Service

/-! ### The system -/

/-- The service at a moment. -/
structure System where
  shared : Shared
  /-- The objects that the handler has not been given yet. -/
  queue : List AuthorizationPolicy := []
  /-- What the handler still has to do for the object it is at. -/
  handling : List CacheOp := []
  calls : List Call := []

/-- The service when it starts. -/
def System.init (maxEntries ttl : ℤ) : System where
  shared := { store := Indexer.empty, caches := Caches.new maxEntries ttl }

/-- What can happen at a moment. -/
inductive Move where
  /-- The informer's store changes. -/
  | change (e : StoreEvent)
  /-- The handler is given the next object. -/
  | deliver
  /-- The handler makes its next call. -/
  | invalidate
  | request (id : ClientIdentity) (ifNoneMatch : String)
  /-- A call takes its next step. -/
  | advance (i : ℕ)
  /-- The context of a call ends. -/
  | cancel (i : ℕ)
  /-- A call gives up waiting for a build slot. -/
  | abort (i : ℕ)
  | tick (d : ℕ)

namespace System

/-- A call goes on to another place. -/
def moveTo (st : System) (i : ℕ) (c : Call) (pc : Pc) : System :=
  { st with calls := st.calls.set i { c with pc := pc } }

/-- A call that waits for the flight of a client gets the result. -/
def wake (key : String) (r : BuildResult) (c : Call) : Call :=
  if c.pc = .waiting ∧ c.id.cacheKey = key then { c with pc := .returned (resultOf r) } else c

/-- A flight ends: its leader returns, and so do all that wait for it. -/
def endFlight (st : System) (i : ℕ) (c : Call) (r : BuildResult) : System where
  shared := { st.shared with flights := st.shared.flights.erase c.id.cacheKey }
  queue := st.queue
  handling := st.handling
  calls := (st.calls.set i { c with pc := .returned (resultOf r) }).map (wake c.id.cacheKey r)

end System

namespace Service

variable (sv : Service)

/-- The next step of a call in the system. -/
def advance (st : System) (i : ℕ) (c : Call) : Option System :=
  match c.pc with
  | .finish r => some (st.endFlight i c r)
  | _ => (sv.stepCall st.shared c).map fun (b, pc) => { st with shared := b }.moveTo i c pc

/-- **One move of the system.** -/
def move (st : System) : Move → Option System
  | .change e => (st.shared.store.apply e).map fun (s', u) =>
      { st with shared := { st.shared with store := s' }, queue := st.queue ++ [u] }
  | .deliver =>
    match st.handling, st.queue with
    | [], u :: queue => some { st with handling := sv.watcher.invalidate u, queue := queue }
    | _, _ => none
  | .invalidate =>
    match st.handling with
    | [] => none
    | op :: ops =>
      some { st with
        shared := { st.shared with caches := op.apply st.shared.caches }, handling := ops }
  | .request id ifNoneMatch =>
    some { st with calls := st.calls ++ [{ id := id, ifNoneMatch := ifNoneMatch }] }
  | .advance i => (st.calls[i]?).bind (sv.advance st i)
  | .cancel i => (st.calls[i]?).map fun c =>
      { st with calls := st.calls.set i { c with cancelled := true } }
  | .abort i => (st.calls[i]?).bind fun c =>
      if c.pc = .acquire ∧ c.cancelled = true then
        some (st.moveTo i c (.finish (.error .cancelled)))
      else none
  | .tick d => some { st with shared := { st.shared with now := st.shared.now + d } }

/-- What the handler will still do for the events there have been. -/
def pending (st : System) : List CacheOp :=
  st.handling ++ st.queue.flatMap sv.watcher.invalidate

/-! ### A call that runs alone -/

/-- One step of a call that nothing comes between. -/
def SoloStep (c : Call) (x y : Shared × Pc) : Prop :=
  sv.stepCall x.1 { c with pc := x.2 } = some y

/-- Steps of a call that nothing comes between. -/
abbrev Solo (c : Call) : Shared × Pc → Shared × Pc → Prop := Relation.ReflTransGen (sv.SoloStep c)

variable {sv} {c : Call}

variable {y : Shared × Pc} {st : System}

variable {b : Shared} {pc : Pc} {i : ℕ}

theorem soloStep_serve (h : stepServe b c.id c.ifNoneMatch pc = some y) :
    sv.SoloStep c (b, pc) y := by
  rw [SoloStep, stepCall]
  rw [h]
  rfl

theorem soloStep_build (hserve : stepServe b c.id c.ifNoneMatch pc = none)
    (h : sv.stepBuild b c.id pc = some y) : sv.SoloStep c (b, pc) y := by
  rw [SoloStep, stepCall]
  rw [hserve, h]
  rfl

theorem solo_global (b : Shared) : sv.Solo c (b, .lookupGlobal)
      ({ b with caches := { b.caches with policy := (sv.getGlobalPolicies b.store
          b.caches.policy).2 } },
        .lookupNamespace (sv.getGlobalPolicies b.store b.caches.policy).1) := by
  rw [getGlobalPolicies, getTier]
  cases hget : b.caches.policy.get .global with
  | some d => exact .single (soloStep_build rfl (by simp only [stepBuild, hget]))
  | none =>
    exact .head (soloStep_build rfl (by simp only [stepBuild, hget]; rfl))
      (.head (soloStep_build rfl rfl) (.single (soloStep_build rfl rfl)))

theorem solo_namespace (b : Shared) (g : List PolicyEntry) : sv.Solo c (b, .lookupNamespace g)
      ({ b with caches := { b.caches with policy := (sv.getNamespacePolicies b.store
          b.caches.policy c.id.ns).2 } },
        .readClient g (sv.getNamespacePolicies b.store b.caches.policy c.id.ns).1) := by
  rw [getNamespacePolicies, getTier]
  cases hget : b.caches.policy.get (.namespace c.id.ns) with
  | some d => exact .single (soloStep_build rfl (by simp only [stepBuild, hget]))
  | none =>
    exact .head (soloStep_build rfl (by simp only [stepBuild, hget]; rfl))
      (.head (soloStep_build rfl rfl) (.single (soloStep_build rfl rfl)))

theorem solo_build (b : Shared) : sv.Solo c (b, .lookupGlobal)
      ({ b with caches := (sv.buildBundle b.store b.now b.caches c.id).2 },
        .release (sv.buildBundle b.store b.now b.caches c.id).1) := by
  refine (solo_global b).trans ((solo_namespace _ _).trans ?_)
  rw [buildBundle]
  cases hps : getClientPolicies b.store c.id with
  | error err => exact .single (soloStep_build rfl (by simp only [stepBuild, hps]))
  | ok ps =>
    refine .head (soloStep_build rfl (by simp only [stepBuild, hps]; rfl)) ?_
    dsimp only
    cases harch : sv.archiveOf (allPolicies (sv.getGlobalPolicies b.store b.caches.policy).1
        (sv.getNamespacePolicies b.store (sv.getGlobalPolicies b.store b.caches.policy).2
          c.id.ns).1 ps) with
    | error err => exact .single (soloStep_build rfl (by simp only [stepBuild, harch]))
    | ok r =>
      exact .head (soloStep_build rfl (by simp only [stepBuild, harch]; rfl))
        (.single (soloStep_build rfl rfl))

/-- Up to the end of its flight, a call that finds no other on its way does what
`getBundle` says. -/
theorem solo_serve (b : Shared) (hflight : c.id.cacheKey ∉ b.flights)
    (hslot : b.slots < maxConcurrentBuilds) :
    ∃ b' pc, sv.Solo c (b, .checkETag) (b', pc) ∧
      b'.caches = (sv.getBundle b.store b.now b.caches c.id c.ifNoneMatch).2 ∧
      (pc = .returned (sv.getBundle b.store b.now b.caches c.id c.ifNoneMatch).1 ∨
        ∃ r, pc = .finish r ∧
          resultOf r = (sv.getBundle b.store b.now b.caches c.id c.ifNoneMatch).1) := by
  rw [getBundle]
  by_cases hmod : notModified b.caches c.id c.ifNoneMatch = true
  · rw [if_pos hmod]
    exact ⟨b, _, .single (soloStep_serve (by rw [stepServe, if_pos hmod])), rfl, .inl rfl⟩
  rw [if_neg hmod]
  have hcheck : sv.SoloStep c (b, .checkETag) (b, .checkBundle) :=
    soloStep_serve (by rw [stepServe, if_neg hmod])
  dsimp only
  cases hget : (b.caches.bundle.get b.now c.id.cacheKey).1 with
  | some r =>
    exact ⟨_, _, .head hcheck (.head (soloStep_serve (by simp only [stepServe, hget]; rfl))
      (.single (soloStep_serve rfl))), rfl, .inl rfl⟩
  | none =>
    have hmiss : sv.SoloStep c (b, .checkBundle) ({ b with
            caches := { b.caches with bundle := (b.caches.bundle.get b.now c.id.cacheKey).2 } },
          .enter) := soloStep_serve (by simp only [stepServe, hget])
    exact ⟨_, _, .head hcheck (.head hmiss (.head
      (soloStep_serve (by rw [stepServe, if_neg hflight]))
      (.head (soloStep_serve (by rw [stepServe, if_pos hslot]))
        ((solo_build _).tail (soloStep_serve rfl))))), rfl, .inr ⟨_, rfl, rfl⟩⟩

theorem move_advance (hi : i < st.calls.length) {b b' : Shared} {pc pc' : Pc}
    (hstep : sv.SoloStep c (b, pc) (b', pc')) :
    sv.move ({ st with shared := b }.moveTo i c pc) (.advance i) =
      some ({ st with shared := b' }.moveTo i c pc') := by
  have hcall : ({ st with shared := b }.moveTo i c pc).calls[i]? = some { c with pc := pc } := by
    simp [System.moveTo, hi]
  rw [move, hcall, bind_some, advance]
  split
  · rename_i r hr
    obtain rfl : pc = .finish r := hr
    cases hstep
  · have hcs : sv.stepCall ({ st with shared := b }.moveTo i c pc).shared { c with pc := pc } =
        some (b', pc') := hstep
    rw [hcs]
    simp [System.moveTo]

theorem run_advance (hi : i < st.calls.length) {x : Shared × Pc} (h : sv.Solo c x y) :
    ∃ n, run sv.move ({ st with shared := x.1 }.moveTo i c x.2) (replicate n (.advance i)) =
      some ({ st with shared := y.1 }.moveTo i c y.2) := by
  induction h using Relation.ReflTransGen.head_induction_on with
  | refl => exact ⟨0, rfl⟩
  | head hstep _ ih =>
    obtain ⟨n, hn⟩ := ih
    exact ⟨n + 1, by rw [replicate_succ, run_cons_of_step (move_advance hi hstep), hn]⟩

/-- **A call that runs alone** – no flight for its client, a build slot free, and
nothing else happening – does what the sequential definition says. -/
theorem advance_alone (hc : st.calls[i]? = some c) (hpc : c.pc = .checkETag)
    (hflight : c.id.cacheKey ∉ st.shared.flights) (hslot : st.shared.slots < maxConcurrentBuilds) :
    ∃ n st', run sv.move st (replicate n (.advance i)) = some st' ∧
      st'.shared.caches = (sv.getBundle st.shared.store st.shared.now st.shared.caches c.id
        c.ifNoneMatch).2 ∧
      (st'.calls[i]?).map Call.pc = some (.returned (sv.getBundle st.shared.store st.shared.now
        st.shared.caches c.id c.ifNoneMatch).1) := by
  obtain ⟨hi, hget⟩ := List.getElem?_eq_some_iff.mp hc
  have hstart : { st with shared := st.shared }.moveTo i c .checkETag = st := by
    rw [System.moveTo, ← hpc, ← hget, set_getElem_self]
  obtain ⟨b', pc, hsolo, hcaches, hend⟩ := @solo_serve sv c st.shared hflight hslot
  obtain ⟨n, hrun⟩ := run_advance hi hsolo
  rw [hstart] at hrun
  rcases hend with rfl | ⟨r, rfl, hr⟩
  · exact ⟨n, _, hrun, hcaches, by simp [System.moveTo, hi]⟩
  · -- One more step ends the flight.
    refine ⟨n + 1, System.endFlight (System.moveTo { st with shared := b' } i c (.finish r)) i
      { c with pc := .finish r } r, ?_, hcaches, ?_⟩
    · rw [replicate_succ', run_append, hrun, bind_some, run_cons, move]
      simp only [System.moveTo, getElem?_set_self hi, bind_some, advance, run_nil]
    · simp [System.endFlight, System.moveTo, System.wake, hi, hr]

/-- A first call, with a policy in the store. -/
def firstCall : System where
  shared :=
    { store := ((Indexer.empty.apply
        (.create (teamPolicy "shared" .namespace "a.rego" "old"))).map Prod.fst).getD Indexer.empty
      caches := Caches.new 0 0 }
  calls := [{ id := agentId, ifNoneMatch := "" }]

theorem advance_alone_firstCall : (plainService.tierPolicies firstCall.shared.store
        (.namespace "team")).length = 1 ∧
      ∃ n st', run plainService.move firstCall (replicate n (.advance 0)) = some st' ∧
        st'.shared.caches = (plainService.getBundle firstCall.shared.store firstCall.shared.now
          firstCall.shared.caches agentId "").2 := by
  obtain ⟨n, st', hrun, hcaches, -⟩ := @advance_alone plainService
    { id := agentId, ifNoneMatch := "" } firstCall 0 rfl rfl (by decide +kernel) (by decide)
  exact ⟨by decide +kernel, n, st', hrun, hcaches⟩

/-! ### The build slots -/

/-- Where a call has a build slot. -/
def building : Pc → Bool
  | .lookupGlobal | .readGlobal | .fillGlobal _ | .lookupNamespace _ | .readNamespace _
  | .fillNamespace _ _ | .readClient _ _ | .setETag _ | .setBundle _ _ | .release _ => true
  | _ => false

/-- **The slots in use are those of the builds**, and there are not too many. -/
def SlotsKept (st : System) : Prop :=
  st.shared.slots = st.calls.countP (fun c => building c.pc) ∧
    st.shared.slots ≤ maxConcurrentBuilds

variable {b' : Shared} {pc' : Pc} {st' : System}

/-- A step of a call takes a slot where a build begins, and gives it back where it ends. -/
theorem slots_stepCall (h : sv.stepCall b c = some (b', pc')) (hle : b.slots ≤ maxConcurrentBuilds)
    (hpos : building c.pc = true → 0 < b.slots) :
    b'.slots + (building c.pc).toNat = b.slots + (building pc').toNat ∧
      b'.slots ≤ maxConcurrentBuilds := by
  simp only [stepCall, orElse_eq_orElse, orElse_eq_or, or_eq_some_iff] at h
  generalize c.pc = pc at h hpos
  rcases h with h | ⟨-, h⟩
  · unfold stepServe at h
    repeat' split at h
    all_goals cases h
    all_goals simp_all [building]
    -- what is left is the look-up of an archive, and the slot that is taken or given back
    · cases (b.caches.bundle.get b.now c.id.cacheKey).1 <;> rfl
    all_goals omega
  · unfold stepBuild at h
    repeat' split at h
    all_goals cases h
    all_goals simp_all [building]

theorem SlotsKept.set (h : SlotsKept st) (hc : st.calls[i]? = some c) {c' : Call}
    (heq : b'.slots + (building c.pc).toNat = st.shared.slots + (building c'.pc).toNat)
    (hle : b'.slots ≤ maxConcurrentBuilds) :
    SlotsKept { st with shared := b', calls := st.calls.set i c' } := by
  refine ⟨?_, hle⟩
  obtain ⟨hi, rfl⟩ := List.getElem?_eq_some_iff.mp hc
  have hcount := boole_getElem_le_countP (p := fun c => building c.pc) hi
  rw [h.1] at heq
  show b'.slots = (st.calls.set i c').countP _
  rw [countP_set hi]
  generalize building st.calls[i].pc = x at hcount heq ⊢
  generalize building c'.pc = y at heq ⊢
  cases x <;> cases y <;> simp only [Bool.toNat_true, Bool.toNat_false, reduceIte,
    Bool.false_eq_true] at hcount heq ⊢ <;> omega

theorem SlotsKept.advance (h : SlotsKept st) (hc : st.calls[i]? = some c)
    (hstep : sv.advance st i c = some st') : SlotsKept st' := by
  rw [Service.advance] at hstep
  split at hstep
  · -- the end of a flight: its leader has no slot any more, and those that wait had none
    rename_i r hpc
    cases hstep
    have hset : SlotsKept
        { st with calls := st.calls.set i { c with pc := .returned (resultOf r) } } :=
      h.set hc (by rw [hpc]; rfl) h.2
    refine ⟨hset.1.trans ?_, h.2⟩
    rw [System.endFlight, countP_map]
    refine countP_congr fun c' _ => ?_
    rw [Function.comp_apply, System.wake]
    split
    · rename_i hwake
      rw [hwake.1]
      rfl
    · rfl
  · obtain ⟨⟨b', pc'⟩, hcall, rfl⟩ := map_eq_some_iff.mp hstep
    have hpos : building c.pc = true → 0 < st.shared.slots := fun hb => by
      rw [h.1, countP_pos_iff]
      exact ⟨c, mem_of_getElem? hc, hb⟩
    obtain ⟨heq, hle⟩ := slots_stepCall hcall h.2 hpos
    exact h.set hc heq hle

theorem SlotsKept.move (h : SlotsKept st) {m : Move} (hstep : sv.move st m = some st') :
    SlotsKept st' := by
  cases m with
  | change e =>
    obtain ⟨_, -, rfl⟩ := map_eq_some_iff.mp hstep
    exact h
  | deliver | invalidate =>
    rw [Service.move] at hstep
    split at hstep <;> cases hstep
    exact h
  | request id ifNoneMatch =>
    cases hstep
    exact ⟨h.1.trans (by simp [building]), h.2⟩
  | advance i =>
    obtain ⟨c, hc, hadvance⟩ := bind_eq_some_iff.mp hstep
    exact h.advance hc hadvance
  | cancel i =>
    obtain ⟨c, hc, rfl⟩ := map_eq_some_iff.mp hstep
    exact h.set hc rfl h.2
  | abort i =>
    obtain ⟨c, hc, habort⟩ := bind_eq_some_iff.mp hstep
    split at habort <;> cases habort
    rename_i hpc
    exact h.set hc (by rw [hpc.1]; rfl) h.2
  | tick d =>
    cases hstep
    exact h

/-- **No build slot is lost or taken twice**, however calls, events and time interleave. -/
theorem slotsKept_run (sv : Service) (maxEntries ttl : ℤ) (ms : List Move) (st : System)
    (hrun : run sv.move (.init maxEntries ttl) ms = some st) : SlotsKept st :=
  run_invariant_unguarded (fun _ _ _ h => h.move) ⟨rfl, Nat.zero_le _⟩ hrun

/-- One call builds, and another for the same client waits. -/
def sharedRun : List Move :=
  [.request agentId "", .request agentId ""] ++ replicate 4 (.advance 0) ++ [.advance 1]

theorem slotsKept_sharedRun : ∃ st, run plainService.move (.init 0 0) sharedRun = some st ∧
    st.shared.slots = 1 ∧ SlotsKept st := by
  have hrun : ((run plainService.move (.init 0 0) sharedRun).any fun st => st.shared.slots = 1) =
      true := by decide +kernel
  obtain ⟨st, hst, hslots⟩ := (any_eq_true _ _).mp hrun
  exact ⟨st, hst, of_decide_eq_true hslots, slotsKept_run _ _ _ _ _ hst⟩

end Service

end Rossoctl.Bundle
