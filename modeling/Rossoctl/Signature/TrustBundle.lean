import Mathlib.Data.List.Infix
import Rossoctl.Kube
import Rossoctl.Run
import Rossoctl.Signature.X5C

/-!
# Refreshing the trust bundle

`maybeRefreshTrustBundle` and `refreshTrustBundle` (`internal/signature/x5c.go`), step by step. Many
calls of `VerifySignature` may be under way at once. Each looks at the age of the bundle, reads the
ConfigMap, parses what it has read, and installs the result; only the first and the last of these
happen under the lock, and between any two of them other calls may do any of theirs
(`Rossoctl.Signature.X5C.step`). The three fields of the provider are written together, in one
place.

So they always go together: `Rossoctl.Signature.X5C.oneLoad` says that after any interleaving,
with whatever the ConfigMap was found to hold, they are those of the last installation, and come
from what its call had read. A pool of `nil` would stand for the roots of the system; no chain is
validated with it.
-/

namespace Rossoctl.Signature

open Kube List Option Function

/-- The certificates of a pool, as they were added. -/
abbrev CertPool := List Certificate

/-! ### Bundles -/

/-- A PEM block. -/
structure PEMBlock where
  type : String
  bytes : Bytes

/-- One key of a SPIFFE trust bundle document. -/
structure SpiffeBundleKey where
  use : String
  x5c : List String

/-- What else a bundle is read with. -/
structure BundleCodec where
  /-- The blocks that `pem.Decode` finds, one after the other. -/
  pemBlocks : String → List PEMBlock
  /-- `json.Unmarshal` into a `spiffeBundleJSON`. -/
  unmarshalBundle : String → Except String (List SpiffeBundleKey)
  /-- `hashString`. -/
  hashString : String → String

/-- The provider's configuration. -/
structure X5C where
  primitives : Primitives CertPool
  codec : BundleCodec
  configMapName : String
  configMapNS : String
  configMapKey : String := "bundle.spiffe"
  refreshInterval : ℤ
  /-- What `leaf.Verify` goes by if it is given no roots. -/
  systemRoots : CertPool

namespace X5C

variable (x : X5C)

/-- `parsePEMBundle`: blocks of another type, and certificates that do not parse, are skipped. -/
def parsePEMBundle (raw : String) : CertPool :=
  (x.codec.pemBlocks raw).filterMap fun block =>
    if block.type ≠ "CERTIFICATE" then none
    else
      match x.primitives.parseCertificate block.bytes with
      | .error _ => none
      | .ok cert => some cert

/-- One certificate of a SPIFFE bundle. -/
def parseBundleCert (b64 : String) : Except String Certificate :=
  match x.primitives.stdDecode b64 with
  | .error e => .error ("failed to decode x5c cert from SPIFFE bundle: " ++ e)
  | .ok der =>
    match x.primitives.parseCertificate der with
    | .error e => .error ("failed to parse certificate from SPIFFE bundle: " ++ e)
    | .ok cert => .ok cert

/-- `parseSPIFFEJSONBundle`: one bad certificate spoils the bundle. -/
def parseSPIFFEJSONBundle (raw : String) : Except String CertPool :=
  match x.codec.unmarshalBundle raw with
  | .error e => .error ("failed to parse SPIFFE bundle JSON: " ++ e)
  | .ok keys => ((keys.filter fun k => k.use = "x509-svid").flatMap SpiffeBundleKey.x5c).mapM
      x.parseBundleCert

/-- A pool that is not empty. -/
def nonemptyPool (format : String) (pool : CertPool) : Except String CertPool :=
  if pool = [] then .error ("trust bundle contains no certificates (format: " ++ format ++ ")")
  else .ok pool

/-- The pool of a bundle in either format. -/
def parseBundle (raw : String) : Except String CertPool :=
  if "-----BEGIN CERTIFICATE-----".toList <:+: raw.toList then
    nonemptyPool "PEM" (x.parsePEMBundle raw)
  else
    match x.parseSPIFFEJSONBundle raw with
    | .error e => .error e
    | .ok pool => nonemptyPool "SPIFFE JSON" pool

/-- **What `refreshTrustBundle` makes of a ConfigMap**: the text of the bundle, and its pool. -/
def loadBundle (data : StringMap) : Except String (String × CertPool) :=
  match data.lookup x.configMapKey with
  | none => .error ("trust bundle configmap key " ++ quoted x.configMapKey ++ " not found or empty")
  | some raw =>
    if raw = "" then
      .error ("trust bundle configmap key " ++ quoted x.configMapKey ++ " not found or empty")
    else
      match x.parseBundle raw with
      | .error e => .error e
      | .ok pool => .ok (raw, pool)

/-! ### Calls -/

/-- What the lock of the provider guards. -/
structure TrustState where
  trustBundle : Option CertPool := none
  lastBundleLoad : ℤ := 0
  bundleHash : String := ""

/-- Where a call of `VerifySignature` is. A refresh is `initial` if there was no bundle when the
call looked. -/
inductive Phase where
  | checking
  | reading (initial : Bool)
  | parsing (initial : Bool) (data : StringMap)
  | installing (initial : Bool) (raw : String) (pool : CertPool)
  /-- The loop over the signatures. -/
  | verifying (signatures : List AgentCardSignature)
  | done (result : VerificationResult)

/-- A call of `VerifySignature`. -/
structure Call where
  cardData : AgentCardData
  signatures : List AgentCardSignature
  phase : Phase := .checking

/-- The provider, its calls, and the roots of every chain validation so far. -/
structure World where
  provider : TrustState := {}
  calls : ℕ → Option Call := fun _ => none
  validations : List (Option CertPool) := []

/-- A step of a call, with what it finds outside of the provider: the time, or the answer to its
request for the ConfigMap. -/
inductive Action where
  | call (id : ℕ) (cardData : AgentCardData) (signatures : List AgentCardSignature)
  | check (id : ℕ) (now : ℤ)
  | read (id : ℕ) (answer : Except String StringMap)
  | parse (id : ℕ)
  | install (id : ℕ) (now : ℤ)
  | validate (id : ℕ)

/-- A call goes on. -/
def World.move (w : World) (id : ℕ) (call : Call) (phase : Phase) : World :=
  { w with calls := update w.calls id (some { call with phase }) }

/-- A refresh has failed: an initial one ends the call, another one is passed over. -/
def afterFailure (call : Call) (initial : Bool) (e : String) : Phase :=
  if initial then
    .done (failed ("trust bundle unavailable: initial trust bundle load failed: " ++ e))
  else .verifying call.signatures

/-- The age of the bundle decides whether it is refreshed. -/
def afterCheck (provider : TrustState) (call : Call) (now : ℤ) : Phase :=
  if provider.trustBundle.isNone then .reading true
  else if now - provider.lastBundleLoad < x.refreshInterval then .verifying call.signatures
  else .reading false

/-- One round of the loop over the signatures, with the roots of the provider. -/
def afterValidate (provider : TrustState) (call : Call) : List AgentCardSignature → Phase
  | [] => .done (failed "No signature verified via x5c chain validation")
  | sig :: rest =>
    match verifyOne x.primitives (provider.trustBundle.getD x.systemRoots) call.cardData sig with
    | some result => .done result
    | none => .verifying rest

/-- The roots that a round of the loop hands to `validateChain`: none are, if the signature has no
chain. -/
def rootsUsed (provider : TrustState) : List AgentCardSignature → List (Option CertPool)
  | [] => []
  | sig :: _ => if (chainOf x.primitives sig).isSome then [provider.trustBundle] else []

/-- **One step** of one of the calls. -/
def step (w : World) : Action → Option World
  | .call id cardData signatures =>
    if (w.calls id).isSome then none
    else some (w.move id { cardData, signatures } .checking)
  | .check id now =>
    (w.calls id).bind fun call =>
      match call.phase with
      | .checking => some (w.move id call (x.afterCheck w.provider call now))
      | _ => none
  | .read id answer =>
    (w.calls id).bind fun call =>
      match call.phase with
      | .reading initial =>
        match answer with
        | .error e => some (w.move id call (afterFailure call initial
            ("failed to get trust bundle configmap " ++ x.configMapNS ++ "/" ++ x.configMapName ++
              ": " ++ e)))
        | .ok data => some (w.move id call (.parsing initial data))
      | _ => none
  | .parse id =>
    (w.calls id).bind fun call =>
      match call.phase with
      | .parsing initial data =>
        match x.loadBundle data with
        | .error e => some (w.move id call (afterFailure call initial e))
        | .ok (raw, pool) => some (w.move id call (.installing initial raw pool))
      | _ => none
  | .install id now =>
    (w.calls id).bind fun call =>
      match call.phase with
      | .installing _ raw pool =>
        some { w.move id call (.verifying call.signatures) with
          provider := ⟨some pool, now, x.codec.hashString raw⟩ }
      | _ => none
  | .validate id =>
    (w.calls id).bind fun call =>
      match call.phase with
      | .verifying signatures =>
        some { w.move id call (x.afterValidate w.provider call signatures) with
          validations := w.validations ++ x.rootsUsed w.provider signatures }
      | _ => none

variable {x} {w w' : World} {a : Action}

/-- **What a step does**, one case for each action. -/
theorem step_cases (h : x.step w a = some w') :
    (∃ id cardData signatures, a = .call id cardData signatures ∧
        w' = w.move id { cardData, signatures } .checking) ∨
      (∃ id now call, a = .check id now ∧ w' = w.move id call (x.afterCheck w.provider call now)) ∨
      (∃ id answer call initial phase, a = .read id answer ∧ w.calls id = some call ∧
        call.phase = .reading initial ∧ w' = w.move id call phase ∧
        ((∃ e, phase = afterFailure call initial e) ∨
          ∃ data, answer = .ok data ∧ phase = .parsing initial data)) ∨
      (∃ id call initial data phase, a = .parse id ∧ w.calls id = some call ∧
        call.phase = .parsing initial data ∧ w' = w.move id call phase ∧
        ((∃ e, phase = afterFailure call initial e) ∨
          ∃ raw pool, x.loadBundle data = .ok (raw, pool) ∧ phase = .installing initial raw pool)) ∨
      (∃ id now call initial raw pool, a = .install id now ∧ w.calls id = some call ∧
        call.phase = .installing initial raw pool ∧
        w' = { w.move id call (.verifying call.signatures) with
          provider := ⟨some pool, now, x.codec.hashString raw⟩ }) ∨
      ∃ id call signatures, a = .validate id ∧ w.calls id = some call ∧
        call.phase = .verifying signatures ∧
        w' = { w.move id call (x.afterValidate w.provider call signatures) with
          validations := w.validations ++ x.rootsUsed w.provider signatures } := by
  cases a with
  | call id cardData signatures =>
    rw [step] at h
    split at h
    · cases h
    · exact .inl ⟨id, cardData, signatures, rfl, (some.inj h).symm⟩
  | check id now =>
    obtain ⟨call, hcall, h⟩ := bind_eq_some_iff.mp h
    split at h
    · exact .inr (.inl ⟨id, now, call, rfl, (some.inj h).symm⟩)
    · cases h
  | read id answer =>
    obtain ⟨call, hcall, h⟩ := bind_eq_some_iff.mp h
    split at h
    · rename_i initial hphase
      refine .inr (.inr (.inl ?_))
      split at h
      · exact ⟨id, _, call, initial, _, rfl, hcall, hphase, (some.inj h).symm, .inl ⟨_, rfl⟩⟩
      · exact ⟨id, _, call, initial, _, rfl, hcall, hphase, (some.inj h).symm, .inr ⟨_, rfl, rfl⟩⟩
    · cases h
  | parse id =>
    obtain ⟨call, hcall, h⟩ := bind_eq_some_iff.mp h
    split at h
    · rename_i initial data hphase
      refine .inr (.inr (.inr (.inl ?_)))
      split at h
      · exact ⟨id, call, initial, data, _, rfl, hcall, hphase, (some.inj h).symm, .inl ⟨_, rfl⟩⟩
      · rename_i raw pool hload
        exact ⟨id, call, initial, data, _, rfl, hcall, hphase, (some.inj h).symm,
          .inr ⟨raw, pool, hload, rfl⟩⟩
    · cases h
  | install id now =>
    obtain ⟨call, hcall, h⟩ := bind_eq_some_iff.mp h
    split at h
    · rename_i initial raw pool hphase
      exact .inr (.inr (.inr (.inr (.inl ⟨id, now, call, initial, raw, pool, rfl, hcall, hphase,
        (some.inj h).symm⟩))))
    · cases h
  | validate id =>
    obtain ⟨call, hcall, h⟩ := bind_eq_some_iff.mp h
    split at h
    · rename_i signatures hphase
      exact .inr (.inr (.inr (.inr (.inr ⟨id, call, signatures, rfl, hcall, hphase,
        (some.inj h).symm⟩))))
    · cases h

theorem provider_of_step (h : x.step w a = some w') (ha : ∀ id now, a ≠ .install id now) :
    w'.provider = w.provider := by
  obtain ⟨id, cardData, signatures, rfl, rfl⟩ | ⟨id, now, call, rfl, rfl⟩ |
    ⟨id, answer, call, initial, phase, rfl, -, -, rfl, -⟩ |
    ⟨id, call, initial, data, phase, rfl, -, -, rfl, -⟩ |
    ⟨id, now, call, initial, raw, pool, rfl, -⟩ |
    ⟨id, call, signatures, rfl, -, -, rfl⟩ := step_cases h
  · rfl
  · rfl
  · rfl
  · rfl
  · exact absurd rfl (ha id now)
  · rfl

/-! ### One load -/

variable {pool : CertPool}

theorem ne_nil_of_nonemptyPool {format : String} {pool' : CertPool}
    (h : nonemptyPool format pool = .ok pool') : pool' ≠ [] := by
  rw [nonemptyPool] at h
  split at h
  · cases h
  · rename_i hne
    exact Except.ok.inj h ▸ hne

variable {raw : String} {provider : TrustState}

theorem ne_nil_of_parseBundle (h : x.parseBundle raw = .ok pool) : pool ≠ [] := by
  by_cases hpem : "-----BEGIN CERTIFICATE-----".toList <:+: raw.toList
  · unfold parseBundle at h
    rw [if_pos hpem] at h
    exact ne_nil_of_nonemptyPool h
  · unfold parseBundle at h
    rw [if_neg hpem] at h
    cases hjson : x.parseSPIFFEJSONBundle raw with
    | error e =>
      rw [hjson] at h
      cases h
    | ok pool' =>
      rw [hjson] at h
      exact ne_nil_of_nonemptyPool h

theorem ne_nil_of_loadBundle {data : StringMap}
    (h : x.loadBundle data = .ok (raw, pool)) : pool ≠ [] := by
  rw [loadBundle] at h
  split at h
  · cases h
  · split at h
    · cases h
    · split at h
      · cases h
      · rename_i hparse
        cases h
        exact ne_nil_of_parseBundle hparse

/-- **One complete good load**: the provider is as at the start and nothing was installed, or its
three fields are those of the last installation, made from what the same call had read before. -/
def OneLoad (x : X5C) (history : List Action) (provider : TrustState) : Prop :=
  ((∀ id now, .install id now ∉ history) ∧ provider = {}) ∨
    ∃ before id now after data raw pool, history = before ++ .install id now :: after ∧
      (∀ id' now', .install id' now' ∉ after) ∧ .read id (.ok data) ∈ before ∧
      x.loadBundle data = .ok (raw, pool) ∧ pool ≠ [] ∧
      provider = ⟨some pool, now, x.codec.hashString raw⟩

/-- What a call in this phase has read. -/
def Phase.HasRead (x : X5C) (history : List Action) (id : ℕ) : Phase → Prop
  | .parsing _ data => .read id (.ok data) ∈ history
  | .installing _ raw pool =>
    ∃ data, .read id (.ok data) ∈ history ∧ x.loadBundle data = .ok (raw, pool)
  | _ => True

/-- Phases that are only reached with a bundle at hand. -/
def Phase.afterBundle : Phase → Bool
  | .reading initial => !initial
  | .parsing initial _ => !initial
  | .installing initial _ _ => !initial
  | .verifying _ => true
  | _ => false

/-- The invariant of the calls. -/
structure Sound (x : X5C) (w : World) (history : List Action) : Prop where
  provider : x.OneLoad history w.provider
  hasRead : ∀ id call, w.calls id = some call → call.phase.HasRead x history id
  bundle : ∀ id call, w.calls id = some call → call.phase.afterBundle = true →
    w.provider.trustBundle ≠ none
  validations : ∀ roots ∈ w.validations, roots ≠ none
  installed : ∀ id now, .install id now ∈ history → ∃ data raw pool,
    .read id (.ok data) ∈ history ∧ x.loadBundle data = .ok (raw, pool)

variable {history : List Action}

theorem OneLoad.append (h : x.OneLoad history provider)
    (ha : ∀ id now, a ≠ .install id now) : x.OneLoad (history ++ [a]) provider := by
  have hnot (l : List Action) (hl : ∀ id now, Action.install id now ∉ l) :
      ∀ id now, Action.install id now ∉ l ++ [a] := by
    intro id now hmem
    obtain hmem | hmem := mem_append.mp hmem
    · exact hl id now hmem
    · exact ha id now (mem_singleton.mp hmem).symm
  obtain ⟨hnone, rfl⟩ | ⟨before, id, now, after, data, raw, pool, rfl, hafter, hrest⟩ := h
  · exact .inl ⟨hnot _ hnone, rfl⟩
  · refine .inr ⟨before, id, now, after ++ [a], data, raw, pool, ?_, hnot _ hafter, hrest⟩
    rw [append_assoc, cons_append]

theorem Phase.HasRead.append {id : ℕ} {phase : Phase} (h : phase.HasRead x history id)
    (more : List Action) : phase.HasRead x (history ++ more) id := by
  cases phase with
  | parsing initial data => exact mem_append_left _ h
  | installing initial raw pool =>
    obtain ⟨data, hread, hload⟩ := h
    exact ⟨data, mem_append_left _ hread, hload⟩
  | checking | reading | verifying | done => trivial

theorem calls_move (w : World) (id : ℕ) (call : Call) (phase : Phase) (id' : ℕ) (call' : Call)
    (h : (w.move id call phase).calls id' = some call') :
    (id' = id ∧ call'.phase = phase) ∨ w.calls id' = some call' := by
  change update w.calls id _ id' = some call' at h
  by_cases hid : id' = id
  · subst hid
    rw [update_self] at h
    exact .inl ⟨rfl, some.inj h ▸ rfl⟩
  · rw [update_of_ne hid] at h
    exact .inr h

theorem Sound.move (h : x.Sound w history) (ha : ∀ id now, a ≠ .install id now) (id : ℕ)
    (call : Call) {phase : Phase} (hread : phase.HasRead x (history ++ [a]) id)
    (hbundle : phase.afterBundle = true → w.provider.trustBundle ≠ none) :
    x.Sound (w.move id call phase) (history ++ [a]) := by
  have hcalls := calls_move w id call phase
  refine ⟨h.provider.append ha, fun id' call' hcall => ?_, fun id' call' hcall hphase => ?_,
    h.validations, fun id' now hmem => ?_⟩
  · obtain ⟨rfl, hphase⟩ | hcall := hcalls id' call' hcall
    · exact hphase ▸ hread
    · exact (h.hasRead id' call' hcall).append _
  · obtain ⟨-, heq⟩ | hcall := hcalls id' call' hcall
    · exact hbundle (heq ▸ hphase)
    · exact h.bundle id' call' hcall hphase
  · obtain hmem | hmem := mem_append.mp hmem
    · obtain ⟨data, raw, pool, hin, hload⟩ := h.installed id' now hmem
      exact ⟨data, raw, pool, mem_append_left _ hin, hload⟩
    · exact absurd (mem_singleton.mp hmem).symm (ha id' now)

theorem Sound.validated (h : x.Sound w history) {more : List (Option CertPool)}
    (hmore : ∀ roots ∈ more, roots ≠ none) :
    x.Sound { w with validations := w.validations ++ more } history :=
  ⟨h.provider, h.hasRead, h.bundle, forall_mem_append.mpr ⟨h.validations, hmore⟩, h.installed⟩

theorem afterFailure_spec (call : Call) (initial : Bool) (e : String) (history : List Action)
    (id : ℕ) : (afterFailure call initial e).HasRead x history id ∧
      ((afterFailure call initial e).afterBundle = true → initial = false) := by
  cases initial with
  | true => exact ⟨trivial, nofun⟩
  | false => exact ⟨trivial, fun _ => rfl⟩

/-- A round of the loop ends the call or goes on with the other signatures. -/
theorem afterValidate_cases (provider : TrustState) (call : Call)
    (signatures : List AgentCardSignature) :
    (∃ result, x.afterValidate provider call signatures = .done result) ∨
      ∃ rest, x.afterValidate provider call signatures = .verifying rest := by
  cases signatures with
  | nil => exact .inl ⟨_, rfl⟩
  | cons sig rest =>
    rw [afterValidate]
    split
    · exact .inl ⟨_, rfl⟩
    · exact .inr ⟨rest, rfl⟩

theorem rootsUsed_ne_none (h : provider.trustBundle ≠ none)
    {signatures : List AgentCardSignature} {roots : Option CertPool}
    (hroots : roots ∈ x.rootsUsed provider signatures) : roots ≠ none := by
  cases signatures with
  | nil => cases hroots
  | cons sig rest =>
    rw [rootsUsed] at hroots
    split at hroots
    · exact mem_singleton.mp hroots ▸ h
    · cases hroots

/-- **The step lemma.** -/
theorem Sound.step (h : x.Sound w history) (hstep : x.step w a = some w') :
    x.Sound w' (history ++ [a]) := by
  obtain ⟨id, cardData, signatures, rfl, rfl⟩ | ⟨id, now, call, rfl, rfl⟩ |
    ⟨id, answer, call, initial, phase, rfl, hcall, hphase, rfl, hnext⟩ |
    ⟨id, call, initial, data, phase, rfl, hcall, hphase, rfl, hnext⟩ |
    ⟨id, now, call, initial, raw, pool, rfl, hcall, hphase, rfl⟩ |
    ⟨id, call, signatures, rfl, hcall, hphase, rfl⟩ := step_cases hstep
  · exact h.move (by rintro _ _ ⟨⟩) id _ trivial nofun
  · refine h.move (by rintro _ _ ⟨⟩) id call ?_ ?_
    · rw [afterCheck]
      split
      · trivial
      · split <;> trivial
    · rw [afterCheck]
      split
      · exact nofun
      · rename_i hsome
        exact fun _ hnone => hsome (isNone_iff_eq_none.mpr hnone)
  · have hbundle := h.bundle id call hcall
    rw [hphase] at hbundle
    obtain ⟨e, rfl⟩ | ⟨data, rfl, rfl⟩ := hnext
    · obtain ⟨hread, hinitial⟩ := afterFailure_spec (x := x) call initial e _ id
      refine h.move (by rintro _ _ ⟨⟩) id call hread fun hafter => hbundle ?_
      rw [hinitial hafter]
      rfl
    · exact h.move (by rintro _ _ ⟨⟩) id call (mem_append_right _ (mem_singleton.mpr rfl)) hbundle
  · have hbundle := h.bundle id call hcall
    have hread := h.hasRead id call hcall
    rw [hphase] at hbundle hread
    obtain ⟨e, rfl⟩ | ⟨raw, pool, hload, rfl⟩ := hnext
    · obtain ⟨hread', hinitial⟩ := afterFailure_spec (x := x) call initial e _ id
      refine h.move (by rintro _ _ ⟨⟩) id call hread' fun hafter => hbundle ?_
      rw [hinitial hafter]
      rfl
    · exact h.move (by rintro _ _ ⟨⟩) id call ⟨data, mem_append_left _ hread, hload⟩ hbundle
  · -- The installation: from here on there is a bundle, and it is the one this call has read.
    have hread := h.hasRead id call hcall
    rw [hphase] at hread
    obtain ⟨data, hread, hload⟩ := hread
    have hcalls := calls_move w id call (.verifying call.signatures)
    refine ⟨.inr ⟨history, id, now, [], data, raw, pool, rfl, fun _ _ => not_mem_nil, hread,
      hload, ne_nil_of_loadBundle hload, rfl⟩, fun id' call' hcall' => ?_,
      fun _ _ _ _ => some_ne_none pool, h.validations, fun id' now' hmem => ?_⟩
    · obtain ⟨rfl, hphase'⟩ | hcall' := hcalls id' call' hcall'
      · exact hphase' ▸ trivial
      · exact (h.hasRead id' call' hcall').append _
    · obtain hmem | hmem := mem_append.mp hmem
      · obtain ⟨data', raw', pool', hin, hload'⟩ := h.installed id' now' hmem
        exact ⟨data', raw', pool', mem_append_left _ hin, hload'⟩
      · cases mem_singleton.mp hmem
        exact ⟨data, raw, pool, mem_append_left _ hread, hload⟩
  · have hbundle := h.bundle id call hcall (by rw [hphase]; rfl)
    have hmove : x.Sound (w.move id call (x.afterValidate w.provider call signatures))
        (history ++ [.validate id]) := by
      refine h.move (by rintro _ _ ⟨⟩) id call ?_ fun _ => hbundle
      rcases afterValidate_cases (x := x) w.provider call signatures with ⟨r, h'⟩ | ⟨rest, h'⟩
      · rw [h']
        trivial
      · rw [h']
        trivial
    exact hmove.validated fun _ => rootsUsed_ne_none hbundle

/-- **At every point of every run** of any number of concurrent verifications the trust bundle, its
hash and its load time are those of one complete good load; a chain is never checked against a pool
that is not there, and what fails to load leaves the provider as it was. -/
theorem oneLoad (x : X5C) {actions : List Action} {w : World}
    (hrun : run x.step {} actions = some w) :
    x.OneLoad actions w.provider ∧ (∀ roots ∈ w.validations, roots ≠ none) ∧
      (∀ id now, .install id now ∈ actions → ∃ data raw pool,
        .read id (.ok data) ∈ actions ∧ x.loadBundle data = .ok (raw, pool)) ∧
      ∀ a w', x.step w a = some w' → (∀ id now, a ≠ .install id now) →
        w'.provider = w.provider := by
  have hstart : x.Sound {} [] :=
    ⟨.inl ⟨fun _ _ => not_mem_nil, rfl⟩, fun _ _ h => absurd h (some_ne_none _).symm,
      fun _ _ h => absurd h (some_ne_none _).symm, fun _ h => absurd h not_mem_nil,
      fun _ _ h => absurd h not_mem_nil⟩
  have hstep (w : World) (a : Action) (w' : World) (history : List Action)
      (h : x.Sound w history) (hs : x.step w a = some w') : x.Sound w' (history ++ [a]) :=
    h.step hs
  have hsound : x.Sound w actions :=
    recorded_actions hrun ▸ run_invariant_recorded_unguarded hstep hstart hrun
  exact ⟨hsound.provider, hsound.validations, hsound.installed, fun _ _ => provider_of_step⟩

/-- A provider whose only good bundle has one root. -/
def oneRoot : X5C where
  primitives :=
    { oneTrusted with
      verifyChain := fun roots _ _ leaf =>
        if roots.any (·.raw == leaf.raw) then .ok () else .error "unknown authority" }
  codec :=
    { pemBlocks := fun raw =>
        if raw = "-----BEGIN CERTIFICATE-----" then [⟨"CERTIFICATE", [1]⟩] else []
      unmarshalBundle := fun _ => .error "invalid character"
      hashString := id }
  configMapName := "spire-bundle"
  configMapNS := "spire-system"
  configMapKey := "bundle.crt"
  refreshInterval := 300
  systemRoots := []

/-- Two calls load the bundle at once; a third finds it stale, and an unreadable text in its
place. -/
def overlapping : List Action :=
  let good : StringMap := (∅ : StringMap).insert "bundle.crt" "-----BEGIN CERTIFICATE-----"
  [.call 0 {} [⟨"trusted", "s", none⟩], .call 1 {} [⟨"trusted", "s", none⟩], .check 0 5, .check 1 5,
    .read 0 (.ok good), .read 1 (.ok good), .parse 1, .install 1 6, .parse 0, .validate 1,
    .install 0 7, .call 2 {} [⟨"trusted", "s", none⟩], .check 2 500,
    .read 2 (.ok ((∅ : StringMap).insert "bundle.crt" "?")), .parse 2, .validate 2, .validate 0]

theorem oneLoad_overlapping : ∃ w, run oneRoot.step {} overlapping = some w ∧
    oneRoot.OneLoad overlapping w.provider ∧ w.provider.lastBundleLoad = 7 ∧
    w.validations.length = 3 := by
  obtain ⟨w, hrun, hw⟩ := (any_eq_true _ _).mp (by decide +kernel :
    (run oneRoot.step {} overlapping).any
      (fun w => w.provider.lastBundleLoad == 7 && w.validations.length == 3) = true)
  have hw := Bool.and_eq_true_iff.mp hw
  exact ⟨w, hrun, (oneLoad oneRoot hrun).1, beq_iff_eq.mp hw.1, beq_iff_eq.mp hw.2⟩

end X5C

end Rossoctl.Signature
