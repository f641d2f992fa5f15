import Rossoctl.Signature.Jws

/-!
# The x5c provider

The model of `X5CProvider.VerifySignature` (`internal/signature/x5c.go`): refresh the
trust bundle if it is old, then go through the signatures of a card until one
decides. `provider.go` promises that the verification succeeds if at least one
signature verifies.

A signature can do three things to the loop: verify, which ends it with success;
be passed over; or *block* (`Rossoctl.Signature.Blocks`), which ends it with failure –
this is what a certificate chain does that parses but does not validate, or whose
leaf has no proper SPIFFE identity. So the promise is kept exactly when no blocking
signature stands in front of the first one that verifies
(`Rossoctl.Signature.verifySignature_anyOf_iff`).
-/

namespace Rossoctl.Signature

open List

variable {Pool : Type} (P : Primitives Pool)

/-! ### One signature -/

/-- `parseX5CCerts`, from the given position on. -/
def parseX5CCerts : ℕ → List String → Except String (List Certificate)
  | _, [] => .ok []
  | i, b64 :: rest =>
    match P.stdDecode b64 with
    | .error e => .error ("x5c[" ++ toString i ++ "]: base64 decode failed: " ++ e)
    | .ok der =>
      match P.parseCertificate der with
      | .error e => .error ("x5c[" ++ toString i ++ "]: certificate parse failed: " ++ e)
      | .ok cert =>
        match parseX5CCerts (i + 1) rest with
        | .error e => .error e
        | .ok certs => .ok (cert :: certs)

/-- One second, in nanoseconds. -/
def oneSecond : ℤ := 1000000000

/-- `validateChain`: at most three certificates, and a chain to the roots at a time
just after the leaf has become valid. -/
def validateChain (roots : Pool) (leaf : Certificate) (intermediates : List Certificate) :
    Except String Unit :=
  if intermediates.length + 1 > 3 then
    .error ("certificate chain too deep: " ++ toString (intermediates.length + 1) ++ " (max 3)")
  else match P.verifyChain roots intermediates (leaf.notBefore + oneSecond) leaf with
    | .error e => .error ("chain verification failed: " ++ e)
    | .ok _ => .ok ()

/-- `extractSpiffeIDFromCert`: there has to be exactly one. -/
def extractSpiffeIDFromCert (leaf : Certificate) : Except String String :=
  match (leaf.uris.filter fun u => u.scheme = "spiffe").map URI.text with
  | [] => .error ("no spiffe:// URI in leaf certificate SANs (found " ++
      toString leaf.uris.length ++ " URIs total)")
  | [spiffeID] =>
    match P.parseURLHost spiffeID with
    | .error e => .error ("malformed SPIFFE ID URI " ++ P.goQuote spiffeID ++ ": " ++ e)
    | .ok host =>
      if host = "" then
        .error ("SPIFFE ID " ++ P.goQuote spiffeID ++ " has empty trust domain")
      else .ok spiffeID
  | spiffeIDs => .error ("multiple spiffe:// URIs in leaf certificate SANs (expected exactly 1, " ++
      "found " ++ toString spiffeIDs.length ++ ")")

/-- The certificates of a signature, leaf first, if there are any. -/
def chainOf (sig : AgentCardSignature) : Option (Certificate × List Certificate) :=
  match decodeProtectedHeader P sig.protectedHeader with
  | .error _ => none
  | .ok header =>
    if header.x5c.isEmpty then none
    else match parseX5CCerts P 0 header.x5c with
      | .error _ => none
      | .ok [] => none
      | .ok (leaf :: intermediates) => some (leaf, intermediates)

/-- One round of the loop: a result to return, or nothing, to go on. -/
def verifyOne (roots : Pool) (cardData : AgentCardData) (sig : AgentCardSignature) :
    Option VerificationResult :=
  match chainOf P sig with
  | none => none
  | some (leaf, intermediates) =>
    match validateChain P roots leaf intermediates with
    | .error e => some (failed ("x5c chain validation failed: " ++ e))
    | .ok _ =>
      match extractSpiffeIDFromCert P leaf with
      | .error e => some (failed ("leaf certificate SAN validation failed: " ++ e))
      | .ok spiffeID =>
        match marshalPublicKeyToPEM P leaf.publicKey with
        | .error _ => none
        | .ok publicKeyPEM =>
          match verifyJWS P cardData sig publicKeyPEM with
          | .error _ => none
          | .ok result =>
            if result.verified then
              some { result with spiffeID := spiffeID, leafNotAfter := leaf.notAfter }
            else none

/-- The loop over the signatures. -/
def verifyLoop (roots : Pool) (cardData : AgentCardData) :
    List AgentCardSignature → VerificationResult
  | [] => failed "No signature verified via x5c chain validation"
  | sig :: sigs =>
    match verifyOne P roots cardData sig with
    | some result => result
    | none => verifyLoop roots cardData sigs

/-! ### The trust bundle -/

/-- The provider: the trust bundle, once there is one, and when it was loaded. -/
structure X5CProvider (Pool : Type) where
  refreshInterval : ℤ
  trustBundle : Option Pool := none
  lastBundleLoad : ℤ := 0

/-- `maybeRefreshTrustBundle`, with what reading the bundle would yield now: the
provider afterwards, and the roots it has. A failed refresh keeps the old bundle. -/
def X5CProvider.maybeRefreshTrustBundle (p : X5CProvider Pool) (now : ℤ)
    (load : Except String Pool) : Except String (X5CProvider Pool × Pool) :=
  match p.trustBundle, load with
  | none, .error e => .error ("initial trust bundle load failed: " ++ e)
  | none, .ok pool => .ok ({ p with trustBundle := some pool, lastBundleLoad := now }, pool)
  | some old, .error _ => .ok (p, old)
  | some old, .ok pool =>
    if now - p.lastBundleLoad < p.refreshInterval then .ok (p, old)
    else .ok ({ p with trustBundle := some pool, lastBundleLoad := now }, pool)

/-- **`VerifySignature`**, with what a refresh of the bundle would load. -/
def X5CProvider.verifySignature (p : X5CProvider Pool) (now : ℤ) (load : Except String Pool)
    (cardData : AgentCardData) (signatures : List AgentCardSignature) :
    X5CProvider Pool × VerificationResult :=
  match p.maybeRefreshTrustBundle now load with
  | .error e => (p, failed ("trust bundle unavailable: " ++ e))
  | .ok (p', roots) => (p', verifyLoop P roots cardData signatures)

/-! ### What any-of says -/

/-- **A signature verifies on its own**, with this report: its chain validates, the
leaf has one SPIFFE identity, and its JWS verifies over the card under the leaf's
key. -/
def VerifiesAs (roots : Pool) (cardData : AgentCardData) (sig : AgentCardSignature)
    (report : VerificationResult) : Prop :=
  ∃ leaf intermediates spiffeID publicKeyPEM result, chainOf P sig = some (leaf, intermediates) ∧
    validateChain P roots leaf intermediates = .ok () ∧
    extractSpiffeIDFromCert P leaf = .ok spiffeID ∧
    marshalPublicKeyToPEM P leaf.publicKey = .ok publicKeyPEM ∧
    verifyJWS P cardData sig publicKeyPEM = .ok result ∧ result.verified = true ∧
    report = { result with spiffeID := spiffeID, leafNotAfter := leaf.notAfter }

/-- A signature verifies on its own. -/
def Verifies (roots : Pool) (cardData : AgentCardData) (sig : AgentCardSignature) : Prop :=
  ∃ report, VerifiesAs P roots cardData sig report

/-- **A signature blocks**: it has a certificate chain that does not validate, or
whose leaf has no proper SPIFFE identity. -/
def Blocks (roots : Pool) (sig : AgentCardSignature) : Prop :=
  ∃ leaf intermediates, chainOf P sig = some (leaf, intermediates) ∧
    ((validateChain P roots leaf intermediates).isOk = false ∨
      (extractSpiffeIDFromCert P leaf).isOk = false)

/-- **Any-of acceptance** of a result: it is positive exactly if some signature
verifies on its own, and then it is the report of such a signature. -/
def AnyOf (roots : Pool) (cardData : AgentCardData) (sigs : List AgentCardSignature)
    (r : VerificationResult) : Prop :=
  (r.verified = true ↔ ∃ sig ∈ sigs, Verifies P roots cardData sig) ∧
  (r.verified = true → ∃ sig ∈ sigs, VerifiesAs P roots cardData sig r)

/-- If a signature verifies, then one does that has no blocking one in front. -/
def Unblocked (roots : Pool) (cardData : AgentCardData) (sigs : List AgentCardSignature) : Prop :=
  (∃ sig ∈ sigs, Verifies P roots cardData sig) →
    ∃ before sig after, sigs = before ++ sig :: after ∧ Verifies P roots cardData sig ∧
      ∀ s ∈ before, ¬ Blocks P roots s

/-! ### What one signature does to the loop -/

variable {P} {roots : Pool} {cardData : AgentCardData} {sig : AgentCardSignature}
  {sigs : List AgentCardSignature} {r : VerificationResult}

theorem verifyOne_of_verifiesAs (h : VerifiesAs P roots cardData sig r) :
    verifyOne P roots cardData sig = some r ∧ r.verified = true := by
  obtain ⟨leaf, intermediates, spiffeID, pem, result, hchain, hval, hid, hpem, hjws, hver, rfl⟩ := h
  refine ⟨?_, hver⟩
  simp only [verifyOne, hchain, hval, hid, hpem, hjws, hver, if_true]

theorem verifyOne_of_blocks (cardData : AgentCardData) (h : Blocks P roots sig) :
    ∃ r, verifyOne P roots cardData sig = some r ∧ r.verified = false := by
  obtain ⟨leaf, intermediates, hchain, hbad⟩ := h
  rw [verifyOne, hchain]
  dsimp only
  split
  · exact ⟨_, rfl, rfl⟩
  · rename_i hval
    split
    · exact ⟨_, rfl, rfl⟩
    · rename_i hid
      rw [hval, hid] at hbad
      exact absurd hbad (by simp [Except.isOk, Except.toBool])

theorem verifyOne_eq_some (h : verifyOne P roots cardData sig = some r) :
    (VerifiesAs P roots cardData sig r ∧ r.verified = true) ∨
      (Blocks P roots sig ∧ r.verified = false) := by
  rw [verifyOne] at h
  split at h
  · cases h
  · rename_i leaf intermediates hchain
    split at h
    · rename_i e hval
      cases h
      exact Or.inr ⟨⟨leaf, intermediates, hchain, Or.inl (by rw [hval]; rfl)⟩, rfl⟩
    · rename_i hval
      split at h
      · rename_i e hid
        cases h
        exact Or.inr ⟨⟨leaf, intermediates, hchain, Or.inr (by rw [hid]; rfl)⟩, rfl⟩
      · rename_i spiffeID hid
        split at h
        · cases h
        · rename_i pem hpem
          split at h
          · cases h
          · rename_i result hjws
            split at h
            · rename_i hver
              cases h
              exact Or.inl ⟨⟨leaf, intermediates, spiffeID, pem, result, hchain, hval, hid, hpem,
                hjws, hver, rfl⟩, hver⟩
            · cases h

theorem not_verifies_of_blocks (h : Blocks P roots sig) : ¬ Verifies P roots cardData sig := by
  rintro ⟨report, hreport⟩
  obtain ⟨hone, hver⟩ := verifyOne_of_verifiesAs hreport
  obtain ⟨r, hr, hfalse⟩ := verifyOne_of_blocks cardData h
  rw [Option.some.inj (hone.symm.trans hr), hfalse] at hver
  cases hver

/-! ### The loop -/

/-- **The loop succeeds** exactly if a signature verifies that has no blocking one
in front. -/
theorem verifyLoop_verified_iff : (verifyLoop P roots cardData sigs).verified = true ↔
      ∃ before sig after, sigs = before ++ sig :: after ∧ Verifies P roots cardData sig ∧
        ∀ s ∈ before, ¬ Blocks P roots s := by
  induction sigs with
  | nil => exact ⟨fun h => absurd h (by simp [verifyLoop, failed]), fun ⟨_, _, _, h, _⟩ =>
      absurd h (by simp)⟩
  | cons sig sigs ih =>
    rw [verifyLoop]
    split
    · rename_i r hone
      rcases verifyOne_eq_some hone with ⟨hver, htrue⟩ | ⟨hblock, hfalse⟩
      · exact ⟨fun _ => ⟨[], sig, sigs, rfl, ⟨r, hver⟩, fun _ h => absurd h not_mem_nil⟩,
          fun _ => htrue⟩
      · refine ⟨fun h => absurd (hfalse.symm.trans h) (by simp), ?_⟩
        rintro ⟨before, s, after, heq, hs, hbefore⟩
        -- the blocking signature is the one that verifies, or it stands in front of it
        cases before with
        | nil =>
          rw [nil_append, List.cons.injEq] at heq
          exact absurd (heq.1 ▸ hs) (not_verifies_of_blocks hblock)
        | cons b before =>
          rw [cons_append, List.cons.injEq] at heq
          exact absurd (heq.1 ▸ hblock) (hbefore b mem_cons_self)
    · rename_i hone
      have hnv : ¬ Verifies P roots cardData sig := fun ⟨r, hr⟩ =>
        absurd (hone.symm.trans (verifyOne_of_verifiesAs hr).1) (by simp)
      have hnb : ¬ Blocks P roots sig := fun hb => by
        obtain ⟨r, hr, -⟩ := verifyOne_of_blocks cardData hb
        exact absurd (hone.symm.trans hr) (by simp)
      rw [ih]
      constructor
      · rintro ⟨before, s, after, rfl, hs, hbefore⟩
        exact ⟨sig :: before, s, after, rfl, hs, forall_mem_cons.mpr ⟨hnb, hbefore⟩⟩
      · rintro ⟨before, s, after, heq, hs, hbefore⟩
        cases before with
        | nil =>
          rw [nil_append, List.cons.injEq] at heq
          exact absurd (heq.1 ▸ hs) hnv
        | cons b before =>
          rw [cons_append, List.cons.injEq] at heq
          exact ⟨before, s, after, heq.2, hs, fun t ht => hbefore t (mem_cons_of_mem _ ht)⟩

theorem verifyLoop_report (h : (verifyLoop P roots cardData sigs).verified = true) :
    ∃ sig ∈ sigs, VerifiesAs P roots cardData sig (verifyLoop P roots cardData sigs) := by
  induction sigs with
  | nil => exact absurd h (by simp [verifyLoop, failed])
  | cons sig sigs ih =>
    rw [verifyLoop] at h ⊢
    split at h
    · rename_i r hone
      rcases verifyOne_eq_some hone with ⟨hver, -⟩ | ⟨-, hfalse⟩
      · exact ⟨sig, mem_cons_self, hver⟩
      · exact absurd (hfalse.symm.trans h) (by simp)
    · rename_i hone
      obtain ⟨s, hs, hver⟩ := ih h
      exact ⟨s, mem_cons_of_mem _ hs, hver⟩

/-- The loop is any-of exactly for the lists without a blocking signature in
front. -/
theorem anyOf_verifyLoop_iff : AnyOf P roots cardData sigs (verifyLoop P roots cardData sigs) ↔
      Unblocked P roots cardData sigs := by
  constructor
  · rintro ⟨hiff, -⟩ hex
    exact verifyLoop_verified_iff.mp (hiff.mpr hex)
  · intro hun
    refine ⟨⟨fun h => ?_, fun hex => verifyLoop_verified_iff.mpr (hun hex)⟩, verifyLoop_report⟩
    obtain ⟨sig, hsig, hver⟩ := verifyLoop_report h
    exact ⟨sig, hsig, _, hver⟩

/-- **Any-of acceptance.** With a trust bundle at hand, the verification is any-of
exactly if no blocking signature stands in front of the first one that verifies;
and between lists of this kind with the same verifying signatures – in another
order, say, or with others inserted – the verdict is the same. -/
theorem verifySignature_anyOf_iff (P : Primitives Pool) (p p' : X5CProvider Pool) (now : ℤ)
    (load : Except String Pool) (roots : Pool) (cardData : AgentCardData)
    (hload : p.maybeRefreshTrustBundle now load = .ok (p', roots)) :
    (∀ sigs, AnyOf P roots cardData sigs (p.verifySignature P now load cardData sigs).2 ↔
      Unblocked P roots cardData sigs) ∧
    ∀ sigs sigs', Unblocked P roots cardData sigs → Unblocked P roots cardData sigs' →
      (∀ sig, Verifies P roots cardData sig → (sig ∈ sigs ↔ sig ∈ sigs')) →
      (p.verifySignature P now load cardData sigs).2.verified =
        (p.verifySignature P now load cardData sigs').2.verified := by
  have hloop : ∀ sigs, (p.verifySignature P now load cardData sigs).2 =
      verifyLoop P roots cardData sigs := fun sigs => by
    rw [X5CProvider.verifySignature, hload]
  refine ⟨fun sigs => by rw [hloop, anyOf_verifyLoop_iff], fun sigs sigs' hun hun' hsame => ?_⟩
  rw [hloop, hloop, Bool.eq_iff_iff, (anyOf_verifyLoop_iff.mpr hun).1,
    (anyOf_verifyLoop_iff.mpr hun').1]
  exact exists_congr fun sig => ⟨fun ⟨hm, hv⟩ => ⟨(hsame sig hv).mp hm, hv⟩,
    fun ⟨hm, hv⟩ => ⟨(hsame sig hv).mpr hm, hv⟩⟩

/-- Primitives with one trusted certificate, `"trusted"`; the protected header of a
signature is the certificate's name. -/
def oneTrusted : Primitives Unit where
  floatText := multipleText
  goQuote s := s
  rawURLEncode _ := ""
  rawURLDecode s := .ok (if s = "trusted" then [1] else [])
  stdDecode s := .ok (if s = "trusted" then [1] else [])
  unmarshalHeader bytes := .ok
    { algorithm := "ES256", keyID := "k", x5c := [if bytes = [1] then "trusted" else "expired"] }
  parseCertificate der := .ok
    { raw := der, notBefore := 0, notAfter := 3600,
      uris := [⟨"spiffe", "spiffe://example.org/agent"⟩],
      publicKey := .ecdsa ⟨"P-256", 256⟩ 1 1 }
  verifyChain _ _ _ leaf := if leaf.raw = [1] then .ok () else .error "unknown authority"
  parseURLHost _ := .ok "example.org"
  marshalPKIX _ := .ok []
  pemEncode bytes := bytes
  pemDecode bytes := some bytes
  parsePKIX _ := .ok (.ecdsa ⟨"P-256", 256⟩ 1 1)
  parsePKCS1 _ := .error "not a PKCS#1 key"
  hash _ _ := []
  verifyPSS _ _ _ _ _ := false
  verifyPKCS1v15 _ _ _ _ _ := false
  ecdsaVerify _ _ _ _ _ _ := false
  ecdsaVerifyASN1 _ _ _ _ _ := true

/-- A provider with its trust bundle at hand. -/
def loadedProvider : X5CProvider Unit := { refreshInterval := 300, trustBundle := some () }

/-- A signature that verifies, with one behind it that does not. -/
theorem verifySignature_anyOf_trusted :
    (loadedProvider.verifySignature oneTrusted 0 (.ok ()) {}
      [⟨"trusted", "s", none⟩, ⟨"expired", "s", none⟩]).2.verified = true := by
  have h := (verifySignature_anyOf_iff oneTrusted loadedProvider loadedProvider 0 (.ok ()) () {}
    rfl).1 [⟨"trusted", "s", none⟩, ⟨"expired", "s", none⟩]
  have hver : Verifies oneTrusted () {} ⟨"trusted", "s", none⟩ :=
    ⟨_, _, _, _, _, _, rfl, rfl, rfl, rfl, rfl, rfl, rfl⟩
  exact (h.mpr fun _ => ⟨[], _, [_], rfl, hver, fun _ hs => absurd hs not_mem_nil⟩).1.mpr
    ⟨_, mem_cons_self, hver⟩

/-- **A chain that does not validate hides the signature behind it**: the trusted
signature verifies on its own, and the two together are rejected. -/
theorem blocking_signature_hides_trusted : Verifies oneTrusted () {} ⟨"trusted", "s", none⟩ ∧
    loadedProvider.maybeRefreshTrustBundle 0 (.ok ()) = .ok (loadedProvider, ()) ∧
    (loadedProvider.verifySignature oneTrusted 0 (.ok ()) {}
      [⟨"trusted", "s", none⟩, ⟨"expired", "s", none⟩]).2.verified = true ∧
    (loadedProvider.verifySignature oneTrusted 0 (.ok ()) {}
      [⟨"expired", "s", none⟩, ⟨"trusted", "s", none⟩]).2.verified = false :=
  ⟨⟨_, _, _, _, _, _, rfl, rfl, rfl, rfl, rfl, rfl, rfl⟩, rfl, rfl, rfl⟩

end Rossoctl.Signature
