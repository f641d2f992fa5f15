import Rossoctl.Signature.Sign

/-!
# One algorithm, one key, one primitive

What a positive verdict of `VerifyJWS` stands for. The protected header is in the hands of whoever
made the signature, and so is the choice of the algorithm; the danger is that a key of one kind is
used with the algorithm of another. `Rossoctl.Signature.jwa` is the register of the algorithms, as
the standard has them: each has one primitive, with its demands on the key, and one hash.

`Rossoctl.Signature.verifyJWS_verified_iff` says that a signature verifies just if its algorithm
is in the register, and the primitive that stands there beside it accepts, with that hash of the
signing input and a key that meets the demands.
-/

namespace Rossoctl.Signature

variable {Pool : Type}

/-! ### The register -/

/-- A signature scheme. -/
inductive Scheme where
  | pkcs1v15
  | pss
  | ecdsa (curve : String)
  deriving DecidableEq

/-- **The register of algorithms**: name, scheme and hash. -/
def jwa : List (String × Scheme × Hash) :=
  [("RS256", .pkcs1v15, .sha256), ("RS384", .pkcs1v15, .sha384), ("RS512", .pkcs1v15, .sha512),
    ("PS256", .pss, .sha256), ("PS384", .pss, .sha384), ("PS512", .pss, .sha512),
    ("ES256", .ecdsa "P-256", .sha256), ("ES384", .ecdsa "P-384", .sha384),
    ("ES512", .ecdsa "P-521", .sha512)]

/-- The number of bits of the modulus, `N.BitLen()`. -/
def bitLen (n : ℕ) : ℕ := if n = 0 then 0 else n.log2 + 1

/-- **A scheme accepts** a signature of a digest: the key is of its type and large enough, or on its
curve, and the primitive says so. -/
def Scheme.Accepts (P : Primitives Pool) (hash : Hash) (digest sig : Bytes) :
    Scheme → PublicKey → Prop
  | .pkcs1v15, .rsa n e => 2048 ≤ bitLen n ∧ P.verifyPKCS1v15 n e hash digest sig = true
  | .pss, .rsa n e => 2048 ≤ bitLen n ∧ P.verifyPSS n e hash digest sig = true
  | .ecdsa name, .ecdsa curve x y => curve.name = name ∧ ((sig.length = 2 * curveByteSize curve ∧
          P.ecdsaVerify curve x y digest (bigEndian (sig.take (curveByteSize curve)))
            (bigEndian (sig.drop (curveByteSize curve))) = true) ∨
        P.ecdsaVerifyASN1 curve x y digest sig = true)
  | _, _ => False

variable (P : Primitives Pool) (key : PublicKey) {α : Type}

theorem validateAlgorithm_ok_iff (alg : String) :
    validateAlgorithm P alg = .ok () ↔ alg ∈ jwa.map Prod.fst := by
  have hproper : ∀ name ∈ jwa.map Prod.fst, name ≠ "" ∧ name ≠ "none" := by decide
  rw [validateAlgorithm]
  by_cases hempty : alg = ""
  · rw [if_pos hempty]
    exact iff_of_false nofun fun h => (hproper alg h).1 hempty
  · rw [if_neg hempty]
    by_cases hnone : alg = "none"
    · rw [if_pos hnone]
      exact iff_of_false nofun fun h => (hproper alg h).2 hnone
    · rw [if_neg hnone]
      change (if alg ∈ jwa.map Prod.fst then _ else _) = _ ↔ _
      by_cases hmem : alg ∈ jwa.map Prod.fst
      · exact iff_of_true (if_pos hmem) hmem
      · rw [if_neg hmem]
        exact iff_of_false nofun hmem

theorem hashForAlgorithm_of_mem : ∀ entry ∈ jwa, hashForAlgorithm P entry.1 = .ok entry.2.2 := by
  simp only [jwa, List.forall_mem_cons, List.not_mem_nil, IsEmpty.forall_iff, implies_true,
    and_true]
  exact ⟨rfl, rfl, rfl, rfl, rfl, rfl, rfl, rfl, rfl⟩

/-- The scheme works with RSA keys. -/
def Scheme.isRSA : Scheme → Bool
  | .ecdsa _ => false
  | _ => true

theorem tests_of_mem : ∀ entry ∈ jwa, isRSAAlgorithm entry.1 = entry.2.1.isRSA ∧
    isPSSAlgorithm entry.1 = decide (entry.2.1 = .pss) ∧
    isECDSAAlgorithm entry.1 = !entry.2.1.isRSA := by
  decide

theorem validateECDSACurve_iff (curve : Curve) : ∀ entry ∈ jwa, ∀ name, entry.2.1 = .ecdsa name →
      (validateECDSACurve P curve entry.1 = .ok () ↔ curve.name = name) := by
  have hcheck (name : String) (e : String) :
      ((if curve.name = name then .ok () else .error e : Except String Unit) = .ok () ↔
        curve.name = name) := by
    split
    · exact iff_of_true rfl ‹_›
    · exact iff_of_false nofun ‹_›
  simp only [jwa, List.forall_mem_cons, List.not_mem_nil, IsEmpty.forall_iff, implies_true,
    and_true, Scheme.ecdsa.injEq, reduceCtorEq, true_and]
  refine ⟨?_, ?_, ?_⟩
  all_goals
    rintro name rfl
    exact hcheck _ _

/-! ### The key -/

theorem checkKeySize_ok_iff :
    checkKeySize key = .ok () ↔ ∀ n e, key = .rsa n e → 2048 ≤ bitLen n := by
  cases key with
  | rsa n e =>
    change (if bitLen n < 2048 then _ else _) = _ ↔ _
    by_cases hsmall : bitLen n < 2048
    · rw [if_pos hsmall]
      exact iff_of_false nofun fun h => absurd (h n e rfl) (Nat.not_le.mpr hsmall)
    · rw [if_neg hsmall]
      refine iff_of_true rfl ?_
      rintro n' e' ⟨⟩
      exact Nat.not_lt.mp hsmall
  | ecdsa curve x y => exact iff_of_true rfl nofun
  | other encoding => exact iff_of_true rfl nofun

/-- **The key's part of the verification is the scheme of the register.** -/
theorem verifyWithKey_iff {header : ProtectedHeader} {scheme : Scheme}
    {hash : Hash} (hmem : (header.algorithm, scheme, hash) ∈ jwa) (key : PublicKey)
    (digest sig : Bytes) :
    (checkKeySize key = .ok () ∧ verifyWithKey P header key hash digest sig = .ok true) ↔
      scheme.Accepts P hash digest sig key := by
  obtain ⟨hrsa, hpss, hec⟩ := tests_of_mem _ hmem
  rw [checkKeySize_ok_iff]
  cases key with
  | rsa n e =>
    have hsize : (∀ n' e', PublicKey.rsa n e = .rsa n' e' → 2048 ≤ bitLen n') ↔
        2048 ≤ bitLen n := by
      constructor
      · exact fun h => h n e rfl
      · rintro h n' e' ⟨⟩
        exact h
    rw [verifyWithKey, hrsa, hpss, hsize]
    cases scheme with
    | pkcs1v15 => simp [Scheme.isRSA, Scheme.Accepts]
    | pss => simp [Scheme.isRSA, Scheme.Accepts]
    | ecdsa name => exact iff_of_false (fun h => by cases h.2) id
  | ecdsa curve x y =>
    rw [verifyWithKey, hec, and_iff_right (by rintro _ _ ⟨⟩)]
    cases scheme with
    | pkcs1v15 => exact iff_of_false (by rintro ⟨⟩) id
    | pss => exact iff_of_false (by rintro ⟨⟩) id
    | ecdsa name =>
      have hcurve := validateECDSACurve_iff P curve _ hmem name rfl
      rw [Scheme.isRSA, if_neg (by decide), Scheme.Accepts, ← hcurve]
      cases validateECDSACurve P curve header.algorithm with
      | error e => exact iff_of_false (by rintro ⟨⟩) fun h => by cases h.1
      | ok u =>
        rw [and_iff_right rfl, verifyECDSARaw]
        by_cases hlength : sig.length = 2 * curveByteSize curve
        · rw [if_neg (not_not.mpr hlength), and_iff_right hlength, Except.ok.injEq, Bool.or_eq_true]
        · rw [if_pos hlength, Except.ok.injEq, Bool.or_eq_true]
          refine or_congr_left (iff_of_false Bool.false_ne_true fun h => hlength h.1)
  | other encoding =>
    refine iff_of_false (fun h => by cases h.2) ?_
    cases scheme <;> exact id

/-! ### The way through -/

/-- The result that a verification returns, with an error beside it or not. -/
def resultOf : Except (VerificationResult × String) VerificationResult → VerificationResult
  | .ok result => result
  | .error (result, _) => result

/-- A step that fails with a negative result. -/
def FailsNegative {α : Type} (x : Except (VerificationResult × String) α) : Prop :=
  ∀ failure, x = .error failure → failure.1.verified = false

theorem failsNegative_ok (a : α) :
    FailsNegative (.ok a : Except (VerificationResult × String) α) := nofun

theorem failsNegative_bind {α β : Type} {x : Except (VerificationResult × String) α}
    {f : α → Except (VerificationResult × String) β} (hx : FailsNegative x)
    (hf : ∀ a, FailsNegative (f a)) : FailsNegative (x >>= f) := by
  intro failure h
  cases x with
  | error failure' => exact hx failure (congrArg Except.error (Except.error.inj h))
  | ok a => exact hf a failure h

theorem failsNegative_orFail (details : String → String) (x : Except String α) :
    FailsNegative (orFail details x) := by
  cases x with
  | ok a => exact failsNegative_ok a
  | error e =>
    rintro failure ⟨⟩
    rfl

theorem failsNegative_checkKeySize : FailsNegative (checkKeySize key) := by
  cases key with
  | rsa n e =>
    rw [checkKeySize]
    by_cases hsmall : bitLen n < 2048
    · rw [bitLen] at hsmall
      rw [if_pos hsmall]
      rintro failure ⟨⟩
      rfl
    · rw [bitLen] at hsmall
      rw [if_neg hsmall]
      exact failsNegative_ok ()
  | ecdsa curve x y => exact failsNegative_ok ()
  | other encoding => exact failsNegative_ok ()

theorem failsNegative_verifyWithKey (header : ProtectedHeader)
    (key : PublicKey) (hash : Hash) (digest sig : Bytes) :
    FailsNegative (verifyWithKey P header key hash digest sig) := by
  intro failure h
  cases key with
  | rsa n e =>
    rw [verifyWithKey] at h
    split at h
    · cases h
      rfl
    · split at h <;> cases h
  | ecdsa curve x y =>
    rw [verifyWithKey] at h
    split at h
    · cases h
      rfl
    · split at h
      · cases h
        rfl
      · cases h
  | other encoding =>
    cases h
    rfl

/-- **Errors come with a negative result.** -/
theorem failsNegative_verifyJWS (c : AgentCardData) (sig : AgentCardSignature)
    (pem : Bytes) : FailsNegative (verifyJWS P c sig pem) := by
  refine failsNegative_bind (failsNegative_orFail _ _) fun header => ?_
  refine failsNegative_bind (failsNegative_orFail _ _) fun _ => ?_
  cases P.pemDecode pem with
  | none =>
    rintro failure ⟨⟩
    rfl
  | some der =>
    refine failsNegative_bind (failsNegative_ok der) fun block => ?_
    refine failsNegative_bind (failsNegative_orFail _ _) fun key => ?_
    refine failsNegative_bind (failsNegative_checkKeySize _) fun _ => ?_
    refine failsNegative_bind (failsNegative_orFail _ _) fun payload => ?_
    refine failsNegative_bind (failsNegative_orFail _ _) fun hash => ?_
    refine failsNegative_bind (failsNegative_orFail _ _) fun bytes => ?_
    exact failsNegative_bind (failsNegative_verifyWithKey _ _ _ _ _ _) fun verified =>
      failsNegative_ok _

theorem orFail_eq_ok {details : String → String} {x : Except String α} {a : α}
    (h : orFail details x = .ok a) : x = .ok a := by
  cases x with
  | error e => cases h
  | ok a' => rw [Except.ok.inj h]

/-- **A signature that is what its header says**: header, key, payload and signature can be read,
the algorithm is in the register, and its scheme accepts the signature of the signing input, hashed
with its hash. -/
def Authentic (P : Primitives Pool) (c : AgentCardData) (sig : AgentCardSignature) (pem : Bytes) :
    Prop :=
  ∃ header der key payload bytes scheme hash,
    decodeProtectedHeader P sig.protectedHeader = .ok header ∧
    P.pemDecode pem = some der ∧ parsePublicKey P der = .ok key ∧
    createCanonicalCardJSON P.floatText c = .ok payload ∧
    P.rawURLDecode sig.signature = .ok bytes ∧
    (header.algorithm, scheme, hash) ∈ jwa ∧
    scheme.Accepts P hash (P.hash hash (sig.protectedHeader ++ "." ++
      P.rawURLEncode (String.ofList payload).toUTF8.toList).toUTF8.toList) bytes key

theorem authentic_of_verified {P : Primitives Pool} {c : AgentCardData} {sig : AgentCardSignature}
    {pem : Bytes} {result : VerificationResult} (h : verifyJWS P c sig pem = .ok result)
    (hverified : result.verified = true) : Authentic P c sig pem := by
  obtain ⟨header, hheader, h⟩ := bind_eq_ok.mp h
  obtain ⟨_, halg, h⟩ := bind_eq_ok.mp h
  cases hpem : P.pemDecode pem with
  | none =>
    rw [hpem] at h
    cases h
  | some der =>
    rw [hpem] at h
    obtain ⟨block, hblock, h⟩ := bind_eq_ok.mp h
    cases hblock
    obtain ⟨key, hkey, h⟩ := bind_eq_ok.mp h
    obtain ⟨_, hsize, h⟩ := bind_eq_ok.mp h
    obtain ⟨payload, hpayload, h⟩ := bind_eq_ok.mp h
    obtain ⟨hash, hhash, h⟩ := bind_eq_ok.mp h
    obtain ⟨bytes, hbytes, h⟩ := bind_eq_ok.mp h
    obtain ⟨verified, hverify, h⟩ := bind_eq_ok.mp h
    cases h
    obtain rfl : verified = true := hverified
    obtain ⟨⟨alg, scheme, hash'⟩, hmem, rfl⟩ := List.mem_map.mp
      ((validateAlgorithm_ok_iff P header.algorithm).mp (orFail_eq_ok halg))
    have hsame := (hashForAlgorithm_of_mem P _ hmem).symm.trans (orFail_eq_ok hhash)
    cases hsame
    exact ⟨header, der, key, payload, bytes, scheme, _, orFail_eq_ok hheader, hpem,
      orFail_eq_ok hkey, orFail_eq_ok hpayload, orFail_eq_ok hbytes, hmem,
      (verifyWithKey_iff P hmem key _ bytes).mp ⟨hsize, hverify⟩⟩

/-- **What a positive verdict stands for**, for every card, signature and key: `VerifyJWS` returns
one just if the signature is authentic, whatever its header says. The signatures of the card do not
matter. -/
theorem verifyJWS_verified_iff (P : Primitives Pool) (c : AgentCardData) (sig : AgentCardSignature)
    (pem : Bytes) :
    ((resultOf (verifyJWS P c sig pem)).verified = true ↔ Authentic P c sig pem) ∧
      ∀ signatures, verifyJWS P (c.withSignatures signatures) sig pem = verifyJWS P c sig pem := by
  refine ⟨⟨fun h => ?_, ?_⟩, fun signatures => ?_⟩
  · cases hresult : verifyJWS P c sig pem with
    | error failure =>
      rw [hresult] at h
      have hnegative := failsNegative_verifyJWS P c sig pem failure hresult
      exact absurd (h.symm.trans hnegative) (by decide)
    | ok result =>
      rw [hresult] at h
      exact authentic_of_verified hresult h
  · rintro ⟨header, der, key, payload, bytes, scheme, hash, hheader, hpem, hkey, hpayload, hbytes,
      hmem, haccepts⟩
    obtain ⟨hsize, hverify⟩ := (verifyWithKey_iff P hmem key _ bytes).mpr haccepts
    obtain ⟨result, hresult, hverified⟩ := verifyJWS_eq_ok sig hheader
      ((validateAlgorithm_ok_iff P header.algorithm).mpr (List.mem_map_of_mem hmem)) hpem hkey hsize
      hpayload (hashForAlgorithm_of_mem P _ hmem) hbytes hverify
    rw [hresult]
    exact hverified
  · rw [verifyJWS, verifyJWS, payload_withSignatures]

end Rossoctl.Signature
