import Mathlib.Data.Nat.Digits.Lemmas
import Mathlib.Logic.Equiv.List
import Rossoctl.Signature.Decode
import Rossoctl.Signature.Jws

/-!
# Signing a card

The model of `SignCard` (`internal/signature/signer.go`), and what `VerifyJWS` makes of
the card that is signed: `Rossoctl.Signature.verifies_resigned`.

Signer and verifier compute the payload, the algorithm, the hash and the widths of a raw
signature each on their own. They agree for three reasons: the payload of a card does
not depend on its signatures (`Rossoctl.Signature.payload_withSignatures`), the
algorithm of a key is one the verifier accepts for it
(`Rossoctl.Signature.validateECDSACurve_of_algorithm`), and the two halves of a raw
signature are as wide as the curve wants them, whatever zeros the numbers begin with
(`Rossoctl.Signature.verifyECDSARaw_rawSignature`).
-/

namespace Rossoctl.Signature

open Json List

/-! ### Signers -/

/-- A `crypto.Signer`. Only an `*ecdsa.PrivateKey` can be handed to `ecdsa.Sign`. -/
inductive Signer where
  | ecdsaKey (curve : Curve) (x y : ℕ) (sign : Hash → Bytes → Except String Bytes)
      (ecdsaSign : Bytes → Except String (ℕ × ℕ))
  | other (typeName : String) (publicKey : PublicKey) (sign : Hash → Bytes → Except String Bytes)

def Signer.publicKey : Signer → PublicKey
  | .ecdsaKey curve x y _ _ => .ecdsa curve x y
  | .other _ publicKey _ => publicKey

def Signer.sign : Signer → Hash → Bytes → Except String Bytes
  | .ecdsaKey _ _ _ sign _ => sign
  | .other _ _ sign => sign

/-- The primitives of the verifier and those the signer has besides, over a type of
texts. -/
structure SigningPrimitives (Pool Text : Type) extends Primitives Pool where
  marshalHeader : ProtectedHeader → Except String Bytes
  stdEncode : Bytes → String
  /-- The name of a key's type. -/
  keyType : PublicKey → String
  marshalIndent : Document → Except String Text
  unmarshalText : Text → Except String Document

/-- **Decoding inverts encoding.** -/
structure SigningPrimitives.Laws {Pool Text : Type} (P : SigningPrimitives Pool Text) : Prop where
  rawURL : ∀ b, P.rawURLDecode (P.rawURLEncode b) = .ok b
  header : ∀ h, ∃ b, P.marshalHeader h = .ok b ∧ P.unmarshalHeader b = .ok h
  text : ∀ d, ∃ t, P.marshalIndent d = .ok t ∧ P.unmarshalText t = .ok d
  pem : ∀ b, P.pemDecode (P.pemEncode b) = some b

/-! ### The signer -/

def p256 : Curve := ⟨"P-256", 256⟩

def p384 : Curve := ⟨"P-384", 384⟩

def p521 : Curve := ⟨"P-521", 521⟩

section Signer

variable {Pool Text : Type} (P : SigningPrimitives Pool Text)

/-- `algorithmForKey`. -/
def algorithmForKey : PublicKey → Except String String
  | .rsa n _ =>
    let bits := if n = 0 then 0 else n.log2 + 1
    if bits < 2048 then .error ("RSA key too small: " ++ toString bits ++ " bits (minimum 2048)")
    else .ok "RS256"
  | .ecdsa curve _ _ =>
    if curve = p256 then .ok "ES256"
    else if curve = p384 then .ok "ES384"
    else if curve = p521 then .ok "ES512"
    else .error ("unsupported ECDSA curve: " ++ curve.name)
  | .other encoding => .error ("unsupported key type: " ++ P.keyType (.other encoding))

/-- Bytes in hexadecimal, two digits each. -/
def hex (bytes : Bytes) : String :=
  String.ofList (bytes.flatMap fun b => [(b.toNat / 16).digitChar, (b.toNat % 16).digitChar])

/-- `ComputeKID`: the beginning of the leaf's fingerprint. -/
def computeKID (leaf : Certificate) : String := hex ((P.hash .sha256 leaf.raw).take 8)

/-- `encodeProtectedHeader`. -/
def encodeProtectedHeader (header : ProtectedHeader) : Except String String :=
  match P.marshalHeader header with
  | .error e => .error ("failed to marshal protected header: " ++ e)
  | .ok headerJSON => .ok (P.rawURLEncode headerJSON)

/-- `big.Int.Bytes`: big-endian, without zeros in front. -/
def natBytes (n : ℕ) : Bytes := (Nat.digits 256 n).reverse.map UInt8.ofNat

/-- `copy` into a buffer. -/
def copyAt (buf : Bytes) (offset : ℕ) (src : Bytes) : Bytes :=
  buf.take offset ++ src ++ buf.drop (offset + src.length)

/-- The two numbers of a signature, each at the end of its half of the buffer. A number
that does not fit is a slice out of bounds. -/
def rawSignature (keySize r s : ℕ) : Except String Bytes :=
  let rBytes := natBytes r
  let sBytes := natBytes s
  if keySize < rBytes.length ∨ 2 * keySize < sBytes.length then
    .error "slice bounds out of range"
  else
    let sig := List.replicate (2 * keySize) 0
    let sig := copyAt sig (keySize - rBytes.length) rBytes
    .ok (copyAt sig (2 * keySize - sBytes.length) sBytes)

/-- `signECDSARaw`: both numbers at full length, as JWS has it. -/
def signECDSARaw (signer : Signer) (hashed : Bytes) : Except String Bytes :=
  match signer with
  | .other typeName _ _ => .error ("expected *ecdsa.PrivateKey, got " ++ typeName)
  | .ecdsaKey curve _ _ _ ecdsaSign =>
    match ecdsaSign hashed with
    | .error e => .error ("ECDSA sign failed: " ++ e)
    | .ok (r, s) => rawSignature (curveByteSize curve) r s

/-- `signInput`. -/
def signInput (signer : Signer) (alg : String) (input : Bytes) : Except String Bytes :=
  match hashForAlgorithm P.toPrimitives alg with
  | .error e => .error e
  | .ok hashFunc =>
    let hashed := P.hash hashFunc input
    if alg ∈ ["RS256", "RS384", "RS512"] then signer.sign hashFunc hashed
    else if alg ∈ ["ES256", "ES384", "ES512"] then signECDSARaw signer hashed
    else .error ("unsupported algorithm: " ++ alg)

/-- What is signed, for a header and a payload. -/
def signingInput (P : Primitives Pool) (protectedB64 : String) (payload : List Char) : Bytes :=
  let payloadB64 := P.rawURLEncode (String.ofList payload).toUTF8.toList
  (protectedB64 ++ "." ++ payloadB64).toUTF8.toList

/-- The protected header of a signature. -/
def headerFor (alg : String) (leaf : Certificate) (certs : List Certificate) : ProtectedHeader where
  algorithm := alg
  keyID := computeKID P leaf
  type := "JOSE"
  x5c := certs.map fun cert => P.stdEncode cert.raw

/-- The card with these signatures in place of its own. -/
def AgentCardData.withSignatures (c : AgentCardData) (signatures : List AgentCardSignature) :
    AgentCardData :=
  { c with signatures := signatures }

/-- **`SignCard`**: the card it leaves behind and the text it returns. -/
def signCard (cardData : Option AgentCardData) (signer : Signer) (certs : List Certificate) :
    Except String (AgentCardData × Text) :=
  match cardData, certs with
  | none, _ => .error "card data is nil"
  | some _, [] => .error "no certificates in SVID chain"
  | some cardData, leaf :: rest => do
    let alg ← algorithmForKey P signer.publicKey
    let protectedB64 ← (encodeProtectedHeader P (headerFor P alg leaf (leaf :: rest))).mapError
      ("failed to encode protected header: " ++ ·)
    let payload ← (createCanonicalCardJSON P.floatText cardData).mapError
      ("failed to create canonical JSON: " ++ ·)
    let input := signingInput P.toPrimitives protectedB64 payload
    let sigBytes ← (signInput P signer alg input).mapError ("signing failed: " ++ ·)
    let signature : AgentCardSignature :=
      { protectedHeader := protectedB64, signature := P.rawURLEncode sigBytes }
    let cardData := cardData.withSignatures [signature]
    let output ← (P.marshalIndent cardData.marshal).mapError
      ("failed to marshal signed card: " ++ ·)
    .ok (cardData, output)

end Signer

/-! ### Numbers of a fixed width -/

theorem bigEndian_append_of_zero {bytes : Bytes} (n : ℕ) :
    bigEndian (List.replicate n 0 ++ bytes) = bigEndian bytes := by
  rw [bigEndian, foldl_append]
  have hzero : (List.replicate n (0 : UInt8)).foldl (fun acc b => acc * 256 + b.toNat) 0 = 0 := by
    induction n with
    | zero => rfl
    | succ n ih => rw [replicate_succ, foldl_cons]; exact ih
  rw [hzero, bigEndian]

theorem bigEndian_natBytes (n : ℕ) : bigEndian (natBytes n) = n := by
  have hdigits : ∀ d ∈ Nat.digits 256 n, (UInt8.ofNat d).toNat = d := by
    intro d hd
    have hlt := Nat.digits_lt_base (by norm_num) hd
    simp only [UInt8.toNat_ofNat']
    omega
  rw [bigEndian, natBytes, foldl_map, foldl_reverse]
  conv_rhs => rw [← Nat.ofDigits_digits 256 n, Nat.ofDigits_eq_foldr]
  generalize Nat.digits 256 n = ds at hdigits
  induction ds with
  | nil => rfl
  | cons d ds ih =>
    rw [foldr_cons, foldr_cons, ih fun e he => hdigits e (mem_cons_of_mem _ he),
      hdigits d mem_cons_self, Nat.cast_id]
    ring

theorem length_natBytes_le {n k : ℕ} (h : n < 256 ^ k) : (natBytes n).length ≤ k := by
  rw [natBytes, length_map, length_reverse]
  exact (Nat.digits_length_le_iff (by norm_num) n).mpr h

variable {curve : Curve}

theorem lt_pow_curveByteSize {n : ℕ} (h : n < 2 ^ curve.bitSize) :
    n < 256 ^ curveByteSize curve := by
  have hbits : curve.bitSize ≤ 8 * curveByteSize curve := by
    rw [curveByteSize]
    omega
  calc n < 2 ^ curve.bitSize := h
    _ ≤ 2 ^ (8 * curveByteSize curve) := Nat.pow_le_pow_right (by norm_num) hbits
    _ = 256 ^ curveByteSize curve := by rw [pow_mul]; norm_num

/-- **The raw signature**: each number with zeros in front, one behind the other. -/
theorem rawSignature_eq {keySize r s : ℕ} (hr : (natBytes r).length ≤ keySize)
    (hs : (natBytes s).length ≤ keySize) :
    rawSignature keySize r s =
      .ok ((List.replicate (keySize - (natBytes r).length) 0 ++ natBytes r) ++
        (List.replicate (keySize - (natBytes s).length) 0 ++ natBytes s)) := by
  rw [rawSignature, if_neg (by omega)]
  dsimp only
  -- the first copy fills the first half, the second one leaves it as it is
  have hfirst : copyAt (List.replicate (2 * keySize) 0) (keySize - (natBytes r).length)
      (natBytes r) = (List.replicate (keySize - (natBytes r).length) 0 ++ natBytes r) ++
        List.replicate keySize 0 := by
    rw [copyAt, take_replicate, drop_replicate]
    congr 2
    · congr 1
      omega
    · omega
  have hlength : (List.replicate (keySize - (natBytes r).length) (0 : UInt8) ++
      natBytes r).length = keySize := by
    rw [length_append, length_replicate]
    omega
  have hsecond : 2 * keySize - (natBytes s).length =
      (List.replicate (keySize - (natBytes r).length) (0 : UInt8) ++ natBytes r).length +
        (keySize - (natBytes s).length) := by
    omega
  rw [hfirst, copyAt, hsecond, take_length_add_append, take_replicate,
    drop_of_length_le (by simp only [length_append, length_replicate]; omega),
    append_nil, append_assoc, Nat.min_eq_left (by omega)]

/-- **The verifier reads the numbers back**, whatever zeros they begin with. -/
theorem verifyECDSARaw_rawSignature {Pool : Type} (P : Primitives Pool) {x y r s : ℕ}
    (hashed : Bytes) (hr : r < 2 ^ curve.bitSize) (hs : s < 2 ^ curve.bitSize) :
    ∃ sig, rawSignature (curveByteSize curve) r s = .ok sig ∧
      verifyECDSARaw P curve x y hashed sig = P.ecdsaVerify curve x y hashed r s := by
  have hr' := length_natBytes_le (lt_pow_curveByteSize hr)
  have hs' := length_natBytes_le (lt_pow_curveByteSize hs)
  have hlength : ∀ n, (natBytes n).length ≤ curveByteSize curve →
      (List.replicate (curveByteSize curve - (natBytes n).length) (0 : UInt8) ++
        natBytes n).length = curveByteSize curve := by
    intro n hn
    rw [length_append, length_replicate]
    omega
  refine ⟨_, rawSignature_eq hr' hs', ?_⟩
  rw [verifyECDSARaw, if_neg (by rw [length_append, hlength r hr', hlength s hs']; omega),
    take_left' (hlength r hr'), drop_left' (hlength r hr'), bigEndian_append_of_zero,
    bigEndian_append_of_zero, bigEndian_natBytes, bigEndian_natBytes]

/-! ### The payload of a signed card -/

theorem nums_signature (s : AgentCardSignature) : s.toJson.nums = [] := by
  obtain ⟨protectedHeader, signature, header⟩ := s
  cases header with
  | none => rfl
  | some timestamp =>
    by_cases h : timestamp = ""
    · subst h
      rfl
    · simp [AgentCardSignature.toJson, marshalStruct, isEmptyValue, h, JTree.nums,
        JTree.numsMembers]

theorem nums_withSignatures (c : AgentCardData) (signatures : List AgentCardSignature) :
    (c.withSignatures signatures).marshal.nums = c.marshal.nums := by
  have hnums : ∀ ss : List AgentCardSignature,
      (([("signatures", JTree.arr (ss.map AgentCardSignature.toJson))].filter
        fun p => !isEmptyValue p.2).flatMap fun p => p.2.nums) = [] := by
    intro ss
    have harr : (JTree.arr (ss.map AgentCardSignature.toJson) : Document).nums = [] := by
      rw [JTree.nums_arr, flatMap_map, flatMap_eq_nil_iff]
      exact fun s _ => nums_signature s
    rw [flatMap_eq_nil_iff]
    intro p hp
    rw [mem_singleton.mp (mem_filter.mp hp).1]
    exact harr
  have hsplit : ∀ c : AgentCardData, c.marshal.nums =
      ((c.fieldsBefore marshalStruct ++ c.fieldsAfter marshalStruct).filter
        fun p => !isEmptyValue p.2).flatMap fun p => p.2.nums := by
    intro c
    rw [AgentCardData.marshal, marshalStruct, JTree.nums_obj, AgentCardData.fields,
      ← singleton_append, filter_append, filter_append, filter_append,
      flatMap_append, flatMap_append, flatMap_append, hnums, nil_append]
  rw [hsplit, hsplit c]
  rfl

/-- **The payload does not depend on the signatures.** -/
theorem payload_withSignatures (ft : FloatText) (c : AgentCardData)
    (signatures : List AgentCardSignature) :
    createCanonicalCardJSON ft (c.withSignatures signatures) = createCanonicalCardJSON ft c := by
  have hpayload : ∀ c : AgentCardData, createCanonicalCardJSON ft c =
      if c.marshal.nums.all Literal.inRange then
        .ok (marshalCanonical ft (removeEmptyFields (mapSnd (JTree.map Literal.nearest)
          (mapSnd JTree.resolve
            ((c.fieldsBefore marshalStruct ++ c.fieldsAfter marshalStruct).filter
              fun p => !isEmptyValue p.2)))))
      else .error "failed to unmarshal to map" := by
    intro c
    rw [createCanonicalCardJSON, unmarshal]
    split
    · have hmap : (c.marshal.map Literal.nearest).resolve = .obj (mapSnd (JTree.map Literal.nearest)
          (mapSnd JTree.resolve (c.fields.filter fun p => !isEmptyValue p.2))) := by
        rw [JTree.resolve_map, AgentCardData.marshal, resolve_marshalStruct (sorted_fields c),
          JTree.map_obj]
      have hfilter : ∀ m : List (String × Document),
          (mapSnd (JTree.map Literal.nearest) m).filter (fun p => p.1 ≠ "signatures") =
            mapSnd (JTree.map Literal.nearest) (m.filter fun p => p.1 ≠ "signatures") := by
        intro m
        rw [mapSnd, filter_map]
        rfl
      rw [hmap, ← filter_resolve_fields, ← hfilter]
      rfl
    · rfl
  rw [hpayload, hpayload c, nums_withSignatures]
  rfl

/-! ### The algorithm of a key -/

/-- **The supported keys.** -/
def PublicKey.Supported : PublicKey → Prop
  | .rsa n _ => 2 ^ 2047 ≤ n
  | .ecdsa curve _ _ => curve = p256 ∨ curve = p384 ∨ curve = p521
  | .other _ => False

/-- An algorithm that belongs to a key, as both sides see it. -/
inductive AlgorithmOf : PublicKey → String → Prop
  | rsa {n e : ℕ} (h : 2 ^ 2047 ≤ n) : AlgorithmOf (.rsa n e) "RS256"
  | es256 (x y : ℕ) : AlgorithmOf (.ecdsa p256 x y) "ES256"
  | es384 (x y : ℕ) : AlgorithmOf (.ecdsa p384 x y) "ES384"
  | es512 (x y : ℕ) : AlgorithmOf (.ecdsa p521 x y) "ES512"

theorem not_bits_lt {n : ℕ} (h : 2 ^ 2047 ≤ n) : ¬ (if n = 0 then 0 else n.log2 + 1) < 2048 := by
  have hne : n ≠ 0 := Nat.ne_of_gt (lt_of_lt_of_le (Nat.two_pow_pos _) h)
  rw [if_neg hne]
  have hlog := (Nat.le_log2 hne).mpr h
  omega

section Verify

variable {Pool Text : Type} {P : SigningPrimitives Pool Text}

theorem exists_algorithm (P : SigningPrimitives Pool Text) {key : PublicKey}
    (h : key.Supported) : ∃ alg, algorithmForKey P key = .ok alg ∧ AlgorithmOf key alg := by
  cases key with
  | rsa n e => exact ⟨"RS256", if_neg (not_bits_lt h), .rsa h⟩
  | ecdsa curve x y =>
    rcases h with rfl | rfl | rfl
    · exact ⟨"ES256", rfl, .es256 x y⟩
    · exact ⟨"ES384", rfl, .es384 x y⟩
    · exact ⟨"ES512", rfl, .es512 x y⟩
  | other encoding => exact h.elim

namespace AlgorithmOf

variable {key : PublicKey} {alg : String}

theorem validateAlgorithm (h : AlgorithmOf key alg) (P : Primitives Pool) :
    validateAlgorithm P alg = .ok () := by
  cases h <;> rfl

theorem checkKeySize (h : AlgorithmOf key alg) : checkKeySize key = .ok () := by
  cases h with
  | rsa hn => exact if_neg (not_bits_lt hn)
  | es256 => rfl
  | es384 => rfl
  | es512 => rfl

theorem exists_hash (h : AlgorithmOf key alg) (P : Primitives Pool) :
    ∃ hashFunc, hashForAlgorithm P alg = .ok hashFunc := by
  cases h <;> exact ⟨_, rfl⟩

end AlgorithmOf

/-- **The primitive verifies what it has signed.** The numbers of an ECDSA signature are
below the order of the group. -/
def Signer.Sound (P : Primitives Pool) : Signer → Prop
  | .ecdsaKey curve x y _ ecdsaSign => ∀ hashed r s, ecdsaSign hashed = .ok (r, s) →
      r < 2 ^ curve.bitSize ∧ s < 2 ^ curve.bitSize ∧ P.ecdsaVerify curve x y hashed r s = true
  | .other _ (.rsa n e) sign => ∀ hashFunc hashed sig, sign hashFunc hashed = .ok sig →
      P.verifyPKCS1v15 n e hashFunc hashed sig = true
  | .other .. => True

/-- The primitive does not fail. -/
def Signer.Returns : Signer → Prop
  | .ecdsaKey _ _ _ _ ecdsaSign => ∀ hashed, ∃ r s, ecdsaSign hashed = .ok (r, s)
  | .other _ (.rsa _ _) sign => ∀ hashFunc hashed, ∃ sig, sign hashFunc hashed = .ok sig
  | .other .. => False

section SignInput

variable {signer : Signer} {alg : String}

/-- A raw signature, on the way through `SignECDSARaw` and the verifier. -/
theorem verify_signECDSARaw {x y : ℕ} (hsound : signer.Sound P.toPrimitives)
    (hkey : signer.publicKey = .ecdsa curve x y) {hashed sig : Bytes}
    (hsig : signECDSARaw signer hashed = .ok sig) :
    verifyECDSARaw P.toPrimitives curve x y hashed sig = true := by
  cases signer with
  | other typeName publicKey sign => cases hsig
  | ecdsaKey curve' x' y' sign ecdsaSign =>
    cases hkey
    rw [signECDSARaw] at hsig
    split at hsig
    · cases hsig
    · rename_i r s hrs
      obtain ⟨hr, hs, hverify⟩ := hsound hashed r s hrs
      obtain ⟨raw, hraw, hread⟩ := verifyECDSARaw_rawSignature P.toPrimitives hashed hr hs
      rw [hraw] at hsig
      cases hsig
      rw [hread, hverify]

variable {c : AgentCardData} {hashFunc : Hash}

theorem verify_sign {n e : ℕ} (hsound : signer.Sound P.toPrimitives)
    (hkey : signer.publicKey = .rsa n e) {hashed sig : Bytes}
    (hsig : signer.sign hashFunc hashed = .ok sig) :
    P.verifyPKCS1v15 n e hashFunc hashed sig = true := by
  cases signer with
  | ecdsaKey curve x y sign ecdsaSign => cases hkey
  | other typeName publicKey sign =>
    cases hkey
    exact hsound hashFunc hashed sig hsig

/-- **What the signer makes of an input the verifier accepts.** -/
theorem verifyWithKey_signInput (hsound : signer.Sound P.toPrimitives)
    (halg : AlgorithmOf signer.publicKey alg)
    (hhash : hashForAlgorithm P.toPrimitives alg = .ok hashFunc) (header : ProtectedHeader)
    (hheader : header.algorithm = alg) {input sig : Bytes}
    (hsig : signInput P signer alg input = .ok sig) :
    verifyWithKey P.toPrimitives header signer.publicKey hashFunc (P.hash hashFunc input) sig =
      .ok true := by
  rw [signInput, hhash] at hsig
  generalize hkey : signer.publicKey = key at halg ⊢
  cases halg with
  | rsa hn =>
    rw [verifyWithKey, hheader]
    exact congrArg Except.ok (verify_sign hsound hkey hsig)
  | es256 x y | es384 x y | es512 x y =>
    rw [verifyWithKey, hheader]
    have hraw := verify_signECDSARaw hsound hkey hsig
    show Except.ok (verifyECDSARaw P.toPrimitives _ x y _ sig || _) = _
    rw [hraw, Bool.true_or]

theorem exists_signInput (hsound : signer.Sound P.toPrimitives) (hreturns : signer.Returns)
    (halg : AlgorithmOf signer.publicKey alg) (input : Bytes) :
    ∃ sig, signInput P signer alg input = .ok sig := by
  obtain ⟨hashFunc, hhash⟩ := halg.exists_hash P.toPrimitives
  rw [signInput, hhash]
  cases signer with
  | ecdsaKey curve x y sign ecdsaSign =>
    obtain ⟨r, s, hrs⟩ := hreturns (P.hash hashFunc input)
    obtain ⟨hr, hs, -⟩ := hsound _ r s hrs
    obtain ⟨raw, hraw, -⟩ := verifyECDSARaw_rawSignature P.toPrimitives (P.hash hashFunc input)
      hr hs (x := x) (y := y)
    have hsign : signECDSARaw (.ecdsaKey curve x y sign ecdsaSign) (P.hash hashFunc input) =
        .ok raw := by
      rw [signECDSARaw, hrs]
      exact hraw
    generalize hkey : Signer.publicKey (.ecdsaKey curve x y sign ecdsaSign) = key at halg
    cases halg with
    | rsa => cases hkey
    | es256 | es384 | es512 => exact ⟨raw, hsign⟩
  | other typeName publicKey sign =>
    cases publicKey with
    | rsa n e =>
      obtain ⟨sig, hsig⟩ := hreturns hashFunc (P.hash hashFunc input)
      generalize hkey : Signer.publicKey (.other typeName (.rsa n e) sign) = key at halg
      cases halg with
      | rsa => exact ⟨sig, hsig⟩
      | es256 | es384 | es512 => cases hkey
    | ecdsa curve x y => exact hreturns.elim
    | other encoding => exact hreturns.elim

end SignInput

/-- **The way through `VerifyJWS`**: the verdict is that of the key. -/
theorem verifyJWS_eq_ok {P : Primitives Pool} (sig : AgentCardSignature)
    {pem der signatureBytes : Bytes} {header : ProtectedHeader} {key : PublicKey}
    {payload : List Char} {verified : Bool}
    (hheader : decodeProtectedHeader P sig.protectedHeader = .ok header)
    (halg : validateAlgorithm P header.algorithm = .ok ()) (hpem : P.pemDecode pem = some der)
    (hkey : parsePublicKey P der = .ok key) (hsize : checkKeySize key = .ok ())
    (hpayload : createCanonicalCardJSON P.floatText c = .ok payload)
    (hhash : hashForAlgorithm P header.algorithm = .ok hashFunc)
    (hbytes : P.rawURLDecode sig.signature = .ok signatureBytes)
    (hverify : verifyWithKey P header key hashFunc
      (P.hash hashFunc (signingInput P sig.protectedHeader payload)) signatureBytes =
      .ok verified) :
    ∃ result, verifyJWS P c sig pem = .ok result ∧ result.verified = verified := by
  rw [signingInput] at hverify
  simp only [verifyJWS, hheader, halg, hpem, hkey, hsize, hpayload, hhash, hbytes, hverify, orFail,
    bind, Except.bind]
  exact ⟨_, rfl, rfl⟩

/-! ### Signing and verifying -/

/-- A signer with the certificates of its key. -/
structure Signing where
  signer : Signer
  leaf : Certificate
  intermediates : List Certificate

/-- **A supported key and its certificate**: the leaf carries the key, which can be
marshalled and parsed, and the primitive verifies what it has signed. -/
structure Signing.Fits (P : Primitives Pool) (k : Signing) : Prop where
  supported : k.signer.publicKey.Supported
  leafKey : k.leaf.publicKey = k.signer.publicKey
  readable : ∃ der, P.marshalPKIX k.signer.publicKey = .ok der ∧
    P.parsePKIX der = .ok k.signer.publicKey
  sound : k.signer.Sound P

/-- The last signature of a card verifies with the key. -/
def VerifiesWith (P : Primitives Pool) (c : AgentCardData) (key : PublicKey) : Prop :=
  ∃ sig pem result, c.signatures.getLast? = some sig ∧ marshalPublicKeyToPEM P key = .ok pem ∧
    verifyJWS P c sig pem = .ok result ∧ result.verified = true

/-- Sign a card and decode the text. -/
def resign (P : SigningPrimitives Pool Text) (c : AgentCardData) (k : Signing) :
    Except String AgentCardData := do
  let signed ← signCard P (some c) k.signer (k.leaf :: k.intermediates)
  let document ← P.unmarshalText signed.2
  decodeCard document

theorem bind_eq_ok {ε α β : Type} {x : Except ε α} {f : α → Except ε β} {b : β} :
    (x >>= f) = .ok b ↔ ∃ a, x = .ok a ∧ f a = .ok b := by
  cases x with
  | error e => exact ⟨fun h => (by cases h), fun ⟨_, h, _⟩ => by cases h⟩
  | ok a =>
    constructor
    · exact fun h => ⟨a, rfl, h⟩
    · rintro ⟨a', ha, h⟩
      cases ha
      exact h

theorem mapError_eq_ok {α : Type} {x : Except String α} {wrap : String → String} {a : α} :
    x.mapError wrap = .ok a ↔ x = .ok a := by
  cases x with
  | error e => exact ⟨fun h => (by cases h), fun h => by cases h⟩
  | ok a' => exact Iff.rfl

/-- **What `SignCard` has computed when it returns.** -/
theorem signCard_eq_ok {c' : AgentCardData} {k : Signing} {t : Text} :
    signCard P (some c) k.signer (k.leaf :: k.intermediates) = .ok (c', t) ↔
      ∃ alg protectedB64 payload sigBytes, algorithmForKey P k.signer.publicKey = .ok alg ∧
        encodeProtectedHeader P (headerFor P alg k.leaf (k.leaf :: k.intermediates)) =
          .ok protectedB64 ∧
        createCanonicalCardJSON P.floatText c = .ok payload ∧
        signInput P k.signer alg (signingInput P.toPrimitives protectedB64 payload) = .ok sigBytes ∧
        c' = c.withSignatures
          [{ protectedHeader := protectedB64, signature := P.rawURLEncode sigBytes }] ∧
        P.marshalIndent c'.marshal = .ok t := by
  simp only [signCard, bind_eq_ok, mapError_eq_ok, Except.ok.injEq, Prod.mk.injEq]
  constructor
  · rintro ⟨alg, halg, protectedB64, hprot, payload, hpayload, sigBytes, hsig, t, ht, rfl, rfl⟩
    exact ⟨alg, protectedB64, payload, sigBytes, halg, hprot, hpayload, hsig, rfl, ht⟩
  · rintro ⟨alg, protectedB64, payload, sigBytes, halg, hprot, hpayload, hsig, rfl, ht⟩
    exact ⟨alg, halg, protectedB64, hprot, payload, hpayload, sigBytes, hsig, t, ht, rfl, rfl⟩

section Laws

variable {c c' : AgentCardData} {k : Signing}

theorem decode_encodeProtectedHeader {header : ProtectedHeader} {protectedB64 : String}
    (L : P.Laws) (h : encodeProtectedHeader P header = .ok protectedB64) :
    decodeProtectedHeader P.toPrimitives protectedB64 = .ok header := by
  obtain ⟨b, hb, hread⟩ := L.header header
  rw [encodeProtectedHeader, hb] at h
  cases h
  rw [decodeProtectedHeader, L.rawURL]
  simp only [hread]

theorem AgentCardData.Proper.withSignatures (hc : c.Proper)
    (signatures : List AgentCardSignature) : (c.withSignatures signatures).Proper := hc

theorem resign_eq_ok (L : P.Laws) (hc : c.Proper) : resign P c k = .ok c' ↔
      ∃ t, signCard P (some c) k.signer (k.leaf :: k.intermediates) = .ok (c', t) := by
  have hdecode : ∀ {c'' : AgentCardData} {t : Text},
      signCard P (some c) k.signer (k.leaf :: k.intermediates) = .ok (c'', t) →
      (P.unmarshalText t >>= decodeCard) = .ok c'' := by
    intro c'' t h
    obtain ⟨_, _, _, _, -, -, -, -, rfl, ht⟩ := signCard_eq_ok.mp h
    obtain ⟨t', ht', hread⟩ := L.text (c.withSignatures _).marshal
    rw [ht] at ht'
    cases ht'
    rw [hread]
    exact decodeCard_marshal (hc.withSignatures _)
  rw [resign, bind_eq_ok]
  constructor
  · rintro ⟨⟨c'', t⟩, hsign, h⟩
    rw [hdecode hsign] at h
    cases h
    exact ⟨t, hsign⟩
  · rintro ⟨t, hsign⟩
    exact ⟨(c', t), hsign, hdecode hsign⟩

theorem resign_withSignatures (L : P.Laws) (hc : c.Proper) (h : resign P c k = .ok c') :
    ∃ sig, c' = c.withSignatures [sig] := by
  obtain ⟨t, hsign⟩ := (resign_eq_ok L hc).mp h
  obtain ⟨_, _, _, _, -, -, -, -, hcard, -⟩ := signCard_eq_ok.mp hsign
  exact ⟨_, hcard⟩

/-- **One signing**: the signature verifies with the leaf's key. -/
theorem verifiesWith_resign (L : P.Laws) (hc : c.Proper) (hk : k.Fits P.toPrimitives)
    (h : resign P c k = .ok c') : VerifiesWith P.toPrimitives c' k.leaf.publicKey := by
  obtain ⟨t, hsign⟩ := (resign_eq_ok L hc).mp h
  obtain ⟨alg, protectedB64, payload, sigBytes, halg, hprot, hpayload, hsig, rfl, -⟩ :=
    signCard_eq_ok.mp hsign
  obtain ⟨alg', halg', hof⟩ := exists_algorithm P hk.supported
  rw [halg] at halg'
  cases halg'
  obtain ⟨hashFunc, hhash⟩ := hof.exists_hash P.toPrimitives
  obtain ⟨der, hder, hparse⟩ := hk.readable
  have hpublic : parsePublicKey P.toPrimitives der = .ok k.signer.publicKey := by
    rw [parsePublicKey, hparse]
  have hverify := verifyWithKey_signInput hk.sound hof hhash
    (headerFor P alg k.leaf (k.leaf :: k.intermediates)) rfl hsig
  have hpem : marshalPublicKeyToPEM P.toPrimitives k.leaf.publicKey = .ok (P.pemEncode der) := by
    rw [marshalPublicKeyToPEM, hk.leafKey, hder]
  obtain ⟨result, hresult, hverified⟩ := verifyJWS_eq_ok
    { protectedHeader := protectedB64, signature := P.rawURLEncode sigBytes }
    (decode_encodeProtectedHeader L hprot) (hof.validateAlgorithm _) (L.pem der) hpublic
    hof.checkKeySize ((payload_withSignatures P.floatText c _).trans hpayload) hhash
    (L.rawURL sigBytes) hverify
  exact ⟨_, P.pemEncode der, result, rfl, hpem, hresult, hverified⟩

/-- **One signing returns** if the primitive does. -/
theorem exists_resign (L : P.Laws) (hc : c.Proper)
    (hrange : c.marshal.nums.all Literal.inRange = true) (hk : k.Fits P.toPrimitives)
    (hreturns : k.signer.Returns) : ∃ c', resign P c k = .ok c' := by
  obtain ⟨alg, halg, hof⟩ := exists_algorithm P hk.supported
  obtain ⟨b, hb, -⟩ := L.header (headerFor P alg k.leaf (k.leaf :: k.intermediates))
  have hprot : encodeProtectedHeader P (headerFor P alg k.leaf (k.leaf :: k.intermediates)) =
      .ok (P.rawURLEncode b) := by
    rw [encodeProtectedHeader, hb]
  obtain ⟨payload, hpayload⟩ := exists_payload P.floatText hrange
  obtain ⟨sigBytes, hsig⟩ := exists_signInput hk.sound hreturns hof
    (signingInput P.toPrimitives (P.rawURLEncode b) payload)
  obtain ⟨t, ht, -⟩ := L.text (c.withSignatures
    [{ protectedHeader := P.rawURLEncode b, signature := P.rawURLEncode sigBytes }]).marshal
  have hsigned := signCard_eq_ok.mpr
    ⟨alg, _, payload, sigBytes, halg, hprot, hpayload, hsig, rfl, ht⟩
  exact ⟨_, (resign_eq_ok L hc).mpr ⟨t, hsigned⟩⟩

/-- The cards of a run of signings differ in their signatures only. -/
theorem foldlM_resign_withSignatures (L : P.Laws) (ks : List Signing) {c' : AgentCardData}
    (hc : c.Proper) (h : ks.foldlM (resign P) c = .ok c') :
    ∃ signatures, c' = c.withSignatures signatures := by
  induction ks generalizing c with
  | nil =>
    have heq : c = c' := Except.ok.inj h
    exact ⟨c.signatures, heq.symm⟩
  | cons k ks ih =>
    rw [foldlM_cons, bind_eq_ok] at h
    obtain ⟨d, hd, h⟩ := h
    obtain ⟨sig, rfl⟩ := resign_withSignatures L hc hd
    obtain ⟨signatures, rfl⟩ := ih (hc.withSignatures _) h
    exact ⟨signatures, rfl⟩

theorem exists_foldlM_resign (L : P.Laws) (ks : List Signing) (hc : c.Proper)
    (hrange : c.marshal.nums.all Literal.inRange = true)
    (hks : ∀ k ∈ ks, k.Fits P.toPrimitives ∧ k.signer.Returns) :
    ∃ c', ks.foldlM (resign P) c = .ok c' := by
  induction ks generalizing c with
  | nil => exact ⟨c, rfl⟩
  | cons k ks ih =>
    obtain ⟨hk, hreturns⟩ := hks k mem_cons_self
    obtain ⟨d, hd⟩ := exists_resign L hc hrange hk hreturns
    obtain ⟨sig, rfl⟩ := resign_withSignatures L hc hd
    obtain ⟨c', hc'⟩ := ih (hc.withSignatures [sig]) (by rwa [nums_withSignatures])
      fun j hj => hks j (mem_cons_of_mem _ hj)
    exact ⟨c', by rw [foldlM_cons, hd]; exact hc'⟩

/-- **The round trip.** Sign a card any number of times, each time the card in the text
of the time before: whatever the keys of the earlier signings and the signatures the card
had at first, the card in the last text is the card with one signature, and that one
verifies with the key of the last leaf. If all keys are supported and no primitive fails,
there is such a text. -/
theorem verifies_resigned (L : P.Laws) (c : AgentCardData) (hc : c.Proper) (ks : List Signing)
    (k : Signing) (hk : k.Fits P.toPrimitives) :
    (∀ c', (ks ++ [k]).foldlM (resign P) c = .ok c' →
      (∃ sig, c' = c.withSignatures [sig]) ∧ VerifiesWith P.toPrimitives c' k.leaf.publicKey) ∧
    (c.marshal.nums.all Literal.inRange = true →
      (∀ j ∈ ks, j.Fits P.toPrimitives) → (∀ j ∈ ks ++ [k], j.signer.Returns) →
      ∃ c', (ks ++ [k]).foldlM (resign P) c = .ok c') := by
  constructor
  · intro c' h
    rw [foldlM_append, bind_eq_ok] at h
    obtain ⟨d, hd, h⟩ := h
    rw [foldlM_cons, bind_eq_ok] at h
    obtain ⟨c'', h, hlast⟩ := h
    cases hlast
    obtain ⟨signatures, rfl⟩ := foldlM_resign_withSignatures L ks hc hd
    obtain ⟨sig, hsig⟩ := resign_withSignatures L (hc.withSignatures signatures) h
    exact ⟨⟨sig, hsig⟩, verifiesWith_resign L (hc.withSignatures signatures) hk h⟩
  · intro hrange hks hreturns
    refine exists_foldlM_resign L _ hc hrange fun j hj => ⟨?_, hreturns j hj⟩
    rcases mem_append.mp hj with hj | hj
    · exact hks j hj
    · exact mem_singleton.mp hj ▸ hk

end Laws

end Verify

/-! ### An instance -/

/-- The code points of a string. -/
def codePoints (s : String) : List ℕ := s.toList.map Char.toNat

def ofCodePoints (ns : List ℕ) : String := String.ofList (ns.map Char.ofNat)

theorem ofCodePoints_codePoints (s : String) : ofCodePoints (codePoints s) = s := by
  have hchars : (s.toList.map Char.toNat).map Char.ofNat = s.toList := by
    rw [map_map]
    exact (map_congr_left fun ch _ => Char.ofNat_toNat ch).trans (map_id _)
  rw [ofCodePoints, codePoints, hchars, String.ofList_toList]

/-- A header as a number, written in unary. -/
def unaryHeader (h : ProtectedHeader) : Bytes :=
  List.replicate (Encodable.encode (codePoints h.algorithm :: codePoints h.type ::
    codePoints h.keyID :: h.x5c.map codePoints)) 0

def ofUnaryHeader (b : Bytes) : Except String ProtectedHeader :=
  match (Encodable.decode b.length : Option (List (List ℕ))) with
  | some (algorithm :: type :: keyID :: x5c) =>
    .ok { algorithm := ofCodePoints algorithm, type := ofCodePoints type,
          keyID := ofCodePoints keyID, x5c := x5c.map ofCodePoints }
  | _ => .error "not a header"

theorem ofUnaryHeader_unaryHeader (h : ProtectedHeader) :
    ofUnaryHeader (unaryHeader h) = .ok h := by
  rw [ofUnaryHeader, unaryHeader, length_replicate, Encodable.encodek]
  have hx5c : (h.x5c.map codePoints).map ofCodePoints = h.x5c := by
    rw [map_map]
    exact (map_congr_left fun s _ => ofCodePoints_codePoints s).trans (map_id _)
  simp only [ofCodePoints_codePoints, hx5c]

/-- Bytes as characters of the same number. -/
def latin1 (b : Bytes) : String := ofCodePoints (b.map UInt8.toNat)

def ofLatin1 (s : String) : Except String Bytes := .ok ((codePoints s).map UInt8.ofNat)

theorem ofLatin1_latin1 (b : Bytes) : ofLatin1 (latin1 b) = .ok b := by
  have hbyte : ∀ x : UInt8, UInt8.ofNat (Char.ofNat x.toNat).toNat = x := by
    intro x
    have hvalid : x.toNat.isValidChar := .inl (lt_trans x.toNat_lt (by decide))
    rw [Char.ofNat, dif_pos hvalid]
    exact UInt8.ofNat_toNat
  rw [ofLatin1, latin1, codePoints, ofCodePoints, String.toList_ofList]
  simp only [map_map]
  exact congrArg Except.ok ((map_congr_left fun x _ => hbyte x).trans (map_id _))

/-- Primitives that accept one RSA and one ECDSA signature. -/
def sampleSigning : SigningPrimitives Unit Document where
  floatText := multipleText
  goQuote := id
  rawURLEncode := latin1
  rawURLDecode := ofLatin1
  stdDecode := ofLatin1
  unmarshalHeader := ofUnaryHeader
  parseCertificate := fun _ => .error "not a certificate"
  verifyChain := fun _ _ _ _ => .ok ()
  parseURLHost := .ok
  marshalPKIX := fun key => .ok (match key with | .ecdsa .. => [1] | _ => [])
  pemEncode := id
  pemDecode := some
  parsePKIX := fun b => .ok (if b = [1] then .ecdsa p256 1 1 else .rsa (2 ^ 2047) 3)
  parsePKCS1 := fun _ => .error "not a key"
  hash := fun _ b => b.take 32
  verifyPSS := fun _ _ _ _ _ => false
  verifyPKCS1v15 := fun _ _ _ _ sig => sig = [7]
  ecdsaVerify := fun _ _ _ _ r s => r = 5 ∧ s = 9
  ecdsaVerifyASN1 := fun _ _ _ _ _ => false
  marshalHeader := fun h => .ok (unaryHeader h)
  stdEncode := latin1
  keyType := fun _ => "key"
  marshalIndent := .ok
  unmarshalText := .ok

theorem sampleSigning_laws : sampleSigning.Laws where
  rawURL := ofLatin1_latin1
  header := fun h => ⟨_, rfl, ofUnaryHeader_unaryHeader h⟩
  text := fun d => ⟨d, rfl, rfl⟩
  pem := fun _ => rfl

/-- A certificate of a key. -/
def certificateOf (key : PublicKey) : Certificate where
  raw := [48, 130]
  notBefore := 0
  notAfter := 1
  uris := []
  publicKey := key

/-- A signing with the RSA key. -/
def rsaSigning : Signing where
  signer := .other "*rsa.PrivateKey" (.rsa (2 ^ 2047) 3) fun _ _ => .ok [7]
  leaf := certificateOf (.rsa (2 ^ 2047) 3)
  intermediates := []

/-- A signing with the ECDSA key, whose numbers begin with zeros. -/
def ecdsaSigning : Signing where
  signer := .ecdsaKey p256 1 1 (fun _ _ => .ok []) fun _ => .ok (5, 9)
  leaf := certificateOf (.ecdsa p256 1 1)
  intermediates := [certificateOf (.rsa (2 ^ 2047) 3)]

theorem rsaSigning_fits : rsaSigning.Fits sampleSigning.toPrimitives where
  supported := le_refl _
  leafKey := rfl
  readable := ⟨[], rfl, rfl⟩
  sound := by
    intro _ _ sig hsig
    cases hsig
    rfl

theorem ecdsaSigning_fits : ecdsaSigning.Fits sampleSigning.toPrimitives where
  supported := .inl rfl
  leafKey := rfl
  readable := ⟨[1], rfl, rfl⟩
  sound := by
    intro _ r s hrs
    cases hrs
    exact ⟨by decide, by decide, rfl⟩

/-- A card with a signature. -/
def signedCard : AgentCardData :=
  (cardWith (.str "none")).withSignatures [{ protectedHeader := "e30", signature := "AA" }]

/-- The card, signed with the one key and then with the other. -/
theorem verifies_resigned_sample :
    ∃ c', [rsaSigning, ecdsaSigning].foldlM (resign sampleSigning) signedCard = .ok c' ∧
      VerifiesWith sampleSigning.toPrimitives c' (.ecdsa p256 1 1) := by
  have hproper : signedCard.Proper := by
    intro cap hcap e he
    cases hcap
    rw [mem_singleton.mp he]
    exact pairwise_singleton _ _
  obtain ⟨hverifies, hexists⟩ := verifies_resigned sampleSigning_laws signedCard hproper
    [rsaSigning] ecdsaSigning ecdsaSigning_fits
  have hreturns : ∀ j ∈ [rsaSigning] ++ [ecdsaSigning], j.signer.Returns := by
    intro j hj
    rcases mem_append.mp hj with hj | hj
    · exact mem_singleton.mp hj ▸ fun _ _ => ⟨_, rfl⟩
    · exact mem_singleton.mp hj ▸ fun _ => ⟨_, _, rfl⟩
  obtain ⟨c', hc'⟩ := hexists (by decide)
    (fun j hj => mem_singleton.mp hj ▸ rsaSigning_fits) hreturns
  exact ⟨c', hc', (hverifies c' hc').2⟩

end Rossoctl.Signature
