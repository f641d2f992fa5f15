import Rossoctl.Signature.Canonical

/-!
# Verification of one JWS

The model of `VerifyJWS` (`internal/signature/verifier.go`). The codecs and the
cryptographic primitives it calls are not part of the repository; they are the
fields of `Rossoctl.Signature.Primitives`, functions about which nothing is assumed.
-/

namespace Rossoctl.Signature

/-- A sequence of bytes. -/
abbrev Bytes := List UInt8

/-- The decoded protected header of a JWS. -/
structure ProtectedHeader where
  algorithm : String
  type : String := ""
  keyID : String := ""
  x5c : List String := []
  deriving DecidableEq

/-- An elliptic curve, by the parameters that are looked at. -/
structure Curve where
  name : String
  bitSize : ℕ
  deriving DecidableEq

/-- A public key. -/
inductive PublicKey where
  | rsa (n e : ℕ)
  | ecdsa (curve : Curve) (x y : ℕ)
  | other (encoding : Bytes)
  deriving DecidableEq

/-- A URI among the subject alternative names of a certificate. -/
structure URI where
  scheme : String
  text : String
  deriving DecidableEq

/-- A certificate, by the fields that are looked at. -/
structure Certificate where
  raw : Bytes
  notBefore : ℤ
  notAfter : ℤ
  uris : List URI
  publicKey : PublicKey
  deriving DecidableEq

/-- The hash functions of the supported algorithms. -/
inductive Hash where
  | sha256
  | sha384
  | sha512
  deriving DecidableEq

/-- **The primitives**: codecs, certificates and cryptography, over a type of
certificate pools. -/
structure Primitives (Pool : Type) where
  floatText : FloatText
  /-- `strconv.Quote`. -/
  goQuote : String → String
  rawURLEncode : Bytes → String
  rawURLDecode : String → Except String Bytes
  stdDecode : String → Except String Bytes
  unmarshalHeader : Bytes → Except String ProtectedHeader
  parseCertificate : Bytes → Except String Certificate
  /-- `leaf.Verify` with the roots, the intermediates and the current time. -/
  verifyChain : Pool → List Certificate → ℤ → Certificate → Except String Unit
  /-- The host of a parsed URL. -/
  parseURLHost : String → Except String String
  marshalPKIX : PublicKey → Except String Bytes
  pemEncode : Bytes → Bytes
  pemDecode : Bytes → Option Bytes
  parsePKIX : Bytes → Except String PublicKey
  parsePKCS1 : Bytes → Except String PublicKey
  hash : Hash → Bytes → Bytes
  verifyPSS : ℕ → ℕ → Hash → Bytes → Bytes → Bool
  verifyPKCS1v15 : ℕ → ℕ → Hash → Bytes → Bytes → Bool
  ecdsaVerify : Curve → ℕ → ℕ → Bytes → ℕ → ℕ → Bool
  ecdsaVerifyASN1 : Curve → ℕ → ℕ → Bytes → Bytes → Bool

/-- The outcome of a verification. -/
structure VerificationResult where
  verified : Bool
  keyID : String := ""
  spiffeID : String := ""
  details : String := ""
  leafNotAfter : ℤ := 0
  deriving DecidableEq

variable {Pool : Type} (P : Primitives Pool)

/-! ### Algorithms -/

/-- `validateAlgorithm`: a list of what is permitted, without `none`. -/
def validateAlgorithm (alg : String) : Except String Unit :=
  if alg = "" then .error "JWS protected header missing required 'alg' field"
  else if alg = "none" then
    .error "JWS algorithm 'none' is not permitted — signatures must be cryptographically verified"
  else if alg ∈ ["RS256", "RS384", "RS512", "PS256", "PS384", "PS512", "ES256", "ES384", "ES512"]
    then .ok ()
  else .error ("unsupported JWS algorithm " ++ P.goQuote alg ++
    " (supported: RS256, RS384, RS512, " ++
    "PS256, PS384, PS512, ES256, ES384, ES512)")

def isRSAAlgorithm (alg : String) : Bool :=
  alg ∈ ["RS256", "RS384", "RS512", "PS256", "PS384", "PS512"]

def isECDSAAlgorithm (alg : String) : Bool := alg ∈ ["ES256", "ES384", "ES512"]

def isPSSAlgorithm (alg : String) : Bool := alg ∈ ["PS256", "PS384", "PS512"]

/-- `hashForAlgorithm`. -/
def hashForAlgorithm (alg : String) : Except String Hash :=
  if alg ∈ ["RS256", "PS256", "ES256"] then .ok .sha256
  else if alg ∈ ["RS384", "PS384", "ES384"] then .ok .sha384
  else if alg ∈ ["RS512", "PS512", "ES512"] then .ok .sha512
  else .error ("no hash function for algorithm " ++ P.goQuote alg)

/-- `validateECDSACurve`: the algorithm goes with one curve. -/
def validateECDSACurve (curve : Curve) (alg : String) : Except String Unit :=
  let expected : Option String :=
    if alg = "ES256" then some "P-256"
    else if alg = "ES384" then some "P-384"
    else if alg = "ES512" then some "P-521"
    else none
  match expected with
  | none => .error ("unknown ECDSA algorithm " ++ P.goQuote alg)
  | some name =>
    if curve.name = name then .ok ()
    else .error ("curve mismatch: algorithm " ++ alg ++ " requires " ++ name ++
      " but key uses " ++ curve.name)

/-! ### The verification -/

/-- `decodeProtectedHeader`. -/
def decodeProtectedHeader (protectedHeader : String) : Except String ProtectedHeader :=
  match P.rawURLDecode protectedHeader with
  | .error e => .error ("failed to decode protected header: " ++ e)
  | .ok headerJSON =>
    match P.unmarshalHeader headerJSON with
    | .error e => .error ("failed to parse protected header: " ++ e)
    | .ok header => .ok header

def marshalPublicKeyToPEM (publicKey : PublicKey) : Except String Bytes :=
  match P.marshalPKIX publicKey with
  | .error e => .error ("failed to marshal public key: " ++ e)
  | .ok pkixBytes => .ok (P.pemEncode pkixBytes)

/-- `parsePublicKey`: PKIX first, then PKCS#1. -/
def parsePublicKey (derBytes : Bytes) : Except String PublicKey :=
  match P.parsePKIX derBytes with
  | .ok key => .ok key
  | .error _ =>
    match P.parsePKCS1 derBytes with
    | .ok key => .ok key
    | .error e => .error ("failed to parse public key (tried PKIX and PKCS#1): " ++ e)

/-- The length of a coordinate. -/
def curveByteSize (curve : Curve) : ℕ := (curve.bitSize + 7) / 8

/-- A big-endian number. -/
def bigEndian (bytes : Bytes) : ℕ := bytes.foldl (fun acc b => acc * 256 + b.toNat) 0

/-- `verifyECDSARaw`: the signature is `R` and `S`, one behind the other. -/
def verifyECDSARaw (curve : Curve) (x y : ℕ) (hashed sig : Bytes) : Bool :=
  let keySize := curveByteSize curve
  if sig.length ≠ 2 * keySize then false
  else P.ecdsaVerify curve x y hashed (bigEndian (sig.take keySize)) (bigEndian (sig.drop keySize))

/-- A failed verification. -/
def failed (details : String) : VerificationResult := { verified := false, details := details }

/-- The key's part of the verification: the algorithm has to fit the type of the
key, and for an elliptic curve the curve. -/
def verifyWithKey (header : ProtectedHeader) (publicKey : PublicKey) (hashFunc : Hash)
    (hashed signatureBytes : Bytes) : Except (VerificationResult × String) Bool :=
  let alg := header.algorithm
  match publicKey with
  | .rsa n e =>
    if !isRSAAlgorithm alg then
      .error (failed ("Algorithm mismatch: protected header specifies " ++ P.goQuote alg ++
        " but public key is RSA (expected RS256/RS384/RS512/PS256/PS384/PS512)"),
        "algorithm mismatch: header alg=" ++ P.goQuote alg ++ " but key is RSA")
    else if isPSSAlgorithm alg then .ok (P.verifyPSS n e hashFunc hashed signatureBytes)
    else .ok (P.verifyPKCS1v15 n e hashFunc hashed signatureBytes)
  | .ecdsa curve x y =>
    if !isECDSAAlgorithm alg then
      .error (failed ("Algorithm mismatch: protected header specifies " ++ P.goQuote alg ++
        " but public key is ECDSA (expected ES256/ES384/ES512)"),
        "algorithm mismatch: header alg=" ++ P.goQuote alg ++ " but key is ECDSA")
    else match validateECDSACurve P curve alg with
      | .error e => .error (failed ("ECDSA curve/algorithm mismatch: " ++ e), e)
      | .ok _ => .ok (verifyECDSARaw P curve x y hashed signatureBytes ||
          P.ecdsaVerifyASN1 curve x y hashed signatureBytes)
  | .other _ =>
    .error (failed "Public key type not supported (expected RSA or ECDSA)", "unsupported key type")

/-- The minimum size of an RSA key. -/
def checkKeySize : PublicKey → Except (VerificationResult × String) Unit
  | .rsa n _ =>
    let bits := if n = 0 then 0 else n.log2 + 1
    if bits < 2048 then
      let msg := "RSA key too small: " ++ toString bits ++ " bits (minimum 2048)"
      .error (failed msg, msg)
    else .ok ()
  | _ => .ok ()

/-- An error with the details that go with it. -/
def orFail {α : Type} (details : String → String) :
    Except String α → Except (VerificationResult × String) α
  | .ok a => .ok a
  | .error e => .error (failed (details e), e)

/-- **`VerifyJWS`**, for a signature that is there: a result, or a result together
with an error. -/
def verifyJWS (cardData : AgentCardData) (sig : AgentCardSignature) (publicKeyPEM : Bytes) :
    Except (VerificationResult × String) VerificationResult := do
  let header ← orFail ("Failed to decode JWS protected header: " ++ ·)
    (decodeProtectedHeader P sig.protectedHeader)
  orFail ("Algorithm validation failed: " ++ ·) (validateAlgorithm P header.algorithm)
  let block ← match P.pemDecode publicKeyPEM with
    | none => .error (failed "Invalid PEM format", "failed to decode PEM block")
    | some bytes => .ok bytes
  let publicKey ← orFail ("Failed to parse public key: " ++ ·) (parsePublicKey P block)
  checkKeySize publicKey
  let payload ← orFail ("Failed to create canonical JSON payload: " ++ ·)
    (createCanonicalCardJSON P.floatText cardData)
  let payloadB64 := P.rawURLEncode (String.ofList payload).toUTF8.toList
  let signingInput := (sig.protectedHeader ++ "." ++ payloadB64).toUTF8.toList
  let hashFunc ← orFail ("Hash function lookup failed: " ++ ·) (hashForAlgorithm P header.algorithm)
  let hashed := P.hash hashFunc signingInput
  let signatureBytes ← orFail (fun _ => "Failed to decode JWS signature from base64url")
    (P.rawURLDecode sig.signature)
  let verified ← verifyWithKey P header publicKey hashFunc hashed signatureBytes
  .ok { verified := verified, keyID := header.keyID,
        details := if !verified then "JWS signature verification failed"
          else "JWS signature verified successfully (alg=" ++ header.algorithm ++ ", kid=" ++
            header.keyID ++ ")" }

end Rossoctl.Signature
