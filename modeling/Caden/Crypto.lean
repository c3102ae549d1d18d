import Caden.Env

/-!
Hashing, signature verification, and the DER encoding of RSA keys.
-/

namespace Caden.Crypto

variable (E : Env)

/-- SHA-256 as an array of 32 bytes. The conversion panics on a digest of another length. -/
def sha256 (data : Bytes) : Res (ArrayN UInt8 32) :=
  .expect (Slice.tryInto 32 (E.sha256Digest data))

/-- The digest `sha256` returns. -/
def sha256Of (data : Bytes) : ArrayN UInt8 32 := ⟨E.sha256Digest data, E.sha256Digest_length data⟩

@[simp] lemma sha256_eq (data : Bytes) : sha256 E data = .ok (sha256Of E data) := by
  rw [sha256, Outcome.expect_eq_ok, Slice.tryInto_eq_some]
  rfl

/-- The common shape of the signature checks: `.map_err(|_| SignatureVerificationFailed)`. -/
def verifyWith (verify : Bytes → Bytes → Bytes → Bool) (key message signature : Bytes) :
    Res Unit :=
  .rejectIf (verify key message signature = false) .signatureVerificationFailed

def verifyEs256 : Bytes → Bytes → Bytes → Res Unit := verifyWith E.ecdsaP256Sha256Asn1
def verifyEs256Jws : Bytes → Bytes → Bytes → Res Unit := verifyWith E.ecdsaP256Sha256Fixed
def verifyEs384 : Bytes → Bytes → Bytes → Res Unit := verifyWith E.ecdsaP384Sha384Asn1
def verifyEddsa : Bytes → Bytes → Bytes → Res Unit := verifyWith E.ed25519
def verifyRs256 : Bytes → Bytes → Bytes → Res Unit := verifyWith E.rsaPkcs1Sha256

section
variable {E} {v : Bytes → Bytes → Bytes → Bool} {k m s : Bytes} {u : Unit}

@[simp] lemma verifyWith_eq_ok : verifyWith v k m s = .ok u ↔ v k m s = true := by
  simp [verifyWith]

@[simp] lemma safe_verifyWith : (verifyWith v k m s).Safe := by simp [verifyWith]

@[simp] lemma verifyEs256_eq_ok :
    verifyEs256 E k m s = .ok u ↔ E.ecdsaP256Sha256Asn1 k m s = true := verifyWith_eq_ok
@[simp] lemma verifyEs256Jws_eq_ok :
    verifyEs256Jws E k m s = .ok u ↔ E.ecdsaP256Sha256Fixed k m s = true := verifyWith_eq_ok
@[simp] lemma verifyEs384_eq_ok :
    verifyEs384 E k m s = .ok u ↔ E.ecdsaP384Sha384Asn1 k m s = true := verifyWith_eq_ok
@[simp] lemma verifyEddsa_eq_ok :
    verifyEddsa E k m s = .ok u ↔ E.ed25519 k m s = true := verifyWith_eq_ok
@[simp] lemma verifyRs256_eq_ok :
    verifyRs256 E k m s = .ok u ↔ E.rsaPkcs1Sha256 k m s = true := verifyWith_eq_ok

@[simp] lemma safe_verifyEs256 : (verifyEs256 E k m s).Safe := safe_verifyWith
@[simp] lemma safe_verifyEs256Jws : (verifyEs256Jws E k m s).Safe := safe_verifyWith
@[simp] lemma safe_verifyEs384 : (verifyEs384 E k m s).Safe := safe_verifyWith
@[simp] lemma safe_verifyEddsa : (verifyEddsa E k m s).Safe := safe_verifyWith
@[simp] lemma safe_verifyRs256 : (verifyRs256 E k m s).Safe := safe_verifyWith

end

/-! ### DER -/

/-- `n as u8`. -/
def asU8 (n : ℕ) : UInt8 := UInt8.ofNat n

/-- A DER length field: one byte, or the number of length bytes and then the bytes. -/
def derLength (len : ℕ) : Bytes :=
  if len < 0x80 then [asU8 len]
  else if len ≤ 0xFF then [0x81, asU8 len]
  else if len ≤ 0xFFFF then [0x82, asU8 (len >>> 8), asU8 (len &&& 0xFF)]
  else [0x84, asU8 (len >>> 24), asU8 (len >>> 16), asU8 (len >>> 8), asU8 len]

def derSequence (contents : Bytes) : Bytes := 0x30 :: derLength contents.length ++ contents

/-- A DER INTEGER; a value with its high bit set gets a leading zero byte. -/
def derInteger (value : Bytes) : Res Bytes := do
  let needsPad ← if value = [] then pure false else do
    let first ← Slice.index value 0
    pure (first &&& 0x80 != 0)
  let contentLen := value.length + if needsPad then 1 else 0
  return 0x02 :: derLength contentLen ++ (if needsPad then [0x00] else []) ++ value

/-- The `RSAPublicKey` with modulus `n` and exponent `e`. -/
def rsaComponentsToDer (n e : Bytes) : Res Bytes := do
  .rejectIf (n = []) (.invalidPublicKey "RSA modulus (n) must not be empty")
  .rejectIf (e = []) (.invalidPublicKey "RSA exponent (e) must not be empty")
  let contents ← derInteger n
  return derSequence (contents ++ (← derInteger e))

/-- The bytes of the integer `value`. -/
def derIntegerOf (value : Bytes) : Bytes :=
  let pad : Bytes := if value.head?.any (· &&& 0x80 != 0) then [0x00] else []
  0x02 :: derLength (value.length + pad.length) ++ pad ++ value

lemma derInteger_eq (value : Bytes) : derInteger value = .ok (derIntegerOf value) := by
  rcases value with _ | ⟨b, t⟩
  · rfl
  · by_cases h : b &&& 0x80 = 0 <;>
      simp [derInteger, derIntegerOf, Slice.index, Outcome.expect, h]

/-- The bytes of the RSA key, for components that are not empty. -/
def rsaDer (n e : Bytes) : Bytes := derSequence (derIntegerOf n ++ derIntegerOf e)

@[simp] lemma rsaComponentsToDer_eq_ok {n e d : Bytes} :
    rsaComponentsToDer n e = .ok d ↔ n ≠ [] ∧ e ≠ [] ∧ rsaDer n e = d := by
  simp [rsaComponentsToDer, derInteger_eq, rsaDer]

@[simp] lemma safe_rsaComponentsToDer (n e : Bytes) : (rsaComponentsToDer n e).Safe := by
  refine Outcome.Safe.bind (by simp) fun _ _ => ?_
  exact Outcome.Safe.bind (by simp) fun _ _ => by simp [derInteger_eq]

end Caden.Crypto
