import Caden.Offer

/-!
The authenticator that the demo simulates: the client data, the authenticator data, the keys and
the attestation object that it writes, and its responses.
-/

namespace Caden.Demo

/-- The encoders of other packages. Writing to a vector does not fail. -/
structure Writers where
  cborIntoWriter : Value → Bytes
  urlSafeNoPadEncode : Bytes → String

section
variable (E : Env) (W : Writers)

/-! ### Client data and authenticator data -/

/-- The texts are written as they are, without escapes. -/
def makeClientDataJsonBytes (type_ : String) (challenge : Bytes) (origin : String) : Bytes :=
  let challengeB64 := W.urlSafeNoPadEncode challenge
  Text.asBytes ("\x7b\"type\":\"" ++ type_ ++ "\",\"challenge\":\"" ++ challengeB64 ++
    "\",\"origin\":\"" ++ origin ++ "\",\"crossOrigin\":false\x7d")

/-- The model of the simulated authenticator. -/
def noAaguid : AuthData.Aaguid := List.Vector.replicate 16 0

/-- The credential data is the id and the key; of the length of the id the low 16 bits are
written. -/
def makeAuthenticatorData (rpId : String) (flags : UInt8) (signCount : UInt32)
    (credData : Option (Bytes × Bytes)) : Bytes :=
  (Crypto.sha256Of E (Text.asBytes rpId)).toList ++ [flags] ++ beBytes 4 signCount.toNat ++
    match credData with
    | some (credId, coseKeyCbor) =>
      noAaguid.toList ++ beBytes 2 credId.length ++ credId ++ coseKeyCbor
    | none => []

/-! ### Keys -/

section
variable {ε : Type}

/-- An EC2 key, from a point `0x04 || x || y` with coordinates of `size` bytes. -/
def encodeEc2CoseKey (size : ℕ) (alg crv : ℤ) (uncompressedPoint : Bytes) : Outcome ε Bytes := do
  .assert (uncompressedPoint.length = 1 + 2 * size)
  let x ← Slice.slice uncompressedPoint 1 (1 + size)
  let y ← Slice.slice uncompressedPoint (1 + size) (1 + 2 * size)
  return W.cborIntoWriter (.map [(.integer 1, .integer 2), (.integer 3, .integer alg),
    (.integer (-1), .integer crv), (.integer (-2), .bytes x), (.integer (-3), .bytes y)])

def encodeEs256CoseKey : Bytes → Outcome ε Bytes := encodeEc2CoseKey W 32 (-7) 1
def encodeEs384CoseKey : Bytes → Outcome ε Bytes := encodeEc2CoseKey W 48 (-35) 2

def encodeEddsaCoseKey (publicKey : Bytes) : Outcome ε Bytes := do
  .assert (publicKey.length = 32)
  return W.cborIntoWriter (.map [(.integer 1, .integer 1), (.integer 3, .integer (-8)),
    (.integer (-1), .integer 6), (.integer (-2), .bytes publicKey)])

def encodeRs256CoseKey (n e : Bytes) : Bytes :=
  W.cborIntoWriter (.map [(.integer 1, .integer 3), (.integer 3, .integer (-257)),
    (.integer (-1), .bytes n), (.integer (-2), .bytes e)])

/-- The position after the tag at `pos`. -/
def skipTag (der : Bytes) (pos : ℕ) (tag : UInt8) : Outcome ε ℕ := do
  .assert ((← Slice.index der pos) = tag)
  return pos + 1

/-- One more byte of a length that is accumulated in a 64-bit word, with the position. -/
def lengthStep (der : Bytes) (s : ℕ × ℕ) (_ : ℕ) : Outcome ε (ℕ × ℕ) := do
  let b ← Slice.index der s.2
  return ((s.1 <<< 8) % 2 ^ 64 ||| b.toNat, s.2 + 1)

/-- The length at `pos`, and the position after it. -/
def readLength (der : Bytes) (pos : ℕ) : Outcome ε (ℕ × ℕ) := do
  let first ← Slice.index der pos
  if first < 0x80 then return (first.toNat, pos + 1)
  else (List.range (first &&& 0x7f).toNat).foldlM (lengthStep der) (0, pos + 1)

/-- The modulus and the exponent of a DER-encoded `RSAPublicKey`. One leading zero of the
modulus is dropped; the length of the exponent is taken to be one byte. -/
def extractRsaComponents (der : Bytes) : Outcome ε (Bytes × Bytes) := do
  let pos ← skipTag der 0 0x30
  let first ← Slice.index der pos
  let pos := if first < 0x80 then pos + 1 else pos + (1 + (first &&& 0x7f).toNat)
  let pos ← skipTag der pos 0x02
  let (nLen, pos) ← readLength der pos
  let nStart := if (← Slice.index der pos) = 0x00 then pos + 1 else pos
  let n ← Slice.slice der nStart (pos + nLen)
  let pos ← skipTag der (pos + nLen) 0x02
  let eLen := (← Slice.index der pos).toNat
  let e ← Slice.slice der (pos + 1) (pos + 1 + eLen)
  return (n, e)

end

/-! ### Responses -/

def makeAttestationObject (authData : Bytes) : Bytes :=
  W.cborIntoWriter (.map [(.text "fmt", .text "none"), (.text "attStmt", .map []),
    (.text "authData", .bytes authData)])

/-- A response to a login. `sign` is the signing of the key's package, and `what` names it in
its error. -/
def makeAuthResponse (what : String) (sign : Bytes → Except String Bytes) (challenge : Bytes)
    (rpId origin : String) (signCount : UInt32) (credId : Bytes) :
    Outcome String AuthenticatorAssertionResponse := do
  let clientDataBytes := makeClientDataJsonBytes W "webauthn.get" challenge origin
  let authDataBytes := makeAuthenticatorData E rpId 0x01 signCount none
  let clientDataHash := Crypto.sha256Of E clientDataBytes
  let sig ← .ofExcept (sign (authDataBytes ++ clientDataHash.toList)) fun e =>
    s!"{what} signing failed: {e}"
  return {
    clientDataJson := clientDataBytes
    authenticatorData := authDataBytes
    signature := sig
    userHandle := none
    credentialId := credId }

def makeEs256AuthResponse := makeAuthResponse E W "ECDSA"
def makeEs384AuthResponse := makeAuthResponse E W "ECDSA P-384"
def makeRs256AuthResponse := makeAuthResponse E W "RSA"

/-- Ed25519 signing does not fail. -/
def makeEddsaAuthResponse (sign : Bytes → Bytes) :=
  makeAuthResponse E W "EdDSA" fun message => .ok (sign message)

end

end Caden.Demo
