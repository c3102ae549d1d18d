import Caden.Crypto
import Caden.Lib.Fold

/-!
Algorithm identifiers, stored credentials, challenges, and what the ceremonies take and
return.
-/

namespace Caden

/-! ### COSE identifiers -/

def COSE_ES256 : ℤ := -7
def COSE_EDDSA : ℤ := -8
def COSE_RS256 : ℤ := -257
def COSE_ES384 : ℤ := -35
def COSE_KTY_OKP : ℤ := 1
def COSE_KTY_EC2 : ℤ := 2
def COSE_KTY_RSA : ℤ := 3
def COSE_CRV_P256 : ℤ := 1
def COSE_CRV_P384 : ℤ := 2
def COSE_CRV_ED25519 : ℤ := 6

/-! ### Public keys -/

/-- The public key of a credential. -/
inductive PublicKey where
  | es256 (x y : Bytes)
  | es384 (x y : Bytes)
  | edDsa (pk : Bytes)
  | rs256 (n e : Bytes)
  deriving DecidableEq

def PublicKey.algorithm : PublicKey → ℤ
  | .es256 _ _ => COSE_ES256
  | .es384 _ _ => COSE_ES384
  | .edDsa _ => COSE_EDDSA
  | .rs256 _ _ => COSE_RS256

/-- The uncompressed point `0x04 || x || y`. -/
def uncompressed (x y : Bytes) : Bytes := 0x04 :: (x ++ y)

/-- The signature over `message` is the key's. An RSA key is usable when neither of its
components is empty. -/
def PublicKey.Verifies (E : Env) (pk : PublicKey) (message signature : Bytes) : Prop :=
  match pk with
  | .es256 x y => E.ecdsaP256Sha256Asn1 (uncompressed x y) message signature = true
  | .es384 x y => E.ecdsaP384Sha384Asn1 (uncompressed x y) message signature = true
  | .edDsa pk => E.ed25519 pk message signature = true
  | .rs256 n e => n ≠ [] ∧ e ≠ [] ∧ E.rsaPkcs1Sha256 (Crypto.rsaDer n e) message signature = true

/-! ### Time -/

/-- A point in time, in nanoseconds from the epoch. -/
structure SystemTime where
  nanos : ℤ
  deriving DecidableEq

/-- What the clock shows, at each of its readings during one call. -/
abbrev Clock : Type := ℕ → SystemTime

/-- `earlier.elapsed()` at time `now`, in nanoseconds; an error when `earlier` is ahead. -/
def elapsed (earlier now : SystemTime) : Option ℕ :=
  if earlier.nanos ≤ now.nanos then some (now.nanos - earlier.nanos).toNat else none

def NANOS_PER_SEC : ℕ := 1000000000

/-! ### Stored credentials and challenges -/

structure Credential where
  id : Bytes
  publicKey : PublicKey
  signCount : UInt32
  userId : Bytes
  rpId : String
  createdAt : SystemTime
  backupEligible : Bool
  backupState : Bool
  deriving DecidableEq

structure Challenge where
  bytes : Bytes
  createdAt : SystemTime
  deriving DecidableEq

def CHALLENGE_MAX_AGE_SECS : ℕ := 300

/-- Older than `ttlSecs` seconds, or created after the clock's time. -/
def Challenge.isExpired (c : Challenge) (ttlSecs : ℕ) (now : SystemTime) : Bool :=
  match elapsed c.createdAt now with
  | some age => decide (ttlSecs * NANOS_PER_SEC ≤ age)
  | none => true

/-- The challenge was created no later than `now`, and less than five minutes before. -/
def Challenge.Unexpired (c : Challenge) (now : SystemTime) : Prop :=
  c.createdAt.nanos ≤ now.nanos ∧
    now.nanos < c.createdAt.nanos + CHALLENGE_MAX_AGE_SECS * NANOS_PER_SEC

lemma Challenge.isExpired_eq_false {c : Challenge} {now : SystemTime} :
    c.isExpired CHALLENGE_MAX_AGE_SECS now = false ↔ c.Unexpired now := by
  unfold isExpired elapsed Unexpired NANOS_PER_SEC
  by_cases h : c.createdAt.nanos ≤ now.nanos
  · simp only [h, if_true, decide_eq_false_iff_not, true_and]
    omega
  · simp [h]

/-! ### Responses and results -/

structure AuthenticatorAttestationResponse where
  clientDataJson : Bytes
  attestationObject : Bytes
  deriving DecidableEq

structure AuthenticatorAssertionResponse where
  clientDataJson : Bytes
  authenticatorData : Bytes
  signature : Bytes
  userHandle : Option Bytes
  credentialId : Bytes
  deriving DecidableEq

/-- The level of attestation the authenticator provided. -/
inductive AttestationType where
  | none
  | selfAttestation
  | basic
  | basicVerified
  deriving DecidableEq

/-- Authenticator extension outputs by identifier. -/
abbrev Extensions : Type := Fold.Map String Value

structure RegistrationResult where
  credential : Credential
  attestationType : AttestationType
  backupEligible : Bool
  backupState : Bool
  extensions : Option Extensions

structure AuthenticationResult where
  credentialId : Bytes
  newSignCount : UInt32
  userPresent : Bool
  userVerified : Bool
  backupEligible : Bool
  backupState : Bool
  extensions : Option Extensions

end Caden
