import Caden.Error
import Caden.Lib.Slice

/-!
The crates the library calls, as given functions.

Hashing and signatures come from `ring`, CBOR from `ciborium`, JSON from `serde_json`,
base64 from `base64`, certificates from `x509-parser`. Of each only what the library uses is
named. An error of theirs is the text it prints, which some errors of the library quote.
-/

namespace Caden

/-! ### CBOR -/

/-- `ciborium::value::Value`. A map is the list of its entries in the order of the input. -/
inductive Value where
  | integer (i : ℤ)
  | bytes (b : Bytes)
  | float (bits : UInt64)
  | text (s : String)
  | bool (b : Bool)
  | null
  | tag (t : UInt64) (v : Value)
  | array (a : List Value)
  | map (m : List (Value × Value))

/-- The entries of a map. -/
def Value.asMap : Value → Option (List (Value × Value))
  | .map m => some m
  | _ => none

@[simp] lemma Value.asMap_eq_some {v : Value} {m : List (Value × Value)} :
    v.asMap = some m ↔ v = .map m := by
  cases v <;> simp [Value.asMap]

/-! ### JSON -/

/-- The fields extracted from `clientDataJSON`. -/
structure RawClientData where
  type_ : String
  challenge : String
  origin : String
  crossOrigin : Option Bool

/-- The JOSE header fields needed to verify a signature; `x5c` is empty when absent. -/
structure JoseHeader where
  alg : String
  x5c : List String

structure SafetyNetPayload where
  nonce : String

structure MdsStatusReport where
  status : String

structure MdsEntry where
  aaguid : Option String
  statusReports : List MdsStatusReport

structure MdsBlobPayload where
  entries : List MdsEntry

/-! ### X.509 -/

/-- A distinguished name; names are compared by their encoding. -/
structure X509Name where
  raw : Bytes
  deriving DecidableEq

structure SubjectPublicKeyInfo where
  raw : Bytes
  deriving DecidableEq

structure X509Extension where
  oid : String
  value : Bytes

structure BasicConstraints where
  ca : Bool

inductive GeneralName where
  | dnsName (dns : String)
  | other

/-- A parsed certificate. The last three fields are what `basic_constraints()`,
`subject_alternative_name()` and `iter_common_name()` with `as_str()` return on it. -/
structure X509Certificate where
  tbsCertificate : Bytes
  signatureAlgorithm : Bytes
  signatureValue : Bytes
  issuer : X509Name
  subject : X509Name
  publicKey : SubjectPublicKeyInfo
  extensions : List X509Extension
  basicConstraints : Except Unit (Option BasicConstraints)
  subjectAlternativeName : Except Unit (Option (List GeneralName))
  commonNames : List (Option String)

/-! ### The functions -/

/-- What the library calls. The laws are the only facts it relies on: a digest has its
algorithm's length, and a reader does not advance past the end of its input. -/
structure Env where
  sha256Digest : Bytes → Bytes
  sha384Digest : Bytes → Bytes
  ecdsaP256Sha256Asn1 : (key message signature : Bytes) → Bool
  ecdsaP256Sha256Fixed : (key message signature : Bytes) → Bool
  ecdsaP384Sha384Asn1 : (key message signature : Bytes) → Bool
  ed25519 : (key message signature : Bytes) → Bool
  rsaPkcs1Sha256 : (key message signature : Bytes) → Bool
  /-- `ciborium::from_reader`: the item at the front, and the position after it. -/
  cborFromReader : Bytes → Except String (Value × ℕ)
  jsonClientData : Bytes → Except String RawClientData
  jsonJoseHeader : Bytes → Except String JoseHeader
  jsonSafetyNetPayload : Bytes → Except String SafetyNetPayload
  jsonMdsBlobPayload : Bytes → Except String MdsBlobPayload
  urlSafeNoPadDecode : String → Except String Bytes
  standardDecode : String → Except String Bytes
  standardEncode : Bytes → String
  x509FromDer : Bytes → Option X509Certificate
  /-- `cert.verify_signature(Some(key)).is_ok()`. -/
  x509VerifySignature : X509Certificate → SubjectPublicKeyInfo → Bool
  sha256Digest_length : ∀ d, (sha256Digest d).length = 32
  cborFromReader_le : ∀ d v n, cborFromReader d = .ok (v, n) → n ≤ d.length

end Caden
