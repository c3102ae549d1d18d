import Caden.Tpm
import Caden.AttStmt

/-!
Verification of attestation statements, one function for each format.

Except for self-attestation every format ends with the chain check, whose result is the
type the format reports.
-/

namespace Caden.Attestation

open CertBytes AttStmt X5c

variable (E : Env)

/-- `authData || clientDataHash`, the bytes that most formats sign or hash. -/
def verificationData (authDataBytes : Bytes) (clientDataHash : ArrayN UInt8 32) : Bytes :=
  authDataBytes ++ clientDataHash.toList

/-- The point of an ES256 credential key; any other key is an error. -/
def es256Point (msg : String) : PublicKey → Res Bytes
  | .es256 x y => .ok (uncompressed x y)
  | _ => .err (invalid msg)

/-- A field that the format requires. -/
def required {α : Type} (field : Option α) (msg : String) : Res α := .okOr field (invalid msg)

/-- The signature of a packed statement under the leaf certificate's key. -/
def verifyLeafSignature (alg : ℤ) (leaf message sig : Bytes) : Res Unit :=
  if alg = COSE_ES256 then do
    let attPk ← extractEcP256PublicKeyFromCert leaf
    Crypto.verifyEs256 E attPk message sig
  else if alg = COSE_RS256 then do
    let attPk ← extractRsaPublicKeyDerFromCert leaf
    Crypto.verifyRs256 E attPk message sig
  else .err (.unsupportedAlgorithm alg)

/-- The signature of a packed statement under the credential key itself. -/
def verifySelfSignature (alg : ℤ) (credentialPublicKey : PublicKey) (message sig : Bytes) :
    Res Unit :=
  match credentialPublicKey with
  | .es256 x y =>
    if alg = COSE_ES256 then Crypto.verifyEs256 E (uncompressed x y) message sig
    else .err (.unsupportedAlgorithm alg)
  | .edDsa pk =>
    if alg = COSE_EDDSA then Crypto.verifyEddsa E pk message sig
    else .err (.unsupportedAlgorithm alg)
  | .rs256 n e =>
    if alg = COSE_RS256 then do
      let der ← Crypto.rsaComponentsToDer n e
      Crypto.verifyRs256 E der message sig
    else .err (.unsupportedAlgorithm alg)
  | .es384 _ _ => .err (.unsupportedAlgorithm alg)

/-- Packed with certificates: basic attestation. -/
def verifyPackedBasic (st : Fields) (certs : List Bytes) (authDataBytes : Bytes)
    (clientDataHash : ArrayN UInt8 32) (trustAnchors : List Bytes) (aaguid : ArrayN UInt8 16) :
    Res AttestationType := do
  let alg ← required (st .alg) "packed basic-attestation attStmt missing required field: alg"
  let sig ← required (st .sig) "packed basic-attestation attStmt missing required field: sig"
  let leaf ← Slice.index certs 0
  verifyLeafSignature E alg leaf (verificationData authDataBytes clientDataHash) sig
  verifyCertAaguidExtension E leaf aaguid
  verifyCertIsNotCa E leaf
  verifyX5cChain E certs trustAnchors

/-- Packed without certificates: self attestation. -/
def verifyPackedSelf (st : Fields) (authDataBytes : Bytes) (clientDataHash : ArrayN UInt8 32)
    (credentialPublicKey : PublicKey) : Res AttestationType := do
  let alg ← required (st .alg) "packed self-attestation attStmt missing required field: alg"
  let sig ← required (st .sig) "packed self-attestation attStmt missing required field: sig"
  let expectedAlg := credentialPublicKey.algorithm
  .rejectIf (alg ≠ expectedAlg) (invalid
    s!"packed self-attestation alg ({alg}) does not match credential key algorithm ({expectedAlg})")
  verifySelfSignature E alg credentialPublicKey
    (verificationData authDataBytes clientDataHash) sig
  return .selfAttestation

def verifyPacked (attStmt : Value) (authDataBytes : Bytes) (clientDataHash : ArrayN UInt8 32)
    (credentialPublicKey : PublicKey) (trustAnchors : List Bytes) (aaguid : ArrayN UInt8 16) :
    Res AttestationType := do
  let st ← readStmt "packed" [.alg, .sig, .x5c] attStmt
  match st .x5c with
  | some certs => verifyPackedBasic E st certs authDataBytes clientDataHash trustAnchors aaguid
  | none => verifyPackedSelf E st authDataBytes clientDataHash credentialPublicKey

def verifyFidoU2f (attStmt : Value) (authDataBytes : Bytes) (clientDataHash : ArrayN UInt8 32)
    (credentialId : Bytes) (credentialPublicKey : PublicKey) (trustAnchors : List Bytes) :
    Res AttestationType := do
  let st ← readStmt "fido-u2f" [.sig, .x5c] attStmt
  let certs ← required (st .x5c) "fido-u2f attStmt missing required field: x5c"
  let sig ← required (st .sig) "fido-u2f attStmt missing required field: sig"
  let attPk ← extractEcP256PublicKeyFromCert (← Slice.index certs 0)
  let credPkBytes ← es256Point
    "fido-u2f attestation requires an EC P-256 credential key" credentialPublicKey
  .rejectIf (authDataBytes.length < 32)
    (invalid "fido-u2f: authenticator data too short to contain rpIdHash")
  let rpIdHash ← Slice.slice authDataBytes 0 32
  let message := 0x00 :: (rpIdHash ++ clientDataHash.toList ++ credentialId ++ credPkBytes)
  Crypto.verifyEs256 E attPk message sig
  verifyX5cChain E certs trustAnchors

/-- The certificate's key must be the credential's. -/
def verifyAndroidKey (attStmt : Value) (authDataBytes : Bytes)
    (clientDataHash : ArrayN UInt8 32) (credentialPublicKey : PublicKey)
    (trustAnchors : List Bytes) : Res AttestationType := do
  let st ← readStmt "android-key" [.alg, .sig, .x5c] attStmt
  let _ ← required (st .alg) "android-key attStmt missing required field: alg"
  let sig ← required (st .sig) "android-key attStmt missing required field: sig"
  let certs ← required (st .x5c) "android-key attStmt missing required field: x5c"
  let attPk ← extractEcP256PublicKeyFromCert (← Slice.index certs 0)
  let credPk ← es256Point
    "android-key: attestation requires an ES256 (P-256) credential key" credentialPublicKey
  .rejectIf (attPk ≠ credPk) (invalid
    "android-key: credential public key does not match attestation certificate key")
  Crypto.verifyEs256 E attPk (verificationData authDataBytes clientDataHash) sig
  verifyX5cChain E certs trustAnchors

/-- No signature of its own: the leaf carries the hash of the signed bytes as a nonce. -/
def verifyApple (attStmt : Value) (authDataBytes : Bytes) (clientDataHash : ArrayN UInt8 32)
    (credentialPublicKey : PublicKey) (trustAnchors : List Bytes) : Res AttestationType := do
  let st ← readStmt "apple" [.x5c] attStmt
  let certs ← required (st .x5c) "apple attStmt missing required field: x5c"
  let expectedNonce ← Crypto.sha256 E (verificationData authDataBytes clientDataHash)
  let leaf ← Slice.index certs 0
  let certNonce ← extractAppleNonceFromCert leaf
  .rejectIf (certNonce ≠ expectedNonce) (invalid
    "apple: certificate nonce does not match SHA-256(authData || clientDataHash)")
  let certPk ← extractEcP256PublicKeyFromCert leaf
  let credPk ← es256Point
    "apple: attestation requires an ES256 (P-256) credential key" credentialPublicKey
  .rejectIf (certPk ≠ credPk) (invalid
    "apple: credential public key does not match attestation certificate key")
  verifyX5cChain E certs trustAnchors

/-- The key of the attestation certificate, which must suit the credential's algorithm. -/
def tpmCertKey (alg : ℤ) (leaf : Bytes) : Res Bytes :=
  if alg = COSE_ES256 then extractEcP256PublicKeyFromCert leaf
  else if alg = COSE_RS256 then extractRsaPublicKeyDerFromCert leaf
  else .err (.unsupportedAlgorithm alg)

/-- The signature over `certInfo`; any other algorithm is unreachable here, and a panic. -/
def tpmVerifySignature (alg : ℤ) (certKeyBytes certInfo sig : Bytes) : Res Unit :=
  if alg = COSE_ES256 then Crypto.verifyEs256 E certKeyBytes certInfo sig
  else if alg = COSE_RS256 then Crypto.verifyRs256 E certKeyBytes certInfo sig
  else .panic

def verifyTpm (attStmt : Value) (authDataBytes : Bytes) (clientDataHash : ArrayN UInt8 32)
    (credentialPublicKey : PublicKey) (trustAnchors : List Bytes) : Res AttestationType := do
  let st ← readStmt "tpm" [.ver, .alg, .sig, .x5c, .certInfo, .pubArea] attStmt
  let ver ← required (st .ver) "tpm attStmt missing required field: ver"
  .rejectIf (ver ≠ "2.0") (invalid s!"tpm: ver must be \"2.0\", got \"{ver}\"")
  let alg ← required (st .alg) "tpm attStmt missing required field: alg"
  let expectedAlg := credentialPublicKey.algorithm
  .rejectIf (alg ≠ expectedAlg) (invalid
    s!"tpm: attStmt alg ({alg}) does not match credential key algorithm ({expectedAlg})")
  let certs ← required (st .x5c)
    "tpm attStmt missing required field: x5c (ECDAA is not supported)"
  let sig ← required (st .sig) "tpm attStmt missing required field: sig"
  let certInfo ← required (st .certInfo) "tpm attStmt missing required field: certInfo"
  let pubArea ← required (st .pubArea) "tpm attStmt missing required field: pubArea"
  let certKeyBytes ← tpmCertKey alg (← Slice.index certs 0)
  let expectedExtraData ← Crypto.sha256 E (verificationData authDataBytes clientDataHash)
  let expectedName ← Tpm.computePubAreaName E pubArea
  Tpm.verifyPubAreaMatchesCredential pubArea credentialPublicKey
  Tpm.verifyCertInfo certInfo expectedExtraData expectedName
  tpmVerifySignature E alg certKeyBytes certInfo sig
  verifyX5cChain E certs trustAnchors

/-- The signature of a SafetyNet response, under the key that its own `alg` selects. -/
def verifyJwsSignature (jws : JwsX5cChain) (leaf : Bytes) : Res Unit :=
  if jws.alg = "ES256" then do
    let leafPk ← extractEcP256PublicKeyFromCert leaf
    Crypto.verifyEs256Jws E leafPk jws.signingInput jws.signature
  else if jws.alg = "RS256" then do
    let leafPk ← extractRsaPublicKeyDerFromCert leaf
    Crypto.verifyRs256 E leafPk jws.signingInput jws.signature
  else .err (invalid
    s!"android-safetynet: unsupported JWS alg \"{jws.alg}\", expected ES256 or RS256")

def verifyAndroidSafetynet (attStmt : Value) (authDataBytes : Bytes)
    (clientDataHash : ArrayN UInt8 32) (trustAnchors : List Bytes) : Res AttestationType := do
  let st ← readStmt "android-safetynet" [.ver, .response] attStmt
  let _ ← required (st .ver) "android-safetynet attStmt missing required field: ver"
  let response ← required (st .response)
    "android-safetynet attStmt missing required field: response"
  let responseStr ← .okOr (Text.fromUtf8 response)
    (invalid "android-safetynet: response is not valid UTF-8")
  let jws ← splitJwsWithX5c E responseStr invalid
  let leaf ← Slice.index jws.certs 0
  verifyJwsSignature E jws leaf
  let digest ← Crypto.sha256 E (verificationData authDataBytes clientDataHash)
  let expectedNonce := E.standardEncode digest.toList
  let payload ← .ofExcept (E.jsonSafetyNetPayload jws.payload) fun e =>
    invalid s!"android-safetynet: failed to parse JWS payload JSON: {e}"
  .rejectIf (payload.nonce ≠ expectedNonce) (invalid
    "android-safetynet: nonce does not match Base64(SHA-256(authData || clientDataHash))")
  .rejectIf (certIssuedToHostname E leaf "attest.android.com" = false) (invalid
    "android-safetynet: attestation certificate is not issued to attest.android.com")
  verifyX5cChain E jws.certs trustAnchors

/-- The dispatch on the format; formats without a verifier are accepted as not attested. -/
def verify (fmt : String) (attStmt : Value) (authDataBytes : Bytes)
    (clientDataHash : ArrayN UInt8 32) (credentialPublicKey : PublicKey) (credentialId : Bytes)
    (trustAnchors : List Bytes) (aaguid : ArrayN UInt8 16) : Res AttestationType :=
  match fmt with
  | "none" => .ok .none
  | "packed" => verifyPacked E attStmt authDataBytes clientDataHash credentialPublicKey
      trustAnchors aaguid
  | "fido-u2f" => verifyFidoU2f E attStmt authDataBytes clientDataHash credentialId
      credentialPublicKey trustAnchors
  | "android-key" => verifyAndroidKey E attStmt authDataBytes clientDataHash
      credentialPublicKey trustAnchors
  | "apple" => verifyApple E attStmt authDataBytes clientDataHash credentialPublicKey
      trustAnchors
  | "tpm" => verifyTpm E attStmt authDataBytes clientDataHash credentialPublicKey trustAnchors
  | "android-safetynet" => verifyAndroidSafetynet E attStmt authDataBytes clientDataHash
      trustAnchors
  | _ => .ok .none

/-! ### Safety -/

variable {E}

lemma safe_es256Point (msg : String) (pk : PublicKey) : (es256Point msg pk).Safe := by
  cases pk <;> simp [es256Point]

@[simp] lemma required_eq_ok {α : Type} {o : Option α} {msg : String} {a : α} :
    required o msg = .ok a ↔ o = some a := Outcome.okOr_eq_ok

@[simp] lemma safe_required {α : Type} (o : Option α) (msg : String) :
    (required o msg).Safe := Outcome.safe_okOr o _

lemma safe_verifyLeafSignature (alg : ℤ) (leaf m s : Bytes) :
    (verifyLeafSignature E alg leaf m s).Safe := by simp [verifyLeafSignature]

lemma safe_verifySelfSignature (alg : ℤ) (pk : PublicKey) (m s : Bytes) :
    (verifySelfSignature E alg pk m s).Safe := by
  cases pk <;> simp [verifySelfSignature]

lemma safe_verifyJwsSignature (jws : JwsX5cChain) (leaf : Bytes) :
    (verifyJwsSignature E jws leaf).Safe := by simp [verifyJwsSignature]

section
variable {wanted : List Field} {fmt : String} {st : Fields} {attStmt : Value}
  {certs anchors : List Bytes} {authData credId : Bytes} {hash : ArrayN UInt8 32}
  {pk : PublicKey} {aaguid : ArrayN UInt8 16}

lemma x5c_ne_nil (h : readStmt fmt wanted attStmt = .ok st) (hf : .x5c ∈ wanted)
    (hc : st .x5c = some certs) : certs ≠ [] :=
  (readStmt_x5c h hf hc).2

lemma safe_leaf (h : certs ≠ []) : (Slice.index certs 0 : Res Bytes).Safe :=
  Slice.safe_index.mpr (List.length_pos_iff.mpr h)

lemma safe_verifyPackedBasic (h : certs ≠ []) :
    (verifyPackedBasic E st certs authData hash anchors aaguid).Safe := by
  simp [verifyPackedBasic, safe_leaf h, safe_verifyLeafSignature, safe_verifyX5cChain h]

lemma safe_verifyPackedSelf : (verifyPackedSelf E st authData hash pk).Safe := by
  simp [verifyPackedSelf, safe_verifySelfSignature]

lemma safe_verifyPacked : (verifyPacked E attStmt authData hash pk anchors aaguid).Safe := by
  refine Outcome.Safe.bind safe_readStmt fun st hst => ?_
  split
  · rename_i certs hc
    exact safe_verifyPackedBasic (x5c_ne_nil hst (by simp) hc)
  · exact safe_verifyPackedSelf

lemma safe_verifyFidoU2f : (verifyFidoU2f E attStmt authData hash credId pk anchors).Safe := by
  refine Outcome.Safe.bind safe_readStmt fun st hst => ?_
  refine Outcome.Safe.bind (safe_required _ _) fun certs hc => ?_
  have hne : certs ≠ [] := x5c_ne_nil hst (by simp) (required_eq_ok.mp hc)
  simp [safe_leaf hne, safe_es256Point, safe_verifyX5cChain hne]

lemma safe_verifyAndroidKey : (verifyAndroidKey E attStmt authData hash pk anchors).Safe := by
  refine Outcome.Safe.bind safe_readStmt fun st hst => ?_
  refine Outcome.Safe.bind (safe_required _ _) fun _ _ => ?_
  refine Outcome.Safe.bind (safe_required _ _) fun _ _ => ?_
  refine Outcome.Safe.bind (safe_required _ _) fun certs hc => ?_
  have hne : certs ≠ [] := x5c_ne_nil hst (by simp) (required_eq_ok.mp hc)
  simp [safe_leaf hne, safe_es256Point, safe_verifyX5cChain hne]

lemma safe_verifyApple : (verifyApple E attStmt authData hash pk anchors).Safe := by
  refine Outcome.Safe.bind safe_readStmt fun st hst => ?_
  refine Outcome.Safe.bind (safe_required _ _) fun certs hc => ?_
  have hne : certs ≠ [] := x5c_ne_nil hst (by simp) (required_eq_ok.mp hc)
  simp [safe_leaf hne, safe_es256Point, safe_verifyX5cChain hne]

lemma safe_tpmVerifySignature {alg : ℤ} {leaf key certInfo sig : Bytes}
    (h : tpmCertKey alg leaf = .ok key) : (tpmVerifySignature E alg key certInfo sig).Safe := by
  unfold tpmCertKey at h
  unfold tpmVerifySignature
  split_ifs at h ⊢ <;> simp

lemma safe_verifyTpm : (verifyTpm E attStmt authData hash pk anchors).Safe := by
  refine Outcome.Safe.bind safe_readStmt fun st hst => ?_
  refine Outcome.Safe.bind (safe_required _ _) fun ver _ => ?_
  refine Outcome.Safe.bind (by simp) fun _ _ => ?_
  refine Outcome.Safe.bind (safe_required _ _) fun alg _ => ?_
  refine Outcome.Safe.bind (by simp) fun _ _ => ?_
  refine Outcome.Safe.bind (safe_required _ _) fun certs hc => ?_
  have hne : certs ≠ [] := x5c_ne_nil hst (by simp) (required_eq_ok.mp hc)
  refine Outcome.Safe.bind (safe_required _ _) fun sig _ => ?_
  refine Outcome.Safe.bind (safe_required _ _) fun certInfo _ => ?_
  refine Outcome.Safe.bind (safe_required _ _) fun pubArea _ => ?_
  refine Outcome.Safe.bind (safe_leaf hne) fun leaf _ => ?_
  refine Outcome.Safe.bind (by simp [tpmCertKey]) fun key hkey => ?_
  simp [safe_tpmVerifySignature hkey, safe_verifyX5cChain hne]

lemma safe_verifyAndroidSafetynet :
    (verifyAndroidSafetynet E attStmt authData hash anchors).Safe := by
  refine Outcome.Safe.bind safe_readStmt fun st _ => ?_
  refine Outcome.Safe.bind (safe_required _ _) fun _ _ => ?_
  refine Outcome.Safe.bind (safe_required _ _) fun response _ => ?_
  refine Outcome.Safe.bind (by simp) fun responseStr _ => ?_
  refine Outcome.Safe.bind (by simp) fun jws hjws => ?_
  have hne : jws.certs ≠ [] := (splitJwsWithX5c_eq_ok.mp hjws).certs_ne_nil
  simp [safe_leaf hne, safe_verifyJwsSignature, safe_verifyX5cChain hne]

/-- **No attestation statement of any format causes a panic.** -/
theorem safe_verify :
    (verify E fmt attStmt authData hash pk credId anchors aaguid).Safe := by
  unfold verify
  split
  · exact Outcome.safe_ok _
  · exact safe_verifyPacked
  · exact safe_verifyFidoU2f
  · exact safe_verifyAndroidKey
  · exact safe_verifyApple
  · exact safe_verifyTpm
  · exact safe_verifyAndroidSafetynet
  · exact Outcome.safe_ok _

end

end Caden.Attestation
