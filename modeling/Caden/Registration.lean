import Caden.Attestation
import Caden.ClientData
import Caden.RelyingParty

/-!
The registration ceremony.

The ceremony is three parts in sequence: checks that only read the response, the locked
section on the used challenges, and the verification of the attestation.
-/

namespace Caden.Registration

open AuthData (AuthenticatorData AttestedCredentialData CoseKey Aaguid)
open Fold (lastSome)

/-! ### The attestation object -/

/-- The fields of the attestation object read so far. -/
structure AttObj where
  fmt : Option String
  authData : Option (Except WebAuthnError Bytes)
  attStmt : Option Value

/-- One turn of the loop over the entries. A format that is not text is ignored; an
authData that is not bytes is kept as the error it will be. -/
def readEntry (o : AttObj) (e : Value × Value) : AttObj :=
  match e.1 with
  | .text key =>
    if key = "fmt" then
      match e.2 with
      | .text s => { o with fmt := some s }
      | _ => o
    else if key = "authData" then
      { o with authData := some (match e.2 with
        | .bytes b => .ok b
        | _ => .error (.invalidAttestationObject
            "authData must be CBOR bytes, not another type")) }
    else if key = "attStmt" then { o with attStmt := some e.2 }
    else o
  | _ => o

def missingField (field : String) : WebAuthnError :=
  .invalidAttestationObject s!"missing required field: {field}"

variable (E : Env)

/-- The format, the authenticator data and the statement of an attestation object. -/
def parseAttestationObject (data : Bytes) : Res (String × Bytes × Value) := do
  let item ← .ofExcept (E.cborFromReader data) fun e =>
    .cborDecodeError s!"attestation object: {e}"
  let map ← .okOr item.1.asMap
    (.invalidAttestationObject "attestation object must be a CBOR map")
  let o := map.foldl readEntry ⟨none, none, none⟩
  let fmt ← .okOr o.fmt (missingField "fmt")
  let authData ← .ofExcept (← .okOr o.authData (missingField "authData")) id
  let attStmt ← .okOr o.attStmt (missingField "attStmt")
  return (fmt, authData, attStmt)

/-! ### Keys and policy -/

def coseAlg : CoseKey → ℤ
  | .ec2 alg _ _ _ => alg
  | .okp alg _ => alg
  | .rsa _ _ _ => COSE_RS256

/-- The typed key to store. -/
def publicKeyOf : CoseKey → Res PublicKey
  | .ec2 alg _ x y =>
    if alg = COSE_ES256 then .ok (.es256 x y)
    else if alg = COSE_ES384 then .ok (.es384 x y)
    else .err (.unsupportedAlgorithm alg)
  | .okp alg x => if alg = COSE_EDDSA then .ok (.edDsa x) else .err (.unsupportedAlgorithm alg)
  | .rsa _ n e => .ok (.rs256 n e)

/-- The model's first compromised status, if it has any, is an error. -/
def checkMetadata (metadata : StatusMap) (aaguid : Aaguid) : Res Unit :=
  match metadata.lookup aaguid with
  | some statuses =>
    match statuses.find? (·.isCompromised) with
    | some status => .err (.authenticatorStatusUntrusted status)
    | none => .ok ()
  | none => .ok ()

/-! ### The ceremony -/

variable (rp : RelyingParty) (clock : Clock) (challenge : Challenge)
  (response : AuthenticatorAttestationResponse) (userId : Bytes)

/-- Expiry, encoding, and what the client data binds. -/
def checkClientData : Res ClientData.ParsedClientData := do
  .rejectIf (challenge.isExpired CHALLENGE_MAX_AGE_SECS (clock 0) = true) .challengeExpired
  let _ ← .okOr (Text.fromUtf8 response.clientDataJson)
    (.invalidClientData "clientDataJSON is not valid UTF-8")
  let parsedCd ← ClientData.parseClientData E response.clientDataJson
  ClientData.validateClientData parsedCd "webauthn.create" challenge.bytes rp.allowedOrigins
    rp.rejectCrossOrigin
  return parsedCd

/-- The checks on the authenticator data, in the order of the source. -/
def checkAuthData (authData : AuthenticatorData) : Res AttestedCredentialData := do
  let expectedRpIdHash ← Crypto.sha256 E (Text.asBytes rp.id)
  .rejectIf (authData.rpIdHash ≠ expectedRpIdHash) .rpIdHashMismatch
  .rejectIf (authData.flags.userPresent = false) .userNotPresent
  .rejectIf (rp.rejectBackupEligible && authData.flags.backupEligible) .backupEligibleNotAllowed
  .rejectIf (rp.requireBackupEligible && !authData.flags.backupEligible)
    .backupEligibilityRequired
  let credData ← .okOr authData.attestedCredentialData (.invalidAuthenticatorData
    "attested credential data (AT flag) is required for registration")
  checkMetadata rp.authenticatorMetadata credData.aaguid
  .rejectIf (rp.allowedAlgorithms ≠ [] ∧ coseAlg credData.publicKey ∉ rp.allowedAlgorithms)
    (.unsupportedAlgorithm (coseAlg credData.publicKey))
  return credData

/-- Everything after the locked section. -/
def verifyAttestation (parsedCd : ClientData.ParsedClientData) : Res RegistrationResult := do
  let clientDataHash ← Crypto.sha256 E parsedCd.rawJson
  let (fmt, authDataBytes, attStmt) ← parseAttestationObject E response.attestationObject
  let authData ← AuthData.parseAuthenticatorData E authDataBytes
  let credData ← checkAuthData E rp authData
  let publicKey ← publicKeyOf credData.publicKey
  let attestationType ← Attestation.verify E fmt attStmt authDataBytes clientDataHash publicKey
    credData.credentialId rp.trustAnchors credData.aaguid
  return {
    credential := {
      id := credData.credentialId
      publicKey
      signCount := authData.signCount
      userId
      rpId := rp.id
      createdAt := clock 1
      backupEligible := authData.flags.backupEligible
      backupState := authData.flags.backupState }
    attestationType
    backupEligible := authData.flags.backupEligible
    backupState := authData.flags.backupState
    extensions := authData.extensions }

def verifyRegistrationInner : Stateful Heap WebAuthnError RegistrationResult := do
  let parsedCd ← checkClientData E rp clock challenge response
  useChallenge rp.usedChallenges challenge.bytes
  verifyAttestation E rp clock response userId parsedCd

def verifyRegistration : Stateful Heap WebAuthnError RegistrationResult :=
  verifyRegistrationInner E rp clock challenge response userId

/-! ### Safety -/

variable {E rp clock challenge response userId}

lemma safe_checkClientData : (checkClientData E rp clock challenge response).Safe := by
  simp [checkClientData, ClientData.safe_parseClientData, ClientData.safe_validateClientData]

lemma safe_parseAttestationObject (data : Bytes) : (parseAttestationObject E data).Safe := by
  simp [parseAttestationObject]

lemma safe_publicKeyOf (k : CoseKey) : (publicKeyOf k).Safe := by
  cases k <;> simp [publicKeyOf]

lemma safe_checkMetadata (metadata : StatusMap) (aaguid : Aaguid) :
    (checkMetadata metadata aaguid).Safe := by
  unfold checkMetadata
  split
  · split <;> simp
  · simp

lemma safe_verifyAttestation (p : ClientData.ParsedClientData) :
    (verifyAttestation E rp clock response userId p).Safe := by
  simp [verifyAttestation, checkAuthData, safe_parseAttestationObject, safe_checkMetadata,
    AuthData.safe_parseAuthenticatorData, safe_publicKeyOf, Attestation.safe_verify]

lemma safe_verifyRegistration {heap : Heap} (h : heap.Sound) :
    ((verifyRegistration E rp clock challenge response userId).run heap).1.Safe := by
  refine Stateful.safe_run_bind safe_checkClientData fun p _ => ?_
  refine Stateful.safe_run_bind (safe_useChallenge h) fun _ _ => ?_
  exact safe_verifyAttestation p

end Caden.Registration
