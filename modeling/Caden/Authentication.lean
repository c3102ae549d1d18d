import Caden.ClientData
import Caden.RelyingParty

/-!
The authentication ceremony.

As in registration: checks on the response, the locked section, and then the verification of
the signed data and of the signature counter.
-/

namespace Caden.Authentication

open AuthData (AuthenticatorData)

variable (E : Env) (rp : RelyingParty) (storedCredential : Credential) (clock : Clock)
  (challenge : Challenge) (response : AuthenticatorAssertionResponse)

/-- Expiry, and what the client data binds. -/
def checkClientData : Res ClientData.ParsedClientData := do
  .rejectIf (challenge.isExpired CHALLENGE_MAX_AGE_SECS (clock 0) = true) .challengeExpired
  let parsedCd ← ClientData.parseClientData E response.clientDataJson
  ClientData.validateClientData parsedCd "webauthn.get" challenge.bytes rp.allowedOrigins
    rp.rejectCrossOrigin
  return parsedCd

/-- The checks on the authenticator data, in the order of the source. -/
def checkAuthData (authData : AuthenticatorData) : Res Unit := do
  let expectedRpIdHash ← Crypto.sha256 E (Text.asBytes storedCredential.rpId)
  .rejectIf (authData.rpIdHash ≠ expectedRpIdHash) .rpIdHashMismatch
  .rejectIf (authData.flags.userPresent = false) .userNotPresent
  .rejectIf (rp.requireUserVerification && !authData.flags.userVerified) .userNotVerified
  .rejectIf (rp.rejectBackupEligible && authData.flags.backupEligible) .backupEligibleNotAllowed
  .rejectIf (rp.requireBackupEligible && !authData.flags.backupEligible)
    .backupEligibilityRequired
  .rejectIf (authData.flags.backupEligible ≠ storedCredential.backupEligible)
    .backupEligibilityChanged

/-- The signature under the stored key, by the key's algorithm. -/
def verifySignature (publicKey : PublicKey) (signedData signature : Bytes) : Res Unit :=
  match publicKey with
  | .es256 x y => Crypto.verifyEs256 E (uncompressed x y) signedData signature
  | .es384 x y => Crypto.verifyEs384 E (uncompressed x y) signedData signature
  | .edDsa pk => Crypto.verifyEddsa E pk signedData signature
  | .rs256 n e => do
    let der ← Crypto.rsaComponentsToDer n e
    Crypto.verifyRs256 E der signedData signature

/-- Either counter not zero means that the received one must be ahead. -/
def checkSignCount (stored received : UInt32) : Res Unit :=
  .rejectIf ((stored > 0 ∨ received > 0) ∧ received ≤ stored) (.signCountInvalid stored received)

/-- Everything after the locked section. -/
def verifyAssertion (parsedCd : ClientData.ParsedClientData) : Res AuthenticationResult := do
  let clientDataHash ← Crypto.sha256 E parsedCd.rawJson
  let authData ← AuthData.parseAuthenticatorData E response.authenticatorData
  checkAuthData E rp storedCredential authData
  let signedData := authData.raw ++ clientDataHash.toList
  verifySignature E storedCredential.publicKey signedData response.signature
  checkSignCount storedCredential.signCount authData.signCount
  return {
    credentialId := storedCredential.id
    newSignCount := authData.signCount
    userPresent := authData.flags.userPresent
    userVerified := authData.flags.userVerified
    backupEligible := authData.flags.backupEligible
    backupState := authData.flags.backupState
    extensions := authData.extensions }

def verifyAuthenticationInner : Stateful Heap WebAuthnError AuthenticationResult := do
  let parsedCd ← checkClientData E rp clock challenge response
  useChallenge rp.usedChallenges challenge.bytes
  verifyAssertion E rp storedCredential response parsedCd

def verifyAuthentication : Stateful Heap WebAuthnError AuthenticationResult :=
  verifyAuthenticationInner E rp storedCredential clock challenge response

/-! ### Safety -/

variable {E rp storedCredential clock challenge response}

lemma safe_checkClientData : (checkClientData E rp clock challenge response).Safe := by
  simp [checkClientData, ClientData.safe_parseClientData, ClientData.safe_validateClientData]

lemma safe_verifySignature (pk : PublicKey) (m s : Bytes) : (verifySignature E pk m s).Safe := by
  cases pk <;> simp [verifySignature]

lemma safe_verifyAssertion (p : ClientData.ParsedClientData) :
    (verifyAssertion E rp storedCredential response p).Safe := by
  simp [verifyAssertion, checkAuthData, checkSignCount, AuthData.safe_parseAuthenticatorData,
    safe_verifySignature]

lemma safe_verifyAuthentication {heap : Heap} (h : heap.Sound) :
    ((verifyAuthentication E rp storedCredential clock challenge response).run heap).1.Safe := by
  refine Stateful.safe_run_bind safe_checkClientData fun p _ => ?_
  refine Stateful.safe_run_bind (safe_useChallenge h) fun _ _ => ?_
  exact safe_verifyAssertion p

end Caden.Authentication
