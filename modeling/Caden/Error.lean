import Mathlib.Data.Int.Notation
import Caden.Lib.Outcome

/-!
The errors of the library, and the authenticator statuses one of them carries.
-/

namespace Caden

/-- The status of an authenticator model in the FIDO Metadata Service. -/
inductive AuthenticatorStatus where
  | notFidoCertified
  | fidoCertified
  | userVerificationBypass
  | attestationKeyCompromise
  | userKeyRemoteCompromise
  | userKeyPhysicalCompromise
  | updateAvailable
  | revoked
  | selfAssertionSubmitted
  | fidoCertifiedL1
  | fidoCertifiedL1Plus
  | fidoCertifiedL2
  | fidoCertifiedL2Plus
  | fidoCertifiedL3
  | fidoCertifiedL3Plus
  deriving DecidableEq

/-- The model should no longer be trusted for new registrations. -/
def AuthenticatorStatus.isCompromised : AuthenticatorStatus → Bool
  | .revoked | .attestationKeyCompromise | .userKeyRemoteCompromise
  | .userKeyPhysicalCompromise | .userVerificationBypass => true
  | _ => false

/-- The name a status has on the wire. -/
def AuthenticatorStatus.display : AuthenticatorStatus → String
  | .notFidoCertified => "NOT_FIDO_CERTIFIED"
  | .fidoCertified => "FIDO_CERTIFIED"
  | .userVerificationBypass => "USER_VERIFICATION_BYPASS"
  | .attestationKeyCompromise => "ATTESTATION_KEY_COMPROMISE"
  | .userKeyRemoteCompromise => "USER_KEY_REMOTE_COMPROMISE"
  | .userKeyPhysicalCompromise => "USER_KEY_PHYSICAL_COMPROMISE"
  | .updateAvailable => "UPDATE_AVAILABLE"
  | .revoked => "REVOKED"
  | .selfAssertionSubmitted => "SELF_ASSERTION_SUBMITTED"
  | .fidoCertifiedL1 => "FIDO_CERTIFIED_L1"
  | .fidoCertifiedL1Plus => "FIDO_CERTIFIED_L1plus"
  | .fidoCertifiedL2 => "FIDO_CERTIFIED_L2"
  | .fidoCertifiedL2Plus => "FIDO_CERTIFIED_L2plus"
  | .fidoCertifiedL3 => "FIDO_CERTIFIED_L3"
  | .fidoCertifiedL3Plus => "FIDO_CERTIFIED_L3plus"

/-- All errors that ceremony verification and metadata processing return. -/
inductive WebAuthnError where
  | invalidClientData (msg : String)
  | challengeMismatch
  | originMismatch (expected got : String)
  | rpIdHashMismatch
  | userNotPresent
  | userNotVerified
  | invalidAttestationObject (msg : String)
  | invalidAuthenticatorData (msg : String)
  | invalidPublicKey (msg : String)
  | signatureVerificationFailed
  | signCountInvalid (stored received : UInt32)
  | cborDecodeError (msg : String)
  | base64DecodeError (msg : String)
  | challengeExpired
  | challengePreviouslyUsed
  | unsupportedAlgorithm (alg : ℤ)
  | crossOriginNotAllowed
  | backupEligibleNotAllowed
  | backupEligibilityRequired
  | backupEligibilityChanged
  | attestationChainInvalid (msg : String)
  | attestationRootUntrusted
  | attestationAaguidMismatch
  | attestationCertIsCa
  | authenticatorStatusUntrusted (status : AuthenticatorStatus)
  | missingCredentialId
  | mdsBlobMalformed (msg : String)
  | mdsChainInvalid (msg : String)
  | mdsRootUntrusted
  | mdsSignatureInvalid
  deriving DecidableEq

/-- The message of an error. -/
def WebAuthnError.display : WebAuthnError → String
  | .invalidClientData msg => s!"Invalid client data: {msg}"
  | .challengeMismatch => "Challenge mismatch: expected challenge does not match response"
  | .originMismatch expected got => s!"Origin mismatch: expected {expected}, got {got}"
  | .rpIdHashMismatch => "RP ID hash mismatch"
  | .userNotPresent => "User Present flag not set"
  | .userNotVerified => "User Verification flag not set"
  | .invalidAttestationObject msg => s!"Invalid attestation object: {msg}"
  | .invalidAuthenticatorData msg => s!"Invalid authenticator data: {msg}"
  | .invalidPublicKey msg => s!"Invalid public key: {msg}"
  | .signatureVerificationFailed => "Signature verification failed"
  | .signCountInvalid stored received =>
    s!"Sign count invalid: stored {stored}, received {received}"
  | .cborDecodeError msg => s!"CBOR decode error: {msg}"
  | .base64DecodeError msg => s!"Base64 decode error: {msg}"
  | .challengeExpired => "Challenge expired"
  | .challengePreviouslyUsed => "Challenge was already used in a previous ceremony"
  | .unsupportedAlgorithm alg => s!"Unsupported algorithm: {alg}"
  | .crossOriginNotAllowed =>
    "Cross-origin credential use is not permitted by this relying party"
  | .backupEligibleNotAllowed => "Credential is backup-eligible " ++
    "but this relying party does not permit backed-up credentials"
  | .backupEligibilityRequired => "Credential is not backup-eligible " ++
    "but this relying party requires backup-eligible credentials"
  | .backupEligibilityChanged => "Backup Eligibility flag changed since registration — " ++
    "credential may have been substituted"
  | .attestationChainInvalid msg => s!"Attestation certificate chain invalid: {msg}"
  | .attestationRootUntrusted =>
    "Attestation root certificate is not trusted by any configured trust anchor"
  | .attestationAaguidMismatch => "Attestation certificate AAGUID extension does not match " ++
    "authenticatorData AAGUID"
  | .attestationCertIsCa =>
    "Attestation certificate is marked as a CA (Basic Constraints CA:TRUE)"
  | .authenticatorStatusUntrusted status =>
    "Authenticator model is untrusted: FIDO MDS status " ++ status.display
  | .missingCredentialId => "Missing credential ID: response.credential_id must not be empty"
  | .mdsBlobMalformed msg => s!"Malformed FIDO MDS BLOB: {msg}"
  | .mdsChainInvalid msg => s!"FIDO MDS BLOB signer certificate chain invalid: {msg}"
  | .mdsRootUntrusted => "FIDO MDS BLOB signer root certificate is not trusted " ++
    "by the supplied trust anchor"
  | .mdsSignatureInvalid => "FIDO MDS BLOB signature verification failed"

/-- `webauthn::Result<T>`, with panicking as a third possibility. -/
abbrev Res (α : Type) : Type := Outcome WebAuthnError α

end Caden
