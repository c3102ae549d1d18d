import Caden.RelyingParty

/-!
The options that begin a ceremony, which are sent to the client.

A fresh challenge takes its bytes from the system's random number generator, so every function
that issues one takes what the generator returned and the time.
-/

namespace Caden

/-! ### What the options are made of -/

structure UserEntity where
  id : Bytes
  name : String
  displayName : String
  deriving DecidableEq

inductive AttestationPreference where
  | none
  | indirect
  | direct
  | enterprise
  deriving DecidableEq

inductive AuthenticatorTransport where
  | usb
  | nfc
  | ble
  | internal
  | hybrid
  deriving DecidableEq

structure PublicKeyCredentialDescriptor where
  id : Bytes
  transports : Option (List AuthenticatorTransport)
  deriving DecidableEq

inductive CredProtectPolicy where
  | userVerificationOptional
  | userVerificationOptionalWithCredentialIdList
  | userVerificationRequired
  deriving DecidableEq

structure PrfEvalInput where
  first : Bytes
  second : Option Bytes
  deriving DecidableEq

structure PrfInput where
  eval : Option PrfEvalInput
  deriving DecidableEq

inductive LargeBlobSupport where
  | required
  | preferred
  deriving DecidableEq

structure LargeBlobRegistrationInput where
  support : LargeBlobSupport
  deriving DecidableEq

inductive LargeBlobAuthenticationInput where
  | read
  | write (blob : Bytes)
  deriving DecidableEq

structure CredProtectInput where
  policy : CredProtectPolicy
  enforce : Bool
  deriving DecidableEq

/-- Client extension inputs of a registration. -/
structure RegistrationExtensions where
  credProps : Option Bool
  prf : Option PrfInput
  largeBlob : Option LargeBlobRegistrationInput
  credProtect : Option CredProtectInput
  minPinLength : Option Bool
  deriving DecidableEq

/-- Client extension inputs of an authentication. -/
structure AuthenticationExtensions where
  prf : Option PrfInput
  largeBlob : Option LargeBlobAuthenticationInput
  deriving DecidableEq

structure RegistrationOptions where
  challenge : Challenge
  rpId : String
  rpName : String
  user : UserEntity
  pubKeyCredParams : List ℤ
  timeoutMs : UInt32
  attestation : AttestationPreference
  excludeCredentials : List PublicKeyCredentialDescriptor
  authenticatorSelection : Option AuthenticatorSelection
  extensions : Option RegistrationExtensions
  deriving DecidableEq

structure AuthenticationOptions where
  challenge : Challenge
  timeoutMs : UInt32
  rpId : String
  allowCredentials : List PublicKeyCredentialDescriptor
  userVerification : UserVerificationRequirement
  extensions : Option AuthenticationExtensions
  deriving DecidableEq

/-! ### Beginning a ceremony -/

/-- A challenge of 32 random bytes; `random` is absent when the generator failed. -/
def Challenge.new (random : Option (ArrayN UInt8 32)) (now : SystemTime) : Res Challenge := do
  let bytes ← .okOr random
    (.invalidClientData "system random number generator failed to produce bytes")
  return ⟨bytes.toList, now⟩

/-- A credential named by its id alone. -/
def descriptor (id : Bytes) : PublicKeyCredentialDescriptor := ⟨id, none⟩

namespace RelyingParty

variable (rp : RelyingParty) (random : Option (ArrayN UInt8 32)) (now : SystemTime)

/-- All supported algorithms are offered where none is configured. -/
def beginRegistration (user : UserEntity) (excludeCredentials : List Bytes) :
    Res RegistrationOptions := do
  let challenge ← Challenge.new random now
  let pubKeyCredParams :=
    if rp.allowedAlgorithms = [] then [COSE_ES256, COSE_ES384, COSE_EDDSA, COSE_RS256]
    else rp.allowedAlgorithms
  return {
    challenge
    rpId := rp.id
    rpName := rp.name
    user
    pubKeyCredParams
    timeoutMs := 300000
    attestation := .none
    excludeCredentials := excludeCredentials.map descriptor
    authenticatorSelection := rp.defaultAuthenticatorSelection
    extensions := none }

def authenticationOptions (allowCredentials : List Bytes) : Res AuthenticationOptions := do
  let challenge ← Challenge.new random now
  let userVerification : UserVerificationRequirement :=
    if rp.requireUserVerification then .required else .preferred
  return {
    challenge
    timeoutMs := 300000
    rpId := rp.id
    allowCredentials := allowCredentials.map descriptor
    userVerification
    extensions := none }

/-- The id and the user handle that the browser presented, for the caller's lookup. -/
def beginAuthentication (_rp : RelyingParty) (response : AuthenticatorAssertionResponse) :
    Res (Bytes × Option Bytes) := do
  .rejectIf (response.credentialId = []) .missingCredentialId
  return (response.credentialId, response.userHandle)

/-! ### What the options say -/

variable {rp random now}

lemma beginRegistration_eq_ok {user : UserEntity} {exclude : List Bytes}
    {opts : RegistrationOptions} (h : rp.beginRegistration random now user exclude = .ok opts) :
    opts.rpId = rp.id ∧ opts.authenticatorSelection = rp.defaultAuthenticatorSelection ∧
      opts.pubKeyCredParams =
        if rp.allowedAlgorithms = [] then [COSE_ES256, COSE_ES384, COSE_EDDSA, COSE_RS256]
        else rp.allowedAlgorithms := by
  obtain ⟨challenge, -, h⟩ := Outcome.bind_eq_ok.mp h
  cases h
  exact ⟨rfl, rfl, rfl⟩

lemma authenticationOptions_eq_ok {allow : List Bytes} {opts : AuthenticationOptions}
    (h : rp.authenticationOptions random now allow = .ok opts) :
    opts.rpId = rp.id ∧
      (opts.userVerification = .required ↔ rp.requireUserVerification = true) := by
  obtain ⟨challenge, -, h⟩ := Outcome.bind_eq_ok.mp h
  cases h
  exact ⟨rfl, by simp⟩

lemma beginAuthentication_eq_ok {response : AuthenticatorAssertionResponse} {id : Bytes}
    {handle : Option Bytes} : rp.beginAuthentication response = .ok (id, handle) ↔
      response.credentialId ≠ [] ∧ response.credentialId = id ∧ response.userHandle = handle := by
  simp [beginAuthentication]

end RelyingParty

end Caden
