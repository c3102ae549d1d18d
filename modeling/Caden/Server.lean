import Caden.Lib.Tasks
import Caden.Options
import Caden.RegistrationSpec
import Caden.AuthenticationSpec

/-!
The HTTP server that runs the ceremonies.

Every request is a task on the state that all requests share. A lock is held for one section
only, so requests interleave between their sections. A verification is one section, since it
touches shared memory only where it locks the used challenges.
-/

namespace Caden.Server

/-! ### State -/

/-- Issued challenges by session, stored credentials by the text of their id, and the memory of
the relying party. -/
structure AppState where
  pendingChallenges : Fold.Map String Challenge
  credentials : Fold.Map String Credential
  heap : Heap

namespace AppState

def new (heap : Heap) : AppState := ⟨∅, ∅, heap⟩

variable (s : AppState)

def storeChallenge (sessionId : String) (challenge : Challenge) : Unit × AppState :=
  ((), { s with pendingChallenges := s.pendingChallenges.insert sessionId challenge })

/-- The challenge of the session, which is removed. -/
def takeChallenge (sessionId : String) : Option Challenge × AppState :=
  (s.pendingChallenges.lookup sessionId,
    { s with pendingChallenges := s.pendingChallenges.erase sessionId })

def storeCredential (key : String) (credential : Credential) : Unit × AppState :=
  ((), { s with credentials := s.credentials.insert key credential })

def containsCredential (key : String) : Bool × AppState := ((s.credentials.lookup key).isSome, s)

def findCredential (key : String) : Option Credential × AppState := (s.credentials.lookup key, s)

/-- The credential under the key, if there still is one, gets a new count. -/
def setSignCount (key : String) (newSignCount : UInt32) : Unit × AppState :=
  match s.credentials.lookup key with
  | some credential => s.storeCredential key { credential with signCount := newSignCount }
  | none => ((), s)

end AppState

/-! ### Requests and responses -/

structure RegisterBeginRequest where
  userId : String
  username : String

structure RegisterCompleteRequest where
  sessionId : String
  clientDataJson : String
  attestationObject : String

structure AuthBeginRequest where
  credentialId : String

structure AuthCompleteRequest where
  sessionId : String
  credentialId : String
  clientDataJson : String
  authenticatorData : String
  signature : String

abbrev PasskeyAuthCompleteRequest : Type := AuthCompleteRequest

inductive StatusCode where
  | badRequest
  | internalServerError
  deriving DecidableEq

structure ErrorResponse where
  status : StatusCode
  error : String
  code : String
  deriving DecidableEq

/-- The bodies of the responses with status 200. -/
inductive Reply where
  | registerBegin (sessionId : String) (options : RegistrationOptions)
  | registerComplete (credentialId status : String)
  | authBegin (sessionId : String) (options : AuthenticationOptions)
  | authComplete (status : String) (newSignCount : UInt32)

abbrev Handler : Type := Task AppState ErrorResponse Reply

def clientError (message code : String) : ErrorResponse := ⟨.badRequest, message, code⟩

def serverError (message : String) : ErrorResponse :=
  ⟨.internalServerError, message, "INTERNAL_ERROR"⟩

def sessionNotFound : ErrorResponse :=
  clientError "session not found or expired" "SESSION_NOT_FOUND"

def credentialNotFound : ErrorResponse := clientError "credential not found" "CREDENTIAL_NOT_FOUND"

/-- Every byte as two digits in base 16. -/
def toHex (bytes : Bytes) : String :=
  String.ofList (bytes.flatMap fun b =>
    [Nat.digitChar (b.toNat / 16), Nat.digitChar (b.toNat % 16)])

/-- What a request that begins a ceremony draws from the generator, which can fail, and reads
from the clock. -/
structure Draws where
  challenge : Option (ArrayN UInt8 32)
  now : SystemTime
  session : Option (ArrayN UInt8 16)

/-- A session id of 16 random bytes; a failing generator is a panic. -/
def newSessionId (random : Option (ArrayN UInt8 16)) : Outcome ErrorResponse String := do
  let bytes ← Outcome.expect random
  return toHex bytes.toList

section
variable (E : Env)

def decodeB64url (value field : String) : Outcome ErrorResponse Bytes :=
  .ofExcept (E.urlSafeNoPadDecode value) fun e =>
    ⟨.badRequest, s!"{field}: {e}", "BASE64_DECODE_ERROR"⟩

end

/-- A verification, whose error is reported under the text `what`. -/
def verifying {α : Type} (what : String) (x : Stateful Heap WebAuthnError α) :
    Task AppState ErrorResponse α :=
  .lockedRes fun s =>
    ((x.run s.heap).1.mapErr fun e => clientError (what ++ e.display) "VERIFICATION_FAILED",
      { s with heap := (x.run s.heap).2 })

/-! ### Endpoints -/

variable (E : Env) (encode : Bytes → String) (rp : RelyingParty)

/-- `POST /register/begin`. -/
def registerBegin (req : RegisterBeginRequest) (draws : Draws) : Handler := do
  let user : UserEntity := ⟨Text.asBytes req.userId, req.username, req.username⟩
  let options ← (rp.beginRegistration draws.challenge draws.now user []).mapErr fun e =>
    serverError ("begin_registration failed: " ++ e.display)
  let sessionId ← newSessionId draws.session
  Task.locked (AppState.storeChallenge · sessionId options.challenge)
  return .registerBegin sessionId options

/-- `POST /register/complete`. The bytes of the session id are the user id. -/
def registerComplete (req : RegisterCompleteRequest) (clock : Clock) : Handler := do
  let found ← Task.locked (AppState.takeChallenge · req.sessionId)
  let challenge ← Outcome.okOr found sessionNotFound
  let clientDataJson ← decodeB64url E req.clientDataJson "client_data_json"
  let attestationObject ← decodeB64url E req.attestationObject "attestation_object"
  let response : AuthenticatorAttestationResponse := ⟨clientDataJson, attestationObject⟩
  let userId := Text.asBytes req.sessionId
  let result ← verifying "registration failed: "
    (Registration.verifyRegistration E rp clock challenge response userId)
  let credentialIdHex := toHex result.credential.id
  let credentialIdB64 := encode result.credential.id
  Task.locked (AppState.storeCredential · credentialIdHex result.credential)
  return .registerComplete credentialIdB64 "ok"

/-- `POST /authenticate/begin`. -/
def authenticateBegin (req : AuthBeginRequest) (draws : Draws) : Handler := do
  let credIdBytes ← decodeB64url E req.credentialId "credential_id"
  let credIdHex := toHex credIdBytes
  let known ← Task.locked (AppState.containsCredential · credIdHex)
  Outcome.rejectIf (known = false) credentialNotFound
  let options ← (rp.authenticationOptions draws.challenge draws.now [credIdBytes]).mapErr fun e =>
    serverError ("authentication_options failed: " ++ e.display)
  let sessionId ← newSessionId draws.session
  Task.locked (AppState.storeChallenge · sessionId options.challenge)
  return .authBegin sessionId options

/-- `POST /authenticate/complete`. -/
def authenticateComplete (req : AuthCompleteRequest) (clock : Clock) : Handler := do
  let found ← Task.locked (AppState.takeChallenge · req.sessionId)
  let challenge ← Outcome.okOr found sessionNotFound
  let credIdBytes ← decodeB64url E req.credentialId "credential_id"
  let credIdHex := toHex credIdBytes
  let stored ← Task.locked (AppState.findCredential · credIdHex)
  let storedCredential ← Outcome.okOr stored credentialNotFound
  let clientDataJson ← decodeB64url E req.clientDataJson "client_data_json"
  let authenticatorData ← decodeB64url E req.authenticatorData "authenticator_data"
  let signature ← decodeB64url E req.signature "signature"
  let assertion : AuthenticatorAssertionResponse :=
    ⟨clientDataJson, authenticatorData, signature, none, credIdBytes⟩
  let result ← verifying "authentication failed: "
    (Authentication.verifyAuthentication E rp storedCredential clock challenge assertion)
  Task.locked (AppState.setSignCount · credIdHex result.newSignCount)
  return .authComplete "ok" result.newSignCount

/-- `POST /passkey/authenticate/begin`. -/
def passkeyAuthenticateBegin (draws : Draws) : Handler := do
  let options ← (rp.authenticationOptions draws.challenge draws.now []).mapErr fun e =>
    serverError ("authentication_options failed: " ++ e.display)
  let sessionId ← newSessionId draws.session
  Task.locked (AppState.storeChallenge · sessionId options.challenge)
  return .authBegin sessionId options

/-- `POST /passkey/authenticate/complete`. -/
def passkeyAuthenticateComplete (req : PasskeyAuthCompleteRequest) (clock : Clock) : Handler := do
  let found ← Task.locked (AppState.takeChallenge · req.sessionId)
  let challenge ← Outcome.okOr found sessionNotFound
  let clientDataJson ← decodeB64url E req.clientDataJson "client_data_json"
  let authenticatorData ← decodeB64url E req.authenticatorData "authenticator_data"
  let signature ← decodeB64url E req.signature "signature"
  let credIdBytes ← decodeB64url E req.credentialId "credential_id"
  let assertion : AuthenticatorAssertionResponse :=
    ⟨clientDataJson, authenticatorData, signature, none, credIdBytes⟩
  let (lookupId, _) ← (rp.beginAuthentication assertion).mapErr fun e =>
    clientError ("begin_authentication failed: " ++ e.display) "MISSING_CREDENTIAL_ID"
  let credIdHex := toHex lookupId
  let stored ← Task.locked (AppState.findCredential · credIdHex)
  let storedCredential ← Outcome.okOr stored credentialNotFound
  let result ← verifying "authentication failed: "
    (Authentication.verifyAuthentication E rp storedCredential clock challenge assertion)
  Task.locked (AppState.setSignCount · credIdHex result.newSignCount)
  return .authComplete "ok" result.newSignCount

/-! ### The server -/

/-- A request, with what it draws and the clock it reads. -/
inductive Request where
  | registerBegin (req : RegisterBeginRequest) (draws : Draws)
  | registerComplete (req : RegisterCompleteRequest) (clock : Clock)
  | authenticateBegin (req : AuthBeginRequest) (draws : Draws)
  | authenticateComplete (req : AuthCompleteRequest) (clock : Clock)
  | passkeyAuthenticateBegin (draws : Draws)
  | passkeyAuthenticateComplete (req : PasskeyAuthCompleteRequest) (clock : Clock)

def handle : Request → Handler
  | .registerBegin req draws => registerBegin rp req draws
  | .registerComplete req clock => registerComplete E encode rp req clock
  | .authenticateBegin req draws => authenticateBegin E rp req draws
  | .authenticateComplete req clock => authenticateComplete E rp req clock
  | .passkeyAuthenticateBegin draws => passkeyAuthenticateBegin rp draws
  | .passkeyAuthenticateComplete req clock => passkeyAuthenticateComplete E rp req clock

/-- The state of the server and of all its requests. -/
abbrev Run (ι : Type) : Type := Pool ι AppState ErrorResponse Reply

variable {ι : Type}

/-- The server before it handles any of the requests. -/
def serve (requests : ι → Request) (heap : Heap) : Run ι :=
  ⟨.new heap, fun i => handle E encode rp (requests i)⟩

end Caden.Server
