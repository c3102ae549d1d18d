import Caden.Options
import Caden.RegistrationSpec
import Caden.AuthenticationSpec
import Caden.Recorded

/-!
Which relying party and which credential an accepted response speaks for.

Registration takes the expected RP ID from the relying party and stores it. Authentication takes
it from the stored credential, and takes everything it reports about the credential from there
too: the id and the user handle of the response are for the caller's lookup.
-/

namespace Caden.Identity

open AuthData (AuthenticatorData)

/-- What authenticator data begins with when it is made for the RP ID. -/
def rpIdHashOf (E : Env) (id : String) : Bytes := (Crypto.sha256Of E (Text.asBytes id)).toList

/-! ### RP IDs -/

section
variable {E : Env} {rp : RelyingParty} {stored : Credential} {clock : Clock}
  {challenge : Challenge} {heap : Heap}

lemma take_of_rpIdHash {data : Bytes} {ad : AuthenticatorData} {id : String}
    (hparse : AuthData.parseAuthenticatorData E data = .ok ad)
    (hhash : ad.rpIdHash = Crypto.sha256Of E (Text.asBytes id)) :
    data.take 32 = rpIdHashOf E id := by
  obtain ⟨-, htake, -⟩ := AuthData.parseAuthenticatorData_eq_ok.mp hparse
  rw [htake, hhash, rpIdHashOf]

lemma take_of_authenticated {response : AuthenticatorAssertionResponse} {r : AuthenticationResult}
    (h : ((Authentication.verifyAuthentication E rp stored clock challenge response).run
      heap).1 = .ok r) :
    response.authenticatorData.take 32 = rpIdHashOf E stored.rpId := by
  obtain ⟨ad, had, -⟩ := Authentication.accepts_of_ok h
  exact take_of_rpIdHash had.parses had.rpIdHash

lemma take_of_registered {response : AuthenticatorAttestationResponse} {userId : Bytes}
    {r : RegistrationResult}
    (h : ((Registration.verifyRegistration E rp clock challenge response userId).run
      heap).1 = .ok r) :
    r.credential.rpId = rp.id ∧ ∃ fmt data stmt,
      Registration.IsAttestationObject E response.attestationObject fmt data stmt ∧
        data.take 32 = rpIdHashOf E rp.id := by
  obtain ⟨v, hv, rfl⟩ := Registration.accepts_of_ok h
  exact ⟨rfl, v.fmt, v.authDataBytes, v.attStmt, hv.object, take_of_rpIdHash hv.parses hv.rpIdHash⟩

end

/-- **The RP ID is bound in every ceremony.** An accepted assertion carries the hash of the RP ID
stored with the credential, which is the one in the relying party's own options whenever the
credential was registered under that id. An accepted registration carries the hash of the
relying party's id, and stores that id. -/
theorem rpId_bound (E : Env) (rp : RelyingParty) (clock : Clock) (challenge : Challenge)
    (heap : Heap) :
    (∀ (stored : Credential) (response : AuthenticatorAssertionResponse)
        (r : AuthenticationResult),
      ((Authentication.verifyAuthentication E rp stored clock challenge response).run
        heap).1 = .ok r →
      response.authenticatorData.take 32 = rpIdHashOf E stored.rpId ∧
      ∀ random now allow opts, rp.authenticationOptions random now allow = .ok opts →
        stored.rpId = opts.rpId →
          opts.rpId = rp.id ∧ response.authenticatorData.take 32 = rpIdHashOf E rp.id) ∧
    ∀ (response : AuthenticatorAttestationResponse) (userId : Bytes) (r : RegistrationResult),
      ((Registration.verifyRegistration E rp clock challenge response userId).run
        heap).1 = .ok r →
      r.credential.rpId = rp.id ∧ ∃ fmt data stmt,
        Registration.IsAttestationObject E response.attestationObject fmt data stmt ∧
          data.take 32 = rpIdHashOf E rp.id := by
  refine ⟨fun stored response r h => ?_, fun response userId r h => take_of_registered h⟩
  have htake := take_of_authenticated h
  refine ⟨htake, fun random now allow opts hopts heq => ?_⟩
  obtain ⟨hid, -⟩ := RelyingParty.authenticationOptions_eq_ok hopts
  rw [heq, hid] at htake
  exact ⟨hid, htake⟩

section
open Recorded

lemma first_isOk : ((Authentication.verifyAuthentication twoAssertions.env rp credential
    clock firstChallenge firstResponse).run (Heap.new fun _ => ∅)).1.isOk = true := by
  decide +kernel

lemma registration_isOk : ((Registration.verifyRegistration (registration aaguid).env rp
    clock createChallenge (createResponse aaguid) [0x75]).run
      (Heap.new fun _ => ∅)).1.isOk = true := by
  decide +kernel

/-- Both ceremonies of one relying party, under its own id. -/
theorem recorded_rpId_bound :
    firstResponse.authenticatorData.take 32 = rpIdHashOf twoAssertions.env rp.id ∧
    ∃ r : RegistrationResult,
      ((Registration.verifyRegistration (registration aaguid).env rp clock createChallenge
        (createResponse aaguid) [0x75]).run (Heap.new fun _ => ∅)).1 = .ok r ∧
      r.credential.rpId = rp.id := by
  obtain ⟨r, hr⟩ := Outcome.isOk_iff.mp first_isOk
  obtain ⟨s, hs⟩ := Outcome.isOk_iff.mp registration_isOk
  obtain ⟨hauth, -⟩ := rpId_bound twoAssertions.env rp clock firstChallenge
    (Heap.new fun _ => ∅)
  obtain ⟨-, hreg⟩ := rpId_bound (registration aaguid).env rp clock createChallenge
    (Heap.new fun _ => ∅)
  obtain ⟨-, hbound⟩ := hauth credential firstResponse r hr
  obtain ⟨hid, -⟩ := hreg (createResponse aaguid) [0x75] s hs
  obtain ⟨-, htake⟩ := hbound (some createHash) ⟨0⟩ [] _ rfl rfl
  exact ⟨htake, s, hs, hid⟩

/-- A relying party with another id and the same origin. -/
def otherRp : RelyingParty := .new "example.com" origin "Example"

def otherHash : ArrayN UInt8 32 :=
  ⟨beBytes 32 0xa379a6f6eeafb9a55e378c118034e2751e682fab9f2d30ab13d2125586ce1947,
    beBytes_length _ _⟩

def otherAssertions : Record :=
  { twoAssertions with sha256 := (Text.asBytes otherRp.id, otherHash) :: twoAssertions.sha256 }

/-- It accepts an assertion that carries the hash of the stored id, not of its own. -/
theorem other_rp_accepts :
    ((Authentication.verifyAuthentication otherAssertions.env otherRp credential clock
      firstChallenge firstResponse).run (Heap.new fun _ => ∅)).1.isOk = true ∧
    firstResponse.authenticatorData.take 32 ≠ rpIdHashOf otherAssertions.env otherRp.id := by
  refine ⟨?_, ?_⟩
  · decide +kernel
  · decide +kernel

end

/-! ### The credential -/

section
variable {E : Env} {rp : RelyingParty} {stored : Credential} {clock : Clock}
  {challenge : Challenge} {heap : Heap} {response : AuthenticatorAssertionResponse}
  {r : AuthenticationResult}

lemma run_congr (id : Bytes) (handle : Option Bytes) :
    Authentication.verifyAuthentication E rp stored clock challenge
        { response with credentialId := id, userHandle := handle } =
      Authentication.verifyAuthentication E rp stored clock challenge response := rfl

lemma credentialId_of_ok
    (h : ((Authentication.verifyAuthentication E rp stored clock challenge response).run
      heap).1 = .ok r) : r.credentialId = stored.id := by
  obtain ⟨ad, -, rfl⟩ := Authentication.accepts_of_ok h
  rfl

end

/-- **A result speaks for the stored credential.** The outcome and the used challenges do not
depend on the id and the user handle that the client presented; the reported id is the stored
one, so it is the presented one when the caller has looked the credential up by the id that
`beginAuthentication` returns. -/
theorem result_speaks_for_stored (E : Env) (rp : RelyingParty) (stored : Credential)
    (clock : Clock) (challenge : Challenge) (response : AuthenticatorAssertionResponse)
    (heap : Heap) :
    (∀ (id : Bytes) (handle : Option Bytes),
      (Authentication.verifyAuthentication E rp stored clock challenge
          { response with credentialId := id, userHandle := handle }).run heap =
        (Authentication.verifyAuthentication E rp stored clock challenge response).run heap) ∧
    ∀ r : AuthenticationResult,
      ((Authentication.verifyAuthentication E rp stored clock challenge response).run
        heap).1 = .ok r →
      r.credentialId = stored.id ∧
      ∀ id handle, rp.beginAuthentication response = .ok (id, handle) → stored.id = id →
        r.credentialId = response.credentialId := by
  refine ⟨fun id handle => by rw [run_congr], fun r h => ?_⟩
  have hid := credentialId_of_ok h
  refine ⟨hid, fun id handle hbegin heq => ?_⟩
  obtain ⟨-, hpresented, -⟩ := RelyingParty.beginAuthentication_eq_ok.mp hbegin
  rw [hid, heq, hpresented]

section
open Recorded

/-- The first login reports the id that the client presented. -/
theorem first_speaks_for_presented : ∃ r : AuthenticationResult,
    ((Authentication.verifyAuthentication twoAssertions.env rp credential clock
      firstChallenge firstResponse).run (Heap.new fun _ => ∅)).1 = .ok r ∧
    r.credentialId = firstResponse.credentialId := by
  obtain ⟨r, hr⟩ := Outcome.isOk_iff.mp first_isOk
  obtain ⟨-, hspeaks⟩ := result_speaks_for_stored twoAssertions.env rp credential clock
    firstChallenge firstResponse (Heap.new fun _ => ∅)
  obtain ⟨-, hpresented⟩ := hspeaks r hr
  exact ⟨r, hr, hpresented _ _ rfl rfl⟩

/-- The same assertion, presented under another id and another user's handle. -/
def misnamedResponse : AuthenticatorAssertionResponse :=
  { firstResponse with credentialId := [0x01], userHandle := some [0x6d] }

/-- It is accepted, and reported under the stored id. -/
theorem misnamed_accepted : ∃ r : AuthenticationResult,
    ((Authentication.verifyAuthentication twoAssertions.env rp credential clock
      firstChallenge misnamedResponse).run (Heap.new fun _ => ∅)).1 = .ok r ∧
    misnamedResponse.credentialId ≠ credential.id ∧
    misnamedResponse.credentialId ≠ r.credentialId ∧
    misnamedResponse.userHandle ≠ none ∧
    misnamedResponse.userHandle ≠ some credential.userId := by
  obtain ⟨r, hr⟩ := Outcome.isOk_iff.mp first_isOk
  have hne : misnamedResponse.credentialId ≠ credential.id := by decide
  refine ⟨r, hr, hne, ?_, by decide, by decide⟩
  rw [credentialId_of_ok hr]
  exact hne

end

end Caden.Identity
