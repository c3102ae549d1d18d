import Caden.Identity
import Caden.SignCount

/-!
The options that begin a ceremony against the checks that end it: user verification, and the
algorithms of keys from the offer to the first signature.
-/

namespace Caden.Offer

/-! ### User verification -/

/-- The flags of the authenticator data say that the user was verified. -/
def UserVerifiedIn (data : Bytes) : Prop :=
  ∃ b, data[32]? = some b ∧ (AuthData.flagsOf b).userVerified = true

instance (data : Bytes) : Decidable (UserVerifiedIn data) :=
  match h : data[32]? with
  | some b => decidable_of_iff ((AuthData.flagsOf b).userVerified = true) (by
      simp [UserVerifiedIn, h])
  | none => .isFalse (by simp [UserVerifiedIn, h])

section
variable {E : Env} {rp : RelyingParty} {stored : Credential} {clock : Clock}
  {challenge : Challenge} {heap : Heap}

lemma userVerifiedIn_of_parse {data : Bytes} {ad : AuthData.AuthenticatorData}
    (h : AuthData.parseAuthenticatorData E data = .ok ad)
    (huv : ad.flags.userVerified = true) : UserVerifiedIn data := by
  obtain ⟨-, -, ⟨b, hb, hflags⟩, -⟩ := AuthData.parseAuthenticatorData_eq_ok.mp h
  rw [← hflags] at huv
  exact ⟨b, hb, huv⟩

lemma userVerifiedIn_of_ok {response : AuthenticatorAssertionResponse} {r : AuthenticationResult}
    (hrp : rp.requireUserVerification = true)
    (h : ((Authentication.verifyAuthentication E rp stored clock challenge response).run
      heap).1 = .ok r) : UserVerifiedIn response.authenticatorData := by
  obtain ⟨ad, had, -⟩ := Authentication.accepts_of_ok h
  exact userVerifiedIn_of_parse had.parses (had.userVerified hrp)

/-- **Registration does not read the settings of user verification.** -/
lemma registration_congr (required : Bool) (sel : Option AuthenticatorSelection)
    (response : AuthenticatorAttestationResponse) (userId : Bytes) :
    Registration.verifyRegistration E { rp with
        requireUserVerification := required, defaultAuthenticatorSelection := sel }
        clock challenge response userId =
      Registration.verifyRegistration E rp clock challenge response userId := rfl

end

/-- **What is enforced of the demands in the options.** Where the authentication options demand
user verification, every accepted assertion carries the flag. The registration options carry the
configured selection to the browser, and registration decides the same under any other setting.
-/
theorem userVerification_enforced (E : Env) (rp : RelyingParty)
    (random : Option (ArrayN UInt8 32)) (now : SystemTime) :
    (∀ allow opts, rp.authenticationOptions random now allow = .ok opts →
      opts.userVerification = .required →
      ∀ (stored : Credential) (clock : Clock) (challenge : Challenge)
        (response : AuthenticatorAssertionResponse) (heap : Heap) (r : AuthenticationResult),
      ((Authentication.verifyAuthentication E rp stored clock challenge response).run
        heap).1 = .ok r → UserVerifiedIn response.authenticatorData) ∧
    ∀ user exclude opts, rp.beginRegistration random now user exclude = .ok opts →
      opts.authenticatorSelection = rp.defaultAuthenticatorSelection ∧
      ∀ (required : Bool) (sel : Option AuthenticatorSelection) (clock : Clock)
        (challenge : Challenge) (response : AuthenticatorAttestationResponse) (userId : Bytes)
        (heap : Heap),
      (Registration.verifyRegistration E { rp with
          requireUserVerification := required, defaultAuthenticatorSelection := sel }
          clock challenge response userId).run heap =
        (Registration.verifyRegistration E rp clock challenge response userId).run heap := by
  refine ⟨?_, ?_⟩
  · intro allow opts hopts hrequired stored clock challenge response heap r h
    obtain ⟨-, huv⟩ := RelyingParty.authenticationOptions_eq_ok hopts
    exact userVerifiedIn_of_ok (huv.mp hrequired) h
  · intro user exclude opts hopts
    obtain ⟨-, hsel, -⟩ := RelyingParty.beginRegistration_eq_ok hopts
    refine ⟨hsel, fun required sel clock challenge response userId heap => ?_⟩
    rw [registration_congr]

section
open Recorded

/-- A relying party that demands user verification of assertions. -/
def verifyingRp : RelyingParty := rp.withRequireUserVerification true

lemma verifying_isOk : ((Authentication.verifyAuthentication twoAssertions.env verifyingRp
    credential clock firstChallenge firstResponse).run (Heap.new fun _ => ∅)).1.isOk = true := by
  decide +kernel

/-- The first login carries the flag that the options demand. -/
theorem first_userVerified : UserVerifiedIn firstResponse.authenticatorData := by
  obtain ⟨r, hr⟩ := Outcome.isOk_iff.mp verifying_isOk
  obtain ⟨henforced, -⟩ := userVerification_enforced twoAssertions.env verifyingRp
    (some createHash) ⟨0⟩
  exact henforced [] _ rfl rfl credential clock firstChallenge firstResponse _ r hr

/-- A relying party whose registration options demand user verification. -/
def demandingRp : RelyingParty :=
  rp.withDefaultAuthenticatorSelection ⟨none, none, false, .required⟩

/-- The authenticator data of a user who was present and not verified. -/
def unverifiedAuthData : Bytes :=
  (rpIdHash.toList ++ [0x41, 0, 0, 0, 0]) ++
    (AuthData.credentialHeader aaguid idLength credentialId ++ coseKey)

def unverifiedObject : Bytes :=
  beBytes 30 0xa363666d74646e6f6e656761747453746d74a06861757468446174615894 ++ unverifiedAuthData

def unverifiedResponse : AuthenticatorAttestationResponse := ⟨createJson, unverifiedObject⟩

def unverified : Record :=
  { registration aaguid with
    cbor := [(coseKey, .map coseKeyMap),
      (unverifiedObject, .map [(.text "fmt", .text "none"), (.text "attStmt", .map []),
        (.text "authData", .bytes unverifiedAuthData)])] }

lemma unverified_isOk : ((Registration.verifyRegistration unverified.env demandingRp clock
    createChallenge unverifiedResponse [0x75]).run (Heap.new fun _ => ∅)).1.isOk = true := by
  decide +kernel

lemma unverified_object : Registration.IsAttestationObject unverified.env unverifiedObject "none"
    unverifiedAuthData (.map []) := by
  rw [← Registration.parseAttestationObject_eq_ok]
  rfl

/-- The options demand user verification, and a registration without it is accepted. -/
theorem unverified_registers :
    (∃ opts sel, demandingRp.beginRegistration (some createHash) ⟨0⟩ ⟨[0x75], "u", "U"⟩ [] =
        .ok opts ∧ opts.authenticatorSelection = some sel ∧ sel.userVerification = .required) ∧
    ((Registration.verifyRegistration unverified.env demandingRp clock createChallenge
      unverifiedResponse [0x75]).run (Heap.new fun _ => ∅)).1.isOk = true ∧
    Registration.IsAttestationObject unverified.env unverifiedResponse.attestationObject "none"
      unverifiedAuthData (.map []) ∧
    ¬ UserVerifiedIn unverifiedAuthData :=
  ⟨⟨_, _, rfl, rfl, rfl⟩, unverified_isOk, unverified_object, by decide +kernel⟩

end

/-! ### Algorithms and keys -/

/-- The bytes a verifier takes for the key. -/
def keyBytes : PublicKey → Bytes
  | .es256 x y => uncompressed x y
  | .es384 x y => uncompressed x y
  | .edDsa pk => pk
  | .rs256 n e => Crypto.rsaDer n e

/-- The verifier for the key's algorithm. -/
def verifierOf (E : Env) : PublicKey → Bytes → Bytes → Bytes → Bool
  | .es256 _ _ => E.ecdsaP256Sha256Asn1
  | .es384 _ _ => E.ecdsaP384Sha384Asn1
  | .edDsa _ => E.ed25519
  | .rs256 _ _ => E.rsaPkcs1Sha256

/-- The sizes that the verifier for the key's algorithm expects. -/
def Shaped : PublicKey → Prop
  | .es256 x y => x.length = 32 ∧ y.length = 32 ∧ (uncompressed x y).length = 65
  | .es384 x y => x.length = 48 ∧ y.length = 48 ∧ (uncompressed x y).length = 97
  | .edDsa pk => pk.length = 32
  | .rs256 n e => Crypto.rsaComponentsToDer n e = .ok (Crypto.rsaDer n e)

section
variable {E : Env} {pk : PublicKey}

lemma uncompressed_length (x y : Bytes) : (uncompressed x y).length = x.length + y.length + 1 := by
  simp [uncompressed]

lemma shaped_typedKey {k : AuthData.CoseKey} (h : k.Valid) :
    Shaped (Registration.typedKey k) := by
  have hne : COSE_ES384 ≠ COSE_ES256 := by decide
  cases k with
  | ec2 alg crv x y =>
    have hlen := uncompressed_length x y
    rcases h with ⟨rfl, -, hx, hy⟩ | ⟨rfl, -, hx, hy⟩
    · rw [Registration.typedKey, if_pos rfl]
      exact ⟨hx, hy, by omega⟩
    · rw [Registration.typedKey, if_neg hne]
      exact ⟨hx, hy, by omega⟩
  | okp alg x => exact h.2
  | rsa alg n e =>
    obtain ⟨-, hn, he⟩ := h
    have hpos : 0 < n.length := lt_of_lt_of_le (by decide) hn
    exact Crypto.rsaComponentsToDer_eq_ok.mpr ⟨List.length_pos_iff.mp hpos, he, rfl⟩

/-- **The signature under a key of the right shape is examined**: the check is the verifier's
answer, and no error about the key comes before it. -/
lemma verifySignature_eq (h : Shaped pk) (m s : Bytes) :
    Authentication.verifySignature E pk m s =
      Crypto.verifyWith (verifierOf E pk) (keyBytes pk) m s := by
  cases pk with
  | es256 x y => rfl
  | es384 x y => rfl
  | edDsa pk => rfl
  | rs256 n e =>
    rw [Authentication.verifySignature, show Crypto.rsaComponentsToDer n e = _ from h,
      Outcome.ok_bind]
    rfl

end

/-- An error about a key can only come from the bytes of the response. -/
def KeyErrorFrom (E : Env) (data : Bytes) (e : WebAuthnError) : Prop :=
  ∀ msg, e = .invalidPublicKey msg → AuthData.parseAuthenticatorData E data = .err e

section
variable {E : Env} {rp : RelyingParty} {stored : Credential} {clock : Clock}
  {challenge : Challenge} {heap : Heap} {response : AuthenticatorAssertionResponse} {data : Bytes}

lemma throws_checkClientData :
    (Authentication.checkClientData E rp clock challenge response).Throws
      (KeyErrorFrom E data) := by
  simp [Authentication.checkClientData, ClientData.parseClientData,
    ClientData.validateClientData, KeyErrorFrom]

lemma throws_useChallenge {used : Option Arc} {bytes : Bytes} :
    ((useChallenge used bytes).run heap).1.Throws (KeyErrorFrom E data) := by
  rcases used with _ | a
  · simp [useChallenge]
  · by_cases hp : (heap a).poisoned <;> by_cases hc : bytes ∈ (heap a).set <;>
      simp [useChallenge, Stateful.run, hp, hc, KeyErrorFrom]

lemma throws_verifyAssertion (h : Shaped stored.publicKey) (p : ClientData.ParsedClientData) :
    (Authentication.verifyAssertion E rp stored response p).Throws
      (KeyErrorFrom E response.authenticatorData) := by
  rw [Authentication.verifyAssertion, Crypto.sha256_eq, Outcome.ok_bind]
  refine .bind (fun e he msg _ => he) fun ad _ => ?_
  refine .bind (by simp [Authentication.checkAuthData, KeyErrorFrom]) fun _ _ => ?_
  refine .bind ?_ fun _ _ => ?_
  · rw [verifySignature_eq h]
    simp [Crypto.verifyWith, KeyErrorFrom]
  · simp [Authentication.checkSignCount, KeyErrorFrom]

lemma throws_verifyAuthentication (h : Shaped stored.publicKey) :
    ((Authentication.verifyAuthentication E rp stored clock challenge response).run
      heap).1.Throws (KeyErrorFrom E response.authenticatorData) := by
  refine Stateful.throws_run_bind throws_checkClientData fun p _ => ?_
  refine Stateful.throws_run_bind throws_useChallenge fun _ _ => ?_
  exact throws_verifyAssertion h p

end

lemma algorithm_mem_offered {rp : RelyingParty} {random : Option (ArrayN UInt8 32)}
    {now : SystemTime} {user : UserEntity} {exclude : List Bytes} {opts : RegistrationOptions}
    (hopts : rp.beginRegistration random now user exclude = .ok opts) {pk : PublicKey}
    (h : rp.allowedAlgorithms = [] ∨ pk.algorithm ∈ rp.allowedAlgorithms) :
    pk.algorithm ∈ opts.pubKeyCredParams := by
  obtain ⟨-, -, hparams⟩ := RelyingParty.beginRegistration_eq_ok hopts
  rw [hparams]
  by_cases hnil : rp.allowedAlgorithms = []
  · rw [if_pos hnil]
    cases pk <;> simp [PublicKey.algorithm]
  · rw [if_neg hnil]
    exact h.resolve_left hnil

/-- **Offer, registration and authentication agree on keys.** A key that registers has an
offered algorithm and the shape that the algorithm's verifier takes, so every later signature
under it is examined, and no login fails because of the stored key. -/
theorem registered_key_usable (E : Env) (rp : RelyingParty) (random : Option (ArrayN UInt8 32))
    (now : SystemTime) (user : UserEntity) (exclude : List Bytes) (opts : RegistrationOptions)
    (hopts : rp.beginRegistration random now user exclude = .ok opts) (clock : Clock)
    (challenge : Challenge) (response : AuthenticatorAttestationResponse) (userId : Bytes)
    (heap : Heap) (r : RegistrationResult)
    (h : ((Registration.verifyRegistration E rp clock challenge response userId).run
      heap).1 = .ok r) :
    r.credential.publicKey.algorithm ∈ opts.pubKeyCredParams ∧
    Shaped r.credential.publicKey ∧
    (∀ m s, Authentication.verifySignature E r.credential.publicKey m s =
      Crypto.verifyWith (verifierOf E r.credential.publicKey) (keyBytes r.credential.publicKey)
        m s) ∧
    ∀ (l : SignCount.Login) (stored : Credential) (later : Heap) (e : WebAuthnError),
      stored.publicKey = r.credential.publicKey → ((l.verify E stored).run later).1 = .err e →
        KeyErrorFrom E l.response.authenticatorData e := by
  obtain ⟨v, hv, rfl⟩ := Registration.accepts_of_ok h
  have hvalid := AuthData.parseAuthenticatorData_valid hv.parses hv.attested
  have hshape : Shaped (Registration.typedKey v.credData.publicKey) := shaped_typedKey hvalid
  refine ⟨algorithm_mem_offered hopts hv.algorithm, hshape, verifySignature_eq hshape, ?_⟩
  intro l stored later e hkey he
  exact throws_verifyAuthentication (hkey ▸ hshape) e he

/-- The recorded registration stores a key that was offered. -/
theorem recorded_key_usable : ∃ r : RegistrationResult,
    ((Registration.verifyRegistration (Recorded.registration Recorded.aaguid).env Recorded.rp
      Recorded.clock Recorded.createChallenge (Recorded.createResponse Recorded.aaguid)
      [0x75]).run (Heap.new fun _ => ∅)).1 = .ok r ∧
    r.credential.publicKey.algorithm ∈ [COSE_ES256, COSE_ES384, COSE_EDDSA, COSE_RS256] ∧
    Shaped r.credential.publicKey := by
  obtain ⟨r, hr⟩ := Outcome.isOk_iff.mp Identity.registration_isOk
  obtain ⟨hoffered, hshape, -⟩ := registered_key_usable
    (Recorded.registration Recorded.aaguid).env Recorded.rp (some Recorded.createHash) ⟨0⟩
    ⟨[0x75], "u", "U"⟩ [] _ rfl Recorded.clock Recorded.createChallenge
    (Recorded.createResponse Recorded.aaguid) [0x75] (Heap.new fun _ => ∅) r hr
  exact ⟨r, hr, hoffered, hshape⟩

end Caden.Offer
