import Caden.HonestRun

/-!
The walk of the demo: for a key of each algorithm a registration, a login and a second login with
the same count, and in the end a login in which the client names the credential.

Where the system provides random bytes, keys and signatures, the walk reaches its end: no call of
the library is rejected but the second logins, and no assertion of the demo fails.
-/

namespace Caden.Demo

/-! ### What the system provides -/

def RP_ID : String := "localhost"
def ORIGIN : String := "http://localhost"
def USER_ID : Bytes := Text.asBytes "demo-user-001"

@[irreducible] def RSA_PKCS8_DER : Bytes :=
  beBytes 32 0x308204bc020100300d06092a864886f70d0101010500048204a6308204a20201 ++
  beBytes 32 0x000282010100b7e00fc9dbface64a6e2b7fba21c0914fbd626e517ccf66bf58e ++
  beBytes 32 0xbb690750c0bb4ce76ed8a46a6929fcc9520cdb04eca2ef277d8ffa9daa105954 ++
  beBytes 32 0x7b4278dbaed4240ad40669b0e2a568ca2d4134b064af6113c932fc93564f827b ++
  beBytes 32 0xeaff20e51c56b6e0f4aa6a20d21c4671e6059a9699ad5a6f78fda706f8fd2dea ++
  beBytes 32 0x91f29eacc043452d79b0f2245a8c91e6c6c2fe508d648206776eef7d616e80d1 ++
  beBytes 32 0x87fb2535c6e83aec38ce4570f856c76eb720db725182d0d2d2bdc9e03cefbb93 ++
  beBytes 32 0x70ddfbd4da6ef673b379f7e84972224492d8e43e04bc83b26c594a79111e33d6 ++
  beBytes 32 0x4be6247bdf93181db3270b73bbffa8e213a08f392c21c15ef1a882252819aec9 ++
  beBytes 32 0x3f092d8c81a50203010001028201001b31d58bf48fbbca499f62f821b1f54ae7 ++
  beBytes 32 0xf33495f1e6f3b424617b88cd56ed665639ad5c77b6b03e903f4336190779ab20 ++
  beBytes 32 0x654e0e07121df6a48b98de4c2b2b887f1b25e01bee181b402c14b4dde2cfc55b ++
  beBytes 32 0x7d7666a6d1f0b43a37731a50266a824db2682533248f06b5097fec68c068d2a9 ++
  beBytes 32 0x7b2ea10f3cba0311f12d2c3db90d8734846265e4e3320dbd90ad2c577439d825 ++
  beBytes 32 0x42463cc90b26c99975c26e568241fbebd9803d6e0e8b0ba3af6c1d3979f8a5ae ++
  beBytes 32 0x6c9edf1bd37a1635f4146d1e4d7b6fbbfbe92c9eadf90a53292ad8ff9db3ac9e ++
  beBytes 32 0x2d8677674ca874e3b294f8fbe833f23c5d57798987d09b524bc9bc4868be851f ++
  beBytes 32 0x2561447ea6405470af65113a58d18102818100fd9e1a5085d7a89c366a8f1c9f ++
  beBytes 32 0x2d6ddfb4e6c4d2cf996f5dc57101e61d5fd56d52867cb6c2c21bcd4ad10c7915 ++
  beBytes 32 0x2d4e93e2c07de6a4c47141a349932cf9e7c8e6795219f7e02ad9c00f3eaddff4 ++
  beBytes 32 0x96bdb9545a5ae8702dadf05d6380b48f3c1badd92b631680e1528dd78e2c3799 ++
  beBytes 32 0x6e1e8e64cf0e7932dd1ac1437e4c0cab295b2502818100b99a3e3e2074e51982 ++
  beBytes 32 0x8b1d202be5a98c71d5a8e6ed7e0a918f87f580c8d41d4e250bfe22b6ddc3fd46 ++
  beBytes 32 0x787f6c279dfebfea6627572ec27cca631ac8b8da2ff303fc03cbf40c8a002f5d ++
  beBytes 32 0x787aff9e84c50bd6aef6f8c76f5f778c4fe64f5867bfde8e39a5d8825940f8d4 ++
  beBytes 32 0x46be5baa2b74f42972fd2ba0a2b41a3d4d2ffe615504810281805892a6ce0870 ++
  beBytes 32 0x50ca7d96a9746d83082460a1578be844c5c811f46d9d5814e80cce0d79f0ba03 ++
  beBytes 32 0xe081c9e7485be1317987dc612d97276413c9c0a5296943bdd743e68aedd6cbcb ++
  beBytes 32 0x2b511001ebe7931c32164f875ec85ea5156224bb636fabb66a5444cc0a4709ab ++
  beBytes 32 0xa79131fecd227dcb1f90cb5424d1df19a90665f3edcb5edb8aa10281800b5345 ++
  beBytes 32 0x1f075dfaa8ced56c468d472b4c5d99daff94584f8ec8425491b22f7746506e65 ++
  beBytes 32 0xe87a5e17da79955ab91fc5bd48baa5d71ab3c8bc52a12f7e36016251a2d99ae5 ++
  beBytes 32 0xb4139bcc1d17c8054159cbe23631b8656b92c7d1fc7a7c59a257d3a4da90b525 ++
  beBytes 32 0xd08b4ba4f24a09b30de6d955fe9c14df2bed566045059e932223904b81028180 ++
  beBytes 32 0x714907ff86c5f7e4bda8bca4be1f8e73b0ea718561b18d30e3ac67fc2c5a36cc ++
  beBytes 32 0x66e72f32975497e9d65dd9e5bb1a0615952d8eca278e2e39ab452d942693d07b ++
  beBytes 32 0xda6202bae6d987adf72a331d5ad9a8f3380e0fd12425692a2c99f7ea0d3b518b ++
  beBytes 32 0x2a72b051d307639e9d15e6a8f5ce697453d3b12677fa0e8fdd1f0e76515685b7

/-- The error the demo ends in. -/
inductive Stop where
  | message (text : String)
  | context (text : String) (e : WebAuthnError)
  | webauthn (e : WebAuthnError)

/-- A key pair of the key's package, where signing gives a `σ`. -/
structure KeyPair (σ : Type) where
  publicKey : Bytes
  sign : Bytes → σ

/-- The generation of a key pair and its loading. -/
structure KeySource (σ : Type) where
  generatePkcs8 : Except String Bytes
  fromPkcs8 : Bytes → Except String (KeyPair σ)

/-- The random bytes and the time that a challenge takes. -/
structure Draw where
  random : Option (ArrayN UInt8 32)
  now : SystemTime

/-- What the walk with one key takes from the system besides the key. -/
structure Supply where
  credId : Except String (ArrayN UInt8 16)
  create : Draw
  created : Clock
  get : Draw
  got : Clock
  replay : Draw
  replayed : Clock

/-- What the demo takes from the system. The RSA key is not generated, but loaded alone. -/
structure System where
  es256Key : KeySource (Except String Bytes)
  es256 : Supply
  rsaFromPkcs8 : Bytes → Except String (KeyPair (Except String Bytes))
  rs256 : Supply
  es384Key : KeySource (Except String Bytes)
  es384 : Supply
  eddsaKey : KeySource Bytes
  eddsa : Supply
  passkey : Draw
  passkeyUsed : Clock

/-! ### The program -/

/-- `x.context(text)`. -/
def withContext {α : Type} (text : String) (x : Stateful Heap WebAuthnError α) :
    Stateful Heap Stop α :=
  fun heap => ((x.run heap).1.mapErr (.context text), (x.run heap).2)

def KeySource.load {σ : Type} (k : KeySource σ) (pkcs8 pair : String) :
    Outcome Stop (KeyPair σ) := do
  let bytes ← .ofExcept k.generatePkcs8 fun e => .message s!"failed to generate {pkcs8}: {e}"
  .ofExcept (k.fromPkcs8 bytes) fun e => .message s!"failed to load {pair}: {e}"

def Draw.challenge (d : Draw) (name : String) : Outcome Stop Challenge :=
  (Challenge.new d.random d.now).mapErr (.context s!"failed to generate {name}")

def demoRp : RelyingParty := .new RP_ID ORIGIN "Caden Demo"

section
variable (E : Env) (W : Writers)

/-- A login whose count was used before has to be rejected for its count. -/
def replayRejected (x : Stateful Heap WebAuthnError AuthenticationResult) :
    Stateful Heap Stop Unit := fun heap =>
  match x.run heap with
  | (.err (.signCountInvalid _ _), heap') => (.ok (), heap')
  | (.ok _, heap') => (.panic, heap')
  | (.err e, heap') => (.err (.webauthn e), heap')
  | (.panic, heap') => (.panic, heap')

/-- The steps with one key, from the id of the credential on. `respond` answers a challenge with
a count. The id and the stored credential are kept. -/
def walk (algorithm credIdName challengeName : String) (coseKey : Outcome Stop Bytes)
    (respond : Bytes → UInt32 → Bytes → Outcome String AuthenticatorAssertionResponse)
    (s : Supply) : Stateful Heap Stop (Bytes × Credential) := do
  let credId ← Outcome.ofExcept s.credId fun e =>
    Stop.message s!"failed to generate {credIdName}: {e}"
  let challenge ← s.create.challenge challengeName
  let coseKey ← coseKey
  let response : AuthenticatorAttestationResponse := {
    clientDataJson := makeClientDataJsonBytes W "webauthn.create" challenge.bytes ORIGIN
    attestationObject := makeAttestationObject W
      (makeAuthenticatorData E RP_ID 0x41 0 (some (credId.toList, coseKey))) }
  let result ← withContext s!"{algorithm} registration verification failed"
    (Registration.verifyRegistration E demoRp s.created challenge response USER_ID)
  let stored := result.credential
  let challenge ← s.get.challenge "challenge"
  let response ← (respond challenge.bytes 1 credId.toList).mapErr Stop.message
  let result ← withContext s!"{algorithm} authentication failed"
    (Authentication.verifyAuthentication E demoRp stored s.got challenge response)
  let stored := { stored with signCount := result.newSignCount }
  let challenge ← s.replay.challenge "challenge"
  let response ← (respond challenge.bytes 1 credId.toList).mapErr Stop.message
  replayRejected
    (Authentication.verifyAuthentication E demoRp stored s.replayed challenge response)
  return (credId.toList, stored)

/-- The client names the credential, and the server looks it up. -/
def passkeyLogin (sign : Bytes → Except String Bytes) (credId : Bytes) (storedEs256 : Credential)
    (s : System) : Stateful Heap Stop Unit := do
  let challenge ← s.passkey.challenge "passkey challenge"
  let response ← (makeEs256AuthResponse E W sign challenge.bytes RP_ID ORIGIN 2 credId).mapErr
    Stop.message
  let (returnedCredId, _) ← (demoRp.beginAuthentication response).mapErr
    (Stop.context "begin_authentication failed")
  Outcome.rejectIf (returnedCredId ≠ storedEs256.id) <| Stop.message
    "BUG: returned credential ID does not match stored ES256 credential"
  let _ ← withContext "passkey verify_authentication failed" <|
    Authentication.verifyAuthentication E demoRp storedEs256 s.passkeyUsed challenge response
  return ()

def main (s : System) : Stateful Heap Stop Unit := do
  let es256Pair ← s.es256Key.load "PKCS8 keypair" "key pair"
  let (credId, storedEs256) ← walk E W "ES256" "credential ID" "challenge"
    (encodeEs256CoseKey W es256Pair.publicKey)
    (fun challenge => makeEs256AuthResponse E W es256Pair.sign challenge RP_ID ORIGIN) s.es256
  let rsaPair ← Outcome.ofExcept (s.rsaFromPkcs8 RSA_PKCS8_DER) fun e =>
    Stop.message s!"failed to load RSA key: {e}"
  let (n, e) ← (extractRsaComponents rsaPair.publicKey : Outcome Stop _)
  let _ ← walk E W "RS256" "RSA credential ID" "RSA challenge"
    (return encodeRs256CoseKey W n e)
    (fun challenge => makeRs256AuthResponse E W rsaPair.sign challenge RP_ID ORIGIN) s.rs256
  let es384Pair ← s.es384Key.load "P-384 PKCS8 keypair" "P-384 key pair"
  let _ ← walk E W "ES384" "ES384 credential ID" "ES384 challenge"
    (encodeEs384CoseKey W es384Pair.publicKey)
    (fun challenge => makeEs384AuthResponse E W es384Pair.sign challenge RP_ID ORIGIN) s.es384
  let eddsaPair ← s.eddsaKey.load "Ed25519 PKCS8 keypair" "Ed25519 key pair"
  let _ ← walk E W "EdDSA" "EdDSA credential ID" "EdDSA challenge"
    (encodeEddsaCoseKey W eddsaPair.publicKey)
    (fun challenge => makeEddsaAuthResponse E W eddsaPair.sign challenge RP_ID ORIGIN) s.eddsa
  passkeyLogin E W es256Pair.sign credId storedEs256 s

/-! ### A system that works -/

/-- What is signed in a login. -/
def loginMessage (challenge : Bytes) (count : UInt32) : Bytes :=
  makeAuthenticatorData E RP_ID 0x01 count none ++
    (Crypto.sha256Of E (makeClientDataJsonBytes W "webauthn.get" challenge ORIGIN)).toList

/-- A login with this challenge and count is decoded and signed as the key demands. -/
structure Signs (key : PublicKey) (sign : Bytes → Except String Bytes) (challenge : Bytes)
    (count : UInt32) : Prop where
  reads : ReadsClientData E W "webauthn.get" challenge ORIGIN
  signs : ∃ sig, sign (loginMessage E W challenge count) = .ok sig ∧
    key.Verifies E (loginMessage E W challenge count) sig

/-- The bytes that were drawn. -/
def Draw.bytes (d : Draw) : Bytes := (d.random.map (·.toList)).getD []

/-- Bytes are drawn, and the challenge is still valid when it is used. -/
structure Draw.Works (d : Draw) (used : Clock) : Prop where
  drawn : d.random.isSome
  unexpired : Challenge.Unexpired ⟨d.bytes, d.now⟩ (used 0)

def Supply.id (s : Supply) : Bytes :=
  match s.credId with
  | .ok id => id.toList
  | .error _ => []

/-- The system provides what the walk with this key takes. -/
structure Supply.Works (key : PublicKey) (sign : Bytes → Except String Bytes) (s : Supply) :
    Prop where
  enrollable : Enrollable key
  credId : ∃ id, s.credId = .ok id
  create : s.create.Works s.created
  get : s.get.Works s.got
  replay : s.replay.Works s.replayed
  registration : ReadsRegistration E W RP_ID key s.id 0 s.create.bytes ORIGIN
  login : Signs E W key sign s.get.bytes 1
  again : Signs E W key sign s.replay.bytes 1

end

/-- The pair is generated and loaded. -/
def KeySource.Gives {σ : Type} (k : KeySource σ) (pair : KeyPair σ) : Prop :=
  ∃ bytes, k.generatePkcs8 = .ok bytes ∧ k.fromPkcs8 bytes = .ok pair

/-- The distinguished encoding of an RSA key with a modulus without leading zeros and a short
exponent, which is the contents of its integer. -/
structure IsRsaKey (d n e : Bytes) : Prop where
  encoded : ∃ bn be, Der.IsDistinguished 0x02 (Der.unsigned n) bn ∧
    Der.IsDistinguished 0x02 e be ∧ Der.IsDistinguished 0x30 (bn ++ be) d
  modulus : n.head? ≠ some 0
  exponent : e.length < 0x80
  size : d.length < 2 ^ 16

/-- The system provides all that the demo takes. -/
structure System.Works (E : Env) (W : Writers) (s : System) : Prop where
  es256 : ∃ pair x y, s.es256Key.Gives pair ∧ pair.publicKey = uncompressed x y ∧
    s.es256.Works E W (.es256 x y) pair.sign ∧
    Signs E W (.es256 x y) pair.sign s.passkey.bytes 2
  rs256 : ∃ pair n e, s.rsaFromPkcs8 RSA_PKCS8_DER = .ok pair ∧ IsRsaKey pair.publicKey n e ∧
    s.rs256.Works E W (.rs256 n e) pair.sign
  es384 : ∃ pair x y, s.es384Key.Gives pair ∧ pair.publicKey = uncompressed x y ∧
    s.es384.Works E W (.es384 x y) pair.sign
  eddsa : ∃ pair, s.eddsaKey.Gives pair ∧
    s.eddsa.Works E W (.edDsa pair.publicKey) fun m => .ok (pair.sign m)
  passkey : s.passkey.Works s.passkeyUsed

/-! ### The steps of the walk -/

section
variable {E : Env} {W : Writers} {key : PublicKey} {sign : Bytes → Except String Bytes}
  {challenge : Bytes} {count : UInt32} {d : Draw} {clock : Clock} {heap : Heap}
  {stored : Credential} {credId : Bytes} {what : String}

lemma Draw.Works.challenge_eq (h : d.Works clock) (name : String) :
    d.challenge name = .ok ⟨d.bytes, d.now⟩ := by
  obtain ⟨bytes, hbytes⟩ := Option.isSome_iff_exists.mp h.drawn
  rw [Draw.challenge, Draw.bytes, hbytes]
  rfl

lemma KeySource.Gives.load_eq {σ : Type} {k : KeySource σ} {pair : KeyPair σ} (h : k.Gives pair)
    (pkcs8 name : String) : k.load pkcs8 name = .ok pair := by
  obtain ⟨bytes, hgenerate, hload⟩ := h
  rw [KeySource.load, hgenerate, Outcome.ofExcept, Outcome.ok_bind, hload]
  rfl

lemma admits_demo : Admits demoRp ORIGIN key :=
  ⟨List.mem_singleton_self _, rfl, by simp [Registration.Trusted, demoRp, RelyingParty.new,
    RelyingParty.withOrigins], Or.inl rfl⟩

lemma unused_demo {bytes : Bytes} : Unused demoRp.usedChallenges bytes heap := by
  simp [Unused, demoRp, RelyingParty.new, RelyingParty.withOrigins]

/-- The response to a challenge. -/
def loginResponse (E : Env) (W : Writers) (challenge : Bytes) (count : UInt32)
    (credId sig : Bytes) : AuthenticatorAssertionResponse where
  clientDataJson := makeClientDataJsonBytes W "webauthn.get" challenge ORIGIN
  authenticatorData := makeAuthenticatorData E RP_ID 0x01 count none
  signature := sig
  userHandle := none
  credentialId := credId

lemma makeAuthResponse_eq {sig : Bytes} (h : sign (loginMessage E W challenge count) = .ok sig) :
    makeAuthResponse E W what sign challenge RP_ID ORIGIN count credId =
      .ok (loginResponse E W challenge count credId sig) := by
  unfold loginMessage at h
  rw [makeAuthResponse, h]
  rfl

lemma login_decided (what : String) (credId : Bytes) (stored : Credential) (hs : heap.Sound)
    (hkey : stored.publicKey = key) (hid : stored.rpId = RP_ID)
    (hbackup : stored.backupEligible = false) (hdraw : d.Works clock)
    (h : Signs E W key sign d.bytes count) : ∃ response heap',
    makeAuthResponse E W what sign d.bytes RP_ID ORIGIN count credId = .ok response ∧
    response.credentialId = credId ∧ heap'.Sound ∧
    (Authentication.verifyAuthentication E demoRp stored clock ⟨d.bytes, d.now⟩ response).run
      heap = (decision stored count, heap') := by
  obtain ⟨sig, hsig, hverifies⟩ := h.signs
  set response := loginResponse E W d.bytes count credId sig with hresponse
  have hhonest : Attempt.Honest E W demoRp key credId ORIGIN
      ⟨clock, ⟨d.bytes, d.now⟩, count, response⟩ := by
    refine ⟨hdraw.unexpired, ⟨what, fun m => if m = loginMessage E W d.bytes count then .ok sig
      else .error "", makeAuthResponse_eq (if_pos rfl), fun m s hm => ?_⟩, h.reads⟩
    dsimp only at hm
    split at hm
    · rename_i heq
      cases hm
      rwa [heq]
    · cases hm
  have hresult := result_written hs admits_demo rfl hkey hid hbackup unused_demo hhonest
  exact ⟨response, _, makeAuthResponse_eq hsig, rfl, Ceremony.sound_authenticate hs,
    Prod.ext hresult rfl⟩

/-- The response to a registration. -/
def createResponse (E : Env) (W : Writers) (key : PublicKey) (challenge credId : Bytes) :
    AuthenticatorAttestationResponse where
  clientDataJson := makeClientDataJsonBytes W "webauthn.create" challenge ORIGIN
  attestationObject := makeAttestationObject W (createData E W RP_ID key credId 0)

/-- What is stored after a registration. -/
def firstStored (key : PublicKey) (credId : Bytes) (createdAt : SystemTime) : Credential :=
  registeredCredential demoRp key credId 0 USER_ID createdAt

lemma registration_accepted (hs : heap.Sound)
    (hid : 1 ≤ credId.length ∧ credId.length ≤ 1023) (hkey : Enrollable key)
    (hdraw : d.Works clock)
    (hread : ReadsRegistration E W RP_ID key credId 0 d.bytes ORIGIN) : ∃ heap', heap'.Sound ∧
    (Registration.verifyRegistration E demoRp clock ⟨d.bytes, d.now⟩
      (createResponse E W key d.bytes credId) USER_ID).run heap =
      (.ok ⟨firstStored key credId (clock 1), .none, false, false, none⟩, heap') := by
  have hresponse : (register E W demoRp.id key credId 0 (Challenge.mk d.bytes d.now).bytes ORIGIN :
      Res _) = .ok (createResponse E W key d.bytes credId) := by
    rw [register, encodeKey_eq hkey]
    rfl
  have hok : ((Registration.verifyRegistration E demoRp clock ⟨d.bytes, d.now⟩
      (createResponse E W key d.bytes credId) USER_ID).run heap).1 =
        .ok ⟨firstStored key credId (clock 1), .none, false, false, none⟩ :=
    (registration_written hs hid hkey hresponse hread).mpr
      ⟨hdraw.unexpired, unused_demo, admits_demo, rfl⟩
  exact ⟨_, Ceremony.sound_register hs, Prod.ext hok rfl⟩

lemma run_withContext {α : Type} {x : Stateful Heap WebAuthnError α} {a : α} {heap' : Heap}
    (text : String) (h : x.run heap = (.ok a, heap')) :
    (withContext text x).run heap = (.ok a, heap') := by
  have hrun : (withContext text x).run heap =
    ((x.run heap).1.mapErr (.context text), (x.run heap).2) := rfl
  rw [hrun, h]
  rfl

lemma run_replayRejected {x : Stateful Heap WebAuthnError AuthenticationResult} {heap' : Heap}
    {stored received : UInt32}
    (h : x.run heap = (.err (.signCountInvalid stored received), heap')) :
    (replayRejected x).run heap = (.ok (), heap') := by
  unfold Stateful.run at h ⊢
  rw [replayRejected, Stateful.run, h]

lemma Supply.Works.length_id {s : Supply} (h : s.Works E W key sign) : s.id.length = 16 := by
  obtain ⟨id, hid⟩ := h.credId
  rw [Supply.id, hid, List.Vector.toList_length]

/-- **The walk with a key reaches its end**, with the count 1 stored. -/
lemma walk_run {coseKey : Outcome Stop Bytes} {s : Supply}
    {respond : Bytes → UInt32 → Bytes → Outcome String AuthenticatorAssertionResponse}
    (algorithm credIdName challengeName : String) (hs : heap.Sound) (h : s.Works E W key sign)
    (hcose : coseKey = .ok (W.cborIntoWriter (.map (coseEntries key))))
    (hrespond : ∀ challenge count credId, respond challenge count credId =
      makeAuthResponse E W what sign challenge RP_ID ORIGIN count credId) :
    ∃ heap', heap'.Sound ∧
      (walk E W algorithm credIdName challengeName coseKey respond s).run heap =
        (.ok (s.id, { firstStored key s.id (s.created 1) with signCount := 1 }), heap') := by
  obtain ⟨id, hid⟩ := h.credId
  have hbytes : s.id = id.toList := by rw [Supply.id, hid]
  have hlength := h.length_id
  obtain ⟨heap₁, hs₁, hregister⟩ := registration_accepted hs (by omega) h.enrollable h.create
    h.registration
  obtain ⟨response, heap₂, hresponse, -, hs₂, hlogin⟩ := login_decided what s.id
    (firstStored key s.id (s.created 1)) hs₁ rfl rfl rfl h.get h.login
  obtain ⟨again, heap₃, hagain, -, hs₃, hreplay⟩ := login_decided what s.id
    { firstStored key s.id (s.created 1) with signCount := 1 } hs₂ rfl rfl rfl h.replay h.again
  refine ⟨heap₃, hs₃, ?_⟩
  have hahead : decision (firstStored key s.id (s.created 1)) 1 =
    .ok ⟨s.id, 1, true, false, false, false, none⟩ := 
      if_pos (show Authentication.Counts 0 1 by decide)
  have hbehind : decision { firstStored key s.id (s.created 1) with signCount := 1 } 1 =
    .err (.signCountInvalid 1 1) := if_neg (show ¬ Authentication.Counts 1 1 by decide)
  rw [hahead] at hlogin
  rw [hbehind] at hreplay
  simp only [walk, hid, Outcome.ofExcept, Stateful.liftM_ok_bind, h.create.challenge_eq,
    h.get.challenge_eq, h.replay.challenge_eq, hcose, hrespond, ← hbytes]
  refine (Stateful.run_bind_of_run (run_withContext _ hregister)).trans ?_
  simp only [hresponse, Outcome.mapErr, Stateful.liftM_ok_bind]
  refine (Stateful.run_bind_of_run (run_withContext _ hlogin)).trans ?_
  simp only [hagain, Stateful.liftM_ok_bind]
  exact (Stateful.run_bind_of_run (run_replayRejected hreplay)).trans rfl

lemma passkeyLogin_run {s : System} (hs : heap.Sound) (hid : credId ≠ [])
    (hstored : stored.id = credId) (hkey : stored.publicKey = key) (hrpId : stored.rpId = RP_ID)
    (hbackup : stored.backupEligible = false) (hcount : stored.signCount = 1)
    (hdraw : s.passkey.Works s.passkeyUsed) (h : Signs E W key sign s.passkey.bytes 2) :
    ((passkeyLogin E W sign credId stored s).run heap).1 = .ok () := by
  obtain ⟨response, heap', hresponse, hcredId, -, hlogin⟩ := login_decided "ECDSA" credId stored hs
    hkey hrpId hbackup hdraw h
  have hahead : decision stored 2 = .ok ⟨credId, 2, true, false, false, false, none⟩ := by
    rw [decision, hcount, hstored]
    exact if_pos (by decide)
  rw [hahead] at hlogin
  have hresponse' : makeEs256AuthResponse E W sign s.passkey.bytes RP_ID ORIGIN 2 credId =
    .ok response := hresponse
  have hbegin : demoRp.beginAuthentication response = .ok (credId, response.userHandle) :=
    RelyingParty.beginAuthentication_eq_ok.mpr ⟨hcredId ▸ hid, hcredId, rfl⟩
  have hfound : (Outcome.rejectIf (credId ≠ stored.id) (Stop.message
      "BUG: returned credential ID does not match stored ES256 credential") :
        Outcome Stop PUnit) = .ok ⟨⟩ :=
    Outcome.rejectIf_eq_ok.mpr (not_not.mpr hstored.symm)
  simp only [passkeyLogin, hdraw.challenge_eq, hresponse', Outcome.mapErr, hbegin,
    Stateful.liftM_ok_bind]
  rw [hfound, Stateful.liftM_ok_bind, Stateful.run_bind_of_run (run_withContext _ hlogin)]
  rfl

lemma IsRsaKey.extract_eq {ε : Type} {der n e : Bytes} (h : IsRsaKey der n e) (hn : n ≠ []) :
    (extractRsaComponents der : Outcome ε (Bytes × Bytes)) = .ok (n, e) := by
  obtain ⟨bn, be, hbn, hbe, hder⟩ := h.encoded
  obtain ⟨x, t, rfl⟩ := List.exists_cons_of_ne_nil hn
  have hx : x ≠ 0 := fun hx => h.modulus (congrArg some hx)
  have hdrop : dropZero (Der.unsigned (x :: t)) = x :: t := by
    rw [Der.unsigned_cons]
    split
    · rfl
    · simp [dropZero, hx]
  have hcontents : Der.unsigned (x :: t) ≠ [] := by
    rw [Der.unsigned_cons]
    split <;> simp
  rw [extractRsaComponents_of_isDistinguished hbn hbe hder hcontents h.exponent h.size, hdrop]

end

/-- **The demo runs to its end.** Where the system provides random bytes, key pairs whose
signatures verify, and a clock on which no challenge expires, and what is encoded is decoded again,
every registration and every first login of the demo is accepted, every replay of a count is
rejected for its count, the credential that the client names is found, and no assertion fails. -/
theorem main_completes (E : Env) (W : Writers) (s : System) (h : s.Works E W)
    (sets : Arc → Finset Bytes) : ((main E W s).run (Heap.new sets)).1 = .ok () := by
  obtain ⟨es256Pair, x, y, hes256Key, hpoint, hes256, hpasskey⟩ := h.es256
  obtain ⟨rsaPair, n, e, hrsaKey, hrsa, hrs256⟩ := h.rs256
  obtain ⟨es384Pair, x', y', hes384Key, hpoint', hes384⟩ := h.es384
  obtain ⟨eddsaPair, heddsaKey, heddsa⟩ := h.eddsa
  have hn : n ≠ [] := by
    rintro rfl
    exact absurd hrs256.enrollable.1 (by decide)
  have hcose₁ : (encodeEs256CoseKey W es256Pair.publicKey : Outcome Stop Bytes) =
      .ok (W.cborIntoWriter (.map (coseEntries (.es256 x y)))) := by
    rw [hpoint]
    exact encodeKey_eq hes256.enrollable
  have hcose₂ : (return encodeRs256CoseKey W n e : Outcome Stop Bytes) =
      .ok (W.cborIntoWriter (.map (coseEntries (.rs256 n e)))) :=
    encodeKey_eq hrs256.enrollable
  have hcose₃ : (encodeEs384CoseKey W es384Pair.publicKey : Outcome Stop Bytes) =
      .ok (W.cborIntoWriter (.map (coseEntries (.es384 x' y')))) := by
    rw [hpoint']
    exact encodeKey_eq hes384.enrollable
  have hcose₄ : (encodeEddsaCoseKey W eddsaPair.publicKey : Outcome Stop Bytes) =
      .ok (W.cborIntoWriter (.map (coseEntries (.edDsa eddsaPair.publicKey)))) :=
    encodeKey_eq heddsa.enrollable
  obtain ⟨heap₁, hs₁, hwalk₁⟩ := walk_run "ES256" "credential ID" "challenge"
    (Heap.sound_new sets) hes256 hcose₁ (fun _ _ _ => rfl)
  obtain ⟨heap₂, hs₂, hwalk₂⟩ := walk_run "RS256" "RSA credential ID" "RSA challenge" hs₁ hrs256
    hcose₂ (fun _ _ _ => rfl)
  obtain ⟨heap₃, hs₃, hwalk₃⟩ := walk_run "ES384" "ES384 credential ID" "ES384 challenge" hs₂
    hes384 hcose₃ (fun _ _ _ => rfl)
  obtain ⟨heap₄, hs₄, hwalk₄⟩ := walk_run "EdDSA" "EdDSA credential ID" "EdDSA challenge" hs₃
    heddsa hcose₄ (fun _ _ _ => rfl)
  have hid : s.es256.id ≠ [] := by
    rw [← List.length_pos_iff, hes256.length_id]
    decide
  simp only [main, hes256Key.load_eq, Stateful.liftM_ok_bind]
  refine (congrArg Prod.fst (Stateful.run_bind_of_run hwalk₁)).trans ?_
  simp only [hrsaKey, Outcome.ofExcept, hrsa.extract_eq hn, Stateful.liftM_ok_bind]
  refine (congrArg Prod.fst (Stateful.run_bind_of_run hwalk₂)).trans ?_
  simp only [hes384Key.load_eq, Stateful.liftM_ok_bind]
  refine (congrArg Prod.fst (Stateful.run_bind_of_run hwalk₃)).trans ?_
  simp only [heddsaKey.load_eq, Stateful.liftM_ok_bind]
  refine (congrArg Prod.fst (Stateful.run_bind_of_run hwalk₄)).trans ?_
  exact passkeyLogin_run hs₄ hid rfl rfl rfl rfl rfl h.passkey hpasskey

/-! ### A run of the demo -/

section
open Recorded

/-! The writer of the items that the demo encodes. -/

def cborHead (major n : ℕ) : Bytes :=
  if n < 24 then [UInt8.ofNat (major * 32 + n)]
  else if n < 256 then [UInt8.ofNat (major * 32 + 24), UInt8.ofNat n]
  else UInt8.ofNat (major * 32 + 25) :: beBytes 2 n

def cborItem : Value → Bytes
  | .integer i => if 0 ≤ i then cborHead 0 i.toNat else cborHead 1 (-1 - i).toNat
  | .bytes b => cborHead 2 b.length ++ b
  | .text t => cborHead 3 (Text.asBytes t).length ++ Text.asBytes t
  | .map [] => cborHead 5 0
  | _ => []

def cborMap : Value → Bytes
  | .map m => cborHead 5 m.length ++ m.flatMap fun e => cborItem e.1 ++ cborItem e.2
  | v => cborItem v

def demoWriters : Writers := ⟨cborMap, urlSafe⟩

/-! Key pairs, and what they sign: the login with the count 1, and with the first key also the one
with the count 2. -/

def es256Pkcs8 : Bytes :=
  beBytes 32 0x308187020100301306072a8648ce3d020106082a8648ce3d030107046d306b02 ++
  beBytes 32 0x010104209719453c31757bf8d42476c1c1308422ec4b8b3cb3814f383c2d859b ++
  beBytes 32 0x325ccf62a144034200047e762c34844f32259304bbc12ce0f8250f039d973419 ++
  beBytes 32 0xf5aeb3dbd33c90201290d748c7b30ba4f43bf327ae122761672ef2c6dd88d5a1 ++
  beBytes 10 0xa5eba6bfe1e4b133a860

def passkeySignature : Bytes :=
  beBytes 32 0x304402200b907ea1eda4b78a341717974b14418b2a55fb743778bf2818df7083 ++
  beBytes 32 0xd9e5a6eb02200c81cb16d95e7de1c870a08efb06efbef594f18b3cfa7e066aed ++
  beBytes 6 0x1462fe2cccef

def rs256Signature : Bytes :=
  beBytes 32 0x5c03edd0b5d93bc568b22e6d7ae2f4b65954c762fe75ba1b1027d6543087a12c ++
  beBytes 32 0xf903addc29130a5d3c132c62154fec99d58abbdf7a2a9fee01843bfe73b579c9 ++
  beBytes 32 0x7c6a193f7cbf81b9d4aad065984a5d017ff710a6b9659b5636dd0f986863cbdb ++
  beBytes 32 0x35ff486abf64d0d2d537c47a80fd799dc04f6f42a0446119190dd4e0776be2b5 ++
  beBytes 32 0x95f248106f514ca822e7beba3dcddf791eb58945db1d46b9a58bec4971ba524a ++
  beBytes 32 0x999c8eae158d4dde24b9b1ea2618d4bcdbbf4ea657cb125e8ad56929cffb4689 ++
  beBytes 32 0x6394f60743a913cbedfc1383cc902e9293908b350ecbff8534c2295f66921ee4 ++
  beBytes 32 0x25d1f75010fa79a8fdb509a50974a7a33bd6f4b6670127b7c4fefa934d3cb326

def es384Pkcs8 : Bytes :=
  beBytes 32 0x3081b6020100301006072a8648ce3d020106052b8104002204819e30819b0201 ++
  beBytes 32 0x01043060eac14aa0d0b6e22bb18af97433b6e8ce8e769db32f4cd401684837df ++
  beBytes 32 0x4e325f00cc2aee5388d05bbb2ba1be975fec6fa164036200046fa9e605f616cd ++
  beBytes 32 0x2980a830bebaf147e7dafba1ad18ae186c4f3cd1efa55d87d99494e30f84abd6 ++
  beBytes 32 0x27a070b09a0f0e61ca74780e741773d662de3db4489626cac804888dd7bfdefc ++
  beBytes 25 0x52dea1ddc2b2589f923b0f24b7363b6d35437eb9d5c82dd818

def es384X : Bytes :=
  beBytes 32 0x6fa9e605f616cd2980a830bebaf147e7dafba1ad18ae186c4f3cd1efa55d87d9 ++
  beBytes 16 0x9494e30f84abd627a070b09a0f0e61ca

def es384Y : Bytes :=
  beBytes 32 0x74780e741773d662de3db4489626cac804888dd7bfdefc52dea1ddc2b2589f92 ++
  beBytes 16 0x3b0f24b7363b6d35437eb9d5c82dd818

def es384Signature : Bytes :=
  beBytes 32 0x3064023075608dffcaa66fcf35ce042772e04d00be855e56ca3cfca18024bd16 ++
  beBytes 32 0xd04837c4b1f3133d51795f1feb74ee090f3a3447023018ad2b78e99109808714 ++
  beBytes 32 0xe0cb1ad708caad157a5baa41b0256a9d55ef9e52cec3d46714b596f148479fac ++
  beBytes 6 0xf3d559ee6a42

def eddsaPkcs8 : Bytes :=
  beBytes 32 0x3053020101300506032b657004220420e6d354a909b93fc8c9c52e74c7693a3d ++
  beBytes 32 0xa89185044479d581297eb9f76423653aa123032100ccd51e2eb071859c9d7b7e ++
  beBytes 21 0xd24c0156f683264b8bbd8a8b2f899a8d10658c939d

def eddsaPoint : Bytes :=
  beBytes 32 0xccd51e2eb071859c9d7b7ed24c0156f683264b8bbd8a8b2f899a8d10658c939d

def eddsaSignature : Bytes :=
  beBytes 32 0x8a64d79575c238909846215538369293f84bf30ad2efc0853ef1c9b07934c7c2 ++
  beBytes 32 0x180718480c9f1767c1664f67e27db91f83dd398f12cb68b82331bf5cfa9a7107

/-- What is signed with a count. -/
def signedBytes (count : UInt8) : Bytes :=
  rpIdHash.toList ++ [0x01] ++ [0, 0, 0, count] ++ [] ++ firstHash.toList

/-- A source whose one key pair is generated and loaded. -/
def source {σ : Type} (pkcs8 : Bytes) (pair : KeyPair σ) : KeySource σ where
  generatePkcs8 := .ok pkcs8
  fromPkcs8 bytes := if bytes = pkcs8 then .ok pair else .error "InvalidEncoding"

def demoKeys : List PublicKey := [.es256 keyX keyY, .rs256 demoModulus [0x01, 0x00, 0x01],
  .es384 es384X es384Y, .edDsa eddsaPoint]

def demoCreateData (key : PublicKey) : Bytes :=
  rpIdHash.toList ++ [0x41] ++ [0, 0, 0, 0] ++
    (noAaguid.toList ++ [0, 16] ++ credentialId ++ cborMap (.map (coseEntries key)))

/-- The items that are written for a key. -/
def demoItems (key : PublicKey) : List Value :=
  [.map (coseEntries key), .map (objectEntries (demoCreateData key))]

def createText : String := demoWriters.urlSafeNoPadEncode createChallenge.bytes
def getText : String := demoWriters.urlSafeNoPadEncode firstChallenge.bytes

def demoCreateJson : Bytes :=
  makeClientDataJsonBytes demoWriters "webauthn.create" createChallenge.bytes ORIGIN

def demoGetJson : Bytes :=
  makeClientDataJsonBytes demoWriters "webauthn.get" firstChallenge.bytes ORIGIN

def demoRecord : Record where
  sha256 := [(Text.asBytes RP_ID, rpIdHash), (demoGetJson, firstHash),
    (demoCreateJson, createHash)]
  ecdsaAsn1 := [(uncompressed keyX keyY, signedBytes 1, firstSignature),
    (uncompressed keyX keyY, signedBytes 2, passkeySignature)]
  cbor := (demoKeys.flatMap demoItems).map fun v => (cborMap v, v)
  clientData := [(demoCreateJson, ⟨"webauthn.create", createText, ORIGIN, some false⟩),
    (demoGetJson, ⟨"webauthn.get", getText, ORIGIN, some false⟩)]
  urlSafe := [(createText, createChallenge.bytes), (getText, firstChallenge.bytes)]

def rs256Verified : List (Bytes × Bytes × Bytes) :=
  [(Crypto.rsaDer demoModulus [0x01, 0x00, 0x01], signedBytes 1, rs256Signature)]

def es384Verified : List (Bytes × Bytes × Bytes) :=
  [(uncompressed es384X es384Y, signedBytes 1, es384Signature)]

def eddsaVerified : List (Bytes × Bytes × Bytes) := [(eddsaPoint, signedBytes 1, eddsaSignature)]

/-- The record, with a signature of each of the other keys. -/
def demoEnv : Env :=
  { demoRecord.env with
    rsaPkcs1Sha256 := fun key m s => rs256Verified.contains (key, m, s)
    ecdsaP384Sha384Asn1 := fun key m s => es384Verified.contains (key, m, s)
    ed25519 := fun key m s => eddsaVerified.contains (key, m, s) }

def demoDraw (byte : UInt8) : Draw := ⟨some (List.Vector.replicate 32 byte), ⟨0⟩⟩

def demoSupply : Supply where
  credId := .ok ⟨credentialId, beBytes_length _ _⟩
  create := demoDraw 1
  created := clock
  get := demoDraw 2
  got := clock
  replay := demoDraw 2
  replayed := clock

def es256Signatures : List (Bytes × Bytes) :=
  [(signedBytes 1, firstSignature), (signedBytes 2, passkeySignature)]

def es256Pair : KeyPair (Except String Bytes) where
  publicKey := uncompressed keyX keyY
  sign := answer es256Signatures

def rsaPair : KeyPair (Except String Bytes) where
  publicKey := Crypto.rsaDer demoModulus [0x01, 0x00, 0x01]
  sign := answer [(signedBytes 1, rs256Signature)]

def es384Pair : KeyPair (Except String Bytes) where
  publicKey := uncompressed es384X es384Y
  sign := answer [(signedBytes 1, es384Signature)]

/-- Ed25519 signing does not fail. -/
def eddsaPair : KeyPair Bytes where
  publicKey := eddsaPoint
  sign m := if m = signedBytes 1 then eddsaSignature else []

def demoSystem : System where
  es256Key := source es256Pkcs8 es256Pair
  es256 := demoSupply
  rsaFromPkcs8 bytes := if bytes = RSA_PKCS8_DER then .ok rsaPair else .error "InvalidEncoding"
  rs256 := demoSupply
  es384Key := source es384Pkcs8 es384Pair
  es384 := demoSupply
  eddsaKey := source eddsaPkcs8 eddsaPair
  eddsa := demoSupply
  passkey := demoDraw 2
  passkeyUsed := clock

lemma source_gives {σ : Type} (pkcs8 : Bytes) (pair : KeyPair σ) : (source pkcs8 pair).Gives pair :=
  ⟨pkcs8, rfl, if_pos rfl⟩

lemma demoDraw_works (byte : UInt8) : (demoDraw byte).Works clock :=
  ⟨rfl, le_rfl, by simp [clock, demoDraw, CHALLENGE_MAX_AGE_SECS, NANOS_PER_SEC]⟩

set_option maxRecDepth 10000 in
lemma demoItems_nodup : (demoRecord.cbor.map Prod.fst).Nodup := by decide

set_option maxRecDepth 10000 in
lemma demoJson_ne : demoGetJson ≠ demoCreateJson ∧ demoGetJson ≠ Text.asBytes RP_ID := by decide

lemma getText_ne : getText ≠ createText := by decide

lemma demoEnv_sha256Of (d : Bytes) : Crypto.sha256Of demoEnv d = Crypto.sha256Of demoRecord.env d :=
  rfl

lemma demoEnv_jsonClientData : demoEnv.jsonClientData = answer demoRecord.clientData := rfl

lemma demoEnv_urlSafeNoPadDecode : demoEnv.urlSafeNoPadDecode = answer demoRecord.urlSafe := rfl

lemma sha256_demo : Crypto.sha256Of demoEnv (Text.asBytes RP_ID) = rpIdHash := by
  rw [demoEnv_sha256Of]
  exact Record.env_sha256Of (answer_head _ _ _)

lemma sha256_demoGetJson : Crypto.sha256Of demoEnv demoGetJson = firstHash := by
  rw [demoEnv_sha256Of]
  exact Record.env_sha256Of ((answer_tail demoJson_ne.2 _ _).trans (answer_head _ _ _))

lemma isItem_demo {key : PublicKey} {v : Value} (hkey : key ∈ demoKeys) (hv : v ∈ demoItems key) :
    Grammar.IsItem demoEnv v (cborMap v) := by
  have hmem : (cborMap v, v) ∈ demoRecord.cbor :=
    List.mem_map.mpr ⟨v, List.mem_flatMap.mpr ⟨key, hkey, hv⟩, rfl⟩
  refine ⟨?_, Record.env_cborFromReader (r := demoRecord) (answer_of_mem demoItems_nodup hmem)⟩
  obtain rfl | rfl : v = _ ∨ v = _ := by simpa [demoItems] using hv
  · cases key <;> simp [cborMap, cborHead, coseEntries]
  · simp [cborMap, cborHead, objectEntries]

lemma createData_demo (key : PublicKey) :
    createData demoEnv demoWriters RP_ID key credentialId 0 = demoCreateData key := by
  rw [createData, makeAuthenticatorData, sha256_demo]
  rfl

lemma answer_demoCreate : answer demoRecord.clientData demoCreateJson =
    .ok ⟨"webauthn.create", createText, ORIGIN, some false⟩ := answer_head _ _ _

lemma answer_demoGet : answer demoRecord.clientData demoGetJson =
    .ok ⟨"webauthn.get", getText, ORIGIN, some false⟩ :=
  (answer_tail demoJson_ne.1 _ _).trans (answer_head _ _ _)

lemma answer_createText : answer demoRecord.urlSafe createText = .ok createChallenge.bytes :=
  answer_head _ _ _

lemma answer_getText : answer demoRecord.urlSafe getText = .ok firstChallenge.bytes :=
  (answer_tail getText_ne _ _).trans (answer_head _ _ _)

lemma reads_demo {key : PublicKey} (hkey : key ∈ demoKeys) :
    ReadsRegistration demoEnv demoWriters RP_ID key credentialId 0 createChallenge.bytes
      ORIGIN where
  coseKey := isItem_demo hkey List.mem_cons_self
  object := by
    rw [createData_demo]
    exact isItem_demo hkey (by simp [demoItems])
  clientData := {
    json := by
      rw [demoEnv_jsonClientData]
      exact answer_demoCreate
    base64 := by
      rw [demoEnv_urlSafeNoPadDecode]
      exact answer_createText }

lemma reads_demoGet : ReadsClientData demoEnv demoWriters "webauthn.get" firstChallenge.bytes
    ORIGIN where
  json := by
    rw [demoEnv_jsonClientData]
    exact answer_demoGet
  base64 := by
    rw [demoEnv_urlSafeNoPadDecode]
    exact answer_getText

lemma loginMessage_demo (count : UInt32) (h : beBytes 4 count.toNat = [0, 0, 0, count.toUInt8]) :
    loginMessage demoEnv demoWriters firstChallenge.bytes count = signedBytes count.toUInt8 := by
  have hjson : makeClientDataJsonBytes demoWriters "webauthn.get" firstChallenge.bytes ORIGIN =
    demoGetJson := rfl
  rw [loginMessage, hjson, sha256_demoGetJson, makeAuthenticatorData, sha256_demo, h]
  rfl

lemma signs_demo {key : PublicKey} {sign : Bytes → Except String Bytes} {sig : Bytes}
    (count : UInt32) (h : beBytes 4 count.toNat = [0, 0, 0, count.toUInt8])
    (hsign : sign (signedBytes count.toUInt8) = .ok sig)
    (hverifies : key.Verifies demoEnv (signedBytes count.toUInt8) sig) :
    Signs demoEnv demoWriters key sign firstChallenge.bytes count := by
  refine ⟨reads_demoGet, sig, ?_⟩
  rw [loginMessage_demo count h]
  exact ⟨hsign, hverifies⟩

lemma demoSupply_works {key : PublicKey} {sign : Bytes → Except String Bytes} {sig : Bytes}
    (hkey : key ∈ demoKeys) (henroll : Enrollable key) (hsign : sign (signedBytes 1) = .ok sig)
    (hverifies : key.Verifies demoEnv (signedBytes 1) sig) :
    demoSupply.Works demoEnv demoWriters key sign where
  enrollable := henroll
  credId := ⟨_, rfl⟩
  create := demoDraw_works 1
  get := demoDraw_works 2
  replay := demoDraw_works 2
  registration := reads_demo hkey
  login := signs_demo 1 (by decide) hsign hverifies
  again := signs_demo 1 (by decide) hsign hverifies

lemma isRsaKey_demo : IsRsaKey (Crypto.rsaDer demoModulus [0x01, 0x00, 0x01]) demoModulus
    [0x01, 0x00, 0x01] := by
  have hlen : demoModulus.length = 256 := by simp [demoModulus]
  have hn := length_unsigned_le demoModulus
  have hn' := length_derIntegerOf_le (b := demoModulus) (by omega)
  have he' := length_derIntegerOf_le (b := [0x01, 0x00, 0x01]) (by decide)
  rw [List.length_cons, List.length_cons, List.length_cons, List.length_nil] at he'
  have hcontents : (Crypto.derIntegerOf demoModulus ++
      Crypto.derIntegerOf [0x01, 0x00, 0x01]).length < 2 ^ 15 := by
    rw [List.length_append]
    omega
  have hfield := length_derLength_le (hcontents.trans (by decide))
  have hexponent : Der.IsDistinguished 0x02 [0x01, 0x00, 0x01]
      (Crypto.derIntegerOf [0x01, 0x00, 0x01]) := by
    rw [RsaDer.derIntegerOf_eq]
    exact RsaDer.isDistinguished_derLength.mpr ⟨rfl, Or.inl (by decide)⟩
  refine ⟨⟨_, _, RsaDer.isDistinguished_derIntegerOf.mpr (Or.inl (by omega)),
    hexponent, RsaDer.isDistinguished_derLength.mpr ⟨rfl, Or.inl (by omega)⟩⟩, by decide,
    by decide, ?_⟩
  rw [Crypto.rsaDer, Crypto.derSequence, List.cons_append, List.length_cons, List.length_append]
  omega

lemma signedBytes_ne : signedBytes 2 ≠ signedBytes 1 := by decide

lemma es256Pair_sign : answer es256Signatures (signedBytes 1) = .ok firstSignature :=
  answer_head _ _ _

lemma es256Pair_sign_passkey : answer es256Signatures (signedBytes 2) = .ok passkeySignature :=
  (answer_tail signedBytes_ne _ _).trans (answer_head _ _ _)

lemma eddsaPair_sign : eddsaPair.sign (signedBytes 1) = eddsaSignature := by
  simp only [eddsaPair, ↓reduceIte]

lemma rs256_verifies : demoEnv.rsaPkcs1Sha256 (Crypto.rsaDer demoModulus [0x01, 0x00, 0x01])
    (signedBytes 1) rs256Signature = true := by
  simp only [demoEnv]
  exact List.contains_iff_mem.mpr List.mem_cons_self

lemma es384_verifies : demoEnv.ecdsaP384Sha384Asn1 (uncompressed es384X es384Y) (signedBytes 1)
    es384Signature = true := by
  simp only [demoEnv]
  exact List.contains_iff_mem.mpr List.mem_cons_self

lemma eddsa_verifies : demoEnv.ed25519 eddsaPoint (signedBytes 1) eddsaSignature = true := by
  simp only [demoEnv]
  exact List.contains_iff_mem.mpr List.mem_cons_self

lemma demoSystem_works : demoSystem.Works demoEnv demoWriters where
  es256 := by
    refine ⟨es256Pair, keyX, keyY, source_gives _ _, rfl, ?_, ?_⟩
    · exact demoSupply_works (by simp [demoKeys]) enrollable_key es256Pair_sign
        (List.contains_iff_mem.mpr List.mem_cons_self)
    · exact signs_demo 2 (by decide) es256Pair_sign_passkey
        (List.contains_iff_mem.mpr (List.mem_cons_of_mem _ List.mem_cons_self))
  rs256 := by
    refine ⟨rsaPair, demoModulus, [0x01, 0x00, 0x01], if_pos rfl, isRsaKey_demo, ?_⟩
    have hlen : demoModulus.length = 256 := by simp [demoModulus]
    exact demoSupply_works (by simp [demoKeys]) ⟨hlen.ge, by decide⟩
      (answer_head (signedBytes 1) rs256Signature [])
      ⟨List.length_pos_iff.mp (by omega), by decide, rs256_verifies⟩
  es384 := by
    refine ⟨es384Pair, es384X, es384Y, source_gives _ _, rfl, ?_⟩
    exact demoSupply_works (by simp [demoKeys]) ⟨by simp [es384X], by simp [es384Y]⟩
      (answer_head (signedBytes 1) es384Signature []) es384_verifies
  eddsa := by
    refine ⟨eddsaPair, source_gives _ _, ?_⟩
    exact demoSupply_works (by simp [demoKeys, eddsaPair]) (beBytes_length _ _)
      (congrArg Except.ok eddsaPair_sign) eddsa_verifies
  passkey := demoDraw_works 2

/-- The demo runs to its end with a key of each algorithm. -/
theorem demo_completes :
    ((main demoEnv demoWriters demoSystem).run (Heap.new fun _ => ∅)).1 = .ok () :=
  main_completes demoEnv demoWriters demoSystem demoSystem_works fun _ => ∅

end

end Caden.Demo
