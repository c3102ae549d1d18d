import Caden.RelyingParty
import Caden.AuthData
import Caden.Lib.Text

/-!
Environments that replay recorded calls, and the parts of one relying party's ceremonies that
several modules run.

A record lists inputs of the decoders with what they decode to, and the signatures that verify.
No other input decodes, and no other signature verifies.
-/

namespace Caden

/-- Recorded calls. -/
structure Record where
  sha256 : List (Bytes × ArrayN UInt8 32) := []
  /-- Keys, messages and signatures that verify, in the two encodings of signatures. -/
  ecdsaAsn1 : List (Bytes × Bytes × Bytes) := []
  ecdsaFixed : List (Bytes × Bytes × Bytes) := []
  /-- Inputs that are one item, with the item. -/
  cbor : List (Bytes × Value) := []
  clientData : List (Bytes × RawClientData) := []
  joseHeader : List (Bytes × JoseHeader) := []
  mdsBlobPayload : List (Bytes × MdsBlobPayload) := []
  urlSafe : List (String × Bytes) := []
  standard : List (String × Bytes) := []
  x509 : List (Bytes × X509Certificate) := []
  /-- The signed part of a certificate, with the key that its signature verifies under. -/
  x509Signed : List (Bytes × SubjectPublicKeyInfo) := []

/-- The recorded answer for `a`. -/
def answer {α β : Type} [BEq α] (l : List (α × β)) (a : α) : Except String β :=
  match l.lookup a with
  | some b => .ok b
  | none => .error "not recorded"

@[simp] lemma answer_head {α β : Type} [BEq α] [LawfulBEq α] (a : α) (b : β)
    (l : List (α × β)) : answer ((a, b) :: l) a = .ok b := by
  simp [answer]

lemma answer_tail {α β : Type} [BEq α] [LawfulBEq α] {a a' : α} (h : a ≠ a') (b : β)
    (l : List (α × β)) : answer ((a', b) :: l) a = answer l a := by
  simp [answer, List.lookup_cons, beq_eq_false_iff_ne.mpr h]

lemma answer_of_mem {α β : Type} [BEq α] [LawfulBEq α] {l : List (α × β)} {a : α} {b : β}
    (hkeys : (l.map Prod.fst).Nodup) (h : (a, b) ∈ l) : answer l a = .ok b := by
  induction l with
  | nil => cases h
  | cons e l ih =>
    obtain ⟨hnew, hkeys⟩ := List.nodup_cons.mp hkeys
    rcases List.mem_cons.mp h with rfl | hrest
    · exact answer_head a b l
    · have hne : a ≠ e.1 := fun he => hnew (List.mem_map.mpr ⟨_, hrest, he⟩)
      exact (answer_tail hne e.2 l).trans (ih hkeys hrest)

/-- **The environment of a record.** -/
def Record.env (r : Record) : Env where
  sha256Digest d := ((r.sha256.lookup d).getD (List.Vector.replicate 32 0)).toList
  sha384Digest _ := List.replicate 48 0
  ecdsaP256Sha256Asn1 key m s := r.ecdsaAsn1.contains (key, m, s)
  ecdsaP256Sha256Fixed key m s := r.ecdsaFixed.contains (key, m, s)
  ecdsaP384Sha384Asn1 _ _ _ := false
  ed25519 _ _ _ := false
  rsaPkcs1Sha256 _ _ _ := false
  cborFromReader d := (answer r.cbor d).map fun v => (v, d.length)
  jsonClientData := answer r.clientData
  jsonJoseHeader := answer r.joseHeader
  jsonSafetyNetPayload _ := .error "not recorded"
  jsonMdsBlobPayload := answer r.mdsBlobPayload
  urlSafeNoPadDecode := answer r.urlSafe
  standardDecode := answer r.standard
  standardEncode _ := ""
  x509FromDer d := r.x509.lookup d
  x509VerifySignature cert key := r.x509Signed.contains (cert.tbsCertificate, key)
  sha256Digest_length _ := List.Vector.toList_length _
  cborFromReader_le d v n h := by
    rcases hv : answer r.cbor d with e | w
    · rw [hv] at h
      cases h
    · rw [hv] at h
      cases h
      exact le_rfl

namespace Record

variable {r : Record}

lemma env_cborFromReader {d : Bytes} {v : Value} (h : answer r.cbor d = .ok v) :
    r.env.cborFromReader d = .ok (v, d.length) := by
  simp only [env, h, Except.map]

lemma env_sha256Of {d : Bytes} {hash : ArrayN UInt8 32} (h : answer r.sha256 d = .ok hash) :
    Crypto.sha256Of r.env d = hash := by
  unfold answer at h
  split at h
  · rename_i b hb
    cases h
    refine Subtype.ext ?_
    simp only [Crypto.sha256Of, env, hb, Option.getD_some]
    rfl
  · cases h

@[simp] lemma env_jsonClientData : r.env.jsonClientData = answer r.clientData := rfl

@[simp] lemma env_jsonJoseHeader : r.env.jsonJoseHeader = answer r.joseHeader := rfl

@[simp] lemma env_jsonMdsBlobPayload : r.env.jsonMdsBlobPayload = answer r.mdsBlobPayload := rfl

@[simp] lemma env_urlSafeNoPadDecode : r.env.urlSafeNoPadDecode = answer r.urlSafe := rfl

@[simp] lemma env_standardDecode : r.env.standardDecode = answer r.standard := rfl

@[simp] lemma env_x509FromDer (d : Bytes) : r.env.x509FromDer d = r.x509.lookup d := rfl

@[simp] lemma env_x509VerifySignature (cert : X509Certificate) (key : SubjectPublicKeyInfo) :
    r.env.x509VerifySignature cert key = r.x509Signed.contains (cert.tbsCertificate, key) := rfl

@[simp] lemma env_ecdsaP256Sha256Asn1 (key m s : Bytes) :
    r.env.ecdsaP256Sha256Asn1 key m s = r.ecdsaAsn1.contains (key, m, s) := rfl

@[simp] lemma env_ecdsaP256Sha256Fixed (key m s : Bytes) :
    r.env.ecdsaP256Sha256Fixed key m s = r.ecdsaFixed.contains (key, m, s) := rfl

end Record

namespace Recorded

/-! ### A relying party and a credential -/

def rpId : String := "localhost"
def origin : String := "http://localhost"
def rp : RelyingParty := .new rpId origin "Example"

def rpIdHash : ArrayN UInt8 32 :=
  ⟨beBytes 32 0x49960de5880e8c687434170f6476605b8fe4aeb9a28632c7995cf3ba831d9763,
    beBytes_length _ _⟩

def keyX : Bytes := beBytes 32 0x7e762c34844f32259304bbc12ce0f8250f039d973419f5aeb3dbd33c90201290
def keyY : Bytes := beBytes 32 0xd748c7b30ba4f43bf327ae122761672ef2c6dd88d5a1a5eba6bfe1e4b133a860
def credentialId : Bytes := beBytes 16 0xa0a1a2a3a4a5a6a7a8a9aaabacadaeaf

/-- The credential's key as a COSE key, and what it decodes to. -/
def coseKey : Bytes :=
  beBytes 10 0xa5010203262001215820 ++ keyX ++ beBytes 3 0x225820 ++ keyY

def coseKeyMap : List (Value × Value) :=
  [(.integer 1, .integer 2), (.integer 3, .integer (-7)), (.integer (-1), .integer 1),
    (.integer (-2), .bytes keyX), (.integer (-3), .bytes keyY)]

/-- The clock shows the epoch. -/
def clock : Clock := fun _ => ⟨0⟩

/-- Client data of a ceremony, with the text of its challenge. -/
def clientDataJson (type_ challenge : String) : Bytes :=
  Text.asBytes "\x7b\"type\":\"" ++ Text.asBytes type_ ++
    Text.asBytes "\",\"challenge\":\"" ++ Text.asBytes challenge ++
    Text.asBytes "\",\"origin\":\"http://localhost\"," ++
    Text.asBytes "\"crossOrigin\":false\x7d"

lemma clientDataJson_utf8 (type_ challenge : String) :
    (Text.fromUtf8 (clientDataJson type_ challenge)).isSome := by
  simp only [clientDataJson, ← Text.asBytes_append, Text.fromUtf8_asBytes, Option.isSome_some]

lemma clientDataJson_ne_nil (type_ challenge : String) : clientDataJson type_ challenge ≠ [] := by
  intro h
  simp only [clientDataJson, ← Text.asBytes_append] at h
  exact Text.asBytes_ne_nil (by simp) h

def clientDataOf (type_ challenge : String) : RawClientData :=
  ⟨type_, challenge, origin, some false⟩

/-! ### A registration -/

def createText : String := "AQEBAQEBAQEBAQEBAQEBAQEBAQEBAQEBAQEBAQEBAQE"
def createChallenge : Challenge := ⟨List.replicate 32 1, ⟨0⟩⟩
def createJson : Bytes := clientDataJson "webauthn.create" createText
def createHash : ArrayN UInt8 32 :=
  ⟨beBytes 32 0xb6a2462dd85de1c3b4d7b856be2bb3abe04f98cb31dd7fe435250ea307316138,
    beBytes_length _ _⟩

/-- The length of the credential id, on two bytes. -/
def idLength : ArrayN UInt8 2 := Slice.pair 0 16

/-- The authenticator data of a registration, for each model. -/
def createAuthData (aaguid : AuthData.Aaguid) : Bytes :=
  (rpIdHash.toList ++ [0x45, 0, 0, 0, 0]) ++
    (AuthData.credentialHeader aaguid idLength credentialId ++ coseKey)

/-- An attestation object without a statement, and what it decodes to. -/
def attestationObject (aaguid : AuthData.Aaguid) : Bytes :=
  beBytes 30 0xa363666d74646e6f6e656761747453746d74a06861757468446174615894 ++ createAuthData aaguid

def attestationObjectMap (aaguid : AuthData.Aaguid) : List (Value × Value) :=
  [(.text "fmt", .text "none"), (.text "attStmt", .map []),
    (.text "authData", .bytes (createAuthData aaguid))]

def createResponse (aaguid : AuthData.Aaguid) : AuthenticatorAttestationResponse :=
  ⟨createJson, attestationObject aaguid⟩

lemma createResponse_clientDataJson (aaguid : AuthData.Aaguid) :
    (createResponse aaguid).clientDataJson = createJson := by
  rw [createResponse]

/-- A registration of a credential of the model. -/
def registration (aaguid : AuthData.Aaguid) : Record where
  sha256 := [(Text.asBytes rpId, rpIdHash), (createJson, createHash)]
  cbor := [(coseKey, .map coseKeyMap),
    (attestationObject aaguid, .map (attestationObjectMap aaguid))]
  clientData := [(createJson, clientDataOf "webauthn.create" createText)]
  urlSafe := [(createText, createChallenge.bytes)]

/-! ### Two logins -/

/-- The credential as it was registered. -/
def credential : Credential where
  id := credentialId
  publicKey := .es256 keyX keyY
  signCount := 0
  userId := [0x75]
  rpId := rpId
  createdAt := ⟨0⟩
  backupEligible := false
  backupState := false

/-- The authenticator data of an assertion with a counter below 256. -/
def getAuthData (count : UInt8) : Bytes := rpIdHash.toList ++ [0x05, 0, 0, 0, count]

def getResponse (challenge : String) (count : UInt8) (signature : Bytes) :
    AuthenticatorAssertionResponse :=
  ⟨clientDataJson "webauthn.get" challenge, getAuthData count, signature, none, credentialId⟩

def firstText : String := "AgICAgICAgICAgICAgICAgICAgICAgICAgICAgICAgI"
def firstChallenge : Challenge := ⟨List.replicate 32 2, ⟨0⟩⟩
def firstHash : ArrayN UInt8 32 :=
  ⟨beBytes 32 0xcbfc6c555d71ae0ceec30c619d9849a0f3fb70c6acd987ece1c9c535b341f1b4,
    beBytes_length _ _⟩
def firstResponse : AuthenticatorAssertionResponse := getResponse firstText 1 <|
  beBytes 38 0x3045022074b602dcf0aa63c4f25f5fa77f66f88eac1753ac08eece2946a2b45343758d020221 ++
  beBytes 33 0x00e8bbf9d00eaefd9745a86c6d6164d4fcf0599245e814f4850ea706340c28088a

def secondText : String := "AwMDAwMDAwMDAwMDAwMDAwMDAwMDAwMDAwMDAwMDAwM"
def secondChallenge : Challenge := ⟨List.replicate 32 3, ⟨0⟩⟩
def secondHash : ArrayN UInt8 32 :=
  ⟨beBytes 32 0x24e9ebb1da2ed0667e4baa9d9af60f181e82e6373b9b51c52d350b78f8282ea9,
    beBytes_length _ _⟩
def secondResponse : AuthenticatorAssertionResponse := getResponse secondText 2 <|
  beBytes 38 0x3046022100838a5824746228120fb12d41331d94b142844758f0a4f9ceadd815f71d4fa30e02 ++
  beBytes 34 0x2100835c5d08e2a7b1fdcadcc6b170737fe73c7ad0b7f2e2cafb94bbaad49c3dad33

/-- Two assertions of one credential, with the counters 1 and 2. -/
def twoAssertions : Record where
  sha256 := [(Text.asBytes rpId, rpIdHash), (firstResponse.clientDataJson, firstHash),
    (secondResponse.clientDataJson, secondHash)]
  ecdsaAsn1 := [(uncompressed keyX keyY, firstResponse.authenticatorData ++ firstHash.toList,
      firstResponse.signature),
    (uncompressed keyX keyY, secondResponse.authenticatorData ++ secondHash.toList,
      secondResponse.signature)]
  clientData := [(firstResponse.clientDataJson, clientDataOf "webauthn.get" firstText),
    (secondResponse.clientDataJson, clientDataOf "webauthn.get" secondText)]
  urlSafe := [(firstText, firstChallenge.bytes), (secondText, secondChallenge.bytes)]

/-! ### Certificates -/

/-- The model of the attestation certificate. -/
def aaguid : AuthData.Aaguid := ⟨beBytes 16 0x000102030405060708090a0b0c0d0e0f, beBytes_length _ _⟩

/-- A name with one common name of one letter. -/
def nameOf (letter : UInt8) : X509Name :=
  ⟨beBytes 13 0x300c310a300806035504030c01 ++ [letter]⟩

/-- The identifier of ECDSA with SHA-256. -/
def ecdsaWithSha256 : Bytes := beBytes 12 0x300a06082a8648ce3d040302

/-- The trust anchor, which signs the attestation certificate. -/
def rootDer : Bytes :=
    beBytes 40 0x3082011a3081c0a003020102020101300a06082a8648ce3d040302300c310a300806035504030c01 ++
    beBytes 40 0x52301e170d3236313131393233303533395a170d3336313131363233303533395a300c310a300806 ++
    beBytes 40 0x035504030c01523059301306072a8648ce3d020106082a8648ce3d0301070342000483a850e6a16c ++
    beBytes 40 0x9c38f4bd259934c0992cdb110f40b7983f23575c9e43b006bda96770934cb62522bfa5abd0e9c8cb ++
    beBytes 40 0xfe615f46ec1cd4c910e8614b1100d7a11bd2a3133011300f0603551d130101ff040530030101ff30 ++
    beBytes 40 0x0a06082a8648ce3d0403020349003046022100f046bfa62d6a41eb99157b47e0d13c03af1fff6570 ++
    beBytes 40 0x26c261b2c664741dcfc79c02210098d9eb1ef072c7e47b274c448e84962720ab6295c861cc026284 ++
    beBytes 6 0x2fcbd057b34b

def rootKey : SubjectPublicKeyInfo := ⟨(rootDer.drop 87).take 91⟩

def rootCert : X509Certificate where
  tbsCertificate := (rootDer.drop 4).take 195
  signatureAlgorithm := ecdsaWithSha256
  signatureValue := (rootDer.drop 214).take 72
  issuer := nameOf 0x52
  subject := nameOf 0x52
  publicKey := rootKey
  extensions := [⟨"2.5.29.19", [0x30, 0x03, 0x01, 0x01, 0xff]⟩]
  basicConstraints := .ok (some ⟨true⟩)
  subjectAlternativeName := .ok none
  commonNames := [some "R"]

/-- The attestation certificate, which names its model and is not a CA. -/
def leafDer : Bytes :=
    beBytes 40 0x308201393081e0a003020102020102300a06082a8648ce3d040302300c310a300806035504030c01 ++
    beBytes 40 0x52301e170d3236313131393233303533395a170d3336313131363233303533395a300c310a300806 ++
    beBytes 40 0x035504030c014c3059301306072a8648ce3d020106082a8648ce3d03010703420004650339df246d ++
    beBytes 40 0x49e2c8cc564e864d65e1aedf1c5e057848a72415d3751022f7dd5c1d9dc625c67b6c19e0bfca35ab ++
    beBytes 40 0x45a104af0a90cba4150a599c15ee53b1d98ea3333031300c0603551d130101ff040230003021060b ++
    beBytes 40 0x2b0601040182e51c01010404120410000102030405060708090a0b0c0d0e0f300a06082a8648ce3d ++
    beBytes 40 0x04030203480030450220430cf5438fee200c9a18bd78ebc5ba1c4766c8807453514050c42e4749d3 ++
    beBytes 37 0x72ef02210091b631a09233b55d45f636ab6dab7bb103bec9aa06af21b59087a6effe71dce1

def leafPoint : Bytes :=
    beBytes 33 0x04650339df246d49e2c8cc564e864d65e1aedf1c5e057848a72415d3751022f7dd ++
    beBytes 32 0x5c1d9dc625c67b6c19e0bfca35ab45a104af0a90cba4150a599c15ee53b1d98e

def leafCert : X509Certificate where
  tbsCertificate := (leafDer.drop 4).take 227
  signatureAlgorithm := ecdsaWithSha256
  signatureValue := (leafDer.drop 246).take 71
  issuer := nameOf 0x52
  subject := nameOf 0x4c
  publicKey := ⟨(leafDer.drop 87).take 91⟩
  extensions := [⟨"2.5.29.19", [0x30, 0x00]⟩,
    ⟨"1.3.6.1.4.1.45724.1.1.4", 0x04 :: 0x10 :: aaguid.toList⟩]
  basicConstraints := .ok (some ⟨false⟩)
  subjectAlternativeName := .ok none
  commonNames := [some "L"]

/-- Both certificates, one signed by the other. -/
def certificates : Record where
  x509 := [(leafDer, leafCert), (rootDer, rootCert)]
  x509Signed := [(leafCert.tbsCertificate, rootKey), (rootCert.tbsCertificate, rootKey)]

/-! ### Signed BLOBs -/

/-- The digit of base64 with the value `n`; the alphabets differ in the last two. -/
def base64Char (c62 c63 : Char) (n : ℕ) : Char :=
  if n < 26 then Char.ofNat (n + 65)
  else if n < 52 then Char.ofNat (n + 71)
  else if n < 62 then Char.ofNat (n - 4)
  else if n = 62 then c62
  else c63

/-- Bytes in base64, with the padding of one and of two digits. -/
def base64 (c62 c63 : Char) (pad pad2 : List Char) : Bytes → List Char
  | a :: b :: c :: t =>
    let n := beNat [a, b, c]
    base64Char c62 c63 (n / 2 ^ 18) :: base64Char c62 c63 (n / 2 ^ 12 % 64) ::
      base64Char c62 c63 (n / 2 ^ 6 % 64) :: base64Char c62 c63 (n % 64) ::
      base64 c62 c63 pad pad2 t
  | [a, b] =>
    let n := beNat [a, b, 0]
    base64Char c62 c63 (n / 2 ^ 18) :: base64Char c62 c63 (n / 2 ^ 12 % 64) ::
      base64Char c62 c63 (n / 2 ^ 6 % 64) :: pad
  | [a] =>
    let n := beNat [a, 0, 0]
    base64Char c62 c63 (n / 2 ^ 18) :: base64Char c62 c63 (n / 2 ^ 12 % 64) :: pad2
  | [] => []

/-- The standard alphabet with padding, and the one for URLs without. -/
def standard (b : Bytes) : String := String.ofList (base64 '+' '/' ['='] ['=', '='] b)
def urlSafe (b : Bytes) : String := String.ofList (base64 '-' '_' [] [] b)

lemma base64Char_ne_dot (n : ℕ) : base64Char '-' '_' n ≠ '.' := by
  have hletter : ∀ m < 62, base64Char '-' '_' m ≠ '.' := by decide
  by_cases h : n < 62
  · exact hletter n h
  · unfold base64Char
    split_ifs <;> first | omega | decide

lemma dot_not_mem_urlSafe (b : Bytes) : '.' ∉ (urlSafe b).toList := by
  have hne : ∀ n, '.' ≠ base64Char '-' '_' n := fun n => (base64Char_ne_dot n).symm
  rw [urlSafe, String.toList_ofList]
  fun_induction base64 '-' '_' [] [] b <;> simp_all

lemma urlSafe_ne {a b : Bytes} (h : base64 '-' '_' [] [] a ≠ base64 '-' '_' [] [] b) :
    urlSafe a ≠ urlSafe b := fun he => h (String.ofList_injective he)

/-- The header of a JWS that the attestation certificate's key signs. -/
def header : JoseHeader := ⟨"ES256", [standard leafDer]⟩

def headerJson : Bytes :=
  Text.asBytes "\x7b\"alg\":\"ES256\",\"x5c\":[\"" ++
    (base64 '+' '/' ['='] ['=', '='] leafDer).flatMap String.utf8EncodeChar ++
    Text.asBytes "\"]\x7d"

/-- A payload, the bytes it was decoded from, and the signature of the attestation
certificate's key. -/
structure SignedBlob where
  payload : MdsBlobPayload
  payloadJson : Bytes
  signature : Bytes

namespace SignedBlob

def signingInput (b : SignedBlob) : String :=
  urlSafe headerJson ++ "." ++ urlSafe b.payloadJson

def text (b : SignedBlob) : String := b.signingInput ++ "." ++ urlSafe b.signature

def record (b : SignedBlob) : Record :=
  { certificates with
    ecdsaFixed := [(leafPoint, Text.asBytes b.signingInput, b.signature)]
    joseHeader := [(headerJson, header)]
    mdsBlobPayload := [(b.payloadJson, b.payload)]
    urlSafe := [(urlSafe headerJson, headerJson), (urlSafe b.payloadJson, b.payloadJson),
      (urlSafe b.signature, b.signature)]
    standard := [(standard leafDer, leafDer)] }

end SignedBlob

end Recorded

end Caden
