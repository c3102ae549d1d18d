import Caden.Seal
import Caden.Offer

/-!
A statement cannot be moved from one registration to another.

Two registrations that were accepted with one statement were accepted for one message. The
message determines the authenticator data and the hash of the client data, or with U2F the parts
of the authenticator data that it consists of.
-/

namespace Caden.Transplant

open Attestation AttStmt

/-! ### The parts of a message -/

section
variable {d d' id id' : Bytes} {h h' : ArrayN UInt8 32} {pk pk' : PublicKey}

lemma verificationData_inj (heq : verificationData d h = verificationData d' h') :
    d = d' ∧ h = h' := by
  have hlen : h.toList.length = h'.toList.length := by
    rw [List.Vector.toList_length, List.Vector.toList_length]
  obtain ⟨hd, hh⟩ := List.append_inj' heq hlen
  exact ⟨hd, List.Vector.toList_injective hh⟩

lemma pointOf_inj {x y x' y' : Bytes} (hx : x.length = 32) (hx' : x'.length = 32)
    (heq : pointOf (.es256 x y) = pointOf (.es256 x' y')) :
    PublicKey.es256 x y = .es256 x' y' := by
  have hxy : x ++ y = x' ++ y' := List.cons_inj_right _ |>.mp heq
  obtain ⟨rfl, rfl⟩ := List.append_inj hxy (hx.trans hx'.symm)
  rfl

/-- **The parts of a U2F message are determined by the message.** Only the credential id has
no fixed length, and it stands between parts that have one. -/
lemma messageOf_fidoU2f_inj (hd : 37 ≤ d.length) (hd' : 37 ≤ d'.length)
    (hpk : (pointOf pk).length = 65) (hpk' : (pointOf pk').length = 65)
    (heq : messageOf "fido-u2f" d h id pk = messageOf "fido-u2f" d' h' id' pk') :
    d.take 32 = d'.take 32 ∧ h = h' ∧ id = id' ∧ pointOf pk = pointOf pk' := by
  rw [messageOf, messageOf, if_pos rfl, if_pos rfl] at heq
  have hparts := List.cons_inj_right _ |>.mp heq
  obtain ⟨hfront, hpoint⟩ := List.append_inj' hparts (hpk.trans hpk'.symm)
  have hlen : (d.take 32 ++ h.toList).length = (d'.take 32 ++ h'.toList).length := by
    simp only [List.length_append, List.length_take, List.Vector.toList_length]
    omega
  obtain ⟨hhashes, hid⟩ := List.append_inj hfront hlen
  have hlen32 : h.toList.length = h'.toList.length := by
    rw [List.Vector.toList_length, List.Vector.toList_length]
  obtain ⟨htake, hh⟩ := List.append_inj' hhashes hlen32
  exact ⟨htake, List.Vector.toList_injective hh, hid, hpoint⟩

end

/-! ### Two registrations -/

/-- A call of registration, and the memory it finds. -/
structure Attempt where
  rp : RelyingParty
  clock : Clock
  challenge : Challenge
  response : AuthenticatorAttestationResponse
  userId : Bytes
  heap : Heap

namespace Attempt

variable (E : Env) (a : Attempt)

def result : Res RegistrationResult :=
  ((Registration.verifyRegistration E a.rp a.clock a.challenge a.response a.userId).run a.heap).1

/-- The attestation object of the response. -/
def Carries (fmt : String) (authData : Bytes) (attStmt : Value) : Prop :=
  Registration.IsAttestationObject E a.response.attestationObject fmt authData attStmt

def clientDataHash : ArrayN UInt8 32 := Crypto.sha256Of E a.response.clientDataJson

/-- What is hashed: the client data, and the message that the statement is for. -/
def inputs (fmt : String) (authData : Bytes) (c : Credential) : Set Bytes :=
  {a.response.clientDataJson, messageOf fmt authData (a.clientDataHash E) c.id c.publicKey}

end Attempt

section
variable {E : Env} {a b : Attempt} {fmt : String} {authData authData' : Bytes} {attStmt : Value}
  {r r' : RegistrationResult}

/-- What the acceptance of a statement with certificates establishes. -/
structure Established (E : Env) (a : Attempt) (fmt : String) (authData : Bytes)
    (attStmt : Value) (c : Credential) : Prop where
  binds : ClientData.Binds E "webauthn.create" a.challenge.bytes a.rp.allowedOrigins
    a.rp.rejectCrossOrigin a.response.clientDataJson
  long : 37 ≤ authData.length
  shaped : Offer.Shaped c.publicKey
  sealed : Sealed E fmt attStmt (messageOf fmt authData (a.clientDataHash E) c.id c.publicKey)
  es256 : fmt = "fido-u2f" → ∃ x y, c.publicKey = .es256 x y

lemma established (hfmt : fmt ∈ verifiedFormats)
    (hx5c : fmt = "packed" → entryOf "x5c" attStmt ≠ none) (h : a.result E = .ok r)
    (hobj : a.Carries E fmt authData attStmt) :
    Established E a fmt authData attStmt r.credential := by
  obtain ⟨v, hv, rfl⟩ := Registration.accepts_of_ok h
  obtain ⟨rfl, rfl, rfl⟩ := hv.object.unique hobj
  have hvalid := AuthData.parseAuthenticatorData_valid hv.parses hv.attested
  obtain ⟨hlong, -⟩ := AuthData.parseAuthenticatorData_eq_ok.mp hv.parses
  obtain ⟨hsealed, hes256⟩ := sealed_of_verified hfmt hx5c hv.statement
  exact ⟨hv.binds, hlong, Offer.shaped_typedKey hvalid, hsealed, hes256⟩

/-- What two registrations have in common. -/
structure SameCeremony (E : Env) (a b : Attempt) : Prop where
  clientDataJson : a.response.clientDataJson = b.response.clientDataJson
  challenge : a.challenge.bytes = b.challenge.bytes
  origin : ∃ rcd, E.jsonClientData a.response.clientDataJson = .ok rcd ∧
    E.jsonClientData b.response.clientDataJson = .ok rcd ∧
    rcd.origin ∈ a.rp.allowedOrigins ∧ rcd.origin ∈ b.rp.allowedOrigins

lemma sameCeremony {c c' : Credential} (ha : Established E a fmt authData attStmt c)
    (hb : Established E b fmt authData' attStmt c')
    (heq : a.response.clientDataJson = b.response.clientDataJson) : SameCeremony E a b := by
  obtain ⟨-, rcd, hrcd, -, hch, horigin, -⟩ := ha.binds
  obtain ⟨-, rcd', hrcd', -, hch', horigin', -⟩ := hb.binds
  obtain rfl : rcd = rcd' := by
    rw [heq, hrcd'] at hrcd
    exact (Except.ok.inj hrcd).symm
  rw [hch] at hch'
  exact ⟨heq, Except.ok.inj hch', rcd, hrcd, hrcd', horigin, horigin'⟩

lemma clientDataJson_eq {c c' : Credential}
    (h : OneToOne E (a.inputs E fmt authData c ∪ b.inputs E fmt authData' c'))
    (hhash : a.clientDataHash E = b.clientDataHash E) :
    a.response.clientDataJson = b.response.clientDataJson := by
  have hdigest := congrArg List.Vector.toList hhash
  exact h.digests (Or.inl (Or.inl rfl)) (Or.inr (Or.inl rfl)) hdigest

end

/-- **A statement with certificates cannot be transplanted.** Two accepted registrations with
one statement are for the same client data, hence for one challenge and origin, and for the same
authenticator data; with U2F for the same relying party hash, credential id and key. -/
theorem statement_not_transplantable (E : Env) (a b : Attempt) (fmt : String)
    (authData authData' : Bytes) (attStmt : Value) (r r' : RegistrationResult)
    (hfmt : fmt ∈ verifiedFormats) (hx5c : fmt = "packed" → entryOf "x5c" attStmt ≠ none)
    (ha : a.result E = .ok r) (hobj : a.Carries E fmt authData attStmt)
    (hb : b.result E = .ok r') (hobj' : b.Carries E fmt authData' attStmt)
    (h : OneToOne E
      (a.inputs E fmt authData r.credential ∪ b.inputs E fmt authData' r'.credential)) :
    SameCeremony E a b ∧
    (fmt ≠ "fido-u2f" → authData = authData') ∧
    (fmt = "fido-u2f" → authData.take 32 = authData'.take 32 ∧
      r.credential.id = r'.credential.id ∧ r.credential.publicKey = r'.credential.publicKey) := by
  have ea := established hfmt hx5c ha hobj
  have eb := established hfmt hx5c hb hobj'
  -- one statement, one message
  have hmessage := ea.sealed.unique h (Or.inl (Or.inr rfl)) (Or.inr (Or.inr rfl)) eb.sealed
  by_cases hu2f : fmt = "fido-u2f"
  · subst hu2f
    obtain ⟨x, y, hpk⟩ := ea.es256 rfl
    obtain ⟨x', y', hpk'⟩ := eb.es256 rfl
    obtain ⟨hx, -, hlen⟩ : Offer.Shaped (.es256 x y) := hpk ▸ ea.shaped
    obtain ⟨hx', -, hlen'⟩ : Offer.Shaped (.es256 x' y') := hpk' ▸ eb.shaped
    have hpoint : (pointOf (.es256 x y)).length = 65 := hlen
    have hpoint' : (pointOf (.es256 x' y')).length = 65 := hlen'
    rw [hpk, hpk'] at hmessage ⊢
    obtain ⟨htake, hhash, hid, hsame⟩ :=
      messageOf_fidoU2f_inj ea.long eb.long hpoint hpoint' hmessage
    have hjson := clientDataJson_eq h hhash
    refine ⟨sameCeremony ea eb hjson, fun hne => absurd rfl hne, fun _ => ⟨htake, hid, ?_⟩⟩
    exact pointOf_inj hx hx' hsame
  · rw [messageOf, messageOf, if_neg hu2f, if_neg hu2f] at hmessage
    obtain ⟨hdata, hhash⟩ := verificationData_inj hmessage
    have hjson := clientDataJson_eq h hhash
    exact ⟨sameCeremony ea eb hjson, fun _ => hdata, fun he => absurd he hu2f⟩

section
open Recorded

/-- A registration whose statement is a packed one, as its bytes. -/
def packedObject : Bytes :=
  beBytes 32 0xa363666d74667061636b65646761747453746d74a363616c6726637369675847 ++ packedSig ++
    beBytes 8 0x637835638159013d ++ leafDer ++
    beBytes 11 0x6861757468446174615894 ++ createAuthData aaguid

def packedMessage : Bytes := verificationData (createAuthData aaguid) createHash

def packedHash : ArrayN UInt8 32 :=
  ⟨beBytes 32 0x53e3e8b6ccf1cef0c96f6379890480b3853c792c10279ac1cb820f7e4c289e3a,
    beBytes_length _ _⟩

def packedRecord : Record :=
  { registration aaguid with
    sha256 := (packedMessage, packedHash) :: (registration aaguid).sha256
    ecdsaAsn1 := [(leafPoint, packedMessage, packedSig)]
    cbor := [(coseKey, .map coseKeyMap),
      (packedObject, .map [(.text "fmt", .text "packed"), (.text "attStmt", packedStmt),
        (.text "authData", .bytes (createAuthData aaguid))])]
    x509 := certificates.x509
    x509Signed := certificates.x509Signed }

def transplantEnv : Env := { packedRecord.env with standardEncode := standard }

/-- The same response at two relying parties, one of which has the trust anchor. -/
def original : Attempt :=
  ⟨rp, clock, createChallenge, ⟨createJson, packedObject⟩, [0x75], Heap.new fun _ => ∅⟩

def transplanted : Attempt :=
  { original with rp := rp.withTrustAnchors [rootDer], userId := [0x76] }

lemma original_isOk : (original.result transplantEnv).isOk = true := by decide +kernel
lemma transplanted_isOk : (transplanted.result transplantEnv).isOk = true := by decide +kernel

lemma packedObject_ne : packedObject ≠ coseKey := by decide

lemma cbor_packedObject : transplantEnv.cborFromReader packedObject =
    .ok (.map [(.text "fmt", .text "packed"), (.text "attStmt", packedStmt),
      (.text "authData", .bytes (createAuthData aaguid))], packedObject.length) := by
  have hread : answer packedRecord.cbor packedObject = .ok (.map
      [(.text "fmt", .text "packed"), (.text "attStmt", packedStmt),
        (.text "authData", .bytes (createAuthData aaguid))]) := by
    rw [packedRecord, answer_tail packedObject_ne, answer_head]
  simp only [transplantEnv]
  exact Record.env_cborFromReader hread

lemma packedObject_carries : original.Carries transplantEnv "packed" (createAuthData aaguid)
    packedStmt :=
  ⟨_, _, cbor_packedObject, rfl, rfl, rfl⟩

lemma original_hash : original.clientDataHash transplantEnv = createHash := by decide +kernel

lemma packed_inputs (c : Credential) :
    original.inputs transplantEnv "packed" (createAuthData aaguid) c =
      {createJson, packedMessage} := by
  rw [Attempt.inputs, original_hash, messageOf, if_neg (by decide)]
  rfl

lemma packedStmt_x5c : entryOf "x5c" packedStmt ≠ none := by
  have hx5c : entryOf "x5c" packedStmt = some (X5c.arrayOf [leafDer]) := rfl
  rw [hx5c]
  exact Option.some_ne_none _

lemma digests_ne : transplantEnv.sha256Digest createJson ≠
    transplantEnv.sha256Digest packedMessage := by
  decide +kernel

lemma encodings_ne : transplantEnv.standardEncode (transplantEnv.sha256Digest createJson) ≠
    transplantEnv.standardEncode (transplantEnv.sha256Digest packedMessage) := by
  intro h
  have hchars := String.ofList_injective h
  revert hchars
  decide +kernel

lemma transplantEnv_oneToOne : OneToOne transplantEnv {createJson, packedMessage} where
  digests := by
    rw [Set.injOn_pair]
    exact fun h => absurd h digests_ne
  encodings := by
    rw [Set.image_pair, Set.injOn_pair]
    exact fun h => absurd h encodings_ne
  es256 key sig m m' h h' := by
    simp only [transplantEnv, Record.env_ecdsaP256Sha256Asn1, packedRecord, List.contains_iff_mem,
      List.mem_singleton, Prod.mk.injEq] at h h'
    rw [h.2.1, h'.2.1]
  rs256 key sig m m' h h' := by
    simp [transplantEnv, Record.env] at h

/-- Both registrations are for one ceremony. -/
theorem transplanted_same : SameCeremony transplantEnv original transplanted := by
  obtain ⟨r, hr⟩ := Outcome.isOk_iff.mp original_isOk
  obtain ⟨r', hr'⟩ := Outcome.isOk_iff.mp transplanted_isOk
  have hinputs := packed_inputs r.credential
  have hinputs' : transplanted.inputs transplantEnv "packed" (createAuthData aaguid)
    r'.credential = {createJson, packedMessage} := packed_inputs r'.credential
  obtain ⟨hsame, -, -⟩ := statement_not_transplantable transplantEnv original transplanted
    "packed" (createAuthData aaguid) (createAuthData aaguid) packedStmt r r' (by decide)
    (fun _ => packedStmt_x5c) hr packedObject_carries hr' packedObject_carries
    (by rw [hinputs, hinputs', Set.union_self]; exact transplantEnv_oneToOne)
  exact hsame

end

end Caden.Transplant
