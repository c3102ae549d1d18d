import Caden.AaguidText
import Caden.HonestRun
import Caden.Lib.Json

/-!
Publication of the statuses of authenticator models, up to the registrations they decide.

A publisher lists statuses by model in a BLOB that it signs. A relying party verifies the BLOB under
its trust root and takes the statuses for its policy, and an authenticator of any model registers.
-/

namespace Caden.Mds

open AuthData (Aaguid)
open Demo Metadata X5c
open Registration (checkMetadata)

/-- The encoders of other packages, with the one for JSON. -/
structure BlobWriters extends Writers where
  jsonToString : Json → String

/-- Who signs a BLOB, with the certificate chain from the leaf. -/
structure Publisher where
  certs : List Bytes
  sign : Bytes → Except String Bytes

section
variable (E : Env) (W : BlobWriters)

/-! ### The BLOB -/

def jwsSignEs256 (sign : Bytes → Except String Bytes) (message : Bytes) : Outcome String Bytes :=
  .ofExcept (sign message) fun e => s!"MDS BLOB signing failed: {e}"

/-- The header of the JWS. -/
def headerJson (chainDer : List Bytes) : String :=
  W.jsonToString (.obj 3 [("alg", .str "ES256"), ("typ", .str "JWT"),
    ("x5c", .arr (chainDer.map fun c => .str (E.standardEncode c)))])

def signingInput (chainDer : List Bytes) (payloadJson : String) : String :=
  W.urlSafeNoPadEncode (Text.asBytes (headerJson E W chainDer)) ++ "." ++
    W.urlSafeNoPadEncode (Text.asBytes payloadJson)

def buildMdsBlob (p : Publisher) (payloadJson : String) : Outcome String String := do
  let input := signingInput E W p.certs payloadJson
  let sig ← jwsSignEs256 p.sign (Text.asBytes input)
  return input ++ "." ++ W.urlSafeNoPadEncode sig

/-- The payload that lists statuses by model. -/
def payloadJson (models : List (Aaguid × List AuthenticatorStatus)) : String :=
  W.jsonToString (.obj 1 [("entries", .arr (models.map fun e => .obj 2
    [("aaguid", .str (hyphenated false e.1)),
      ("statusReports", .arr (e.2.map fun s => .obj 1 [("status", .str s.display)]))]))])

/-! ### The authenticator -/

def RP_ID : String := "localhost"
def ORIGIN : String := "http://localhost"

/-- The sign count is 0. -/
def makeAuthenticatorData (rpId : String) (flags : UInt8) (aaguid : Aaguid)
    (credId coseKeyCbor : Bytes) : Bytes :=
  (Crypto.sha256Of E (Text.asBytes rpId)).toList ++ [flags] ++ beBytes 4 0 ++ aaguid.toList ++
    beBytes 2 credId.length ++ credId ++ coseKeyCbor

/-- The response of a model to a challenge, for a fresh key and credential id. -/
def buildAttestationResponse {ε : Type} (publicKeyBytes credId : Bytes) (challenge : Challenge)
    (aaguid : Aaguid) : Outcome ε (Challenge × AuthenticatorAttestationResponse) := do
  let clientDataJson :=
    makeClientDataJsonBytes W.toWriters "webauthn.create" challenge.bytes ORIGIN
  let coseKey ← encodeEs256CoseKey W.toWriters publicKeyBytes
  let authData := makeAuthenticatorData E RP_ID 0x41 aaguid credId coseKey
  return (challenge, ⟨clientDataJson, makeAttestationObject W.toWriters authData⟩)

end

/-! ### What is read -/

/-- The payload as it is read. -/
def payloadOf (models : List (Aaguid × List AuthenticatorStatus)) : MdsBlobPayload :=
  ⟨models.map fun e => ⟨some (hyphenated false e.1), e.2.map fun s => ⟨s.display⟩⟩⟩

/-- The statuses that a model is listed with, in their order. -/
def published (models : List (Aaguid × List AuthenticatorStatus)) (aaguid : Aaguid) :
    List AuthenticatorStatus :=
  Fold.valuesAt models aaguid

/-- The readers give back what was written, and base64url has no dot. -/
structure ReadsBlob (E : Env) (W : BlobWriters) (p : Publisher) (payloadJson : String)
    (payload : MdsBlobPayload) : Prop where
  header : E.jsonJoseHeader (Text.asBytes (headerJson E W p.certs)) =
    .ok ⟨"ES256", p.certs.map E.standardEncode⟩
  payload : E.jsonMdsBlobPayload (Text.asBytes payloadJson) = .ok payload
  certs : ∀ c ∈ p.certs, E.standardDecode (E.standardEncode c) = .ok c
  headerBytes : E.urlSafeNoPadDecode (W.urlSafeNoPadEncode
    (Text.asBytes (headerJson E W p.certs))) = .ok (Text.asBytes (headerJson E W p.certs))
  payloadBytes : E.urlSafeNoPadDecode (W.urlSafeNoPadEncode (Text.asBytes payloadJson)) =
    .ok (Text.asBytes payloadJson)
  signature : ∀ s, p.sign (Text.asBytes (signingInput E W p.certs payloadJson)) = .ok s →
    E.urlSafeNoPadDecode (W.urlSafeNoPadEncode s) = .ok s
  dotless : ∀ b, '.' ∉ (W.urlSafeNoPadEncode b).toList

/-- The chain is in order, and signatures verify under the leaf's key. -/
structure Publisher.Genuine (E : Env) (p : Publisher) : Prop where
  linked : p.certs.IsChain (IssuedBy E)
  leaf : ∃ leaf leafPk, p.certs.head? = some leaf ∧
    CertBytes.extractEcP256PublicKeyFromCert leaf = .ok leafPk ∧
    ∀ m s, p.sign m = .ok s → E.ecdsaP256Sha256Fixed leafPk m s = true

section
variable {E : Env} {W : BlobWriters} {p : Publisher} {blob payloadText : String}
  {payload : MdsBlobPayload} {trustRoot : Bytes}
  {models : List (Aaguid × List AuthenticatorStatus)} {aaguid : Aaguid}

lemma isJws_built (hr : ReadsBlob E W p payloadText payload) (hne : p.certs ≠ [])
    (hblob : buildMdsBlob E W p payloadText = .ok blob) :
    ∃ s, p.sign (Text.asBytes (signingInput E W p.certs payloadText)) = .ok s ∧
      IsJws E blob ⟨"ES256", p.certs, Text.asBytes (signingInput E W p.certs payloadText),
        Text.asBytes payloadText, s⟩ := by
  simp only [buildMdsBlob, jwsSignEs256, Outcome.bind_eq_ok, Outcome.ofExcept_eq_ok,
    Outcome.pure_eq, Outcome.ok.injEq] at hblob
  obtain ⟨s, hs, rfl⟩ := hblob
  have hcerts : DecodesTo E (p.certs.map E.standardEncode) p.certs := by
    rw [DecodesTo, List.forall₂_map_left_iff, List.forall₂_same]
    exact hr.certs
  exact ⟨s, hs, _, _, _, _, _, ⟨rfl, hr.dotless _, hr.dotless _, hr.dotless _⟩, hr.headerBytes,
    hr.payloadBytes, hr.signature s hs, hr.header, by simpa using hne, hcerts, rfl, rfl⟩

lemma Publisher.Genuine.ne_nil (hp : p.Genuine E) : p.certs ≠ [] := by
  obtain ⟨leaf, -, hleaf, -⟩ := hp.leaf
  rintro hnil
  rw [hnil] at hleaf
  cases hleaf

/-- **A built BLOB is verified under the roots that signed its chain**, and refused under all
others. -/
lemma verify_built (hp : p.Genuine E) (hr : ReadsBlob E W p payloadText payload)
    (hblob : buildMdsBlob E W p payloadText = .ok blob) {root : Bytes}
    (hroot : p.certs.getLast? = some root) :
    verifyMdsBlob E blob trustRoot =
      if certSignedBy E root trustRoot = true then .ok payload else .err .mdsRootUntrusted := by
  obtain ⟨s, hs, hjws⟩ := isJws_built hr hp.ne_nil hblob
  obtain ⟨leaf, leafPk, hleaf, hpk, hverifies⟩ := hp.leaf
  have hsplit : splitJwsWithX5c E blob .mdsBlobMalformed = .ok _ := splitJwsWithX5c_eq_ok.mpr hjws
  have hchain : verifyChainOrder E .mdsChainInvalid p.certs = .ok ⟨⟩ :=
    verifyChainOrder_eq_ok.mpr hp.linked
  have hindex : (Slice.index p.certs 0 : Res Bytes) = .ok leaf :=
    Slice.index_eq_ok.mpr (by rwa [← List.head?_eq_getElem?])
  have hsig : Crypto.verifyEs256Jws E leafPk
      (Text.asBytes (signingInput E W p.certs payloadText)) s = .ok () :=
    Crypto.verifyEs256Jws_eq_ok.mpr (hverifies _ _ hs)
  simp only [verifyMdsBlob, hsplit, Outcome.ok_bind, hchain, hroot, hindex, hpk, hsig,
    hr.payload, Outcome.rejectIf, Outcome.expect, Outcome.mapErr, Outcome.ofExcept, ne_eq,
    not_true_eq_false, if_false]
  by_cases h : certSignedBy E root trustRoot = true
  · simp [h]
  · simp [h]

/-! ### The statuses -/

lemma statusesOf_payload (e : Aaguid × List AuthenticatorStatus) :
    statusesOf ⟨some (hyphenated false e.1), e.2.map fun s => ⟨s.display⟩⟩ = e.2 := by
  simp [statusesOf, List.filterMap_map, statusFromWire_eq_some.mpr rfl]

lemma keyed_payload : keyed (payloadOf models).entries = models := by
  rw [keyed, payloadOf, List.filterMap_map]
  refine (List.filterMap_congr fun e _ => ?_).trans List.filterMap_some
  have haaguid : aaguidOf ⟨some (hyphenated false e.1), e.2.map fun s => ⟨s.display⟩⟩ =
      some e.1 := aaguidOf_eq_some.mpr ⟨_, rfl, parseAaguid_hyphenated false e.1⟩
  rw [Function.comp, haaguid, Option.map_some, statusesOf_payload]

lemma not_panics_payload : ∀ e ∈ (payloadOf models).entries, ¬ Panics e := by
  intro e he
  obtain ⟨d, -, rfl⟩ := List.mem_map.mp he
  rintro ⟨s, ⟨⟩, hs⟩
  rw [parseAaguid_hyphenated] at hs
  cases hs

/-- **The statuses that are read are those that were published.** -/
lemma parse_payload : ∃ m, (payloadOf models).entries.foldlM mergeEntry ∅ = .ok m ∧
    ∀ aaguid, m.lookup aaguid =
      if ∃ e ∈ models, e.1 = aaguid then some (published models aaguid) else none := by
  rcases foldlM_mergeEntry (payloadOf models).entries ∅ with ⟨⟨e, he, hp⟩, -⟩ | ⟨-, h⟩
  · exact absurd hp (not_panics_payload e he)
  · refine ⟨_, h, fun aaguid => ?_⟩
    have hmerge := Fold.lookup_mergeAll models aaguid
    rw [keyed_payload]
    exact hmerge

/-- What the policy decides for a model whose statuses were published. -/
def statusCheck (models : List (Aaguid × List AuthenticatorStatus)) (aaguid : Aaguid) : Res Unit :=
  match (published models aaguid).find? (·.isCompromised) with
  | some status => .err (.authenticatorStatusUntrusted status)
  | none => .ok ()

lemma checkMetadata_published {m : StatusMap}
    {entries : List (Aaguid × List AuthenticatorStatus)}
    (hm : ∀ aaguid, m.lookup aaguid =
      if ∃ e ∈ models, e.1 = aaguid then some (published models aaguid) else none)
    (hentries : Fold.Enumerates entries m) :
    checkMetadata (Fold.collect entries) aaguid = statusCheck models aaguid := by
  have hlookup := (hentries.lookup_collect aaguid).trans (hm aaguid)
  by_cases h : ∃ e ∈ models, e.1 = aaguid
  · rw [if_pos h] at hlookup
    rcases hfind : (published models aaguid).find? (·.isCompromised) with _ | status <;>
      simp [checkMetadata, statusCheck, hlookup, hfind]
  · have hnone : published models aaguid = [] := by
      rw [published, Fold.valuesAt, List.filter_eq_nil_iff.mpr, List.flatMap_nil]
      intro e he
      simpa using fun heq => h ⟨e, he, heq⟩
    rw [if_neg h] at hlookup
    simp [checkMetadata, statusCheck, hlookup, hnone]

end

/-! ### The registration of a model -/

section
variable {E : Env} {W : BlobWriters} {rp : RelyingParty} {clock : Clock} {challenge : Challenge}
  {response : AuthenticatorAttestationResponse} {userId x y credId : Bytes} {heap : Heap}
  {aaguid : Aaguid}

/-- The authenticator data of the response. -/
def authData (E : Env) (W : BlobWriters) (key : PublicKey) (credId : Bytes) (aaguid : Aaguid) :
    Bytes :=
  makeAuthenticatorData E RP_ID 0x41 aaguid credId
    (W.cborIntoWriter (.map (coseEntries key)))

/-- A response to a valid challenge, which is read as it was written, under a policy that has room
for the authenticator. -/
structure Attempt (E : Env) (W : BlobWriters) (rp : RelyingParty) (clock : Clock) (heap : Heap)
    (x y credId : Bytes) (challenge : Challenge) (aaguid : Aaguid)
    (response : AuthenticatorAttestationResponse) : Prop where
  written : (buildAttestationResponse E W (uncompressed x y) credId challenge aaguid :
    Outcome Unit _) = .ok (challenge, response)
  point : Enrollable (.es256 x y)
  idLength : 1 ≤ credId.length ∧ credId.length ≤ 1023
  coseKey : Grammar.IsItem E (.map (coseEntries (.es256 x y)))
    (W.cborIntoWriter (.map (coseEntries (.es256 x y))))
  object : Grammar.IsItem E (.map (objectEntries (authData E W (.es256 x y) credId aaguid)))
    (makeAttestationObject W.toWriters (authData E W (.es256 x y) credId aaguid))
  clientData : ReadsClientData E W.toWriters "webauthn.create" challenge.bytes ORIGIN
  unexpired : challenge.Unexpired (clock 0)
  unused : Unused rp.usedChallenges challenge.bytes heap
  id : rp.id = RP_ID
  origin : ORIGIN ∈ rp.allowedOrigins
  backup : rp.requireBackupEligible = false
  algorithm : rp.allowedAlgorithms = [] ∨ COSE_ES256 ∈ rp.allowedAlgorithms

lemma Attempt.response_eq
    (h : Attempt E W rp clock heap x y credId challenge aaguid response) :
    response = ⟨makeClientDataJsonBytes W.toWriters "webauthn.create" challenge.bytes ORIGIN,
      makeAttestationObject W.toWriters (authData E W (.es256 x y) credId aaguid)⟩ := by
  have hwritten := h.written
  have hkey : (encodeEs256CoseKey W.toWriters (uncompressed x y) : Outcome Unit Bytes) =
      .ok (W.cborIntoWriter (.map (coseEntries (.es256 x y)))) := encodeKey_eq h.point
  rw [buildAttestationResponse, hkey, Outcome.ok_bind, Outcome.pure_eq, Outcome.ok.injEq,
    Prod.mk.injEq] at hwritten
  exact hwritten.2.symm

/-- What the authenticator data is parsed to. -/
def modelData (E : Env) (W : BlobWriters) (key : PublicKey) (credId : Bytes) (aaguid : Aaguid) :
    AuthData.AuthenticatorData :=
  writtenData E RP_ID 0 (some ⟨aaguid, credId, decodedKey key⟩) (authData E W key credId aaguid)

lemma Attempt.parses (h : Attempt E W rp clock heap x y credId challenge aaguid response) :
    AuthData.parseAuthenticatorData E (authData E W (.es256 x y) credId aaguid) =
      .ok (modelData E W (.es256 x y) credId aaguid) := by
  refine parse_created h.idLength h.point h.coseKey ?_
  simp only [authData, makeAuthenticatorData, List.append_assoc]
  rfl

lemma Attempt.checks (h : Attempt E W rp clock heap x y credId challenge aaguid response) :
    Registration.checkAuthData E rp (modelData E W (.es256 x y) credId aaguid) =
      (checkMetadata rp.authenticatorMetadata aaguid >>= fun _ =>
        .ok ⟨aaguid, credId, decodedKey (.es256 x y)⟩) := by
  have halg : ¬ (rp.allowedAlgorithms ≠ [] ∧
      Registration.coseAlg (decodedKey (.es256 x y)) ∉ rp.allowedAlgorithms) := by
    rintro ⟨hne, hnot⟩
    exact hnot (h.algorithm.resolve_left hne)
  simp only [Registration.checkAuthData, modelData, writtenData, Crypto.sha256_eq, Outcome.ok_bind,
    Outcome.rejectIf, Outcome.okOr, h.id, h.backup, ne_eq, not_true_eq_false, if_false,
    Bool.false_and, Bool.and_false, Bool.true_eq_false, Bool.false_eq_true, if_neg halg,
    Outcome.pure_eq]

/-- **Of a response that was written for the policy, the statuses of its model decide.** -/
lemma Attempt.result (hs : heap.Sound)
    (h : Attempt E W rp clock heap x y credId challenge aaguid response) :
    ((Registration.verifyRegistration E rp clock challenge response userId).run heap).1 =
      (checkMetadata rp.authenticatorMetadata aaguid >>= fun _ =>
        .ok ⟨registeredCredential rp (.es256 x y) credId 0 userId (clock 1), .none, false, false,
          none⟩) := by
  have hresponse := h.response_eq
  have hjson : response.clientDataJson =
      makeClientDataJsonBytes W.toWriters "webauthn.create" challenge.bytes ORIGIN := by
    rw [hresponse]
  have hbinds : ClientData.Binds E "webauthn.create" challenge.bytes rp.allowedOrigins
      rp.rejectCrossOrigin (makeClientDataJsonBytes W.toWriters "webauthn.create" challenge.bytes
        ORIGIN) := (binds_written h.clientData).mpr h.origin
  have hutf : (Text.fromUtf8 (makeClientDataJsonBytes W.toWriters "webauthn.create"
      challenge.bytes ORIGIN)).isSome := by
    simp [makeClientDataJsonBytes, Text.fromUtf8_asBytes]
  obtain ⟨q, hq⟩ := Registration.exists_checkClientData.mpr
    ⟨h.unexpired, hjson ▸ hutf, hjson ▸ hbinds⟩
  have hobject : Registration.parseAttestationObject E response.attestationObject =
      .ok ("none", authData E W (.es256 x y) credId aaguid, .map []) := by
    rw [hresponse]
    exact Registration.parseAttestationObject_eq_ok.mpr (isAttestationObject_written h.object.2)
  rw [Registration.run_of_passes hq ((useChallenge_eq_ok hs).mpr h.unused),
    Registration.verifyAttestation, Crypto.sha256_eq, Outcome.ok_bind, hobject, Outcome.ok_bind]
  simp only [h.parses, Outcome.ok_bind, h.checks]
  rcases checkMetadata rp.authenticatorMetadata aaguid with u | e | _ <;> rfl

lemma Attempt.withAuthenticatorMetadata
    (h : Attempt E W rp clock heap x y credId challenge aaguid response)
    (entries : List (Aaguid × List AuthenticatorStatus)) :
    Attempt E W (rp.withAuthenticatorMetadata entries) clock heap x y credId challenge aaguid
      response :=
  ⟨h.written, h.point, h.idLength, h.coseKey, h.object, h.clientData, h.unexpired, h.unused, h.id,
    h.origin, h.backup, h.algorithm⟩

end

/-- The root has signed the end of the publisher's chain. -/
def Anchored (E : Env) (p : Publisher) (trustRoot : Bytes) : Prop :=
  ∃ root, p.certs.getLast? = some root ∧ SignedBy E root trustRoot

/-- **Published statuses are enforced.** A BLOB that a publisher builds is refused under all roots
but those that have signed its chain. Under these it is parsed to the statuses as they were
published, and with them in the policy, the registration of a model is refused with its first
compromised status, and accepted where it has none. -/
theorem published_enforced (E : Env) (W : BlobWriters) (p : Publisher)
    (models : List (Aaguid × List AuthenticatorStatus)) (blob : String) (trustRoot : Bytes)
    (hp : p.Genuine E) (hr : ReadsBlob E W p (payloadJson W models) (payloadOf models))
    (hblob : buildMdsBlob E W p (payloadJson W models) = .ok blob) :
    (¬ Anchored E p trustRoot → verifyAndParseMdsBlob E blob trustRoot = .err .mdsRootUntrusted) ∧
    (Anchored E p trustRoot → ∃ m, verifyAndParseMdsBlob E blob trustRoot = .ok m ∧
      (∀ aaguid, m.lookup aaguid =
        if ∃ e ∈ models, e.1 = aaguid then some (published models aaguid) else none) ∧
      ∀ (entries : List (Aaguid × List AuthenticatorStatus)), Fold.Enumerates entries m →
        ∀ (rp : RelyingParty) (clock : Clock) (sets : Arc → Finset Bytes) (x y credId : Bytes)
          (challenge : Challenge) (aaguid : Aaguid) (response : AuthenticatorAttestationResponse)
          (userId : Bytes),
          Attempt E W rp clock (Heap.new sets) x y credId challenge aaguid response →
          ((Registration.verifyRegistration E (rp.withAuthenticatorMetadata entries) clock challenge
            response userId).run (Heap.new sets)).1 =
            (statusCheck models aaguid >>= fun _ => .ok
              ⟨registeredCredential rp (.es256 x y) credId 0 userId (clock 1), .none, false, false,
                none⟩)) := by
  obtain ⟨root, hroot⟩ := Option.isSome_iff_exists.mp
    (List.getLast?_isSome.mpr hp.ne_nil)
  have hanchored : Anchored E p trustRoot ↔ certSignedBy E root trustRoot = true := by
    rw [Anchored, hroot, certSignedBy_iff]
    simp
  refine ⟨fun h => ?_, fun h => ?_⟩
  · rw [verifyAndParseMdsBlob, verify_built hp hr hblob hroot, if_neg (hanchored.not.mp h)]
    rfl
  · obtain ⟨m, hm, hlookup⟩ := @parse_payload models
    refine ⟨m, ?_, hlookup, fun entries hentries rp clock sets x y credId challenge aaguid response
      userId hattempt => ?_⟩
    · rw [verifyAndParseMdsBlob, verify_built hp hr hblob hroot, if_pos (hanchored.mp h),
        Outcome.ok_bind, hm]
    · rw [(hattempt.withAuthenticatorMetadata entries).result (Heap.sound_new sets)]
      have hcheck : checkMetadata (Fold.collect entries) aaguid = statusCheck models aaguid :=
        checkMetadata_published hlookup hentries
      exact congrArg (· >>= _) hcheck

/-! ### A model that is revoked after its certification -/

mutual

/-- The compact text of JSON whose strings need no escapes. -/
def compact : Json → String
  | .bool b => if b then "true" else "false"
  | .num n => toString n
  | .str s => "\"" ++ s ++ "\""
  | .arr items => "[" ++ compactItems items ++ "]"
  | .obj _ members => "\x7b" ++ compactMembers members ++ "\x7d"

def compactItems : List Json → String
  | [] => ""
  | [j] => compact j
  | j :: k :: items => compact j ++ "," ++ compactItems (k :: items)

def compactMembers : List (String × Json) → String
  | [] => ""
  | [(key, j)] => "\"" ++ key ++ "\":" ++ compact j
  | (key, j) :: m :: members =>
    "\"" ++ key ++ "\":" ++ compact j ++ "," ++ compactMembers (m :: members)

end

section
open Recorded

def revokedModel : List (Aaguid × List AuthenticatorStatus) :=
  [(noAaguid, [.fidoCertified]), (noAaguid, [.revoked])]

def blobWriters : BlobWriters := { writers with jsonToString := compact }

@[irreducible] def headerText : String :=
  compact (.obj 3 [("alg", .str "ES256"), ("typ", .str "JWT"),
    ("x5c", .arr [.str (standard leafDer)])])

@[irreducible] def payloadText : String := payloadJson blobWriters revokedModel

@[irreducible] def blobInput : Bytes :=
  Text.asBytes (urlSafe (Text.asBytes headerText) ++ "." ++ urlSafe (Text.asBytes payloadText))

def blobSignature : Bytes :=
  beBytes 32 0xdb6775fb7cee7aaeef485f16a3db6a24833f724786874f57c22ce33a0e206550 ++
    beBytes 32 0xd396c63b719ba1908b9b6a46c13291c8918e26649968b2e1410b06b654dcb0bc

/-- The holder of the recorded certificate, who signs this BLOB. -/
def publisher : Publisher where
  certs := [leafDer]
  sign m := if m = blobInput then .ok blobSignature else .error ""

/-- The BLOB, and the registration of the simulated authenticator. -/
def blobRecord : Record :=
  { simulated with
    ecdsaFixed := [(leafPoint, blobInput, blobSignature)]
    joseHeader := [(Text.asBytes headerText, ⟨"ES256", [standard leafDer]⟩)]
    mdsBlobPayload := [(Text.asBytes payloadText, payloadOf revokedModel)]
    urlSafe := [(textOf createChallenge, createChallenge.bytes),
      (urlSafe (Text.asBytes headerText), Text.asBytes headerText),
      (urlSafe (Text.asBytes payloadText), Text.asBytes payloadText),
      (urlSafe blobSignature, blobSignature)]
    standard := [(standard leafDer, leafDer)]
    x509 := certificates.x509
    x509Signed := certificates.x509Signed }

/-- The environment of a record, with the standard encoder. -/
def encodingEnv (r : Record) : Env := { r.env with standardEncode := standard }

lemma encodingEnv_standardDecode (r : Record) :
    (encodingEnv r).standardDecode = answer r.standard := rfl

lemma encodingEnv_cborFromReader (r : Record) :
    (encodingEnv r).cborFromReader = r.env.cborFromReader := rfl

lemma encodingEnv_urlSafeNoPadDecode (r : Record) :
    (encodingEnv r).urlSafeNoPadDecode = answer r.urlSafe := rfl

lemma encodingEnv_jsonClientData (r : Record) :
    (encodingEnv r).jsonClientData = answer r.clientData := rfl

def blobEnv : Env := encodingEnv blobRecord

lemma urlSafe_ne_of_head {a b c a' b' c' : UInt8} {t t' : Bytes}
    (h : base64 '-' '_' [] [] [a, b, c] ≠ base64 '-' '_' [] [] [a', b', c']) :
    urlSafe (a :: b :: c :: t) ≠ urlSafe (a' :: b' :: c' :: t') := by
  have hsplit : ∀ (x y z : UInt8) (r : Bytes), base64 '-' '_' [] [] (x :: y :: z :: r) =
      base64 '-' '_' [] [] [x, y, z] ++ base64 '-' '_' [] [] r := fun _ _ _ _ => rfl
  refine urlSafe_ne fun heq => h ?_
  rw [hsplit, hsplit] at heq
  exact List.append_inj_left heq (by simp [base64])

lemma asBytes_headerText : ∃ t, Text.asBytes headerText = 0x7b :: 0x22 :: 0x61 :: t := by
  have hbrace : Text.asBytes "\x7b" = [0x7b] := by decide
  have hquote : Text.asBytes "\"" = [0x22] := by decide
  have halg : Text.asBytes "alg" = [0x61, 0x6c, 0x67] := by decide
  simp only [headerText, compact, compactMembers, Text.asBytes_append, List.append_assoc, hbrace,
    hquote, halg, List.cons_append, List.nil_append]
  exact ⟨_, rfl⟩

lemma asBytes_payloadText : ∃ t, Text.asBytes payloadText = 0x7b :: 0x22 :: 0x65 :: t := by
  have hbrace : Text.asBytes "\x7b" = [0x7b] := by decide
  have hquote : Text.asBytes "\"" = [0x22] := by decide
  have hentries : Text.asBytes "entries" = [0x65, 0x6e, 0x74, 0x72, 0x69, 0x65, 0x73] := by decide
  simp only [payloadText, payloadJson, blobWriters, compact, compactMembers, Text.asBytes_append,
    List.append_assoc, hbrace, hquote, hentries, List.cons_append, List.nil_append]
  exact ⟨_, rfl⟩

lemma blobSignature_eq : ∃ t, blobSignature = 0xdb :: 0x67 :: 0x75 :: t := ⟨_, rfl⟩

lemma texts_ne : urlSafe (Text.asBytes headerText) ≠ textOf createChallenge ∧
    urlSafe (Text.asBytes payloadText) ≠ textOf createChallenge ∧
    urlSafe (Text.asBytes payloadText) ≠ urlSafe (Text.asBytes headerText) ∧
    urlSafe blobSignature ≠ textOf createChallenge ∧
    urlSafe blobSignature ≠ urlSafe (Text.asBytes headerText) ∧
    urlSafe blobSignature ≠ urlSafe (Text.asBytes payloadText) := by
  obtain ⟨header, hheader⟩ := asBytes_headerText
  obtain ⟨payload, hpayload⟩ := asBytes_payloadText
  obtain ⟨signature, hsignature⟩ := blobSignature_eq
  have hchallenge : textOf createChallenge = urlSafe (1 :: 1 :: 1 :: List.replicate 29 1) := rfl
  rw [hheader, hpayload, hsignature, hchallenge]
  exact ⟨urlSafe_ne_of_head (by decide), urlSafe_ne_of_head (by decide),
    urlSafe_ne_of_head (by decide), urlSafe_ne_of_head (by decide), urlSafe_ne_of_head (by decide),
    urlSafe_ne_of_head (by decide)⟩

lemma headerJson_eq : headerJson blobEnv blobWriters publisher.certs = headerText := by
  rw [headerText]
  rfl

lemma payloadJson_eq : payloadJson blobWriters revokedModel = payloadText := by
  rw [payloadText]

lemma publisher_sign {m s : Bytes} (h : publisher.sign m = .ok s) :
    m = blobInput ∧ s = blobSignature := by
  unfold publisher at h
  dsimp only at h
  split at h
  · rename_i hm
    cases h
    exact ⟨hm, rfl⟩
  · cases h

lemma decode_header : answer blobRecord.urlSafe (urlSafe (Text.asBytes headerText)) =
    .ok (Text.asBytes headerText) := by
  rw [blobRecord]
  exact (answer_tail texts_ne.1 _ _).trans (answer_head _ _ _)

lemma decode_payload : answer blobRecord.urlSafe (urlSafe (Text.asBytes payloadText)) =
    .ok (Text.asBytes payloadText) := by
  rw [blobRecord]
  exact (answer_tail texts_ne.2.1 _ _).trans
    ((answer_tail texts_ne.2.2.1 _ _).trans (answer_head _ _ _))

lemma decode_signature : answer blobRecord.urlSafe (urlSafe blobSignature) =
    .ok blobSignature := by
  rw [blobRecord]
  exact (answer_tail texts_ne.2.2.2.1 _ _).trans ((answer_tail texts_ne.2.2.2.2.1 _ _).trans
    ((answer_tail texts_ne.2.2.2.2.2 _ _).trans (answer_head _ _ _)))

lemma read_header : answer blobRecord.joseHeader (Text.asBytes headerText) =
    .ok ⟨"ES256", [standard leafDer]⟩ := by
  rw [blobRecord]
  exact answer_head _ _ _

lemma read_payload : answer blobRecord.mdsBlobPayload (Text.asBytes payloadText) =
    .ok (payloadOf revokedModel) := by
  rw [blobRecord]
  exact answer_head _ _ _

lemma decode_leaf : answer blobRecord.standard (standard leafDer) = .ok leafDer := by
  rw [blobRecord]
  exact answer_head _ _ _

lemma readsBlob_revoked : ReadsBlob blobEnv blobWriters publisher
    (payloadJson blobWriters revokedModel) (payloadOf revokedModel) where
  header := by
    rw [headerJson_eq]
    exact read_header
  payload := by
    rw [payloadJson_eq]
    exact read_payload
  certs := by
    have hencode : blobEnv.standardEncode = standard := rfl
    intro c hc
    rw [List.mem_singleton.mp hc, hencode, blobEnv, encodingEnv_standardDecode]
    exact decode_leaf
  headerBytes := by
    rw [headerJson_eq]
    exact decode_header
  payloadBytes := by
    rw [payloadJson_eq]
    exact decode_payload
  signature := by
    intro s hs
    rw [(publisher_sign hs).2]
    exact decode_signature
  dotless := dot_not_mem_urlSafe

lemma publisher_genuine : publisher.Genuine blobEnv where
  linked := List.isChain_singleton _
  leaf := by
    refine ⟨leafDer, leafPoint, rfl, extract_leafDer, fun m s hs => ?_⟩
    obtain ⟨rfl, rfl⟩ := publisher_sign hs
    exact List.contains_iff_mem.mpr (List.mem_singleton_self _)

lemma anchored_revoked : Anchored blobEnv publisher rootDer := by
  have hx509 : blobEnv.x509FromDer = fun d => certificates.x509.lookup d := rfl
  have hverify : blobEnv.x509VerifySignature = fun cert key =>
      certificates.x509Signed.contains (cert.tbsCertificate, key) := rfl
  have hroot : blobEnv.x509FromDer rootDer = some rootCert := by
    have h : (rootDer == leafDer) = false := beq_eq_false_iff_ne.mpr rootDer_ne_leafDer
    rw [hx509]
    simp [certificates, List.lookup_cons, h]
  have hleaf : blobEnv.x509FromDer leafDer = some leafCert := by
    rw [hx509]
    simp [certificates]
  have hsigned : blobEnv.x509VerifySignature leafCert rootCert.publicKey = true := by
    rw [hverify]
    simp [certificates, rootCert]
  exact ⟨leafDer, rfl, leafCert, rootCert, hleaf, hroot, hsigned⟩

lemma written_revoked : (buildAttestationResponse blobEnv blobWriters (uncompressed keyX keyY)
    credentialId createChallenge noAaguid : Outcome Unit _) =
      .ok (createChallenge, ⟨createJson', objectBytes⟩) := by
  have hkey : (encodeEs256CoseKey blobWriters.toWriters (uncompressed keyX keyY) :
      Outcome Unit Bytes) =
      .ok (blobWriters.cborIntoWriter (.map (coseEntries (.es256 keyX keyY)))) :=
    encodeKey_eq enrollable_key
  rw [buildAttestationResponse, hkey]
  rfl

lemma isItem_revoked {v : Value} {item : Bytes} (h : Grammar.IsItem simulated.env v item) :
    Grammar.IsItem blobEnv v item := by
  refine ⟨h.1, ?_⟩
  rw [blobEnv, encodingEnv_cborFromReader]
  exact h.2

lemma authData_revoked :
    authData blobEnv blobWriters (.es256 keyX keyY) credentialId noAaguid = createBytes := by
  have hid : Crypto.sha256Of blobEnv (Text.asBytes RP_ID) = rpIdHash := sha256_rpId
  rw [authData, makeAuthenticatorData, hid]
  rfl

lemma decode_challenge : answer blobRecord.urlSafe (textOf createChallenge) =
    .ok createChallenge.bytes := by
  rw [blobRecord]
  exact answer_head _ _ _

lemma clientData_revoked : ReadsClientData blobEnv blobWriters.toWriters "webauthn.create"
    createChallenge.bytes ORIGIN where
  json := by
    have hjson := reads_create.clientData.json
    rw [Record.env_jsonClientData] at hjson
    rw [blobEnv, encodingEnv_jsonClientData, blobRecord]
    exact hjson
  base64 := by
    rw [blobEnv, encodingEnv_urlSafeNoPadDecode]
    exact decode_challenge

lemma attempt_revoked : Attempt blobEnv blobWriters rp clock (Heap.new fun _ => ∅) keyX keyY
    credentialId createChallenge noAaguid ⟨createJson', objectBytes⟩ where
  written := written_revoked
  point := enrollable_key
  idLength := by simp [credentialId]
  coseKey := isItem_revoked isItem_coseKey
  object := by
    rw [authData_revoked]
    exact isItem_revoked isItem_object
  clientData := clientData_revoked
  unexpired := ⟨le_rfl, by simp [clock, createChallenge,
    CHALLENGE_MAX_AGE_SECS, NANOS_PER_SEC]⟩
  unused := by simp [Unused, rp, RelyingParty.new, RelyingParty.withOrigins]
  id := rfl
  origin := List.mem_singleton_self _
  backup := rfl
  algorithm := Or.inl rfl

/-- The statuses of this BLOB keep the authenticator from registering. -/
theorem revoked_refused : ∃ blob m, buildMdsBlob blobEnv blobWriters publisher
      (payloadJson blobWriters revokedModel) = .ok blob ∧
    verifyAndParseMdsBlob blobEnv blob rootDer = .ok m ∧
    ∀ entries, Fold.Enumerates entries m →
      ((Registration.verifyRegistration blobEnv (rp.withAuthenticatorMetadata entries) clock
        createChallenge ⟨createJson', objectBytes⟩ [0x75]).run (Heap.new fun _ => ∅)).1 =
        .err (.authenticatorStatusUntrusted .revoked) := by
  have hinput : Text.asBytes (signingInput blobEnv blobWriters publisher.certs
      (payloadJson blobWriters revokedModel)) = blobInput := by
    rw [signingInput, headerJson_eq, payloadJson_eq, blobInput]
    rfl
  have hsign : publisher.sign blobInput = .ok blobSignature := if_pos rfl
  obtain ⟨blob, hblob⟩ : ∃ blob, buildMdsBlob blobEnv blobWriters publisher
      (payloadJson blobWriters revokedModel) = .ok blob := by
    rw [buildMdsBlob, hinput, jwsSignEs256, hsign]
    exact ⟨_, rfl⟩
  obtain ⟨-, hverified⟩ := published_enforced blobEnv blobWriters publisher revokedModel blob
    rootDer publisher_genuine readsBlob_revoked hblob
  obtain ⟨m, hm, -, hregister⟩ := hverified anchored_revoked
  refine ⟨blob, m, hblob, hm, fun entries hentries => ?_⟩
  rw [hregister entries hentries rp clock (fun _ => ∅) keyX keyY credentialId createChallenge
    noAaguid _ [0x75] attempt_revoked]
  rfl

end

end Caden.Mds
