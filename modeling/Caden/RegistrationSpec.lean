import Caden.Registration

/-!
What registration decides, and what it stores.
-/

namespace Caden.Registration

open AuthData (AuthenticatorData AttestedCredentialData CoseKey Aaguid)
open AttStmt (textValue)
open Fold (lastSome)

/-! ### The attestation object -/

/-- The text an entry gives to the key `fmt`. -/
def fmtText : Value × Value → Option String
  | (.text k, .text s) => if k = "fmt" then some s else none
  | _ => none

/-- `data` is a map with a text format, byte-string authenticator data and a statement; where
a key is repeated its last entry counts. -/
def IsAttestationObject (E : Env) (data : Bytes) (fmt : String) (authDataBytes : Bytes)
    (attStmt : Value) : Prop :=
  ∃ map n, E.cborFromReader data = .ok (.map map, n) ∧ lastSome fmtText map = some fmt ∧
    lastSome (textValue "authData") map = some (.bytes authDataBytes) ∧
    lastSome (textValue "attStmt") map = some attStmt

/-- The outcome of reading a value as authenticator data. -/
def authDataOf : Value → Except WebAuthnError Bytes
  | .bytes b => .ok b
  | _ => .error (.invalidAttestationObject "authData must be CBOR bytes, not another type")

lemma authDataOf_eq_ok {v : Value} {b : Bytes} : authDataOf v = .ok b ↔ v = .bytes b := by
  cases v <;> simp [authDataOf]

lemma readEntry_eq (o : AttObj) (e : Value × Value) : readEntry o e =
    ⟨(fmtText e).or o.fmt, ((textValue "authData" e).map authDataOf).or o.authData,
      (textValue "attStmt" e).or o.attStmt⟩ := by
  obtain ⟨k, v⟩ := e
  cases k
  case text key =>
    by_cases hf : key = "fmt"
    · subst hf
      cases v <;> simp [readEntry, fmtText, textValue]
    · by_cases ha : key = "authData"
      · subst ha
        cases v <;> simp [readEntry, fmtText, textValue, authDataOf]
      · by_cases hs : key = "attStmt"
        · subst hs
          cases v <;> simp [readEntry, fmtText, textValue]
        · cases v <;> simp [readEntry, fmtText, textValue, hf, ha, hs]
  all_goals simp [readEntry, fmtText, textValue]

lemma foldl_readEntry (map : List (Value × Value)) :
    map.foldl readEntry ⟨none, none, none⟩ = ⟨lastSome fmtText map,
      (lastSome (textValue "authData") map).map authDataOf,
      lastSome (textValue "attStmt") map⟩ := by
  induction map using List.reverseRecOn with
  | nil => simp
  | append_singleton map e ih =>
    rw [List.foldl_append, ih, List.foldl_cons, List.foldl_nil, readEntry_eq]
    simp only [Fold.lastSome_concat]
    rcases textValue "authData" e with _ | v <;> simp

variable {E : Env}

lemma parseAttestationObject_eq_ok {data : Bytes} {fmt : String} {b : Bytes} {v : Value} :
    parseAttestationObject E data = .ok (fmt, b, v) ↔ IsAttestationObject E data fmt b v := by
  simp only [parseAttestationObject, foldl_readEntry, Outcome.bind_eq_ok, Outcome.ofExcept_eq_ok,
    Outcome.okOr_eq_ok, Value.asMap_eq_some, Outcome.pure_eq, Outcome.ok.injEq, Prod.mk.injEq,
    Option.map_eq_some_iff, IsAttestationObject]
  refine ⟨?_, ?_⟩
  · rintro ⟨⟨_, n⟩, hc, map, rfl, f, hf, _, ⟨w, hw, rfl⟩, _, hb, s, hs, rfl, rfl, rfl⟩
    exact ⟨map, n, hc, hf, by rw [hw, authDataOf_eq_ok.mp hb], hs⟩
  · rintro ⟨map, n, hc, hf, hb, hs⟩
    exact ⟨_, hc, map, rfl, fmt, hf, _, ⟨_, hb, rfl⟩, b, rfl, v, hs, rfl, rfl, rfl⟩

lemma IsAttestationObject.unique {data : Bytes} {fmt fmt' : String} {b b' : Bytes}
    {v v' : Value} (h : IsAttestationObject E data fmt b v)
    (h' : IsAttestationObject E data fmt' b' v') : fmt = fmt' ∧ b = b' ∧ v = v' := by
  rw [← parseAttestationObject_eq_ok] at h h'
  simpa using h.symm.trans h'

/-! ### Keys -/

/-- The typed key of a decoded one. -/
def typedKey : CoseKey → PublicKey
  | .ec2 alg _ x y => if alg = COSE_ES256 then .es256 x y else .es384 x y
  | .okp _ x => .edDsa x
  | .rsa _ n e => .rs256 n e

lemma publicKeyOf_eq {k : CoseKey} (h : k.Valid) : publicKeyOf k = .ok (typedKey k) := by
  have hne : COSE_ES384 ≠ COSE_ES256 := by decide
  cases k with
  | ec2 alg crv x y =>
    rcases h with ⟨rfl, -⟩ | ⟨rfl, -⟩
    · simp [publicKeyOf, typedKey]
    · simp [publicKeyOf, typedKey, hne]
  | okp alg x =>
    obtain ⟨rfl, -⟩ := h
    simp [publicKeyOf, typedKey]
  | rsa alg n e => rfl

lemma coseAlg_eq {k : CoseKey} (h : k.Valid) : coseAlg k = (typedKey k).algorithm := by
  have hne : COSE_ES384 ≠ COSE_ES256 := by decide
  cases k with
  | ec2 alg crv x y =>
    rcases h with ⟨rfl, -⟩ | ⟨rfl, -⟩
    · simp [coseAlg, typedKey, PublicKey.algorithm]
    · simp [coseAlg, typedKey, PublicKey.algorithm, hne]
  | okp alg x =>
    obtain ⟨rfl, -⟩ := h
    rfl
  | rsa alg n e => rfl

/-- No status of the model is a compromise. -/
def Trusted (metadata : StatusMap) (aaguid : Aaguid) : Prop :=
  ∀ statuses, metadata.lookup aaguid = some statuses →
    ∀ s ∈ statuses, s.isCompromised = false

lemma checkMetadata_eq_ok {metadata : StatusMap} {aaguid : Aaguid} {u : Unit} :
    checkMetadata metadata aaguid = .ok u ↔ Trusted metadata aaguid := by
  unfold checkMetadata Trusted
  split
  · rename_i statuses hlookup
    rw [hlookup]
    simp only [Option.some.injEq, forall_eq']
    split
    · rename_i s hs
      have hmem : s ∈ statuses := List.mem_of_find?_eq_some hs
      have hcomp : s.isCompromised = true := by simpa using List.find?_some hs
      simp only [reduceCtorEq, false_iff, not_forall]
      exact ⟨s, hmem, by simp [hcomp]⟩
    · rename_i hnone
      simpa using hnone
  · rename_i hlookup
    simp [hlookup]

/-! ### The parts of the ceremony -/

section
variable {rp : RelyingParty} {clock : Clock} {challenge : Challenge}
  {response : AuthenticatorAttestationResponse} {userId : Bytes} {heap : Heap}
  {ad : AuthenticatorData} {cd : AttestedCredentialData}

lemma exists_checkClientData :
    (∃ p, checkClientData E rp clock challenge response = .ok p) ↔
      challenge.Unexpired (clock 0) ∧ (Text.fromUtf8 response.clientDataJson).isSome ∧
      ClientData.Binds E "webauthn.create" challenge.bytes rp.allowedOrigins
        rp.rejectCrossOrigin response.clientDataJson := by
  simp only [checkClientData, Outcome.bind_eq_ok, Outcome.rejectIf_eq_ok, exists_const,
    Bool.not_eq_true, Challenge.isExpired_eq_false, Outcome.okOr_eq_ok, Outcome.pure_eq,
    Outcome.ok.injEq]
  rw [← ClientData.parse_validate_iff (show "webauthn.create" ≠ "" by decide)]
  refine ⟨?_, ?_⟩
  · rintro ⟨p, hexp, s, hs, q, hq, u, hv, rfl⟩
    exact ⟨hexp, by simp [hs], q, hq, hv⟩
  · rintro ⟨hexp, hs, q, hq, hv⟩
    obtain ⟨s, hs⟩ := Option.isSome_iff_exists.mp hs
    exact ⟨q, hexp, s, hs, q, hq, (), hv, rfl⟩

lemma checkClientData_rawJson {p : ClientData.ParsedClientData}
    (h : checkClientData E rp clock challenge response = .ok p) :
    p.rawJson = response.clientDataJson := by
  simp only [checkClientData, Outcome.bind_eq_ok, Outcome.pure_eq, Outcome.ok.injEq] at h
  obtain ⟨-, -, -, -, q, hq, -, -, rfl⟩ := h
  exact ClientData.parseClientData_rawJson hq

lemma checkAuthData_eq_ok : checkAuthData E rp ad = .ok cd ↔
    ad.rpIdHash = Crypto.sha256Of E (Text.asBytes rp.id) ∧ ad.flags.userPresent = true ∧
    ¬ (rp.rejectBackupEligible = true ∧ ad.flags.backupEligible = true) ∧
    ¬ (rp.requireBackupEligible = true ∧ ad.flags.backupEligible = false) ∧
    ad.attestedCredentialData = some cd ∧ Trusted rp.authenticatorMetadata cd.aaguid ∧
    (rp.allowedAlgorithms = [] ∨ coseAlg cd.publicKey ∈ rp.allowedAlgorithms) := by
  simp only [checkAuthData, Crypto.sha256_eq, Outcome.ok_bind, Outcome.bind_eq_ok,
    Outcome.rejectIf_eq_ok, exists_const, Outcome.okOr_eq_ok, checkMetadata_eq_ok,
    Outcome.pure_eq, Outcome.ok.injEq, not_not]
  refine ⟨?_, ?_⟩
  · rintro ⟨h1, h2, h3, h4, c, h5, h6, h7, rfl⟩
    exact ⟨h1, by simpa using h2, by simpa using h3, by simpa using h4, h5, h6, by tauto⟩
  · rintro ⟨h1, h2, h3, h4, h5, h6, h7⟩
    exact ⟨h1, by simpa using h2, by simpa using h3, by simpa using h4, cd, h5, h6, by tauto,
      rfl⟩

end

/-! ### The specification -/

/-- What a registration response is decoded to. -/
structure Evidence where
  fmt : String
  authDataBytes : Bytes
  attStmt : Value
  authData : AuthenticatorData
  credData : AttestedCredentialData
  attestationType : AttestationType

/-- The result that stores what was verified. -/
def Evidence.result (v : Evidence) (rp : RelyingParty) (clock : Clock) (userId : Bytes) :
    RegistrationResult where
  credential := {
    id := v.credData.credentialId
    publicKey := typedKey v.credData.publicKey
    signCount := v.authData.signCount
    userId
    rpId := rp.id
    createdAt := clock 1
    backupEligible := v.authData.flags.backupEligible
    backupState := v.authData.flags.backupState }
  attestationType := v.attestationType
  backupEligible := v.authData.flags.backupEligible
  backupState := v.authData.flags.backupState
  extensions := v.authData.extensions

/-- The conditions under which registration accepts a response, with the evidence `v`. -/
structure Accepts (E : Env) (rp : RelyingParty) (clock : Clock) (challenge : Challenge)
    (response : AuthenticatorAttestationResponse) (heap : Heap) (v : Evidence) : Prop where
  unexpired : challenge.Unexpired (clock 0)
  utf8 : (Text.fromUtf8 response.clientDataJson).isSome
  binds : ClientData.Binds E "webauthn.create" challenge.bytes rp.allowedOrigins
    rp.rejectCrossOrigin response.clientDataJson
  unused : Unused rp.usedChallenges challenge.bytes heap
  object : IsAttestationObject E response.attestationObject v.fmt v.authDataBytes v.attStmt
  parses : AuthData.parseAuthenticatorData E v.authDataBytes = .ok v.authData
  rpIdHash : v.authData.rpIdHash = Crypto.sha256Of E (Text.asBytes rp.id)
  userPresent : v.authData.flags.userPresent = true
  backupAllowed : ¬ (rp.rejectBackupEligible = true ∧ v.authData.flags.backupEligible = true)
  backupRequired : ¬ (rp.requireBackupEligible = true ∧ v.authData.flags.backupEligible = false)
  attested : v.authData.attestedCredentialData = some v.credData
  trusted : Trusted rp.authenticatorMetadata v.credData.aaguid
  algorithm : rp.allowedAlgorithms = [] ∨
    (typedKey v.credData.publicKey).algorithm ∈ rp.allowedAlgorithms
  statement : Attestation.verify E v.fmt v.attStmt v.authDataBytes
    (Crypto.sha256Of E response.clientDataJson) (typedKey v.credData.publicKey)
    v.credData.credentialId rp.trustAnchors v.credData.aaguid = .ok v.attestationType

section
variable {rp : RelyingParty} {clock : Clock} {challenge : Challenge}
  {response : AuthenticatorAttestationResponse} {userId : Bytes} {heap : Heap}
  {r : RegistrationResult}

lemma publicKeyOf_checked {b : Bytes} {ad : AuthenticatorData} {cd : AttestedCredentialData}
    (had : AuthData.parseAuthenticatorData E b = .ok ad) (hcd : checkAuthData E rp ad = .ok cd) :
    publicKeyOf cd.publicKey = .ok (typedKey cd.publicKey) := by
  obtain ⟨-, -, -, -, hattested, -, -⟩ := checkAuthData_eq_ok.mp hcd
  exact publicKeyOf_eq (AuthData.parseAuthenticatorData_valid had hattested)

lemma verifyAttestation_eq_ok {p : ClientData.ParsedClientData} :
    verifyAttestation E rp clock response userId p = .ok r ↔ ∃ v : Evidence,
      IsAttestationObject E response.attestationObject v.fmt v.authDataBytes v.attStmt ∧
      AuthData.parseAuthenticatorData E v.authDataBytes = .ok v.authData ∧
      checkAuthData E rp v.authData = .ok v.credData ∧
      Attestation.verify E v.fmt v.attStmt v.authDataBytes (Crypto.sha256Of E p.rawJson)
        (typedKey v.credData.publicKey) v.credData.credentialId rp.trustAnchors
        v.credData.aaguid = .ok v.attestationType ∧
      v.result rp clock userId = r := by
  simp only [verifyAttestation, Crypto.sha256_eq, Outcome.ok_bind, Outcome.bind_eq_ok,
    Prod.exists, parseAttestationObject_eq_ok, Outcome.pure_eq, Outcome.ok.injEq]
  refine ⟨?_, ?_⟩
  · rintro ⟨fmt, b, stmt, hobj, ad, had, cd, hcd, pk, hpk, t, ht, rfl⟩
    rw [publicKeyOf_checked had hcd, Outcome.ok.injEq] at hpk
    subst hpk
    exact ⟨⟨fmt, b, stmt, ad, cd, t⟩, hobj, had, hcd, ht, rfl⟩
  · rintro ⟨⟨fmt, b, stmt, ad, cd, t⟩, hobj, had, hcd, ht, rfl⟩
    exact ⟨fmt, b, stmt, hobj, ad, had, cd, hcd, _, publicKeyOf_checked had hcd, t, ht, rfl⟩

lemma run_of_passes {p : ClientData.ParsedClientData}
    (hp : checkClientData E rp clock challenge response = .ok p)
    (hlock : ((useChallenge rp.usedChallenges challenge.bytes).run heap).1 = .ok ()) :
    ((verifyRegistration E rp clock challenge response userId).run heap).1 =
      verifyAttestation E rp clock response userId p := by
  rw [verifyRegistration, verifyRegistrationInner,
    Stateful.run_bind_of_ok (a := p) (by rw [Stateful.run_liftM, hp]), Stateful.run_liftM,
    Stateful.run_bind_of_ok hlock]
  rfl

lemma accepts_of_ok
    (h : ((verifyRegistration E rp clock challenge response userId).run heap).1 = .ok r) :
    ∃ v, Accepts E rp clock challenge response heap v ∧ v.result rp clock userId = r := by
  obtain ⟨p, hp, h⟩ := Stateful.run_bind_eq_ok.mp h
  obtain ⟨u, hu, h⟩ := Stateful.run_bind_eq_ok.mp h
  obtain ⟨v, hobj, had, hchecks, ht, rfl⟩ := verifyAttestation_eq_ok.mp h
  obtain ⟨h1, h2, h3, h4, h5, h6, h7⟩ := checkAuthData_eq_ok.mp hchecks
  obtain ⟨hexp, hutf, hbinds⟩ := exists_checkClientData.mp ⟨p, hp⟩
  have hraw := checkClientData_rawJson hp
  have hvalid := AuthData.parseAuthenticatorData_valid had h5
  exact ⟨v, ⟨hexp, hutf, hbinds, unused_of_passes hu, hobj, had, h1, h2, h3, h4, h5, h6,
    coseAlg_eq hvalid ▸ h7, hraw ▸ ht⟩, rfl⟩

lemma verifyRegistration_eq_ok (hs : heap.Sound) :
    ((verifyRegistration E rp clock challenge response userId).run heap).1 = .ok r ↔
      ∃ v, Accepts E rp clock challenge response heap v ∧ v.result rp clock userId = r := by
  refine ⟨accepts_of_ok, ?_⟩
  rintro ⟨v, h, rfl⟩
  obtain ⟨p, hp⟩ := exists_checkClientData.mpr ⟨h.unexpired, h.utf8, h.binds⟩
  have hraw := checkClientData_rawJson hp
  have hvalid := AuthData.parseAuthenticatorData_valid h.parses h.attested
  rw [run_of_passes hp ((useChallenge_eq_ok hs).mpr h.unused)]
  refine verifyAttestation_eq_ok.mpr ⟨v, h.object, h.parses, ?_, hraw.symm ▸ h.statement, rfl⟩
  exact checkAuthData_eq_ok.mpr ⟨h.rpIdHash, h.userPresent, h.backupAllowed, h.backupRequired,
    h.attested, h.trusted, (coseAlg_eq hvalid).symm ▸ h.algorithm⟩

/-! ### Models that are not trusted -/

/-- The authenticator data inside the response names the model `aaguid`. -/
def Reports (E : Env) (response : AuthenticatorAttestationResponse) (aaguid : Aaguid) : Prop :=
  ∃ fmt b stmt ad cd, IsAttestationObject E response.attestationObject fmt b stmt ∧
    AuthData.parseAuthenticatorData E b = .ok ad ∧ ad.attestedCredentialData = some cd ∧
    cd.aaguid = aaguid

lemma Accepts.reports {v : Evidence} {aaguid : Aaguid}
    (h : Accepts E rp clock challenge response heap v) :
    Reports E response aaguid ↔ v.credData.aaguid = aaguid := by
  refine ⟨?_, ?_⟩
  · rintro ⟨fmt, b, stmt, ad, cd, hobj, had, hcd, rfl⟩
    obtain ⟨-, rfl, -⟩ := h.object.unique hobj
    obtain rfl : v.authData = ad := Outcome.ok.inj (h.parses.symm.trans had)
    obtain rfl : v.credData = cd := Option.some.inj (h.attested.symm.trans hcd)
    rfl
  · rintro rfl
    exact ⟨_, _, _, _, _, h.object, h.parses, h.attested, rfl⟩

/-- **A model with a compromised status does not register.** -/
lemma not_ok_of_compromised (hs : heap.Sound) {aaguid : Aaguid}
    {statuses : List AuthenticatorStatus}
    (hlookup : rp.authenticatorMetadata.lookup aaguid = some statuses)
    (hcomp : ∃ s ∈ statuses, s.isCompromised = true) (hrep : Reports E response aaguid) :
    ((verifyRegistration E rp clock challenge response userId).run heap).1.isOk = false := by
  rw [← Bool.not_eq_true, Outcome.isOk_iff]
  rintro ⟨r, hr⟩
  obtain ⟨v, hv, -⟩ := (verifyRegistration_eq_ok hs).mp hr
  obtain rfl := hv.reports.mp hrep
  obtain ⟨s, hmem, hcs⟩ := hcomp
  rw [hv.trusted statuses hlookup s hmem] at hcs
  cases hcs

/-- **Registration decides its specification and stores what was verified.** -/
theorem registration_decides (E : Env) (rp : RelyingParty) (clock : Clock)
    (challenge : Challenge) (response : AuthenticatorAttestationResponse) (userId : Bytes)
    (sets : Arc → Finset Bytes) (r : RegistrationResult) :
    ((verifyRegistration E rp clock challenge response userId).run (Heap.new sets)).1 = .ok r ↔
      ∃ v, Accepts E rp clock challenge response (Heap.new sets) v ∧
        v.result rp clock userId = r :=
  verifyRegistration_eq_ok (Heap.sound_new sets)

end

end Caden.Registration
