import Caden.Attested
import Caden.RegistrationSpec
import Caden.Transplant

/-!
Registrations that differ in nothing but their attestation statement.

The statement of an accepted registration can be exchanged for any other one. The registration
is then accepted exactly when the verifier of the new format accepts the statement, and nothing but
the reported type changes. In particular the statement can be left out: no configuration requires
one.
-/

namespace Caden.Attestation

open Registration

section
variable {E : Env} {rp : RelyingParty} {clock : Clock} {challenge : Challenge}
  {response response' : AuthenticatorAttestationResponse} {heap : Heap}
  {fmt' : String} {stmt' : Value} {v : Evidence}

/-- The evidence with another statement. -/
def relabel (v : Evidence) (fmt : String) (stmt : Value) (t : AttestationType) : Evidence :=
  { v with fmt := fmt, attStmt := stmt, attestationType := t }

/-- What the evidence presents beside its statement. -/
def subjectOf (E : Env) (response : AuthenticatorAttestationResponse) (v : Evidence) :
    Subject where
  authData := v.authDataBytes
  hash := Crypto.sha256Of E response.clientDataJson
  key := typedKey v.credData.publicKey
  credId := v.credData.credentialId
  aaguid := v.credData.aaguid

/-- **The statement can be exchanged for one that is accepted.** -/
lemma accepts_relabel {t : AttestationType}
    (h : Accepts E rp clock challenge response heap v)
    (hjson : response'.clientDataJson = response.clientDataJson)
    (hobj' : IsAttestationObject E response'.attestationObject fmt' v.authDataBytes stmt') :
    Accepts E rp clock challenge response' heap (relabel v fmt' stmt' t) ↔
      Accepted E rp.trustAnchors (subjectOf E response v) stmt' t fmt' := by
  have hhash : Crypto.sha256Of E response'.clientDataJson =
      Crypto.sha256Of E response.clientDataJson := by rw [hjson]
  rw [← verify_iff_accepted]
  refine ⟨fun h' => ?_, fun hstmt => ?_⟩
  · have hstmt := h'.statement
    rw [hhash] at hstmt
    exact hstmt
  exact {
    unexpired := h.unexpired
    utf8 := hjson ▸ h.utf8
    binds := hjson ▸ h.binds
    unused := h.unused
    object := hobj'
    parses := h.parses
    rpIdHash := h.rpIdHash
    userPresent := h.userPresent
    backupAllowed := h.backupAllowed
    backupRequired := h.backupRequired
    attested := h.attested
    trusted := h.trusted
    algorithm := h.algorithm
    statement := by
      rw [hhash]
      exact hstmt }

lemma eq_relabel {v' : Evidence} (h : Accepts E rp clock challenge response heap v)
    (h' : Accepts E rp clock challenge response' heap v')
    (hobj' : IsAttestationObject E response'.attestationObject fmt' v.authDataBytes stmt') :
    v' = relabel v fmt' stmt' v'.attestationType := by
  obtain ⟨hfmt, hbytes, hstmt⟩ := h'.object.unique hobj'
  have hdata : v'.authData = v.authData := by
    have hparses := h'.parses
    rw [hbytes, h.parses] at hparses
    exact (Outcome.ok.inj hparses).symm
  have hcred : v'.credData = v.credData := by
    have hattested := h'.attested
    rw [hdata, h.attested] at hattested
    exact (Option.some.inj hattested).symm
  obtain ⟨_, _, _, _, _, _⟩ := v'
  subst hfmt hbytes hstmt hdata hcred
  rfl

end

/-- **A statement decides the reported type and nothing else.** Where a registration is accepted,
the same one with another statement is accepted exactly when that statement is, for the model and
the credential that the authenticator data names, and its result differs in the type alone; with a
format that has no verifier it always is. -/
theorem statement_sets_type_only (E : Env) (rp : RelyingParty) (clock : Clock)
    (challenge : Challenge) (response response' : AuthenticatorAttestationResponse)
    (userId : Bytes) (heap : Heap) (hs : heap.Sound) (r : RegistrationResult)
    (h : ((verifyRegistration E rp clock challenge response userId).run heap).1 = .ok r)
    (fmt fmt' : String) (b : Bytes) (stmt stmt' : Value)
    (hobj : IsAttestationObject E response.attestationObject fmt b stmt)
    (hobj' : IsAttestationObject E response'.attestationObject fmt' b stmt')
    (hjson : response'.clientDataJson = response.clientDataJson) :
    (∃ ad cd, AuthData.parseAuthenticatorData E b = .ok ad ∧
      ad.attestedCredentialData = some cd ∧
      ∀ r', ((verifyRegistration E rp clock challenge response' userId).run heap).1 = .ok r' ↔
        ∃ t, Accepted E rp.trustAnchors ⟨b, Crypto.sha256Of E response.clientDataJson,
          r.credential.publicKey, r.credential.id, cd.aaguid⟩ stmt' t fmt' ∧
          r' = { r with attestationType := t }) ∧
    (fmt' ∉ verifiedFormats →
      ((verifyRegistration E rp clock challenge response' userId).run heap).1 =
        .ok { r with attestationType := .none }) := by
  obtain ⟨v, hv, rfl⟩ := (verifyRegistration_eq_ok hs).mp h
  obtain ⟨-, rfl, -⟩ := hv.object.unique hobj
  have hiff : ∀ r', ((verifyRegistration E rp clock challenge response' userId).run heap).1 =
      .ok r' ↔ ∃ t, Accepted E rp.trustAnchors (subjectOf E response v) stmt' t fmt' ∧
        r' = { v.result rp clock userId with attestationType := t } := by
    intro r'
    rw [verifyRegistration_eq_ok hs]
    refine ⟨?_, ?_⟩
    · rintro ⟨v', hv', rfl⟩
      have heq := eq_relabel hv hv' hobj'
      rw [heq] at hv' ⊢
      exact ⟨_, (accepts_relabel hv hjson hobj').mp hv', rfl⟩
    · rintro ⟨t, ht, rfl⟩
      exact ⟨_, (accepts_relabel hv hjson hobj').mpr ht, rfl⟩
  refine ⟨⟨v.authData, v.credData, hv.parses, hv.attested, hiff⟩,
    fun hfmt => (hiff _).mpr ⟨.none, ?_, rfl⟩⟩
  unfold Accepted
  split <;> simp_all [verifiedFormats]

section
open Recorded Transplant

/-- The packed registration, and the same one without a statement. -/
def bothRecord : Record :=
  { packedRecord with cbor :=
      (attestationObject aaguid, .map (attestationObjectMap aaguid)) :: packedRecord.cbor }

def anchored : RelyingParty := rp.withTrustAnchors [rootDer]

lemma packed_isOk : ((verifyRegistration bothRecord.env anchored clock createChallenge
    ⟨createJson, packedObject⟩ [0x75]).run (Heap.new fun _ => ∅)).1.isOk = true := by
  decide +kernel

lemma attestationObject_ne_packed : packedObject ≠ attestationObject aaguid := by decide

lemma carries_packed : IsAttestationObject bothRecord.env packedObject "packed"
    (createAuthData aaguid) packedStmt := by
  have hread : answer bothRecord.cbor packedObject = .ok (.map
      [(.text "fmt", .text "packed"), (.text "attStmt", packedStmt),
        (.text "authData", .bytes (createAuthData aaguid))]) := by
    rw [bothRecord, answer_tail attestationObject_ne_packed, packedRecord,
      answer_tail packedObject_ne, answer_head]
  exact ⟨_, _, Record.env_cborFromReader hread, rfl, rfl, rfl⟩

lemma carries_none : IsAttestationObject bothRecord.env (attestationObject aaguid) "none"
    (createAuthData aaguid) (.map []) :=
  ⟨_, _, Record.env_cborFromReader (answer_head _ _ _), rfl, rfl, rfl⟩

/-- Also with a trust anchor the statement can be left out. -/
theorem anchored_registers_without : ∃ r,
    ((verifyRegistration bothRecord.env anchored clock createChallenge
      ⟨createJson, packedObject⟩ [0x75]).run (Heap.new fun _ => ∅)).1 = .ok r ∧
    ((verifyRegistration bothRecord.env anchored clock createChallenge (createResponse aaguid)
      [0x75]).run (Heap.new fun _ => ∅)).1 = .ok { r with attestationType := .none } := by
  obtain ⟨r, hr⟩ := Outcome.isOk_iff.mp packed_isOk
  obtain ⟨-, hnone⟩ := statement_sets_type_only bothRecord.env anchored clock createChallenge
    ⟨createJson, packedObject⟩ (createResponse aaguid) [0x75] (Heap.new fun _ => ∅)
    (Heap.sound_new _) r hr "packed" "none" (createAuthData aaguid) packedStmt (.map [])
    carries_packed carries_none rfl
  exact ⟨r, hr, hnone (by decide)⟩

end

end Caden.Attestation
