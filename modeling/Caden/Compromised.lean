import Caden.Recorded
import Caden.RegistrationSpec

/-!
Which metadata keeps a compromised model from registering.

The builder collects its entries into a map, so of several entries for one model only the last
one is looked up. A model that an earlier entry lists as compromised registers if the last one
does not.
-/

namespace Caden.Compromised

open AuthData (Aaguid)
open Registration (Reports Evidence Accepts Trusted verifyRegistration verifyRegistration_eq_ok)
open Recorded

variable {entries : List (Aaguid × List AuthenticatorStatus)} {aaguid : Aaguid}

/-- No registration that names the model is accepted by a relying party with these entries. -/
def NeverRegisters (entries : List (Aaguid × List AuthenticatorStatus)) (aaguid : Aaguid) :
    Prop :=
  ∀ (E : Env) (rp : RelyingParty) (clock : Clock) (challenge : Challenge)
    (response : AuthenticatorAttestationResponse) (userId : Bytes) (sets : Arc → Finset Bytes),
    Reports E response aaguid →
      ((verifyRegistration E (rp.withAuthenticatorMetadata entries) clock challenge response
        userId).run (Heap.new sets)).1.isOk = false

/-- The last entry for the model has a compromised status. -/
def LastCompromised (entries : List (Aaguid × List AuthenticatorStatus)) (aaguid : Aaguid) :
    Prop :=
  ∃ before statuses after, entries = before ++ (aaguid, statuses) :: after ∧
    (∀ e ∈ after, e.1 ≠ aaguid) ∧ ∃ s ∈ statuses, s.isCompromised = true

lemma lastCompromised_iff : LastCompromised entries aaguid ↔
    ∃ statuses, (Fold.collect entries).lookup aaguid = some statuses ∧
      ∃ s ∈ statuses, s.isCompromised = true := by
  simp only [Fold.lookup_collect, Fold.lastSome_eq_some_iff, Fold.valueAt_eq_some,
    Fold.valueAt_eq_none]
  refine ⟨?_, ?_⟩
  · rintro ⟨before, statuses, after, h, hafter, hs⟩
    exact ⟨statuses, ⟨before, _, after, h, rfl, hafter⟩, hs⟩
  · rintro ⟨statuses, ⟨before, _, after, h, rfl, hafter⟩, hs⟩
    exact ⟨before, statuses, after, h, hafter, hs⟩

lemma trusted_of_not_lastCompromised (h : ¬ LastCompromised entries aaguid) :
    Trusted (Fold.collect entries) aaguid := by
  intro statuses hlookup s hs
  by_contra hc
  exact h (lastCompromised_iff.mpr ⟨statuses, hlookup, s, hs, by simpa using hc⟩)

/-! ### A registration of any model -/

def credentialKey : AuthData.CoseKey := .ec2 (-7) 1 keyX keyY

def credData (aaguid : Aaguid) : AuthData.AttestedCredentialData :=
  ⟨aaguid, credentialId, credentialKey⟩

def authData (aaguid : Aaguid) : AuthData.AuthenticatorData where
  rpIdHash := rpIdHash
  flags := AuthData.flagsOf 0x45
  signCount := 0
  attestedCredentialData := some (credData aaguid)
  extensions := none
  raw := createAuthData aaguid

def evidence (aaguid : Aaguid) : Evidence :=
  ⟨"none", createAuthData aaguid, .map [], authData aaguid, credData aaguid, .none⟩

lemma createAuthData_length : (createAuthData aaguid).length = 148 := by
  have hheader := AuthData.credentialHeader_length aaguid idLength credentialId
  have hid : credentialId.length = 16 := beBytes_length _ _
  simp only [createAuthData, coseKey, keyX, keyY, List.length_append, hheader, hid,
    List.Vector.toList_length, beBytes_length]
  rfl

lemma attestationObject_ne : attestationObject aaguid ≠ coseKey := by
  intro h
  have hlen := congrArg List.length h
  simp only [attestationObject, List.length_append, createAuthData_length, beBytes_length] at hlen
  revert hlen
  decide

lemma cbor_coseKey : (registration aaguid).env.cborFromReader coseKey =
    .ok (.map coseKeyMap, coseKey.length) :=
  Record.env_cborFromReader (by simp [registration])

lemma cbor_attestationObject :
    (registration aaguid).env.cborFromReader (attestationObject aaguid) =
      .ok (.map (attestationObjectMap aaguid), (attestationObject aaguid).length) :=
  Record.env_cborFromReader (by simp [registration, answer_tail attestationObject_ne])

lemma coseKeyOfMap_coseKeyMap : AuthData.coseKeyOfMap coseKeyMap = .ok credentialKey := by
  decide

lemma readsKey : AuthData.ReadsKey (registration aaguid).env coseKey [] credentialKey := by
  refine ⟨by decide, ⟨.map coseKeyMap, by rw [List.append_nil, cbor_coseKey]⟩, ?_⟩
  simp only [AuthData.parseCoseKey, cbor_coseKey, Outcome.ofExcept, Value.asMap, Outcome.okOr,
    Outcome.ok_bind, coseKeyOfMap_coseKeyMap]

lemma parses : AuthData.parseAuthenticatorData (registration aaguid).env
    (createAuthData aaguid) = .ok (authData aaguid) := by
  have hdrop : (createAuthData aaguid).drop 37 =
      AuthData.credentialHeader aaguid idLength credentialId ++ (coseKey ++ []) := by
    rw [List.append_nil]
    exact List.drop_left' rfl
  have hcred : AuthData.parseAttestedCredentialData (registration aaguid).env
      ((createAuthData aaguid).drop 37) = .ok (credData aaguid, 111) :=
    AuthData.parseAttestedCredentialData_eq_ok.mpr ⟨idLength, coseKey, [], hdrop,
      rfl, (by decide : credentialId ≠ []), (by decide : credentialId.length ≤ _), readsKey, rfl⟩
  have hrest : (Slice.sliceFrom (createAuthData aaguid) 37 : Res Bytes) =
      .ok ((createAuthData aaguid).drop 37) :=
    Slice.sliceFrom_eq_ok.mpr ⟨by rw [createAuthData_length]; decide, rfl⟩
  refine AuthData.parseAuthenticatorData_eq_ok.mpr ⟨?_, rfl, ⟨0x45, rfl, rfl⟩, ?_,
    ⟨⟨[0, 0, 0, 0], rfl⟩, rfl, rfl⟩, ⟨111, ?_, rfl⟩, rfl⟩
  · rw [createAuthData_length]
    decide
  · rintro ⟨h, -⟩
    cases h
  · rw [AuthData.attestedPart, if_pos (show (authData aaguid).flags.attestedCredentialData from
      rfl), hrest, Outcome.ok_bind, hcred]
    rfl

lemma rpIdHash_eq : rpIdHash = Crypto.sha256Of (registration aaguid).env (Text.asBytes rpId) := by
  refine Subtype.ext ?_
  simp [Crypto.sha256Of, Record.env, registration]

lemma binds : ClientData.Binds (registration aaguid).env "webauthn.create"
    createChallenge.bytes rp.allowedOrigins rp.rejectCrossOrigin createJson where
  nonempty := clientDataJson_ne_nil _ _
  fields := ⟨clientDataOf "webauthn.create" createText, by simp [registration], rfl,
    by simp [registration, clientDataOf], List.mem_singleton_self _, nofun⟩

lemma accepts (h : Trusted (Fold.collect entries) aaguid) :
    Accepts (registration aaguid).env (rp.withAuthenticatorMetadata entries) clock
      createChallenge (createResponse aaguid) (Heap.new fun _ => ∅) (evidence aaguid) where
  unexpired := ⟨by decide, by decide⟩
  utf8 := by
    rw [createResponse_clientDataJson]
    exact clientDataJson_utf8 _ _
  binds := by
    rw [createResponse_clientDataJson]
    exact binds
  unused := nofun
  object := ⟨_, _, cbor_attestationObject, rfl, rfl, rfl⟩
  parses := parses
  rpIdHash := rpIdHash_eq
  userPresent := rfl
  backupAllowed := nofun
  backupRequired := nofun
  attested := rfl
  trusted := h
  algorithm := Or.inl rfl
  statement := rfl

/-- **A model never registers exactly when its last entry has a compromised status.** -/
lemma neverRegisters_iff : NeverRegisters entries aaguid ↔ LastCompromised entries aaguid := by
  refine ⟨?_, ?_⟩
  · intro hnever
    by_contra hlast
    have hacc := accepts (trusted_of_not_lastCompromised hlast)
    have hno := hnever _ rp clock createChallenge _ [] (fun _ => ∅) (hacc.reports.mpr rfl)
    rw [(verifyRegistration_eq_ok (Heap.sound_new _)).mpr ⟨_, hacc, rfl⟩] at hno
    cases hno
  · intro hlast E rp clock challenge response userId sets hrep
    obtain ⟨statuses, hlookup, hc⟩ := lastCompromised_iff.mp hlast
    exact Registration.not_ok_of_compromised (Heap.sound_new sets) hlookup hc hrep

/-- Some entry for the model has a compromised status. -/
def Listed (entries : List (Aaguid × List AuthenticatorStatus)) (aaguid : Aaguid) : Prop :=
  ∃ e ∈ entries, e.1 = aaguid ∧ ∃ s ∈ e.2, s.isCompromised = true

/-- **A model that is listed as compromised is kept out exactly when its last entry lists it.**
-/
theorem listed_never_registers_iff (entries : List (Aaguid × List AuthenticatorStatus))
    (aaguid : Aaguid) :
    (Listed entries aaguid → NeverRegisters entries aaguid) ↔
      (Listed entries aaguid → LastCompromised entries aaguid) :=
  imp_congr_right fun _ => neverRegisters_iff

/-- A later entry without statuses takes the place of a revocation. -/
theorem revoked_model_registers :
    Listed [(Recorded.aaguid, [.revoked]), (Recorded.aaguid, [])] Recorded.aaguid ∧
      ¬ NeverRegisters [(Recorded.aaguid, [.revoked]), (Recorded.aaguid, [])]
        Recorded.aaguid := by
  refine ⟨⟨_, List.mem_cons_self, rfl, .revoked, by simp, rfl⟩, fun h => ?_⟩
  obtain ⟨statuses, hlookup, s, hs, -⟩ := lastCompromised_iff.mp (neverRegisters_iff.mp h)
  have hnone : (Fold.collect [(Recorded.aaguid, [AuthenticatorStatus.revoked]),
      (Recorded.aaguid, [])]).lookup Recorded.aaguid = some [] := Finmap.lookup_insert ..
  obtain rfl := Option.some.inj (hlookup.symm.trans hnone)
  cases hs

end Caden.Compromised
