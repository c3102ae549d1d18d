import Caden.Authentication

/-!
What authentication decides, and what it returns.
-/

namespace Caden.Authentication

open AuthData (AuthenticatorData)

variable {E : Env}

lemma verifySignature_eq_ok {pk : PublicKey} {m s : Bytes} {u : Unit} :
    verifySignature E pk m s = .ok u ↔ pk.Verifies E m s := by
  cases pk <;> simp [verifySignature, PublicKey.Verifies, and_assoc]

/-- The received counter is ahead of the stored one, or the authenticator has none. -/
def Counts (stored received : UInt32) : Prop := (stored = 0 ∧ received = 0) ∨ stored < received

lemma checkSignCount_eq_ok {stored received : UInt32} {u : Unit} :
    checkSignCount stored received = .ok u ↔ Counts stored received := by
  simp only [checkSignCount, Outcome.rejectIf_eq_ok, Counts, UInt32.lt_iff_toNat_lt,
    UInt32.le_iff_toNat_le, gt_iff_lt, ← UInt32.toNat_inj]
  have h0 : (0 : UInt32).toNat = 0 := rfl
  omega

/-- The conditions under which authentication accepts a response, whose authenticator data
is `ad`. -/
structure Accepts (E : Env) (rp : RelyingParty) (stored : Credential) (clock : Clock)
    (challenge : Challenge) (response : AuthenticatorAssertionResponse) (heap : Heap)
    (ad : AuthenticatorData) : Prop where
  unexpired : challenge.Unexpired (clock 0)
  binds : ClientData.Binds E "webauthn.get" challenge.bytes rp.allowedOrigins
    rp.rejectCrossOrigin response.clientDataJson
  unused : Unused rp.usedChallenges challenge.bytes heap
  parses : AuthData.parseAuthenticatorData E response.authenticatorData = .ok ad
  rpIdHash : ad.rpIdHash = Crypto.sha256Of E (Text.asBytes stored.rpId)
  userPresent : ad.flags.userPresent = true
  userVerified : rp.requireUserVerification = true → ad.flags.userVerified = true
  backupAllowed : ¬ (rp.rejectBackupEligible = true ∧ ad.flags.backupEligible = true)
  backupRequired : ¬ (rp.requireBackupEligible = true ∧ ad.flags.backupEligible = false)
  backupUnchanged : ad.flags.backupEligible = stored.backupEligible
  signed : stored.publicKey.Verifies E
    (response.authenticatorData ++ (Crypto.sha256Of E response.clientDataJson).toList)
    response.signature
  counts : Counts stored.signCount ad.signCount

/-- The result that reports the authenticator data. -/
def resultOf (stored : Credential) (ad : AuthenticatorData) : AuthenticationResult where
  credentialId := stored.id
  newSignCount := ad.signCount
  userPresent := ad.flags.userPresent
  userVerified := ad.flags.userVerified
  backupEligible := ad.flags.backupEligible
  backupState := ad.flags.backupState
  extensions := ad.extensions

section
variable {rp : RelyingParty} {stored : Credential} {clock : Clock} {challenge : Challenge}
  {response : AuthenticatorAssertionResponse} {heap : Heap} {ad : AuthenticatorData}
  {r : AuthenticationResult}

lemma exists_checkClientData :
    (∃ p, checkClientData E rp clock challenge response = .ok p) ↔
      challenge.Unexpired (clock 0) ∧
      ClientData.Binds E "webauthn.get" challenge.bytes rp.allowedOrigins
        rp.rejectCrossOrigin response.clientDataJson := by
  simp only [checkClientData, Outcome.bind_eq_ok, Outcome.rejectIf_eq_ok, exists_const,
    Bool.not_eq_true, Challenge.isExpired_eq_false, Outcome.pure_eq, Outcome.ok.injEq]
  rw [← ClientData.parse_validate_iff (show "webauthn.get" ≠ "" by decide)]
  refine ⟨?_, ?_⟩
  · rintro ⟨p, hexp, q, hq, u, hv, rfl⟩
    exact ⟨hexp, q, hq, hv⟩
  · rintro ⟨hexp, q, hq, hv⟩
    exact ⟨q, hexp, q, hq, (), hv, rfl⟩

lemma checkClientData_rawJson {p : ClientData.ParsedClientData}
    (h : checkClientData E rp clock challenge response = .ok p) :
    p.rawJson = response.clientDataJson := by
  simp only [checkClientData, Outcome.bind_eq_ok, Outcome.pure_eq, Outcome.ok.injEq] at h
  obtain ⟨-, -, q, hq, -, -, rfl⟩ := h
  exact ClientData.parseClientData_rawJson hq

lemma checkAuthData_eq_ok {u : Unit} : checkAuthData E rp stored ad = .ok u ↔
    ad.rpIdHash = Crypto.sha256Of E (Text.asBytes stored.rpId) ∧ ad.flags.userPresent = true ∧
    (rp.requireUserVerification = true → ad.flags.userVerified = true) ∧
    ¬ (rp.rejectBackupEligible = true ∧ ad.flags.backupEligible = true) ∧
    ¬ (rp.requireBackupEligible = true ∧ ad.flags.backupEligible = false) ∧
    ad.flags.backupEligible = stored.backupEligible := by
  simp only [checkAuthData, Crypto.sha256_eq, Outcome.ok_bind, Outcome.bind_eq_ok,
    Outcome.rejectIf_eq_ok, exists_const, not_not]
  simp

lemma verifyAssertion_eq_ok {p : ClientData.ParsedClientData} :
    verifyAssertion E rp stored response p = .ok r ↔ ∃ ad,
      AuthData.parseAuthenticatorData E response.authenticatorData = .ok ad ∧
      checkAuthData E rp stored ad = .ok () ∧
      stored.publicKey.Verifies E
        (response.authenticatorData ++ (Crypto.sha256Of E p.rawJson).toList)
        response.signature ∧
      Counts stored.signCount ad.signCount ∧ resultOf stored ad = r := by
  simp only [verifyAssertion, Crypto.sha256_eq, Outcome.ok_bind, Outcome.bind_eq_ok,
    verifySignature_eq_ok, checkSignCount_eq_ok, exists_const, Outcome.pure_eq,
    Outcome.ok.injEq]
  refine ⟨?_, ?_⟩
  · rintro ⟨ad, had, ⟨⟩, hc, hs, hn, rfl⟩
    exact ⟨ad, had, hc, AuthData.parseAuthenticatorData_raw had ▸ hs, hn, rfl⟩
  · rintro ⟨ad, had, hc, hs, hn, rfl⟩
    exact ⟨ad, had, (), hc, (AuthData.parseAuthenticatorData_raw had).symm ▸ hs, hn, rfl⟩

lemma run_of_passes {p : ClientData.ParsedClientData}
    (hp : checkClientData E rp clock challenge response = .ok p)
    (hlock : ((useChallenge rp.usedChallenges challenge.bytes).run heap).1 = .ok ()) :
    ((verifyAuthentication E rp stored clock challenge response).run heap).1 =
      verifyAssertion E rp stored response p := by
  rw [verifyAuthentication, verifyAuthenticationInner,
    Stateful.run_bind_of_ok (a := p) (by rw [Stateful.run_liftM, hp]), Stateful.run_liftM,
    Stateful.run_bind_of_ok hlock]
  rfl

lemma accepts_of_ok
    (h : ((verifyAuthentication E rp stored clock challenge response).run heap).1 = .ok r) :
    ∃ ad, Accepts E rp stored clock challenge response heap ad ∧ resultOf stored ad = r := by
  obtain ⟨p, hp, h⟩ := Stateful.run_bind_eq_ok.mp h
  obtain ⟨u, hu, h⟩ := Stateful.run_bind_eq_ok.mp h
  obtain ⟨ad, had, hchecks, hsig, hn, rfl⟩ := verifyAssertion_eq_ok.mp h
  obtain ⟨h1, h2, h3, h4, h5, h6⟩ := checkAuthData_eq_ok.mp hchecks
  obtain ⟨hexp, hbinds⟩ := exists_checkClientData.mp ⟨p, hp⟩
  have hraw := checkClientData_rawJson hp
  exact ⟨ad, ⟨hexp, hbinds, unused_of_passes hu, had, h1, h2, h3, h4, h5, h6, hraw ▸ hsig, hn⟩,
    rfl⟩

lemma verifyAuthentication_eq_ok (hs : heap.Sound) :
    ((verifyAuthentication E rp stored clock challenge response).run heap).1 = .ok r ↔
      ∃ ad, Accepts E rp stored clock challenge response heap ad ∧ resultOf stored ad = r := by
  refine ⟨accepts_of_ok, ?_⟩
  rintro ⟨ad, h, rfl⟩
  obtain ⟨p, hp⟩ := exists_checkClientData.mpr ⟨h.unexpired, h.binds⟩
  have hraw := checkClientData_rawJson hp
  rw [run_of_passes hp ((useChallenge_eq_ok hs).mpr h.unused)]
  refine verifyAssertion_eq_ok.mpr ⟨ad, h.parses, ?_, hraw.symm ▸ h.signed, h.counts, rfl⟩
  exact checkAuthData_eq_ok.mpr ⟨h.rpIdHash, h.userPresent, h.userVerified, h.backupAllowed,
    h.backupRequired, h.backupUnchanged⟩

end

/-- **Authentication decides exactly its specification.** The result reports the
authenticator data that was signed, under the stored credential's id. -/
theorem authentication_decides (E : Env) (rp : RelyingParty) (stored : Credential)
    (clock : Clock) (challenge : Challenge) (response : AuthenticatorAssertionResponse)
    (sets : Arc → Finset Bytes) (r : AuthenticationResult) :
    ((verifyAuthentication E rp stored clock challenge response).run (Heap.new sets)).1 = .ok r ↔
      ∃ ad, Accepts E rp stored clock challenge response (Heap.new sets) ad ∧
        resultOf stored ad = r :=
  verifyAuthentication_eq_ok (Heap.sound_new sets)

end Caden.Authentication
