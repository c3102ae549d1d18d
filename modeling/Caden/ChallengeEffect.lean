import Caden.Ceremony

/-!
What a ceremony does to the used challenges.

A call adds its challenge exactly when the checks that come before the locked section pass and
the challenge is new, whatever the later checks decide. The errors of the earlier checks are
errors of no later check, so a call that ends in one of them has added nothing.
-/

namespace Caden.ChallengeEffect

open Ceremony
open CertBytes (invalid)

variable {E : Env}

/-! ### The checks before the locked section -/

/-- The challenge is unexpired, and the client data passes every check of the ceremony. -/
def Passes (E : Env) : Call → Prop
  | .register rp clock challenge response _ =>
    challenge.isExpired CHALLENGE_MAX_AGE_SECS (clock 0) = false ∧
    (Text.fromUtf8 response.clientDataJson).isSome ∧
    ClientData.Binds E "webauthn.create" challenge.bytes rp.allowedOrigins rp.rejectCrossOrigin
      response.clientDataJson
  | .authenticate rp _ clock challenge response =>
    challenge.isExpired CHALLENGE_MAX_AGE_SECS (clock 0) = false ∧
    ClientData.Binds E "webauthn.get" challenge.bytes rp.allowedOrigins rp.rejectCrossOrigin
      response.clientDataJson

lemma check_isOk (c : Call) : (∃ p, c.check E = .ok p) ↔ Passes E c := by
  cases c with
  | register rp clock challenge response userId =>
    simp only [Call.check, Registration.checkClientData, Outcome.bind_eq_ok,
      Outcome.rejectIf_eq_ok, Outcome.okOr_eq_ok, exists_const, Outcome.pure_eq,
      Outcome.ok.injEq, Bool.not_eq_true, Passes, Option.isSome_iff_exists]
    rw [← ClientData.parse_validate_iff (by decide)]
    refine ⟨?_, ?_⟩
    · rintro ⟨p, hexp, s, hs, q, hq, ⟨⟩, hv, rfl⟩
      exact ⟨hexp, ⟨s, hs⟩, q, hq, hv⟩
    · rintro ⟨hexp, ⟨s, hs⟩, q, hq, hv⟩
      exact ⟨q, hexp, s, hs, q, hq, ⟨⟩, hv, rfl⟩
  | authenticate rp stored clock challenge response =>
    simp only [Call.check, Authentication.checkClientData, Outcome.bind_eq_ok,
      Outcome.rejectIf_eq_ok, exists_const, Outcome.pure_eq, Outcome.ok.injEq,
      Bool.not_eq_true, Passes]
    rw [← ClientData.parse_validate_iff (by decide)]
    refine ⟨?_, ?_⟩
    · rintro ⟨p, hexp, q, hq, ⟨⟩, hv, rfl⟩
      exact ⟨hexp, q, hq, hv⟩
    · rintro ⟨hexp, q, hq, hv⟩
      exact ⟨q, hexp, q, hq, ⟨⟩, hv, rfl⟩

/-! ### The memory after a call -/

/-- The memory in which the mutex at `a` holds one more challenge. -/
def consume (heap : Heap) (a : Arc) (challenge : Bytes) : Heap :=
  Function.update heap a { heap a with set := insert challenge (heap a).set }

lemma run_stopped {c : Call} {heap : Heap} (h : ¬ (Passes E c ∧ (c.lock.run heap).1 = .ok ())) :
    ((c.run E).run heap).2 = heap := by
  rw [Call.run_eq]
  split
  · rename_i p hp
    have hlock : ¬ (c.lock.run heap).1 = .ok () :=
      fun hl => h ⟨(check_isOk c).mp ⟨p, hp⟩, hl⟩
    have hfail : (c.lock.run heap).2 = heap := useChallenge_fails hlock
    revert hlock hfail
    rcases c.lock.run heap with ⟨_ | _ | _, t⟩
    · exact fun hlock _ => absurd rfl hlock
    · exact fun _ ht => ht
    · exact fun _ ht => ht
  · rfl
  · rfl

lemma run_past {c : Call} {heap : Heap} (hpass : Passes E c)
    (hlock : (c.lock.run heap).1 = .ok ()) : ((c.run E).run heap).2 = (c.lock.run heap).2 := by
  obtain ⟨p, hp⟩ := (check_isOk c).mpr hpass
  rw [Call.run_eq, hp]
  revert hlock
  rcases c.lock.run heap with ⟨_ | _ | _, t⟩
  · exact fun _ => rfl
  · exact fun h => nomatch h
  · exact fun h => nomatch h

lemma run_off {c : Call} {heap : Heap} (h : c.rp.usedChallenges = none) :
    ((c.run E).run heap).2 = heap := by
  by_cases hpast : Passes E c ∧ (c.lock.run heap).1 = .ok ()
  · rw [run_past hpast.1 hpast.2, Call.lock, h]
    rfl
  · exact run_stopped hpast

/-- **The exact effect of a call.** -/
lemma run_on {c : Call} {heap : Heap} {a : Arc} (hsound : heap.Sound)
    (h : c.rp.usedChallenges = some a) :
    (Passes E c ∧ c.challenge.bytes ∉ (heap a).set →
      ((c.run E).run heap).2 = consume heap a c.challenge.bytes) ∧
    (¬ (Passes E c ∧ c.challenge.bytes ∉ (heap a).set) → ((c.run E).run heap).2 = heap) := by
  have hlock : (c.lock.run heap).1 = .ok () ↔ c.challenge.bytes ∉ (heap a).set := by
    rw [Call.lock, useChallenge_eq_ok hsound, h]
    exact ⟨fun hu => hu a rfl, fun hu b hb => Option.some.inj hb ▸ hu⟩
  refine ⟨?_, ?_⟩
  · rintro ⟨hpass, hnew⟩
    have hok := hlock.mpr hnew
    rw [run_past hpass hok]
    rcases useChallenge_passes hok with ⟨hnone, -⟩ | ⟨b, hb, -, heq⟩
    · rw [h] at hnone
      cases hnone
    · rw [h] at hb
      cases hb
      exact heq
  · intro hnot
    exact run_stopped fun hpast => hnot ⟨hpast.1, hlock.mp hpast.2⟩

/-! ### The errors of the checks -/

/-- The errors of expiry, of the client data, and of the locked section. -/
def Early : WebAuthnError → Prop
  | .challengeExpired | .challengeMismatch | .originMismatch _ _ | .crossOriginNotAllowed
  | .invalidClientData _ | .base64DecodeError _ | .challengePreviouslyUsed => True
  | _ => False

/-- The computation ends in none of the early errors. -/
def Late {α : Type} (x : Res α) : Prop := x.Throws fun e => ¬ Early e

section
variable {α β : Type}

@[simp] lemma late_ok (a : α) : Late (.ok a) := Outcome.throws_ok a
@[simp] lemma late_pure (a : α) : Late (pure a) := Outcome.throws_ok a
@[simp] lemma late_panic : Late (.panic : Res α) := Outcome.throws_panic
@[simp] lemma late_err {e : WebAuthnError} : Late (.err e : Res α) ↔ ¬ Early e :=
  Outcome.throws_err

@[simp] lemma late_bind {x : Res α} {f : α → Res β} :
    Late (x >>= f) ↔ Late x ∧ ∀ a, x = .ok a → Late (f a) := Outcome.throws_bind

@[simp] lemma late_rejectIf {c : Prop} [Decidable c] {e : WebAuthnError} :
    Late (.rejectIf c e : Res PUnit) ↔ (c → ¬ Early e) := Outcome.throws_rejectIf

@[simp] lemma late_okOr {o : Option α} {e : WebAuthnError} :
    Late (.okOr o e) ↔ (o = none → ¬ Early e) := Outcome.throws_okOr

@[simp] lemma late_ofExcept {δ : Type} {x : Except δ α} {f : δ → WebAuthnError} :
    Late (.ofExcept x f) ↔ ∀ d, x = .error d → ¬ Early (f d) := Outcome.throws_ofExcept

@[simp] lemma late_expect (o : Option α) : Late (.expect o : Res α) := Outcome.throws_expect o

@[simp] lemma late_ite {c : Prop} [Decidable c] {x y : Res α} :
    Late (if c then x else y) ↔ (c → Late x) ∧ (¬ c → Late y) := Outcome.throws_ite

@[simp] lemma late_mapErr {δ : Type} {f : δ → WebAuthnError} {x : Outcome δ α} :
    Late (.mapErr f x) ↔ ∀ d, x = .err d → ¬ Early (f d) := Outcome.throws_mapErr

lemma late_forM {l : List α} {f : α → Res PUnit} (h : ∀ x ∈ l, Late (f x)) :
    Late (forM l f) := Outcome.throws_forM h

lemma late_foldlM {l : List β} {f : α → β → Res α} (h : ∀ a, ∀ x ∈ l, Late (f a x)) (a : α) :
    Late (l.foldlM f a) := Outcome.throws_foldlM h a

lemma late_mapM {l : List α} {f : α → Res β} (h : ∀ x ∈ l, Late (f x)) : Late (l.mapM f) :=
  Outcome.throws_mapM h

@[simp] lemma late_index (data : List α) (i : ℕ) : Late (Slice.index data i : Res α) :=
  late_expect _

@[simp] lemma late_slice (data : List α) (lo hi : ℕ) : Late (Slice.slice data lo hi) := by
  unfold Slice.slice
  split <;> simp

@[simp] lemma late_sliceFrom (data : List α) (lo : ℕ) : Late (Slice.sliceFrom data lo) := by
  unfold Slice.sliceFrom
  split <;> simp

@[simp] lemma not_early_invalid (msg : String) : ¬ Early (invalid msg) := id
@[simp] lemma not_early_unsupportedAlgorithm (alg : ℤ) : ¬ Early (.unsupportedAlgorithm alg) := id

end

/-! ### The later checks -/

section
variable {data : Bytes}

@[simp] lemma late_sha256 : Late (Crypto.sha256 E data) := by simp

@[simp] lemma late_verifyWith {v : Bytes → Bytes → Bytes → Bool} {k m s : Bytes} :
    Late (Crypto.verifyWith v k m s) := by
  simp [Crypto.verifyWith, Early]

@[simp] lemma late_rsaComponentsToDer (n e : Bytes) : Late (Crypto.rsaComponentsToDer n e) := by
  simp [Crypto.rsaComponentsToDer, Crypto.derInteger_eq, Early]

lemma late_coseKeyOfMap (map : List (Value × Value)) : Late (AuthData.coseKeyOfMap map) := by
  have hseen : Late (map.foldlM AuthData.seeKey []) := by
    refine late_foldlM (fun seen e _ => ?_) []
    unfold AuthData.seeKey
    split
    · split
      · simp [Early]
      · simp
    · simp
  simp [AuthData.coseKeyOfMap, AuthData.parseOkpKey, AuthData.parseEc2Key,
    AuthData.parseRsaKey, AuthData.coordSize, AuthData.missingField, hseen, Early]

lemma late_parseCoseKey : Late (AuthData.parseCoseKey E data) := by
  simp [AuthData.parseCoseKey, late_coseKeyOfMap, Early]

lemma late_parseAuthenticatorData : Late (AuthData.parseAuthenticatorData E data) := by
  have hcred : ∀ d, Late (AuthData.parseAttestedCredentialData E d) := by
    intro d
    simp [AuthData.parseAttestedCredentialData, late_parseCoseKey, Early]
  have hext : ∀ d, Late (AuthData.parseExtensionMap E d) := by
    intro d
    simp [AuthData.parseExtensionMap, Early]
  simp [AuthData.parseAuthenticatorData, AuthData.attestedPart, AuthData.extensionPart, hcred,
    hext, Early]

lemma not_early_authData (map : List (Value × Value)) (o : Registration.AttObj)
    (ho : ∀ e, o.authData = some (.error e) → ¬ Early e) :
    ∀ e, (map.foldl Registration.readEntry o).authData = some (.error e) → ¬ Early e := by
  induction map generalizing o with
  | nil => exact ho
  | cons x map ih =>
    refine ih _ ?_
    unfold Registration.readEntry
    split
    · split
      · split <;> exact ho
      · split
        · intro e he
          split at he
          · cases he
          · cases he
            exact id
        · split <;> exact ho
    · exact ho

lemma late_parseAttestationObject : Late (Registration.parseAttestationObject E data) := by
  simp only [Registration.parseAttestationObject, late_bind, late_ofExcept, late_okOr,
    late_pure, Outcome.okOr_eq_ok, Registration.missingField]
  refine ⟨fun _ _ => id, fun item _ => ⟨fun _ => id, fun map _ => ⟨fun _ => id, fun fmt _ =>
    ⟨fun _ => id, fun ad had => ⟨fun e he => ?_, fun _ _ => ⟨fun _ => id, fun _ _ => trivial⟩⟩⟩⟩⟩⟩
  refine not_early_authData map ⟨none, none, none⟩ (fun _ h => nomatch h) e ?_
  rw [had, he]

lemma late_publicKeyOf (k : AuthData.CoseKey) : Late (Registration.publicKeyOf k) := by
  cases k <;> simp [Registration.publicKeyOf, Early]

lemma late_checkMetadata (metadata : StatusMap) (aaguid : AuthData.Aaguid) :
    Late (Registration.checkMetadata metadata aaguid) := by
  unfold Registration.checkMetadata
  split
  · split <;> simp [Early]
  · simp

end

/-! ### The attestation statement -/

section
variable {fmt : String} {attStmt : Value} {certs anchors : List Bytes} {authData credId : Bytes}
  {hash : ArrayN UInt8 32} {pk : PublicKey} {aaguid : ArrayN UInt8 16}

open AttStmt in
@[simp] lemma late_readStmt {wanted : List Field} : Late (readStmt fmt wanted attStmt) := by
  have hbytes : ∀ key v, Late (readBytes fmt key v) := by
    intro key v
    cases v <;> simp [readBytes]
  have hx5c : ∀ v, Late (X5c.extractX5cArray v) := by
    intro v
    unfold X5c.extractX5cArray
    split
    · rw [late_bind]
      refine ⟨by simp, fun _ _ => late_mapM fun x _ => ?_⟩
      obtain ⟨entry, i⟩ := x
      cases entry <;> simp
    · simp
  have hvalue : ∀ f v, Late (readValue fmt f v) := by
    intro f v
    cases f
    case ver => cases v <;> simp [readValue]
    case alg => cases v <;> simp [readValue]
    case x5c => exact hx5c v
    all_goals exact hbytes _ v
  rw [readStmt, late_bind]
  refine ⟨by simp, fun m _ => late_foldlM (fun st e _ => ?_) _⟩
  unfold readEntry
  split
  · simp [hvalue]
  · simp

@[simp] lemma late_required {α : Type} (o : Option α) (msg : String) :
    Late (Attestation.required o msg) := by
  simp [Attestation.required]

@[simp] lemma late_es256Point (msg : String) : Late (Attestation.es256Point msg pk) := by
  cases pk <;> simp [Attestation.es256Point]

@[simp] lemma late_extractEc (cert : Bytes) :
    Late (CertBytes.extractEcP256PublicKeyFromCert cert) := by
  simp [CertBytes.extractEcP256PublicKeyFromCert]

@[simp] lemma late_extractRsa (cert : Bytes) :
    Late (CertBytes.extractRsaPublicKeyDerFromCert cert) := by
  simp [CertBytes.extractRsaPublicKeyDerFromCert]

@[simp] lemma late_extractAppleNonce (cert : Bytes) :
    Late (CertBytes.extractAppleNonceFromCert cert) := by
  simp [CertBytes.extractAppleNonceFromCert, CertBytes.copyFromSlice32]

@[simp] lemma late_verifyX5cChain : Late (X5c.verifyX5cChain E certs anchors) := by
  have horder : Late (X5c.verifyChainOrder E .attestationChainInvalid certs) :=
    X5c.throws_verifyChainOrder fun _ => id
  simp [X5c.verifyX5cChain, horder, Early]

@[simp] lemma late_splitJwsWithX5c (jws : String) :
    Late (X5c.splitJwsWithX5c E jws invalid) :=
  X5c.throws_splitJwsWithX5c not_early_invalid jws

@[simp] lemma late_verifyCertAaguidExtension (cert : Bytes) :
    Late (X5c.verifyCertAaguidExtension E cert aaguid) := by
  unfold X5c.verifyCertAaguidExtension
  split
  · simp
  · refine late_forM fun ext _ => ?_
    simp [X5c.aaguidMatches_eq, Early]

@[simp] lemma late_verifyCertIsNotCa (cert : Bytes) : Late (X5c.verifyCertIsNotCa E cert) := by
  unfold X5c.verifyCertIsNotCa
  split
  · simp
  · split <;> simp [Early]

end

section
variable {n pos : ℕ} {what : String} {data : Bytes} {pk : PublicKey}

open Tpm

@[simp] lemma late_readArray : Late (readArray n what data pos) := by simp [readArray]
@[simp] lemma late_tpmReadU16Be : Late (tpmReadU16Be data pos) := by simp [tpmReadU16Be]
@[simp] lemma late_tpmReadU32Be : Late (tpmReadU32Be data pos) := by simp [tpmReadU32Be]
@[simp] lemma late_tpmReadBlob : Late (tpmReadBlob data pos) := by simp [tpmReadBlob]
@[simp] lemma late_tpmSkip : Late (tpmSkip data pos n) := by simp [tpmSkip]
@[simp] lemma late_u16At : Late (u16At data pos) := by simp [u16At]

@[simp] lemma late_computePubAreaName : Late (computePubAreaName E data) := by
  simp [computePubAreaName, hashPubArea]

@[simp] lemma late_matchEccPoint (x y : Bytes) : Late (matchEccPoint x y pk) := by
  cases pk <;> simp [matchEccPoint]

@[simp] lemma late_matchRsaModulus (m : Bytes) : Late (matchRsaModulus m pk) := by
  cases pk <;> simp [matchRsaModulus, strip]

@[simp] lemma late_verifyPubAreaMatchesCredential :
    Late (verifyPubAreaMatchesCredential data pk) := by
  simp [verifyPubAreaMatchesCredential]

@[simp] lemma late_verifyCertInfo (extraData : ArrayN UInt8 32) (name : Bytes) :
    Late (verifyCertInfo data extraData name) := by
  simp [verifyCertInfo]

end

/-! ### Each format -/

section
variable {fmt : String} {attStmt : Value} {certs anchors : List Bytes} {authData credId : Bytes}
  {hash : ArrayN UInt8 32} {pk : PublicKey} {aaguid : ArrayN UInt8 16}

open Attestation

lemma late_verifyPacked : Late (verifyPacked E attStmt authData hash pk anchors aaguid) := by
  have hself : ∀ alg m s, Late (verifySelfSignature E alg pk m s) := by
    intro alg m s
    cases pk <;> simp [verifySelfSignature, Crypto.verifyEs256, Crypto.verifyEddsa,
      Crypto.verifyRs256]
  rw [verifyPacked, late_bind]
  refine ⟨late_readStmt, fun st _ => ?_⟩
  split
  · simp [verifyPackedBasic, verifyLeafSignature, Crypto.verifyEs256, Crypto.verifyRs256]
  · simp [verifyPackedSelf, hself]

lemma late_verifyFidoU2f : Late (verifyFidoU2f E attStmt authData hash credId pk anchors) := by
  simp [verifyFidoU2f, Crypto.verifyEs256]

lemma late_verifyAndroidKey : Late (verifyAndroidKey E attStmt authData hash pk anchors) := by
  simp [verifyAndroidKey, Crypto.verifyEs256]

lemma late_verifyApple : Late (verifyApple E attStmt authData hash pk anchors) := by
  simp [verifyApple]

lemma late_verifyTpm : Late (verifyTpm E attStmt authData hash pk anchors) := by
  simp [verifyTpm, tpmCertKey, tpmVerifySignature, Crypto.verifyEs256, Crypto.verifyRs256]

lemma late_verifyAndroidSafetynet :
    Late (verifyAndroidSafetynet E attStmt authData hash anchors) := by
  simp [verifyAndroidSafetynet, verifyJwsSignature, Crypto.verifyEs256Jws, Crypto.verifyRs256]

lemma late_verify : Late (verify E fmt attStmt authData hash pk credId anchors aaguid) := by
  unfold verify
  split
  · exact late_ok _
  · exact late_verifyPacked
  · exact late_verifyFidoU2f
  · exact late_verifyAndroidKey
  · exact late_verifyApple
  · exact late_verifyTpm
  · exact late_verifyAndroidSafetynet
  · exact late_ok _

end

/-! ### The effect of a call -/

lemma late_finish (c : Call) (p : ClientData.ParsedClientData) : Late (c.finish E p) := by
  cases c with
  | register rp clock challenge response userId =>
    simp [Call.finish, Registration.verifyAttestation, Registration.checkAuthData,
      late_parseAttestationObject, late_parseAuthenticatorData, late_publicKeyOf,
      late_checkMetadata, late_verify, Early]
  | authenticate rp stored clock challenge response =>
    have hsig : ∀ m s, Late (Authentication.verifySignature E stored.publicKey m s) := by
      intro m s
      cases stored.publicKey <;> simp [Authentication.verifySignature, Crypto.verifyEs256,
        Crypto.verifyEs384, Crypto.verifyEddsa, Crypto.verifyRs256]
    simp [Call.finish, Authentication.verifyAssertion, Authentication.checkAuthData,
      Authentication.checkSignCount, late_parseAuthenticatorData, hsig, Early]

/-- **A call that ends in an early error changes nothing.** -/
lemma run_early {c : Call} {heap : Heap} {e : WebAuthnError}
    (h : ((c.run E).run heap).1 = .err e) (he : Early e) : ((c.run E).run heap).2 = heap := by
  by_cases hpast : Passes E c ∧ (c.lock.run heap).1 = .ok ()
  · obtain ⟨p, hp⟩ := (check_isOk c).mpr hpast.1
    have hfinish : ((c.run E).run heap).1 = c.finish E p := by
      have hok := hpast.2
      rw [Call.run_eq, hp]
      revert hok
      rcases c.lock.run heap with ⟨_ | _ | _, t⟩
      · exact fun _ => rfl
      · exact fun h => nomatch h
      · exact fun h => nomatch h
    exact absurd he (late_finish c p e (hfinish ▸ h))
  · exact run_stopped hpast

/-- **The exact effect of a ceremony on the used challenges**, on any memory that ceremonies
have left. A call whose early checks pass adds a new challenge, whatever its outcome; any
other call changes nothing, and so does a call without enforcement. -/
theorem used_challenges_effect (E : Env) (sets : Arc → Finset Bytes) (calls : List Call)
    (c : Call) :
    let before := after E calls (Heap.new sets)
    let result := (c.run E).run before
    (∀ a, c.rp.usedChallenges = some a →
      (Passes E c ∧ c.challenge.bytes ∉ (before a).set →
        result.2 = consume before a c.challenge.bytes) ∧
      (¬ (Passes E c ∧ c.challenge.bytes ∉ (before a).set) → result.2 = before)) ∧
    (∀ e, result.1 = .err e → Early e → result.2 = before) ∧
    (c.rp.usedChallenges = none → result.2 = before) := by
  have hsound := sound_after (E := E) calls (Heap.sound_new sets)
  exact ⟨fun _ ha => run_on hsound ha, fun _ h he => run_early h he, run_off⟩

end Caden.ChallengeEffect
