import Mathlib.Logic.Relation
import Caden.AttestationSpec
import Caden.Identity

/-!
Policies in order of strictness.

Every option is consulted at a place of its own: client data, flags, the list of algorithms, the
status map, the certificate chain, the used challenges. A relying party that is stricter in each
of them accepts nothing that the other one rejects, and changes nothing in a result except that
a certificate chain is reported as verified.
-/

namespace Caden.Policy

open Relation

/-! ### The order -/

/-- `rp'` is at least as strict as `rp`, option by option. -/
structure Stricter (rp rp' : RelyingParty) : Prop where
  rpId : rp'.id = rp.id
  origins : rp'.allowedOrigins ⊆ rp.allowedOrigins
  userVerification : rp.requireUserVerification = true → rp'.requireUserVerification = true
  crossOrigin : rp.rejectCrossOrigin = true → rp'.rejectCrossOrigin = true
  backupRequired : rp.requireBackupEligible = true → rp'.requireBackupEligible = true
  backupRejected : rp.rejectBackupEligible = true → rp'.rejectBackupEligible = true
  algorithms : rp.allowedAlgorithms = [] ∨
    rp'.allowedAlgorithms ≠ [] ∧ rp'.allowedAlgorithms ⊆ rp.allowedAlgorithms
  metadata : rp.authenticatorMetadata = ∅ ∨ rp'.authenticatorMetadata = rp.authenticatorMetadata
  anchors : rp.trustAnchors = [] ∨ rp'.trustAnchors = rp.trustAnchors
  singleUse : rp.usedChallenges = none ∨ rp'.usedChallenges = rp.usedChallenges

lemma Stricter.refl (rp : RelyingParty) : Stricter rp rp where
  rpId := rfl
  origins := List.Subset.refl _
  userVerification := id
  crossOrigin := id
  backupRequired := id
  backupRejected := id
  algorithms := (em _).imp_right fun h => ⟨h, List.Subset.refl _⟩
  metadata := Or.inr rfl
  anchors := Or.inr rfl
  singleUse := Or.inr rfl

lemma off_or_eq_trans {α : Type} {off a b c : α} (hab : a = off ∨ b = a)
    (hbc : b = off ∨ c = b) : a = off ∨ c = a := by
  rcases hab with h | rfl
  · exact Or.inl h
  · exact hbc

lemma Stricter.trans {rp rp' rp'' : RelyingParty} (h : Stricter rp rp')
    (h' : Stricter rp' rp'') : Stricter rp rp'' where
  rpId := h'.rpId.trans h.rpId
  origins := List.Subset.trans h'.origins h.origins
  userVerification := h'.userVerification ∘ h.userVerification
  crossOrigin := h'.crossOrigin ∘ h.crossOrigin
  backupRequired := h'.backupRequired ∘ h.backupRequired
  backupRejected := h'.backupRejected ∘ h.backupRejected
  algorithms := by
    rcases h.algorithms with hnil | ⟨hne, hsub⟩
    · exact Or.inl hnil
    · rcases h'.algorithms with hnil | ⟨hne', hsub'⟩
      · exact absurd hnil hne
      · exact Or.inr ⟨hne', List.Subset.trans hsub' hsub⟩
  metadata := off_or_eq_trans h.metadata h'.metadata
  anchors := off_or_eq_trans h.anchors h'.anchors
  singleUse := off_or_eq_trans h.singleUse h'.singleUse

/-- One change of an option that makes a relying party stricter. -/
inductive Tightens (rp : RelyingParty) : RelyingParty → Prop
  | requireUserVerification (h : rp.requireUserVerification = false) :
    Tightens rp (rp.withRequireUserVerification true)
  | rejectCrossOrigin (h : rp.rejectCrossOrigin = false) :
    Tightens rp (rp.withRejectCrossOrigin true)
  | requireBackupEligible (h : rp.requireBackupEligible = false) :
    Tightens rp (rp.withRequireBackupEligible true)
  | rejectBackupEligible (h : rp.rejectBackupEligible = false) :
    Tightens rp (rp.withRejectBackupEligible true)
  | allowAlgorithms (h : rp.allowedAlgorithms = []) (algs : List ℤ) :
    Tightens rp (rp.withAllowedAlgorithms algs)
  | restrictAlgorithms (algs : List ℤ) (hne : algs ≠ []) (hsub : algs ⊆ rp.allowedAlgorithms) :
    Tightens rp (rp.withAllowedAlgorithms algs)
  | restrictOrigins (origins : List String) (hsub : origins ⊆ rp.allowedOrigins) :
    Tightens rp { rp with allowedOrigins := origins }
  | authenticatorMetadata (h : rp.authenticatorMetadata = ∅)
      (entries : List (AuthData.Aaguid × List AuthenticatorStatus)) :
    Tightens rp (rp.withAuthenticatorMetadata entries)
  | trustAnchors (h : rp.trustAnchors = []) (roots : List Bytes) (hne : roots ≠ []) :
    Tightens rp (rp.withTrustAnchors roots)
  | enforceSingleUse (h : rp.usedChallenges = none) (fresh : Arc) :
    Tightens rp (rp.enforceSingleUseChallenges fresh true)

lemma stricter_of_tightens {rp rp' : RelyingParty} (h : Tightens rp rp') : Stricter rp rp' := by
  have hrefl := Stricter.refl rp
  cases h with
  | requireUserVerification _ => exact { hrefl with userVerification := fun _ => rfl }
  | rejectCrossOrigin _ => exact { hrefl with crossOrigin := fun _ => rfl }
  | requireBackupEligible _ => exact { hrefl with backupRequired := fun _ => rfl }
  | rejectBackupEligible _ => exact { hrefl with backupRejected := fun _ => rfl }
  | allowAlgorithms hnil algs => exact { hrefl with algorithms := Or.inl hnil }
  | restrictAlgorithms algs hne hsub => exact { hrefl with algorithms := Or.inr ⟨hne, hsub⟩ }
  | restrictOrigins origins hsub => exact { hrefl with origins := hsub }
  | authenticatorMetadata hempty entries => exact { hrefl with metadata := Or.inl hempty }
  | trustAnchors hnil roots _ => exact { hrefl with anchors := Or.inl hnil }
  | enforceSingleUse hnone fresh => exact { hrefl with singleUse := Or.inl hnone }

lemma stricter_of_run {rp rp' : RelyingParty} (h : ReflTransGen Tightens rp rp') :
    Stricter rp rp' := by
  induction h with
  | refl => exact Stricter.refl rp
  | tail _ hlast ih => exact ih.trans (stricter_of_tightens hlast)

/-! ### Attestation with more anchors -/

/-- A type as the stricter relying party reports it, and as the other one does. -/
def Upgrades (t' t : AttestationType) : Prop := t' = t ∨ t = .basic ∧ t' = .basicVerified

lemma upgrades_refl (t : AttestationType) : Upgrades t t := Or.inl rfl

section
variable {E : Env} {anchors anchors' : List Bytes}

lemma matched_chain (h : anchors = [] ∨ anchors' = anchors) (certs : List Bytes) :
    (X5c.verifyX5cChain E certs anchors').Matched Upgrades
      (X5c.verifyX5cChain E certs anchors) := by
  rcases h with rfl | rfl
  · intro t' ht'
    rcases X5c.verifyX5cChain_eq_ok.mp ht' with ⟨rfl, -, hlinked⟩ | ⟨rfl, -, hchain⟩
    · have hok := X5c.verifyX5cChain_eq_ok.mpr (Or.inl ⟨rfl, rfl, hlinked⟩)
      exact ⟨.basic, hok, Or.inl rfl⟩
    · have hok := X5c.verifyX5cChain_eq_ok.mpr (Or.inl ⟨rfl, rfl, hchain.linked⟩)
      exact ⟨.basic, hok, Or.inr ⟨rfl, rfl⟩⟩
  · exact .refl upgrades_refl _

lemma matched_verify (h : anchors = [] ∨ anchors' = anchors) (fmt : String) (attStmt : Value)
    (authData : Bytes) (hash : ArrayN UInt8 32) (pk : PublicKey) (credId : Bytes)
    (aaguid : ArrayN UInt8 16) :
    (Attestation.verify E fmt attStmt authData hash pk credId anchors' aaguid).Matched Upgrades
      (Attestation.verify E fmt attStmt authData hash pk credId anchors aaguid) := by
  have hE : E = Attestation.withCertificates E E.x509FromDer E.x509VerifySignature := rfl
  refine Attestation.matched_verify hE upgrades_refl (matched_chain h) (fun _ _ => rfl) ?_
  exact fun _ _ leaf _ _ => .refl leaf

end

/-! ### The parts of the ceremonies -/

section
variable {E : Env} {rp rp' : RelyingParty} {clock : Clock} {challenge : Challenge} {heap : Heap}

lemma matched_validateClientData (h : Stricter rp rp') (p : ClientData.ParsedClientData)
    {type_ : String} (hty : type_ ≠ "") (bytes : Bytes) :
    (ClientData.validateClientData p type_ bytes rp'.allowedOrigins
        rp'.rejectCrossOrigin).Matched Eq
      (ClientData.validateClientData p type_ bytes rp.allowedOrigins rp.rejectCrossOrigin) := by
  refine .of_imp fun _ hok => ?_
  rw [ClientData.validateClientData_eq_ok hty] at hok ⊢
  obtain ⟨htype, hbytes, horigin, hcross⟩ := hok
  exact ⟨htype, hbytes, h.origins horigin, fun hc => hcross ⟨h.crossOrigin hc.1, hc.2⟩⟩

lemma useChallenge_of_stricter (h : Stricter rp rp') {bytes : Bytes} {u : Unit}
    (hok : ((useChallenge rp'.usedChallenges bytes).run heap).1 = .ok u) :
    ((useChallenge rp.usedChallenges bytes).run heap).1 = .ok u := by
  rcases h.singleUse with hnone | hsame
  · rw [hnone]
    rfl
  · rw [← hsame]
    exact hok

lemma trusted_of_stricter (h : Stricter rp rp') {aaguid : AuthData.Aaguid}
    (htrusted : Registration.Trusted rp'.authenticatorMetadata aaguid) :
    Registration.Trusted rp.authenticatorMetadata aaguid := by
  rcases h.metadata with hempty | hsame
  · intro statuses hlookup
    rw [hempty, Finmap.lookup_empty] at hlookup
    cases hlookup
  · rwa [← hsame]

lemma allowed_of_stricter (h : Stricter rp rp') {alg : ℤ}
    (halg : rp'.allowedAlgorithms = [] ∨ alg ∈ rp'.allowedAlgorithms) :
    rp.allowedAlgorithms = [] ∨ alg ∈ rp.allowedAlgorithms := by
  rcases h.algorithms with hnil | ⟨hne, hsub⟩
  · exact Or.inl hnil
  · exact Or.inr (hsub (halg.resolve_left hne))

lemma backupAllowed_of_stricter (h : Stricter rp rp') {be : Bool}
    (hbe : ¬ (rp'.rejectBackupEligible = true ∧ be = true)) :
    ¬ (rp.rejectBackupEligible = true ∧ be = true) :=
  fun hrp => hbe ⟨h.backupRejected hrp.1, hrp.2⟩

lemma backupRequired_of_stricter (h : Stricter rp rp') {be : Bool}
    (hbe : ¬ (rp'.requireBackupEligible = true ∧ be = false)) :
    ¬ (rp.requireBackupEligible = true ∧ be = false) :=
  fun hrp => hbe ⟨h.backupRequired hrp.1, hrp.2⟩

/-! ### Authentication -/

lemma matched_authentication_checkClientData (h : Stricter rp rp')
    (response : AuthenticatorAssertionResponse) :
    (Authentication.checkClientData E rp' clock challenge response).Matched Eq
      (Authentication.checkClientData E rp clock challenge response) := by
  refine .bind_same fun _ _ => .bind_same fun p _ => ?_
  refine .bind (matched_validateClientData h p (by decide) challenge.bytes) fun _ _ _ _ => ?_
  exact .pure rfl

lemma matched_authentication_checkAuthData (h : Stricter rp rp') (stored : Credential)
    (ad : AuthData.AuthenticatorData) :
    (Authentication.checkAuthData E rp' stored ad).Matched Eq
      (Authentication.checkAuthData E rp stored ad) := by
  refine .of_imp fun _ hok => ?_
  rw [Authentication.checkAuthData_eq_ok] at hok ⊢
  obtain ⟨hhash, hup, huv, hallowed, hrequired, hsame⟩ := hok
  exact ⟨hhash, hup, huv ∘ h.userVerification, backupAllowed_of_stricter h hallowed,
    backupRequired_of_stricter h hrequired, hsame⟩

lemma matched_verifyAssertion (h : Stricter rp rp') (stored : Credential)
    (response : AuthenticatorAssertionResponse) (p : ClientData.ParsedClientData) :
    (Authentication.verifyAssertion E rp' stored response p).Matched Eq
      (Authentication.verifyAssertion E rp stored response p) := by
  refine .bind_same fun hash _ => .bind_same fun ad _ => ?_
  refine .bind (matched_authentication_checkAuthData h stored ad) fun _ _ _ _ => ?_
  exact .refl (fun _ => rfl) _

/-- **What the stricter relying party authenticates, the other one does too.** -/
lemma authentication_of_stricter (h : Stricter rp rp') {stored : Credential}
    {response : AuthenticatorAssertionResponse} {r : AuthenticationResult}
    (hok : ((Authentication.verifyAuthentication E rp' stored clock challenge response).run
      heap).1 = .ok r) :
    ((Authentication.verifyAuthentication E rp stored clock challenge response).run
      heap).1 = .ok r := by
  obtain ⟨p, hp, hok⟩ := Stateful.run_bind_eq_ok.mp hok
  obtain ⟨u, hu, hok⟩ := Stateful.run_bind_eq_ok.mp hok
  obtain ⟨_, hp', rfl⟩ := matched_authentication_checkClientData h response p hp
  obtain ⟨_, hr', rfl⟩ := matched_verifyAssertion h stored response p r hok
  refine Stateful.run_bind_eq_ok.mpr ⟨p, hp', ?_⟩
  exact Stateful.run_bind_eq_ok.mpr ⟨u, useChallenge_of_stricter h hu, hr'⟩

/-! ### Registration -/

lemma matched_registration_checkClientData (h : Stricter rp rp')
    (response : AuthenticatorAttestationResponse) :
    (Registration.checkClientData E rp' clock challenge response).Matched Eq
      (Registration.checkClientData E rp clock challenge response) := by
  refine .bind_same fun _ _ => .bind_same fun _ _ => .bind_same fun p _ => ?_
  refine .bind (matched_validateClientData h p (by decide) challenge.bytes) fun _ _ _ _ => ?_
  exact .pure rfl

lemma matched_registration_checkAuthData (h : Stricter rp rp')
    (ad : AuthData.AuthenticatorData) :
    (Registration.checkAuthData E rp' ad).Matched Eq (Registration.checkAuthData E rp ad) := by
  refine .of_imp fun _ hok => ?_
  rw [Registration.checkAuthData_eq_ok] at hok ⊢
  obtain ⟨hhash, hup, hallowed, hrequired, hcred, htrusted, halg⟩ := hok
  exact ⟨h.rpId ▸ hhash, hup, backupAllowed_of_stricter h hallowed,
    backupRequired_of_stricter h hrequired, hcred, trusted_of_stricter h htrusted,
    allowed_of_stricter h halg⟩

/-- The results are equal, except that a type may be upgraded. -/
def ResultUpgrades (r' r : RegistrationResult) : Prop :=
  ∃ t', Upgrades t' r.attestationType ∧ r' = { r with attestationType := t' }

lemma matched_verifyAttestation (h : Stricter rp rp')
    (response : AuthenticatorAttestationResponse) (userId : Bytes)
    (p : ClientData.ParsedClientData) :
    (Registration.verifyAttestation E rp' clock response userId p).Matched ResultUpgrades
      (Registration.verifyAttestation E rp clock response userId p) := by
  refine .bind_same fun hash _ => .bind_same fun obj _ => .bind_same fun ad _ => ?_
  refine .bind (matched_registration_checkAuthData h ad) fun cd cd' _ hcd => ?_
  obtain rfl : cd = cd' := hcd
  refine .bind_same fun pk _ => ?_
  refine .bind (matched_verify h.anchors _ _ _ _ _ _ _) fun t' t _ ht => ?_
  refine .pure ⟨t', ht, ?_⟩
  rw [h.rpId]

/-- **What the stricter relying party registers, the other one does too.** -/
lemma registration_of_stricter (h : Stricter rp rp')
    {response : AuthenticatorAttestationResponse} {userId : Bytes} {r' : RegistrationResult}
    (hok : ((Registration.verifyRegistration E rp' clock challenge response userId).run
      heap).1 = .ok r') :
    ∃ r, ((Registration.verifyRegistration E rp clock challenge response userId).run
      heap).1 = .ok r ∧ ResultUpgrades r' r := by
  obtain ⟨p, hp, hok⟩ := Stateful.run_bind_eq_ok.mp hok
  obtain ⟨u, hu, hok⟩ := Stateful.run_bind_eq_ok.mp hok
  obtain ⟨_, hp', rfl⟩ := matched_registration_checkClientData h response p hp
  obtain ⟨r, hr, hup⟩ := matched_verifyAttestation h response userId p r' hok
  refine ⟨r, ?_, hup⟩
  refine Stateful.run_bind_eq_ok.mpr ⟨p, hp', ?_⟩
  exact Stateful.run_bind_eq_ok.mpr ⟨u, useChallenge_of_stricter h hu, hr⟩

end

/-- **Policy options only ever tighten.** After any sequence of such changes, on one clock and
one memory of used challenges, every response that is accepted was acceptable before, with the
same result up to the verification of a certificate chain. -/
theorem options_only_tighten (E : Env) (rp rp' : RelyingParty) (h : ReflTransGen Tightens rp rp')
    (clock : Clock) (challenge : Challenge) (heap : Heap) :
    (∀ (response : AuthenticatorAttestationResponse) (userId : Bytes) (r' : RegistrationResult),
      ((Registration.verifyRegistration E rp' clock challenge response userId).run
        heap).1 = .ok r' →
      ∃ r, ((Registration.verifyRegistration E rp clock challenge response userId).run
        heap).1 = .ok r ∧ ResultUpgrades r' r) ∧
    ∀ (stored : Credential) (response : AuthenticatorAssertionResponse)
      (r : AuthenticationResult),
      ((Authentication.verifyAuthentication E rp' stored clock challenge response).run
        heap).1 = .ok r →
      ((Authentication.verifyAuthentication E rp stored clock challenge response).run
        heap).1 = .ok r := by
  have hstricter := stricter_of_run h
  exact ⟨fun _ _ _ => registration_of_stricter hstricter,
    fun _ _ _ => authentication_of_stricter hstricter⟩

section
open Recorded

/-- A relying party with most options on. -/
def strictRp : RelyingParty :=
  ((((((rp.withRequireUserVerification true).withRejectCrossOrigin true).withRejectBackupEligible
    true).withAllowedAlgorithms [COSE_ES256, COSE_ES384]).withAllowedAlgorithms
    [COSE_ES256]).withTrustAnchors [rootDer]).enforceSingleUseChallenges 0 true

lemma tightens_strictRp : ReflTransGen Tightens rp strictRp := by
  refine .head (.requireUserVerification rfl) ?_
  refine .head (.rejectCrossOrigin rfl) ?_
  refine .head (.rejectBackupEligible rfl) ?_
  refine .head (.allowAlgorithms rfl [COSE_ES256, COSE_ES384]) ?_
  refine .head (.restrictAlgorithms [COSE_ES256] (by decide) (by decide)) ?_
  refine .head (.trustAnchors rfl [rootDer] (by simp)) ?_
  exact .single (.enforceSingleUse rfl 0)

lemma strict_registers : ((Registration.verifyRegistration (registration aaguid).env strictRp
    clock createChallenge (createResponse aaguid) [0x75]).run
      (Heap.new fun _ => ∅)).1.isOk = true := by
  decide +kernel

lemma strict_authenticates : ((Authentication.verifyAuthentication twoAssertions.env strictRp
    credential clock firstChallenge firstResponse).run (Heap.new fun _ => ∅)).1.isOk = true := by
  decide +kernel

/-- What the strict relying party accepts is accepted without its options. -/
theorem strictRp_only_tightens :
    ((Registration.verifyRegistration (registration aaguid).env rp clock createChallenge
      (createResponse aaguid) [0x75]).run (Heap.new fun _ => ∅)).1.isOk = true ∧
    ((Authentication.verifyAuthentication twoAssertions.env rp credential clock firstChallenge
      firstResponse).run (Heap.new fun _ => ∅)).1.isOk = true := by
  obtain ⟨r', hr'⟩ := Outcome.isOk_iff.mp strict_registers
  obtain ⟨s', hs'⟩ := Outcome.isOk_iff.mp strict_authenticates
  obtain ⟨hreg, -⟩ := options_only_tighten (registration aaguid).env rp strictRp
    tightens_strictRp clock createChallenge (Heap.new fun _ => ∅)
  obtain ⟨-, hauth⟩ := options_only_tighten twoAssertions.env rp strictRp tightens_strictRp clock
    firstChallenge (Heap.new fun _ => ∅)
  obtain ⟨r, hr, -⟩ := hreg _ _ r' hr'
  exact ⟨Outcome.isOk_iff.mpr ⟨r, hr⟩, Outcome.isOk_iff.mpr ⟨s', hauth _ _ s' hs'⟩⟩

end

end Caden.Policy
