import Caden.RegistrationSpec
import Caden.SignCount
import Caden.Lib.Registry

/-!
The backup flags over a credential's life.

The caller stores the credential that registration returned, and after each accepted login
writes the new count and the backup state back. Backup eligibility is never written; every
accepted assertion is compared with it.
-/

namespace Caden.Backup

open Relation

/-- What the caller stores after an accepted login. -/
def writeBack (stored : Credential) (r : AuthenticationResult) : Credential :=
  { stored with signCount := r.newSignCount, backupState := r.backupState }

/-- One login, by whatever relying party and in whatever memory. -/
inductive Step (E : Env) (stored : Credential) : Credential → Prop
  | accepted (l : SignCount.Login) (heap : Heap) (r : AuthenticationResult)
    (h : ((l.verify E stored).run heap).1 = .ok r) : Step E stored (writeBack stored r)
  | rejected (l : SignCount.Login) (heap : Heap)
    (h : ((l.verify E stored).run heap).1.isOk = false) : Step E stored stored

/-- The stored flags, for a credential that was registered with the eligibility `be`: only an
eligible credential is backed up. -/
structure Inv (be : Bool) (stored : Credential) : Prop where
  eligible : stored.backupEligible = be
  backedUp : stored.backupState = true → be = true

section
variable {E : Env} {stored stored' : Credential} {be : Bool}

lemma eligible_of_parse {data : Bytes} {ad : AuthData.AuthenticatorData}
    (h : AuthData.parseAuthenticatorData E data = .ok ad)
    (hbs : ad.flags.backupState = true) : ad.flags.backupEligible = true := by
  obtain ⟨-, -, -, hflags, -⟩ := AuthData.parseAuthenticatorData_eq_ok.mp h
  by_contra hbe
  exact hflags ⟨hbs, by simpa using hbe⟩

lemma flags_of_ok {l : SignCount.Login} {heap : Heap} {r : AuthenticationResult}
    (h : ((l.verify E stored).run heap).1 = .ok r) :
    ∃ ad, AuthData.parseAuthenticatorData E l.response.authenticatorData = .ok ad ∧
      ad.flags.backupEligible = stored.backupEligible ∧
      r.backupState = ad.flags.backupState := by
  obtain ⟨ad, had, rfl⟩ := Authentication.accepts_of_ok h
  exact ⟨ad, had.parses, had.backupUnchanged, rfl⟩

/-- **A login preserves the invariant**: the eligibility is not written, and the new state is
one that the parser admits with it. -/
lemma Inv.step (hs : Inv be stored) (h : Step E stored stored') : Inv be stored' := by
  cases h with
  | accepted l heap r hok =>
    obtain ⟨ad, hparse, hsame, hstate⟩ := flags_of_ok hok
    have heligible : ad.flags.backupEligible = be := hsame.trans hs.eligible
    refine ⟨hs.eligible, fun hbs => ?_⟩
    have hbs' : ad.flags.backupState = true := hstate.symm.trans hbs
    rw [← heligible]
    exact eligible_of_parse hparse hbs'
  | rejected l heap _ => exact hs

lemma Inv.run (hs : Inv be stored) (h : ReflTransGen (Step E) stored stored') :
    Inv be stored' :=
  invariant_of_steps (P := Inv be) (fun _ _ => Inv.step) h hs

lemma inv_registered {rp : RelyingParty} {clock : Clock} {challenge : Challenge}
    {response : AuthenticatorAttestationResponse} {userId : Bytes} {heap : Heap}
    {v : Registration.Evidence}
    (h : Registration.Accepts E rp clock challenge response heap v) :
    Inv v.authData.flags.backupEligible (v.result rp clock userId).credential where
  eligible := rfl
  backedUp := eligible_of_parse h.parses

end

/-- **The backup flags over a credential's life.** From the credential that a registration
returned, after any logins: the stored credential is backed up only if it is eligible; an accepted
assertion has the eligibility of the registration; and it satisfies the policy that the
registration satisfied, whichever relying party accepts it. -/
theorem backup_for_life (E : Env) (rp : RelyingParty) (clock : Clock) (challenge : Challenge)
    (response : AuthenticatorAttestationResponse) (userId : Bytes) (heap : Heap)
    (r : RegistrationResult)
    (h : ((Registration.verifyRegistration E rp clock challenge response userId).run
      heap).1 = .ok r) :
    ∃ fmt data stmt registered,
      Registration.IsAttestationObject E response.attestationObject fmt data stmt ∧
      AuthData.parseAuthenticatorData E data = .ok registered ∧
      ∀ stored, ReflTransGen (Step E) r.credential stored →
        (stored.backupState = true → stored.backupEligible = true) ∧
        ∀ (l : SignCount.Login) (later : Heap) (q : AuthenticationResult),
          ((l.verify E stored).run later).1 = .ok q →
          ∃ ad, AuthData.parseAuthenticatorData E l.response.authenticatorData = .ok ad ∧
            ad.flags.backupEligible = registered.flags.backupEligible ∧
            (rp.rejectBackupEligible = true → ad.flags.backupEligible = false) ∧
            (rp.requireBackupEligible = true → ad.flags.backupEligible = true) := by
  obtain ⟨v, hv, rfl⟩ := Registration.accepts_of_ok h
  refine ⟨v.fmt, v.authDataBytes, v.attStmt, v.authData, hv.object, hv.parses, ?_⟩
  intro stored hrun
  have hregistered : Inv v.authData.flags.backupEligible (v.result rp clock userId).credential :=
    inv_registered hv
  have hinv := hregistered.run hrun
  refine ⟨fun hbs => hinv.eligible.trans (hinv.backedUp hbs), fun l later q hq => ?_⟩
  obtain ⟨ad, hparse, hsame, -⟩ := flags_of_ok hq
  have heligible := hsame.trans hinv.eligible
  refine ⟨ad, hparse, heligible, fun hreject => ?_, fun hrequire => ?_⟩
  · rw [heligible]
    by_contra hbe
    exact hv.backupAllowed ⟨hreject, by simpa using hbe⟩
  · rw [heligible]
    by_contra hbe
    exact hv.backupRequired ⟨hrequire, by simpa using hbe⟩

section
open Recorded

/-- The registration and the two logins of one credential. -/
def life : Record :=
  { registration aaguid with
    sha256 := (registration aaguid).sha256 ++ twoAssertions.sha256
    ecdsaAsn1 := twoAssertions.ecdsaAsn1
    clientData := (registration aaguid).clientData ++ twoAssertions.clientData
    urlSafe := (registration aaguid).urlSafe ++ twoAssertions.urlSafe }

/-- A relying party that rejects credentials that can be backed up. -/
def hardwareRp : RelyingParty := rp.withRejectBackupEligible true

lemma life_credential : (·.credential) <$> ((Registration.verifyRegistration life.env hardwareRp
    clock createChallenge (createResponse aaguid) [0x75]).run (Heap.new fun _ => ∅)).1 =
      .ok credential := by
  decide +kernel

lemma life_first : writeBack credential <$> ((SignCount.first.verify life.env credential).run
    (Heap.new fun _ => ∅)).1 = .ok { credential with signCount := 1 } := by
  decide +kernel

lemma life_second : ((SignCount.second.verify life.env { credential with signCount := 1 }).run
    (Heap.new fun _ => ∅)).1.isOk = true := by
  decide +kernel

/-- The second login, by a relying party without the policy, still satisfies it. -/
theorem life_backup : ∃ ad,
    AuthData.parseAuthenticatorData life.env secondResponse.authenticatorData = .ok ad ∧
      ad.flags.backupEligible = false := by
  obtain ⟨r, hr, hcred⟩ := Outcome.map_eq_ok.mp life_credential
  obtain ⟨_, _, _, registered, -, -, hlife⟩ := backup_for_life life.env hardwareRp clock
    createChallenge (createResponse aaguid) [0x75] (Heap.new fun _ => ∅) r hr
  obtain ⟨q, hq, hcount⟩ := Outcome.map_eq_ok.mp life_first
  obtain ⟨s, hs⟩ := Outcome.isOk_iff.mp life_second
  have hrun : ReflTransGen (Step life.env) r.credential { credential with signCount := 1 } := by
    rw [hcred, ← hcount]
    exact .single (.accepted SignCount.first (Heap.new fun _ => ∅) q hq)
  obtain ⟨-, hflags⟩ := hlife _ hrun
  obtain ⟨ad, hparse, -, hreject, -⟩ := hflags SignCount.second (Heap.new fun _ => ∅) s hs
  exact ⟨ad, hparse, hreject rfl⟩

end

end Caden.Backup
