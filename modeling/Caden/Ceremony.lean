import Caden.RegistrationSpec
import Caden.AuthenticationSpec

/-!
Calls of either ceremony on a shared memory, and runs of many of them.
-/

namespace Caden.Ceremony

open ClientData (ParsedClientData)

/-- What a ceremony returns. -/
inductive Verdict where
  | registered (r : RegistrationResult)
  | authenticated (r : AuthenticationResult)

/-- A call of a ceremony, with the clock it reads. -/
inductive Call where
  | register (rp : RelyingParty) (clock : Clock) (challenge : Challenge)
      (response : AuthenticatorAttestationResponse) (userId : Bytes)
  | authenticate (rp : RelyingParty) (stored : Credential) (clock : Clock)
      (challenge : Challenge) (response : AuthenticatorAssertionResponse)

namespace Call

def rp : Call → RelyingParty
  | register rp _ _ _ _ => rp
  | authenticate rp _ _ _ _ => rp

def challenge : Call → Challenge
  | register _ _ challenge _ _ => challenge
  | authenticate _ _ _ challenge _ => challenge

def clientDataJson : Call → Bytes
  | register _ _ _ response _ => response.clientDataJson
  | authenticate _ _ _ _ response => response.clientDataJson

variable (E : Env)

/-- The whole call. -/
def run : Call → Stateful Heap WebAuthnError Verdict
  | register rp clock challenge response userId => do
    let r ← Registration.verifyRegistration E rp clock challenge response userId
    return .registered r
  | authenticate rp stored clock challenge response => do
    let r ← Authentication.verifyAuthentication E rp stored clock challenge response
    return .authenticated r

/-! ### The three parts of a call -/

/-- Before the locked section. -/
def check : Call → Res ParsedClientData
  | register rp clock challenge response _ =>
    Registration.checkClientData E rp clock challenge response
  | authenticate rp _ clock challenge response =>
    Authentication.checkClientData E rp clock challenge response

/-- The locked section. -/
def lock (c : Call) : Stateful Heap WebAuthnError Unit :=
  useChallenge c.rp.usedChallenges c.challenge.bytes

/-- After the locked section. -/
def finish : Call → ParsedClientData → Res Verdict
  | register rp clock _ response userId, p => do
    let r ← Registration.verifyAttestation E rp clock response userId p
    return .registered r
  | authenticate rp stored _ _ response, p => do
    let r ← Authentication.verifyAssertion E rp stored response p
    return .authenticated r

variable {E}

/-- **A call is its three parts in sequence.** -/
lemma run_eq (c : Call) (heap : Heap) : (c.run E).run heap =
    match c.check E with
    | .ok p =>
      match c.lock.run heap with
      | (.ok (), heap') => (c.finish E p, heap')
      | (.err e, heap') => (.err e, heap')
      | (.panic, heap') => (.panic, heap')
    | .err e => (.err e, heap)
    | .panic => (.panic, heap) := by
  cases c with
  | register rp clock challenge response userId =>
    simp only [run, check, finish, lock, Registration.verifyRegistration,
      Registration.verifyRegistrationInner, Stateful.run_bind, Stateful.run_liftM]
    rcases Registration.checkClientData E rp clock challenge response with p | e | _
    · dsimp only [Call.rp, Call.challenge]
      rcases (useChallenge rp.usedChallenges challenge.bytes).run heap with ⟨_ | _ | _, t⟩
      · rcases Registration.verifyAttestation E rp clock response userId p <;> rfl
      · rfl
      · rfl
    · rfl
    · rfl
  | authenticate rp stored clock challenge response =>
    simp only [run, check, finish, lock, Authentication.verifyAuthentication,
      Authentication.verifyAuthenticationInner, Stateful.run_bind, Stateful.run_liftM]
    rcases Authentication.checkClientData E rp clock challenge response with p | e | _
    · dsimp only [Call.rp, Call.challenge]
      rcases (useChallenge rp.usedChallenges challenge.bytes).run heap with ⟨_ | _ | _, t⟩
      · rcases Authentication.verifyAssertion E rp stored response p <;> rfl
      · rfl
      · rfl
    · rfl
    · rfl

lemma sound_run (c : Call) {heap : Heap} (h : heap.Sound) : ((c.run E).run heap).2.Sound := by
  rw [run_eq]
  split
  · have hlock : (c.lock.run heap).2.Sound := useChallenge_sound h
    revert hlock
    rcases c.lock.run heap with ⟨_ | _ | _, t⟩ <;> exact id
  · exact h
  · exact h

end Call

section
variable {E : Env} {rp : RelyingParty} {stored : Credential} {clock : Clock}
  {challenge : Challenge} {heap : Heap}

lemma sound_register {response : AuthenticatorAttestationResponse} {userId : Bytes}
    (h : heap.Sound) : ((Registration.verifyRegistration E rp clock challenge response
      userId).run heap).2.Sound := by
  have hsound := (Call.register rp clock challenge response userId).sound_run (E := E) h
  rwa [Call.run, Stateful.run_bind_pure_snd] at hsound

lemma sound_authenticate {response : AuthenticatorAssertionResponse} (h : heap.Sound) :
    ((Authentication.verifyAuthentication E rp stored clock challenge response).run
      heap).2.Sound := by
  have hsound := (Call.authenticate rp stored clock challenge response).sound_run (E := E) h
  rwa [Call.run, Stateful.run_bind_pure_snd] at hsound

end

/-! ### Runs of calls -/

variable (E : Env)

/-- The memory after calls that are made one after the other. -/
def after (calls : List Call) (heap : Heap) : Heap :=
  calls.foldl (fun h c => ((c.run E).run h).2) heap

variable {E}

lemma sound_after (calls : List Call) {heap : Heap} (h : heap.Sound) :
    (after E calls heap).Sound := by
  induction calls generalizing heap with
  | nil => exact h
  | cons c calls ih => exact ih (c.sound_run h)

/-- **The ceremonies never panic.** This is so after any number of calls, whatever the relying
parties, challenges, credentials and responses. -/
theorem ceremonies_never_panic (E : Env) (sets : Arc → Finset Bytes) (calls : List Call) :
    (∀ (rp : RelyingParty) (clock : Clock) (challenge : Challenge)
        (response : AuthenticatorAttestationResponse) (userId : Bytes),
      ((Registration.verifyRegistration E rp clock challenge response userId).run
        (after E calls (Heap.new sets))).1 ≠ .panic) ∧
    ∀ (rp : RelyingParty) (stored : Credential) (clock : Clock) (challenge : Challenge)
        (response : AuthenticatorAssertionResponse),
      ((Authentication.verifyAuthentication E rp stored clock challenge response).run
        (after E calls (Heap.new sets))).1 ≠ .panic := by
  have hsound := sound_after (E := E) calls (Heap.sound_new sets)
  exact ⟨fun _ _ _ _ _ => Registration.safe_verifyRegistration hsound,
    fun _ _ _ _ _ => Authentication.safe_verifyAuthentication hsound⟩

end Caden.Ceremony
