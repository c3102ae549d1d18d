import Caden.AuthenticationSpec
import Caden.Lib.Counter
import Caden.Recorded

/-!
The stored signature counter over whole runs of authentication.

The caller writes the new count back after each accepted login, and changes nothing after a
rejected one. The stored count is then a run of the counter that only moves ahead.
-/

namespace Caden.SignCount

open Relation Authentication

/-- A login against whatever credential is stored when it is verified. -/
structure Login where
  rp : RelyingParty
  clock : Clock
  challenge : Challenge
  response : AuthenticatorAssertionResponse

def Login.verify (E : Env) (l : Login) (stored : Credential) :
    Stateful Heap WebAuthnError AuthenticationResult :=
  verifyAuthentication E l.rp stored l.clock l.challenge l.response

/-- The credential with the count that a login returned. -/
def withCount (stored : Credential) (r : AuthenticationResult) : Credential :=
  { stored with signCount := r.newSignCount }

/-- What is stored, and the used challenges. -/
structure State where
  stored : Credential
  heap : Heap

def Login.result (E : Env) (l : Login) (s : State) : Res AuthenticationResult :=
  ((l.verify E s.stored).run s.heap).1

/-- The state after the login, with its count written back if it was accepted. -/
def Login.step (E : Env) (l : Login) (s : State) : State where
  stored := match l.result E s with
    | .ok r => withCount s.stored r
    | _ => s.stored
  heap := ((l.verify E s.stored).run s.heap).2

def afterAll (E : Env) (logins : List Login) (s : State) : State :=
  logins.foldl (fun s l => l.step E s) s

/-! ### The counter -/

/-- The stored count. -/
def State.count (s : State) : ℕ := s.stored.signCount.toNat

variable {E : Env} {s : State} {l : Login} {r : AuthenticationResult}

lemma counts_iff {stored received : UInt32} :
    Counts stored received ↔ Counter.Admits stored.toNat received.toNat := by
  simp only [Counts, Counter.Admits, Nat.bot_eq_zero, UInt32.lt_iff_toNat_lt, ← UInt32.toNat_inj]
  rfl

lemma admits_of_ok {stored : Credential} {heap : Heap}
    (h : ((l.verify E stored).run heap).1 = .ok r) :
    (∃ ad, AuthData.parseAuthenticatorData E l.response.authenticatorData = .ok ad ∧
      r.newSignCount = ad.signCount) ∧
      Counter.Admits stored.signCount.toNat r.newSignCount.toNat := by
  obtain ⟨ad, had, rfl⟩ := accepts_of_ok h
  exact ⟨⟨ad, had.parses, rfl⟩, counts_iff.mp had.counts⟩

lemma step_of_ok (h : l.result E s = .ok r) : (l.step E s).stored = withCount s.stored r := by
  simp [Login.step, h]

lemma step_run (l : Login) (s : State) : Counter.Run s.count (l.step E s).count := by
  rcases hr : l.result E s with r | e | _
  · rw [State.count, State.count, step_of_ok hr]
    exact .single (admits_of_ok hr).2
  · simp [State.count, Login.step, hr, Counter.Run, ReflTransGen.refl]
  · simp [State.count, Login.step, hr, Counter.Run, ReflTransGen.refl]

lemma afterAll_run (logins : List Login) (s : State) :
    Counter.Run s.count (afterAll E logins s).count := by
  induction logins generalizing s with
  | nil => exact .refl
  | cons l logins ih => exact (step_run l s).trans (ih (l.step E s))

/-- **The counter protects whole runs.** From any state and after any logins: the stored count
has not decreased; an accepted login increases it strictly, unless both counts are zero; a
count that is not zero never becomes zero; and an assertion with a count that is not zero, once
accepted, is rejected ever after, with whatever challenge it is presented. -/
theorem counter_protects (E : Env) (s : State) (logins : List Login) :
    s.stored.signCount ≤ (afterAll E logins s).stored.signCount ∧
    (∀ (l : Login) (r : AuthenticationResult), l.result E (afterAll E logins s) = .ok r →
      ((afterAll E logins s).stored.signCount = 0 ∧ r.newSignCount = 0) ∨
      (afterAll E logins s).stored.signCount <
        (l.step E (afterAll E logins s)).stored.signCount) ∧
    (s.stored.signCount ≠ 0 → (afterAll E logins s).stored.signCount ≠ 0) ∧
    ∀ (l l' : Login) (r r' : AuthenticationResult), l.result E s = .ok r →
      r.newSignCount ≠ 0 →
      l'.response.authenticatorData = l.response.authenticatorData →
      l'.result E (afterAll E logins (l.step E s)) ≠ .ok r' := by
  have hrun := afterAll_run (E := E) logins s
  refine ⟨UInt32.le_iff_toNat_le.mpr hrun.le, fun l r hr => ?_, fun h0 h => ?_, ?_⟩
  · rw [step_of_ok hr]
    exact counts_iff.mpr (admits_of_ok hr).2
  · have hne : s.count ≠ ⊥ := fun h => h0 (UInt32.toNat_inj.mp h)
    exact hrun.ne_bot hne (congrArg UInt32.toNat h)
  · intro l l' r r' hr h0 hdata hr'
    obtain ⟨⟨ad, had, hcount⟩, -⟩ := admits_of_ok hr
    obtain ⟨⟨ad', had', hcount'⟩, hadmits⟩ := admits_of_ok hr'
    -- the same bytes carry the same count
    rw [hdata, had, Outcome.ok.injEq] at had'
    subst had'
    rw [hcount', ← hcount] at hadmits
    have hlater := afterAll_run (E := E) logins (l.step E s)
    rw [State.count, step_of_ok hr] at hlater
    exact hlater.not_admits (fun h => h0 (UInt32.toNat_inj.mp h)) hadmits

/-! ### Two logins -/

section
open Recorded

def first : Login := ⟨rp, clock, firstChallenge, firstResponse⟩
def second : Login := ⟨rp, clock, secondChallenge, secondResponse⟩

/-- The state after registration. -/
def registered : State := ⟨credential, Heap.new fun _ => ∅⟩

lemma first_count : (·.newSignCount) <$> first.result twoAssertions.env registered = .ok 1 := by
  decide +kernel

/-- The first assertion is accepted, and rejected after the second login. -/
theorem first_not_replayed : ∃ r, first.result twoAssertions.env registered = .ok r ∧
    ∀ r', first.result twoAssertions.env
      (afterAll twoAssertions.env [second] (first.step twoAssertions.env registered)) ≠ .ok r' := by
  obtain ⟨r, hr, hcount⟩ := Outcome.map_eq_ok.mp first_count
  have h0 : r.newSignCount ≠ 0 := by simp [hcount]
  obtain ⟨-, -, -, hreplay⟩ := counter_protects twoAssertions.env registered [second]
  exact ⟨r, hr, fun r' => hreplay first first r r' hr h0 rfl⟩

end

end Caden.SignCount
