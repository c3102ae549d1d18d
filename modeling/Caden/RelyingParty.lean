import Caden.AuthData

/-!
The relying party: its policy, its builders, and the set of used challenges that clones of
one relying party share.

A shared set lives behind a mutex at an address; cloning a relying party copies the address.
The memory of all mutexes is the state that ceremonies read and change.
-/

namespace Caden

/-! ### Shared memory -/

/-- A mutex around a set of challenges. It is poisoned when a holder of its lock panicked. -/
structure Mutex where
  set : Finset Bytes
  poisoned : Bool

def Mutex.new : Mutex := ⟨∅, false⟩

/-- The address of a shared mutex. -/
abbrev Arc : Type := ℕ

abbrev Heap : Type := Arc → Mutex

/-- The memory in which the mutex at each address guards the given set. -/
def Heap.new (sets : Arc → Finset Bytes) : Heap := fun a => ⟨sets a, false⟩

/-- No mutex is poisoned. -/
def Heap.Sound (h : Heap) : Prop := ∀ a, (h a).poisoned = false

lemma Heap.sound_new (sets : Arc → Finset Bytes) : (Heap.new sets).Sound := fun _ => rfl

/-! ### Configuration -/

inductive AuthenticatorAttachment where
  | platform
  | crossPlatform
  deriving DecidableEq

inductive ResidentKeyRequirement where
  | discouraged
  | preferred
  | required
  deriving DecidableEq

inductive UserVerificationRequirement where
  | required
  | preferred
  | discouraged
  deriving DecidableEq

structure AuthenticatorSelection where
  authenticatorAttachment : Option AuthenticatorAttachment
  residentKey : Option ResidentKeyRequirement
  requireResidentKey : Bool
  userVerification : UserVerificationRequirement
  deriving DecidableEq

/-- Status lists by authenticator model. -/
abbrev StatusMap : Type := Fold.Map AuthData.Aaguid (List AuthenticatorStatus)

structure RelyingParty where
  id : String
  allowedOrigins : List String
  name : String
  requireUserVerification : Bool
  rejectCrossOrigin : Bool
  allowedAlgorithms : List ℤ
  requireBackupEligible : Bool
  rejectBackupEligible : Bool
  trustAnchors : List Bytes
  usedChallenges : Option Arc
  defaultAuthenticatorSelection : Option AuthenticatorSelection
  authenticatorMetadata : StatusMap

namespace RelyingParty

def withOrigins (id : String) (origins : List String) (name : String) : RelyingParty where
  id := id
  allowedOrigins := origins
  name := name
  requireUserVerification := false
  rejectCrossOrigin := false
  allowedAlgorithms := []
  requireBackupEligible := false
  rejectBackupEligible := false
  trustAnchors := []
  usedChallenges := none
  defaultAuthenticatorSelection := none
  authenticatorMetadata := ∅

def new (id origin name : String) : RelyingParty := withOrigins id [origin] name

variable (rp : RelyingParty)

def withRequireUserVerification (required : Bool) : RelyingParty :=
  { rp with requireUserVerification := required }

def withRejectCrossOrigin (reject : Bool) : RelyingParty :=
  { rp with rejectCrossOrigin := reject }

def withAllowedAlgorithms (algs : List ℤ) : RelyingParty := { rp with allowedAlgorithms := algs }

def withRequireBackupEligible (required : Bool) : RelyingParty :=
  { rp with requireBackupEligible := required }

def withRejectBackupEligible (reject : Bool) : RelyingParty :=
  { rp with rejectBackupEligible := reject }

def withTrustAnchors (roots : List Bytes) : RelyingParty := { rp with trustAnchors := roots }

/-- The entries are collected into a map, so of several entries for one model the last one
stays. -/
def withAuthenticatorMetadata (entries : List (AuthData.Aaguid × List AuthenticatorStatus)) :
    RelyingParty :=
  { rp with authenticatorMetadata := Fold.collect entries }

/-- `fresh` is the address of the mutex that is allocated when enforcement is on. -/
def enforceSingleUseChallenges (fresh : Arc) (enforce : Bool) : RelyingParty :=
  { rp with usedChallenges := if enforce then some fresh else none }

def withDefaultAuthenticatorSelection (sel : AuthenticatorSelection) : RelyingParty :=
  { rp with defaultAuthenticatorSelection := some sel }

end RelyingParty

/-! ### The used challenges -/

/-- The locked section of both ceremonies: a challenge that is in the set is rejected, any
other is added to it. Locking a poisoned mutex panics. -/
def useChallenge (used : Option Arc) (challenge : Bytes) : Stateful Heap WebAuthnError Unit :=
  match used with
  | none => pure ()
  | some a => fun heap =>
    if (heap a).poisoned then (.panic, heap)
    else if challenge ∈ (heap a).set then (.err .challengePreviouslyUsed, heap)
    else (.ok (), Function.update heap a { heap a with set := insert challenge (heap a).set })

/-- Enforcement is off, or the challenge has not been used. -/
def Unused (used : Option Arc) (challenge : Bytes) (heap : Heap) : Prop :=
  ∀ a, used = some a → challenge ∉ (heap a).set

section
variable {used : Option Arc} {challenge : Bytes} {heap : Heap} {u : Unit}

/-- **What the locked section does when it passes**: nothing where enforcement is off, else it
adds an unused challenge. -/
lemma useChallenge_passes (h : ((useChallenge used challenge).run heap).1 = .ok u) :
    (used = none ∧ ((useChallenge used challenge).run heap).2 = heap) ∨
    ∃ a, used = some a ∧ challenge ∉ (heap a).set ∧
      ((useChallenge used challenge).run heap).2 =
        Function.update heap a { heap a with set := insert challenge (heap a).set } := by
  rcases used with _ | a
  · exact Or.inl ⟨rfl, rfl⟩
  · right
    refine ⟨a, rfl, ?_⟩
    by_cases hp : (heap a).poisoned
    · simp [useChallenge, Stateful.run, hp] at h
    · by_cases hc : challenge ∈ (heap a).set
      · simp [useChallenge, Stateful.run, hp, hc] at h
      · simp [useChallenge, Stateful.run, hp, hc]

lemma useChallenge_fails (h : ¬ ((useChallenge used challenge).run heap).1 = .ok ()) :
    ((useChallenge used challenge).run heap).2 = heap := by
  rcases used with _ | a
  · rfl
  · by_cases hp : (heap a).poisoned
    · simp [useChallenge, Stateful.run, hp]
    · by_cases hc : challenge ∈ (heap a).set
      · simp [useChallenge, Stateful.run, hp, hc]
      · simp [useChallenge, Stateful.run, hp, hc] at h

lemma unused_of_passes (h : ((useChallenge used challenge).run heap).1 = .ok u) :
    Unused used challenge heap := by
  rcases useChallenge_passes h with ⟨rfl, -⟩ | ⟨a, rfl, ha, -⟩
  · exact nofun
  · rintro b hb
    obtain rfl := Option.some.inj hb
    exact ha

lemma useChallenge_eq_ok (h : heap.Sound) :
    ((useChallenge used challenge).run heap).1 = .ok u ↔ Unused used challenge heap := by
  refine ⟨unused_of_passes, fun hu => ?_⟩
  rcases used with _ | a
  · rfl
  · simp [useChallenge, Stateful.run, h a, hu a rfl]

lemma safe_useChallenge (h : heap.Sound) : ((useChallenge used challenge).run heap).1.Safe := by
  rcases used with _ | a
  · simp [useChallenge]
  · by_cases hc : challenge ∈ (heap a).set <;> simp [useChallenge, Stateful.run, h a, hc]

lemma useChallenge_sound (h : heap.Sound) : ((useChallenge used challenge).run heap).2.Sound := by
  by_cases hok : ((useChallenge used challenge).run heap).1 = .ok ()
  · rcases useChallenge_passes hok with ⟨-, heq⟩ | ⟨a, -, -, heq⟩
    · rwa [heq]
    · rw [heq]
      intro b
      by_cases hb : b = a
      · subst hb
        simpa using h b
      · simpa [Function.update_of_ne hb] using h b
  · rwa [useChallenge_fails hok]

end

end Caden
