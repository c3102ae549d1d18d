import Mathlib.Logic.Function.Basic
import Caden.Lib.Registry

/-!
Tickets that are issued under a key and redeemed by it.

An agent issues at most one ticket, under a key of its choice; a ticket under the same key is
replaced. An agent that redeems a key takes the ticket away that is pending there. Whatever the
keys and the order of the moves, a ticket is redeemed at most once.
-/

namespace Caden.Tickets

open Relation

universe u v

/-- The issuer of the ticket that is pending under each key, the agents that have issued one,
and the issuer of the ticket that each agent has redeemed. -/
structure State (κ : Type u) (ι : Type v) where
  pending : κ → Option ι
  issued : Set ι
  redeemed : ι → Option ι

variable {κ : Type u} {ι : Type v}

/-- No ticket has been issued. -/
def start : State κ ι := ⟨fun _ => none, ∅, fun _ => none⟩

variable [DecidableEq κ] [DecidableEq ι]

def State.issue (s : State κ ι) (k : κ) (i : ι) : State κ ι where
  pending := Function.update s.pending k (some i)
  issued := insert i s.issued
  redeemed := s.redeemed

def State.redeem (s : State κ ι) (k : κ) (i j : ι) : State κ ι where
  pending := Function.update s.pending k none
  issued := s.issued
  redeemed := Function.update s.redeemed i (some j)

/-- What agent `i` can do. -/
inductive Move (i : ι) (s : State κ ι) : State κ ι → Prop
  | issue (k : κ) (h : i ∉ s.issued) : Move i s (s.issue k i)
  | redeem (k : κ) (j : ι) (hk : s.pending k = some j) (hi : s.redeemed i = none) :
      Move i s (s.redeem k i j)

/-- A ticket is pending under one key or redeemed by one agent, and it was issued. -/
structure Inv (s : State κ ι) : Prop where
  pending_issued : ∀ k j, s.pending k = some j → j ∈ s.issued
  redeemed_issued : ∀ i j, s.redeemed i = some j → j ∈ s.issued
  pending_single : ∀ k k' j, s.pending k = some j → s.pending k' = some j → k = k'
  pending_fresh : ∀ k i j, s.pending k = some j → s.redeemed i ≠ some j
  redeemed_single : ∀ i i' j, s.redeemed i = some j → s.redeemed i' = some j → i = i'

omit [DecidableEq κ] [DecidableEq ι] in
lemma inv_start : Inv (start : State κ ι) where
  pending_issued _ _ h := by cases h
  redeemed_issued _ _ h := by cases h
  pending_single _ _ _ h := by cases h
  pending_fresh _ _ _ h := by cases h
  redeemed_single _ _ _ h := by cases h

variable {s t : State κ ι}

omit [DecidableEq ι] in
lemma Inv.issue (hs : Inv s) {k : κ} {i : ι} (h : i ∉ s.issued) : Inv (s.issue k i) := by
  have hpending : ∀ k' j, (s.issue k i).pending k' = some j →
      k' = k ∧ j = i ∨ k' ≠ k ∧ s.pending k' = some j := by
    intro k' j hj
    by_cases hk : k' = k
    · subst hk
      exact Or.inl ⟨rfl, (by simpa [State.issue] using hj.symm)⟩
    · exact Or.inr ⟨hk, by simpa [State.issue, hk] using hj⟩
  -- the new ticket is none that was pending or redeemed
  have hnew : ∀ k', s.pending k' ≠ some i := fun k' hk' => h (hs.pending_issued k' i hk')
  refine ⟨?_, fun i' j hj => Or.inr (hs.redeemed_issued i' j hj), ?_, ?_, hs.redeemed_single⟩
  · intro k' j hj
    rcases hpending k' j hj with ⟨-, rfl⟩ | ⟨-, hj⟩
    · exact Or.inl rfl
    · exact Or.inr (hs.pending_issued k' j hj)
  · intro k₁ k₂ j h₁ h₂
    rcases hpending k₁ j h₁ with ⟨rfl, rfl⟩ | ⟨-, hold₁⟩ <;>
      rcases hpending k₂ _ h₂ with ⟨rfl, he⟩ | ⟨-, hold₂⟩
    · rfl
    · exact absurd hold₂ (hnew k₂)
    · exact absurd (he ▸ hold₁) (hnew k₁)
    · exact hs.pending_single k₁ k₂ j hold₁ hold₂
  · intro k' i' j hj hi'
    rcases hpending k' j hj with ⟨-, rfl⟩ | ⟨-, hold⟩
    · exact h (hs.redeemed_issued i' j hi')
    · exact hs.pending_fresh k' i' j hold hi'

lemma Inv.redeem (hs : Inv s) {k : κ} {i j : ι} (hk : s.pending k = some j) :
    Inv (s.redeem k i j) := by
  have hpending : ∀ k' j', (s.redeem k i j).pending k' = some j' →
      k' ≠ k ∧ s.pending k' = some j' := by
    intro k' j' hj'
    by_cases hk' : k' = k
    · subst hk'
      simp [State.redeem] at hj'
    · exact ⟨hk', by simpa [State.redeem, hk'] using hj'⟩
  have hredeemed : ∀ i' j', (s.redeem k i j).redeemed i' = some j' →
      i' = i ∧ j' = j ∨ i' ≠ i ∧ s.redeemed i' = some j' := by
    intro i' j' hj'
    by_cases hi' : i' = i
    · subst hi'
      exact Or.inl ⟨rfl, by simpa [State.redeem] using hj'.symm⟩
    · exact Or.inr ⟨hi', by simpa [State.redeem, hi'] using hj'⟩
  refine ⟨?_, ?_, ?_, ?_, ?_⟩
  · exact fun k' j' hj' => hs.pending_issued k' j' (hpending k' j' hj').2
  · intro i' j' hj'
    rcases hredeemed i' j' hj' with ⟨-, rfl⟩ | ⟨-, hj'⟩
    · exact hs.pending_issued k j' hk
    · exact hs.redeemed_issued i' j' hj'
  · exact fun k₁ k₂ j' h₁ h₂ => hs.pending_single k₁ k₂ j' (hpending k₁ j' h₁).2
      (hpending k₂ j' h₂).2
  · intro k' i' j' hk' hi'
    obtain ⟨hne, hpend⟩ := hpending k' j' hk'
    rcases hredeemed i' j' hi' with ⟨-, rfl⟩ | ⟨-, hold⟩
    · exact hne (hs.pending_single k' k j' hpend hk)
    · exact hs.pending_fresh k' i' j' hpend hold
  · intro i₁ i₂ j' h₁ h₂
    rcases hredeemed i₁ j' h₁ with ⟨rfl, rfl⟩ | ⟨-, hold₁⟩ <;>
      rcases hredeemed i₂ _ h₂ with ⟨rfl, he⟩ | ⟨-, hold₂⟩
    · rfl
    · exact absurd hold₂ (hs.pending_fresh k i₂ j' hk)
    · exact absurd (he ▸ hold₁) (hs.pending_fresh k i₁ j hk)
    · exact hs.redeemed_single i₁ i₂ j' hold₁ hold₂

/-! ### Moves of others -/

variable {i j : ι}

lemma Move.issued (h : Move j s t) (hj : j ≠ i) : i ∈ t.issued ↔ i ∈ s.issued := by
  cases h with
  | issue k h => simp [State.issue, Ne.symm hj]
  | redeem k l hk hi => rfl

lemma Move.redeemed (h : Move j s t) (hj : j ≠ i) : t.redeemed i = s.redeemed i := by
  cases h with
  | issue k h => rfl
  | redeem k l hk hi => simp [State.redeem, Ne.symm hj]

end Caden.Tickets
