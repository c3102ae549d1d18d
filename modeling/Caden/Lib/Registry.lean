import Mathlib.Data.Set.Insert
import Mathlib.Logic.Relation

/-!
Invariants of transition systems, and a system in which agents enter a register.

Each agent has a key. An agent is admitted in one atomic step, which finds its key absent
from the register and adds it. Whatever the order of the steps, no two agents with one key
are admitted.
-/

namespace Caden

open Relation

/-! ### Invariants -/

universe u v

lemma invariant_of_steps {σ : Type u} {step : σ → σ → Prop} {P : σ → Prop}
    (hstep : ∀ s t, P s → step s t → P t) {s t : σ} (h : ReflTransGen step s t) (hs : P s) :
    P t := by
  induction h with
  | refl => exact hs
  | tail _ hlast ih => exact hstep _ _ ih hlast

namespace Registry

variable {ι : Type u} {κ : Type v}

/-- The keys in the register, and the agents that were admitted. -/
@[ext]
structure State (ι : Type u) (κ : Type v) where
  used : Set κ
  past : Set ι

variable (key : ι → κ)

/-- An agent whose key is absent is admitted, and its key is added. -/
inductive Step (s : State ι κ) : State ι κ → Prop
  | enter (i : ι) (h : key i ∉ s.used) : Step s ⟨insert (key i) s.used, insert i s.past⟩

/-- The keys of the admitted agents are in the register, each for one agent. -/
structure Inv (s : State ι κ) : Prop where
  entered : ∀ i ∈ s.past, key i ∈ s.used
  single : ∀ i ∈ s.past, ∀ j ∈ s.past, key i = key j → i = j

variable {key} {s t : State ι κ}

lemma Inv.step (hs : Inv key s) (h : Step key s t) : Inv key t := by
  obtain ⟨k, hk⟩ := h
  refine ⟨?_, ?_⟩
  · rintro i (rfl | hi)
    · exact Set.mem_insert _ _
    · exact Set.mem_insert_of_mem _ (hs.entered i hi)
  · -- a key that is admitted now is not the key of an agent admitted before
    have hfresh : ∀ i ∈ s.past, key i ≠ key k := fun i hi he => hk (he ▸ hs.entered i hi)
    rintro i (rfl | hi) j (rfl | hj) he
    · rfl
    · exact absurd he.symm (hfresh j hj)
    · exact absurd he (hfresh i hi)
    · exact hs.single i hi j hj he

lemma single_of_run {used : Set κ} (h : ReflTransGen (Step key) ⟨used, ∅⟩ t) {i j : ι}
    (hi : i ∈ t.past) (hj : j ∈ t.past) (he : key i = key j) : i = j := by
  have hinit : Inv key (⟨used, ∅⟩ : State ι κ) :=
    ⟨fun _ h => absurd h (Set.notMem_empty _), fun _ h => absurd h (Set.notMem_empty _)⟩
  exact (invariant_of_steps (fun _ _ => Inv.step) h hinit).single i hi j hj he

end Registry

end Caden
