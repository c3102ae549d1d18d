import Mathlib.Order.BoundedOrder.Basic
import Mathlib.Order.Lattice
import Caden.Lib.Registry

/-!
A stored counter that only moves ahead, except that a counter which is not in use may stay at
its least value.

A new value is admitted when it is ahead of the stored one, or when both are the least. It
then becomes the stored value.
-/

namespace Caden.Counter

open Relation

variable {α : Type} [LinearOrder α] [OrderBot α] {stored received : α}

def Admits (stored received : α) : Prop := (stored = ⊥ ∧ received = ⊥) ∨ stored < received

lemma Admits.le (h : Admits stored received) : stored ≤ received := by
  rcases h with ⟨rfl, rfl⟩ | h
  · exact le_rfl
  · exact h.le

lemma Admits.lt (h : Admits stored received) (hr : received ≠ ⊥) : stored < received := by
  rcases h with ⟨-, rfl⟩ | h
  · exact absurd rfl hr
  · exact h

/-- In a run each value is admitted by the one before it. -/
abbrev Run : α → α → Prop := ReflTransGen Admits

lemma Run.le {s t : α} (h : Run s t) : s ≤ t :=
  invariant_of_steps (P := fun t => s ≤ t) (fun _ _ hs h => hs.trans h.le) h le_rfl

lemma Run.ne_bot {s t : α} (h : Run s t) (hs : s ≠ ⊥) : t ≠ ⊥ := by
  have hpos : ⊥ < s := bot_lt_iff_ne_bot.mpr hs
  exact bot_lt_iff_ne_bot.mp (hpos.trans_le h.le)

lemma Run.not_admits {s t : α} (h : Run s t) (hs : s ≠ ⊥) : ¬ Admits t s := fun ha =>
  (ha.lt hs).not_ge h.le

end Caden.Counter
