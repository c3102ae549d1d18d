import Caden.Lib.Outcome

/-!
Two computations side by side: whatever value the first returns, the second returns a related
one.

The rules follow the two computations step by step. Steps that are the same on both sides need
no argument, and a check may be dropped or weakened on the second side.
-/

namespace Caden.Outcome

universe u v

variable {ε : Type u} {α α' β β' : Type v}

/-- Each value of `x` is matched by a related value of `y`. -/
def Matched (R : α → α' → Prop) (x : Outcome ε α) (y : Outcome ε α') : Prop :=
  ∀ a, x = .ok a → ∃ a', y = .ok a' ∧ R a a'

variable {R : α → α' → Prop} {S : β → β' → Prop} {x : Outcome ε α} {y : Outcome ε α'}

lemma Matched.pure {a : α} {a' : α'} (h : R a a') :
    Matched R (Pure.pure a : Outcome ε α) (Pure.pure a') := by
  rintro b ⟨⟩
  exact ⟨a', rfl, h⟩

lemma Matched.refl {R : α → α → Prop} (hR : ∀ a, R a a) (x : Outcome ε α) : Matched R x x :=
  fun a ha => ⟨a, ha, hR a⟩

lemma Matched.of_imp {x y : Outcome ε α} (h : ∀ a, x = .ok a → y = .ok a) :
    Matched Eq x y := fun a ha => ⟨a, h a ha, rfl⟩

lemma Matched.bind {f : α → Outcome ε β} {g : α' → Outcome ε β'} (hx : Matched R x y)
    (hf : ∀ a a', x = .ok a → R a a' → Matched S (f a) (g a')) :
    Matched S (x >>= f) (y >>= g) := by
  intro b hb
  obtain ⟨a, ha, hfa⟩ := bind_eq_ok.mp hb
  obtain ⟨a', ha', hR⟩ := hx a ha
  obtain ⟨b', hb', hS⟩ := hf a a' ha hR b hfa
  exact ⟨b', bind_eq_ok.mpr ⟨a', ha', hb'⟩, hS⟩

lemma Matched.bind_same {f : α → Outcome ε β} {g : α → Outcome ε β'}
    (hf : ∀ a, x = .ok a → Matched S (f a) (g a)) : Matched S (x >>= f) (x >>= g) := by
  refine Matched.bind (Matched.refl (fun _ => rfl) x) fun a a' ha h => ?_
  subst h
  exact hf a ha

lemma ok_or_err {x y : Outcome ε α} (h : Matched Eq x y) (h' : Matched Eq y x) (hx : x.Safe)
    (hy : y.Safe) : (∃ a, x = .ok a ∧ y = .ok a) ∨ ∃ e e', x = .err e ∧ y = .err e' := by
  rcases x with a | e | _
  · obtain ⟨a', ha', rfl⟩ := h a rfl
    exact Or.inl ⟨a, rfl, ha'⟩
  · rcases y with a' | e' | _
    · obtain ⟨a, ha, -⟩ := h' a' rfl
      cases ha
    · exact Or.inr ⟨e, e', rfl, rfl⟩
    · exact absurd rfl hy
  · exact absurd rfl hx

end Caden.Outcome
