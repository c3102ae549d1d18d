import Mathlib.Data.Set.Card

/-!
Agreement between what one side of a protocol has accepted and what the other side has done.

Every accepted run is matched to an event of the other side. Where runs are told apart by a nonce
that an event can carry only one of, the agreement is injective: no event serves two runs, so
there are no more accepted runs than events.
-/

namespace Caden.Agreement

universe u v w

variable {ι : Type u} {ε : Type v} {ν : Type w}

/-- `f` matches every accepted run to an event. -/
structure Agrees (accepted : Set ι) (events : Set ε) (Matches : ι → ε → Prop) (f : ι → ε) :
    Prop where
  occurs : Set.MapsTo f accepted events
  matched : ∀ i ∈ accepted, Matches i (f i)

variable {accepted A : Set ι} {events : Set ε} {Matches : ι → ε → Prop} {f : ι → ε}

lemma exists_agrees [Nonempty ε] (h : ∀ i ∈ accepted, ∃ e ∈ events, Matches i e) :
    ∃ f, Agrees accepted events Matches f := by
  classical
  choose! f hf using h
  exact ⟨f, fun i hi => (hf i hi).1, fun i hi => (hf i hi).2⟩

lemma Agrees.injOn (h : Agrees accepted events Matches f) (hA : A ⊆ accepted) {nonce : ι → ν}
    (hcarries : ∀ i j e, Matches i e → Matches j e → nonce i = nonce j)
    (hfresh : Set.InjOn nonce A) : Set.InjOn f A := by
  intro i hi j hj he
  have hmi := h.matched i (hA hi)
  have hmj := h.matched j (hA hj)
  rw [← he] at hmj
  exact hfresh hi hj (hcarries i j _ hmi hmj)

lemma Agrees.encard_le (h : Agrees accepted events Matches f) (hA : A ⊆ accepted)
    (hinj : Set.InjOn f A) : A.encard ≤ events.encard :=
  Set.encard_le_encard_of_injOn (fun _ hi => h.occurs (hA hi)) hinj

end Caden.Agreement
