import Mathlib.Data.List.Nodup
import Mathlib.Data.Set.Insert
import Caden.Lib.Registry

/-!
Systems whose agents commit one after another.

Each agent acts on the shared state in one atomic commit; its other steps touch the state of no
one else. In every run there is then an order of the agents that explains it: the shared state is
what the commits make of it in this order, and each agent tells what it answers in its place.
-/

namespace Caden.Serial

open Relation

universe u v w x

/-- What the commit of each agent makes of the shared state, and what it answers. -/
structure Agents (ι : Type u) (σ : Type v) (ω : Type w) where
  effect : ι → σ → σ
  answer : ι → σ → ω

/-- What is seen of a state: the shared part, who has committed, and what an agent tells. -/
structure View (S : Type x) (ι : Type u) (σ : Type v) (ω : Type w) where
  shared : S → σ
  done : S → Set ι
  tells : S → ι → ω → Prop

variable {ι : Type u} {σ : Type v} {ω : Type w} {S : Type x}

/-- The shared state after the commits of a list of agents, from the first to the last. -/
def Agents.after (a : Agents ι σ ω) (order : List ι) (init : σ) : σ :=
  order.foldl (fun x i => a.effect i x) init

@[simp] lemma Agents.after_nil (a : Agents ι σ ω) (init : σ) : a.after [] init = init := rfl

@[simp] lemma Agents.after_concat (a : Agents ι σ ω) (order : List ι) (i : ι) (init : σ) :
    a.after (order ++ [i]) init = a.effect i (a.after order init) := by
  simp [Agents.after]

/-- What a step can do: agents keep what they said, and at most one commits. -/
inductive Commits (a : Agents ι σ ω) (view : View S ι σ ω) (s t : S) : Prop
  | quiet (shared : view.shared t = view.shared s) (done : view.done t = view.done s)
      (tells : ∀ i ∈ view.done s, ∀ o, view.tells s i o → view.tells t i o)
  | commit (i : ι) (new : i ∉ view.done s) (shared : view.shared t = a.effect i (view.shared s))
      (done : view.done t = insert i (view.done s))
      (answer : view.tells t i (a.answer i (view.shared s)))
      (tells : ∀ j ∈ view.done s, ∀ o, view.tells s j o → view.tells t j o)

/-- The order of commits explains the state. -/
structure Explains (a : Agents ι σ ω) (view : View S ι σ ω) (init : σ) (order : List ι) (s : S) :
    Prop where
  nodup : order.Nodup
  mem : ∀ i, i ∈ order ↔ i ∈ view.done s
  shared : view.shared s = a.after order init
  tells : ∀ pre i post, order = pre ++ i :: post → view.tells s i (a.answer i (a.after pre init))

variable {a : Agents ι σ ω} {view : View S ι σ ω} {init : σ} {order : List ι} {s t : S}

lemma append_singleton_eq {i j : ι} {pre post : List ι} (h : order ++ [i] = pre ++ j :: post) :
    (∃ post', order = pre ++ j :: post') ∨ (order = pre ∧ i = j) := by
  rcases List.eq_nil_or_concat post with rfl | ⟨post', k, rfl⟩
  · exact .inr (by simpa using List.append_inj' h rfl)
  · have hconcat : order ++ [i] = (pre ++ j :: post') ++ [k] := by simpa using h
    exact .inl ⟨post', (List.append_inj' hconcat rfl).1⟩

/-- **A step extends the order by the agent that commits.** -/
lemma Explains.step (h : Explains a view init order s) (hstep : Commits a view s t) :
    ∃ order', Explains a view init order' t := by
  cases hstep with
  | quiet shared done tells =>
    refine ⟨order, h.nodup, fun i => by rw [done, h.mem], by rw [shared, h.shared], ?_⟩
    rintro pre i post rfl
    exact tells i ((h.mem i).mp (by simp)) _ (h.tells pre i post rfl)
  | commit i new shared done answer tells =>
    refine ⟨order ++ [i], ?_, fun j => ?_, ?_, ?_⟩
    · rw [← List.concat_eq_append]
      exact List.Nodup.concat (fun hi => new ((h.mem i).mp hi)) h.nodup
    · rw [done, Set.mem_insert_iff, ← h.mem, List.mem_append, List.mem_singleton, or_comm]
    · rw [shared, h.shared, Agents.after_concat]
    · intro pre j post heq
      rcases append_singleton_eq heq with ⟨post', rfl⟩ | ⟨rfl, rfl⟩
      · exact tells j ((h.mem j).mp (by simp)) _ (h.tells pre j post' rfl)
      · rw [← h.shared]
        exact answer

/-- **In every run there is an order of the agents that explains it**, where the steps from
states with the invariant `P` keep it and commit. -/
theorem explained {step : S → S → Prop} {P : S → Prop}
    (hstep : ∀ s t, P s → step s t → P t ∧ Commits a view s t) (h : ReflTransGen step s t)
    (hP : P s) (hs : view.done s = ∅) : ∃ order, Explains a view (view.shared s) order t := by
  refine (invariant_of_steps (P := fun t => P t ∧ ∃ order, Explains a view (view.shared s) order t)
    ?_ h ⟨hP, [], .nil, by simp [hs], rfl, by simp⟩).2
  rintro u v ⟨hu, order, hexplains⟩ huv
  obtain ⟨hv, hcommits⟩ := hstep u v hu huv
  exact ⟨hv, hexplains.step hcommits⟩

end Caden.Serial
