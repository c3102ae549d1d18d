import Caden.Lib.Outcome
import Caden.Lib.Registry

/-!
Tasks that run interleaved on one shared state.

A task is a sequence of sections. Each section reads and changes the shared state in one atomic
step, as code does that holds a lock; between two sections any other task can run. What a task
relies on is said over a history, which the tasks write together: each section extends the
history by one act of its task, and a task may use of the others only what their acts preserve.
-/

namespace Caden

open Relation

/-- A task that has ended, or that waits to run its next section. -/
inductive Task (σ ε α : Type) where
  | ended (o : Outcome ε α)
  | atomic (update : σ → σ) (next : σ → Task σ ε α)

namespace Task

variable {σ ε α β : Type}

/-- The second task starts with the value of the first; it does not start after an error. -/
protected def bind : Task σ ε α → (α → Task σ ε β) → Task σ ε β
  | ended (.ok a), f => f a
  | ended (.err e), _ => ended (.err e)
  | ended .panic, _ => ended .panic
  | atomic update next, f => atomic update fun s => (next s).bind f

instance : Monad (Task σ ε) where
  pure a := ended (.ok a)
  bind := Task.bind

/-- A computation that does not touch the shared state. -/
def lift (x : Outcome ε α) : Task σ ε α := ended x

instance : MonadLift (Outcome ε) (Task σ ε) := ⟨lift⟩

/-- One section, which returns a value and the new state. -/
def locked (f : σ → α × σ) : Task σ ε α := atomic (fun s => (f s).2) fun s => ended (.ok (f s).1)

/-- One section that can fail; what it changed stays changed. -/
def lockedRes (f : σ → Outcome ε α × σ) : Task σ ε α :=
  atomic (fun s => (f s).2) fun s => ended (f s).1

/-- The whole task, with nothing between its sections. -/
def run : Task σ ε α → σ → Outcome ε α × σ
  | ended o, s => (o, s)
  | atomic update next, s => (next s).run (update s)

@[simp] lemma pure_bind (a : α) (f : α → Task σ ε β) :
    ((pure a : Task σ ε α) >>= f) = f a := rfl

@[simp] lemma run_pure (a : α) (s : σ) : (pure a : Task σ ε α).run s = (.ok a, s) := rfl

@[simp] lemma run_liftM (x : Outcome ε α) (s : σ) : (liftM x : Task σ ε α).run s = (x, s) := rfl

@[simp] lemma run_locked (f : σ → α × σ) (s : σ) :
    (locked f : Task σ ε α).run s = (.ok (f s).1, (f s).2) := rfl

@[simp] lemma run_lockedRes (f : σ → Outcome ε α × σ) (s : σ) : (lockedRes f).run s = f s := rfl

lemma run_bind (x : Task σ ε α) (f : α → Task σ ε β) (s : σ) : (x >>= f).run s =
    match x.run s with
    | (.ok a, t) => (f a).run t
    | (.err e, t) => (.err e, t)
    | (.panic, t) => (.panic, t) := by
  induction x generalizing s with
  | ended o => rcases o with a | e | _ <;> rfl
  | atomic update next ih => exact ih s (update s)

end Task

/-! ### Pools -/

/-- Tasks and the state they share. -/
structure Pool (ι σ ε α : Type) where
  shared : σ
  task : ι → Task σ ε α

variable {ι σ ε α β τ : Type}

namespace Pool

/-- Task `i` has answered `a`. -/
def Answered (p : Pool ι σ ε α) (i : ι) (a : α) : Prop := p.task i = .ended (.ok a)

/-- What task `i` has answered, if it has. -/
def answer (p : Pool ι σ ε α) (i : ι) : Option α :=
  match p.task i with
  | .ended (.ok a) => some a
  | _ => none

lemma answer_eq_some {p : Pool ι σ ε α} {i : ι} {a : α} :
    p.answer i = some a ↔ p.Answered i a := by
  unfold answer Answered
  split <;> simp_all

variable [DecidableEq ι]

/-- The state becomes `s`, and task `i` goes on as `x`. -/
def put (p : Pool ι σ ε α) (s : σ) (i : ι) (x : Task σ ε α) : Pool ι σ ε α :=
  ⟨s, Function.update p.task i x⟩

@[simp] lemma put_shared (p : Pool ι σ ε α) (s : σ) (i : ι) (x : Task σ ε α) :
    (p.put s i x).shared = s := rfl

@[simp] lemma put_task (p : Pool ι σ ε α) (s : σ) (i j : ι) (x : Task σ ε α) :
    (p.put s i x).task j = if j = i then x else p.task j := by
  simp [put, Function.update_apply]

/-- Some task runs its next section. -/
inductive Step (p : Pool ι σ ε α) : Pool ι σ ε α → Prop
  | section (i : ι) (update : σ → σ) (next : σ → Task σ ε α)
      (h : p.task i = .atomic update next) :
      Step p (p.put (update p.shared) i (next p.shared))

/-- The pool after the next section of task `i`, if it has one. -/
def advance (p : Pool ι σ ε α) (i : ι) : Pool ι σ ε α :=
  match p.task i with
  | .ended _ => p
  | .atomic update next => p.put (update p.shared) i (next p.shared)

/-- Task `i` waits to run its next section. -/
def waits (p : Pool ι σ ε α) (i : ι) : Bool :=
  match p.task i with
  | .ended _ => false
  | .atomic _ _ => true

lemma step_advance {p : Pool ι σ ε α} {i : ι} (h : p.waits i = true) : p.Step (p.advance i) := by
  rcases hi : p.task i with o | ⟨update, next⟩
  · simp [waits, hi] at h
  · rw [advance, hi]
    exact .section i update next hi

lemma run_advance (l : List ι) (p : Pool ι σ ε α) : ReflTransGen Step p (l.foldl advance p) := by
  induction l generalizing p with
  | nil => exact .refl
  | cons i l ih =>
    refine ReflTransGen.trans ?_ (ih (p.advance i))
    rcases hi : p.task i with o | ⟨update, next⟩
    · rw [advance, hi]
    · exact .single (step_advance (by simp [waits, hi]))

end Pool

/-! ### Histories -/

section
variable (inv : τ → σ → Prop) (act : ι → τ → τ → Prop) (live : ι → τ → Prop)

/-- Acts of tasks other than `i`. -/
def Others (i : ι) : τ → τ → Prop := ReflTransGen fun t t' => ∃ j, j ≠ i ∧ act j t t'

/-- From the history `t` on, task `i` is `live` until it answers, each of its sections is one of
its acts and keeps the invariant, and its answer satisfies `Q`. -/
def Task.Keeps (i : ι) (Q : τ → α → Prop) : Task σ ε α → τ → Prop
  | ended (.ok a), t => Q t a
  | ended _, t => live i t
  | atomic update next, t => live i t ∧ ∀ t' s, Others act i t t' → inv t' s →
      ∃ t'', act i t' t'' ∧ inv t'' (update s) ∧ (next s).Keeps i Q t''

end

variable {inv : τ → σ → Prop} {act : ι → τ → τ → Prop} {live : ι → τ → Prop} {i : ι} {t : τ}
  {Q : τ → α → Prop}

namespace Task

lemma keeps_pure {a : α} (h : Q t a) : (pure a : Task σ ε α).Keeps inv act live i Q t := h

lemma keeps_lift {x : Outcome ε α} (h : live i t) (hQ : ∀ a, x = .ok a → Q t a) :
    (liftM x : Task σ ε α).Keeps inv act live i Q t := by
  rcases x with a | e | _
  · exact hQ a rfl
  · exact h
  · exact h

lemma keeps_bind {x : Task σ ε α} {f : α → Task σ ε β} {R : τ → β → Prop}
    (hx : x.Keeps inv act live i Q t) (hf : ∀ t a, Q t a → (f a).Keeps inv act live i R t) :
    (x >>= f).Keeps inv act live i R t := by
  induction x generalizing t with
  | ended o =>
    rcases o with a | e | _
    · exact hf t a hx
    · exact hx
    · exact hx
  | atomic update next ih =>
    obtain ⟨hlive, hnext⟩ := hx
    refine ⟨hlive, fun t' s hothers hinv => ?_⟩
    obtain ⟨t'', hact, hinv', hkeeps⟩ := hnext t' s hothers hinv
    exact ⟨t'', hact, hinv', ih s hkeeps⟩

lemma keeps_lift_bind {x : Outcome ε α} {f : α → Task σ ε β} {R : τ → β → Prop} (h : live i t)
    (hf : ∀ a, x = .ok a → (f a).Keeps inv act live i R t) :
    ((liftM x : Task σ ε α) >>= f).Keeps inv act live i R t := by
  refine keeps_bind (Q := fun t' a => t' = t ∧ x = .ok a) (keeps_lift h fun a ha => ⟨rfl, ha⟩) ?_
  rintro t' a ⟨rfl, ha⟩
  exact hf a ha

lemma keeps_locked {f : σ → α × σ} (h : live i t)
    (hf : ∀ t' s, Others act i t t' → inv t' s →
      ∃ t'', act i t' t'' ∧ inv t'' (f s).2 ∧ Q t'' (f s).1) :
    (locked f : Task σ ε α).Keeps inv act live i Q t := ⟨h, hf⟩

lemma keeps_lockedRes {f : σ → Outcome ε α × σ} (h : live i t)
    (hf : ∀ t' s, Others act i t t' → inv t' s →
      ∃ t'', act i t' t'' ∧ inv t'' (f s).2 ∧ live i t'' ∧ ∀ a, (f s).1 = .ok a → Q t'' a) :
    (lockedRes f).Keeps inv act live i Q t := by
  refine ⟨h, fun t' s hothers hinv => ?_⟩
  obtain ⟨t'', hact, hinv', hlive, hQ⟩ := hf t' s hothers hinv
  have hended : (ended (f s).1 : Task σ ε α).Keeps inv act live i Q t'' := by
    rcases ho : (f s).1 with a | e | _
    · exact hQ a ho
    · exact hlive
    · exact hlive
  exact ⟨t'', hact, hinv', hended⟩

end Task

/-! ### What a pool keeps -/

section
variable {Q : ι → τ → α → Prop} {p q : Pool ι σ ε α}

variable (inv act live Q) in
/-- The invariant holds of the history `t`, and every task keeps to its part. -/
structure Pool.Keeps (p : Pool ι σ ε α) (t : τ) : Prop where
  holds : inv t p.shared
  tasks : ∀ i, (p.task i).Keeps inv act live i (Q i) t

lemma Task.Keeps.others (hlive : ∀ i t t', Others act i t t' → live i t → live i t')
    (hQ : ∀ i t t' a, Others act i t t' → Q i t a → Q i t' a) {x : Task σ ε α} {t' : τ}
    (hx : x.Keeps inv act live i (Q i) t) (h : Others act i t t') :
    x.Keeps inv act live i (Q i) t' := by
  cases x with
  | ended o =>
    rcases o with a | e | _
    · exact hQ i t t' a h hx
    · exact hlive i t t' h hx
    · exact hlive i t t' h hx
  | atomic update next =>
    exact ⟨hlive i t t' h hx.1, fun t'' s hothers => hx.2 t'' s (h.trans hothers)⟩

lemma Pool.Keeps.answered (hp : p.Keeps inv act live Q t) (hi : ¬ live i t) :
    ∃ a, p.Answered i a ∧ Q i t a := by
  have htask := hp.tasks i
  rcases hx : p.task i with (a | e | _) | ⟨update, next⟩
  · rw [hx] at htask
    exact ⟨a, hx, htask⟩
  all_goals
    rw [hx] at htask
    first | exact absurd htask hi | exact absurd htask.1 hi

variable [DecidableEq ι]

/-- **A step of a pool is one act**, and every task still keeps to its part. -/
lemma Pool.Keeps.step (hlive : ∀ i t t', Others act i t t' → live i t → live i t')
    (hQ : ∀ i t t' a, Others act i t t' → Q i t a → Q i t' a)
    (hp : p.Keeps inv act live Q t) (h : p.Step q) :
    ∃ i t', act i t t' ∧ q.Keeps inv act live Q t' := by
  obtain ⟨i, update, next, hi⟩ := h
  have htask := hp.tasks i
  rw [hi] at htask
  obtain ⟨t', hact, hinv, hnext⟩ := htask.2 t p.shared .refl hp.holds
  refine ⟨i, t', hact, hinv, fun j => ?_⟩
  by_cases hj : j = i
  · subst hj
    simpa using hnext
  · rw [Pool.put_task, if_neg hj]
    exact (hp.tasks j).others hlive hQ (.single ⟨i, Ne.symm hj, hact⟩)

/-- **In every run of a pool the tasks write a history of their acts**, and keep to their
parts. -/
lemma Pool.Keeps.run (hlive : ∀ i t t', Others act i t t' → live i t → live i t')
    (hQ : ∀ i t t' a, Others act i t t' → Q i t a → Q i t' a)
    (hp : p.Keeps inv act live Q t) (h : ReflTransGen Pool.Step p q) :
    ∃ t', ReflTransGen (fun t t' => ∃ i, act i t t') t t' ∧ q.Keeps inv act live Q t' := by
  refine invariant_of_steps (P := fun q => ∃ t', ReflTransGen (fun t t' => ∃ i, act i t t') t t' ∧
    q.Keeps inv act live Q t') ?_ h ⟨t, .refl, hp⟩
  rintro q r ⟨t', hrun, hq⟩ hstep
  obtain ⟨i, t'', hact, hr⟩ := hq.step hlive hQ hstep
  exact ⟨t'', hrun.tail ⟨i, hact⟩, hr⟩

end

end Caden
