import Mathlib.Data.List.Forall2

/-!
Computations that return a value, return an error, or panic.

A panic is an outcome of its own: it is neither a value nor an error, and nothing after it
runs. The rules here say when a sequence of steps returns a value, which errors it can end in,
and when no step of it panics, from the same facts about its parts.
-/

namespace Caden

universe u v

/-- What running a function ends in. -/
inductive Outcome (ε : Type u) (α : Type v) where
  | ok (a : α)
  | err (e : ε)
  | panic
  deriving DecidableEq

namespace Outcome

variable {ε δ : Type u} {α β γ : Type v}

protected def bind : Outcome ε α → (α → Outcome ε β) → Outcome ε β
  | .ok a, f => f a
  | .err e, _ => .err e
  | .panic, _ => .panic

instance : Monad (Outcome ε) where
  pure := .ok
  bind := Outcome.bind

@[simp] lemma pure_eq (a : α) : (pure a : Outcome ε α) = .ok a := rfl
@[simp] lemma ok_bind (a : α) (f : α → Outcome ε β) : (Outcome.ok a >>= f) = f a := rfl
@[simp] lemma err_bind (e : ε) (f : α → Outcome ε β) : (Outcome.err e >>= f) = .err e := rfl
@[simp] lemma panic_bind (f : α → Outcome ε β) : (Outcome.panic >>= f) = .panic := rfl

instance : LawfulMonad (Outcome ε) := LawfulMonad.mk' (Outcome ε)
  (fun x => by cases x <;> rfl) (fun _ _ => rfl) (fun x _ _ => by cases x <;> rfl)

@[simp] lemma bind_eq_ok {x : Outcome ε α} {f : α → Outcome ε β} {b : β} :
    (x >>= f) = .ok b ↔ ∃ a, x = .ok a ∧ f a = .ok b := by
  cases x <;> simp

@[simp] lemma map_eq_ok {x : Outcome ε α} {f : α → β} {b : β} :
    f <$> x = .ok b ↔ ∃ a, x = .ok a ∧ f a = b := by
  cases x <;> simp [Functor.map, Outcome.bind]

lemma bind_eq_panic {x : Outcome ε α} {f : α → Outcome ε β} :
    (x >>= f) = .panic ↔ x = .panic ∨ ∃ a, x = .ok a ∧ f a = .panic := by
  cases x <;> simp

/-! ### The steps programs are made of -/

/-- `if c { return Err(e) }`. -/
def rejectIf (c : Prop) [Decidable c] (e : ε) : Outcome ε PUnit.{v + 1} :=
  if c then .err e else .ok ⟨⟩

/-- `o.ok_or(e)`. -/
def okOr (o : Option α) (e : ε) : Outcome ε α :=
  match o with
  | some a => .ok a
  | none => .err e

/-- `o.expect(..)`: an absent value is a panic. -/
def expect (o : Option α) : Outcome ε α :=
  match o with
  | some a => .ok a
  | none => .panic

/-- `assert!(c)`: a panic unless the condition holds. -/
def assert (c : Prop) [Decidable c] : Outcome ε PUnit.{v + 1} :=
  if c then .ok ⟨⟩ else .panic

/-- `x.map_err(f)` on a result that comes from outside. -/
def ofExcept (x : Except δ α) (f : δ → ε) : Outcome ε α :=
  match x with
  | .ok a => .ok a
  | .error d => .err (f d)

/-- `x.map_err(f)`. -/
def mapErr (f : ε → δ) : Outcome ε α → Outcome δ α
  | .ok a => .ok a
  | .err e => .err (f e)
  | .panic => .panic

/-- Whether a value was returned. -/
def isOk : Outcome ε α → Bool
  | .ok _ => true
  | _ => false

section
variable {c : Prop} [Decidable c] {e : ε} {o : Option α} {a : α} {x : Outcome ε α}

@[simp] lemma rejectIf_eq_ok {u : PUnit} : rejectIf c e = (.ok u : Outcome ε PUnit) ↔ ¬ c := by
  unfold rejectIf; split <;> simp_all

@[simp] lemma okOr_eq_ok : okOr o e = .ok a ↔ o = some a := by cases o <;> simp [okOr]

@[simp] lemma expect_eq_ok : (expect o : Outcome ε α) = .ok a ↔ o = some a := by
  cases o <;> simp [expect]

@[simp] lemma assert_eq_ok {u : PUnit} : assert c = (.ok u : Outcome ε PUnit) ↔ c := by
  unfold assert; split <;> simp_all

@[simp] lemma ofExcept_eq_ok {x : Except δ α} {f : δ → ε} :
    ofExcept x f = .ok a ↔ x = .ok a := by
  cases x <;> simp [ofExcept]

@[simp] lemma mapErr_eq_ok {f : ε → δ} : mapErr f x = .ok a ↔ x = .ok a := by
  cases x <;> simp [mapErr]

lemma isOk_iff : x.isOk = true ↔ ∃ a, x = .ok a := by cases x <;> simp [isOk]

end

/-! ### Safety: no panic -/

/-- The computation ends in a value or an error. -/
def Safe (x : Outcome ε α) : Prop := x ≠ .panic

@[simp] lemma safe_ok (a : α) : Safe (.ok a : Outcome ε α) := nofun
@[simp] lemma safe_err (e : ε) : Safe (.err e : Outcome ε α) := nofun
@[simp] lemma safe_pure (a : α) : Safe (pure a : Outcome ε α) := nofun
@[simp] lemma not_safe_panic : ¬ Safe (.panic : Outcome ε α) := fun h => h rfl

@[simp] lemma safe_bind {x : Outcome ε α} {f : α → Outcome ε β} :
    Safe (x >>= f) ↔ Safe x ∧ ∀ a, x = .ok a → Safe (f a) := by
  unfold Safe
  rw [Ne, bind_eq_panic]
  push Not
  rfl

lemma Safe.bind {x : Outcome ε α} {f : α → Outcome ε β} (hx : Safe x)
    (hf : ∀ a, x = .ok a → Safe (f a)) : Safe (x >>= f) :=
  safe_bind.mpr ⟨hx, hf⟩

@[simp] lemma safe_rejectIf (c : Prop) [Decidable c] (e : ε) :
    Safe (rejectIf c e : Outcome ε PUnit) := by
  unfold rejectIf; split <;> simp

@[simp] lemma safe_okOr (o : Option α) (e : ε) : Safe (okOr o e) := by cases o <;> simp [okOr]

@[simp] lemma safe_ofExcept (x : Except δ α) (f : δ → ε) : Safe (ofExcept x f) := by
  cases x <;> simp [ofExcept]

@[simp] lemma safe_expect {o : Option α} : Safe (expect o : Outcome ε α) ↔ o.isSome := by
  cases o <;> simp [expect]

@[simp] lemma safe_mapErr {f : ε → δ} {x : Outcome ε α} : Safe (mapErr f x) ↔ Safe x := by
  cases x <;> simp [mapErr]

@[simp] lemma safe_ite {c : Prop} [Decidable c] {x y : Outcome ε α} :
    Safe (if c then x else y) ↔ (c → Safe x) ∧ (¬ c → Safe y) := by
  split <;> simp_all

/-! ### Postconditions -/

/-- Whatever value the computation returns satisfies `P`. -/
def Returns (x : Outcome ε α) (P : α → Prop) : Prop := ∀ a, x = .ok a → P a

lemma Returns.bind {x : Outcome ε α} {f : α → Outcome ε β} {P : β → Prop}
    (hf : ∀ a, x = .ok a → (f a).Returns P) : (x >>= f).Returns P := by
  intro b hb
  obtain ⟨a, ha, hfa⟩ := bind_eq_ok.mp hb
  exact hf a ha b hfa

lemma Returns.pure {a : α} {P : α → Prop} (h : P a) : (Pure.pure a : Outcome ε α).Returns P := by
  rintro b ⟨⟩
  exact h

/-! ### Errors -/

/-- Whatever error the computation ends in satisfies `P`. -/
def Throws (x : Outcome ε α) (P : ε → Prop) : Prop := ∀ e, x = .err e → P e

section
variable {P : ε → Prop}

@[simp] lemma throws_ok (a : α) : Throws (.ok a : Outcome ε α) P := nofun
@[simp] lemma throws_pure (a : α) : Throws (pure a : Outcome ε α) P := nofun
@[simp] lemma throws_err {e : ε} : Throws (.err e : Outcome ε α) P ↔ P e := by simp [Throws]
@[simp] lemma throws_panic : Throws (.panic : Outcome ε α) P := nofun

@[simp] lemma throws_bind {x : Outcome ε α} {f : α → Outcome ε β} :
    Throws (x >>= f) P ↔ Throws x P ∧ ∀ a, x = .ok a → Throws (f a) P := by
  cases x <;> simp [Throws]

lemma Throws.bind {x : Outcome ε α} {f : α → Outcome ε β} (hx : Throws x P)
    (hf : ∀ a, x = .ok a → Throws (f a) P) : Throws (x >>= f) P :=
  throws_bind.mpr ⟨hx, hf⟩

@[simp] lemma throws_rejectIf {c : Prop} [Decidable c] {e : ε} :
    Throws (rejectIf c e : Outcome ε PUnit) P ↔ (c → P e) := by
  unfold rejectIf; split <;> simp_all

@[simp] lemma throws_okOr {o : Option α} {e : ε} : Throws (okOr o e) P ↔ (o = none → P e) := by
  cases o <;> simp [okOr]

@[simp] lemma throws_ofExcept {x : Except δ α} {f : δ → ε} :
    Throws (ofExcept x f) P ↔ ∀ d, x = .error d → P (f d) := by
  cases x <;> simp [ofExcept]

@[simp] lemma throws_expect (o : Option α) : Throws (expect o : Outcome ε α) P := by
  cases o <;> simp [expect]

@[simp] lemma throws_mapErr {f : δ → ε} {x : Outcome δ α} :
    Throws (mapErr f x) P ↔ Throws x fun d => P (f d) := by
  cases x <;> simp [mapErr]

@[simp] lemma throws_ite {c : Prop} [Decidable c] {x y : Outcome ε α} :
    Throws (if c then x else y) P ↔ (c → Throws x P) ∧ (¬ c → Throws y P) := by
  split <;> simp_all

end

/-! ### Loops -/

lemma forM_eq_ok {l : List γ} {f : γ → Outcome ε PUnit.{v + 1}} :
    forM l f = .ok ⟨⟩ ↔ ∀ x ∈ l, f x = .ok ⟨⟩ := by
  induction l with
  | nil => simp
  | cons x l ih =>
    simp only [List.forM_cons, bind_eq_ok, ih, List.mem_cons, forall_eq_or_imp]
    exact ⟨fun ⟨_, hx, hl⟩ => ⟨hx, hl⟩, fun ⟨hx, hl⟩ => ⟨_, hx, hl⟩⟩

lemma safe_forM {l : List γ} {f : γ → Outcome ε PUnit.{v + 1}} (h : ∀ x ∈ l, Safe (f x)) :
    Safe (forM l f) := by
  induction l with
  | nil => simp
  | cons x l ih =>
    rw [List.forM_cons]
    exact (h x (by simp)).bind fun _ _ => ih fun y hy => h y (by simp [hy])

lemma throws_forM {l : List γ} {f : γ → Outcome ε PUnit.{v + 1}} {P : ε → Prop}
    (h : ∀ x ∈ l, Throws (f x) P) : Throws (forM l f) P := by
  induction l with
  | nil => exact throws_ok _
  | cons x l ih =>
    rw [List.forM_cons]
    exact (h x (by simp)).bind fun _ _ => ih fun y hy => h y (by simp [hy])

lemma mapM_eq_ok {l : List γ} {f : γ → Outcome ε α} {r : List α} :
    l.mapM f = .ok r ↔ List.Forall₂ (fun x y => f x = .ok y) l r := by
  induction l generalizing r with
  | nil => cases r <;> simp
  | cons x l ih =>
    rw [List.mapM_cons]
    refine ⟨?_, ?_⟩
    · intro h
      obtain ⟨y, hy, ys, hys, hr⟩ : ∃ y, f x = .ok y ∧ ∃ ys, l.mapM f = .ok ys ∧
          .ok (y :: ys) = (.ok r : Outcome ε (List α)) := by simpa using h
      cases hr
      exact .cons hy (ih.mp hys)
    · rintro (_ | ⟨hy, hys⟩)
      simp [hy, ih.mpr hys]

lemma mapM_zipIdx_eq_ok {l : List γ} {f : γ × ℕ → Outcome ε α} {R : γ → α → Prop} {n : ℕ}
    {r : List α} (hf : ∀ x i y, f (x, i) = .ok y ↔ R x y) :
    (l.zipIdx n).mapM f = .ok r ↔ List.Forall₂ R l r := by
  rw [mapM_eq_ok]
  induction l generalizing n r with
  | nil => simp
  | cons x l ih =>
    rw [List.zipIdx_cons, List.forall₂_cons_left_iff, List.forall₂_cons_left_iff]
    simp only [ih]
    simp only [hf]

lemma safe_mapM {l : List γ} {f : γ → Outcome ε α} (h : ∀ x ∈ l, Safe (f x)) :
    Safe (l.mapM f) := by
  induction l with
  | nil => simp
  | cons x l ih =>
    rw [List.mapM_cons]
    refine (h x (by simp)).bind fun _ _ => ?_
    exact (ih fun y hy => h y (by simp [hy])).bind fun _ _ => safe_pure _

lemma throws_mapM {l : List γ} {f : γ → Outcome ε α} {P : ε → Prop}
    (h : ∀ x ∈ l, Throws (f x) P) : Throws (l.mapM f) P := by
  induction l with
  | nil => exact throws_ok _
  | cons x l ih =>
    rw [List.mapM_cons]
    refine (h x (by simp)).bind fun _ _ => ?_
    exact (ih fun y hy => h y (by simp [hy])).bind fun _ _ => throws_pure _

lemma safe_foldlM {σ : Type v} {l : List γ} {f : σ → γ → Outcome ε σ}
    (h : ∀ s, ∀ x ∈ l, Safe (f s x)) (s : σ) : Safe (l.foldlM f s) := by
  induction l generalizing s with
  | nil => simp
  | cons x l ih =>
    rw [List.foldlM_cons]
    exact (h s x (by simp)).bind fun t _ => ih (fun t y hy => h t y (by simp [hy])) t

lemma throws_foldlM {σ : Type v} {l : List γ} {f : σ → γ → Outcome ε σ} {P : ε → Prop}
    (h : ∀ s, ∀ x ∈ l, Throws (f s x) P) (s : σ) : Throws (l.foldlM f s) P := by
  induction l generalizing s with
  | nil => exact throws_ok _
  | cons x l ih =>
    rw [List.foldlM_cons]
    exact (h s x (by simp)).bind fun t _ => ih (fun t y hy => h t y (by simp [hy])) t

lemma foldlM_isOk {σ : Type v} {l : List γ} {f : σ → γ → Outcome ε σ}
    (h : ∀ s, ∀ x ∈ l, ∃ t, f s x = .ok t) (s : σ) : ∃ t, l.foldlM f s = .ok t := by
  induction l generalizing s with
  | nil => exact ⟨s, rfl⟩
  | cons x l ih =>
    obtain ⟨t, ht⟩ := h s x (by simp)
    obtain ⟨u, hu⟩ := ih (fun r y hy => h r y (by simp [hy])) t
    exact ⟨u, by rw [List.foldlM_cons, ht, ok_bind, hu]⟩

lemma foldlM_induction {σ : Type v} {l : List γ} {f : σ → γ → Outcome ε σ}
    (P : List γ → σ → Prop) {s t : σ} (h0 : P [] s)
    (hstep : ∀ p x a b, P p a → f a x = .ok b → P (p ++ [x]) b)
    (h : l.foldlM f s = .ok t) : P l t := by
  suffices ∀ p s, P p s → l.foldlM f s = .ok t → P (p ++ l) t by simpa using this [] s h0 h
  clear h0 h s
  induction l with
  | nil => intro p s hp h; simp at h; simpa [← h] using hp
  | cons x l ih =>
    intro p s hp h
    rw [List.foldlM_cons] at h
    obtain ⟨b, hb, h⟩ := bind_eq_ok.mp h
    simpa using ih (p ++ [x]) b (hstep p x s b hp hb) h

end Outcome

/-! ### Computations on a shared state -/

/-- A computation that reads and changes a state; what it changed stays changed whatever it
ends in. -/
def Stateful (σ : Type u) (ε : Type u) (α : Type u) : Type u := σ → Outcome ε α × σ

namespace Stateful

variable {σ ε α β : Type u}

def run (x : Stateful σ ε α) (s : σ) : Outcome ε α × σ := x s

protected def bind (x : Stateful σ ε α) (f : α → Stateful σ ε β) : Stateful σ ε β := fun s =>
  match x s with
  | (.ok a, t) => f a t
  | (.err e, t) => (.err e, t)
  | (.panic, t) => (.panic, t)

instance : Monad (Stateful σ ε) where
  pure a := fun s => (.ok a, s)
  bind := Stateful.bind

/-- A computation that does not touch the state. -/
def lift (x : Outcome ε α) : Stateful σ ε α := fun s => (x, s)

instance : MonadLift (Outcome ε) (Stateful σ ε) := ⟨lift⟩

variable {x : Outcome ε α} {f : α → Stateful σ ε β} {m : Stateful σ ε α} {s : σ} {b : β}

@[simp] lemma run_pure (a : α) : (pure a : Stateful σ ε α).run s = (.ok a, s) := rfl
@[simp] lemma run_liftM : (liftM x : Stateful σ ε α).run s = (x, s) := rfl

lemma run_bind : (m >>= f).run s =
    match m.run s with
    | (.ok a, t) => (f a).run t
    | (.err e, t) => (.err e, t)
    | (.panic, t) => (.panic, t) := rfl

@[simp] lemma liftM_ok_bind (a : α) :
    ((liftM (.ok a : Outcome ε α) : Stateful σ ε α) >>= f) = f a := rfl

lemma run_bind_of_run {a : α} {t : σ} (h : m.run s = (.ok a, t)) :
    (m >>= f).run s = (f a).run t := by
  rw [run_bind, h]

lemma run_bind_of_ok {a : α} (h : (m.run s).1 = .ok a) :
    (m >>= f).run s = (f a).run (m.run s).2 := by
  rw [run_bind]
  revert h
  rcases m.run s with ⟨_ | _ | _, t⟩ <;> simp +contextual

lemma run_bind_pure_snd {g : α → β} : ((m >>= fun a => pure (g a)).run s).2 = (m.run s).2 := by
  rw [run_bind]
  rcases m.run s with ⟨_ | _ | _, t⟩ <;> rfl

lemma run_bind_eq_ok : ((m >>= f).run s).1 = .ok b ↔
    ∃ a, (m.run s).1 = .ok a ∧ ((f a).run (m.run s).2).1 = .ok b := by
  rw [run_bind]
  rcases m.run s with ⟨_ | _ | _, t⟩ <;> simp

lemma throws_run_bind {P : ε → Prop} (hm : (m.run s).1.Throws P)
    (hf : ∀ a, (m.run s).1 = .ok a → ((f a).run (m.run s).2).1.Throws P) :
    ((m >>= f).run s).1.Throws P := by
  rw [run_bind]
  revert hm hf
  rcases m.run s with ⟨_ | _ | _, t⟩ <;> simp

lemma safe_run_bind (hm : (m.run s).1.Safe)
    (hf : ∀ a, (m.run s).1 = .ok a → ((f a).run (m.run s).2).1.Safe) :
    ((m >>= f).run s).1.Safe := by
  rw [run_bind]
  revert hm hf
  rcases m.run s with ⟨_ | _ | _, t⟩ <;> simp

end Stateful

end Caden
