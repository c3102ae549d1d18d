import Caden.SignCount

/-!
Concurrent logins to one credential.

Each login follows the documented protocol: it reads a snapshot of the stored credential,
verifies its assertion against the snapshot, and on success writes the new count back. The
three are separate steps, so logins can interleave between them.
-/

namespace Caden.Concurrent

open Relation SignCount

/-! ### The system -/

/-- Where a login is. -/
inductive Phase where
  | idle
  | read (snapshot : Credential)
  | accepted (r : AuthenticationResult)
  | rejected
  | written (r : AuthenticationResult)

/-- The result of a login that was accepted, whether or not its count is written yet. -/
def Phase.result : Phase → Option AuthenticationResult
  | accepted r | written r => some r
  | _ => none

lemma Phase.result_eq_some {ph : Phase} {r : AuthenticationResult} :
    ph.result = some r ↔ ph = .accepted r ∨ ph = .written r := by
  cases ph <;> simp [result]

inductive Action (ι : Type) where
  | read (i : ι)
  | verify (i : ι)
  | write (i : ι)

/-- What is stored, the used challenges, and the logins. -/
structure State (ι : Type) where
  stored : Credential
  heap : Heap
  phase : ι → Phase

variable {ι : Type} [DecidableEq ι]

def start (stored : Credential) (heap : Heap) : State ι := ⟨stored, heap, fun _ => .idle⟩

/-- Login `i` comes to the phase `ph`. -/
def State.moveTo (s : State ι) (i : ι) (ph : Phase) : State ι :=
  { s with phase := Function.update s.phase i ph }

@[simp] lemma moveTo_phase (s : State ι) (i j : ι) (ph : Phase) :
    (s.moveTo i ph).phase j = if j = i then ph else s.phase j := by
  simp [State.moveTo, Function.update_apply]

/-- The phase after a verification. -/
def verified : Res AuthenticationResult → Phase
  | .ok r => .accepted r
  | _ => .rejected

/-- The state after an action; a login cannot act out of its turn. -/
def step (E : Env) (logins : ι → Login) (s : State ι) : Action ι → Option (State ι)
  | .read i =>
    match s.phase i with
    | .idle => some (s.moveTo i (.read s.stored))
    | _ => none
  | .verify i =>
    match s.phase i with
    | .read snapshot =>
      let out := ((logins i).verify E snapshot).run s.heap
      some (State.moveTo { s with heap := out.2 } i (verified out.1))
    | _ => none
  | .write i =>
    match s.phase i with
    | .accepted r => some (State.moveTo { s with stored := withCount s.stored r } i (.written r))
    | _ => none

/-- The stored counter of a state. -/
def State.count (s : State ι) : ℕ := s.stored.signCount.toNat

/-- No two accepted logins have the same counter, unless it is zero. -/
def State.Distinct (s : State ι) : Prop :=
  ∀ i j r r', i ≠ j → (s.phase i).result = some r → (s.phase j).result = some r' →
    r.newSignCount ≠ 0 → r.newSignCount ≠ r'.newSignCount

/-- A step of some login. -/
def Step (E : Env) (logins : ι → Login) (s t : State ι) : Prop :=
  ∃ a, step E logins s a = some t

/-! ### Fresh steps -/

/-- The assertion of the login carries no counter. -/
def Uncounted (E : Env) (l : Login) : Prop :=
  ∀ ad, AuthData.parseAuthenticatorData E l.response.authenticatorData = .ok ad →
    ad.signCount = 0

/-- A verification is fresh when its snapshot has the stored count, and no accepted login is
still to write its own, unless neither of the two assertions carries a counter. -/
def Fresh (E : Env) (logins : ι → Login) (s : State ι) : Action ι → Prop
  | .verify i => (∀ snapshot, s.phase i = .read snapshot →
      snapshot.signCount = s.stored.signCount) ∧
      ∀ j r, s.phase j = .accepted r → Uncounted E (logins j) ∧ Uncounted E (logins i)
  | _ => True

def FreshStep (E : Env) (logins : ι → Login) (s t : State ι) : Prop :=
  ∃ a, Fresh E logins s a ∧ step E logins s a = some t

/-- What fresh steps preserve: an accepted login has the count of its assertion, which the
stored count admits; two of them that are both still to write have no counter; and no count
that was written is ahead of the stored one. -/
structure Inv (E : Env) (logins : ι → Login) (s : State ι) : Prop where
  carried : ∀ i r, s.phase i = .accepted r →
    ∃ ad, AuthData.parseAuthenticatorData E (logins i).response.authenticatorData = .ok ad ∧
      r.newSignCount = ad.signCount
  admitted : ∀ i r, s.phase i = .accepted r → Counter.Admits s.count r.newSignCount.toNat
  overlap : ∀ i j r r', i ≠ j → s.phase i = .accepted r → s.phase j = .accepted r' →
    r.newSignCount = 0
  below : ∀ i r, s.phase i = .written r → r.newSignCount.toNat ≤ s.count
  distinct : s.Distinct

variable {E : Env} {logins : ι → Login} {s t : State ι}

/-- **What an action can do.** -/
lemma step_cases {a : Action ι} (h : step E logins s a = some t) :
    (∃ i, a = .read i ∧ s.phase i = .idle ∧ t = s.moveTo i (.read s.stored)) ∨
    (∃ i snapshot, a = .verify i ∧ s.phase i = .read snapshot ∧
      t = State.moveTo { s with heap := (((logins i).verify E snapshot).run s.heap).2 } i
        (verified (((logins i).verify E snapshot).run s.heap).1)) ∨
    ∃ i r, a = .write i ∧ s.phase i = .accepted r ∧
      t = State.moveTo { s with stored := withCount s.stored r } i (.written r) := by
  cases a with
  | read i =>
    simp only [step] at h
    split at h
    · exact Or.inl ⟨i, rfl, ‹_›, (Option.some.inj h).symm⟩
    · cases h
  | verify i =>
    simp only [step] at h
    split at h
    · exact Or.inr (Or.inl ⟨i, _, rfl, ‹_›, (Option.some.inj h).symm⟩)
    · cases h
  | write i =>
    simp only [step] at h
    split at h
    · exact Or.inr (Or.inr ⟨i, _, rfl, ‹_›, (Option.some.inj h).symm⟩)
    · cases h

omit [DecidableEq ι] in
lemma inv_start (stored : Credential) (heap : Heap) : Inv E logins (start stored heap) where
  carried _ _ h := by cases h
  admitted _ _ h := by cases h
  overlap _ _ _ _ _ h := by cases h
  below _ _ h := by cases h
  distinct _ _ _ _ _ h := by cases h

omit [DecidableEq ι] in
lemma Inv.mono (hs : Inv E logins s) (hcount : t.count = s.count)
    (hacc : ∀ i r, t.phase i = .accepted r → s.phase i = .accepted r)
    (hwritten : ∀ i r, t.phase i = .written r → s.phase i = .written r) : Inv E logins t where
  carried i r hi := hs.carried i r (hacc i r hi)
  admitted i r hi := hcount ▸ hs.admitted i r (hacc i r hi)
  overlap i j r r' hij hi hj := hs.overlap i j r r' hij (hacc i r hi) (hacc j r' hj)
  below i r hi := hcount ▸ hs.below i r (hwritten i r hi)
  distinct i j r r' hij hi hj := by
    have hresult : ∀ k q, (t.phase k).result = some q → (s.phase k).result = some q := by
      intro k q hk
      rcases Phase.result_eq_some.mp hk with hk | hk
      · exact Phase.result_eq_some.mpr (Or.inl (hacc k q hk))
      · exact Phase.result_eq_some.mpr (Or.inr (hwritten k q hk))
    exact hs.distinct i j r r' hij (hresult i r hi) (hresult j r' hj)

lemma Inv.moveTo (hs : Inv E logins s) (heap : Heap) (i : ι) {ph : Phase}
    (hph : ph.result = none) : Inv E logins (State.moveTo { s with heap := heap } i ph) := by
  have hne : ∀ r, ph ≠ .accepted r ∧ ph ≠ .written r := fun r => by
    constructor <;> rintro rfl <;> simp [Phase.result] at hph
  refine hs.mono rfl (fun j r hj => ?_) fun j r hj => ?_
  all_goals
    rw [moveTo_phase] at hj
    split at hj
    · simp [hne r] at hj
    · exact hj

omit [DecidableEq ι] in
lemma Inv.ne_of_admits (hs : Inv E logins s) {r : AuthenticationResult}
    (hadm : Counter.Admits s.count r.newSignCount.toNat) (h0 : r.newSignCount ≠ 0)
    (hnone : ∀ j q, s.phase j ≠ .accepted q) {j : ι} {q : AuthenticationResult}
    (hj : (s.phase j).result = some q) : r.newSignCount ≠ q.newSignCount := by
  have hq : q.newSignCount.toNat ≤ s.count := by
    rcases Phase.result_eq_some.mp hj with hj | hj
    · exact absurd hj (hnone j q)
    · exact hs.below j q hj
  have hlt := hadm.lt fun h => h0 (UInt32.toNat_inj.mp h)
  intro h
  rw [h] at hlt
  exact absurd hlt hq.not_gt

lemma Inv.accept (hs : Inv E logins s) (heap : Heap) {i : ι} {r : AuthenticationResult}
    (hcarried : ∃ ad, AuthData.parseAuthenticatorData E
      (logins i).response.authenticatorData = .ok ad ∧ r.newSignCount = ad.signCount)
    (hadm : Counter.Admits s.count r.newSignCount.toNat)
    (hpending : ∀ j q, s.phase j = .accepted q → q.newSignCount = 0 ∧ r.newSignCount = 0) :
    Inv E logins (State.moveTo { s with heap := heap } i (.accepted r)) where
  carried j q hj := by
    rw [moveTo_phase] at hj
    split at hj
    · obtain rfl := Phase.accepted.inj hj
      subst j
      exact hcarried
    · exact hs.carried j q hj
  admitted j q hj := by
    rw [moveTo_phase] at hj
    split at hj
    · obtain rfl := Phase.accepted.inj hj
      exact hadm
    · exact hs.admitted j q hj
  overlap j k q q' hjk hj hk := by
    rw [moveTo_phase] at hj hk
    split at hj
    · obtain rfl := Phase.accepted.inj hj
      subst j
      rw [if_neg (Ne.symm hjk)] at hk
      exact (hpending k q' hk).2
    · exact (hpending j q hj).1
  below j q hj := by
    rw [moveTo_phase] at hj
    split at hj
    · cases hj
    · exact hs.below j q hj
  distinct j k q q' hjk hj hk h0 := by
    -- with a counter in the new assertion there is no login that is still to write
    have hne : r.newSignCount ≠ 0 → ∀ l p, (s.phase l).result = some p →
        r.newSignCount ≠ p.newSignCount := fun hr l p hl =>
      hs.ne_of_admits hadm hr (fun l p hl => hr (hpending l p hl).2) hl
    rw [moveTo_phase] at hj hk
    split at hj
    · obtain rfl := Option.some.inj hj
      subst j
      rw [if_neg (Ne.symm hjk)] at hk
      exact hne h0 k q' hk
    · split at hk
      · obtain rfl := Option.some.inj hk
        intro h
        exact hne (h ▸ h0) j q hj h.symm
      · exact hs.distinct j k q q' hjk hj hk h0

lemma Inv.write (hs : Inv E logins s) {i : ι} {r : AuthenticationResult}
    (hi : s.phase i = .accepted r) :
    Inv E logins (State.moveTo { s with stored := withCount s.stored r } i (.written r)) where
  carried j q hj := by
    rw [moveTo_phase] at hj
    split at hj
    · cases hj
    · exact hs.carried j q hj
  admitted j q hj := by
    rw [moveTo_phase] at hj
    split at hj
    · cases hj
    · rename_i hji
      have hr : r.newSignCount = 0 := hs.overlap i j r q (Ne.symm hji) hi hj
      have hq : q.newSignCount = 0 := hs.overlap j i q r hji hj hi
      exact Or.inl ⟨congrArg UInt32.toNat hr, congrArg UInt32.toNat hq⟩
  overlap j k q q' hjk hj hk := by
    rw [moveTo_phase] at hj hk
    split at hj
    · cases hj
    · split at hk
      · cases hk
      · exact hs.overlap j k q q' hjk hj hk
  below j q hj := by
    rw [moveTo_phase] at hj
    split at hj
    · obtain rfl := Phase.written.inj hj
      exact le_rfl
    · exact (hs.below j q hj).trans (hs.admitted i r hi).le
  distinct j k q q' hjk hj hk := by
    -- the login keeps its result
    have hresult : ∀ l, (if l = i then Phase.written r else s.phase l).result =
        (s.phase l).result := by
      intro l
      split
      · subst l
        rw [hi]
        rfl
      · rfl
    rw [moveTo_phase, hresult] at hj hk
    exact hs.distinct j k q q' hjk hj hk

/-- **A fresh step keeps the invariant.** -/
lemma inv_step (hs : Inv E logins s) (h : FreshStep E logins s t) : Inv E logins t := by
  obtain ⟨a, hfresh, h⟩ := h
  obtain ⟨i, -, -, rfl⟩ | ⟨i, snapshot, rfl, hi, rfl⟩ | ⟨i, r, -, hi, rfl⟩ := step_cases h
  · exact hs.moveTo s.heap i rfl
  · rcases hr : (((logins i).verify E snapshot).run s.heap).1 with r | e | _
    · obtain ⟨⟨ad, had, hcount⟩, hadm⟩ := admits_of_ok hr
      rw [hfresh.1 snapshot hi] at hadm
      refine hs.accept _ ⟨ad, had, hcount⟩ hadm fun j q hj => ?_
      obtain ⟨hj0, hi0⟩ := hfresh.2 j q hj
      obtain ⟨adj, hadj, hcountj⟩ := hs.carried j q hj
      exact ⟨hcountj.trans (hj0 adj hadj), hcount.trans (hi0 ad had)⟩
    · exact hs.moveTo _ i rfl
    · exact hs.moveTo _ i rfl
  · exact hs.write hi

lemma count_le_of_step (hs : Inv E logins s) (h : FreshStep E logins s t) :
    s.count ≤ t.count := by
  obtain ⟨a, -, h⟩ := h
  obtain ⟨i, -, -, rfl⟩ | ⟨i, snapshot, -, -, rfl⟩ | ⟨i, r, -, hi, rfl⟩ := step_cases h
  · exact le_rfl
  · exact le_rfl
  · exact (hs.admitted i r hi).le

lemma inv_run (hs : Inv E logins s) (h : ReflTransGen (FreshStep E logins) s t) :
    Inv E logins t ∧ s.count ≤ t.count := by
  refine invariant_of_steps (P := fun t => Inv E logins t ∧ s.count ≤ t.count) ?_ h
    ⟨hs, le_rfl⟩
  intro u v hu huv
  exact ⟨inv_step hu.1 huv, hu.2.trans (count_le_of_step hu.1 huv)⟩

/-! ### Logins one after another -/

/-- No login is still to write. -/
def Settled (s : State ι) : Prop := ∀ j r, s.phase j ≠ .accepted r

lemma Settled.moveTo (hs : Settled s) (stored : Credential) (heap : Heap) (i : ι) {ph : Phase}
    (hph : ∀ r, ph ≠ .accepted r) : Settled (State.moveTo ⟨stored, heap, s.phase⟩ i ph) := by
  intro j r
  rw [moveTo_phase]
  split
  · exact hph r
  · exact hs j r

variable (E logins) in
/-- **A login that nothing interrupts is a run of fresh steps**, with the effect of the login as
a single step. -/
lemma uninterrupted (hs : Settled s) (i : ι) (hi : s.phase i = .idle) :
    ∃ t, ReflTransGen (FreshStep E logins) s t ∧
      (⟨t.stored, t.heap⟩ : SignCount.State) = (logins i).step E ⟨s.stored, s.heap⟩ ∧
      Settled t ∧ ∀ j, j ≠ i → t.phase j = s.phase j := by
  set s₁ := s.moveTo i (.read s.stored) with hs₁
  have hsettled : Settled s₁ := hs.moveTo s.stored s.heap i fun r h => by cases h
  have hread : FreshStep E logins s s₁ := ⟨.read i, trivial, by simp [step, hi, hs₁]⟩
  have hphase : s₁.phase i = .read s.stored := by simp [hs₁]
  have hother : ∀ j, j ≠ i → s₁.phase j = s.phase j := fun j hj => by simp [hs₁, hj]
  set out := ((logins i).verify E s.stored).run s.heap with hout
  set s₂ := State.moveTo { s₁ with heap := out.2 } i (verified out.1) with hs₂
  have hverify : FreshStep E logins s₁ s₂ := by
    refine ⟨.verify i, ⟨fun snapshot h => ?_, fun j r h => absurd h (hsettled j r)⟩, ?_⟩
    · rw [hphase] at h
      rw [← Phase.read.inj h]
      rfl
    · simp only [step, hphase]
      rfl
  have hrun := (ReflTransGen.single hread).tail hverify
  have hresult : (logins i).result E ⟨s.stored, s.heap⟩ = out.1 := rfl
  rcases hr : out.1 with r | e | _
  · -- accepted: the count is written
    have haccepted : s₂.phase i = .accepted r := by simp [hs₂, hr, verified]
    refine ⟨State.moveTo { s₂ with stored := withCount s₂.stored r } i (.written r),
      hrun.tail ⟨.write i, trivial, by simp [step, haccepted]⟩, ?_, ?_, fun j hj => ?_⟩
    · simp only [Login.step, hresult, hr]
      rfl
    · intro j q
      rw [moveTo_phase]
      split
      · exact fun h => by cases h
      · rename_i hj
        simpa [hs₂, hj] using hsettled j q
    · simpa [hs₂, hj] using hother j hj
  all_goals
    refine ⟨s₂, hrun, ?_, ?_, fun j hj => ?_⟩
    · simp only [Login.step, hresult, hr]
      rfl
    · exact hsettled.moveTo s₁.stored out.2 i (by simp [hr, verified])
    · simpa [hs₂, hj] using hother j hj

/-- **Logins that run one after another are a run of fresh steps**, which ends as the sequence
of logins does. -/
theorem sequential_is_fresh (l : List ι) (hl : l.Nodup) (stored : Credential) (heap : Heap) :
    ∃ t, ReflTransGen (FreshStep E logins) (start stored heap) t ∧
      (⟨t.stored, t.heap⟩ : SignCount.State) = afterAll E (l.map logins) ⟨stored, heap⟩ := by
  have hrun : ∀ (l : List ι) (s : State ι), l.Nodup → Settled s → (∀ i ∈ l, s.phase i = .idle) →
      ∃ t, ReflTransGen (FreshStep E logins) s t ∧
        (⟨t.stored, t.heap⟩ : SignCount.State) = afterAll E (l.map logins) ⟨s.stored, s.heap⟩ := by
    intro l
    induction l with
    | nil => exact fun s _ _ _ => ⟨s, .refl, rfl⟩
    | cons i l ih =>
      intro s hl hs hidle
      obtain ⟨hi, hl⟩ := List.nodup_cons.mp hl
      obtain ⟨t, hst, heq, ht, hother⟩ :=
        uninterrupted E logins hs i (hidle i List.mem_cons_self)
      obtain ⟨u, htu, hu⟩ := ih t hl ht fun j hj => by
        rw [hother j fun h => hi (h ▸ hj)]
        exact hidle j (List.mem_cons_of_mem i hj)
      refine ⟨u, hst.trans htu, ?_⟩
      rw [hu, heq]
      rfl
  exact hrun l (start stored heap) hl nofun fun _ _ => rfl

/-- **No update is lost in a run of fresh steps.** In every state of the run the accepted logins
have distinct counters, and the stored count does not decrease on the way to any later state. -/
theorem fresh_logins_keep_counter {stored : Credential} {heap : Heap}
    (hs : ReflTransGen (FreshStep E logins) (start stored heap) s)
    (ht : ReflTransGen (FreshStep E logins) s t) :
    s.Distinct ∧ s.stored.signCount ≤ t.stored.signCount := by
  obtain ⟨hinv, -⟩ := inv_run (inv_start stored heap) hs
  exact ⟨hinv.distinct, UInt32.le_iff_toNat_le.mpr (inv_run hinv ht).2⟩

/-! ### Two logins -/

section
open Recorded

def twoLogins (i : Bool) : Login := if i then second else first

/-- One login after the other. -/
theorem twoLogins_keep_counter : ∃ s t : State Bool,
    (⟨s.stored, s.heap⟩ : SignCount.State) = first.step twoAssertions.env registered ∧
    (⟨t.stored, t.heap⟩ : SignCount.State) =
      second.step twoAssertions.env (first.step twoAssertions.env registered) ∧
    s.Distinct ∧ s.stored.signCount ≤ t.stored.signCount := by
  have hstart : Settled (start registered.stored registered.heap : State Bool) := nofun
  obtain ⟨s, hs, hseq, hsettled, hother⟩ :=
    uninterrupted twoAssertions.env twoLogins hstart false rfl
  obtain ⟨t, ht, hteq, -⟩ :=
    uninterrupted twoAssertions.env twoLogins hsettled true (hother true (by decide))
  refine ⟨s, t, hseq, ?_, fresh_logins_keep_counter hs ht⟩
  rw [hteq, hseq]
  rfl

lemma reachable_of_foldlM {as : List (Action ι)} (h : as.foldlM (step E logins) s = some t) :
    ReflTransGen (Step E logins) s t := by
  induction as generalizing s with
  | nil =>
    obtain rfl := Option.some.inj h
    exact .refl
  | cons a as ih =>
    obtain ⟨u, hu, h⟩ := Option.bind_eq_some_iff.mp h
    exact .head ⟨a, hu⟩ (ih h)

/-- Both logins are verified against one snapshot, and the higher count is written first. -/
def overlapping : List (Action Bool) :=
  [.read false, .read true, .verify false, .verify true, .write true]

lemma overlapping_counts :
    (do
      let s ← overlapping.foldlM (step twoAssertions.env twoLogins)
        (start credential (Heap.new fun _ => ∅))
      let t ← step twoAssertions.env twoLogins s (.write false)
      return (s.stored.signCount, t.stored.signCount)) = some (2, 1) := by
  decide +kernel

/-- The stored count decreases. -/
theorem overlapping_loses_update : ∃ s t : State Bool,
    ReflTransGen (Step twoAssertions.env twoLogins) (start credential (Heap.new fun _ => ∅)) s ∧
    ReflTransGen (Step twoAssertions.env twoLogins) s t ∧
    ¬ s.stored.signCount ≤ t.stored.signCount := by
  obtain ⟨s, hs, h⟩ := Option.bind_eq_some_iff.mp overlapping_counts
  obtain ⟨t, ht, h⟩ := Option.bind_eq_some_iff.mp h
  obtain ⟨hscount, htcount⟩ := Prod.mk.inj (Option.some.inj h)
  refine ⟨s, t, reachable_of_foldlM hs, .single ⟨_, ht⟩, ?_⟩
  rw [hscount, htcount]
  decide

end

end Caden.Concurrent
