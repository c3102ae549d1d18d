import Caden.Ceremony
import Caden.Lib.Registry
import Caden.Recorded

/-!
Single use of challenges under concurrent ceremonies.

Calls of both ceremonies run interleaved on one memory, each in three steps: its checks, its
locked section, and the rest. Relying parties that are clones of one another share the
address of one used-challenge set. Seen from one such set, a run is a run of a register that
admits the calls which get past their locked section, by their challenge.
-/

namespace Caden.SingleUse

open Relation Ceremony
open ClientData (ParsedClientData)

/-! ### The system -/

/-- Where a call is. A rejected call has ended before its last part, with an error or a panic. -/
inductive Phase where
  | idle
  | checked (p : ParsedClientData)
  | rejected (o : Res Verdict)
  | passed (p : ParsedClientData)
  | finished (o : Res Verdict)

/-- The call got past its locked section. -/
def Phase.Past : Phase → Prop
  | passed _ | finished _ => True
  | _ => False

/-- The call returned a result. -/
def Phase.Accepted (ph : Phase) : Prop := ∃ v, ph = .finished (.ok v)

lemma Phase.Accepted.past {ph : Phase} (h : ph.Accepted) : ph.Past := by
  obtain ⟨v, rfl⟩ := h
  trivial

structure State (ι : Type) where
  heap : Heap
  phase : ι → Phase

variable {ι : Type} [DecidableEq ι]

/-- Memory and calls before any step. -/
def start (heap : Heap) : State ι := ⟨heap, fun _ => .idle⟩

/-- The memory becomes `heap`, and call `i` comes to the phase `ph`. -/
def State.put (s : State ι) (heap : Heap) (i : ι) (ph : Phase) : State ι :=
  ⟨heap, Function.update s.phase i ph⟩

@[simp] lemma put_heap (s : State ι) (heap : Heap) (i : ι) (ph : Phase) :
    (s.put heap i ph).heap = heap := rfl

@[simp] lemma put_phase (s : State ι) (heap : Heap) (i : ι) (ph : Phase) :
    (s.put heap i ph).phase i = ph := Function.update_self ..

@[simp] lemma put_put (s : State ι) (heap heap' : Heap) (i : ι) (ph ph' : Phase) :
    (s.put heap i ph).put heap' i ph' = s.put heap' i ph' := by
  simp [State.put]

/-- The locked section of a call runs as one step. -/
inductive Step (E : Env) (calls : ι → Call) (s : State ι) : State ι → Prop
  | check (i : ι) (p : ParsedClientData) (hi : s.phase i = .idle)
      (h : (calls i).check E = .ok p) : Step E calls s (s.put s.heap i (.checked p))
  | checkFails (i : ι) (hi : s.phase i = .idle) (h : ∀ p, (calls i).check E ≠ .ok p) :
      Step E calls s (s.put s.heap i (.rejected ((calls i).check E >>= (calls i).finish E)))
  | lock (i : ι) (p : ParsedClientData) (hi : s.phase i = .checked p)
      (h : ((calls i).lock.run s.heap).1 = .ok ()) :
      Step E calls s (s.put ((calls i).lock.run s.heap).2 i (.passed p))
  | lockFails (i : ι) (p : ParsedClientData) (hi : s.phase i = .checked p)
      (h : ¬ ((calls i).lock.run s.heap).1 = .ok ()) :
      Step E calls s (s.put ((calls i).lock.run s.heap).2 i
        (.rejected (((calls i).lock.run s.heap).1 >>= fun _ => (calls i).finish E p)))
  | finish (i : ι) (p : ParsedClientData) (hi : s.phase i = .passed p) :
      Step E calls s (s.put s.heap i (.finished ((calls i).finish E p)))

variable {E : Env} {calls : ι → Call} {s t : State ι}

/-! ### The register of one set -/

def key (calls : ι → Call) (i : ι) : Bytes := (calls i).challenge.bytes

/-- The set at address `a`, and the calls on it that got past their locked section. -/
def view (calls : ι → Call) (a : Arc) (s : State ι) : Registry.State ι Bytes where
  used := {b | b ∈ (s.heap a).set}
  past := {i | (calls i).rp.usedChallenges = some a ∧ (s.phase i).Past}

lemma view_put {a : Arc} {heap : Heap} {i : ι} {ph : Phase} (hheap : heap a = s.heap a)
    (h : (calls i).rp.usedChallenges = some a → (ph.Past ↔ (s.phase i).Past)) :
    view calls a (s.put heap i ph) = view calls a s := by
  ext j
  · simp only [view, State.put, hheap]
  · simp only [view, State.put, Set.mem_ofPred_eq]
    by_cases hj : j = i
    · subst hj
      rw [Function.update_self]
      exact and_congr_right h
    · rw [Function.update_of_ne hj]

lemma view_lock {a : Arc} {i : ι} {p : ParsedClientData}
    (hused : (calls i).rp.usedChallenges = some a) :
    view calls a (s.put (Function.update s.heap a
        { s.heap a with set := insert (key calls i) (s.heap a).set }) i (.passed p)) =
      ⟨insert (key calls i) (view calls a s).used, insert i (view calls a s).past⟩ := by
  ext j
  · simp [view, State.put]
  · simp only [view, State.put, Set.mem_ofPred_eq, Set.mem_insert_iff]
    by_cases hj : j = i
    · subst hj
      simp [hused, Phase.Past]
    · simp [hj]

lemma view_step (a : Arc) (h : Step E calls s t) :
    ReflTransGen (Registry.Step (key calls)) (view calls a s) (view calls a t) := by
  cases h with
  | check i p hi => rw [view_put rfl (by simp [hi, Phase.Past])]
  | checkFails i hi => rw [view_put rfl (by simp [hi, Phase.Past])]
  | finish i p hi => rw [view_put rfl (by simp [hi, Phase.Past])]
  | lockFails i p hi hfail =>
    have hheap : ((calls i).lock.run s.heap).2 = s.heap := useChallenge_fails hfail
    rw [hheap, view_put rfl (by simp [hi, Phase.Past])]
  | lock i p hi hok =>
    rcases useChallenge_passes hok with ⟨hnone, heq⟩ | ⟨b, hb, hfresh, heq⟩
    · rw [Call.lock, heq, view_put rfl (by simp [hnone])]
    · by_cases hab : b = a
      · subst hab
        rw [Call.lock, heq]
        exact view_lock hb ▸ .single (.enter i hfresh)
      · have hne : (calls i).rp.usedChallenges ≠ some a := by
          rw [hb]
          exact fun h => hab (Option.some.inj h)
        rw [Call.lock, heq, view_put (Function.update_of_ne (Ne.symm hab) ..)
          (fun h => absurd h hne)]

lemma past_unique {heap : Heap} (h : ReflTransGen (Step E calls) (start heap) s) {a : Arc}
    {i j : ι} (hi : (calls i).rp.usedChallenges = some a)
    (hj : (calls j).rp.usedChallenges = some a) (hpi : (s.phase i).Past)
    (hpj : (s.phase j).Past) (hkey : key calls i = key calls j) : i = j := by
  have hrun := ReflTransGen.lift' (view calls a) (fun _ _ hstep => view_step a hstep) _ _ h
  have hstart : view calls a (start heap) = ⟨{b | b ∈ (heap a).set}, ∅⟩ := by
    ext k
    · rfl
    · simp [view, start, Phase.Past]
  rw [Function.onFun, hstart] at hrun
  exact Registry.single_of_run hrun ⟨hi, hpi⟩ ⟨hj, hpj⟩ hkey

/-! ### What a call that passed has checked -/

/-- A call that is past its checks passed them. -/
def Phase.Checks (E : Env) (c : Call) : Phase → Prop
  | checked p | passed p => c.check E = .ok p
  | finished _ => ∃ p, c.check E = .ok p
  | _ => True

def Checked (E : Env) (calls : ι → Call) (s : State ι) : Prop :=
  ∀ i, (s.phase i).Checks E (calls i)

lemma checked_put {i : ι} {ph : Phase} {heap : Heap} (hs : Checked E calls s)
    (h : ph.Checks E (calls i)) : Checked E calls (s.put heap i ph) := by
  intro j
  by_cases hj : j = i
  · subst hj
    simpa [State.put] using h
  · simpa [State.put, Function.update_of_ne hj] using hs j

lemma checked_step (hs : Checked E calls s) (h : Step E calls s t) : Checked E calls t := by
  cases h with
  | check i p hi hok => exact checked_put hs hok
  | checkFails i hi => exact checked_put hs trivial
  | lock i p hi =>
    have hp := hs i
    rw [hi] at hp
    exact checked_put hs hp
  | lockFails i p hi => exact checked_put hs trivial
  | finish i p hi =>
    have hp := hs i
    rw [hi] at hp
    exact checked_put hs ⟨p, hp⟩

lemma checked_of_accepted {heap : Heap} (h : ReflTransGen (Step E calls) (start heap) s) {i : ι}
    (hi : (s.phase i).Accepted) : ∃ p, (calls i).check E = .ok p := by
  have hstart : Checked E calls (start heap) := fun _ => trivial
  have hc := invariant_of_steps (fun _ _ hs hstep => checked_step hs hstep) h hstart i
  obtain ⟨v, hv⟩ := hi
  rwa [hv] at hc

lemma binds_challenge {c : Call} {p : ParsedClientData} (h : c.check E = .ok p) :
    ∃ rcd, E.jsonClientData c.clientDataJson = .ok rcd ∧
      E.urlSafeNoPadDecode rcd.challenge = .ok c.challenge.bytes := by
  cases c with
  | register rp clock challenge response userId =>
    obtain ⟨-, -, hb⟩ := Registration.exists_checkClientData.mp ⟨p, h⟩
    obtain ⟨rcd, hj, -, hc, -⟩ := hb.fields
    exact ⟨rcd, hj, hc⟩
  | authenticate rp stored clock challenge response =>
    obtain ⟨-, hb⟩ := Authentication.exists_checkClientData.mp ⟨p, h⟩
    obtain ⟨rcd, hj, -, hc, -⟩ := hb.fields
    exact ⟨rcd, hj, hc⟩

omit [DecidableEq ι] in
lemma key_eq_of_clientDataJson {i j : ι} {p q : ParsedClientData}
    (hi : (calls i).check E = .ok p) (hj : (calls j).check E = .ok q)
    (h : (calls i).clientDataJson = (calls j).clientDataJson) : key calls i = key calls j := by
  obtain ⟨rcd, hr, hd⟩ := binds_challenge hi
  obtain ⟨rcd', hr', hd'⟩ := binds_challenge hj
  rw [← h, hr, Except.ok.injEq] at hr'
  subst hr'
  exact Except.ok.inj (hd.symm.trans hd')

/-! ### Calls that are not interrupted -/

/-- **A call on its own is a run of the system**: with the same effect on the memory, and
accepted exactly when the call returns a result. -/
theorem run_refines (s : State ι) (i : ι) (hi : s.phase i = .idle) :
    ∃ ph, ReflTransGen (Step E calls) s (s.put (((calls i).run E).run s.heap).2 i ph) ∧
      ∀ v, (((calls i).run E).run s.heap).1 = .ok v ↔ ph = .finished (.ok v) := by
  rw [Call.run_eq]
  by_cases hcheck : ∃ p, (calls i).check E = .ok p
  · obtain ⟨p, hp⟩ := hcheck
    have h1 : Step E calls s (s.put s.heap i (.checked p)) := .check i p hi hp
    rw [hp]
    rcases hlock : (calls i).lock.run s.heap with ⟨_ | _ | _, heap'⟩
    · -- past the locked section: the call ends as its last part does
      have h2 : Step E calls (s.put s.heap i (.checked p)) (s.put heap' i (.passed p)) := by
        have h : Step E calls (s.put s.heap i (.checked p)) _ :=
          .lock i p (by simp) (by simp [hlock])
        simpa [hlock] using h
      have h3 : Step E calls (s.put heap' i (.passed p))
          (s.put heap' i (.finished ((calls i).finish E p))) := by
        have h : Step E calls (s.put heap' i (.passed p)) _ := .finish i p (by simp)
        simpa using h
      exact ⟨_, ((ReflTransGen.single h1).tail h2).tail h3, fun v => by simp⟩
    all_goals
      have h2 : Step E calls (s.put s.heap i (.checked p)) _ :=
        .lockFails i p (by simp) (by simp [hlock])
      simp only [put_heap, hlock, put_put] at h2
      exact ⟨_, (ReflTransGen.single h1).tail h2, fun v => by simp⟩
  · have hne : ∀ p, (calls i).check E ≠ .ok p := fun p hp => hcheck ⟨p, hp⟩
    have h1 : Step E calls s _ := .checkFails i hi hne
    rcases hc : (calls i).check E with p | e | _
    · exact absurd hc (hne p)
    · exact ⟨_, .single h1, fun v => by simp⟩
    · exact ⟨_, .single h1, fun v => by simp⟩

/-! ### No replay -/

/-- **No ceremony is replayed.** In every interleaving of calls, of two calls on one shared
set: with one challenge, they are not both past the used-challenge check, and so not both
accepted; with one client data, and so with one response, they are not both accepted. -/
theorem no_replay (E : Env) (calls : ι → Call) (heap : Heap) (s : State ι)
    (h : ReflTransGen (Step E calls) (start heap) s) (a : Arc) (i j : ι) (hij : i ≠ j)
    (hi : (calls i).rp.usedChallenges = some a) (hj : (calls j).rp.usedChallenges = some a) :
    ((calls i).challenge.bytes = (calls j).challenge.bytes →
      ¬ ((s.phase i).Past ∧ (s.phase j).Past)) ∧
    ((calls i).challenge.bytes = (calls j).challenge.bytes →
      ¬ ((s.phase i).Accepted ∧ (s.phase j).Accepted)) ∧
    ((calls i).clientDataJson = (calls j).clientDataJson →
      ¬ ((s.phase i).Accepted ∧ (s.phase j).Accepted)) := by
  have hpast : (calls i).challenge.bytes = (calls j).challenge.bytes →
      ¬ ((s.phase i).Past ∧ (s.phase j).Past) := fun hkey ⟨hpi, hpj⟩ =>
    hij (past_unique h hi hj hpi hpj hkey)
  have haccepted : (calls i).challenge.bytes = (calls j).challenge.bytes →
      ¬ ((s.phase i).Accepted ∧ (s.phase j).Accepted) := fun hkey ⟨hai, haj⟩ =>
    hpast hkey ⟨hai.past, haj.past⟩
  refine ⟨hpast, haccepted, fun hjson ⟨hai, haj⟩ => ?_⟩
  obtain ⟨p, hp⟩ := checked_of_accepted h hai
  obtain ⟨q, hq⟩ := checked_of_accepted h haj
  exact haccepted (key_eq_of_clientDataJson hp hq hjson) ⟨hai, haj⟩

section
open Recorded

/-- One registration request, sent twice. -/
def replay : Bool → Call := fun _ =>
  .register (rp.enforceSingleUseChallenges 0 true) clock createChallenge
    (createResponse Recorded.aaguid) []

lemma replay_isOk : (((replay false).run (registration Recorded.aaguid).env).run
    (Heap.new fun _ => ∅)).1.isOk = true := by
  decide +kernel

/-- The request is accepted once. -/
theorem replay_accepted_once : ∃ s,
    ReflTransGen (Step (registration Recorded.aaguid).env replay)
      (start (Heap.new fun _ => ∅)) s ∧
    (s.phase false).Accepted ∧ ¬ (s.phase true).Accepted := by
  obtain ⟨v, hv⟩ := Outcome.isOk_iff.mp replay_isOk
  obtain ⟨ph, hrun, hph⟩ :=
    run_refines (start (Heap.new fun _ => ∅) : State Bool) false rfl
  have hidle (heap : Heap) : ((start (Heap.new fun _ => ∅) : State Bool).put heap false
      ph).phase true = .idle := rfl
  obtain ⟨ph', hrun', -⟩ := run_refines _ true (hidle _)
  obtain rfl := (hph v).mp hv
  refine ⟨_, hrun.trans hrun', ⟨v, rfl⟩, fun htrue => ?_⟩
  obtain ⟨-, honce, -⟩ := no_replay _ replay _ _ (hrun.trans hrun') 0 false true (by decide)
    rfl rfl
  exact honce rfl ⟨⟨v, rfl⟩, htrue⟩

end

end Caden.SingleUse
