import Caden.ChallengeEffect
import Caden.Lib.Serial
import Caden.SingleUse

/-!
Concurrent ceremonies and ceremonies one after another.

A call commits in its locked section, or where a check before it fails. Every run of concurrent
calls is explained by the order of these commits: the memory is that of the calls made one after
the other in this order, and each call ends as it does in its place. Calls whose challenges differ
end as they would alone.
-/

namespace Caden.SingleUse

open Relation Ceremony ChallengeEffect

variable {ι : Type} [DecidableEq ι] {E : Env} {calls : ι → Call} {s t : State ι} {heap : Heap}

/-! ### Commits -/

/-- The locked section was left, or a check before it failed. -/
def Phase.Decided : Phase → Prop
  | idle | checked _ => False
  | rejected _ | passed _ | finished _ => True

/-- What the phase of a call says of the outcome. -/
def Phase.Tells (E : Env) (c : Call) : Phase → Res Verdict → Prop
  | passed p, o => c.finish E p = o
  | rejected o', o | finished o', o => o' = o
  | _, _ => False

/-- The effect of a whole call, and its outcome. -/
def agents (E : Env) (calls : ι → Call) : Serial.Agents ι Heap (Res Verdict) where
  effect i heap := (((calls i).run E).run heap).2
  answer i heap := (((calls i).run E).run heap).1

/-- The memory, the calls that have committed, and what they say. -/
def commits (E : Env) (calls : ι → Call) : Serial.View (State ι) ι Heap (Res Verdict) where
  shared s := s.heap
  done s := {i | (s.phase i).Decided}
  tells s i o := (s.phase i).Tells E (calls i) o

omit [DecidableEq ι] in
lemma after_agents (order : List ι) :
    (agents E calls).after order heap = after E (order.map calls) heap := by
  rw [after, List.foldl_map]
  rfl

lemma phase_put (s : State ι) (heap : Heap) (i j : ι) (ph : Phase) :
    (s.put heap i ph).phase j = if j = i then ph else s.phase j := by
  simp [State.put, Function.update_apply]

lemma quiet {i : ι} {ph : Phase} (hdecided : ph.Decided ↔ (s.phase i).Decided)
    (htells : ∀ o, (s.phase i).Tells E (calls i) o → ph.Tells E (calls i) o) :
    Serial.Commits (agents E calls) (commits E calls) s (s.put s.heap i ph) := by
  refine .quiet rfl ?_ fun j hj o ho => ?_
  · ext j
    simp only [commits, Set.mem_ofPred_eq, phase_put]
    split
    · subst j
      exact hdecided
    · rfl
  · simp only [commits, phase_put]
    split
    · subst j
      exact htells o ho
    · exact ho

lemma commit {i : ι} {heap' : Heap} {ph : Phase} (hnew : ¬ (s.phase i).Decided)
    (hdecided : ph.Decided) (hheap : heap' = (((calls i).run E).run s.heap).2)
    (htells : ph.Tells E (calls i) (((calls i).run E).run s.heap).1) :
    Serial.Commits (agents E calls) (commits E calls) s (s.put heap' i ph) := by
  refine .commit i hnew hheap ?_ ?_ fun j hj o ho => ?_
  · ext j
    simp only [commits, Set.mem_ofPred_eq, Set.mem_insert_iff, phase_put]
    split
    · subst j
      simp [hdecided]
    · simp [*]
  · simp only [commits, phase_put, if_true]
    exact htells
  · have hne : j ≠ i := by
      rintro rfl
      exact hnew hj
    simp only [commits, phase_put, if_neg hne]
    exact ho

/-- **Every step commits one call or none.** -/
lemma commits_step (hs : Checked E calls s) (h : Step E calls s t) :
    Serial.Commits (agents E calls) (commits E calls) s t := by
  cases h with
  | check i p hi hok =>
    exact quiet (by simp [hi, Phase.Decided]) (by simp [hi, Phase.Tells])
  | finish i p hi =>
    exact quiet (by simp [hi, Phase.Decided]) (by simp [hi, Phase.Tells])
  | checkFails i hi hfail =>
    have hstop : ¬ (Passes E (calls i) ∧ ((calls i).lock.run s.heap).1 = .ok ()) := by
      rintro ⟨hpass, -⟩
      obtain ⟨p, hp⟩ := (check_isOk _).mpr hpass
      exact hfail p hp
    refine commit (by simp [hi, Phase.Decided]) trivial (run_stopped hstop).symm ?_
    rw [Call.run_eq]
    rcases hc : (calls i).check E with p | e | _
    · exact absurd hc (hfail p)
    · rfl
    · rfl
  | lock i p hi hok =>
    have hcheck : (calls i).check E = .ok p := by
      have hchecks := hs i
      rwa [hi] at hchecks
    have hheap := run_past ((check_isOk _).mp ⟨p, hcheck⟩) hok
    refine commit (by simp [hi, Phase.Decided]) trivial hheap.symm ?_
    rw [Call.run_eq, hcheck]
    revert hok
    rcases (calls i).lock.run s.heap with ⟨_ | _ | _, heap'⟩
    · exact fun _ => rfl
    · exact nofun
    · exact nofun
  | lockFails i p hi hfail =>
    have hcheck : (calls i).check E = .ok p := by
      have hchecks := hs i
      rwa [hi] at hchecks
    have hheap : ((calls i).lock.run s.heap).2 = s.heap := useChallenge_fails hfail
    have hstop := run_stopped (E := E) fun hpast => hfail hpast.2
    refine commit (by simp [hi, Phase.Decided]) trivial (hheap.trans hstop.symm) ?_
    rw [Call.run_eq, hcheck]
    revert hfail
    rcases (calls i).lock.run s.heap with ⟨_ | _ | _, heap'⟩
    · exact fun hfail => absurd rfl hfail
    · exact fun _ => rfl
    · exact fun _ => rfl

/-- **The order of the commits explains every run.** -/
lemma explained_run (h : ReflTransGen (Step E calls) (start heap) s) :
    ∃ order, Serial.Explains (agents E calls) (commits E calls) heap order s := by
  have hstart : Checked E calls (start heap) := fun _ => trivial
  have hnone : (commits E calls).done (start heap) = ∅ := by
    ext i
    simp [commits, start, Phase.Decided]
  exact Serial.explained (fun s t hs hst => ⟨checked_step hs hst, commits_step hs hst⟩) h hstart
    hnone

/-- **Concurrent ceremonies are serializable.** In every interleaving of calls there is an order of
the decided calls such that the memory is that of these calls made one after the other, and each
call ends as it does in its place of that sequence. -/
theorem ceremonies_serializable (E : Env) (calls : ι → Call) (heap : Heap) (s : State ι)
    (h : ReflTransGen (Step E calls) (start heap) s) :
    ∃ order : List ι, order.Nodup ∧ (∀ i, i ∈ order ↔ (s.phase i).Decided) ∧
      s.heap = after E (order.map calls) heap ∧
      ∀ pre i post, order = pre ++ i :: post → (s.phase i).Tells E (calls i)
        (((calls i).run E).run (after E (pre.map calls) heap)).1 := by
  obtain ⟨order, hexplains⟩ := explained_run h
  refine ⟨order, hexplains.nodup, hexplains.mem, ?_, fun pre i post heq => ?_⟩
  · rw [← after_agents]
    exact hexplains.shared
  · rw [← after_agents]
    exact hexplains.tells pre i post heq

/-! ### Isolation -/

/-- The calls share a set of used challenges. -/
def Shares (c c' : Call) : Prop :=
  c.rp.usedChallenges.isSome ∧ c.rp.usedChallenges = c'.rp.usedChallenges

section
variable {c c' : Call} {heap heap' : Heap}

lemma unused_after {used : Option Arc} {challenge : Bytes} (hs : heap.Sound)
    (h : used.isSome → used = c.rp.usedChallenges → challenge ≠ c.challenge.bytes) :
    Unused used challenge ((c.run E).run heap).2 ↔ Unused used challenge heap := by
  refine forall₂_congr fun a ha => not_congr ?_
  rcases hused : c.rp.usedChallenges with _ | b
  · rw [run_off hused]
  · obtain ⟨hconsume, hkeep⟩ := run_on (E := E) hs hused
    by_cases hpass : Passes E c ∧ c.challenge.bytes ∉ (heap b).set
    · rw [hconsume hpass, consume]
      by_cases hab : a = b
      · subst hab
        have hne := h (by simp [ha]) (ha.trans hused.symm)
        simp [hne]
      · rw [Function.update_of_ne hab]
    · rw [hkeep hpass]

lemma run_congr (hs : heap.Sound) (hs' : heap'.Sound)
    (h : Unused c.rp.usedChallenges c.challenge.bytes heap ↔
      Unused c.rp.usedChallenges c.challenge.bytes heap') :
    ((c.run E).run heap).1 = ((c.run E).run heap').1 := by
  have hlock : (c.lock.run heap).1 = (c.lock.run heap').1 := by
    unfold Call.lock useChallenge
    rcases hused : c.rp.usedChallenges with _ | a
    · rfl
    · have hmem : c.challenge.bytes ∈ (heap a).set ↔ c.challenge.bytes ∈ (heap' a).set := by
        simpa [Unused, hused] using not_congr h
      simp only [Stateful.run, hs a, hs' a, hmem]
      split_ifs <;> rfl
  rw [Call.run_eq, Call.run_eq]
  rcases c.check E with p | e | _
  · revert hlock
    rcases c.lock.run heap with ⟨_ | _ | _, _⟩ <;> rcases c.lock.run heap' with ⟨_ | _ | _, _⟩ <;>
      simp
  · rfl
  · rfl

lemma unused_afterAll {l : List Call} (hs : heap.Sound)
    (h : ∀ c' ∈ l, Shares c c' → c.challenge.bytes ≠ c'.challenge.bytes) :
    Unused c.rp.usedChallenges c.challenge.bytes (after E l heap) ↔
      Unused c.rp.usedChallenges c.challenge.bytes heap := by
  induction l generalizing heap with
  | nil => rfl
  | cons c' l ih =>
    obtain ⟨hfirst, hrest⟩ := List.forall_mem_cons.mp h
    exact (ih (c'.sound_run hs) hrest).trans
      (unused_after hs fun hsome hused => hfirst ⟨hsome, hused⟩)

end

/-- **Concurrent ceremonies do not interfere** when those that share a set of used challenges have
different ones: in every interleaving each call ends as it does alone. -/
theorem ceremonies_isolated (E : Env) (calls : ι → Call) (heap : Heap) (hs : heap.Sound)
    (hdistinct : ∀ i j, i ≠ j → Shares (calls i) (calls j) →
      (calls i).challenge.bytes ≠ (calls j).challenge.bytes)
    (s : State ι) (h : ReflTransGen (Step E calls) (start heap) s) (i : ι)
    (hi : (s.phase i).Decided) :
    (s.phase i).Tells E (calls i) (((calls i).run E).run heap).1 := by
  obtain ⟨order, hexplains⟩ := explained_run h
  obtain ⟨pre, post, rfl⟩ := List.append_of_mem ((hexplains.mem i).mpr hi)
  have hpre : i ∉ pre := fun hin =>
    (List.nodup_append.mp hexplains.nodup).2.2 i hin i (by simp) rfl
  have hunused := unused_afterAll (E := E) (c := calls i) hs (l := pre.map calls) fun c' hc' => by
    obtain ⟨j, hj, rfl⟩ := List.mem_map.mp hc'
    exact hdistinct i j fun hij => hpre (hij ▸ hj)
  rw [← run_congr (sound_after _ hs) hs hunused, ← after_agents]
  exact hexplains.tells pre i post rfl

/-! ### A request that is sent twice -/

section
open Recorded

/-- The memory is that of one request after the other. -/
theorem replay_serialized : ∃ (s : State Bool) (order : List Bool),
    ReflTransGen (Step (registration Recorded.aaguid).env replay) (start (Heap.new fun _ => ∅)) s ∧
    (s.phase false).Decided ∧ false ∈ order ∧
    s.heap = after (registration Recorded.aaguid).env (order.map replay) (Heap.new fun _ => ∅) := by
  obtain ⟨v, hv⟩ := Outcome.isOk_iff.mp replay_isOk
  obtain ⟨ph, hrun, hph⟩ := run_refines (start (Heap.new fun _ => ∅) : State Bool) false rfl
  obtain rfl := (hph v).mp hv
  obtain ⟨order, -, hmem, hheap, -⟩ := ceremonies_serializable _ replay _ _ hrun
  exact ⟨_, order, hrun, trivial, (hmem false).mpr trivial, hheap⟩

/-- The request, and one for another challenge. -/
def twoRequests : Bool → Call
  | false => replay false
  | true => .register (rp.enforceSingleUseChallenges 0 true) clock firstChallenge
      (createResponse Recorded.aaguid) []

lemma createChallenge_ne : createChallenge.bytes ≠ firstChallenge.bytes := by decide

/-- The request ends next to the other one as it does alone. -/
theorem request_isolated : ∃ s,
    ReflTransGen (Step (registration Recorded.aaguid).env twoRequests)
      (start (Heap.new fun _ => ∅)) s ∧
    (s.phase false).Tells (registration Recorded.aaguid).env (replay false)
      (((replay false).run (registration Recorded.aaguid).env).run (Heap.new fun _ => ∅)).1 := by
  obtain ⟨v, hv⟩ := Outcome.isOk_iff.mp replay_isOk
  obtain ⟨ph, hrun, hph⟩ := @run_refines Bool _ (registration Recorded.aaguid).env twoRequests
    (start (Heap.new fun _ => ∅)) false rfl
  have hidle (heap : Heap) : ((start (Heap.new fun _ => ∅) : State Bool).put heap false
      ph).phase true = .idle := rfl
  obtain ⟨ph', hrun', -⟩ := run_refines _ true (hidle _)
  obtain rfl := (hph v).mp hv
  refine ⟨_, hrun.trans hrun', ?_⟩
  refine ceremonies_isolated _ twoRequests _ (Heap.sound_new _) ?_ _ (hrun.trans hrun') false
    trivial
  rintro (_ | _) (_ | _) hij -
  · exact absurd rfl hij
  · exact createChallenge_ne
  · exact createChallenge_ne.symm
  · exact absurd rfl hij

end

end Caden.SingleUse
