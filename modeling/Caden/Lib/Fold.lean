import Mathlib.Data.Finmap
import Caden.Lib.Outcome

/-!
Loops over the entries of a map in which a later entry replaces an earlier one, and loops
that build a finite map.

`collect` is what building a hash map from an iterator does: of several entries with one key
the last one stays. `mergeAll` appends instead, so no value of any entry is lost.
-/

namespace Caden.Fold

universe u v w

variable {α : Type u} {β : Type v}

/-- The value of the last element that has one. -/
def lastSome (f : α → Option β) (l : List α) : Option β :=
  l.foldl (fun acc x => (f x).or acc) none

@[simp] lemma lastSome_nil (f : α → Option β) : lastSome f [] = none := rfl

@[simp] lemma lastSome_concat (f : α → Option β) (l : List α) (x : α) :
    lastSome f (l ++ [x]) = (f x).or (lastSome f l) := by
  simp [lastSome, List.foldl_append]

@[simp] lemma lastSome_singleton (f : α → Option β) (x : α) : lastSome f [x] = f x :=
  Option.or_none

lemma lastSome_append (f : α → Option β) (l l' : List α) :
    lastSome f (l ++ l') = (lastSome f l').or (lastSome f l) := by
  induction l' using List.reverseRecOn with
  | nil => simp
  | append_singleton l' x ih => rw [← List.append_assoc, lastSome_concat, lastSome_concat, ih,
      Option.or_assoc]

lemma lastSome_eq_none_iff {f : α → Option β} {l : List α} :
    lastSome f l = none ↔ ∀ x ∈ l, f x = none := by
  induction l using List.reverseRecOn with
  | nil => simp
  | append_singleton l x ih =>
    rw [lastSome_concat, Option.or_eq_none_iff, ih]
    simp only [List.mem_append, List.mem_singleton, or_imp, forall_and, forall_eq]
    exact and_comm

lemma lastSome_eq_some_iff {f : α → Option β} {l : List α} {b : β} :
    lastSome f l = some b ↔
      ∃ p x s, l = p ++ x :: s ∧ f x = some b ∧ ∀ y ∈ s, f y = none := by
  induction l using List.reverseRecOn with
  | nil => simp
  | append_singleton l x ih =>
    rw [lastSome_concat]
    refine ⟨?_, ?_⟩
    · intro h
      rcases hx : f x with _ | c
      · rw [hx, Option.none_or] at h
        obtain ⟨p, y, s, rfl, hy, hs⟩ := ih.mp h
        refine ⟨p, y, s ++ [x], by simp, hy, fun z hz => ?_⟩
        rcases List.mem_append.mp hz with hz | hz
        · exact hs z hz
        · rw [List.mem_singleton.mp hz, hx]
      · rw [hx, Option.some_or] at h
        exact ⟨l, x, [], rfl, by rw [hx, h], by simp⟩
    · rintro ⟨p, y, s, h, hy, hs⟩
      rcases s.eq_nil_or_concat with rfl | ⟨s, z, rfl⟩
      · obtain ⟨rfl, rfl⟩ : l = p ∧ x = y := by simpa using h
        simp [hy]
      · obtain ⟨rfl, rfl⟩ : l = p ++ y :: s ∧ x = z :=
          List.append_singleton_inj.mp (by simpa using h)
        have hz : f x = none := hs x (by simp)
        have hl : lastSome f (p ++ y :: s) = some b :=
          ih.mpr ⟨p, y, s, rfl, hy, fun w hw => hs w (by simp [hw])⟩
        simp [hz, hl]

lemma exists_of_lastSome {f : α → Option β} {l : List α} {b : β} (h : lastSome f l = some b) :
    ∃ x ∈ l, f x = some b := by
  obtain ⟨p, x, s, rfl, hx, -⟩ := lastSome_eq_some_iff.mp h
  exact ⟨x, by simp, hx⟩

lemma lastSome_filterMap {γ : Type w} (g : γ → Option α) (f : α → Option β) (l : List γ) :
    lastSome f (l.filterMap g) = lastSome (fun x => (g x).bind f) l := by
  induction l using List.reverseRecOn with
  | nil => rfl
  | append_singleton l x ih =>
    rw [List.filterMap_append, lastSome_concat, ← ih]
    rcases hx : g x with _ | a
    · simp [hx]
    · simp [hx]

lemma lastSome_eq_of_forall {f : α → Option β} {l : List α} {b : β} (hb : ∃ x ∈ l, f x = some b)
    (hall : ∀ x ∈ l, ∀ c, f x = some c → c = b) : lastSome f l = some b := by
  rcases hlast : lastSome f l with _ | c
  · obtain ⟨x, hx, hfx⟩ := hb
    rw [lastSome_eq_none_iff] at hlast
    rw [hlast x hx] at hfx
    cases hfx
  · obtain ⟨x, hx, hfx⟩ := exists_of_lastSome hlast
    rw [hall x hx c hfx]

lemma lastSome_eq_some_of_agree {f : α → Option β} {l : List α} {b : β}
    (h : ∀ x ∈ l, ∀ y ∈ l, ∀ b c, f x = some b → f y = some c → b = c) :
    lastSome f l = some b ↔ ∃ x ∈ l, f x = some b := by
  refine ⟨exists_of_lastSome, ?_⟩
  rintro ⟨x, hx, hb⟩
  exact lastSome_eq_of_forall ⟨x, hx, hb⟩ fun y hy c hc => h y hy x hx c b hc hb

lemma eq_of_filterMap_nodup {f : α → Option β} {l : List α} (h : (l.filterMap f).Nodup) {x y : α}
    (hx : x ∈ l) (hy : y ∈ l) {b : β} (hfx : f x = some b) (hfy : f y = some b) : x = y := by
  induction l with
  | nil => cases hx
  | cons a l ih =>
    have hnotin : ∀ z ∈ l, f z = some b → f a ≠ some b := by
      intro z hz hbz ha
      rw [List.filterMap_cons, ha] at h
      exact (List.nodup_cons.mp h).1 (List.mem_filterMap.mpr ⟨z, hz, hbz⟩)
    have htail : (l.filterMap f).Nodup := by
      rw [List.filterMap_cons] at h
      split at h
      · exact h
      · exact (List.nodup_cons.mp h).2
    rcases List.mem_cons.mp hx with rfl | hxl <;> rcases List.mem_cons.mp hy with rfl | hyl
    · rfl
    · exact absurd hfx (hnotin _ hyl hfy)
    · exact absurd hfy (hnotin _ hxl hfx)
    · exact ih htail hxl hyl

/-! ### Building finite maps -/

variable {κ ν : Type u} [DecidableEq κ]

/-- A hash map; two are equal when they have the same entries, in whatever order. -/
abbrev Map (κ ν : Type u) : Type u := Finmap fun _ : κ => ν

/-- `entries.into_iter().collect::<HashMap<_, _>>()`. -/
def collect (l : List (κ × ν)) : Map κ ν := l.foldl (fun m e => m.insert e.1 e.2) ∅

/-- The value an entry gives to `k`. -/
def valueAt (k : κ) (e : κ × ν) : Option ν := if e.1 = k then some e.2 else none

@[simp] lemma valueAt_eq_some {k : κ} {e : κ × ν} {v : ν} :
    valueAt k e = some v ↔ e = (k, v) := by
  unfold valueAt
  split <;> simp_all [Prod.ext_iff]

@[simp] lemma valueAt_eq_none {k : κ} {e : κ × ν} : valueAt k e = none ↔ e.1 ≠ k := by
  unfold valueAt; split <;> simp_all

lemma lookup_insert_eq (m : Map κ ν) (e : κ × ν) (k : κ) :
    (m.insert e.1 e.2).lookup k = (valueAt k e).or (m.lookup k) := by
  unfold valueAt
  split
  · subst k; simp
  · rename_i h; rw [Finmap.lookup_insert_of_ne _ (Ne.symm h)]; simp

/-- **Collecting keeps the last entry of each key.** -/
lemma lookup_collect (l : List (κ × ν)) (k : κ) :
    (collect l).lookup k = lastSome (valueAt k) l := by
  induction l using List.reverseRecOn with
  | nil => simp [collect]
  | append_singleton l e ih =>
    rw [lastSome_concat, ← ih, ← lookup_insert_eq]
    simp [collect, List.foldl_append]

/-- `l` lists the entries of `m`, in any order. -/
def Enumerates (l : List (κ × ν)) (m : Map κ ν) : Prop :=
  ∀ k v, (k, v) ∈ l ↔ m.lookup k = some v

lemma Enumerates.lookup_collect {l : List (κ × ν)} {m : Map κ ν} (h : Enumerates l m) (k : κ) :
    (collect l).lookup k = m.lookup k := by
  rw [Fold.lookup_collect]
  rcases hl : lastSome (valueAt k) l with _ | v
  · rw [lastSome_eq_none_iff] at hl
    rcases hm : m.lookup k with _ | v
    · rfl
    · exact absurd rfl (valueAt_eq_none.mp (hl _ ((h k v).mpr hm)))
  · obtain ⟨e, he, hv⟩ := exists_of_lastSome hl
    rw [valueAt_eq_some.mp hv] at he
    exact ((h k v).mp he).symm

/-- `map.entry(k).or_default().extend(vs)`. -/
def extend (m : Map κ (List ν)) (k : κ) (vs : List ν) : Map κ (List ν) :=
  m.insert k ((m.lookup k).getD [] ++ vs)

def mergeAll (l : List (κ × List ν)) : Map κ (List ν) :=
  l.foldl (fun m e => extend m e.1 e.2) ∅

@[simp] lemma mergeAll_concat (l : List (κ × List ν)) (e : κ × List ν) :
    mergeAll (l ++ [e]) = extend (mergeAll l) e.1 e.2 := by
  simp [mergeAll, List.foldl_append]

/-- The values all entries of `l` give to `k`, in their order. -/
def valuesAt (l : List (κ × List ν)) (k : κ) : List ν :=
  (l.filter fun e => e.1 = k).flatMap Prod.snd

@[simp] lemma valuesAt_concat (l : List (κ × List ν)) (e : κ × List ν) (k : κ) :
    valuesAt (l ++ [e]) k = valuesAt l k ++ if e.1 = k then e.2 else [] := by
  unfold valuesAt
  rw [List.filter_append, List.flatMap_append]
  by_cases h : e.1 = k <;> simp [h]

lemma lookup_mergeAll (l : List (κ × List ν)) (k : κ) :
    (mergeAll l).lookup k = if ∃ e ∈ l, e.1 = k then some (valuesAt l k) else none := by
  induction l using List.reverseRecOn with
  | nil => simp [mergeAll]
  | append_singleton l e ih =>
    rw [mergeAll_concat, extend, valuesAt_concat]
    by_cases hk : e.1 = k
    · subst hk
      rw [Finmap.lookup_insert, ih]
      have hnone : (¬ ∃ d ∈ l, d.1 = e.1) → valuesAt l e.1 = [] := by
        intro hn
        push Not at hn
        rw [valuesAt, List.filter_eq_nil_iff.mpr (by simpa using hn), List.flatMap_nil]
      by_cases hl : ∃ d ∈ l, d.1 = e.1
      · rw [if_pos hl]; simp
      · rw [if_neg hl, hnone hl]; simp
    · have hiff : (∃ d ∈ l ++ [e], d.1 = k) ↔ ∃ d ∈ l, d.1 = k := by
        simp [or_and_right, exists_or, hk]
      rw [Finmap.lookup_insert_of_ne _ (Ne.symm hk), ih, if_neg hk, List.append_nil,
        if_congr hiff rfl rfl]

end Caden.Fold
