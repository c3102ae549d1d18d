import Mathlib.Data.Nat.Find
import Mathlib.Data.Vector.Basic
import Caden.Lib.Outcome

/-!
Byte strings, and the ways a program takes them apart.

Indexing with `data[i]` and `data[lo..hi]` panics outside the bounds, `data.get(..)` returns
nothing there. Fixed-size arrays carry their length.
-/

namespace Caden

abbrev Bytes := List UInt8

/-- `[T; n]`. -/
abbrev ArrayN (α : Type) (n : ℕ) := List.Vector α n

namespace Slice

variable {ε α : Type} {data b : List α} {i lo hi n : ℕ} {a : α}

/-- `data[i]`. -/
def index (data : List α) (i : ℕ) : Outcome ε α := .expect data[i]?

/-- `data[lo..hi]`. -/
def slice (data : List α) (lo hi : ℕ) : Outcome ε (List α) :=
  if lo ≤ hi ∧ hi ≤ data.length then .ok ((data.drop lo).take (hi - lo)) else .panic

/-- `data[lo..]`. -/
def sliceFrom (data : List α) (lo : ℕ) : Outcome ε (List α) :=
  if lo ≤ data.length then .ok (data.drop lo) else .panic

/-- `data.get(lo..hi)`. -/
def get (data : List α) (lo hi : ℕ) : Option (List α) :=
  if lo ≤ hi ∧ hi ≤ data.length then some ((data.drop lo).take (hi - lo)) else none

/-- `data.get(lo..)`. -/
def getFrom (data : List α) (lo : ℕ) : Option (List α) :=
  if lo ≤ data.length then some (data.drop lo) else none

/-- `slice.try_into()` to an array of length `n`. -/
def tryInto (n : ℕ) (b : List α) : Option (ArrayN α n) :=
  if h : b.length = n then some ⟨b, h⟩ else none

/-- `[a, b]`. -/
def pair (a b : α) : ArrayN α 2 := ⟨[a, b], rfl⟩

@[simp] lemma pair_toList {b : α} : (pair a b).toList = [a, b] := rfl

@[simp] lemma index_eq_ok : (index data i : Outcome ε α) = .ok a ↔ data[i]? = some a := by
  simp [index]

lemma index_zero_eq_ok : (index data 0 : Outcome ε α) = .ok a ↔ data.head? = some a := by
  rw [index_eq_ok, List.head?_eq_getElem?]

@[simp] lemma slice_eq_ok : (slice data lo hi : Outcome ε (List α)) = .ok b ↔
    (lo ≤ hi ∧ hi ≤ data.length) ∧ (data.drop lo).take (hi - lo) = b := by
  unfold slice; split <;> simp_all

@[simp] lemma sliceFrom_eq_ok : (sliceFrom data lo : Outcome ε (List α)) = .ok b ↔
    lo ≤ data.length ∧ data.drop lo = b := by
  unfold sliceFrom; split <;> simp_all

@[simp] lemma get_eq_some : get data lo hi = some b ↔
    (lo ≤ hi ∧ hi ≤ data.length) ∧ (data.drop lo).take (hi - lo) = b := by
  unfold get; split <;> simp_all

@[simp] lemma getFrom_eq_some : getFrom data lo = some b ↔
    lo ≤ data.length ∧ data.drop lo = b := by
  unfold getFrom; split <;> simp_all

lemma slice_length (h : (slice data lo hi : Outcome ε (List α)) = .ok b) :
    b.length = hi - lo := by
  obtain ⟨⟨_, _⟩, rfl⟩ := slice_eq_ok.mp h
  simp only [List.length_take, List.length_drop]
  omega

lemma get_length (h : get data lo hi = some b) : b.length = hi - lo := by
  obtain ⟨⟨_, _⟩, rfl⟩ := get_eq_some.mp h
  simp only [List.length_take, List.length_drop]
  omega

@[simp] lemma tryInto_eq_some {v : ArrayN α n} : tryInto n b = some v ↔ b = v.toList := by
  unfold tryInto
  split
  · exact ⟨fun h => by cases h; rfl, fun h => by subst h; rfl⟩
  · rename_i h
    simp only [reduceCtorEq, false_iff]
    rintro rfl
    exact h v.toList_length

@[simp] lemma tryInto_isSome : (tryInto n b).isSome ↔ b.length = n := by
  unfold tryInto
  split
  · exact ⟨fun _ => ‹_›, fun _ => rfl⟩
  · simp_all

lemma exists_pair (v : ArrayN α 2) : ∃ a b, v = pair a b := by
  rcases v with ⟨_ | ⟨a, _ | ⟨b, _ | _⟩⟩, h⟩
  · cases h
  · cases h
  · exact ⟨a, b, rfl⟩
  · simp at h

/-! ### Safety -/

@[simp] lemma safe_index : (index data i : Outcome ε α).Safe ↔ i < data.length := by
  simp [index]

@[simp] lemma safe_slice :
    (slice data lo hi : Outcome ε (List α)).Safe ↔ lo ≤ hi ∧ hi ≤ data.length := by
  unfold slice; split <;> simp_all

@[simp] lemma safe_sliceFrom :
    (sliceFrom data lo : Outcome ε (List α)).Safe ↔ lo ≤ data.length := by
  unfold sliceFrom; split <;> simp_all

/-! ### Searching -/

/-- `data.windows(needle.len()).position(|w| w == needle)`: where `needle` first occurs. -/
def position [BEq α] (needle : List α) : List α → Option ℕ
  | [] => none
  | x :: xs => if needle.isPrefixOf (x :: xs) then some 0 else (position needle xs).map (· + 1)

lemma position_spec [BEq α] [LawfulBEq α] {needle : List α} (h : position needle data = some i) :
    ∃ t, data.drop i = needle ++ t := by
  induction data generalizing i with
  | nil => simp [position] at h
  | cons x xs ih =>
    unfold position at h
    split at h
    · rename_i hp
      obtain ⟨t, ht⟩ := List.isPrefixOf_iff_prefix.mp hp
      cases h
      exact ⟨t, by simpa using ht.symm⟩
    · obtain ⟨j, hj, rfl⟩ := Option.map_eq_some_iff.mp h
      simpa using ih hj

lemma position_lt [BEq α] {needle : List α} (h : position needle data = some i) :
    i < data.length := by
  induction data generalizing i with
  | nil => cases h
  | cons x xs ih =>
    unfold position at h
    split at h
    · cases h
      exact Nat.succ_pos _
    · obtain ⟨j, hj, rfl⟩ := Option.map_eq_some_iff.mp h
      exact Nat.succ_lt_succ (ih hj)

lemma position_le [BEq α] [LawfulBEq α] {needle : List α} (h : position needle data = some i) :
    i + needle.length ≤ data.length := by
  obtain ⟨t, ht⟩ := position_spec h
  have hlt := position_lt h
  have hlen := congrArg List.length ht
  rw [List.length_drop, List.length_append] at hlen
  omega

/-- `needle` is at `i`, and nowhere before. -/
def FirstAt (needle data : List α) (i : ℕ) : Prop :=
  needle <+: data.drop i ∧ ∀ j < i, ¬ needle <+: data.drop j

lemma FirstAt.unique {needle : List α} {j : ℕ} (hi : FirstAt needle data i)
    (hj : FirstAt needle data j) : i = j := by
  rcases Nat.lt_trichotomy i j with hlt | heq | hlt
  · exact absurd hi.1 (hj.2 i hlt)
  · exact heq
  · exact absurd hj.1 (hi.2 j hlt)

lemma FirstAt.le_length {needle : List α} (h : FirstAt needle data i) (hne : needle ≠ []) :
    i + needle.length ≤ data.length := by
  have hfits := h.1.length_le
  have hpos := List.length_pos_iff.mpr hne
  rw [List.length_drop] at hfits
  omega

lemma exists_firstAt {needle : List α} {j : ℕ} (h : needle <+: data.drop j) :
    ∃ i ≤ j, FirstAt needle data i := by
  classical
  have hex : ∃ i, needle <+: data.drop i := ⟨j, h⟩
  exact ⟨Nat.find hex, Nat.find_min' hex h, Nat.find_spec hex, fun _ hlt => Nat.find_min hex hlt⟩

lemma position_eq_some_iff [BEq α] [LawfulBEq α] {needle : List α} (hne : needle ≠ []) :
    position needle data = some i ↔ FirstAt needle data i := by
  induction data generalizing i with
  | nil =>
    refine iff_of_false (fun h => by cases h) fun h => ?_
    have hnil := h.1
    rw [List.drop_nil, List.prefix_nil] at hnil
    exact hne hnil
  | cons x xs ih =>
    unfold position
    split
    · rename_i hp
      have hlead : needle <+: (x :: xs).drop 0 := List.isPrefixOf_iff_prefix.mp hp
      have hfirst : FirstAt needle (x :: xs) 0 := ⟨hlead, fun j hj => absurd hj (by omega)⟩
      rw [Option.some_inj]
      exact ⟨fun h => h ▸ hfirst, hfirst.unique⟩
    · rename_i hp
      have hlead : ¬ needle <+: (x :: xs).drop 0 := fun h => hp (List.isPrefixOf_iff_prefix.mpr h)
      rw [Option.map_eq_some_iff]
      refine ⟨?_, fun ⟨hat, hbefore⟩ => ?_⟩
      · rintro ⟨j, hj, rfl⟩
        obtain ⟨hat, hbefore⟩ := ih.mp hj
        refine ⟨hat, fun m hm => ?_⟩
        obtain _ | m := m
        · exact hlead
        · exact hbefore m (by omega)
      · obtain _ | i := i
        · exact absurd hat hlead
        · exact ⟨i, ih.mpr ⟨hat, fun m hm => hbefore (m + 1) (by omega)⟩, rfl⟩

end Slice

/-! ### Machine integers -/

/-- The value of a big-endian byte string. -/
def beNat (b : Bytes) : ℕ := b.foldl (fun acc x => acc * 256 + x.toNat) 0

/-- The `len` bytes of `n`, most significant first. -/
def beBytes : (len n : ℕ) → Bytes
  | 0, _ => []
  | len + 1, n => beBytes len (n / 256) ++ [UInt8.ofNat n]

@[simp] lemma beBytes_length (len n : ℕ) : (beBytes len n).length = len := by
  induction len generalizing n with
  | zero => rfl
  | succ len ih => simp [beBytes, ih]

/-- `u16::from_be_bytes`. -/
def u16FromBeBytes (b : ArrayN UInt8 2) : UInt16 := UInt16.ofNat (beNat b.toList)

/-- `u32::from_be_bytes`. -/
def u32FromBeBytes (b : ArrayN UInt8 4) : UInt32 := UInt32.ofNat (beNat b.toList)

/-- `a.checked_add(b)` on a 64-bit `usize`. -/
def checkedAdd (a b : ℕ) : Option ℕ := if a + b < 2 ^ 64 then some (a + b) else none

@[simp] lemma checkedAdd_eq_some {a b c : ℕ} :
    checkedAdd a b = some c ↔ a + b < 2 ^ 64 ∧ a + b = c := by
  unfold checkedAdd; split <;> simp_all

/-- `i64::try_from(i).ok()`. -/
def i64TryFrom (i : ℤ) : Option ℤ := if -2 ^ 63 ≤ i ∧ i < 2 ^ 63 then some i else none

/-- `{n:0wX}`: upper-case hexadecimal, padded with zeros to `w` digits. -/
def hexUpper (w n : ℕ) : String :=
  let ds := (Nat.toDigits 16 n).map Char.toUpper
  String.ofList (List.replicate (w - ds.length) '0' ++ ds)

end Caden
