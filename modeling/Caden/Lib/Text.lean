import Caden.Lib.Slice

/-!
Strings, as sequences of characters that have byte offsets.

A string is sliced by byte offsets, and slicing panics when an offset falls inside a
character. Lengths are counted in bytes, filters work on characters, so the two agree on
ASCII strings only.
-/

namespace Caden.Text

variable {ε : Type}

/-- `s.as_bytes()`. -/
def asBytes (s : String) : Bytes := s.toList.flatMap String.utf8EncodeChar

/-- `std::str::from_utf8(b).ok()`. -/
def fromUtf8 (b : Bytes) : Option String := String.fromUTF8? ⟨b.toArray⟩

lemma asBytes_append (s t : String) : asBytes (s ++ t) = asBytes s ++ asBytes t := by
  simp [asBytes]

lemma fromUtf8_asBytes (s : String) : fromUtf8 (asBytes s) = some s := by
  have hb : (⟨(asBytes s).toArray⟩ : ByteArray) = s.toByteArray := by
    rw [← String.utf8Encode_toList]
    refine ByteArray.ext ?_
    simp [List.utf8Encode, asBytes]
  rw [fromUtf8, hb, String.fromUTF8?, dif_pos s.isValidUTF8]
  rfl

lemma asBytes_ne_nil {s : String} (h : s ≠ "") : asBytes s ≠ [] := by
  intro hs
  have hs' := fromUtf8_asBytes s
  rw [hs] at hs'
  exact h (Option.some.inj (hs'.symm.trans (fromUtf8_asBytes "")))

/-! ### Splitting at a separator -/

/-- `s.split(c).collect::<Vec<_>>()`. -/
def split (c : Char) (s : String) : List String := (s.toList.splitOn c).map String.ofList

lemma not_mem_of_mem_splitOn {c : Char} {s l : List Char} (h : l ∈ s.splitOn c) : c ∉ l := by
  induction s generalizing l with
  | nil => simp_all [List.splitOn_nil]
  | cons x s ih =>
    rw [List.splitOn_cons_eq_if_modifyHead] at h
    split at h
    · rcases List.mem_cons.mp h with rfl | h
      · simp
      · exact ih h
    · rename_i hx
      rcases hs : s.splitOn c with _ | ⟨y, ys⟩
      · exact absurd hs (List.splitOn_ne_nil c s)
      · rw [hs, List.modifyHead_cons] at h
        rcases List.mem_cons.mp h with rfl | h
        · have hy : c ∉ y := ih (by simp [hs])
          have hne : c ≠ x := fun e => hx (by simp [e])
          simp [hy, hne]
        · exact ih (by simp [hs, h])

lemma split_eq_three {c : Char} {s a b d : String} :
    split c s = [a, b, d] ↔ s = a ++ c.toString ++ b ++ c.toString ++ d ∧
      c ∉ a.toList ∧ c ∉ b.toList ∧ c ∉ d.toList := by
  have hmap : split c s = [a, b, d] ↔ s.toList.splitOn c = [a.toList, b.toList, d.toList] := by
    refine ⟨?_, ?_⟩
    · intro h
      simpa [split, Function.comp_def] using congrArg (List.map String.toList) h
    · intro h
      simp [split, h]
  have hjoin : s = a ++ c.toString ++ b ++ c.toString ++ d ↔
      s.toList = [c].intercalate [a.toList, b.toList, d.toList] := by
    rw [← String.toList_inj]
    simp [List.intercalate, List.intersperse, Char.toString]
  rw [hmap, hjoin]
  refine ⟨?_, ?_⟩
  · intro h
    have hfree : ∀ l ∈ s.toList.splitOn c, c ∉ l := fun l hl => not_mem_of_mem_splitOn hl
    rw [h] at hfree
    exact ⟨by rw [← h, List.intercalate_splitOn], hfree _ (by simp), hfree _ (by simp),
      hfree _ (by simp)⟩
  · rintro ⟨h, ha, hb, hd⟩
    rw [h]
    exact List.splitOn_intercalate c (by simp [ha, hb, hd]) (by simp)

/-! ### Byte offsets -/

/-- `s.len()`: the length in bytes. -/
def byteLen : List Char → ℕ
  | [] => 0
  | c :: s => c.utf8Size + byteLen s

@[simp] lemma byteLen_nil : byteLen [] = 0 := rfl
@[simp] lemma byteLen_cons (c : Char) (s : List Char) :
    byteLen (c :: s) = c.utf8Size + byteLen s := rfl

/-- The characters before and after byte offset `n`, if it is a character boundary. -/
def splitAtByte : List Char → ℕ → Option (List Char × List Char)
  | s, 0 => some ([], s)
  | [], _ + 1 => none
  | c :: s, n + 1 =>
    if c.utf8Size ≤ n + 1 then
      (splitAtByte s (n + 1 - c.utf8Size)).map fun p => (c :: p.1, p.2)
    else none

lemma splitAtByte_zero (s : List Char) : splitAtByte s 0 = some ([], s) := by
  cases s <;> rfl

lemma splitAtByte_eq_some {s a b : List Char} {n : ℕ} :
    splitAtByte s n = some (a, b) ↔ s = a ++ b ∧ byteLen a = n := by
  induction s generalizing a n with
  | nil => cases n <;> simp_all [splitAtByte]
  | cons c s ih =>
    rcases n with _ | n
    · rw [splitAtByte_zero]
      refine ⟨?_, ?_⟩
      · intro h; cases h; simp
      · rintro ⟨h, h0⟩
        rcases a with _ | ⟨d, a⟩
        · simpa using h
        · have := d.utf8Size_pos
          simp at h0
          omega
    · unfold splitAtByte
      refine ⟨?_, ?_⟩
      · intro h
        split at h
        · rename_i hle
          obtain ⟨⟨p, q⟩, hp, hpq⟩ := Option.map_eq_some_iff.mp h
          cases hpq
          obtain ⟨rfl, hlen⟩ := ih.mp hp
          refine ⟨rfl, ?_⟩
          simp only [byteLen_cons, hlen]
          omega
        · simp at h
      · rintro ⟨h, hlen⟩
        rcases a with _ | ⟨d, a⟩
        · simp at hlen
        · obtain ⟨rfl, rfl⟩ : c = d ∧ s = a ++ b := by simpa using h
          rw [byteLen_cons] at hlen
          rw [if_pos (by omega), ih.mpr ⟨rfl, by omega⟩]
          rfl

/-- `&s[lo..hi]`. -/
def slice (s : List Char) (lo hi : ℕ) : Outcome ε (List Char) :=
  if lo ≤ hi then do
    let p ← Outcome.expect (splitAtByte s lo)
    let q ← Outcome.expect (splitAtByte p.2 (hi - lo))
    return q.1
  else .panic

lemma splitAtByte_append (a s : List Char) (n : ℕ) :
    splitAtByte (a ++ s) (byteLen a + n) =
      (splitAtByte s n).map fun p => (a ++ p.1, p.2) := by
  induction a with
  | nil => simp
  | cons c a ih =>
    have hpos := c.utf8Size_pos
    obtain ⟨k, hk⟩ : ∃ k, byteLen (c :: a) + n = k + 1 :=
      ⟨byteLen (c :: a) + n - 1, by rw [byteLen_cons]; omega⟩
    rw [hk, List.cons_append, splitAtByte, if_pos (by rw [byteLen_cons] at hk; omega)]
    have hrest : k + 1 - c.utf8Size = byteLen a + n := by rw [byteLen_cons] at hk; omega
    rw [hrest, ih]
    simp [Option.map_map, Function.comp_def]

lemma slice_append (a s : List Char) (lo hi : ℕ) :
    (slice (a ++ s) (byteLen a + lo) (byteLen a + hi) : Outcome ε (List Char)) =
      slice s lo hi := by
  unfold slice
  by_cases h : lo ≤ hi
  · rw [if_pos h, if_pos (by omega), splitAtByte_append,
      show byteLen a + hi - (byteLen a + lo) = hi - lo by omega]
    rcases splitAtByte s lo with _ | p <;> rfl
  · rw [if_neg h, if_neg (by omega)]

lemma slice_zero (s : List Char) (n : ℕ) :
    (slice s 0 n : Outcome ε (List Char)) =
      Outcome.expect ((splitAtByte s n).map Prod.fst) := by
  unfold slice
  rw [if_pos (Nat.zero_le n), splitAtByte_zero]
  simp only [Outcome.expect, Outcome.ok_bind, Nat.sub_zero]
  rcases splitAtByte s n with _ | p <;> rfl

/-! ### Numbers -/

/-- `c.to_digit(16)`. -/
def hexDigit (c : Char) : Option ℕ :=
  if '0' ≤ c ∧ c ≤ '9' then some (c.toNat - '0'.toNat)
  else if 'a' ≤ c ∧ c ≤ 'f' then some (c.toNat - 'a'.toNat + 10)
  else if 'A' ≤ c ∧ c ≤ 'F' then some (c.toNat - 'A'.toNat + 10)
  else none

def hexValue (s : List Char) : Option ℕ :=
  s.foldlM (fun acc c => (hexDigit c).map (acc * 16 + ·)) 0

/-- The digits of a `u8`; a value that does not fit is an error. -/
def hexU8 (s : List Char) : Option UInt8 :=
  (hexValue s).bind fun v => if v < 256 then some (UInt8.ofNat v) else none

/-- `u8::from_str_radix(s, 16).ok()`: a sign alone is an error, a leading plus is allowed. -/
def u8FromStrRadix16 : List Char → Option UInt8
  | [] => none
  | ['+'] => none
  | ['-'] => none
  | '+' :: s => hexU8 s
  | s => hexU8 s

lemma hexDigit_ascii {c : Char} {d : ℕ} (h : hexDigit c = some d) : c.utf8Size = 1 := by
  have hle : c.toNat ≤ 127 := by
    unfold hexDigit at h
    split_ifs at h with h1 h2 h3
    · exact (Char.le_def.mp h1.2).trans (by decide)
    · exact (Char.le_def.mp h2.2).trans (by decide)
    · exact (Char.le_def.mp h3.2).trans (by decide)
  exact Char.utf8Size_eq_one_iff.mpr (UInt32.le_iff_toNat_le.mpr hle)

lemma hexU8_ascii {s : List Char} {v : UInt8} (h : hexU8 s = some v) :
    ∀ c ∈ s, c.utf8Size = 1 := by
  obtain ⟨n, hn, -⟩ := Option.bind_eq_some_iff.mp h
  have hfold : ∀ (s : List Char) (acc n : ℕ),
      s.foldlM (fun acc c => (hexDigit c).map (acc * 16 + ·)) acc = some n →
        ∀ c ∈ s, c.utf8Size = 1 := by
    intro s
    induction s with
    | nil => simp
    | cons c s ih =>
      intro acc n h
      rw [List.foldlM_cons] at h
      obtain ⟨m, hm, hrest⟩ := Option.bind_eq_some_iff.mp h
      obtain ⟨d, hd, -⟩ := Option.map_eq_some_iff.mp hm
      intro b hb
      rcases List.mem_cons.mp hb with rfl | hb
      · exact hexDigit_ascii hd
      · exact ih m n hrest b hb
  exact hfold s 0 n hn

lemma u8FromStrRadix16_ascii {s : List Char} {v : UInt8} (h : u8FromStrRadix16 s = some v) :
    ∀ c ∈ s, c.utf8Size = 1 := by
  unfold u8FromStrRadix16 at h
  split at h
  · simp at h
  · simp at h
  · simp at h
  · intro c hc
    rcases List.mem_cons.mp hc with rfl | hc
    · rfl
    · exact hexU8_ascii h c hc
  · exact hexU8_ascii h

end Caden.Text
