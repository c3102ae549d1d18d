import Mathlib.Data.Nat.Log
import Mathlib.Tactic.Ring
import Caden.Lib.Slice

/-!
The value of a big-endian byte string: how it splits, how large it is, when two byte strings
have the same value, and the byte string of a given value.
-/

namespace Caden

variable {a b : Bytes} {x : UInt8} {n v : ℕ}

/-! ### The value -/

@[simp] lemma beNat_nil : beNat [] = 0 := rfl

lemma foldl_beNat (b : Bytes) (acc : ℕ) :
    b.foldl (fun acc x => acc * 256 + x.toNat) acc = acc * 256 ^ b.length + beNat b := by
  induction b generalizing acc with
  | nil => simp
  | cons x t ih =>
    rw [beNat, List.foldl_cons, List.foldl_cons, ih, ih (0 * 256 + _), List.length_cons, pow_succ]
    ring

lemma beNat_append (a b : Bytes) : beNat (a ++ b) = beNat a * 256 ^ b.length + beNat b := by
  rw [beNat, List.foldl_append, foldl_beNat]
  rfl

lemma beNat_cons (x : UInt8) (b : Bytes) :
    beNat (x :: b) = x.toNat * 256 ^ b.length + beNat b := by
  rw [beNat, List.foldl_cons, foldl_beNat, Nat.zero_mul, Nat.zero_add]

@[simp] lemma beNat_zero_cons (b : Bytes) : beNat (0 :: b) = beNat b := by
  rw [beNat_cons]
  simp

lemma beNat_lt (b : Bytes) : beNat b < 256 ^ b.length := by
  induction b with
  | nil => simp
  | cons x t ih =>
    have hx : x.toNat < 256 := x.toNat_lt
    rw [beNat_cons, List.length_cons, pow_succ']
    calc x.toNat * 256 ^ t.length + beNat t
        < x.toNat * 256 ^ t.length + 1 * 256 ^ t.length := by omega
      _ = (x.toNat + 1) * 256 ^ t.length := by ring
      _ ≤ 256 * 256 ^ t.length := Nat.mul_le_mul_right _ hx

lemma le_beNat_cons (x : UInt8) (b : Bytes) : x.toNat * 256 ^ b.length ≤ beNat (x :: b) := by
  rw [beNat_cons]
  omega

lemma pow_le_beNat_cons (hx : x ≠ 0) (b : Bytes) : 256 ^ b.length ≤ beNat (x :: b) := by
  have hpos : 1 ≤ x.toNat := by
    rw [Nat.one_le_iff_ne_zero]
    exact fun h => hx (UInt8.toNat_inj.mp h)
  exact (Nat.le_mul_of_pos_left _ hpos).trans (le_beNat_cons x b)

lemma beNat_cons_eq_zero : beNat (x :: b) = 0 ↔ x = 0 ∧ beNat b = 0 := by
  by_cases hx : x = 0
  · rw [hx, beNat_zero_cons, and_iff_right rfl]
  · have hle := pow_le_beNat_cons hx b
    have hpos : 0 < 256 ^ b.length := Nat.pow_pos (by decide)
    exact iff_of_false (by omega) fun h => hx h.1

lemma beNat_injective (hlen : a.length = b.length) (h : beNat a = beNat b) : a = b := by
  induction a generalizing b with
  | nil => exact (List.length_eq_zero_iff.mp hlen.symm).symm
  | cons x s ih =>
    obtain _ | ⟨y, t⟩ := b
    · cases hlen
    · have hst : s.length = t.length := by simpa using hlen
      have hs := beNat_lt s
      have ht := beNat_lt t
      rw [beNat_cons, beNat_cons, ← hst] at h
      rw [← hst] at ht
      have hxy : x.toNat = y.toNat := by
        have hdiv := congrArg (· / 256 ^ s.length) h
        have hpos : 0 < 256 ^ s.length := Nat.pow_pos (by decide)
        simpa only [Nat.add_comm, Nat.add_mul_div_right _ _ hpos, Nat.div_eq_of_lt hs,
          Nat.div_eq_of_lt ht, Nat.zero_add] using hdiv
      rw [hxy] at h
      rw [UInt8.toNat_inj.mp hxy, ih hst (by omega)]

/-! ### Leading zeros -/

/-- The bytes from the first one that is not zero. -/
def stripZeros (b : Bytes) : Bytes := b.drop (b.findIdx (· != 0))

@[simp] lemma stripZeros_nil : stripZeros [] = [] := rfl

@[simp] lemma stripZeros_zero_cons (b : Bytes) : stripZeros (0 :: b) = stripZeros b := by
  simp [stripZeros, List.findIdx_cons]

lemma stripZeros_cons (hx : x ≠ 0) (b : Bytes) : stripZeros (x :: b) = x :: b := by
  have hne : (x != 0) = true := by simpa using hx
  rw [stripZeros, List.findIdx_cons, hne]
  rfl

@[simp] lemma beNat_stripZeros (b : Bytes) : beNat (stripZeros b) = beNat b := by
  induction b with
  | nil => rfl
  | cons x t ih =>
    by_cases hx : x = 0
    · rw [hx, stripZeros_zero_cons, ih, beNat_zero_cons]
    · rw [stripZeros_cons hx]

lemma length_stripZeros_le (h : beNat a = beNat b) :
    (stripZeros a).length ≤ (stripZeros b).length := by
  rw [← beNat_stripZeros a, ← beNat_stripZeros b] at h
  have hb := beNat_lt (stripZeros b)
  have ha : stripZeros a = [] ∨ 256 ^ ((stripZeros a).length - 1) ≤ beNat (stripZeros a) := by
    clear h hb
    induction a with
    | nil => exact Or.inl rfl
    | cons x t ih =>
      by_cases hx : x = 0
      · rwa [hx, stripZeros_zero_cons]
      · rw [stripZeros_cons hx]
        exact Or.inr (pow_le_beNat_cons hx t)
  rcases ha with ha | ha
  · rw [ha]
    exact Nat.zero_le _
  · have hlt : 256 ^ ((stripZeros a).length - 1) < 256 ^ (stripZeros b).length := by omega
    have := (Nat.pow_lt_pow_iff_right (by decide : 1 < 256)).mp hlt
    omega

lemma stripZeros_eq_iff : stripZeros a = stripZeros b ↔ beNat a = beNat b := by
  refine ⟨fun h => ?_, fun h => ?_⟩
  · rw [← beNat_stripZeros a, h, beNat_stripZeros]
  · refine beNat_injective ?_ (by rw [beNat_stripZeros, beNat_stripZeros, h])
    exact le_antisymm (length_stripZeros_le h) (length_stripZeros_le h.symm)

/-! ### The byte string of a value -/

lemma beNat_beBytes (len n : ℕ) (h : n < 256 ^ len) : beNat (beBytes len n) = n := by
  induction len generalizing n with
  | zero =>
    have hn : n = 0 := by simpa using h
    rw [hn]
    rfl
  | succ len ih =>
    rw [pow_succ] at h
    have hlow : (UInt8.ofNat n).toNat = n % 256 := UInt8.toNat_ofNat'
    rw [beBytes, beNat_append, ih _ (Nat.div_lt_of_lt_mul (by omega)), beNat_cons, hlow]
    simp only [List.length_cons, List.length_nil, beNat_nil]
    omega

lemma beBytes_beNat (b : Bytes) : beBytes b.length (beNat b) = b :=
  beNat_injective (beBytes_length _ _) (beNat_beBytes _ _ (beNat_lt b))

lemma beBytes_mod (len n : ℕ) : beBytes len (n % 256 ^ len) = beBytes len n := by
  induction len generalizing n with
  | zero => rfl
  | succ len ih =>
    have hdiv : n % 256 ^ (len + 1) / 256 = n / 256 % 256 ^ len := by
      rw [pow_succ', Nat.mod_mul_right_div_self]
    have hlow : UInt8.ofNat (n % 256 ^ (len + 1)) = UInt8.ofNat n := by
      refine UInt8.toNat_inj.mp ?_
      rw [UInt8.toNat_ofNat', UInt8.toNat_ofNat', pow_succ']
      exact Nat.mod_mul_right_mod _ _ _
    rw [beBytes, hdiv, ih, hlow, beBytes]

lemma beNat_beBytes_mod (len n : ℕ) : beNat (beBytes len n) = n % 256 ^ len := by
  rw [← beBytes_mod, beNat_beBytes _ _ (Nat.mod_lt _ (Nat.pow_pos (by decide)))]

lemma beBytes_succ (len n : ℕ) :
    beBytes (len + 1) n = UInt8.ofNat (n / 256 ^ len) :: beBytes len n := by
  induction len generalizing n with
  | zero => simp [beBytes]
  | succ len ih =>
    rw [beBytes, ih, Nat.div_div_eq_div_mul, ← pow_succ']
    rfl

lemma ofNat_eq_zero : UInt8.ofNat n = 0 ↔ n % 256 = 0 := by
  rw [← UInt8.toNat_inj, UInt8.toNat_ofNat']
  rfl

lemma toNat_u16FromBeBytes (b : ArrayN UInt8 2) : (u16FromBeBytes b).toNat = beNat b.toList := by
  have h := beNat_lt b.toList
  rw [b.toList_length] at h
  rw [u16FromBeBytes, UInt16.toNat_ofNat']
  exact Nat.mod_eq_of_lt h

lemma toNat_u32FromBeBytes (b : ArrayN UInt8 4) : (u32FromBeBytes b).toNat = beNat b.toList := by
  have h := beNat_lt b.toList
  rw [b.toList_length] at h
  rw [u32FromBeBytes, UInt32.toNat_ofNat']
  exact Nat.mod_eq_of_lt h

end Caden
