import Caden.Lib.BigEndian
import Caden.Tpm

/-!
What the readers of the structures of a TPM read: a piece of the buffer at the cursor, and the
cursor moves behind it.
-/

namespace Caden.TpmFormat

open CertBytes (invalid)
open Tpm

variable {data s t : Bytes} {pos stop n w : ℕ} {what : String}

/-! ### Pieces of a buffer -/

/-- A buffer after its length on two bytes. -/
structure Sized where
  bytes : Bytes
  bound : bytes.length < 2 ^ 16

namespace Sized

/-- The length field. -/
def size (b : Sized) : ArrayN UInt8 2 := ⟨beBytes 2 b.bytes.length, beBytes_length _ _⟩

def encode (b : Sized) : Bytes := b.size.toList ++ b.bytes

@[simp] lemma length_encode (b : Sized) : b.encode.length = 2 + b.bytes.length := by
  simp [encode]

lemma beNat_size (b : Sized) : beNat b.size.toList = b.bytes.length :=
  beNat_beBytes _ _ b.bound

lemma size_eq {size : ArrayN UInt8 2} {b : Sized} (h : b.bytes.length = beNat size.toList) :
    b.size = size := by
  refine List.Vector.toList_injective (beNat_injective (by simp) ?_)
  rw [b.beNat_size, h]

lemma unique {a b : Sized} (h : a.encode ++ s = b.encode ++ t) : a = b ∧ s = t := by
  rw [encode, encode, List.append_assoc, List.append_assoc] at h
  obtain ⟨hsize, hrest⟩ := List.append_inj h (by simp)
  have hlen : a.bytes.length = b.bytes.length := by rw [← a.beNat_size, hsize, b.beNat_size]
  obtain ⟨hbytes, rfl⟩ := List.append_inj hrest hlen
  obtain ⟨a, _⟩ := a
  obtain rfl : a = b.bytes := hbytes
  exact ⟨rfl, rfl⟩

end Sized

lemma array_unique {a b : ArrayN UInt8 n} (h : a.toList ++ s = b.toList ++ t) :
    a = b ∧ s = t := by
  obtain ⟨hab, rfl⟩ := List.append_inj h (by simp)
  exact ⟨List.Vector.toList_injective hab, rfl⟩

lemma drop_piece (h : data.drop pos = s ++ t) (hn : s.length = n) : data.drop (pos + n) = t := by
  rw [← List.drop_drop, h, ← hn, List.drop_left]

/-! ### The readers -/

lemma readArray_eq_ok (hn : 0 < n) {bytes : ArrayN UInt8 n} :
    readArray n what data pos = .ok (bytes, stop) ↔
      pos + n < 2 ^ 64 ∧ (∃ rest, data.drop pos = bytes.toList ++ rest) ∧ stop = pos + n := by
  simp only [readArray, Outcome.bind_eq_ok, Outcome.okOr_eq_ok, checkedAdd_eq_some,
    Slice.get_eq_some, Outcome.expect_eq_ok, Slice.tryInto_eq_some, Outcome.pure_eq,
    Outcome.ok.injEq, Prod.mk.injEq]
  refine ⟨?_, ?_⟩
  · rintro ⟨_, ⟨hlt, rfl⟩, _, ⟨⟨-, hle⟩, rfl⟩, _, hb, rfl, rfl⟩
    rw [Nat.add_sub_cancel_left] at hb
    exact ⟨hlt, ⟨(data.drop pos).drop n, by rw [← hb, List.take_append_drop]⟩, rfl⟩
  · rintro ⟨hlt, ⟨rest, hdrop⟩, rfl⟩
    have hlen := congrArg List.length hdrop
    rw [List.length_drop, List.length_append, bytes.toList_length] at hlen
    refine ⟨_, ⟨hlt, rfl⟩, _, ⟨⟨by omega, by omega⟩, rfl⟩, bytes, ?_, rfl, rfl⟩
    rw [Nat.add_sub_cancel_left, hdrop, List.take_left' bytes.toList_length]

lemma readArray_map_eq_ok {α : Type} {f : ArrayN UInt8 n → α} {v : α} (hn : 0 < n) :
    (do
      let (bytes, stop) ← readArray n what data pos
      return (f bytes, stop)) = .ok (v, stop) ↔
    pos + n < 2 ^ 64 ∧ ∃ (b : ArrayN UInt8 n) (rest : Bytes), data.drop pos = b.toList ++ rest ∧
      v = f b ∧ stop = pos + n := by
  simp only [Outcome.bind_eq_ok, Prod.exists, readArray_eq_ok hn, Outcome.pure_eq,
    Outcome.ok.injEq, Prod.mk.injEq]
  refine ⟨?_, ?_⟩
  · rintro ⟨b, _, ⟨hlt, ⟨rest, hdrop⟩, rfl⟩, rfl, rfl⟩
    exact ⟨hlt, b, rest, hdrop, rfl, rfl⟩
  · rintro ⟨hlt, b, rest, hdrop, rfl, rfl⟩
    exact ⟨b, _, ⟨hlt, ⟨rest, hdrop⟩, rfl⟩, rfl, rfl⟩

lemma tpmReadU16Be_eq_ok {v : UInt16} : tpmReadU16Be data pos = .ok (v, stop) ↔
    pos + 2 < 2 ^ 64 ∧ ∃ (b : ArrayN UInt8 2) (rest : Bytes), data.drop pos = b.toList ++ rest ∧
      v = u16FromBeBytes b ∧ stop = pos + 2 :=
  readArray_map_eq_ok (by decide)

lemma tpmReadU32Be_eq_ok {v : UInt32} : tpmReadU32Be data pos = .ok (v, stop) ↔
    pos + 4 < 2 ^ 64 ∧ ∃ (b : ArrayN UInt8 4) (rest : Bytes), data.drop pos = b.toList ++ rest ∧
      v = u32FromBeBytes b ∧ stop = pos + 4 :=
  readArray_map_eq_ok (by decide)

lemma tpmSkip_eq_ok : tpmSkip data pos n = .ok stop ↔
    pos + n < 2 ^ 64 ∧ pos + n ≤ data.length ∧ stop = pos + n := by
  simp only [tpmSkip, Outcome.bind_eq_ok, Outcome.okOr_eq_ok, checkedAdd_eq_some,
    Outcome.rejectIf_eq_ok, exists_const, Outcome.pure_eq, Outcome.ok.injEq, not_lt, gt_iff_lt]
  refine ⟨?_, ?_⟩
  · rintro ⟨_, ⟨hlt, rfl⟩, hle, rfl⟩
    exact ⟨hlt, hle, rfl⟩
  · rintro ⟨hlt, hle, rfl⟩
    exact ⟨_, ⟨hlt, rfl⟩, hle, rfl⟩

lemma tpmReadBlob_returns {b : Bytes} (h : tpmReadBlob data pos = .ok (b, stop)) :
    ∃ (z : Sized) (rest : Bytes),
      data.drop pos = z.encode ++ rest ∧ b = z.bytes ∧ stop = pos + z.encode.length := by
  simp only [tpmReadBlob, Outcome.bind_eq_ok, Prod.exists, tpmReadU16Be_eq_ok,
    Outcome.okOr_eq_ok, checkedAdd_eq_some, Slice.get_eq_some, Outcome.pure_eq,
    Outcome.ok.injEq, Prod.mk.injEq] at h
  obtain ⟨_, _, ⟨-, size, rest, hdrop, rfl, rfl⟩, _, ⟨-, rfl⟩, _, ⟨⟨-, hle⟩, rfl⟩, rfl, rfl⟩ := h
  have hbody := drop_piece hdrop size.toList_length
  have hsize := toNat_u16FromBeBytes size
  have hbound := (u16FromBeBytes size).toNat_lt
  rw [Nat.add_sub_cancel_left, hbody, hsize]
  rw [hsize] at hle hbound
  have hlen : (rest.take (beNat size.toList)).length = beNat size.toList := by
    rw [List.length_take, ← hbody, List.length_drop]
    omega
  set z : Sized := ⟨rest.take (beNat size.toList), hlen.trans_lt hbound⟩ with hz
  refine ⟨z, rest.drop (beNat size.toList), ?_, rfl, ?_⟩
  · rw [Sized.encode, Sized.size_eq (b := z) hlen, hdrop, List.append_assoc, hz,
      List.take_append_drop]
  · rw [Sized.length_encode, hz]
    simp only [hlen]
    omega

lemma tpmReadBlob_of_drop {z : Sized} (hlt : pos + z.encode.length < 2 ^ 64)
    (hdrop : data.drop pos = z.encode ++ t) :
    tpmReadBlob data pos = .ok (z.bytes, pos + z.encode.length) := by
  simp only [tpmReadBlob, Outcome.bind_eq_ok, Prod.exists, tpmReadU16Be_eq_ok,
    Outcome.okOr_eq_ok, checkedAdd_eq_some, Slice.get_eq_some, Outcome.pure_eq,
    Outcome.ok.injEq, Prod.mk.injEq]
  rw [Sized.length_encode] at hlt
  rw [Sized.encode, List.append_assoc] at hdrop
  have hbody := drop_piece hdrop z.size.toList_length
  have hsize : (u16FromBeBytes z.size).toNat = z.bytes.length := by
    rw [toNat_u16FromBeBytes, z.beNat_size]
  have hlen := congrArg List.length hdrop
  simp only [List.length_drop, List.length_append, List.Vector.toList_length] at hlen
  refine ⟨_, _, ⟨by omega, z.size, _, hdrop, rfl, rfl⟩, _, ⟨?_, rfl⟩, _, ⟨⟨?_, ?_⟩, rfl⟩, ?_, ?_⟩
  · omega
  · omega
  · omega
  · rw [hsize, Nat.add_sub_cancel_left, hbody, List.take_left]
  · rw [hsize, Sized.length_encode, Nat.add_assoc]

/-- **A blob is what its length says.** -/
lemma tpmReadBlob_eq_ok (hpos : pos < 2 ^ 63) {b : Bytes} :
    tpmReadBlob data pos = .ok (b, stop) ↔ ∃ (z : Sized) (rest : Bytes),
      data.drop pos = z.encode ++ rest ∧ b = z.bytes ∧ stop = pos + z.encode.length := by
  refine ⟨tpmReadBlob_returns, ?_⟩
  rintro ⟨z, rest, hdrop, rfl, rfl⟩
  have hbound := z.bound
  have hlen := z.length_encode
  exact tpmReadBlob_of_drop (by omega) hdrop

lemma u16At_eq (h : data.drop pos = s ++ t) (b : ArrayN UInt8 2) (hb : s = b.toList) :
    u16At data pos = .ok (u16FromBeBytes b) := by
  obtain ⟨high, low, rfl⟩ := Slice.exists_pair b
  subst hb
  have hhigh := congrArg (·[0]?) h
  have hlow := congrArg (·[1]?) h
  simp only [List.getElem?_drop, Nat.add_zero, Slice.pair_toList] at hhigh hlow
  simp only [u16At, Slice.index, hhigh, hlow]
  rfl

lemma u16FromBeBytes_inj {a b : ArrayN UInt8 2} : u16FromBeBytes a = u16FromBeBytes b ↔ a = b := by
  refine ⟨fun h => ?_, fun h => by rw [h]⟩
  have hnat := congrArg UInt16.toNat h
  rw [toNat_u16FromBeBytes, toNat_u16FromBeBytes] at hnat
  exact List.Vector.toList_injective (beNat_injective (by simp) hnat)

lemma exists_piece (pos n : ℕ) (h : pos + n ≤ s.length) :
    ∃ a : ArrayN UInt8 n, s.drop pos = a.toList ++ s.drop (pos + n) := by
  refine ⟨⟨(s.drop pos).take n, ?_⟩, ?_⟩
  · rw [List.length_take, List.length_drop]
    omega
  · rw [← List.drop_drop]
    exact (List.take_append_drop n _).symm

end Caden.TpmFormat
