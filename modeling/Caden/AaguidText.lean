import Caden.MetadataSafety

/-!
Which texts are read as the identifier of an authenticator model.

After the hyphens are dropped, each piece of two characters is read as a number in base 16. That
reading also takes a plus sign and one digit, which is not hexadecimal text.
-/

namespace Caden.Metadata

open AuthData (Aaguid)
open Text (hexDigit hexU8 u8FromStrRadix16)

/-! ### Hexadecimal text -/

/-- `c` is the digit with the value `n`, in either case. -/
def IsHexDigit (c : Char) (n : ℕ) : Prop :=
  "0123456789abcdef".toList[n]? = some c ∨ "0123456789ABCDEF".toList[n]? = some c

instance (c : Char) (n : ℕ) : Decidable (IsHexDigit c n) :=
  inferInstanceAs (Decidable (_ ∨ _))

/-- `hex` is two digits for each of `bytes`, the high one first. -/
inductive Hexadecimal : (hex : List Char) → (bytes : Bytes) → Prop
  | nil : Hexadecimal [] []
  | cons {c d : Char} {high low : ℕ} {hex : List Char} {bytes : Bytes}
      (hc : IsHexDigit c high) (hd : IsHexDigit d low) (h : Hexadecimal hex bytes) :
      Hexadecimal (c :: d :: hex) (UInt8.ofNat (high * 16 + low) :: bytes)

/-- The text is read as an identifier exactly when it is one without its hyphens. -/
def Recognised (s : String) : Prop :=
  ∀ aaguid, parseAaguid s = .ok aaguid ↔ Hexadecimal (dropHyphens s) aaguid.toList

/-- Pairs of digits, and pairs of a plus sign and a digit. -/
inductive SignedPairs : (hex : List Char) → (pairs : ℕ) → Prop
  | nil : SignedPairs [] 0
  | digits {c d : Char} {high low n : ℕ} {hex : List Char} (hc : IsHexDigit c high)
      (hd : IsHexDigit d low) (h : SignedPairs hex n) : SignedPairs (c :: d :: hex) (n + 1)
  | plus {d : Char} {low n : ℕ} {hex : List Char} (hd : IsHexDigit d low)
      (h : SignedPairs hex n) : SignedPairs ('+' :: d :: hex) (n + 1)

/-- Without its hyphens the text is 16 such pairs, and one of them has a sign. -/
def HasSign (s : String) : Prop :=
  SignedPairs (dropHyphens s) 16 ∧ '+' ∈ dropHyphens s

/-! ### One piece -/

variable {c d : Char} {n : ℕ} {hex : List Char} {v : UInt8} {bytes : Bytes}

lemma hexDigit_eq_some : hexDigit c = some n ↔ IsHexDigit c n := by
  refine ⟨fun h => ?_, fun h => ?_⟩
  · have hall : ∀ m < 128, (hexDigit (Char.ofNat m)).all fun k => IsHexDigit (Char.ofNat m) k := by
      decide
    have hle : c.toNat ≤ 127 :=
      UInt32.le_iff_toNat_le.mp (Char.utf8Size_eq_one_iff.mp (Text.hexDigit_ascii h))
    have hc := hall c.toNat (by omega)
    rw [Char.ofNat_toNat, h] at hc
    simpa using hc
  · have hall : ∀ k < 16, ("0123456789abcdef".toList[k]?.all fun d => hexDigit d = some k) ∧
        "0123456789ABCDEF".toList[k]?.all fun d => hexDigit d = some k := by
      decide
    rcases h with h | h
    · have hk := (hall n (List.getElem?_eq_some_iff.mp h).1).1
      rw [h] at hk
      simpa using hk
    · have hk := (hall n (List.getElem?_eq_some_iff.mp h).1).2
      rw [h] at hk
      simpa using hk

lemma isHexDigit_lt (h : IsHexDigit c n) : n < 16 := by
  rcases h with h | h <;> exact (List.getElem?_eq_some_iff.mp h).1

lemma IsHexDigit.ne (h : IsHexDigit c n) (hd : hexDigit d = none) : c ≠ d := by
  rintro rfl
  rw [hexDigit_eq_some.mpr h] at hd
  cases hd

lemma hexU8_pair : hexU8 [c, d] = some v ↔
    ∃ high low, IsHexDigit c high ∧ IsHexDigit d low ∧ UInt8.ofNat (high * 16 + low) = v := by
  simp only [hexU8, Text.hexValue, List.foldlM_cons, List.foldlM_nil, Option.bind_eq_bind,
    Option.bind_eq_some_iff, Option.map_eq_some_iff, Option.pure_def, Option.some.injEq,
    hexDigit_eq_some]
  refine ⟨?_, ?_⟩
  · rintro ⟨_, ⟨_, ⟨high, hc, rfl⟩, _, ⟨low, hd, rfl⟩, rfl⟩, hv⟩
    rw [Nat.zero_mul, Nat.zero_add] at hv
    split at hv
    · exact ⟨high, low, hc, hd, Option.some.inj hv⟩
    · cases hv
  · rintro ⟨high, low, hc, hd, rfl⟩
    have hhigh := isHexDigit_lt hc
    have hlow := isHexDigit_lt hd
    refine ⟨_, ⟨_, ⟨high, hc, rfl⟩, _, ⟨low, hd, rfl⟩, rfl⟩, ?_⟩
    rw [Nat.zero_mul, Nat.zero_add, if_pos (by omega)]

lemma hexU8_single : hexU8 [d] = some v ↔ ∃ low, IsHexDigit d low ∧ UInt8.ofNat low = v := by
  simp only [hexU8, Text.hexValue, List.foldlM_cons, List.foldlM_nil, Option.bind_eq_bind,
    Option.bind_eq_some_iff, Option.map_eq_some_iff, Option.pure_def, Option.some.injEq,
    hexDigit_eq_some]
  refine ⟨?_, ?_⟩
  · rintro ⟨_, ⟨_, ⟨low, hd, rfl⟩, rfl⟩, hv⟩
    rw [Nat.zero_mul, Nat.zero_add] at hv
    split at hv
    · exact ⟨low, hd, Option.some.inj hv⟩
    · cases hv
  · rintro ⟨low, hd, rfl⟩
    have hlow := isHexDigit_lt hd
    refine ⟨_, ⟨_, ⟨low, hd, rfl⟩, rfl⟩, ?_⟩
    rw [Nat.zero_mul, Nat.zero_add, if_pos (by omega)]

lemma u8FromStrRadix16_pair : u8FromStrRadix16 [c, d] = some v ↔
    (∃ high low, IsHexDigit c high ∧ IsHexDigit d low ∧ UInt8.ofNat (high * 16 + low) = v) ∨
    c = '+' ∧ ∃ low, IsHexDigit d low ∧ UInt8.ofNat low = v := by
  by_cases hc : c = '+'
  · subst hc
    have hread : u8FromStrRadix16 ['+', d] = hexU8 [d] := rfl
    rw [hread, hexU8_single, or_iff_right, and_iff_right rfl]
    rintro ⟨high, -, h, -⟩
    exact h.ne (by decide : hexDigit '+' = none) rfl
  · have hread : u8FromStrRadix16 [c, d] = hexU8 [c, d] := by
      unfold u8FromStrRadix16
      split <;> simp_all
    rw [hread, hexU8_pair, or_iff_left fun h => hc h.1]

/-! ### All pieces -/

/-- `hex` is cut into pieces that are read as `bytes`. -/
inductive Reads : (hex : List Char) → (bytes : Bytes) → Prop
  | nil : Reads [] []
  | cons {c d : Char} {v : UInt8} {hex : List Char} {bytes : Bytes}
      (hv : u8FromStrRadix16 [c, d] = some v) (h : Reads hex bytes) :
      Reads (c :: d :: hex) (v :: bytes)

lemma byteLen_pair (h : u8FromStrRadix16 [c, d] = some v) : Text.byteLen [c, d] = 2 := by
  have hascii := Text.u8FromStrRadix16_ascii h
  simp [hascii c (by simp), hascii d (by simp)]

lemma byteLen_of_reads (h : Reads hex bytes) : Text.byteLen hex = 2 * bytes.length := by
  induction h with
  | nil => rfl
  | cons hv h ih =>
    have hpair := byteLen_pair hv
    simp only [Text.byteLen_cons, Text.byteLen_nil, List.length_cons] at hpair ⊢
    omega

lemma hexByte_reads (hv : u8FromStrRadix16 [c, d] = some v) :
    hexByte (c :: d :: hex) 0 = .ok v ∧
      ∀ i, hexByte (c :: d :: hex) (i + 1) = hexByte hex i := by
  have hpair := byteLen_pair hv
  refine ⟨?_, hexByte_append hpair hex⟩
  have hsplit : Text.splitAtByte (c :: d :: hex) 2 = some ([c, d], hex) :=
    Text.splitAtByte_eq_some.mpr ⟨rfl, hpair⟩
  rw [hexByte_zero, hsplit]
  simp [Outcome.expect, hv]

lemma mOfFn_hexByte_eq_ok {n : ℕ} {b : ArrayN UInt8 n} (hlen : Text.byteLen hex = 2 * n) :
    (List.Vector.mOfFn fun i : Fin n => hexByte hex i) = .ok b ↔ Reads hex b.toList := by
  induction n generalizing hex with
  | zero =>
    obtain rfl : b = .nil := Subsingleton.elim _ _
    refine ⟨fun _ => ?_, fun _ => rfl⟩
    rcases hex with _ | ⟨c, s⟩
    · exact .nil
    · have := c.utf8Size_pos
      simp at hlen
      omega
  | succ n ih =>
    obtain ⟨v, w, rfl⟩ := b.exists_eq_cons
    rw [List.Vector.mOfFn, List.Vector.toList_cons]
    simp only [Outcome.bind_eq_ok, Outcome.pure_eq, Outcome.ok.injEq, Fin.val_zero, Fin.val_succ]
    refine ⟨?_, ?_⟩
    · rintro ⟨v', h0, w', hw, heq⟩
      obtain rfl : v' = v := congrArg List.Vector.head heq
      obtain rfl : w' = w := by simpa using congrArg List.Vector.tail heq
      rcases hexByte_cases hlen with ⟨hp, -⟩ | ⟨he, -⟩ | ⟨c, d, t, u, rfl, -, ht, hv, hu⟩
      · rw [h0] at hp
        cases hp
      · rw [h0] at he
        cases he
      · rw [h0] at hu
        cases hu
        simp only [(hexByte_reads hv).2] at hw
        exact .cons hv ((ih ht).mp hw)
    · rintro (_ | ⟨hv, h⟩)
      have ht := byteLen_of_reads h
      rw [w.toList_length] at ht
      refine ⟨v, (hexByte_reads hv).1, w, ?_, rfl⟩
      simp only [(hexByte_reads hv).2]
      exact (ih ht).mpr h

/-- **What an identifier is read from.** -/
lemma parseAaguid_eq_ok {s : String} {aaguid : Aaguid} :
    parseAaguid s = .ok aaguid ↔ Reads (dropHyphens s) aaguid.toList := by
  simp only [parseAaguid, Outcome.bind_eq_ok, Outcome.rejectIf_eq_ok, exists_const, not_not]
  refine ⟨fun h => (mOfFn_hexByte_eq_ok h.1).mp h.2, fun h => ?_⟩
  have hlen := byteLen_of_reads h
  rw [aaguid.toList_length] at hlen
  exact ⟨hlen, (mOfFn_hexByte_eq_ok hlen).mpr h⟩

/-! ### Signs -/

lemma Hexadecimal.reads (h : Hexadecimal hex bytes) : Reads hex bytes := by
  induction h with
  | nil => exact .nil
  | cons hc hd h ih =>
    exact .cons (u8FromStrRadix16_pair.mpr (Or.inl ⟨_, _, hc, hd, rfl⟩)) ih

lemma Hexadecimal.not_mem (h : Hexadecimal hex bytes) (hx : hexDigit c = none) : c ∉ hex := by
  induction h with
  | nil => exact List.not_mem_nil
  | cons hc hd h ih => simp [(hc.ne hx).symm, (hd.ne hx).symm, ih]

lemma Reads.hexadecimal (h : Reads hex bytes) (hplus : '+' ∉ hex) : Hexadecimal hex bytes := by
  induction h with
  | nil => exact .nil
  | cons hv h ih =>
    simp only [List.mem_cons, not_or] at hplus
    rcases u8FromStrRadix16_pair.mp hv with ⟨high, low, hc, hd, rfl⟩ | ⟨rfl, -⟩
    · exact .cons hc hd (ih hplus.2.2)
    · exact absurd rfl hplus.1

lemma Reads.signedPairs (h : Reads hex bytes) : SignedPairs hex bytes.length := by
  induction h with
  | nil => exact .nil
  | cons hv h ih =>
    rcases u8FromStrRadix16_pair.mp hv with ⟨high, low, hc, hd, -⟩ | ⟨rfl, low, hd, -⟩
    · exact .digits hc hd ih
    · exact .plus hd ih

lemma SignedPairs.exists_reads (h : SignedPairs hex n) :
    ∃ bytes : ArrayN UInt8 n, Reads hex bytes.toList := by
  induction h with
  | nil => exact ⟨.nil, .nil⟩
  | digits hc hd h ih =>
    obtain ⟨bytes, ih⟩ := ih
    exact ⟨_ ::ᵥ bytes, .cons (u8FromStrRadix16_pair.mpr (Or.inl ⟨_, _, hc, hd, rfl⟩)) ih⟩
  | plus hd h ih =>
    obtain ⟨bytes, ih⟩ := ih
    exact ⟨_ ::ᵥ bytes, .cons (u8FromStrRadix16_pair.mpr (Or.inr ⟨rfl, _, hd, rfl⟩)) ih⟩

lemma not_recognised_of_hasSign {s : String} (h : HasSign s) : ¬ Recognised s := by
  intro hs
  obtain ⟨aaguid, hread⟩ := h.1.exists_reads
  exact ((hs aaguid).mp (parseAaguid_eq_ok.mpr hread)).not_mem (by decide) h.2

lemma recognised_of_not_hasSign {s : String} (h : ¬ HasSign s) : Recognised s := by
  intro aaguid
  rw [parseAaguid_eq_ok]
  refine ⟨fun hread => hread.hexadecimal fun hplus => h ⟨?_, hplus⟩, Hexadecimal.reads⟩
  have hpairs := hread.signedPairs
  rwa [aaguid.toList_length] at hpairs

/-! ### Writing an identifier -/

def hexChar (upper : Bool) (n : ℕ) : Char :=
  (if upper then "0123456789ABCDEF" else "0123456789abcdef").toList.getD n '0'

def hexText (upper : Bool) (bytes : Bytes) : List Char :=
  bytes.flatMap fun b => [hexChar upper (b.toNat / 16), hexChar upper (b.toNat % 16)]

/-- The identifier in groups of 8, 4, 4, 4 and 12 digits. -/
def hyphenated (upper : Bool) (aaguid : Aaguid) : String :=
  let hex := hexText upper aaguid.toList
  String.ofList (hex.take 8 ++ '-' :: ((hex.drop 8).take 4 ++ '-' :: ((hex.drop 12).take 4 ++
    '-' :: ((hex.drop 16).take 4 ++ '-' :: hex.drop 20))))

lemma isHexDigit_hexChar (upper : Bool) (h : n < 16) : IsHexDigit (hexChar upper n) n := by
  have hall : ∀ upper, ∀ k < 16, IsHexDigit (hexChar upper k) k := by decide
  exact hall upper n h

lemma hexadecimal_hexText (upper : Bool) (bytes : Bytes) :
    Hexadecimal (hexText upper bytes) bytes := by
  induction bytes with
  | nil => exact .nil
  | cons b bytes ih =>
    have hb : b.toNat < 256 := b.toNat_lt
    have hval : UInt8.ofNat (b.toNat / 16 * 16 + b.toNat % 16) = b := by
      rw [Nat.div_add_mod', UInt8.ofNat_toNat]
    have hcons := Hexadecimal.cons (isHexDigit_hexChar upper (show b.toNat / 16 < 16 by omega))
      (isHexDigit_hexChar upper (show b.toNat % 16 < 16 by omega)) ih
    rwa [hval] at hcons

lemma dropHyphens_hyphenated (upper : Bool) (aaguid : Aaguid) :
    dropHyphens (hyphenated upper aaguid) = hexText upper aaguid.toList := by
  set hex := hexText upper aaguid.toList with hhex
  have hhyphen : '-' ∉ hex := (hexadecimal_hexText upper aaguid.toList).not_mem (by decide)
  have hjoin : ∀ n k, (hex.drop n).take k ++ hex.drop (n + k) = hex.drop n := fun n k => by
    rw [← List.drop_drop, List.take_append_drop]
  have hdrop : dropHyphens (hyphenated upper aaguid) = (hex.take 8 ++ ((hex.drop 8).take 4 ++
      ((hex.drop 12).take 4 ++ ((hex.drop 16).take 4 ++ hex.drop 20)))).filter (· ≠ '-') := by
    simp [dropHyphens, hyphenated, ← hhex]
  rw [hdrop, hjoin 16 4, hjoin 12 4, hjoin 8 4, List.take_append_drop,
    List.filter_eq_self.mpr fun c hc => by simpa using ne_of_mem_of_not_mem hc hhyphen]

lemma parseAaguid_hyphenated (upper : Bool) (aaguid : Aaguid) :
    parseAaguid (hyphenated upper aaguid) = .ok aaguid := by
  rw [parseAaguid_eq_ok, dropHyphens_hyphenated]
  exact (hexadecimal_hexText upper aaguid.toList).reads

/-- **Exactly the texts with a sign are taken for something they are not.** Every identifier
that is written is read back. -/
theorem parseAaguid_recognises_iff (s : String) : (Recognised s ↔ ¬ HasSign s) ∧
    ∀ upper aaguid, parseAaguid (hyphenated upper aaguid) = .ok aaguid :=
  ⟨⟨fun h hs => not_recognised_of_hasSign hs h, recognised_of_not_hasSign⟩,
    parseAaguid_hyphenated⟩

/-- A plus sign stands in each byte, in place of its high digit. -/
def plusText : String := "+0+1+2+3-+4+5-+6+7-+8+9-+a+b+c+d+e+f"

lemma parseAaguid_plusText_eq : parseAaguid plusText = .ok Recorded.aaguid := by
  decide

lemma hasSign_plusText : HasSign plusText :=
  ⟨(parseAaguid_eq_ok.mp parseAaguid_plusText_eq).signedPairs, by decide⟩

/-- The text is taken for the identifier of a model. -/
theorem parseAaguid_plusText :
    parseAaguid plusText = .ok Recorded.aaguid ∧ ¬ Recognised plusText :=
  ⟨parseAaguid_plusText_eq, not_recognised_of_hasSign hasSign_plusText⟩

end Caden.Metadata
