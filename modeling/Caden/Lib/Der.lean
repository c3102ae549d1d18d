import Mathlib.Data.Nat.Bitwise
import Mathlib.Data.Nat.Log
import Caden.Lib.BigEndian

/-!
The distinguished encoding rules: a tag, a length in the definite form, the contents.

A length below 128 is one byte. A longer one is the number of the bytes that follow, and these
bytes. An encoding is distinguished when its length takes the fewest bytes. As no length field
is the beginning of another, elements that follow each other are read in one way only.
-/

namespace Caden.Der

variable {tag : UInt8} {len n : ℕ} {octets f g s t c d bs : Bytes} {x : UInt8}

/-! ### The high bit of a byte -/

lemma toNat_ofNat_add (h : n ≤ 0x7f) : (UInt8.ofNat (0x80 + n)).toNat = 0x80 + n :=
  UInt8.toNat_ofNat_of_lt' (by simp only [UInt8.size]; omega)

lemma and_0x80_eq_zero (x : UInt8) : x &&& 0x80 = 0 ↔ x.toNat < 0x80 := by
  have h : (x &&& 0x80).toNat = (x.toNat.testBit 7).toNat * 2 ^ 7 := by
    rw [UInt8.toNat_and]
    exact Nat.and_two_pow x.toNat 7
  have hx : x.toNat < 256 := x.toNat_lt
  rw [← UInt8.toNat_inj, h, Nat.testBit_eq_decide_div_mod_eq, UInt8.toNat_zero]
  by_cases hbit : x.toNat / 2 ^ 7 % 2 = 1
  · simp only [hbit, decide_true, Bool.toNat_true]
    omega
  · simp only [hbit, decide_false, Bool.toNat_false, Nat.zero_mul, true_iff]
    omega

lemma and_0x7f (x : UInt8) : (x &&& 0x7f).toNat = x.toNat % 0x80 := by
  rw [UInt8.toNat_and]
  exact Nat.and_two_pow_sub_one_eq_mod x.toNat 7

/-! ### Lengths -/

/-- `field` encodes the length `len` in the definite form. -/
inductive DefiniteLength : (len : ℕ) → (field : Bytes) → Prop
  | short {len : ℕ} (h : len < 0x80) : DefiniteLength len [UInt8.ofNat len]
  | long {octets : Bytes} (hne : octets ≠ []) (h : octets.length < 0x7f) :
    DefiniteLength (beNat octets) (UInt8.ofNat (0x80 + octets.length) :: octets)

/-- Of the encodings of `len`, one with the fewest bytes. -/
def MinimalLength (len : ℕ) (field : Bytes) : Prop :=
  DefiniteLength len field ∧ ∀ other, DefiniteLength len other → field.length ≤ other.length

/-- `field` is a length field for `len`, with as many octets as its first byte can count. -/
inductive LengthForm : (len : ℕ) → (field : Bytes) → Prop
  | short {len : ℕ} (h : len < 0x80) : LengthForm len [UInt8.ofNat len]
  | long {octets : Bytes} (hne : octets ≠ []) (h : octets.length ≤ 0x7f) :
    LengthForm (beNat octets) (UInt8.ofNat (0x80 + octets.length) :: octets)

lemma DefiniteLength.lengthForm (h : DefiniteLength len f) : LengthForm len f := by
  cases h with
  | short h => exact .short h
  | long hne h => exact .long hne h.le

lemma LengthForm.unique {m : ℕ} (hf : LengthForm len f) (hg : LengthForm m g)
    (h : f ++ s = g ++ t) : len = m ∧ f = g ∧ s = t := by
  rcases hf with hl | ⟨-, hl⟩ <;> rcases hg with hm | ⟨-, hm⟩ <;>
    simp only [List.cons_append, List.nil_append, List.cons.injEq] at h <;>
    obtain ⟨hx, h⟩ := h <;> have hx := congrArg UInt8.toNat hx
  · rw [UInt8.toNat_ofNat_of_lt' (by simp only [UInt8.size]; omega),
      UInt8.toNat_ofNat_of_lt' (by simp only [UInt8.size]; omega)] at hx
    exact ⟨hx, by rw [hx], h⟩
  · rw [UInt8.toNat_ofNat_of_lt' (by simp only [UInt8.size]; omega), toNat_ofNat_add hm] at hx
    omega
  · rw [toNat_ofNat_add hl, UInt8.toNat_ofNat_of_lt' (by simp only [UInt8.size]; omega)] at hx
    omega
  · rw [toNat_ofNat_add hl, toNat_ofNat_add hm] at hx
    obtain ⟨rfl, rfl⟩ := List.append_inj h (by omega)
    exact ⟨rfl, rfl, rfl⟩

lemma DefiniteLength.unique {m : ℕ} (hf : DefiniteLength len f) (hg : DefiniteLength m g)
    (h : f ++ s = g ++ t) : len = m ∧ f = g ∧ s = t :=
  hf.lengthForm.unique hg.lengthForm h

lemma DefiniteLength.ne_nil (h : DefiniteLength len f) : f ≠ [] := by
  cases h <;> exact List.cons_ne_nil _ _

lemma DefiniteLength.lt_pow (h : DefiniteLength len f) (hlen : 0x80 ≤ len) :
    len < 256 ^ (f.length - 1) := by
  cases h with
  | short h => omega
  | long hne h => exact beNat_lt _

lemma minimalLength_short (h : len < 0x80) : MinimalLength len [UInt8.ofNat len] :=
  ⟨.short h, fun _ ho => List.length_pos_iff.mpr ho.ne_nil⟩

lemma minimalLength_long (hne : octets ≠ []) (h : octets.length < 0x7f)
    (h128 : 0x80 ≤ beNat octets) :
    MinimalLength (beNat octets) (UInt8.ofNat (0x80 + octets.length) :: octets) ↔
      octets.head? ≠ some 0 := by
  obtain _ | ⟨x, rest⟩ := octets
  · exact absurd rfl hne
  · rw [List.head?_cons, Ne, Option.some_inj]
    refine ⟨?_, fun hx => ⟨.long hne h, fun other ho => ?_⟩⟩
    · rintro ⟨-, hmin⟩ rfl
      rw [beNat_zero_cons] at hmin h128
      have hrest : rest ≠ [] := by
        rintro rfl
        simp at h128
      rw [List.length_cons] at h
      have hle := hmin _ (.long hrest (by omega))
      simp only [List.length_cons] at hle
      omega
    · have hlow := pow_le_beNat_cons hx rest
      have hup := ho.lt_pow h128
      have hlt := (Nat.pow_lt_pow_iff_right (by decide : 1 < 256)).mp (hlow.trans_lt hup)
      simp only [List.length_cons]
      omega

lemma DefiniteLength.eq_of_length {g : Bytes} (hf : DefiniteLength len f)
    (hg : DefiniteLength len g) (h : f.length = g.length) : f = g := by
  cases hf with
  | short hlen => cases hg with
    | short _ => rfl
    | long hne _ => simp_all
  | long hne _ =>
    generalize hvalue : beNat _ = value at hg
    cases hg with
    | short _ => simp_all
    | long _ _ =>
      simp only [List.length_cons, Nat.add_right_cancel_iff] at h
      rw [h, beNat_injective h hvalue]

lemma MinimalLength.unique {g : Bytes} (hf : MinimalLength len f) (hg : MinimalLength len g) :
    f = g :=
  hf.1.eq_of_length hg.1 (Nat.le_antisymm (hf.2 g hg.1) (hg.2 f hf.1))

/-- The length in the fewest bytes. -/
def lengthField (len : ℕ) : Bytes :=
  if len < 0x80 then [UInt8.ofNat len]
  else UInt8.ofNat (0x80 + (Nat.log 256 len + 1)) :: beBytes (Nat.log 256 len + 1) len

lemma minimalLength_lengthField (h : len < 256 ^ 0x7e) :
    MinimalLength len (lengthField len) := by
  unfold lengthField
  split
  · exact minimalLength_short ‹_›
  · rename_i h128
    have hlog : Nat.log 256 len < 0x7e := Nat.log_lt_of_lt_pow (by omega) h
    set k := Nat.log 256 len + 1 with hk
    have hval : beNat (beBytes k len) = len :=
      beNat_beBytes _ _ (Nat.lt_pow_succ_log_self (by decide) _)
    have hlen : (beBytes k len).length = k := beBytes_length _ _
    have hhead : (beBytes k len).head? ≠ some 0 := by
      intro h0
      obtain ⟨rest, hrest⟩ := List.head?_eq_some_iff.mp h0
      have hlow : 256 ^ Nat.log 256 len ≤ len := Nat.pow_log_le_self 256 (by omega)
      have hup := beNat_lt rest
      rw [hrest, beNat_zero_cons] at hval
      rw [hrest, List.length_cons] at hlen
      rw [hval, show rest.length = Nat.log 256 len by omega] at hup
      omega
    have hne : beBytes k len ≠ [] := by
      rw [← List.length_pos_iff]
      omega
    have hmin := (minimalLength_long hne (by omega) (by omega)).mpr hhead
    rwa [hval, hlen] at hmin

/-! ### Elements -/

/-- `bs` is an element with the tag `tag` and the contents `c`. -/
def IsElement (tag : UInt8) (c bs : Bytes) : Prop :=
  ∃ field, DefiniteLength c.length field ∧ bs = tag :: (field ++ c)

/-- An element whose length takes the fewest bytes. -/
def IsDistinguished (tag : UInt8) (c bs : Bytes) : Prop :=
  ∃ field, MinimalLength c.length field ∧ bs = tag :: (field ++ c)

/-- The distinguished encoding of an element. -/
def element (tag : UInt8) (c : Bytes) : Bytes := tag :: (lengthField c.length ++ c)

lemma IsDistinguished.isElement (h : IsDistinguished tag c bs) : IsElement tag c bs := by
  obtain ⟨field, hfield, rfl⟩ := h
  exact ⟨field, hfield.1, rfl⟩

lemma isDistinguished_element (h : c.length < 256 ^ 0x7e) :
    IsDistinguished tag c (element tag c) :=
  ⟨_, minimalLength_lengthField h, rfl⟩

lemma isElement_element (h : c.length < 256 ^ 0x7e) : IsElement tag c (element tag c) :=
  (isDistinguished_element h).isElement

lemma element_short (h : c.length < 0x80) :
    element tag c = tag :: UInt8.ofNat c.length :: c := by
  rw [element, lengthField, if_pos h, List.singleton_append]

lemma length_element_short (h : c.length < 0x80) : (element tag c).length = c.length + 2 := by
  rw [element_short h]
  rfl

/-- **An element at the front of a byte string is read in one way.** -/
lemma IsElement.unique {tag' : UInt8} {bs' : Bytes} (h : IsElement tag c bs)
    (h' : IsElement tag' d bs') (heq : bs ++ s = bs' ++ t) :
    tag = tag' ∧ c = d ∧ bs = bs' ∧ s = t := by
  obtain ⟨f, hf, rfl⟩ := h
  obtain ⟨g, hg, rfl⟩ := h'
  simp only [List.cons_append, List.append_assoc, List.cons.injEq] at heq
  obtain ⟨rfl, heq⟩ := heq
  obtain ⟨hlen, rfl, hcd⟩ := hf.unique hg heq
  obtain ⟨rfl, rfl⟩ := List.append_inj hcd hlen
  exact ⟨rfl, rfl, rfl, rfl⟩

lemma length_le_element (tag : UInt8) (c : Bytes) : c.length ≤ (element tag c).length := by
  rw [element, List.length_cons, List.length_append]
  omega

lemma element_unique {tag' : UInt8} (hc : (element tag c).length < 256 ^ 0x7e)
    (hd : (element tag' d).length < 256 ^ 0x7e) (h : element tag c ++ s = element tag' d ++ t) :
    tag = tag' ∧ c = d ∧ s = t := by
  have hc' : IsElement tag c (element tag c) :=
    isElement_element ((length_le_element _ _).trans_lt hc)
  have hd' : IsElement tag' d (element tag' d) :=
    isElement_element ((length_le_element _ _).trans_lt hd)
  obtain ⟨htag, hcd, -, hst⟩ := hc'.unique hd' h
  exact ⟨htag, hcd, hst⟩

/-! ### Integers -/

/-- The value of the contents of an INTEGER: two's complement, most significant byte first. -/
def intValue (c : Bytes) : ℤ :=
  if c.head?.any (0x80 ≤ ·.toNat) then beNat c - 256 ^ c.length else beNat c

/-- The nine leading bits of the contents are not all zero and not all one. -/
def MinimalInteger : Bytes → Prop
  | [] => False
  | [_] => True
  | x :: y :: _ => ¬ (x = 0 ∧ y.toNat < 0x80) ∧ ¬ (x = 0xff ∧ 0x80 ≤ y.toNat)

/-- The contents of an INTEGER with the unsigned value of `b`. -/
def unsigned (b : Bytes) : Bytes := if b.head?.any (0x80 ≤ ·.toNat) then 0 :: b else b

/-- A zero in front of other bytes, without which the first of these would be a sign. -/
def NoSpareZero : Bytes → Prop
  | 0 :: y :: _ => 0x80 ≤ y.toNat
  | _ => True

lemma unsigned_cons (x : UInt8) (b : Bytes) :
    unsigned (x :: b) = if 0x80 ≤ x.toNat then 0 :: x :: b else x :: b := by
  simp [unsigned]

lemma intValue_unsigned (b : Bytes) : intValue (unsigned b) = beNat b := by
  obtain _ | ⟨x, t⟩ := b
  · rfl
  · rw [unsigned_cons]
    by_cases hx : 0x80 ≤ x.toNat
    · rw [if_pos hx]
      simp [intValue]
    · rw [if_neg hx]
      simp [intValue, hx]

lemma minimalInteger_unsigned (b : Bytes) :
    MinimalInteger (unsigned b) ↔ b ≠ [] ∧ NoSpareZero b := by
  obtain _ | ⟨x, t⟩ := b
  · simp [unsigned, MinimalInteger]
  · rw [unsigned_cons]
    by_cases hx : 0x80 ≤ x.toNat
    · have hx0 : x ≠ 0 := by
        rintro rfl
        simp at hx
      rw [if_pos hx]
      simp [MinimalInteger, NoSpareZero, hx, hx0]
    · have hff : x ≠ 0xff := by
        rintro rfl
        exact hx (by decide)
      rw [if_neg hx]
      obtain _ | ⟨y, t⟩ := t
      · simp [MinimalInteger, NoSpareZero]
      · by_cases hx0 : x = 0
        · subst hx0
          simp [MinimalInteger, NoSpareZero]
        · simp [MinimalInteger, NoSpareZero, hx0, hff]

end Caden.Der
