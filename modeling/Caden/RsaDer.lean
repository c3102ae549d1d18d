import Caden.CertBytes
import Caden.Recorded

/-!
The RSA keys the library encodes, as the distinguished encoding of an `RSAPublicKey`.

What is written is read back for every key shorter than 2^32 bytes. It is the distinguished
encoding only for keys without spare leading zeros, and for lengths that are not written in
four bytes where three are enough.
-/

namespace Caden.RsaDer

open Crypto
open CertBytes (derParseTlv)

variable {n e d value : Bytes} {len : ℕ} {tag : UInt8}

/-! ### The length field -/

/-- The number of bytes of a length in the long form. -/
def lengthOctets (len : ℕ) : ℕ := if len ≤ 0xFF then 1 else if len ≤ 0xFFFF then 2 else 4

lemma derLength_long (h : 0x80 ≤ len) : derLength len =
    UInt8.ofNat (0x80 + lengthOctets len) :: beBytes (lengthOctets len) len := by
  have hlow : len &&& 0xFF = len % 256 := Nat.and_two_pow_sub_one_eq_mod len 8
  have hmod : UInt8.ofNat (len % 256) = UInt8.ofNat len := by
    refine UInt8.toNat_inj.mp ?_
    simp [UInt8.toNat_ofNat']
  have hshift : ∀ k, len >>> k = len / 2 ^ k := Nat.shiftRight_eq_div_pow len
  unfold derLength lengthOctets
  rw [if_neg (by omega)]
  split
  · rfl
  · split
    · rw [hlow, hshift]
      simp [asU8, beBytes, hmod]
    · rw [hshift, hshift, hshift]
      simp [asU8, beBytes, Nat.div_div_eq_div_mul]

lemma lengthOctets_cases (len : ℕ) : (lengthOctets len = 1 ∧ len ≤ 0xFF) ∨
    (lengthOctets len = 2 ∧ 0xFF < len ∧ len ≤ 0xFFFF) ∨
    (lengthOctets len = 4 ∧ 0xFFFF < len) := by
  unfold lengthOctets
  split
  · omega
  · split <;> omega

lemma lengthBytes_ne_nil (len : ℕ) : beBytes (lengthOctets len) len ≠ [] := by
  rw [← List.length_pos_iff, beBytes_length]
  rcases lengthOctets_cases len with h | h | h <;> omega

lemma lengthOctets_lt (len : ℕ) : (beBytes (lengthOctets len) len).length < 0x7f := by
  rw [beBytes_length]
  rcases lengthOctets_cases len with h | h | h <;> omega

lemma beNat_lengthBytes (len : ℕ) :
    beNat (beBytes (lengthOctets len) len) = len % 2 ^ 32 := by
  rw [beNat_beBytes_mod]
  rcases lengthOctets_cases len with h | h | h <;> rw [h.1] <;> omega

lemma definiteLength_derLength (len : ℕ) :
    Der.DefiniteLength (len % 2 ^ 32) (derLength len) := by
  rcases Nat.lt_or_ge len 0x80 with h | h
  · rw [Nat.mod_eq_of_lt (by omega), derLength, if_pos h]
    exact .short h
  · have hlong := Der.DefiniteLength.long (lengthBytes_ne_nil len) (lengthOctets_lt len)
    rwa [beBytes_length, beNat_lengthBytes, ← derLength_long h] at hlong

/-- The lengths that `derLength` writes in the fewest bytes: between 2^16 and 2^24 it takes
four length bytes instead of three, from 2^32 on it drops the high bits. -/
def FewOctets (len : ℕ) : Prop := len < 2 ^ 16 ∨ (2 ^ 24 ≤ len ∧ len < 2 ^ 32)

lemma FewOctets.lt (h : FewOctets len) : len < 2 ^ 32 := by
  unfold FewOctets at h
  omega

lemma minimalLength_derLength (h : len < 2 ^ 32) :
    Der.MinimalLength len (derLength len) ↔ FewOctets len := by
  rcases Nat.lt_or_ge len 0x80 with h80 | h80
  · have hmin := Der.minimalLength_short h80
    rw [derLength, if_pos h80]
    exact ⟨fun _ => Or.inl (by omega), fun _ => hmin⟩
  · have hval := beNat_lengthBytes len
    rw [Nat.mod_eq_of_lt h] at hval
    have hiff := Der.minimalLength_long (lengthBytes_ne_nil len) (lengthOctets_lt len)
      (by rwa [hval])
    rw [beBytes_length, hval, ← derLength_long h80] at hiff
    rw [hiff]
    -- the first of the length bytes, for each of the three sizes
    rcases lengthOctets_cases len with ⟨hk, hl⟩ | ⟨hk, hl⟩ | ⟨hk, hl⟩ <;>
      simp only [hk, beBytes_succ, List.head?_cons, Ne, Option.some_inj, ofNat_eq_zero,
        FewOctets] <;> omega

/-! ### The elements -/

lemma derIntegerOf_eq (value : Bytes) : derIntegerOf value =
    0x02 :: (derLength (Der.unsigned value).length ++ Der.unsigned value) := by
  obtain _ | ⟨x, t⟩ := value
  · rfl
  · rw [Der.unsigned_cons]
    have hbit := Der.and_0x80_eq_zero x
    by_cases hx : 0x80 ≤ x.toNat
    · have hne : x &&& 0x80 ≠ 0 := by
        rw [Ne, hbit]
        omega
      simp [derIntegerOf, hne, hx]
    · have heq : x &&& 0x80 = 0 := hbit.mpr (by omega)
      simp [derIntegerOf, heq, hx]

lemma isElement_derLength (tag : UInt8) {c : Bytes} (h : c.length < 2 ^ 32) :
    Der.IsElement tag c (tag :: (derLength c.length ++ c)) := by
  have hdef := definiteLength_derLength c.length
  rw [Nat.mod_eq_of_lt h] at hdef
  exact ⟨_, hdef, rfl⟩

/-- **What is written is distinguished** for the lengths written in the fewest bytes, and
then it has the contents it was made of. -/
lemma isDistinguished_derLength {c c' : Bytes} :
    Der.IsDistinguished tag c' (tag :: (derLength c.length ++ c)) ↔
      c' = c ∧ FewOctets c.length := by
  refine ⟨?_, ?_⟩
  · rintro ⟨field, hfield, heq⟩
    obtain ⟨-, heq⟩ := List.cons_eq_cons.mp heq
    obtain ⟨hlen, rfl, rfl⟩ := (definiteLength_derLength c.length).unique hfield.1 heq
    have hlt : c.length < 2 ^ 32 := by
      rw [← hlen]
      exact Nat.mod_lt _ (by decide)
    exact ⟨rfl, (minimalLength_derLength hlt).mp hfield⟩
  · rintro ⟨rfl, hfew⟩
    exact ⟨_, (minimalLength_derLength hfew.lt).mpr hfew, rfl⟩

lemma length_unsigned_lt (h : (derIntegerOf value).length < len) :
    (Der.unsigned value).length < len := by
  rw [derIntegerOf_eq] at h
  simp only [List.length_cons, List.length_append] at h
  omega

lemma isElement_derIntegerOf (h : (derIntegerOf value).length < 2 ^ 32) :
    Der.IsElement 0x02 (Der.unsigned value) (derIntegerOf value) := by
  rw [derIntegerOf_eq]
  exact isElement_derLength _ (length_unsigned_lt h)

lemma integers_unique {cn ce bn be : Bytes}
    (hlen : (derIntegerOf n ++ derIntegerOf e).length < 2 ^ 32)
    (hn : Der.IsElement 0x02 cn bn) (he : Der.IsElement 0x02 ce be)
    (h : derIntegerOf n ++ derIntegerOf e = bn ++ be) :
    cn = Der.unsigned n ∧ bn = derIntegerOf n ∧ ce = Der.unsigned e ∧ be = derIntegerOf e := by
  rw [List.length_append] at hlen
  obtain ⟨-, hcn, hbn, hrest⟩ := (isElement_derIntegerOf (by omega)).unique hn h
  have hrest' : derIntegerOf e ++ [] = be ++ [] := by rw [hrest]
  obtain ⟨-, hce, hbe, -⟩ := (isElement_derIntegerOf (by omega)).unique he hrest'
  exact ⟨hcn.symm, hbn.symm, hce.symm, hbe.symm⟩

/-! ### Reading a key back -/

/-- `d` is read as a sequence of two integers, with nothing after them, of the values `vn`
and `ve`. -/
def ReadsBack (d : Bytes) (vn ve : ℤ) : Prop :=
  ∃ contents cn ce rest, derParseTlv d = .ok (0x30, contents, []) ∧
    derParseTlv contents = .ok (0x02, cn, rest) ∧ derParseTlv rest = .ok (0x02, ce, []) ∧
    Der.intValue cn = vn ∧ Der.intValue ce = ve

lemma ReadsBack.unique {vn ve wn we : ℤ} (h : ReadsBack d vn ve) (h' : ReadsBack d wn we) :
    vn = wn ∧ ve = we := by
  obtain ⟨_, _, _, _, h1, h2, h3, rfl, rfl⟩ := h
  obtain ⟨_, _, _, _, h1', h2', h3', rfl, rfl⟩ := h'
  rw [h1] at h1'
  cases h1'
  rw [h2] at h2'
  cases h2'
  rw [h3] at h3'
  cases h3'
  exact ⟨rfl, rfl⟩

lemma readsBack_rsaDer (hlen : (rsaDer n e).length < 2 ^ 32) :
    ReadsBack (rsaDer n e) (beNat n) (beNat e) := by
  set contents := derIntegerOf n ++ derIntegerOf e with hcontents
  have hkey : rsaDer n e = 0x30 :: (derLength contents.length ++ contents) := rfl
  have hc : contents.length < (rsaDer n e).length := by
    rw [hkey]
    simp only [List.length_cons, List.length_append]
    omega
  have hsum : contents.length = (derIntegerOf n).length + (derIntegerOf e).length :=
    List.length_append
  have hseq := isElement_derLength 0x30 (hc.trans hlen)
  have hn : Der.IsElement 0x02 (Der.unsigned n) (derIntegerOf n) :=
    isElement_derIntegerOf (by omega)
  have he : Der.IsElement 0x02 (Der.unsigned e) (derIntegerOf e) :=
    isElement_derIntegerOf (by omega)
  refine ⟨contents, Der.unsigned n, Der.unsigned e, derIntegerOf e, ?_, ?_, ?_,
    Der.intValue_unsigned n, Der.intValue_unsigned e⟩
  · exact CertBytes.derParseTlv_whole hseq (by omega)
  · exact CertBytes.derParseTlv_element hn (by omega)
  · exact CertBytes.derParseTlv_whole he (by omega)

/-- **The encoder and the reader are inverse on values.** The key that is written is a
sequence of two integers, with the values of the modulus and of the exponent; so two keys
with the same encoding have the same values. -/
theorem rsaComponentsToDer_reads_back (n e : Bytes) (hn : n ≠ []) (he : e ≠ [])
    (hlen : (rsaDer n e).length < 2 ^ 32) :
    rsaComponentsToDer n e = .ok (rsaDer n e) ∧ ReadsBack (rsaDer n e) (beNat n) (beNat e) ∧
      ∀ n' e', rsaComponentsToDer n' e' = .ok (rsaDer n e) →
        beNat n' = beNat n ∧ beNat e' = beNat e := by
  refine ⟨rsaComponentsToDer_eq_ok.mpr ⟨hn, he, rfl⟩, readsBack_rsaDer hlen, ?_⟩
  intro n' e' h
  obtain ⟨-, -, hsame⟩ := rsaComponentsToDer_eq_ok.mp h
  have hlen' : (rsaDer n' e').length < 2 ^ 32 := by rwa [hsame]
  have hback' := readsBack_rsaDer hlen'
  rw [hsame] at hback'
  have hvalues := hback'.unique (readsBack_rsaDer hlen)
  exact ⟨Int.ofNat_inj.mp hvalues.1, Int.ofNat_inj.mp hvalues.2⟩

/-- A modulus with its high bit set gets a sign byte, which is not part of its value. -/
theorem rsaComponentsToDer_reads_back_signed :
    rsaComponentsToDer [0xc5, 0x0f] [0x01, 0x00, 0x01] =
      .ok [0x30, 0x0a, 0x02, 0x03, 0x00, 0xc5, 0x0f, 0x02, 0x03, 0x01, 0x00, 0x01] ∧
    ReadsBack [0x30, 0x0a, 0x02, 0x03, 0x00, 0xc5, 0x0f, 0x02, 0x03, 0x01, 0x00, 0x01]
      50447 65537 := by
  have h := rsaComponentsToDer_reads_back [0xc5, 0x0f] [0x01, 0x00, 0x01] (by decide) (by decide)
    (by decide)
  exact ⟨h.1, h.2.1⟩

/-! ### Distinguished keys -/

/-- `d` is the distinguished encoding of the key with the modulus `vn` and the exponent `ve`. -/
def IsDistinguishedKey (d : Bytes) (vn ve : ℕ) : Prop :=
  ∃ cn bn ce be, Der.IsDistinguished 0x02 cn bn ∧ Der.MinimalInteger cn ∧ Der.intValue cn = vn ∧
    Der.IsDistinguished 0x02 ce be ∧ Der.MinimalInteger ce ∧ Der.intValue ce = ve ∧
    Der.IsDistinguished 0x30 (bn ++ be) d

/-- The components whose encoding is distinguished: without spare zeros, and of lengths that
are written in the fewest bytes. -/
structure Writable (n e : Bytes) : Prop where
  modulus : Der.NoSpareZero n
  exponent : Der.NoSpareZero e
  modulusLength : FewOctets (Der.unsigned n).length
  exponentLength : FewOctets (Der.unsigned e).length
  keyLength : FewOctets
    (Der.element 0x02 (Der.unsigned n) ++ Der.element 0x02 (Der.unsigned e)).length

lemma length_derIntegerOf (h : FewOctets (Der.unsigned value).length) :
    (derIntegerOf value).length = (Der.element 0x02 (Der.unsigned value)).length := by
  have hmin := (minimalLength_derLength h.lt).mpr h
  have hpow : 2 ^ 32 ≤ 256 ^ 0x7e := by
    rw [show 2 ^ 32 = 256 ^ 4 by rfl]
    exact Nat.pow_le_pow_right (by decide) (by decide)
  have hfield := Der.minimalLength_lengthField (h.lt.trans_le hpow)
  have hle := hmin.2 _ hfield.1
  have hge := hfield.2 _ hmin.1
  rw [derIntegerOf_eq, Der.element]
  simp only [List.length_cons, List.length_append]
  omega

lemma isDistinguished_derIntegerOf : Der.IsDistinguished 0x02 (Der.unsigned value)
    (derIntegerOf value) ↔ FewOctets (Der.unsigned value).length := by
  rw [derIntegerOf_eq, isDistinguished_derLength]
  exact and_iff_right rfl

/-- **Which keys are written in the distinguished encoding.** -/
lemma isDistinguishedKey_rsaDer (hn : n ≠ []) (he : e ≠ []) :
    IsDistinguishedKey (rsaDer n e) (beNat n) (beNat e) ↔ Writable n e := by
  refine ⟨?_, fun h => ?_⟩
  · rintro ⟨cn, bn, ce, be, hbn, hcn, -, hbe, hce, -, hseq⟩
    obtain ⟨hcontents, hkey⟩ := isDistinguished_derLength.mp hseq
    obtain ⟨rfl, rfl, rfl, rfl⟩ :=
      integers_unique hkey.lt hbn.isElement hbe.isElement hcontents.symm
    have hln := isDistinguished_derIntegerOf.mp hbn
    have hle := isDistinguished_derIntegerOf.mp hbe
    rw [List.length_append, length_derIntegerOf hln, length_derIntegerOf hle,
      ← List.length_append] at hkey
    exact ⟨((Der.minimalInteger_unsigned n).mp hcn).2, ((Der.minimalInteger_unsigned e).mp hce).2,
      hln, hle, hkey⟩
  · have hkey := h.keyLength
    rw [List.length_append, ← length_derIntegerOf h.modulusLength,
      ← length_derIntegerOf h.exponentLength, ← List.length_append] at hkey
    exact ⟨_, _, _, _, isDistinguished_derIntegerOf.mpr h.modulusLength,
      (Der.minimalInteger_unsigned n).mpr ⟨hn, h.modulus⟩, Der.intValue_unsigned n,
      isDistinguished_derIntegerOf.mpr h.exponentLength,
      (Der.minimalInteger_unsigned e).mpr ⟨he, h.exponent⟩, Der.intValue_unsigned e,
      isDistinguished_derLength.mpr ⟨rfl, hkey⟩⟩

lemma two_pow_le_modulus (hlen : AuthData.MIN_RSA_N_LEN ≤ n.length) (hn : Der.NoSpareZero n) :
    2 ^ 2047 ≤ beNat n ↔ (n.length = 256 → ∀ b ∈ n.head?, 0x80 ≤ b.toNat) := by
  have hpow : (2 : ℕ) ^ 2047 = 0x80 * 256 ^ 255 := by
    rw [show (0x80 : ℕ) = 2 ^ 7 by rfl, show (256 : ℕ) = 2 ^ 8 by rfl, ← pow_mul, ← pow_add]
  have h256 : 256 ≤ n.length := hlen
  obtain _ | ⟨x, t⟩ := n
  · simp at h256
  · simp only [List.length_cons, List.head?_cons, Option.mem_some_iff, forall_eq'] at h256 ⊢
    rw [hpow]
    rcases Nat.lt_or_ge t.length 256 with ht | ht
    · -- 256 bytes: the first one decides
      have ht : t.length = 255 := by omega
      have hlow := le_beNat_cons x t
      have hup := beNat_lt t
      rw [beNat_cons] at hlow ⊢
      rw [ht] at hlow hup ⊢
      refine ⟨fun h _ => ?_, fun h => ?_⟩
      · by_contra hx
        have hmul : x.toNat * 256 ^ 255 ≤ 0x7f * 256 ^ 255 :=
          Nat.mul_le_mul_right _ (by omega)
        omega
      · exact (Nat.mul_le_mul_right _ (h (by omega))).trans hlow
    · -- more bytes: a first byte that is zero is followed by a large one
      refine iff_of_true ?_ (fun h => absurd h (by omega))
      by_cases hx : x = 0
      · subst hx
        obtain _ | ⟨y, t⟩ := t
        · simp at ht
        · have hy : 0x80 ≤ y.toNat := hn
          rw [List.length_cons] at ht
          rw [beNat_zero_cons]
          exact (Nat.mul_le_mul hy (Nat.pow_le_pow_right (by decide) (by omega))).trans
            (le_beNat_cons y t)
      · calc 0x80 * 256 ^ 255 ≤ 256 * 256 ^ 255 := Nat.mul_le_mul_right _ (by decide)
          _ = 256 ^ 256 := (pow_succ' 256 255).symm
          _ ≤ 256 ^ t.length := Nat.pow_le_pow_right (by decide) ht
          _ ≤ beNat (x :: t) := pow_le_beNat_cons hx t

/-- The modulus has at least 2048 bits, and the key is written in the distinguished encoding. -/
def ReadsStrictly (n e : Bytes) : Prop :=
  2 ^ 2047 ≤ beNat n ∧
    ∃ d, rsaComponentsToDer n e = .ok d ∧ IsDistinguishedKey d (beNat n) (beNat e)

/-- **The registered keys that have 2048 bits and are written in the distinguished encoding**:
those without spare zeros in front, whose modulus starts with a high bit if it has just 256 bytes,
and of lengths that are written in the fewest bytes. -/
theorem registered_rsa_reads_strictly (E : Env) (data : Bytes) (alg : ℤ) (n e : Bytes)
    (h : AuthData.parseCoseKey E data = .ok (.rsa alg n e)) :
    ReadsStrictly n e ↔ (n.length = 256 → ∀ b ∈ n.head?, 0x80 ≤ b.toNat) ∧ Writable n e := by
  obtain ⟨-, hlen, he⟩ := AuthData.parseCoseKey_valid h
  have hn : n ≠ [] := by
    rintro rfl
    simp [AuthData.MIN_RSA_N_LEN] at hlen
  have hkey := isDistinguishedKey_rsaDer hn he
  refine ⟨?_, ?_⟩
  · rintro ⟨hbig, d, hd, hdist⟩
    obtain ⟨-, -, rfl⟩ := rsaComponentsToDer_eq_ok.mp hd
    have hw := hkey.mp hdist
    exact ⟨(two_pow_le_modulus hlen hw.modulus).mp hbig, hw⟩
  · rintro ⟨hfull, hw⟩
    exact ⟨(two_pow_le_modulus hlen hw.modulus).mpr hfull, rsaDer n e,
      rsaComponentsToDer_eq_ok.mpr ⟨hn, he, rfl⟩, hkey.mpr hw⟩

/-! ### Two RSA keys -/

/-- A COSE key with a modulus of 256 bytes and the exponent 65537, and what it decodes to. -/
def coseRsaKey (n : Bytes) : Bytes :=
  beBytes 11 0xa401030339010020590100 ++ n ++ [0x21, 0x43, 0x01, 0x00, 0x01]

def coseRsaKeyMap (n : Bytes) : List (Value × Value) :=
  [(.integer 1, .integer 3), (.integer 3, .integer (-257)), (.integer (-1), .bytes n),
    (.integer (-2), .bytes [0x01, 0x00, 0x01])]

/-- The record in which the key decodes. -/
def rsaKeyRecord (n : Bytes) : Record where
  cbor := [(coseRsaKey n, .map (coseRsaKeyMap n))]

lemma parse_coseRsaKey (n : Bytes) (h : n.length = 256) :
    AuthData.parseCoseKey (rsaKeyRecord n).env (coseRsaKey n) =
      .ok (.rsa (-257) n [0x01, 0x00, 0x01]) := by
  have hcbor : (rsaKeyRecord n).env.cborFromReader (coseRsaKey n) =
      .ok (.map (coseRsaKeyMap n), (coseRsaKey n).length) :=
    Record.env_cborFromReader (by simp [rsaKeyRecord])
  have hseen : (coseRsaKeyMap n).foldlM AuthData.seeKey [] = .ok [1, 3, -1, -2] := rfl
  have hkey : AuthData.coseKeyOfMap (coseRsaKeyMap n) = .ok (.rsa (-257) n [0x01, 0x00, 0x01]) := by
    rw [AuthData.coseKeyOfMap, hseen]
    simp [coseRsaKeyMap, AuthData.getInt, AuthData.getBytes, AuthData.parseRsaKey, i64TryFrom,
      COSE_KTY_OKP, COSE_KTY_EC2, COSE_KTY_RSA, COSE_RS256, AuthData.MIN_RSA_N_LEN, h,
      Outcome.okOr, Outcome.rejectIf]
  simp only [AuthData.parseCoseKey, hcbor, Outcome.ofExcept, Value.asMap, Outcome.okOr,
    Outcome.ok_bind, hkey]

/-- A modulus of 2048 bits. -/
def modulus2048 : Bytes :=
    beBytes 32 0xb2dab560a950773b250927c90cd6139143d260d72dbe0b706fd34a3296d3f817 ++
    beBytes 32 0x6c597a19da059d80cf506fb265e2777fe939e3562a75ad8e0cdd9d43cdcec7b9 ++
    beBytes 32 0x27c2bdbd45fdd81c82ca0219a96c484b657cb5315b4dfd44e9f6f8686f90cd1b ++
    beBytes 32 0x24227c269dcd249cec19941742e88353c17f429e191c498d3734560c554788cf ++
    beBytes 32 0xc2a214b7f1ab718865403c361935414ad7c83d6f668652261d15ccb1ab176a74 ++
    beBytes 32 0x8e1576ab6dd30368e2a032ef9851249192bc9880774bf7b0f336d726bd7f1d1d ++
    beBytes 32 0x377ffe5a965a89c79493788becbf6957350467e4ac24991b6524ef0fee93f15f ++
    beBytes 32 0x5aeae0e03af0ea6798cacf62a270c32764087d291a4f01a7db2753775b58e41f

/-- A modulus of 2040 bits, with a zero in front. -/
def modulus2040 : Bytes :=
    beBytes 32 0x00e08c37b87886acdd531892994ce1955e1795b175817a334bf1e0b2d76576d3 ++
    beBytes 32 0xa18abb313dd68d5e9a78aebc56b5fb636e0d0af8f147b7291b2e7a4a2851e011 ++
    beBytes 32 0xde0500d93b4d87b4a9d5c05c440593d674c5ad013f45a9bf2fef0d42fdfd69ae ++
    beBytes 32 0x5ee5d233c9e2c5d02993e4d60e5593db6232b8b5981227195417d2ee6338241d ++
    beBytes 32 0x8307049e288400931b39f2cdd96c882d22ac833e63259f13aad97c1a32f5c0ee ++
    beBytes 32 0xf500fbdab31a7c27e44cb12056b324221d6f5f49e0ce53d99fb8ec5f268896d6 ++
    beBytes 32 0xacced03a5ff51131965432a1ea11d65065097f20c10bc5d0ea99aebe9646de3d ++
    beBytes 32 0x41d09269b900d75a21226ab8836c6aa2ea36406784485f650221d94ba9549fa9

lemma length_modulus2048 : modulus2048.length = 256 := by simp [modulus2048]

lemma length_modulus2040 : modulus2040.length = 256 := by simp [modulus2040]

theorem registered_rsa_reads_strictly_2048 : ReadsStrictly modulus2048 [0x01, 0x00, 0x01] := by
  have hparse := parse_coseRsaKey modulus2048 length_modulus2048
  refine (registered_rsa_reads_strictly _ _ _ _ _ hparse).mpr ⟨fun _ => ?_, ?_⟩
  · decide +kernel
  · exact ⟨trivial, trivial, Or.inl (by decide +kernel), Or.inl (by decide +kernel),
      Or.inl (by decide +kernel)⟩

/-- **A key that registers and is too small**: the zero in front of its modulus counts as one
of the 256 bytes. -/
theorem registered_rsa_not_strict : ¬ ∀ (E : Env) (data : Bytes) (alg : ℤ) (n e : Bytes),
    AuthData.parseCoseKey E data = .ok (.rsa alg n e) → ReadsStrictly n e := by
  intro h
  have hparse := parse_coseRsaKey modulus2040 length_modulus2040
  obtain ⟨hbig, -⟩ := h _ _ _ _ _ hparse
  revert hbig
  decide +kernel

end Caden.RsaDer
