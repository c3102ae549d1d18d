import Caden.CoseKeys
import Caden.Demo
import Caden.RsaDer
import Mathlib.Data.Nat.Size

/-!
The keys that the simulated authenticator writes.

A written COSE key is decoded to the key it was written for. The components that are read off a
DER-encoded RSA key give the same DER back when the library encodes them.
-/

namespace Caden.Demo

open AuthData (CoseKey)

variable {ε : Type}

/-! ### COSE keys -/

/-- The sizes that registration accepts. -/
def Enrollable : PublicKey → Prop
  | .es256 x y => x.length = 32 ∧ y.length = 32
  | .es384 x y => x.length = 48 ∧ y.length = 48
  | .edDsa pk => pk.length = 32
  | .rs256 n e => AuthData.MIN_RSA_N_LEN ≤ n.length ∧ e ≠ []

/-- The COSE key of an authenticator with the given key. -/
def encodeKey (W : Writers) : PublicKey → Outcome ε Bytes
  | .es256 x y => encodeEs256CoseKey W (uncompressed x y)
  | .es384 x y => encodeEs384CoseKey W (uncompressed x y)
  | .edDsa pk => encodeEddsaCoseKey W pk
  | .rs256 n e => return encodeRs256CoseKey W n e

/-- The response to a registration. -/
def register (E : Env) (W : Writers) (rpId : String) (key : PublicKey) (credId : Bytes)
    (count : UInt32) (challenge : Bytes) (origin : String) :
    Outcome ε AuthenticatorAttestationResponse := do
  let coseKey ← encodeKey W key
  return {
    clientDataJson := makeClientDataJsonBytes W "webauthn.create" challenge origin
    attestationObject := makeAttestationObject W
      (makeAuthenticatorData E rpId 0x41 count (some (credId, coseKey))) }

/-- The entries of a COSE key. -/
def coseEntries : PublicKey → List (Value × Value)
  | .es256 x y => [(.integer 1, .integer 2), (.integer 3, .integer (-7)),
      (.integer (-1), .integer 1), (.integer (-2), .bytes x), (.integer (-3), .bytes y)]
  | .es384 x y => [(.integer 1, .integer 2), (.integer 3, .integer (-35)),
      (.integer (-1), .integer 2), (.integer (-2), .bytes x), (.integer (-3), .bytes y)]
  | .edDsa pk => [(.integer 1, .integer 1), (.integer 3, .integer (-8)),
      (.integer (-1), .integer 6), (.integer (-2), .bytes pk)]
  | .rs256 n e => [(.integer 1, .integer 3), (.integer 3, .integer (-257)),
      (.integer (-1), .bytes n), (.integer (-2), .bytes e)]

/-- What a COSE key is decoded to. -/
def decodedKey : PublicKey → CoseKey
  | .es256 x y => .ec2 (-7) 1 x y
  | .es384 x y => .ec2 (-35) 2 x y
  | .edDsa pk => .okp (-8) pk
  | .rs256 n e => .rsa (-257) n e

section
variable {W : Writers} {key : PublicKey} {size : ℕ} {alg crv : ℤ} {x y : Bytes}

lemma encodeEc2CoseKey_uncompressed (hx : x.length = size) (hy : y.length = size) :
    (encodeEc2CoseKey W size alg crv (uncompressed x y) : Outcome ε Bytes) =
      .ok (W.cborIntoWriter (.map [(.integer 1, .integer 2), (.integer 3, .integer alg),
        (.integer (-1), .integer crv), (.integer (-2), .bytes x), (.integer (-3), .bytes y)])) := by
  have hlen := Offer.uncompressed_length x y
  simp only [encodeEc2CoseKey, Outcome.bind_eq_ok, Outcome.assert_eq_ok, Slice.slice_eq_ok,
    exists_const, Outcome.pure_eq, Outcome.ok.injEq]
  refine ⟨by omega, x, ⟨⟨by omega, by omega⟩, ?_⟩, y, ⟨⟨by omega, by omega⟩, ?_⟩, rfl⟩
  · rw [uncompressed, Nat.add_sub_cancel_left, List.drop_succ_cons, List.drop_zero,
      List.take_left' hx]
  · rw [uncompressed, Nat.add_comm 1 size, List.drop_succ_cons, List.drop_left' hx]
    exact List.take_of_length_le (by omega)

lemma encodeKey_eq (h : Enrollable key) :
    (encodeKey W key : Outcome ε Bytes) = .ok (W.cborIntoWriter (.map (coseEntries key))) := by
  cases key with
  | es256 x y => exact encodeEc2CoseKey_uncompressed h.1 h.2
  | es384 x y => exact encodeEc2CoseKey_uncompressed h.1 h.2
  | edDsa pk =>
    rw [encodeKey, encodeEddsaCoseKey, Outcome.assert, if_pos (show pk.length = 32 from h)]
    rfl
  | rs256 n e => rfl

/-- **A written COSE key is decoded to the key it was written for.** -/
lemma coseKeyOfMap_coseEntries (h : Enrollable key) :
    AuthData.coseKeyOfMap (coseEntries key) = .ok (decodedKey key) := by
  refine CoseKeys.coseKeyOfMap_iff.mpr ⟨?_, ?_⟩
  · cases key with
    | es256 x y => exact (show ([1, 3, -1, -2, -3] : List ℤ).Nodup by decide)
    | es384 x y => exact (show ([1, 3, -1, -2, -3] : List ℤ).Nodup by decide)
    | edDsa pk => exact (show ([1, 3, -1, -2] : List ℤ).Nodup by decide)
    | rs256 n e => exact (show ([1, 3, -1, -2] : List ℤ).Nodup by decide)
  · cases key <;> simpa [CoseKeys.Describes, coseEntries, decodedKey, Enrollable,
      AuthData.MIN_RSA_N_LEN] using h

lemma typedKey_decodedKey (key : PublicKey) : Registration.typedKey (decodedKey key) = key := by
  cases key <;> rfl

end

/-! ### Reading at a position -/

/-- From the position `pos` on, the bytes are `rest`. -/
structure At (der : Bytes) (pos : ℕ) (rest : Bytes) : Prop where
  le : pos ≤ der.length
  drop : der.drop pos = rest

section
variable {der rest field c : Bytes} {tag b : UInt8} {len pos : ℕ}

lemma At.append (h : At der pos (c ++ rest)) : At der (pos + c.length) rest := by
  have hlen := congrArg List.length h.drop
  rw [List.length_drop, List.length_append] at hlen
  refine ⟨by have := h.le; omega, ?_⟩
  rw [← List.drop_drop, h.drop, List.drop_left]

lemma At.tail (h : At der pos (b :: rest)) : At der (pos + 1) rest :=
  At.append (c := [b]) h

lemma At.index (h : At der pos (b :: rest)) :
    (Slice.index der pos : Outcome ε UInt8) = .ok b := by
  rw [Slice.index_eq_ok, ← List.head?_drop, h.drop, List.head?_cons]

lemma At.slice (h : At der pos (c ++ rest)) :
    (Slice.slice der pos (pos + c.length) : Outcome ε Bytes) = .ok c := by
  rw [Slice.slice_eq_ok, h.drop, Nat.add_sub_cancel_left, List.take_left]
  exact ⟨⟨Nat.le_add_right _ _, h.append.le⟩, rfl⟩

lemma At.skipTag (h : At der pos (tag :: rest)) :
    (skipTag der pos tag : Outcome ε ℕ) = .ok (pos + 1) := by
  rw [Demo.skipTag, h.index, Outcome.ok_bind, Outcome.assert, if_pos rfl]
  rfl

lemma At.foldlM_lengthStep (steps : List ℕ) (acc : ℕ) (hsteps : steps.length = c.length)
    (h : At der pos (c ++ rest)) :
    (steps.foldlM (lengthStep der) (acc, pos) : Outcome ε (ℕ × ℕ)) =
      .ok (c.foldl (fun len b => (len <<< 8) % 2 ^ 64 ||| b.toNat) acc, pos + c.length) := by
  induction c generalizing pos acc steps with
  | nil =>
    rw [List.length_eq_zero_iff.mp hsteps]
    rfl
  | cons b c ih =>
    obtain _ | ⟨i, steps⟩ := steps
    · cases hsteps
    · have hstep : (lengthStep der (acc, pos) i : Outcome ε (ℕ × ℕ)) =
          .ok ((acc <<< 8) % 2 ^ 64 ||| b.toNat, pos + 1) := by
        rw [lengthStep, h.index]
        rfl
      rw [List.foldlM_cons, hstep, Outcome.ok_bind, ih steps _ (Nat.succ.inj hsteps) h.tail,
        List.foldl_cons, List.length_cons, Nat.add_assoc, Nat.add_comm 1]

lemma first_of_lengthForm (h : Der.LengthForm len field) : ∃ first octets,
    field = first :: octets ∧
    ((first < 0x80 ∧ octets = [] ∧ first.toNat = len) ∨
      (¬ first < 0x80 ∧ (first &&& 0x7f).toNat = octets.length ∧ beNat octets = len)) := by
  cases h with
  | short hlen =>
    have hval : (UInt8.ofNat len).toNat = len :=
      UInt8.toNat_ofNat_of_lt' (by simp only [UInt8.size]; omega)
    refine ⟨_, _, rfl, Or.inl ⟨?_, rfl, hval⟩⟩
    rw [UInt8.lt_iff_toNat_lt, hval]
    exact hlen
  | @long octets hne hlong =>
    have hval := Der.toNat_ofNat_add hlong
    have hpos := List.length_pos_iff.mpr hne
    refine ⟨_, octets, rfl, Or.inr ⟨?_, ?_, rfl⟩⟩
    · rw [UInt8.lt_iff_toNat_lt, hval]
      exact not_lt.mpr (Nat.le_add_right _ _)
    · rw [Der.and_0x7f, hval]
      omega

lemma skip_lengthForm (hfield : Der.LengthForm len field) : ∃ first octets,
    field = first :: octets ∧
    ∀ pos, (if first < 0x80 then pos + 1 else pos + (1 + (first &&& 0x7f).toNat)) =
      pos + field.length := by
  obtain ⟨first, octets, rfl, ⟨hlt, rfl, -⟩ | ⟨hge, hnum, -⟩⟩ := first_of_lengthForm hfield
  · exact ⟨first, [], rfl, fun pos => if_pos hlt⟩
  · refine ⟨first, octets, rfl, fun pos => ?_⟩
    rw [if_neg hge, hnum, List.length_cons, Nat.add_comm 1]

lemma At.readLength (h : At der pos (field ++ rest)) (hfield : Der.LengthForm len field)
    (hlen : len < 2 ^ 64) :
    (readLength der pos : Outcome ε (ℕ × ℕ)) = .ok (len, pos + field.length) := by
  obtain ⟨first, octets, rfl, ⟨hlt, rfl, rfl⟩ | ⟨hge, hnum, rfl⟩⟩ := first_of_lengthForm hfield
  · rw [Demo.readLength, h.index, Outcome.ok_bind, if_pos hlt]
    rfl
  · rw [Demo.readLength, h.index, Outcome.ok_bind, if_neg hge, hnum,
      h.tail.foldlM_lengthStep _ 0 List.length_range,
      CertBytes.foldl_shift_mod _ _ (by decide), Nat.zero_mul, Nat.zero_add,
      Nat.mod_eq_of_lt hlen, List.length_cons, Nat.add_assoc, Nat.add_comm 1]

/-! ### RSA components -/

/-- The bytes without a leading zero. -/
def dropZero : Bytes → Bytes
  | 0 :: rest => rest
  | b => b

lemma At.slice_dropZero (h : At der pos (c ++ rest)) (hc : c ≠ []) :
    ∃ b, (Slice.index der pos : Outcome ε UInt8) = .ok b ∧
      (Slice.slice der (if b = 0x00 then pos + 1 else pos) (pos + c.length) : Outcome ε Bytes) =
        .ok (dropZero c) := by
  obtain _ | ⟨b, c⟩ := c
  · exact absurd rfl hc
  · refine ⟨b, h.index, ?_⟩
    by_cases hb : b = 0
    · subst hb
      rw [if_pos rfl, List.length_cons, Nat.add_comm c.length 1, ← Nat.add_assoc]
      exact h.tail.slice
    · rw [if_neg hb, show dropZero (b :: c) = b :: c by simp [dropZero, hb]]
      exact h.slice

/-- **What is extracted**: the contents of the two integers, the first without a leading zero,
however the lengths before them are encoded. -/
lemma extractRsaComponents_eq {outer cn ce : Bytes} (houter : Der.LengthForm len outer)
    (hfield : Der.LengthForm cn.length field) (hcn : cn ≠ []) (hlen : cn.length < 2 ^ 64)
    (hce : ce.length < 0x80) (hder : der = 0x30 :: (outer ++ 0x02 :: (field ++ (cn ++
      0x02 :: UInt8.ofNat ce.length :: ce)))) :
    (extractRsaComponents der : Outcome ε (Bytes × Bytes)) = .ok (dropZero cn, ce) := by
  have hsize : (UInt8.ofNat ce.length).toNat = ce.length :=
    UInt8.toNat_ofNat_of_lt' (by simp only [UInt8.size]; omega)
  have hsequence : At der 0 (0x30 :: _) := ⟨Nat.zero_le _, hder⟩
  have hfirst := hsequence.tail
  have hinteger := hfirst.append
  have hcontents := hinteger.tail.append
  have hexponent := hcontents.append
  have hrest : At der _ (ce ++ []) := (List.append_nil ce).symm ▸ hexponent.tail.tail
  obtain ⟨first, octets, rfl, hskip⟩ := skip_lengthForm houter
  obtain ⟨b, hb, hn⟩ := hcontents.slice_dropZero (ε := ε) hcn
  simp only [extractRsaComponents, hsequence.skipTag, hfirst.index, Outcome.ok_bind, hskip,
    hinteger.skipTag, hinteger.tail.readLength hfield hlen, hb, hn, hexponent.skipTag,
    hexponent.tail.index, hsize, hrest.slice, Outcome.pure_eq]

end

lemma unsigned_of_intValue {c : Bytes} {v : ℕ} (h : Der.intValue c = v) :
    Der.unsigned c = c ∧ beNat c = v := by
  have hlt : (beNat c : ℤ) < 256 ^ c.length := by exact_mod_cast beNat_lt c
  unfold Der.intValue at h
  split at h
  · omega
  · rename_i hhead
    exact ⟨if_neg hhead, by exact_mod_cast h⟩

lemma unsigned_dropZero {c : Bytes} (hc : Der.MinimalInteger c) (hu : Der.unsigned c = c)
    (h0 : beNat c ≠ 0) : Der.unsigned (dropZero c) = c ∧ dropZero c ≠ [] ∧
      beNat (dropZero c) = beNat c ∧ (dropZero c).head? ≠ some 0 := by
  obtain _ | ⟨x, t⟩ := c
  · exact absurd rfl h0
  · by_cases hx : x = 0
    · subst hx
      obtain _ | ⟨y, t⟩ := t
      · exact absurd rfl h0
      · have hy : 0x80 ≤ y.toNat := not_lt.mp fun hy => hc.1 ⟨rfl, hy⟩
        have hy0 : y ≠ 0 := by
          rintro rfl
          exact absurd hy (by decide)
        refine ⟨?_, List.cons_ne_nil _ _, (beNat_zero_cons _).symm, ?_⟩
        · rw [show dropZero (0 :: y :: t) = y :: t from rfl, Der.unsigned_cons, if_pos hy]
        · simpa [dropZero] using hy0
    · rw [show dropZero (x :: t) = x :: t by simp [dropZero, hx]]
      exact ⟨hu, List.cons_ne_nil _ _, rfl, by simpa using hx⟩

lemma length_contents_lt {c : Bytes} (hc : Der.MinimalInteger c) (h : (beNat c).size ≤ 1015) :
    c.length < 0x80 := by
  have hpow : (2 : ℕ) ^ 1015 = 0x80 * 256 ^ 126 := by
    rw [show (0x80 : ℕ) = 2 ^ 7 by rfl, show (256 : ℕ) = 2 ^ 8 by rfl, ← pow_mul, ← pow_add]
  replace h := Nat.size_le.mp h
  by_contra hlong
  obtain _ | ⟨x, _ | ⟨y, t⟩⟩ := c
  · exact hlong (by decide)
  · exact hlong (by simp)
  · simp only [List.length_cons] at hlong
    have hle : 256 ^ 126 ≤ 256 ^ t.length := Nat.pow_le_pow_right (by decide) (by omega)
    by_cases hx : x = 0
    · subst hx
      have hy : 0x80 ≤ y.toNat := not_lt.mp fun hy => hc.1 ⟨rfl, hy⟩
      have hlow := le_beNat_cons y t
      have hmul : 0x80 * 256 ^ t.length ≤ y.toNat * 256 ^ t.length :=
        Nat.mul_le_mul_right _ hy
      rw [beNat_zero_cons] at h
      omega
    · have hlow := pow_le_beNat_cons hx (y :: t)
      rw [List.length_cons, pow_succ] at hlow
      omega

lemma eq_of_isDistinguished {tag : UInt8} {c d : Bytes} (h : Der.IsDistinguished tag c d)
    (hlen : d.length < 2 ^ 16) : c.length < d.length ∧
      d = tag :: (Crypto.derLength c.length ++ c) := by
  obtain ⟨field, hfield, rfl⟩ := h
  have hc : c.length < (tag :: (field ++ c)).length := by
    rw [List.length_cons, List.length_append]
    omega
  have hfew : RsaDer.FewOctets c.length := Or.inl (hc.trans hlen)
  refine ⟨hc, ?_⟩
  rw [hfield.unique ((RsaDer.minimalLength_derLength hfew.lt).mpr hfew)]

/-- **The components of a key in the distinguished encoding** are the contents of its integers,
the modulus without a leading zero. -/
lemma extractRsaComponents_of_isDistinguished {cn ce bn be d : Bytes}
    (hbn : Der.IsDistinguished 0x02 cn bn) (hbe : Der.IsDistinguished 0x02 ce be)
    (hd : Der.IsDistinguished 0x30 (bn ++ be) d) (hcn : cn ≠ []) (hce : ce.length < 0x80)
    (hlen : d.length < 2 ^ 16) :
    (extractRsaComponents d : Outcome ε (Bytes × Bytes)) = .ok (dropZero cn, ce) := by
  obtain ⟨hlt, hd⟩ := eq_of_isDistinguished hd hlen
  rw [List.length_append] at hlt
  obtain ⟨hcnlt, hbn⟩ := eq_of_isDistinguished hbn (by omega)
  obtain ⟨-, hbe⟩ := eq_of_isDistinguished hbe (by omega)
  have hshort : Crypto.derLength ce.length = [UInt8.ofNat ce.length] := if_pos hce
  have hform := (RsaDer.definiteLength_derLength (bn ++ be).length).lengthForm
  have hfield := (RsaDer.definiteLength_derLength cn.length).lengthForm
  rw [Nat.mod_eq_of_lt (by omega)] at hfield
  refine extractRsaComponents_eq hform hfield hcn (by omega) hce ?_
  rw [hshort] at hbe
  rw [hd]
  nth_rewrite 2 [hbn]
  nth_rewrite 2 [hbe]
  simp

/-- **A key survives the way through its components.** From the distinguished encoding of a key
the modulus and the exponent are extracted, the modulus without leading zeros, and from these
the library writes the same encoding again. -/
theorem extracted_key_rebuilt (d : Bytes) (vn ve : ℕ) (h : RsaDer.IsDistinguishedKey d vn ve)
    (hn : vn ≠ 0) (he : ve.size ≤ 1015) (hlen : d.length < 2 ^ 16) :
    ∃ n e, (extractRsaComponents d : Res (Bytes × Bytes)) = .ok (n, e) ∧ beNat n = vn ∧
      beNat e = ve ∧ n.head? ≠ some 0 ∧ Crypto.rsaComponentsToDer n e = .ok d := by
  obtain ⟨cn, bn, ce, be, hbn, hcn, hvn, hbe, hce, hve, hd⟩ := h
  obtain ⟨hun, rfl⟩ := unsigned_of_intValue hvn
  obtain ⟨hue, rfl⟩ := unsigned_of_intValue hve
  obtain ⟨hmodulus, hne, hvalue, hhead⟩ := unsigned_dropZero hcn hun hn
  have hcn0 : cn ≠ [] := by
    rintro rfl
    exact hn rfl
  have hce0 : ce ≠ [] := by
    rintro rfl
    exact hce
  refine ⟨dropZero cn, ce, extractRsaComponents_of_isDistinguished hbn hbe hd hcn0
    (length_contents_lt hce he) hlen, hvalue, rfl, hhead, ?_⟩
  obtain ⟨hlt, hd⟩ := eq_of_isDistinguished hd hlen
  rw [List.length_append] at hlt
  obtain ⟨-, hbn⟩ := eq_of_isDistinguished hbn (by omega)
  obtain ⟨-, hbe⟩ := eq_of_isDistinguished hbe (by omega)
  rw [Crypto.rsaComponentsToDer_eq_ok]
  refine ⟨hne, hce0, ?_⟩
  rw [Crypto.rsaDer, RsaDer.derIntegerOf_eq, RsaDer.derIntegerOf_eq, hmodulus, hue, ← hbn,
    ← hbe, hd]
  rfl

/-- The modulus of the key of the demo. -/
def demoModulus : Bytes :=
    beBytes 32 0xb7e00fc9dbface64a6e2b7fba21c0914fbd626e517ccf66bf58ebb690750c0bb ++
    beBytes 32 0x4ce76ed8a46a6929fcc9520cdb04eca2ef277d8ffa9daa1059547b4278dbaed4 ++
    beBytes 32 0x240ad40669b0e2a568ca2d4134b064af6113c932fc93564f827beaff20e51c56 ++
    beBytes 32 0xb6e0f4aa6a20d21c4671e6059a9699ad5a6f78fda706f8fd2dea91f29eacc043 ++
    beBytes 32 0x452d79b0f2245a8c91e6c6c2fe508d648206776eef7d616e80d187fb2535c6e8 ++
    beBytes 32 0x3aec38ce4570f856c76eb720db725182d0d2d2bdc9e03cefbb9370ddfbd4da6e ++
    beBytes 32 0xf673b379f7e84972224492d8e43e04bc83b26c594a79111e33d64be6247bdf93 ++
    beBytes 32 0x181db3270b73bbffa8e213a08f392c21c15ef1a882252819aec93f092d8c81a5

lemma length_derLength_le {len : ℕ} (h : len < 2 ^ 16) : (Crypto.derLength len).length ≤ 3 := by
  unfold Crypto.derLength
  split_ifs <;> simp only [List.length_cons, List.length_nil] <;> omega

lemma length_unsigned_le (b : Bytes) : (Der.unsigned b).length ≤ b.length + 1 := by
  unfold Der.unsigned
  split <;> simp

lemma length_derIntegerOf_le {b : Bytes} (h : b.length + 1 < 2 ^ 16) :
    (Crypto.derIntegerOf b).length ≤ b.length + 5 := by
  have hb := length_unsigned_le b
  have hle := length_derLength_le (hb.trans_lt h)
  rw [RsaDer.derIntegerOf_eq, List.length_cons, List.length_append]
  omega

lemma isDistinguishedKey_short {n e : Bytes} (hn : n ≠ []) (he : e ≠ [])
    (hmodulus : Der.NoSpareZero n) (hexponent : Der.NoSpareZero e)
    (hlen : n.length + e.length + 14 < 2 ^ 16) :
    RsaDer.IsDistinguishedKey (Crypto.rsaDer n e) (beNat n) (beNat e) ∧
      (Crypto.rsaDer n e).length < 2 ^ 16 := by
  have hnle := length_unsigned_le n
  have hele := length_unsigned_le e
  have hnder := length_derIntegerOf_le (show n.length + 1 < 2 ^ 16 by omega)
  have heder := length_derIntegerOf_le (show e.length + 1 < 2 ^ 16 by omega)
  have hnfew : RsaDer.FewOctets (Der.unsigned n).length := Or.inl (by omega)
  have hefew : RsaDer.FewOctets (Der.unsigned e).length := Or.inl (by omega)
  refine ⟨(RsaDer.isDistinguishedKey_rsaDer hn he).mpr ⟨hmodulus, hexponent, hnfew, hefew, ?_⟩, ?_⟩
  · rw [List.length_append, ← RsaDer.length_derIntegerOf hnfew,
      ← RsaDer.length_derIntegerOf hefew]
    exact Or.inl (by omega)
  · have hsum : (Crypto.derIntegerOf n ++ Crypto.derIntegerOf e).length =
        (Crypto.derIntegerOf n).length + (Crypto.derIntegerOf e).length := List.length_append
    have hle := length_derLength_le (show (Crypto.derIntegerOf n ++
      Crypto.derIntegerOf e).length < 2 ^ 16 by omega)
    rw [Crypto.rsaDer, Crypto.derSequence, List.cons_append, List.length_cons,
      List.length_append]
    omega

/-- The key of the demo survives. -/
theorem demo_key_rebuilt : ∃ n e,
    (extractRsaComponents (Crypto.rsaDer demoModulus [0x01, 0x00, 0x01]) : Res (Bytes × Bytes)) =
      .ok (n, e) ∧ beNat n = beNat demoModulus ∧ beNat e = 65537 ∧ n.head? ≠ some 0 ∧
    Crypto.rsaComponentsToDer n e = .ok (Crypto.rsaDer demoModulus [0x01, 0x00, 0x01]) := by
  have hlen : demoModulus.length = 256 := by simp [demoModulus]
  obtain ⟨x, t, hx, hcons⟩ : ∃ x t, x ≠ 0 ∧ demoModulus = x :: t := ⟨0xb7, _, by decide, rfl⟩
  have hspare : Der.NoSpareZero demoModulus := by
    rw [hcons]
    simp [Der.NoSpareZero, hx]
  obtain ⟨hkey, hshort⟩ := isDistinguishedKey_short (e := [0x01, 0x00, 0x01])
    (List.length_pos_iff.mp (by omega)) (by decide) hspare trivial (by rw [hlen]; decide)
  refine extracted_key_rebuilt _ _ 65537 hkey ?_ ?_ hshort
  · rw [hcons, Ne, beNat_cons_eq_zero]
    exact fun h => hx h.1
  · calc Nat.size 65537 ≤ 17 := Nat.size_le.mpr (by decide)
      _ ≤ 1015 := by decide

end Caden.Demo
