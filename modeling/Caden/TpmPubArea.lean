import Caden.RsaDer
import Caden.TpmFormat

/-!
The public area, field by field, and the check of it against the credential's key.

The check reads the layout with four bytes for the symmetric algorithm. A TPM writes two for
the null algorithm, and the fields behind them are read two bytes too late.
-/

namespace Caden.TpmPubArea

open Tpm TpmFormat

variable {data body s t : Bytes} {pos w : ℕ}

/-! ### Four pieces -/

section
variable {k l m n : ℕ} {a a' : ArrayN UInt8 k} {b b' : ArrayN UInt8 l} {c c' : ArrayN UInt8 m}
  {d d' : ArrayN UInt8 n}

lemma four_unique (h : a.toList ++ (b.toList ++ (c.toList ++ (d.toList ++ s))) =
    a'.toList ++ (b'.toList ++ (c'.toList ++ (d'.toList ++ t)))) :
    a = a' ∧ b = b' ∧ c = c' ∧ d = d' ∧ s = t := by
  obtain ⟨ha, h1⟩ := array_unique h
  obtain ⟨hb, h2⟩ := array_unique h1
  obtain ⟨hc, h3⟩ := array_unique h2
  obtain ⟨hd, h4⟩ := array_unique h3
  exact ⟨ha, hb, hc, hd, h4⟩

variable (a b c d) in
lemma drop_four :
    (a.toList ++ (b.toList ++ (c.toList ++ (d.toList ++ s)))).drop (k + l + m + n) = s := by
  rw [← List.drop_drop, ← List.drop_drop, ← List.drop_drop, List.drop_left' a.toList_length,
    List.drop_left' b.toList_length, List.drop_left' c.toList_length,
    List.drop_left' d.toList_length]

end

/-! ### The public area -/

/-- The parameters and the unique field of a key, with `w` bytes for the symmetric algorithm. -/
inductive Key (w : ℕ) where
  | ecc (symmetric : ArrayN UInt8 w) (scheme curveID kdf : ArrayN UInt8 2) (x y : Sized)
  | rsa (symmetric : ArrayN UInt8 w) (scheme keyBits : ArrayN UInt8 2)
      (exponent : ArrayN UInt8 4) (modulus : Sized)

namespace Key

/-- The type that announces the key. -/
def type : Key w → ArrayN UInt8 2
  | ecc .. => Slice.pair 0x00 0x23
  | rsa .. => Slice.pair 0x00 0x01

def encode : Key w → Bytes
  | ecc symmetric scheme curveID kdf x y =>
    symmetric.toList ++ (scheme.toList ++ (curveID.toList ++ (kdf.toList ++
      (x.encode ++ y.encode))))
  | rsa symmetric scheme keyBits exponent modulus =>
    symmetric.toList ++ (scheme.toList ++ (keyBits.toList ++ (exponent.toList ++ modulus.encode)))

/-- The unique field is the credential's. -/
def UniqueOf : Key w → PublicKey → Prop
  | ecc _ _ _ _ x y, .es256 cx cy => x.bytes = cx ∧ y.bytes = cy
  | ecc _ _ _ _ x y, .es384 cx cy => x.bytes = cx ∧ y.bytes = cy
  | rsa _ _ _ _ modulus, .rs256 n _ => beNat modulus.bytes = beNat n
  | _, _ => False

/-- The exponent of a TPM key, where zero stands for 65537. -/
def exponentValue (exponent : ArrayN UInt8 4) : ℕ :=
  if beNat exponent.toList = 0 then 65537 else beNat exponent.toList

/-- The curve, or the exponent, is the credential's. -/
def ParametersOf : Key w → PublicKey → Prop
  | ecc _ _ curveID _ _ _, .es256 _ _ => beNat curveID.toList = 0x0003
  | ecc _ _ curveID _ _ _, .es384 _ _ => beNat curveID.toList = 0x0004
  | rsa _ _ _ exponent _, .rs256 _ e => exponentValue exponent = beNat e
  | _, _ => False

lemma uniqueOf_rsa_iff {symmetric : ArrayN UInt8 w} {scheme keyBits : ArrayN UInt8 2}
    {exponent : ArrayN UInt8 4} {modulus : Sized} {pk : PublicKey} :
    (rsa symmetric scheme keyBits exponent modulus).UniqueOf pk ↔
      ∃ n e, pk = .rs256 n e ∧ beNat modulus.bytes = beNat n := by
  cases pk <;> simp [UniqueOf]

lemma UniqueOf.point_eq {symmetric : ArrayN UInt8 w} {scheme curveID kdf : ArrayN UInt8 2}
    {x y x' y' : Sized} {pk : PublicKey} (h : (ecc symmetric scheme curveID kdf x y).UniqueOf pk)
    (h' : (ecc symmetric scheme curveID kdf x' y').UniqueOf pk) :
    x.bytes = x'.bytes ∧ y.bytes = y'.bytes := by
  cases pk with
  | es256 cx cy => exact ⟨h.1.trans h'.1.symm, h.2.trans h'.2.symm⟩
  | es384 cx cy => exact ⟨h.1.trans h'.1.symm, h.2.trans h'.2.symm⟩
  | edDsa => exact h.elim
  | rs256 => exact h.elim

lemma unique {a b : Key w} (htype : a.type = b.type) (h : a.encode ++ s = b.encode ++ t) :
    a = b ∧ s = t := by
  have hne : (Slice.pair 0x00 0x23 : ArrayN UInt8 2) ≠ Slice.pair 0x00 0x01 := by decide
  cases a with
  | ecc symmetric scheme curveID kdf x y =>
    cases b with
    | ecc symmetric' scheme' curveID' kdf' x' y' =>
      simp only [encode, List.append_assoc] at h
      obtain ⟨rfl, rfl, rfl, rfl, h4⟩ := four_unique h
      obtain ⟨rfl, h5⟩ := Sized.unique h4
      obtain ⟨rfl, h6⟩ := Sized.unique h5
      exact ⟨rfl, h6⟩
    | rsa => exact absurd htype hne
  | rsa symmetric scheme keyBits exponent modulus =>
    cases b with
    | ecc => exact absurd htype.symm hne
    | rsa symmetric' scheme' keyBits' exponent' modulus' =>
      simp only [encode, List.append_assoc] at h
      obtain ⟨rfl, rfl, rfl, rfl, h4⟩ := four_unique h
      obtain ⟨rfl, h5⟩ := Sized.unique h4
      exact ⟨rfl, h5⟩

end Key

/-- A public area. -/
structure PubArea (w : ℕ) where
  nameAlg : ArrayN UInt8 2
  attributes : ArrayN UInt8 4
  authPolicy : Sized
  key : Key w

namespace PubArea

def encode (a : PubArea w) : Bytes :=
  a.key.type.toList ++ (a.nameAlg.toList ++ (a.attributes.toList ++
    (a.authPolicy.encode ++ a.key.encode)))

lemma unique {a b : PubArea w} (h : a.encode ++ s = b.encode ++ t) : a = b := by
  simp only [encode, List.append_assoc] at h
  obtain ⟨htype, h1⟩ := array_unique h
  obtain ⟨hname, h2⟩ := array_unique h1
  obtain ⟨hattr, h3⟩ := array_unique h2
  obtain ⟨hpolicy, h4⟩ := Sized.unique h3
  obtain ⟨hkey, -⟩ := Key.unique htype h4
  obtain ⟨_, _, _, _⟩ := a
  obtain ⟨_, _, _, _⟩ := b
  simp_all only

lemma drop_encode (a : PubArea w) (hdata : data = a.encode ++ s) :
    (∃ rest, data.drop 0 = a.key.type.toList ++ rest) ∧
      (∃ rest, data.drop 8 = a.authPolicy.size.toList ++ rest) ∧
      data.drop (10 + beNat a.authPolicy.size.toList) = a.key.encode ++ s := by
  simp only [encode, Sized.encode, List.append_assoc] at hdata
  have htype : data.drop 0 = _ := hdata
  have hname := drop_piece htype a.key.type.toList_length
  have hattr := drop_piece hname a.nameAlg.toList_length
  have hsize := drop_piece hattr a.attributes.toList_length
  have hpolicy := drop_piece hsize a.authPolicy.size.toList_length
  exact ⟨⟨_, htype⟩, ⟨_, hsize⟩, drop_piece hpolicy a.authPolicy.beNat_size.symm⟩

lemma length_le_encode (a : PubArea w) : 10 ≤ a.encode.length := by
  simp only [encode, List.length_append, List.Vector.toList_length, Sized.length_encode]
  omega

end PubArea

/-! ### What the public area is checked for -/

section
variable {pk : PublicKey}

lemma strip_eq (b : Bytes) : strip b = .ok (stripZeros b) := by
  rw [strip, Slice.sliceFrom_eq_ok]
  exact ⟨List.findIdx_le_length, rfl⟩

lemma matchEccPoint_eq_ok {x y : Sized} {u : Unit} {symmetric : ArrayN UInt8 w}
    {scheme curveID kdf : ArrayN UInt8 2} : matchEccPoint x.bytes y.bytes pk = .ok u ↔
      (Key.ecc symmetric scheme curveID kdf x y).UniqueOf pk := by
  cases pk <;> simp [matchEccPoint, Key.UniqueOf]

lemma matchRsaModulus_eq_ok {modulus : Sized} {u : Unit} {symmetric : ArrayN UInt8 w}
    {scheme keyBits : ArrayN UInt8 2} {exponent : ArrayN UInt8 4} :
    matchRsaModulus modulus.bytes pk = .ok u ↔
      (Key.rsa symmetric scheme keyBits exponent modulus).UniqueOf pk := by
  cases pk <;> simp [matchRsaModulus, Key.UniqueOf, strip_eq, stripZeros_eq_iff]

lemma readPoint_eq_ok {u : Unit} (hpos : pos < 2 ^ 62) :
    (do
      let (x, pos) ← tpmReadBlob data pos
      let (y, _) ← tpmReadBlob data pos
      matchEccPoint x y pk) = .ok u ↔
    ∃ (x y : Sized) (rest : Bytes), data.drop pos = x.encode ++ (y.encode ++ rest) ∧
      matchEccPoint x.bytes y.bytes pk = .ok u := by
  simp only [Outcome.bind_eq_ok, Prod.exists]
  refine ⟨?_, ?_⟩
  · rintro ⟨_, _, hx, _, _, hy, hmatch⟩
    obtain ⟨x, rest, hdrop, rfl, rfl⟩ := (tpmReadBlob_eq_ok (by omega)).mp hx
    have hbound := x.bound
    obtain ⟨y, rest', hdrop', rfl, -⟩ := (tpmReadBlob_eq_ok (by simp; omega)).mp hy
    rw [drop_piece hdrop rfl] at hdrop'
    exact ⟨x, y, rest', hdrop' ▸ hdrop, hmatch⟩
  · rintro ⟨x, y, rest, hdrop, hmatch⟩
    have hbound := x.bound
    exact ⟨_, _, (tpmReadBlob_eq_ok (by omega)).mpr ⟨x, _, hdrop, rfl, rfl⟩, _, _,
      (tpmReadBlob_eq_ok (by simp; omega)).mpr ⟨y, _, drop_piece hdrop rfl, rfl, rfl⟩, hmatch⟩

lemma readModulus_eq_ok {u : Unit} (hpos : pos < 2 ^ 62) :
    (do
      let (tpmModulus, _) ← tpmReadBlob data pos
      matchRsaModulus tpmModulus pk) = .ok u ↔
    ∃ (modulus : Sized) (rest : Bytes), data.drop pos = modulus.encode ++ rest ∧
      matchRsaModulus modulus.bytes pk = .ok u := by
  simp only [Outcome.bind_eq_ok, Prod.exists]
  refine ⟨?_, ?_⟩
  · rintro ⟨_, _, hm, hmatch⟩
    obtain ⟨m, rest, hdrop, rfl, -⟩ := (tpmReadBlob_eq_ok (by omega)).mp hm
    exact ⟨m, rest, hdrop, hmatch⟩
  · rintro ⟨m, rest, hdrop, hmatch⟩
    exact ⟨_, _, (tpmReadBlob_eq_ok (by omega)).mpr ⟨m, rest, hdrop, rfl, rfl⟩, hmatch⟩

lemma ecc_ne_rsa : (Slice.pair 0x00 0x23 : ArrayN UInt8 2) ≠ Slice.pair 0x00 0x01 := by decide

lemma verify_eq_ok {type size : ArrayN UInt8 2} {u : Unit} (hlen : 10 ≤ data.length)
    (htype : data.drop 0 = type.toList ++ s) (hsize : data.drop 8 = size.toList ++ t)
    (hbody : data.drop (10 + beNat size.toList) = body) :
    verifyPubAreaMatchesCredential data pk = .ok u ↔
      (type = Slice.pair 0x00 0x23 ∧ ∃ (x y : Sized) (rest : Bytes),
        body.drop 10 = x.encode ++ (y.encode ++ rest) ∧
        matchEccPoint x.bytes y.bytes pk = .ok u) ∨
      (type = Slice.pair 0x00 0x01 ∧ ∃ (modulus : Sized) (rest : Bytes),
        body.drop 12 = modulus.encode ++ rest ∧
        matchRsaModulus modulus.bytes pk = .ok u) := by
  have hecc : u16FromBeBytes type = 0x0023 ↔ type = Slice.pair 0x00 0x23 := by
    rw [← u16FromBeBytes_inj]
    rfl
  have hrsa : u16FromBeBytes type = 0x0001 ↔ type = Slice.pair 0x00 0x01 := by
    rw [← u16FromBeBytes_inj]
    rfl
  have hbound := (u16FromBeBytes size).toNat_lt
  rw [toNat_u16FromBeBytes] at hbound
  have hadd : checkedAdd 10 (beNat size.toList) = some (10 + beNat size.toList) :=
    checkedAdd_eq_some.mpr ⟨by omega, rfl⟩
  have hadd' : ∀ k ≤ 12, checkedAdd (10 + beNat size.toList) k =
      some (10 + beNat size.toList + k) := fun k hk => checkedAdd_eq_some.mpr ⟨by omega, rfl⟩
  rw [verifyPubAreaMatchesCredential, u16At_eq htype type rfl, u16At_eq hsize size rfl]
  simp only [Outcome.rejectIf, not_lt.mpr hlen, if_false, Outcome.ok_bind,
    toNat_u16FromBeBytes, hadd, hadd' 10 (by decide), hadd' 12 (by decide), Outcome.okOr,
    hecc, hrsa]
  by_cases h23 : type = Slice.pair 0x00 0x23
  · rw [if_pos h23, and_iff_right h23, or_iff_left fun h => ecc_ne_rsa (h23.symm.trans h.1),
      ← hbody, List.drop_drop]
    exact readPoint_eq_ok (by omega)
  · rw [if_neg h23, or_iff_right fun h => h23 h.1]
    by_cases h01 : type = Slice.pair 0x00 0x01
    · rw [if_pos h01, and_iff_right h01, ← hbody, List.drop_drop]
      exact readModulus_eq_ok (by omega)
    · rw [if_neg h01]
      refine iff_of_false (fun h => ?_) (fun h => h01 h.1)
      cases h

lemma verify_encode_eq_ok (a : PubArea w) (rest : Bytes) {u : Unit} :
    verifyPubAreaMatchesCredential (a.encode ++ rest) pk = .ok u ↔
      (a.key.type = Slice.pair 0x00 0x23 ∧ ∃ (x y : Sized) (rest' : Bytes),
        (a.key.encode ++ rest).drop 10 = x.encode ++ (y.encode ++ rest') ∧
        matchEccPoint x.bytes y.bytes pk = .ok u) ∨
      (a.key.type = Slice.pair 0x00 0x01 ∧ ∃ (modulus : Sized) (rest' : Bytes),
        (a.key.encode ++ rest).drop 12 = modulus.encode ++ rest' ∧
        matchRsaModulus modulus.bytes pk = .ok u) := by
  obtain ⟨⟨_, htype⟩, ⟨_, hsize⟩, hkey⟩ := a.drop_encode rfl
  have hlen : 10 ≤ (a.encode ++ rest).length := by
    rw [List.length_append]
    exact Nat.le_add_right_of_le a.length_le_encode
  exact verify_eq_ok hlen htype hsize hkey

lemma exists_header {size : ArrayN UInt8 2} (hsize : data.drop 8 = size.toList ++ data.drop 10)
    (hlen : 10 + beNat size.toList ≤ data.length) :
    ∃ (nameAlg : ArrayN UInt8 2) (attributes : ArrayN UInt8 4) (authPolicy : Sized),
      data.drop 2 = nameAlg.toList ++ (attributes.toList ++
        (authPolicy.encode ++ data.drop (10 + beNat size.toList))) := by
  obtain ⟨nameAlg, hname⟩ := exists_piece (s := data) 2 2 (by omega)
  obtain ⟨attributes, hattr⟩ := exists_piece (s := data) 4 4 (by omega)
  obtain ⟨policy, hpolicy⟩ := exists_piece (s := data) 10 (beNat size.toList) hlen
  have hbound : policy.toList.length < 2 ^ 16 := by
    have hlt := beNat_lt size.toList
    rw [size.toList_length] at hlt
    rw [policy.toList_length]
    exact hlt
  have hfield : Sized.size ⟨policy.toList, hbound⟩ = size :=
    Sized.size_eq policy.toList_length
  refine ⟨nameAlg, attributes, ⟨policy.toList, hbound⟩, ?_⟩
  rw [Sized.encode, hfield, hname, hattr, hsize, hpolicy, List.append_assoc]

lemma exists_parameters {k m : ℕ} (hlen : k + 8 + m ≤ s.length) :
    ∃ (symmetric : ArrayN UInt8 4) (scheme third : ArrayN UInt8 2) (last : ArrayN UInt8 m),
      s.drop k = symmetric.toList ++ (scheme.toList ++ (third.toList ++
        (last.toList ++ s.drop (k + 8 + m)))) := by
  obtain ⟨symmetric, h0⟩ := exists_piece (s := s) k 4 (by omega)
  obtain ⟨scheme, h4⟩ := exists_piece (s := s) (k + 4) 2 (by omega)
  obtain ⟨third, h6⟩ := exists_piece (s := s) (k + 6) 2 (by omega)
  obtain ⟨last, h8⟩ := exists_piece (s := s) (k + 8) m hlen
  exact ⟨symmetric, scheme, third, last, by rw [h0, h4, h6, h8]⟩

/-- **What the check accepts**: the documented layout, with the unique field of the
credential. -/
lemma verifyPubArea_iff : verifyPubAreaMatchesCredential data pk = .ok () ↔
    ∃ (a : PubArea 4) (rest : Bytes), data = a.encode ++ rest ∧ a.key.UniqueOf pk := by
  refine ⟨fun h => ?_, ?_⟩
  · have hlen : 10 ≤ data.length := by
      by_contra hlt
      rw [verifyPubAreaMatchesCredential, Outcome.rejectIf, if_pos (by omega)] at h
      cases h
    obtain ⟨type, htype⟩ := exists_piece (s := data) 0 2 (by omega)
    obtain ⟨size, hsize⟩ := exists_piece (s := data) 8 2 (by omega)
    set k := 10 + beNat size.toList with hk
    obtain ⟨rfl, x, y, rest, hxy, hmatch⟩ | ⟨rfl, m, rest, hm, hmatch⟩ :=
      (verify_eq_ok hlen htype hsize rfl).mp h
    · have hbound := congrArg List.length hxy
      simp only [List.length_drop, List.length_append, Sized.length_encode] at hbound
      obtain ⟨nameAlg, attributes, authPolicy, hheader⟩ := exists_header hsize (by omega)
      obtain ⟨symmetric, scheme, curveID, kdf, hparams⟩ :=
        exists_parameters (s := data) (k := k) (m := 2) (by omega)
      refine ⟨⟨nameAlg, attributes, authPolicy, .ecc symmetric scheme curveID kdf x y⟩, rest,
        ?_, matchEccPoint_eq_ok.mp hmatch⟩
      rw [List.drop_drop] at hxy
      rw [← data.drop_zero, htype, hheader, hparams, hxy]
      simp [PubArea.encode, Key.encode, Key.type]
    · have hbound := congrArg List.length hm
      simp only [List.length_drop, List.length_append, Sized.length_encode] at hbound
      obtain ⟨nameAlg, attributes, authPolicy, hheader⟩ := exists_header hsize (by omega)
      obtain ⟨symmetric, scheme, keyBits, exponent, hparams⟩ :=
        exists_parameters (s := data) (k := k) (m := 4) (by omega)
      refine ⟨⟨nameAlg, attributes, authPolicy, .rsa symmetric scheme keyBits exponent m⟩, rest,
        ?_, matchRsaModulus_eq_ok.mp hmatch⟩
      rw [List.drop_drop] at hm
      rw [← data.drop_zero, htype, hheader, hparams, hm]
      simp [PubArea.encode, Key.encode, Key.type]
  · rintro ⟨⟨nameAlg, attributes, authPolicy, key⟩, rest, rfl, hmatch⟩
    refine (verify_encode_eq_ok _ _).mpr ?_
    cases key with
    | ecc symmetric scheme curveID kdf x y =>
      refine .inl ⟨rfl, x, y, rest, ?_, matchEccPoint_eq_ok.mpr hmatch⟩
      simp only [Key.encode, List.append_assoc]
      exact drop_four symmetric scheme curveID kdf
    | rsa symmetric scheme keyBits exponent modulus =>
      refine .inr ⟨rfl, modulus, rest, ?_, matchRsaModulus_eq_ok.mpr hmatch⟩
      simp only [Key.encode, List.append_assoc]
      exact drop_four symmetric scheme keyBits exponent

/-- **The check is sound exactly when its own comparison tells the parameters too**: the curve
is the credential's, or the exponent, whenever the unique field is. -/
theorem pubArea_check_sound_iff (pubArea : Bytes) (pk : PublicKey) :
    (verifyPubAreaMatchesCredential pubArea pk = .ok () →
      ∃ (a : PubArea 4) (rest : Bytes), pubArea = a.encode ++ rest ∧
        a.key.UniqueOf pk ∧ a.key.ParametersOf pk) ↔
    ∀ (a : PubArea 4) (rest : Bytes), pubArea = a.encode ++ rest →
      a.key.UniqueOf pk → a.key.ParametersOf pk := by
  rw [verifyPubArea_iff]
  refine ⟨fun h a rest ha hunique => ?_, ?_⟩
  · obtain ⟨b, rest', hb, -, hparams⟩ := h ⟨a, rest, ha, hunique⟩
    obtain rfl := PubArea.unique (ha.symm.trans hb)
    exact hparams
  · rintro h ⟨a, rest, ha, hunique⟩
    exact ⟨a, rest, ha, hunique, h a rest ha hunique⟩

/-- The area of an RSA key with the exponent 3. -/
def lowExponentArea : PubArea 4 where
  nameAlg := Slice.pair 0x00 0x0b
  attributes := ⟨[0x00, 0x04, 0x04, 0x72], rfl⟩
  authPolicy := ⟨[], by decide⟩
  key := .rsa ⟨[0x00, 0x10, 0x00, 0x10], rfl⟩ (Slice.pair 0x00 0x10) (Slice.pair 0x08 0x00)
    ⟨[0x00, 0x00, 0x00, 0x03], rfl⟩ ⟨RsaDer.modulus2048, by rw [RsaDer.length_modulus2048]; decide⟩

/-- The key with the exponent 3 passes for the credential's, which has 65537. -/
theorem pubArea_check_not_sound : ¬ ∀ (pubArea : Bytes) (pk : PublicKey),
    verifyPubAreaMatchesCredential pubArea pk = .ok () →
      ∃ (a : PubArea 4) (rest : Bytes), pubArea = a.encode ++ rest ∧
        a.key.UniqueOf pk ∧ a.key.ParametersOf pk := by
  intro h
  obtain ⟨a, rest, ha, -, hparams⟩ := h lowExponentArea.encode
    (.rs256 RsaDer.modulus2048 [0x01, 0x00, 0x01])
    (verifyPubArea_iff.mpr ⟨lowExponentArea, [], (List.append_nil _).symm, rfl⟩)
  obtain rfl := PubArea.unique ((List.append_nil _).trans ha)
  have hne : Key.exponentValue ⟨[0x00, 0x00, 0x00, 0x03], rfl⟩ ≠ beNat [0x01, 0x00, 0x01] := by
    decide
  exact hne hparams

/-! ### What a TPM writes -/

/-- `TPM_ALG_NULL`. -/
def TPM_ALG_NULL : ArrayN UInt8 2 := Slice.pair 0x00 0x10

/-- A signing key leaves its symmetric algorithm, scheme and key derivation open. -/
def Key.IsSigning : Key 2 → Prop
  | .ecc symmetric scheme _ kdf _ _ =>
    symmetric = TPM_ALG_NULL ∧ scheme = TPM_ALG_NULL ∧ kdf = TPM_ALG_NULL
  | .rsa symmetric scheme _ _ _ => symmetric = TPM_ALG_NULL ∧ scheme = TPM_ALG_NULL

/-- The area a TPM writes for the credential's key. -/
structure PubArea.Genuine (a : PubArea 2) (pk : PublicKey) : Prop where
  signing : a.key.IsSigning
  unique : a.key.UniqueOf pk
  parameters : a.key.ParametersOf pk

/-- A modulus of zeros only, two of them at least. -/
def Key.ZeroModulus : Key w → Prop
  | .ecc .. => False
  | .rsa _ _ _ _ modulus => 2 ≤ modulus.bytes.length ∧ beNat modulus.bytes = 0

lemma eq_nil_of_beNat_encode {z : Sized} {rest : Bytes}
    (h : beNat (z.encode ++ rest) = beNat z.bytes) : z.bytes = [] := by
  by_contra hne
  have hpos := List.length_pos_iff.mpr hne
  have hlt := beNat_lt z.bytes
  have hle := Nat.pow_le_pow_right (by decide : 0 < 256)
    (Nat.le_add_right z.bytes.length rest.length)
  have hmul := Nat.le_mul_of_pos_left (256 ^ (z.bytes.length + rest.length)) hpos
  rw [Sized.encode, List.append_assoc, beNat_append, z.beNat_size, List.length_append] at h
  omega

lemma not_reads_ecc {symmetric : ArrayN UInt8 2} {scheme curveID kdf : ArrayN UInt8 2}
    {x y : Sized} (h : (Key.ecc symmetric scheme curveID kdf x y).UniqueOf pk) :
    ¬ ∃ (x' y' : Sized) (rest : Bytes),
      (Key.ecc symmetric scheme curveID kdf x y).encode.drop 10 =
        x'.encode ++ (y'.encode ++ rest) ∧ matchEccPoint x'.bytes y'.bytes pk = .ok () := by
  rintro ⟨x', y', rest, hread, hmatch⟩
  have h' : (Key.ecc symmetric scheme curveID kdf x' y').UniqueOf pk :=
    matchEccPoint_eq_ok.mp hmatch
  obtain ⟨hx, hy⟩ := h.point_eq h'
  have hlen := congrArg List.length hread
  simp only [Key.encode, List.length_drop, List.length_append, List.Vector.toList_length,
    Sized.length_encode, hx, hy] at hlen
  omega

lemma reads_rsa_iff {symmetric : ArrayN UInt8 2} {scheme keyBits : ArrayN UInt8 2}
    {exponent : ArrayN UInt8 4} {modulus : Sized}
    (h : (Key.rsa symmetric scheme keyBits exponent modulus).UniqueOf pk) :
    (∃ (modulus' : Sized) (rest : Bytes),
      (Key.rsa symmetric scheme keyBits exponent modulus).encode.drop 12 =
        modulus'.encode ++ rest ∧ matchRsaModulus modulus'.bytes pk = .ok ()) ↔
      (Key.rsa symmetric scheme keyBits exponent modulus).ZeroModulus := by
  have hdrop : (Key.rsa symmetric scheme keyBits exponent modulus).encode.drop 12 =
      modulus.bytes := by
    have hunique : (Key.rsa symmetric scheme keyBits exponent modulus).encode.drop 10 =
        modulus.encode :=
      drop_four symmetric scheme keyBits exponent
    exact drop_piece hunique modulus.size.toList_length
  obtain ⟨n, e, rfl, hn⟩ := Key.uniqueOf_rsa_iff.mp h
  rw [hdrop]
  refine ⟨?_, fun hzero => ⟨⟨[], by decide⟩, modulus.bytes.drop 2, ?_, ?_⟩⟩
  · rintro ⟨modulus', rest, hread, hmatch⟩
    have h' : (Key.rsa symmetric scheme keyBits exponent modulus').UniqueOf (.rs256 n e) :=
      matchRsaModulus_eq_ok.mp hmatch
    have hn' : beNat modulus'.bytes = beNat n := h'
    have hnil : modulus'.bytes = [] := eq_nil_of_beNat_encode (by rw [← hread, hn, hn'])
    have hlen := congrArg List.length hread
    rw [List.length_append, Sized.length_encode] at hlen
    refine ⟨by omega, ?_⟩
    rw [hn, ← hn', hnil]
    rfl
  · obtain ⟨hlen, hvalue⟩ := hzero
    obtain ⟨_ | ⟨x, _ | ⟨y, m⟩⟩, hbound⟩ := modulus
    · simp at hlen
    · simp at hlen
    · obtain ⟨rfl, hvalue'⟩ := beNat_cons_eq_zero.mp hvalue
      obtain ⟨rfl, -⟩ := beNat_cons_eq_zero.mp hvalue'
      rfl
  · have hnil : beNat [] = beNat n := by rw [← hn, hzero.2, beNat_nil]
    have h' : (Key.rsa symmetric scheme keyBits exponent ⟨[], by decide⟩).UniqueOf
        (.rs256 n e) := hnil
    exact matchRsaModulus_eq_ok.mpr h'

/-- **No genuine area of an EC key is accepted**, and one of an RSA key only when its modulus
is zero. -/
theorem genuine_pubArea_accepted_iff (a : PubArea 2) (pk : PublicKey) (h : a.Genuine pk) :
    verifyPubAreaMatchesCredential a.encode pk = .ok () ↔ a.key.ZeroModulus := by
  rw [← List.append_nil a.encode, verify_encode_eq_ok, List.append_nil]
  obtain ⟨nameAlg, attributes, authPolicy, key⟩ := a
  have hunique : key.UniqueOf pk := h.unique
  cases key with
  | ecc symmetric scheme curveID kdf x y =>
    refine iff_of_false ?_ not_false
    rintro (⟨-, hread⟩ | ⟨htype, -⟩)
    · exact not_reads_ecc hunique hread
    · exact ecc_ne_rsa htype
  | rsa symmetric scheme keyBits exponent modulus =>
    rw [← reads_rsa_iff hunique]
    refine ⟨?_, fun hread => .inr ⟨rfl, hread⟩⟩
    rintro (⟨htype, -⟩ | ⟨-, hread⟩)
    · exact absurd htype.symm ecc_ne_rsa
    · exact hread

/-- The area of a recorded credential. -/
def signingArea : PubArea 2 where
  nameAlg := Slice.pair 0x00 0x0b
  attributes := ⟨[0x00, 0x04, 0x04, 0x72], rfl⟩
  authPolicy := ⟨[], by decide⟩
  key := .ecc TPM_ALG_NULL TPM_ALG_NULL (Slice.pair 0x00 0x03) TPM_ALG_NULL
    ⟨Recorded.keyX, by decide⟩ ⟨Recorded.keyY, by decide⟩

theorem genuine_pubArea_accepted_iff_signing :
    verifyPubAreaMatchesCredential signingArea.encode (.es256 Recorded.keyX Recorded.keyY) =
      .ok () ↔ signingArea.key.ZeroModulus :=
  genuine_pubArea_accepted_iff _ _ ⟨⟨rfl, rfl, rfl⟩, ⟨rfl, rfl⟩, rfl⟩

theorem genuine_pubArea_rejected : ¬ ∀ (a : PubArea 2) (pk : PublicKey), a.Genuine pk →
    verifyPubAreaMatchesCredential a.encode pk = .ok () := by
  intro h
  have hok := h signingArea (.es256 Recorded.keyX Recorded.keyY)
    ⟨⟨rfl, rfl, rfl⟩, ⟨rfl, rfl⟩, rfl⟩
  revert hok
  decide

end

end Caden.TpmPubArea
