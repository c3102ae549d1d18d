import Caden.CertBytes

/-!
When the parser of one DER element reads the length that is written.

The octets of a long length are accumulated in 64 bits before any bound is checked. A length
that is too large for them is read as its low 64 bits, and may then fit.
-/

namespace Caden.DerTlv

open CertBytes

variable {d field v r rest octets : Bytes} {tag x : UInt8} {len headerLen : ℕ}

/-- `d` is the tag, a length field for the length of `v`, then `v` and `r`. -/
def Splits (d : Bytes) (tag : UInt8) (v r : Bytes) : Prop :=
  ∃ field, Der.LengthForm v.length field ∧ d = tag :: (field ++ (v ++ r))

/-- The parser finds exactly the decompositions of `d`. -/
def Faithful (d : Bytes) : Prop :=
  ∀ tag v r, derParseTlv d = .ok (tag, v, r) ↔ Splits d tag v r

/-- The length octets denote more than 64 bits, and by the low 64 bits alone the contents would
be inside `d`. -/
def Wraps (d : Bytes) : Prop :=
  ∃ tag octets rest, d = tag :: UInt8.ofNat (0x80 + octets.length) :: (octets ++ rest) ∧
    octets.length ≤ 0x7f ∧ 2 ^ 64 ≤ beNat octets ∧ beNat octets % 2 ^ 64 ≤ rest.length

/-! ### What is read -/

lemma ofNat_toNat_add {n : ℕ} (hx : x.toNat = 0x80 + n) : UInt8.ofNat (0x80 + n) = x := by
  rw [← hx, UInt8.ofNat_toNat]

lemma derHeader_returns (h : derHeader (tag :: x :: rest) x = .ok (len, headerLen)) :
    ∃ field r m, rest = field ++ r ∧ Der.LengthForm m (x :: field) ∧ len = m % 2 ^ 64 ∧
      headerLen = 2 + field.length := by
  unfold derHeader at h
  split at h
  · rename_i hbit
    cases h
    have hx := (Der.and_0x80_eq_zero x).mp hbit
    refine ⟨[], rest, x.toNat, rfl, ?_, (Nat.mod_eq_of_lt (by omega)).symm, rfl⟩
    have hshort := Der.LengthForm.short hx
    rwa [UInt8.ofNat_toNat] at hshort
  · rename_i hbit
    rw [Der.and_0x80_eq_zero] at hbit
    have hlt : x.toNat < 256 := x.toNat_lt
    simp only [Der.and_0x7f, Outcome.bind_eq_ok, Outcome.rejectIf_eq_ok, exists_const,
      Slice.slice_eq_ok, Outcome.pure_eq, Outcome.ok.injEq, Prod.mk.injEq, not_or, not_lt] at h
    obtain ⟨⟨hne, -⟩, octets, ⟨⟨-, hle⟩, hoctets⟩, rfl, rfl⟩ := h
    have hoctets : rest.take (x.toNat % 0x80) = octets := by
      rw [← hoctets, Nat.add_sub_cancel_left, List.drop_succ_cons, List.drop_succ_cons,
        List.drop_zero]
    have hsize : octets.length = x.toNat % 0x80 := by
      simp only [List.length_cons] at hle
      rw [← hoctets, List.length_take]
      omega
    have hpos : octets ≠ [] := by
      rw [← List.length_pos_iff]
      omega
    have hform := Der.LengthForm.long hpos (by omega)
    rw [ofNat_toNat_add (by omega : x.toNat = 0x80 + octets.length)] at hform
    refine ⟨octets, rest.drop (x.toNat % 0x80), _, ?_, hform, ?_, by rw [hsize]⟩
    · rw [← hoctets, List.take_append_drop]
    · have hfold := foldl_shift_mod octets 0 (by decide)
      rwa [Nat.zero_mul, Nat.zero_add] at hfold

/-- `bs` is a tag, a length field, and as many bytes as the low 64 bits of the length say. -/
def IsField (tag : UInt8) (contents bs : Bytes) : Prop :=
  ∃ m field, Der.LengthForm m field ∧ contents.length = m % 2 ^ 64 ∧
    bs = tag :: (field ++ contents) ∧ bs.length < 2 ^ 64

/-- **What the parser reads**: after a length field, as many bytes as its low 64 bits say. -/
lemma derParseTlv_field : derParseTlv d = .ok (tag, v, r) ↔
    ∃ bs, IsField tag v bs ∧ d = bs ++ r := by
  refine ⟨fun h => ?_, ?_⟩
  · simp only [derParseTlv, Outcome.bind_eq_ok, Outcome.okOr_eq_ok, Outcome.rejectIf_eq_ok,
      Slice.index_eq_ok, Slice.slice_eq_ok, Slice.sliceFrom_eq_ok, checkedAdd_eq_some,
      exists_const, Outcome.pure_eq, Outcome.ok.injEq, Prod.exists, Prod.mk.injEq] at h
    obtain ⟨_, htag, -, x, hx, len, headerLen, hheader, _, ⟨hlt, rfl⟩, -, w, ⟨⟨-, hle⟩, hv⟩, _,
      ⟨-, hr⟩, rfl, rfl, rfl⟩ := h
    obtain _ | ⟨t, _ | ⟨y, rest⟩⟩ := d
    · cases htag
    · cases hx
    · obtain rfl : t = _ := Option.some.inj htag
      obtain rfl : y = x := Option.some.inj hx
      obtain ⟨field, s, m, rfl, hform, rfl, rfl⟩ := derHeader_returns hheader
      have hdrop : (t :: y :: (field ++ s)).drop (2 + field.length) = s := by
        simp [Nat.add_comm 2]
      rw [hdrop, Nat.add_sub_cancel_left] at hv
      rw [← List.drop_drop, hdrop] at hr
      simp only [List.length_cons, List.length_append] at hle
      have hsize : w.length = m % 2 ^ 64 := by
        rw [← hv, List.length_take]
        omega
      refine ⟨_, ⟨m, y :: field, hform, hsize, rfl, ?_⟩, ?_⟩
      · simp only [List.length_cons, List.length_append]
        omega
      · simp only [← hv, ← hr, List.cons_append, List.append_assoc, List.take_append_drop]
  · rintro ⟨_, ⟨m, field, hform, hv, rfl, hlt⟩, rfl⟩
    simp only [List.length_cons, List.length_append] at hlt
    rw [List.cons_append, List.append_assoc]
    exact derParseTlv_form hform hv (by omega)

lemma derParseTlv_eq_ok (hlen : d.length < 2 ^ 64) : derParseTlv d = .ok (tag, v, r) ↔
    ∃ m field, Der.LengthForm m field ∧ v.length = m % 2 ^ 64 ∧
      d = tag :: (field ++ (v ++ r)) := by
  rw [derParseTlv_field]
  refine ⟨?_, ?_⟩
  · rintro ⟨_, ⟨m, field, hform, hv, rfl, -⟩, rfl⟩
    exact ⟨m, field, hform, hv, by rw [List.cons_append, List.append_assoc]⟩
  · rintro ⟨m, field, hform, hv, rfl⟩
    refine ⟨_, ⟨m, field, hform, hv, rfl, ?_⟩, by rw [List.cons_append, List.append_assoc]⟩
    simp only [List.length_cons, List.length_append] at hlen ⊢
    omega

/-- An element with these contents is at the front of `d`. -/
def FrontField (tag : UInt8) (contents d : Bytes) : Prop :=
  ∃ bs, IsField tag contents bs ∧ bs <+: d

lemma derUnwrap_eq_ok : derUnwrap tag d = .ok v ↔ FrontField tag v d := by
  simp only [derUnwrap, Outcome.bind_eq_ok, Prod.exists, derParseTlv_field,
    Outcome.rejectIf_eq_ok, exists_const, Outcome.pure_eq, Outcome.ok.injEq, not_not]
  refine ⟨?_, ?_⟩
  · rintro ⟨_, _, r, ⟨bs, hbs, rfl⟩, rfl, rfl⟩
    exact ⟨bs, hbs, r, rfl⟩
  · rintro ⟨bs, hbs, r, rfl⟩
    exact ⟨_, _, r, ⟨bs, hbs, rfl⟩, rfl, rfl⟩

/-! ### When it is what is written -/

lemma derParseTlv_of_splits (hlen : d.length < 2 ^ 64) (h : Splits d tag v r) :
    derParseTlv d = .ok (tag, v, r) := by
  obtain ⟨field, hform, rfl⟩ := h
  refine (derParseTlv_eq_ok hlen).mpr ⟨_, field, hform, (Nat.mod_eq_of_lt ?_).symm, rfl⟩
  simp only [List.length_cons, List.length_append] at hlen
  omega

lemma splits_of_derParseTlv (hlen : d.length < 2 ^ 64) (hd : ¬ Wraps d)
    (h : derParseTlv d = .ok (tag, v, r)) : Splits d tag v r := by
  obtain ⟨m, field, hform, hv, rfl⟩ := (derParseTlv_eq_ok hlen).mp h
  have hm : m < 2 ^ 64 := by
    by_contra hge
    cases hform with
    | short h => omega
    | long hne hmax =>
      refine hd ⟨tag, _, v ++ r, rfl, hmax, by omega, ?_⟩
      rw [List.length_append]
      omega
  rw [Nat.mod_eq_of_lt hm] at hv
  exact ⟨field, by rwa [hv], rfl⟩

lemma not_faithful_of_wraps (hlen : d.length < 2 ^ 64) (h : Wraps d) : ¬ Faithful d := by
  obtain ⟨tag, octets, rest, rfl, hoctets, hbig, hfits⟩ := h
  have hne : octets ≠ [] := by
    rintro rfl
    rw [beNat_nil] at hbig
    omega
  have hform := Der.LengthForm.long hne hoctets
  set n := beNat octets % 2 ^ 64 with hn
  have hsize : (rest.take n).length = n := by
    rw [List.length_take]
    omega
  have hread : derParseTlv (tag :: UInt8.ofNat (0x80 + octets.length) :: (octets ++ rest)) =
      .ok (tag, rest.take n, rest.drop n) := by
    refine (derParseTlv_eq_ok hlen).mpr ⟨_, _, hform, hsize.trans hn, ?_⟩
    rw [List.take_append_drop, List.cons_append]
  intro hfaithful
  obtain ⟨field, hfield, heq⟩ := (hfaithful _ _ _).mp hread
  -- the field in front is the one that was written, for a length of more than 64 bits
  obtain ⟨hlength, -, -⟩ := hform.unique hfield (List.cons.inj heq).2
  rw [hsize] at hlength
  have hmod := Nat.mod_lt (beNat octets) (show 2 ^ 64 > 0 by decide)
  omega

/-- **The parser is faithful exactly where no length wraps.** -/
theorem derParseTlv_faithful_iff (d : Bytes) (hlen : d.length < 2 ^ 64) :
    Faithful d ↔ ¬ Wraps d :=
  ⟨fun h hd => not_faithful_of_wraps hlen hd h, fun h _ _ _ =>
    ⟨splits_of_derParseTlv hlen h, derParseTlv_of_splits hlen⟩⟩

lemma Wraps.le_length (h : Wraps d) : 11 ≤ d.length := by
  obtain ⟨tag, octets, rest, rfl, -, hbig, -⟩ := h
  have hlt := hbig.trans_lt (beNat_lt octets)
  have h8 : 8 < octets.length :=
    (Nat.pow_lt_pow_iff_right (by decide : 1 < 256)).mp
      (lt_of_eq_of_lt (by norm_num : 256 ^ 8 = 2 ^ 64) hlt)
  simp only [List.length_cons, List.length_append]
  omega

/-- A length of two octets, with a leading zero. -/
def padded : Bytes := [0x30, 0x82, 0x00, 0x01, 0xaa, 0xbb]

theorem derParseTlv_faithful_padded :
    Faithful padded ∧ derParseTlv padded = .ok (0x30, [0xaa], [0xbb]) := by
  refine ⟨(derParseTlv_faithful_iff padded (by decide)).mpr fun h => ?_, by decide⟩
  exact absurd h.le_length (by decide)

/-- A sequence of `2 ^ 64` bytes, none of which is there. -/
def oversized : Bytes := [0x30, 0x89, 0x01, 0, 0, 0, 0, 0, 0, 0, 0]

theorem derParseTlv_oversized :
    derParseTlv oversized = .ok (0x30, [], []) ∧ ¬ Faithful oversized := by
  refine ⟨by decide, not_faithful_of_wraps (by decide) ?_⟩
  exact ⟨0x30, [0x01, 0, 0, 0, 0, 0, 0, 0, 0], [], by decide, by decide, by decide, by decide⟩

end Caden.DerTlv
