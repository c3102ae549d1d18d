import Caden.MetadataSpec

/-!
When processing a metadata BLOB panics: at an identifier whose pieces of two bytes do not end
at character boundaries.
-/

namespace Caden.Metadata

/-- Cutting the characters into pieces of two bytes, as long as each piece is a byte in
hexadecimal, comes to a piece that ends inside a character: one of three bytes or more, or
one of several bytes after one of a single byte. -/
inductive CutsInside : List Char → Prop
  | wide {c : Char} {s : List Char} (hc : 3 ≤ c.utf8Size) : CutsInside (c :: s)
  | split {c d : Char} {s : List Char} (hc : c.utf8Size = 1) (hd : 2 ≤ d.utf8Size) :
      CutsInside (c :: d :: s)
  | next {c d : Char} {s : List Char} {v : UInt8} (hv : Text.u8FromStrRadix16 [c, d] = some v)
      (hs : CutsInside s) : CutsInside (c :: d :: s)

/-- The identifier has the length of 16 bytes in hexadecimal, and cutting it fails. -/
def Unreadable (s : String) : Prop :=
  Text.byteLen (dropHyphens s) = 32 ∧ CutsInside (dropHyphens s)

/-! ### One piece -/

lemma hexByte_append {a : List Char} (ha : Text.byteLen a = 2) (s : List Char) (i : ℕ) :
    hexByte (a ++ s) (i + 1) = hexByte s i := by
  unfold hexByte
  rw [show (i + 1) * 2 = Text.byteLen a + i * 2 by omega,
    show Text.byteLen a + i * 2 + 2 = Text.byteLen a + (i * 2 + 2) by omega,
    Text.slice_append]

lemma hexByte_zero (s : List Char) : hexByte s 0 = (do
    let piece ← Outcome.expect ((Text.splitAtByte s 2).map Prod.fst)
    .okOr (Text.u8FromStrRadix16 piece) ()) := by
  unfold hexByte
  rw [Nat.zero_mul, Nat.zero_add, Text.slice_zero]

lemma hexByte_cases {s : List Char} {n : ℕ} (hlen : Text.byteLen s = 2 * (n + 1)) :
    (hexByte s 0 = .panic ∧ CutsInside s) ∨
    (hexByte s 0 = .err () ∧ ¬ CutsInside s) ∨
    ∃ c d t v, s = c :: d :: t ∧ Text.byteLen [c, d] = 2 ∧ Text.byteLen t = 2 * n ∧
      Text.u8FromStrRadix16 [c, d] = some v ∧ hexByte s 0 = .ok v := by
  rw [hexByte_zero]
  rcases s with _ | ⟨c, s⟩
  · simp at hlen
  rw [Text.byteLen_cons] at hlen
  by_cases h3 : 3 ≤ c.utf8Size
  · refine Or.inl ⟨?_, .wide h3⟩
    simp [Text.splitAtByte, show ¬ c.utf8Size ≤ 2 by omega, Outcome.expect]
  by_cases h2 : c.utf8Size = 2
  · -- a piece that is one character is cut cleanly, and is not a number
    refine Or.inr (Or.inl ⟨?_, ?_⟩)
    · have hnone : Text.u8FromStrRadix16 [c] = none := by
        rw [Option.eq_none_iff_forall_ne_some]
        intro v hv
        have := Text.u8FromStrRadix16_ascii hv c (by simp)
        omega
      simp [Text.splitAtByte, h2, Text.splitAtByte_zero, Outcome.expect, hnone, Outcome.okOr]
    · rintro (h | ⟨h, -⟩ | ⟨hv, -⟩)
      · omega
      · omega
      · have := Text.u8FromStrRadix16_ascii hv c (by simp)
        omega
  have h1 : c.utf8Size = 1 := by
    have := c.utf8Size_pos
    omega
  rcases s with _ | ⟨d, t⟩
  · simp at hlen
    omega
  rw [Text.byteLen_cons] at hlen
  by_cases hd : 2 ≤ d.utf8Size
  · refine Or.inl ⟨?_, .split h1 hd⟩
    simp [Text.splitAtByte, h1, show ¬ d.utf8Size ≤ 1 by omega, Outcome.expect]
  have hd1 : d.utf8Size = 1 := by
    have := d.utf8Size_pos
    omega
  have hpiece : Text.splitAtByte (c :: d :: t) 2 = some ([c, d], t) :=
    Text.splitAtByte_eq_some.mpr ⟨rfl, by simp [h1, hd1]⟩
  rw [hpiece]
  rcases hv : Text.u8FromStrRadix16 [c, d] with _ | v
  · refine Or.inr (Or.inl ⟨by simp [Outcome.expect, hv, Outcome.okOr], ?_⟩)
    rintro (h | ⟨-, h⟩ | ⟨hv', -⟩)
    · omega
    · omega
    · rw [hv] at hv'
      cases hv'
  · exact Or.inr (Or.inr ⟨c, d, t, v, rfl, by simp [h1, hd1], by omega, hv,
      by simp [Outcome.expect, hv, Outcome.okOr]⟩)

/-! ### All pieces -/

lemma mOfFn_hexByte_eq_panic {n : ℕ} {s : List Char} (hlen : Text.byteLen s = 2 * n) :
    (List.Vector.mOfFn fun i : Fin n => hexByte s i) = .panic ↔ CutsInside s := by
  induction n generalizing s with
  | zero =>
    have hs : s = [] := by
      rcases s with _ | ⟨c, s⟩
      · rfl
      · have := c.utf8Size_pos
        simp at hlen
        omega
    subst hs
    refine iff_of_false (fun h => by cases h) (fun h => by cases h)
  | succ n ih =>
    rw [List.Vector.mOfFn]
    rcases hexByte_cases hlen with ⟨h0, hcut⟩ | ⟨h0, hcut⟩ | ⟨c, d, t, v, rfl, hcd, ht, hv, h0⟩
    · simp only [Fin.val_zero, h0, Outcome.panic_bind, hcut]
    · simp only [Fin.val_zero, h0, Outcome.err_bind, hcut, reduceCtorEq]
    · have hshift : ∀ i : Fin n, hexByte (c :: d :: t) (i.succ : ℕ) = hexByte t i := fun i => by
        rw [Fin.val_succ]
        exact hexByte_append hcd t i
      have hrest : CutsInside (c :: d :: t) ↔ CutsInside t := by
        obtain ⟨hc, hd⟩ : c.utf8Size = 1 ∧ d.utf8Size = 1 := by
          have h := Text.u8FromStrRadix16_ascii hv
          exact ⟨h c (by simp), h d (by simp)⟩
        refine ⟨?_, ?_⟩
        · rintro (h | ⟨-, h⟩ | ⟨-, h⟩)
          · omega
          · omega
          · exact h
        · exact CutsInside.next hv
      simp only [Fin.val_zero, h0, Outcome.ok_bind, hshift, Outcome.bind_eq_panic,
        Outcome.pure_eq, reduceCtorEq, and_false, exists_false, or_false, ih ht, hrest]

lemma parseAaguid_eq_panic {s : String} : parseAaguid s = .panic ↔ Unreadable s := by
  have hsafe : ¬ (Outcome.rejectIf (Text.byteLen (dropHyphens s) ≠ 32) () :
      Outcome Unit PUnit) = .panic := Outcome.safe_rejectIf _ _
  rw [parseAaguid, Outcome.bind_eq_panic, or_iff_right hsafe]
  simp only [Outcome.rejectIf_eq_ok, not_not, exists_const]
  exact and_congr_right fun hlen => mOfFn_hexByte_eq_panic hlen

/-- **Processing a BLOB ends in a value or an error, except on an authentic BLOB with an
unreadable identifier.** -/
theorem blob_safe_iff (E : Env) (blob : String) (trustRoot : Bytes) :
    (verifyAndParseMdsBlob E blob trustRoot).Safe ↔
      ¬ ∃ payload, Authentic E blob trustRoot payload ∧
        ∃ e ∈ payload.entries, ∃ s, e.aaguid = some s ∧ Unreadable s := by
  have hpanics : ∀ e : MdsEntry, Panics e ↔ ∃ s, e.aaguid = some s ∧ Unreadable s :=
    fun e => by simp only [Panics, parseAaguid_eq_panic]
  simp only [verifyAndParseMdsBlob, Outcome.safe_bind, safe_verifyMdsBlob, verifyMdsBlob_eq_ok,
    true_and, ← hpanics]
  push Not
  refine forall₂_congr fun payload _ => ?_
  rcases foldlM_mergeEntry payload.entries ∅ with ⟨⟨e, he, hp⟩, h⟩ | ⟨hall, h⟩
  · rw [h]
    exact iff_of_false Outcome.not_safe_panic fun hall => hall e he hp
  · rw [h]
    exact iff_of_true (Outcome.safe_ok _) hall

/-! ### A BLOB that causes a panic -/

section
open Recorded

/-- The identifier has 32 bytes, and its second character takes two of them. -/
def unreadableBlob : SignedBlob where
  payload := ⟨[⟨some "aé00000000000000000000000000000", []⟩]⟩
  payloadJson := Text.asBytes "\x7b\"entries\":[" ++
    Text.asBytes "\x7b\"aaguid\":\"aé00000000000000000000000000000\"," ++
    Text.asBytes "\"statusReports\":[]\x7d]\x7d"
  signature :=
    beBytes 38 0xcb10696795ea1db11a6a4770782f77cc6bb9818d13cfb4e9f55124032a9fdac2842f08cc07dd ++
    beBytes 26 0x83e2371d8347255d6cdb3b9842d043a529b9f2a72502c9bd005c

lemma unreadableBlob_authentic :
    Authentic unreadableBlob.record.env unreadableBlob.text rootDer unreadableBlob.payload :=
  SignedBlob.authentic (urlSafe_ne (by decide)) (urlSafe_ne (by decide))
    (urlSafe_ne (by decide))

lemma parseAaguid_unreadable : parseAaguid "aé00000000000000000000000000000" = .panic := by
  decide

/-- A BLOB that is signed under the trust root causes a panic. -/
theorem unreadableBlob_panics : verifyAndParseMdsBlob unreadableBlob.record.env
    unreadableBlob.text rootDer = .panic := by
  rw [verifyAndParseMdsBlob, verifyMdsBlob_eq_ok.mpr unreadableBlob_authentic, Outcome.ok_bind]
  simp [unreadableBlob, mergeEntry, parseAaguid_unreadable]

end

end Caden.Metadata
