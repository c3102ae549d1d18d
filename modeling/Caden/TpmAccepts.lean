import Caden.TpmCertInfo
import Caden.TpmPubArea

/-!
The certification that the check of a TPM statement accepts, and the name of a public area.
-/

namespace Caden.Tpm

open TpmCertInfo TpmFormat

/-! ### Certifications -/

/-- A certification as the check reads it. -/
structure CheckedInfo where
  front : ArrayN UInt8 2
  qualifiedSigner : Sized
  extraData : Sized
  middle : ArrayN UInt8 16
  name : Sized

def CheckedInfo.encode (a : CheckedInfo) : Bytes :=
  a.front.toList ++ (TPM_GENERATED.toList ++ (TPM_ST_ATTEST_CERTIFY.toList ++
    (a.qualifiedSigner.encode ++ (a.extraData.encode ++ (a.middle.toList ++ a.name.encode)))))

/-- A buffer that holds the certification of a name for the extra data. -/
def Certified (certInfo : Bytes) (extraData : ArrayN UInt8 32) (name : Bytes) : Prop :=
  ∃ (a : CheckedInfo) (rest : Bytes), certInfo = a.encode ++ rest ∧
    a.extraData.bytes = extraData.toList ∧ a.name.bytes = name

variable {certInfo name : Bytes} {extraData : ArrayN UInt8 32}

lemma u32FromBeBytes_inj {a b : ArrayN UInt8 4} :
    u32FromBeBytes a = u32FromBeBytes b ↔ a = b := by
  refine ⟨fun h => ?_, fun h => by rw [h]⟩
  have hnat := congrArg UInt32.toNat h
  rw [toNat_u32FromBeBytes, toNat_u32FromBeBytes] at hnat
  exact List.Vector.toList_injective (beNat_injective (by simp) hnat)

lemma magic_eq : (0xFF544347 : UInt32) = u32FromBeBytes TPM_GENERATED := by decide
lemma certify_eq : (0x8017 : UInt16) = u16FromBeBytes TPM_ST_ATTEST_CERTIFY := by decide

lemma certified_of_verified (h : verifyCertInfo certInfo extraData name = .ok ()) :
    Certified certInfo extraData name := by
  obtain ⟨_, hskip, h⟩ := Outcome.bind_eq_ok.mp h
  obtain ⟨-, hlen, rfl⟩ := tpmSkip_eq_ok.mp hskip
  obtain ⟨⟨magic, _⟩, hmagic, h⟩ := Outcome.bind_eq_ok.mp h
  obtain ⟨-, magic, r₁, hdrop₁, rfl, rfl⟩ := tpmReadU32Be_eq_ok.mp hmagic
  obtain ⟨_, hgenerated, h⟩ := Outcome.bind_eq_ok.mp h
  rw [Outcome.rejectIf_eq_ok, not_not, magic_eq, u32FromBeBytes_inj] at hgenerated
  obtain ⟨⟨type, _⟩, htype, h⟩ := Outcome.bind_eq_ok.mp h
  obtain ⟨-, type, r₂, hdrop₂, rfl, rfl⟩ := tpmReadU16Be_eq_ok.mp htype
  obtain ⟨_, hcertify, h⟩ := Outcome.bind_eq_ok.mp h
  rw [Outcome.rejectIf_eq_ok, not_not, certify_eq, u16FromBeBytes_inj] at hcertify
  obtain ⟨⟨_, _⟩, hsigner, h⟩ := Outcome.bind_eq_ok.mp h
  obtain ⟨signer, r₃, hdrop₃, rfl, rfl⟩ := tpmReadBlob_returns hsigner
  obtain ⟨⟨_, _⟩, hextra, h⟩ := Outcome.bind_eq_ok.mp h
  obtain ⟨extra, r₄, hdrop₄, rfl, rfl⟩ := tpmReadBlob_returns hextra
  obtain ⟨_, hsame, h⟩ := Outcome.bind_eq_ok.mp h
  obtain ⟨_, hskip', h⟩ := Outcome.bind_eq_ok.mp h
  obtain ⟨-, hlen', rfl⟩ := tpmSkip_eq_ok.mp hskip'
  obtain ⟨⟨_, _⟩, hname, hattested⟩ := Outcome.bind_eq_ok.mp h
  obtain ⟨attested, rest, hdrop₅, rfl, -⟩ := tpmReadBlob_returns hname
  subst hgenerated hcertify
  obtain ⟨front, hfront⟩ := exists_piece (s := certInfo) 0 2 hlen
  obtain ⟨middle, hmiddle⟩ := exists_piece
    (8 + signer.encode.length + extra.encode.length) 16 hlen'
  have h₁ := drop_piece hdrop₁ TPM_GENERATED.toList_length
  have h₂ := drop_piece hdrop₂ TPM_ST_ATTEST_CERTIFY.toList_length
  have h₃ := drop_piece hdrop₃ rfl
  have h₄ := drop_piece hdrop₄ rfl
  refine ⟨⟨front, signer, extra, middle, attested⟩, rest, ?_,
    not_not.mp (Outcome.rejectIf_eq_ok.mp hsame), not_not.mp (Outcome.rejectIf_eq_ok.mp hattested)⟩
  rw [← certInfo.drop_zero, hfront, hdrop₁, ← h₁, hdrop₂, ← h₂, hdrop₃, ← h₃, hdrop₄, ← h₄,
    hmiddle, hdrop₅]
  simp [CheckedInfo.encode]

/-- **What the check of a certification accepts**: the layout with the two bytes in front. -/
lemma verifyCertInfo_iff :
    verifyCertInfo certInfo extraData name = .ok () ↔ Certified certInfo extraData name := by
  refine ⟨certified_of_verified, ?_⟩
  rintro ⟨⟨front, signer, extra, middle, attested⟩, rest, rfl, hextra, hname⟩
  simp only [CheckedInfo.encode, List.append_assoc]
  set data := front.toList ++ (TPM_GENERATED.toList ++ (TPM_ST_ATTEST_CERTIFY.toList ++
    (signer.encode ++ (extra.encode ++ (middle.toList ++ (attested.encode ++ rest)))))) with hdata
  have hbound := signer.bound
  have hbound' := extra.bound
  have hsize := signer.length_encode
  have hsize' := extra.length_encode
  -- what is left at each cursor
  have h₀ : data.drop 0 = front.toList ++ _ := rfl
  have h₁ : data.drop 2 = _ := drop_piece h₀ front.toList_length
  have h₂ : data.drop 6 = _ := drop_piece h₁ TPM_GENERATED.toList_length
  have h₃ : data.drop 8 = _ := drop_piece h₂ TPM_ST_ATTEST_CERTIFY.toList_length
  have h₄ := drop_piece h₃ rfl
  have h₅ := drop_piece h₄ rfl
  have h₆ := drop_piece h₅ middle.toList_length
  set p := 8 + signer.encode.length with hp
  set q := p + extra.encode.length with hq
  have hlen : q + 16 ≤ data.length := by
    simp only [hdata, hq, hp, List.length_append, List.Vector.toList_length]
    omega
  have hskip : tpmSkip data 0 2 = .ok 2 := tpmSkip_eq_ok.mpr ⟨by omega, by omega, rfl⟩
  have hmagic : tpmReadU32Be data 2 = .ok (0xFF544347, 6) :=
    tpmReadU32Be_eq_ok.mpr ⟨by omega, _, _, h₁, magic_eq, rfl⟩
  have htype : tpmReadU16Be data 6 = .ok (0x8017, 8) :=
    tpmReadU16Be_eq_ok.mpr ⟨by omega, _, _, h₂, certify_eq, rfl⟩
  have hsigner : tpmReadBlob data 8 = .ok (signer.bytes, p) :=
    (tpmReadBlob_eq_ok (by omega)).mpr ⟨_, _, h₃, rfl, rfl⟩
  have hdatum : tpmReadBlob data p = .ok (extra.bytes, q) :=
    (tpmReadBlob_eq_ok (by omega)).mpr ⟨_, _, h₄, rfl, rfl⟩
  have hmiddle : tpmSkip data q 16 = .ok (q + 16) :=
    tpmSkip_eq_ok.mpr ⟨by omega, hlen, rfl⟩
  have hattested : tpmReadBlob data (q + 16) = .ok (attested.bytes, _) :=
    (tpmReadBlob_eq_ok (by omega)).mpr ⟨_, _, h₆, rfl, rfl⟩
  have hsame : extra.bytes = extraData.toList := hextra
  have hcertified : attested.bytes = name := hname
  simp only [verifyCertInfo, hskip, hmagic, htype, hsigner, hdatum, hmiddle, hattested, hsame,
    hcertified, Outcome.rejectIf, ne_eq, not_true_eq_false, if_false, Outcome.ok_bind]

/-! ### Names -/

section
open TpmPubArea

variable {E : Env} {a : PubArea 4} {pubArea rest : Bytes}

/-- The name of a public area: its algorithm and the digest that this selects. -/
def Named (E : Env) (nameAlg : ArrayN UInt8 2) (pubArea name : Bytes) : Prop :=
  (nameAlg = Slice.pair 0x00 0x0b ∧ name = nameAlg.toList ++ E.sha256Digest pubArea) ∨
    (nameAlg = Slice.pair 0x00 0x0c ∧ name = nameAlg.toList ++ E.sha384Digest pubArea)

lemma hashPubArea_eq_ok {nameAlg : ArrayN UInt8 2} {hash : Bytes} :
    hashPubArea E (u16FromBeBytes nameAlg) pubArea = .ok hash ↔
      (nameAlg = Slice.pair 0x00 0x0b ∧ hash = E.sha256Digest pubArea) ∨
        (nameAlg = Slice.pair 0x00 0x0c ∧ hash = E.sha384Digest pubArea) := by
  have h256 : u16FromBeBytes nameAlg = 0x000B ↔ nameAlg = Slice.pair 0x00 0x0b := by
    rw [← u16FromBeBytes_inj]
    rfl
  have h384 : u16FromBeBytes nameAlg = 0x000C ↔ nameAlg = Slice.pair 0x00 0x0c := by
    rw [← u16FromBeBytes_inj]
    rfl
  have hne : (Slice.pair 0x00 0x0b : ArrayN UInt8 2) ≠ Slice.pair 0x00 0x0c := by decide
  unfold hashPubArea
  split_ifs with h₁ h₂
  · rw [h256] at h₁
    simp only [h₁, hne, Crypto.sha256_eq, Outcome.ok_bind, Outcome.pure_eq, Outcome.ok.injEq,
      true_and, false_and, or_false]
    exact eq_comm
  · rw [h256] at h₁
    rw [h384] at h₂
    simp [h₂, hne.symm, eq_comm]
  · rw [h256] at h₁
    rw [h384] at h₂
    simp [h₁, h₂]

/-- **The name that is computed.** -/
lemma computePubAreaName_eq_ok (h : pubArea = a.encode ++ rest) :
    computePubAreaName E pubArea = .ok name ↔ Named E a.nameAlg pubArea name := by
  have hdrop : pubArea.drop 2 = a.nameAlg.toList ++ (a.attributes.toList ++
      (a.authPolicy.encode ++ a.key.encode) ++ rest) := by
    rw [h, PubArea.encode, List.append_assoc, List.drop_left' a.key.type.toList_length,
      List.append_assoc]
  have hlen : ¬ pubArea.length < 4 := by
    have hle := a.length_le_encode
    rw [h, List.length_append]
    omega
  have hu16 := u16At_eq hdrop a.nameAlg rfl
  obtain ⟨high, low, hpair⟩ := Slice.exists_pair a.nameAlg
  have hhigh : pubArea[2]? = some high := by
    have hget := congrArg (·[0]?) hdrop
    simpa [hpair] using hget
  have hlow : pubArea[3]? = some low := by
    have hget := congrArg (·[1]?) hdrop
    simpa [hpair] using hget
  simp only [computePubAreaName, Outcome.bind_eq_ok, Outcome.rejectIf_eq_ok, exists_const,
    hu16, Outcome.ok.injEq, exists_eq_left', hashPubArea_eq_ok, Slice.index_eq_ok, hhigh, hlow,
    Option.some.injEq, Outcome.pure_eq]
  simp only [hlen, not_false_eq_true, true_and, Named]
  rw [show a.nameAlg.toList = [high, low] by rw [hpair, Slice.pair_toList]]
  refine ⟨?_, ?_⟩
  · rintro ⟨hash, ⟨halg, rfl⟩ | ⟨halg, rfl⟩, rfl⟩
    · exact .inl ⟨halg, rfl⟩
    · exact .inr ⟨halg, rfl⟩
  · rintro (⟨halg, rfl⟩ | ⟨halg, rfl⟩)
    · exact ⟨_, .inl ⟨halg, rfl⟩, rfl⟩
    · exact ⟨_, .inr ⟨halg, rfl⟩, rfl⟩

end

end Caden.Tpm
