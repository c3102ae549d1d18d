import Caden.TpmFormat

/-!
The certification a TPM signs, field by field, and the check of it.

The check expects a size in front of the structure, which is there when a TPM hands the
structure over, and not in the bytes that it signs.
-/

namespace Caden.TpmCertInfo

open CertBytes (invalid)
open Tpm TpmFormat

/-- A certification of a key, to its last field. -/
structure Attest where
  qualifiedSigner : Sized
  extraData : Sized
  clockInfo : ArrayN UInt8 17
  firmwareVersion : ArrayN UInt8 8
  name : Sized
  qualifiedName : Sized

/-- `TPM_GENERATED_VALUE`. -/
def TPM_GENERATED : ArrayN UInt8 4 := ⟨[0xff, 0x54, 0x43, 0x47], rfl⟩

def TPM_ST_ATTEST_CERTIFY : ArrayN UInt8 2 := Slice.pair 0x80 0x17

namespace Attest

def encode (a : Attest) : Bytes :=
  TPM_GENERATED.toList ++ (TPM_ST_ATTEST_CERTIFY.toList ++ (a.qualifiedSigner.encode ++
    (a.extraData.encode ++ (a.clockInfo.toList ++ (a.firmwareVersion.toList ++
      (a.name.encode ++ a.qualifiedName.encode))))))

/-- What is certified is the key of that name, for that data. -/
def Certifies (a : Attest) (extraData : ArrayN UInt8 32) (name : Bytes) : Prop :=
  a.extraData.bytes = extraData.toList ∧ a.name.bytes = name

end Attest

lemma verifyCertInfo_encode (a : Attest) (extraData : ArrayN UInt8 32) (name : Bytes) :
    verifyCertInfo a.encode extraData name = .err (invalid
      "tpm: certInfo magic must be 0xFF544347 (TPM_GENERATED_VALUE), got 0x43478017") := by
  have hskip : tpmSkip a.encode 0 2 = .ok 2 := by
    refine tpmSkip_eq_ok.mpr ⟨by decide, ?_, rfl⟩
    rw [Attest.encode, List.length_append, TPM_GENERATED.toList_length]
    omega
  have hmagic : tpmReadU32Be a.encode 2 = .ok (0x43478017, 6) :=
    tpmReadU32Be_eq_ok.mpr ⟨by decide, ⟨[0x43, 0x47, 0x80, 0x17], rfl⟩, _, rfl, rfl, rfl⟩
  have hne : (0x43478017 : UInt32) ≠ 0xFF544347 := by decide
  rw [verifyCertInfo, hskip, Outcome.ok_bind, hmagic, Outcome.ok_bind]
  simp only [Outcome.rejectIf, if_pos hne]
  rfl

/-- **The check does right only by what it must reject**: no certification is accepted. -/
theorem certInfo_check_iff (a : Attest) (extraData : ArrayN UInt8 32) (name : Bytes) :
    (verifyCertInfo a.encode extraData name = .ok () ↔ a.Certifies extraData name) ↔
      ¬ a.Certifies extraData name := by
  have hreject : verifyCertInfo a.encode extraData name ≠ .ok () := by
    rw [verifyCertInfo_encode]
    intro h
    cases h
  rw [iff_false_left hreject]

/-- A certification of a name of 34 bytes. -/
def certification : Attest where
  qualifiedSigner := ⟨[0x00, 0x0b] ++ List.replicate 32 0x51, by decide⟩
  extraData := ⟨List.replicate 32 0xed, by decide⟩
  clockInfo := ⟨List.replicate 17 0, by decide⟩
  firmwareVersion := ⟨List.replicate 8 0, by decide⟩
  name := ⟨[0x00, 0x0b] ++ List.replicate 32 0x4e, by decide⟩
  qualifiedName := ⟨[0x00, 0x0b] ++ List.replicate 32 0x4f, by decide⟩

theorem certification_rejected : ¬ ∀ (a : Attest) (extraData : ArrayN UInt8 32) (name : Bytes),
    verifyCertInfo a.encode extraData name = .ok () ↔ a.Certifies extraData name := by
  intro h
  have hok := (h certification ⟨List.replicate 32 0xed, by decide⟩
    ([0x00, 0x0b] ++ List.replicate 32 0x4e)).mpr ⟨rfl, rfl⟩
  revert hok
  decide +kernel

end Caden.TpmCertInfo
