import Caden.Credential
import Caden.CertBytes

/-!
The structures a TPM signs: the public area, its name, and the certification of it.

Every reader takes the position it starts at and returns the position after what it read.
-/

namespace Caden.Tpm

open CertBytes (invalid)

/-! ### Readers -/

/-- The `n` bytes at `pos`, as an array. -/
def readArray (n : ℕ) (what : String) (data : Bytes) (pos : ℕ) : Res (ArrayN UInt8 n × ℕ) := do
  let stop ← .okOr (checkedAdd pos n) (invalid s!"tpm: position overflow reading {what}")
  let slice ← .okOr (Slice.get data pos stop) (invalid s!"tpm: buffer too short reading {what}")
  let bytes ← .expect (Slice.tryInto n slice)
  return (bytes, stop)

def tpmReadU16Be (data : Bytes) (pos : ℕ) : Res (UInt16 × ℕ) := do
  let (bytes, stop) ← readArray 2 "u16" data pos
  return (u16FromBeBytes bytes, stop)

def tpmReadU32Be (data : Bytes) (pos : ℕ) : Res (UInt32 × ℕ) := do
  let (bytes, stop) ← readArray 4 "u32" data pos
  return (u32FromBeBytes bytes, stop)

/-- A blob after its two-byte length. -/
def tpmReadBlob (data : Bytes) (pos : ℕ) : Res (Bytes × ℕ) := do
  let (len, pos) ← tpmReadU16Be data pos
  let stop ← .okOr (checkedAdd pos len.toNat)
    (invalid "tpm: position overflow reading length-prefixed blob")
  let slice ← .okOr (Slice.get data pos stop)
    (invalid "tpm: length-prefixed field extends beyond buffer")
  return (slice, stop)

def tpmSkip (data : Bytes) (pos n : ℕ) : Res ℕ := do
  let stop ← .okOr (checkedAdd pos n) (invalid s!"tpm: position overflow skipping {n} bytes")
  .rejectIf (stop > data.length) (invalid
    s!"tpm: buffer too short skipping {n} bytes (have {data.length}, need {stop})")
  return stop

section
variable {n : ℕ} {what : String} {data : Bytes} {pos : ℕ}

@[simp] lemma safe_readArray : (readArray n what data pos).Safe := by
  refine Outcome.Safe.bind (by simp) fun stop hstop => ?_
  refine Outcome.Safe.bind (by simp) fun slice hslice => ?_
  refine Outcome.Safe.bind ?_ fun _ _ => Outcome.safe_pure _
  obtain ⟨-, rfl⟩ := checkedAdd_eq_some.mp (Outcome.okOr_eq_ok.mp hstop)
  have hlen := Slice.get_length (Outcome.okOr_eq_ok.mp hslice)
  rw [Outcome.safe_expect, Slice.tryInto_isSome]
  omega

@[simp] lemma safe_tpmReadU16Be : (tpmReadU16Be data pos).Safe := by simp [tpmReadU16Be]
@[simp] lemma safe_tpmReadU32Be : (tpmReadU32Be data pos).Safe := by simp [tpmReadU32Be]
@[simp] lemma safe_tpmReadBlob : (tpmReadBlob data pos).Safe := by simp [tpmReadBlob]
@[simp] lemma safe_tpmSkip : (tpmSkip data pos n).Safe := by simp [tpmSkip]

end

/-! ### The public area -/

/-- `u16::from_be_bytes([data[i], data[i + 1]])`. -/
def u16At (data : Bytes) (i : ℕ) : Res UInt16 := do
  let high ← Slice.index data i
  let low ← Slice.index data (i + 1)
  return u16FromBeBytes (Slice.pair high low)

lemma safe_u16At {data : Bytes} {i : ℕ} (h : i + 2 ≤ data.length) : (u16At data i).Safe := by
  simp only [u16At, Outcome.safe_bind, Slice.safe_index, Outcome.safe_pure]
  exact ⟨by omega, fun _ _ => ⟨by omega, fun _ _ => trivial⟩⟩

/-- The hash of the public area that `nameAlg` selects. -/
def hashPubArea (E : Env) (nameAlg : UInt16) (pubArea : Bytes) : Res Bytes :=
  if nameAlg = 0x000B then do
    let digest ← Crypto.sha256 E pubArea
    return digest.toList
  else if nameAlg = 0x000C then .ok (E.sha384Digest pubArea)
  else .err (invalid
    s!"tpm: unsupported pubArea nameAlg 0x{hexUpper 4 nameAlg.toNat} (expected 0x000B SHA-256 or 0x000C SHA-384)")

/-- `name = nameAlg || H(pubArea)`. -/
def computePubAreaName (E : Env) (pubArea : Bytes) : Res Bytes := do
  .rejectIf (pubArea.length < 4)
    (invalid "tpm: pubArea too short to read nameAlg (need at least 4 bytes)")
  let nameAlg ← u16At pubArea 2
  let hash ← hashPubArea E nameAlg pubArea
  return [← Slice.index pubArea 2, ← Slice.index pubArea 3] ++ hash

@[simp] lemma safe_computePubAreaName (E : Env) (pubArea : Bytes) :
    (computePubAreaName E pubArea).Safe := by
  refine Outcome.Safe.bind (by simp) fun _ h => ?_
  have hlen : 4 ≤ pubArea.length := by simpa using h
  refine Outcome.Safe.bind (safe_u16At (by omega)) fun nameAlg _ => ?_
  refine Outcome.Safe.bind (by simp [hashPubArea]) fun hash _ => ?_
  refine Outcome.Safe.bind (Slice.safe_index.mpr (by omega)) fun _ _ => ?_
  exact Outcome.Safe.bind (Slice.safe_index.mpr (by omega)) fun _ _ => Outcome.safe_pure _

/-- The bytes from the first one that is not zero. -/
def strip (b : Bytes) : Res Bytes := Slice.sliceFrom b (b.findIdx (· != 0))

@[simp] lemma safe_strip (b : Bytes) : (strip b).Safe :=
  Slice.safe_sliceFrom.mpr List.findIdx_le_length

/-- The point of an ECC public area is the credential's. -/
def matchEccPoint (x y : Bytes) : PublicKey → Res Unit
  | .es256 cx cy => .rejectIf (x ≠ cx ∨ y ≠ cy)
      (invalid "tpm: pubArea ECC point does not match ES256 credential key")
  | .es384 cx cy => .rejectIf (x ≠ cx ∨ y ≠ cy)
      (invalid "tpm: pubArea ECC point does not match ES384 credential key")
  | _ => .err
      (invalid "tpm: pubArea type is ECC (0x0023) but credential key is not an EC key")

/-- The modulus of an RSA public area is the credential's, leading zeros aside. -/
def matchRsaModulus (tpmModulus : Bytes) : PublicKey → Res Unit
  | .rs256 n _ => do
    .rejectIf ((← strip tpmModulus) ≠ (← strip n))
      (invalid "tpm: pubArea RSA modulus does not match RS256 credential key")
  | _ => .err (invalid "tpm: pubArea type is RSA (0x0001) but credential key is not RS256")

/-- The `unique` field starts after the policy and after 10 bytes of ECC or 12 bytes of RSA
parameters. -/
def verifyPubAreaMatchesCredential (pubArea : Bytes) (credentialPublicKey : PublicKey) :
    Res Unit := do
  .rejectIf (pubArea.length < 10)
    (invalid "tpm: pubArea too short (need at least 10 bytes for the fixed header)")
  let keyType ← u16At pubArea 0
  let authPolicySize ← u16At pubArea 8
  let paramsStart ← .okOr (checkedAdd 10 authPolicySize.toNat)
    (invalid "tpm: pubArea authPolicy size overflow")
  if keyType = 0x0023 then do
    let uniqueStart ← .okOr (checkedAdd paramsStart 10)
      (invalid "tpm: pubArea ECC params offset overflow")
    let (x, pos) ← tpmReadBlob pubArea uniqueStart
    let (y, _) ← tpmReadBlob pubArea pos
    matchEccPoint x y credentialPublicKey
  else if keyType = 0x0001 then do
    let uniqueStart ← .okOr (checkedAdd paramsStart 12)
      (invalid "tpm: pubArea RSA params offset overflow")
    let (tpmModulus, _) ← tpmReadBlob pubArea uniqueStart
    matchRsaModulus tpmModulus credentialPublicKey
  else .err (invalid s!"tpm: unsupported pubArea key type: 0x{hexUpper 4 keyType.toNat}")

@[simp] lemma safe_matchEccPoint (x y : Bytes) (pk : PublicKey) :
    (matchEccPoint x y pk).Safe := by
  cases pk <;> simp [matchEccPoint]

@[simp] lemma safe_matchRsaModulus (m : Bytes) (pk : PublicKey) :
    (matchRsaModulus m pk).Safe := by
  cases pk <;> simp [matchRsaModulus]

@[simp] lemma safe_verifyPubAreaMatchesCredential (pubArea : Bytes) (pk : PublicKey) :
    (verifyPubAreaMatchesCredential pubArea pk).Safe := by
  refine Outcome.Safe.bind (by simp) fun _ h => ?_
  have hlen : 10 ≤ pubArea.length := by simpa using h
  refine Outcome.Safe.bind (safe_u16At (by omega)) fun keyType _ => ?_
  refine Outcome.Safe.bind (safe_u16At (by omega)) fun _ _ => ?_
  refine Outcome.Safe.bind (by simp) fun _ _ => ?_
  simp

/-! ### The certification -/

/-- Magic, type, extra data and the attested name, in that order; the signer, the clock and
the firmware version are skipped. -/
def verifyCertInfo (certInfo : Bytes) (expectedExtraData : ArrayN UInt8 32)
    (expectedName : Bytes) : Res Unit := do
  let pos ← tpmSkip certInfo 0 2
  let (magic, pos) ← tpmReadU32Be certInfo pos
  .rejectIf (magic ≠ 0xFF544347) (invalid
    s!"tpm: certInfo magic must be 0xFF544347 (TPM_GENERATED_VALUE), got 0x{hexUpper 8 magic.toNat}")
  let (attestType, pos) ← tpmReadU16Be certInfo pos
  .rejectIf (attestType ≠ 0x8017) (invalid
    s!"tpm: certInfo type must be 0x8017 (TPM_ST_ATTEST_CERTIFY), got 0x{hexUpper 4 attestType.toNat}")
  let (_, pos) ← tpmReadBlob certInfo pos
  let (extraData, pos) ← tpmReadBlob certInfo pos
  .rejectIf (extraData ≠ expectedExtraData.toList) (invalid
    "tpm: certInfo extraData does not match SHA-256(authData || clientDataHash)")
  let pos ← tpmSkip certInfo pos 16
  let (attestedName, _) ← tpmReadBlob certInfo pos
  .rejectIf (attestedName ≠ expectedName) (invalid
    "tpm: certInfo attested.name does not match computed name(pubArea)")

@[simp] lemma safe_verifyCertInfo (certInfo : Bytes) (extra : ArrayN UInt8 32) (name : Bytes) :
    (verifyCertInfo certInfo extra name).Safe := by
  simp [verifyCertInfo]

end Caden.Tpm
