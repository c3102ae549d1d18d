import Mathlib.Data.Nat.ModEq
import Caden.Error
import Caden.Lib.Der

/-!
Reading keys and extensions out of the bytes of a certificate, by searching for a fixed
prefix or an object identifier and walking the DER elements that follow it.
-/

namespace Caden.CertBytes

def invalid (msg : String) : WebAuthnError := .invalidAttestationObject msg

/-! ### DER elements -/

/-- The length of an element whose second byte is `b`, and the size of its header. The long
form is accumulated in a 64-bit word, from which a shift drops the high bits. -/
def derHeader (data : Bytes) (b : UInt8) : Outcome Unit (ℕ × ℕ) :=
  if b &&& 0x80 = 0 then .ok (b.toNat, 2)
  else do
    let numBytes := (b &&& 0x7f).toNat
    .rejectIf (numBytes = 0 ∨ data.length < 2 + numBytes) ()
    let bytes ← Slice.slice data 2 (2 + numBytes)
    return (bytes.foldl (fun len b => (len <<< 8) % 2 ^ 64 ||| b.toNat) 0, 2 + numBytes)

/-- The tag, the contents and what follows them. The error stands for an absent value. -/
def derParseTlv (data : Bytes) : Outcome Unit (UInt8 × Bytes × Bytes) := do
  let tag ← .okOr data.head? ()
  .rejectIf (data.length < 2) ()
  let (len, headerLen) ← derHeader data (← Slice.index data 1)
  let stop ← .okOr (checkedAdd headerLen len) ()
  .rejectIf (data.length < stop) ()
  let contents ← Slice.slice data headerLen stop
  let rest ← Slice.sliceFrom data stop
  return (tag, contents, rest)

/-- The contents of an element, if it has the tag `tag`. -/
def derUnwrap (tag : UInt8) (data : Bytes) : Outcome Unit Bytes := do
  let (t, contents, _) ← derParseTlv data
  .rejectIf (t ≠ tag) ()
  return contents

def derUnwrapSequence : Bytes → Outcome Unit Bytes := derUnwrap 0x30
def derUnwrapOctetString : Bytes → Outcome Unit Bytes := derUnwrap 0x04

lemma safe_derHeader (data : Bytes) (b : UInt8) : (derHeader data b).Safe := by
  simp only [derHeader, Outcome.safe_ite, Outcome.safe_ok, Outcome.safe_bind,
    Outcome.safe_rejectIf, Slice.safe_slice, Outcome.rejectIf_eq_ok, Outcome.safe_pure]
  refine ⟨fun _ => trivial, fun _ => ⟨trivial, fun _ h => ⟨?_, fun _ _ => trivial⟩⟩⟩
  exact ⟨by omega, by omega⟩

lemma safe_derParseTlv (data : Bytes) : (derParseTlv data).Safe := by
  refine Outcome.Safe.bind (by simp) fun tag _ => ?_
  refine Outcome.Safe.bind (by simp) fun _ h => ?_
  have hlen : 2 ≤ data.length := not_lt.mp (Outcome.rejectIf_eq_ok.mp h)
  refine Outcome.Safe.bind (Slice.safe_index.mpr (by omega)) fun b _ => ?_
  refine Outcome.Safe.bind (safe_derHeader data b) fun ⟨len, headerLen⟩ _ => ?_
  refine Outcome.Safe.bind (by simp) fun stop hstop => ?_
  obtain ⟨-, rfl⟩ := checkedAdd_eq_some.mp (Outcome.okOr_eq_ok.mp hstop)
  refine Outcome.Safe.bind (by simp) fun _ h => ?_
  have hle : headerLen + len ≤ data.length := by simpa using h
  refine Outcome.Safe.bind (Slice.safe_slice.mpr ⟨by omega, hle⟩) fun _ _ => ?_
  exact Outcome.Safe.bind (Slice.safe_sliceFrom.mpr hle) fun _ _ => Outcome.safe_pure _

@[simp] lemma safe_derUnwrap (tag : UInt8) (data : Bytes) : (derUnwrap tag data).Safe := by
  simp [derUnwrap, safe_derParseTlv]

/-! ### The elements that are read -/

lemma shift_or_mod (acc : ℕ) (x : UInt8) :
    (acc <<< 8) % 2 ^ 64 ||| x.toNat = (acc * 256 + x.toNat) % 2 ^ 64 := by
  have hx : x.toNat < 2 ^ 8 := x.toNat_lt
  have hlow : (acc <<< 8) % 2 ^ 64 = (acc % 2 ^ 56) <<< 8 := by
    rw [Nat.shiftLeft_eq, Nat.shiftLeft_eq]
    omega
  rw [hlow, ← Nat.shiftLeft_add_eq_or_of_lt hx, Nat.shiftLeft_eq]
  omega

lemma foldl_shift_mod (octets : Bytes) (acc : ℕ) (h : acc < 2 ^ 64) :
    octets.foldl (fun len b => (len <<< 8) % 2 ^ 64 ||| b.toNat) acc =
      (acc * 256 ^ octets.length + beNat octets) % 2 ^ 64 := by
  induction octets generalizing acc with
  | nil =>
    rw [List.foldl_nil, List.length_nil, pow_zero, Nat.mul_one, beNat_nil, Nat.add_zero,
      Nat.mod_eq_of_lt h]
  | cons x t ih =>
    have hval : acc * 256 ^ (t.length + 1) + (x.toNat * 256 ^ t.length + beNat t) =
        (acc * 256 + x.toNat) * 256 ^ t.length + beNat t := by
      ring
    have hmod : (acc * 256 + x.toNat) % 2 ^ 64 ≡ acc * 256 + x.toNat [MOD 2 ^ 64] :=
      Nat.mod_modEq _ _
    rw [List.foldl_cons, shift_or_mod, ih _ (Nat.mod_lt _ (by decide)), List.length_cons,
      beNat_cons, hval]
    exact (hmod.mul_right _).add_right _

lemma derHeader_form {len : ℕ} {x tag : UInt8} {field rest : Bytes}
    (h : Der.LengthForm len (x :: field)) :
    derHeader (tag :: x :: (field ++ rest)) x = .ok (len % 2 ^ 64, 2 + field.length) := by
  cases h with
  | short h =>
    have hx : (UInt8.ofNat len).toNat = len :=
      UInt8.toNat_ofNat_of_lt' (by simp only [UInt8.size]; omega)
    have hbit : UInt8.ofNat len &&& 0x80 = 0 := (Der.and_0x80_eq_zero _).mpr (by omega)
    rw [derHeader, if_pos hbit, hx, Nat.mod_eq_of_lt (by omega)]
    rfl
  | long hne h =>
    have hx := Der.toNat_ofNat_add h
    have hbit : ¬ UInt8.ofNat (0x80 + field.length) &&& 0x80 = 0 := by
      rw [Der.and_0x80_eq_zero]
      omega
    have hnum : (UInt8.ofNat (0x80 + field.length) &&& 0x7f).toNat = field.length := by
      rw [Der.and_0x7f, hx]
      omega
    have hpos := List.length_pos_iff.mpr hne
    have hfold := foldl_shift_mod field 0 (by decide)
    simp only [Nat.zero_mul, Nat.zero_add] at hfold
    rw [derHeader, if_neg hbit]
    simp only [Outcome.bind_eq_ok, Outcome.rejectIf_eq_ok, Slice.slice_eq_ok, exists_const, hnum,
      Outcome.pure_eq, Outcome.ok.injEq, List.length_cons, List.length_append]
    refine ⟨by omega, field, ⟨⟨by omega, by omega⟩, ?_⟩, by rw [hfold]⟩
    simp [Nat.add_comm 2]

/-- **After a length field, as many bytes are read as its low 64 bits say.** -/
lemma derParseTlv_form {tag : UInt8} {len : ℕ} {field c rest : Bytes}
    (h : Der.LengthForm len field) (hc : c.length = len % 2 ^ 64)
    (hlt : field.length + c.length + 1 < 2 ^ 64) :
    derParseTlv (tag :: (field ++ (c ++ rest))) = .ok (tag, c, rest) := by
  obtain _ | ⟨x, field⟩ := field
  · cases h
  · rw [List.length_cons] at hlt
    have hheader : derHeader (tag :: x :: (field ++ (c ++ rest))) x =
        .ok (c.length, 2 + field.length) := by
      rw [hc]
      exact derHeader_form h
    have hdrop : (tag :: x :: (field ++ (c ++ rest))).drop (2 + field.length) = c ++ rest := by
      simp [Nat.add_comm 2]
    rw [List.cons_append]
    simp only [derParseTlv, Outcome.bind_eq_ok, Outcome.okOr_eq_ok, Outcome.rejectIf_eq_ok,
      Slice.index_eq_ok, Slice.slice_eq_ok, Slice.sliceFrom_eq_ok, checkedAdd_eq_some,
      exists_const, Outcome.pure_eq, Outcome.ok.injEq, Prod.exists]
    refine ⟨tag, rfl, by simp, x, rfl, _, _, hheader, _, ⟨by omega, rfl⟩, ?_, c, ⟨⟨?_, ?_⟩, ?_⟩,
      rest, ⟨?_, ?_⟩, rfl⟩
    · simp only [List.length_cons, List.length_append]
      omega
    · omega
    · simp only [List.length_cons, List.length_append]
      omega
    · rw [hdrop, Nat.add_sub_cancel_left, List.take_left]
    · simp only [List.length_cons, List.length_append]
      omega
    · rw [← List.drop_drop, hdrop, List.drop_left]

/-- **An element at the front is read whole**: its tag, its contents, and what follows it. -/
theorem derParseTlv_element {tag : UInt8} {c bs rest : Bytes} (h : Der.IsElement tag c bs)
    (hlen : bs.length < 2 ^ 64) : derParseTlv (bs ++ rest) = .ok (tag, c, rest) := by
  obtain ⟨field, hfield, rfl⟩ := h
  simp only [List.length_cons, List.length_append] at hlen
  rw [List.cons_append, List.append_assoc]
  exact derParseTlv_form hfield.lengthForm (Nat.mod_eq_of_lt (by omega)).symm (by omega)

lemma derParseTlv_whole {tag : UInt8} {c bs : Bytes} (h : Der.IsElement tag c bs)
    (hlen : bs.length < 2 ^ 64) : derParseTlv bs = .ok (tag, c, []) := by
  rw [← derParseTlv_element h hlen, List.append_nil]

lemma derUnwrap_element {tag t : UInt8} {c bs rest : Bytes} (h : Der.IsElement tag c bs)
    (hlen : bs.length < 2 ^ 64) :
    derUnwrap t (bs ++ rest) = if tag = t then .ok c else .err () := by
  rw [derUnwrap, derParseTlv_element h hlen, Outcome.ok_bind]
  by_cases ht : tag = t
  · rw [if_pos ht]
    simp [ht, Outcome.rejectIf]
  · rw [if_neg ht]
    simp [ht, Outcome.rejectIf]

/-! ### P-256 keys -/

/-- The fixed header of a P-256 SubjectPublicKeyInfo, to the `0x04` of the point included. -/
def SPKI_PREFIX : Bytes :=
  [0x30, 0x59, 0x30, 0x13, 0x06, 0x07, 0x2a, 0x86, 0x48, 0xce, 0x3d, 0x02, 0x01, 0x06, 0x08,
    0x2a, 0x86, 0x48, 0xce, 0x3d, 0x03, 0x01, 0x07, 0x03, 0x42, 0x00, 0x04]

/-- The 65 bytes of the uncompressed point, from the `0x04` that ends the prefix. -/
def extractEcP256PublicKeyFromCert (certDer : Bytes) : Res Bytes :=
  .okOr (do
      let pos ← Slice.position SPKI_PREFIX certDer
      let keyStart := pos + SPKI_PREFIX.length - 1
      Slice.get certDer keyStart (keyStart + 65))
    (invalid "fido-u2f: certificate does not contain a P-256 EC public key")

@[simp] lemma safe_extractEcP256PublicKeyFromCert (certDer : Bytes) :
    (extractEcP256PublicKeyFromCert certDer).Safe := by
  simp [extractEcP256PublicKeyFromCert]

/-! ### RSA keys -/

def RSA_ENCRYPTION_OID : Bytes :=
  [0x06, 0x09, 0x2a, 0x86, 0x48, 0x86, 0xf7, 0x0d, 0x01, 0x01, 0x01]

/-- The `RSAPublicKey` after the rsaEncryption identifier: the parameters are skipped, and
the first byte of the BIT STRING is dropped. -/
def extractRsaPublicKeyDerFromCert (certDer : Bytes) : Res Bytes := do
  let oidPos ← .okOr (Slice.position RSA_ENCRYPTION_OID certDer)
    (invalid "tpm: attestation cert does not contain rsaEncryption OID")
  let afterOid ← Slice.sliceFrom certDer (oidPos + RSA_ENCRYPTION_OID.length)
  let (_, _, afterParams) ← .mapErr (fun _ => invalid
    "tpm: failed to parse AlgorithmIdentifier params after rsaEncryption OID")
    (derParseTlv afterOid)
  let (bsTag, bsContent, _) ← .mapErr (fun _ => invalid
    "tpm: failed to parse SubjectPublicKeyInfo BIT STRING") (derParseTlv afterParams)
  .rejectIf (bsTag ≠ 0x03) (invalid
    "tpm: expected BIT STRING after AlgorithmIdentifier in SubjectPublicKeyInfo")
  .okOr (Slice.getFrom bsContent 1) (invalid "tpm: BIT STRING for RSA public key is too short")

lemma safe_afterPosition {needle data : Bytes} {i : ℕ}
    (h : Slice.position needle data = some i) :
    (Slice.sliceFrom data (i + needle.length) : Res Bytes).Safe :=
  Slice.safe_sliceFrom.mpr (Slice.position_le h)

@[simp] lemma safe_extractRsaPublicKeyDerFromCert (certDer : Bytes) :
    (extractRsaPublicKeyDerFromCert certDer).Safe := by
  refine Outcome.Safe.bind (by simp) fun oidPos h => ?_
  refine Outcome.Safe.bind (safe_afterPosition (Outcome.okOr_eq_ok.mp h)) fun _ _ => ?_
  simp [safe_derParseTlv]

/-! ### The Apple nonce -/

def APPLE_NONCE_OID : Bytes :=
  [0x06, 0x09, 0x2a, 0x86, 0x48, 0x86, 0xf7, 0x63, 0x64, 0x08, 0x02]

/-- `nonce.copy_from_slice(src)` into 32 bytes: a panic when the lengths differ. -/
def copyFromSlice32 (src : Bytes) : Res (ArrayN UInt8 32) := .expect (Slice.tryInto 32 src)

/-- What follows an optional criticality flag, which is the three bytes of a BOOLEAN. -/
def skipCriticality (afterOid : Bytes) : Bytes :=
  if afterOid.head? = some 0x01 then (Slice.getFrom afterOid 3).getD [] else afterOid

/-- The nonce in the Apple extension, inside two sequences and two octet strings. -/
def extractAppleNonceFromCert (certDer : Bytes) : Res (ArrayN UInt8 32) := do
  let oidPos ← .okOr (Slice.position APPLE_NONCE_OID certDer) (invalid
    "apple: credential certificate missing Apple nonce extension (OID 1.2.840.113635.100.8.2)")
  let afterOid ← Slice.sliceFrom certDer (oidPos + APPLE_NONCE_OID.length)
  let extContent ← .mapErr (fun _ => invalid
    "apple: failed to parse extension extnValue OCTET STRING")
    (derUnwrapOctetString (skipCriticality afterOid))
  let outerSeq ← .mapErr (fun _ => invalid
    "apple: failed to parse extension value outer SEQUENCE") (derUnwrapSequence extContent)
  let innerSeq ← .mapErr (fun _ => invalid
    "apple: failed to parse extension value inner SEQUENCE") (derUnwrapSequence outerSeq)
  let nonceBytes ← .mapErr (fun _ => invalid
    "apple: failed to parse nonce OCTET STRING in extension") (derUnwrapOctetString innerSeq)
  .rejectIf (nonceBytes.length ≠ 32)
    (invalid s!"apple: extension nonce must be 32 bytes, got {nonceBytes.length}")
  copyFromSlice32 nonceBytes

@[simp] lemma safe_extractAppleNonceFromCert (certDer : Bytes) :
    (extractAppleNonceFromCert certDer).Safe := by
  refine Outcome.Safe.bind (by simp) fun oidPos h => ?_
  refine Outcome.Safe.bind (safe_afterPosition (Outcome.okOr_eq_ok.mp h)) fun _ _ => ?_
  refine Outcome.Safe.bind (by simp [derUnwrapOctetString]) fun _ _ => ?_
  refine Outcome.Safe.bind (by simp [derUnwrapSequence]) fun _ _ => ?_
  refine Outcome.Safe.bind (by simp [derUnwrapSequence]) fun _ _ => ?_
  refine Outcome.Safe.bind (by simp [derUnwrapOctetString]) fun _ _ => ?_
  refine Outcome.Safe.bind (by simp) fun _ hlen => ?_
  have h32 := Outcome.rejectIf_eq_ok.mp hlen
  rw [copyFromSlice32, Outcome.safe_expect, Slice.tryInto_isSome]
  exact not_not.mp h32

end Caden.CertBytes
