import Caden.DerTlv
import Caden.Recorded

/-!
The Apple extension, and the nonce that is looked for in it.

The value is a sequence of one element with an explicit tag, the nonce in it. The extraction
expects a second sequence where this tag is.
-/

namespace Caden.AppleNonce

open CertBytes
open DerTlv (FrontField)

/-- The value of the extension: `SEQUENCE { [1] EXPLICIT OCTET STRING nonce }`. -/
def extensionValue (nonce : ArrayN UInt8 32) : Bytes :=
  Der.element 0x30 (Der.element 0xa1 (Der.element 0x04 nonce.toList))

/-- The critical flag, where it is given. -/
def criticality : Option UInt8 → Bytes
  | none => []
  | some flag => [0x01, 0x01, flag]

/-- The extension from its identifier on. -/
def extension (critical : Option UInt8) (nonce : ArrayN UInt8 32) : Bytes :=
  APPLE_NONCE_OID ++ (criticality critical ++ Der.element 0x04 (extensionValue nonce))

section
variable {critical : Option UInt8} {nonce : ArrayN UInt8 32} {pre suf : Bytes}

lemma extensionValue_eq (nonce : ArrayN UInt8 32) :
    extensionValue nonce = [0x30, 0x24, 0xa1, 0x22, 0x04, 0x20] ++ nonce.toList := by
  have hnonce : Der.element 0x04 nonce.toList = [0x04, 0x20] ++ nonce.toList := by
    rw [Der.element_short (by simp), nonce.toList_length]
    rfl
  have htagged : Der.element 0xa1 (Der.element 0x04 nonce.toList) =
      [0xa1, 0x22, 0x04, 0x20] ++ nonce.toList := by
    rw [hnonce, Der.element_short (by simp), List.length_append, nonce.toList_length]
    rfl
  rw [extensionValue, htagged, Der.element_short (by simp), List.length_append,
    nonce.toList_length]
  rfl

lemma length_extensionValue (nonce : ArrayN UInt8 32) : (extensionValue nonce).length = 38 := by
  rw [extensionValue_eq, List.length_append, nonce.toList_length]
  rfl

lemma derUnwrap_short {tag t : UInt8} {c : Bytes} (rest : Bytes) (h : c.length < 0x80) :
    derUnwrap t (Der.element tag c ++ rest) = if tag = t then .ok c else .err () := by
  have hlt : c.length < 256 ^ 0x7e := h.trans (by decide)
  refine derUnwrap_element (Der.isElement_element hlt) ?_
  rw [Der.length_element_short h]
  omega

lemma skipCriticality_append (t : Bytes) :
    skipCriticality (criticality critical ++ (0x04 :: t)) = 0x04 :: t := by
  cases critical with
  | none => rfl
  | some flag => rfl

lemma extractAppleNonce_extension
    (h : Slice.position APPLE_NONCE_OID (pre ++ (extension critical nonce ++ suf)) =
      some pre.length) :
    extractAppleNonceFromCert (pre ++ (extension critical nonce ++ suf)) =
      .err (invalid "apple: failed to parse extension value inner SEQUENCE") := by
  have hafter : Slice.sliceFrom (pre ++ (extension critical nonce ++ suf))
      (pre.length + APPLE_NONCE_OID.length) = (.ok (criticality critical ++
        (Der.element 0x04 (extensionValue nonce) ++ suf)) : Res Bytes) := by
    rw [Slice.sliceFrom_eq_ok, extension, List.append_assoc, List.append_assoc]
    refine ⟨by simp, ?_⟩
    rw [← List.drop_drop, List.drop_left, List.drop_left]
  have hskip : skipCriticality (criticality critical ++
      (Der.element 0x04 (extensionValue nonce) ++ suf)) =
        Der.element 0x04 (extensionValue nonce) ++ suf :=
    skipCriticality_append _
  have hoctets : derUnwrapOctetString (Der.element 0x04 (extensionValue nonce) ++ suf) =
      .ok (extensionValue nonce) :=
    derUnwrap_short _ (by rw [length_extensionValue]; decide)
  have htagged : (Der.element 0x04 nonce.toList).length = 34 := by
    rw [Der.length_element_short (by simp), nonce.toList_length]
  have houter : derUnwrapSequence (extensionValue nonce) =
      .ok (Der.element 0xa1 (Der.element 0x04 nonce.toList)) := by
    rw [extensionValue, ← List.append_nil (Der.element 0x30 _)]
    refine derUnwrap_short _ ?_
    rw [Der.length_element_short (by omega)]
    omega
  have hinner : derUnwrapSequence (Der.element 0xa1 (Der.element 0x04 nonce.toList)) =
      .err () := by
    rw [← List.append_nil (Der.element 0xa1 _)]
    exact derUnwrap_short _ (by omega)
  rw [extractAppleNonceFromCert, h]
  simp only [Outcome.okOr, Outcome.ok_bind, hafter, hskip, hoctets, houter, hinner,
    Outcome.mapErr, Outcome.err_bind]

/-! ### What is extracted -/

/-- Inside an octet string and two sequences, each at the front of what it is in. -/
def NonceBehind (b nonce : Bytes) : Prop :=
  ∃ value outer inner, FrontField 0x04 value b ∧ FrontField 0x30 outer value ∧
    FrontField 0x30 inner outer ∧ FrontField 0x04 nonce inner

/-- Behind the first identifier, and three bytes further if the first of these is that of a
BOOLEAN, there is the nonce. -/
def FindsNonce (data nonce : Bytes) : Prop :=
  ∃ i, Slice.FirstAt APPLE_NONCE_OID data i ∧
    let b := data.drop (i + APPLE_NONCE_OID.length)
    NonceBehind (if b.head? = some 0x01 then b.drop 3 else b) nonce

lemma skipCriticality_eq (b : Bytes) :
    skipCriticality b = if b.head? = some 0x01 then b.drop 3 else b := by
  unfold skipCriticality Slice.getFrom
  split_ifs with h hle
  · rfl
  · rw [List.drop_of_length_le (by omega)]
    rfl
  · rfl

/-- **The search reads the nonce behind the first identifier.** -/
lemma extractAppleNonce_eq_ok {data : Bytes} :
    extractAppleNonceFromCert data = .ok nonce ↔ FindsNonce data nonce.toList := by
  simp only [extractAppleNonceFromCert, Outcome.bind_eq_ok, Outcome.okOr_eq_ok,
    Slice.sliceFrom_eq_ok, Outcome.mapErr_eq_ok, derUnwrapOctetString, derUnwrapSequence,
    DerTlv.derUnwrap_eq_ok, Outcome.rejectIf_eq_ok, exists_const, not_not, skipCriticality_eq,
    Slice.position_eq_some_iff (by decide : APPLE_NONCE_OID ≠ []), copyFromSlice32,
    Outcome.expect_eq_ok, Slice.tryInto_eq_some]
  refine exists_congr fun i => and_congr_right fun hfirst => ⟨?_, ?_⟩
  · rintro ⟨_, ⟨-, rfl⟩, value, hvalue, outer, houter, inner, hinner, _, hnonce, -, rfl⟩
    exact ⟨value, outer, inner, hvalue, houter, hinner, hnonce⟩
  · rintro ⟨value, outer, inner, hvalue, houter, hinner, hnonce⟩
    exact ⟨_, ⟨hfirst.le_length (by decide), rfl⟩, value, hvalue, outer, houter, inner, hinner, _,
      hnonce, nonce.toList_length, rfl⟩

/-- **No genuine extension gives its nonce**, wherever it is in the certificate. -/
theorem genuine_nonce_not_extracted (critical : Option UInt8) (nonce : ArrayN UInt8 32)
    (pre suf : Bytes)
    (h : Slice.position APPLE_NONCE_OID (pre ++ (extension critical nonce ++ suf)) =
      some pre.length) :
    extractAppleNonceFromCert (pre ++ (extension critical nonce ++ suf)) ≠ .ok nonce := by
  rw [extractAppleNonce_extension h]
  intro hok
  cases hok

end

/-! ### A certificate with the extension -/

/-- The certificate of a recorded key, up to the extension. -/
def beforeExtension : Bytes :=
    beBytes 40 0x3082014b3081f2a003020102020105300a06082a8648ce3d040302300c310a300806035504030c01 ++
    beBytes 40 0x52301e170d3236313132303032313633325a170d3336313131373032313633325a300c310a300806 ++
    beBytes 40 0x035504030c01413059301306072a8648ce3d020106082a8648ce3d030107034200047e762c34844f ++
    beBytes 40 0x32259304bbc12ce0f8250f039d973419f5aeb3dbd33c90201290d748c7b30ba4f43bf327ae122761 ++
    beBytes 38 0x672ef2c6dd88d5a1a5eba6bfe1e4b133a860a3453043300c0603551d130101ff040230003033

/-- The digest of the recorded registration. -/
def genuineNonce : ArrayN UInt8 32 :=
  ⟨beBytes 16 0x53e3e8b6ccf1cef0c96f6379890480b3 ++ beBytes 16 0x853c792c10279ac1cb820f7e4c289e3a,
    by simp⟩

def afterExtension : Bytes :=
    beBytes 40 0x300a06082a8648ce3d040302034800304502203e00929feeb2f81df9f97752c1a71e61bc1118fcf6 ++
    beBytes 40 0xa03c8a8031ed8e786b609c0221009e695d91435678c61ba3e39ead044e92a2676afeb67219e0c343 ++
    beBytes 6 0x7b8238b918cd

lemma position_beforeExtension : Slice.position APPLE_NONCE_OID
    (beforeExtension ++ (extension none genuineNonce ++ afterExtension)) =
      some beforeExtension.length := by
  decide +kernel

theorem genuine_nonce_not_extracted_recorded : extractAppleNonceFromCert
    (beforeExtension ++ (extension none genuineNonce ++ afterExtension)) ≠ .ok genuineNonce :=
  genuine_nonce_not_extracted _ _ _ _ position_beforeExtension

theorem genuine_nonce_lost : ¬ ∀ (critical : Option UInt8) (nonce : ArrayN UInt8 32)
    (pre suf : Bytes),
    Slice.position APPLE_NONCE_OID (pre ++ (extension critical nonce ++ suf)) =
      some pre.length →
    extractAppleNonceFromCert (pre ++ (extension critical nonce ++ suf)) = .ok nonce := by
  intro h
  have hok := h _ _ _ _ position_beforeExtension
  rw [extractAppleNonce_extension position_beforeExtension] at hok
  cases hok

end Caden.AppleNonce
