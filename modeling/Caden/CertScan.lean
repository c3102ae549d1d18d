import Caden.DerTlv
import Caden.Recorded

/-!
The structure of a certificate, and what the searches for a key find in its bytes.

A search takes the first place where the searched bytes are. A serial number and two names come
before the key, and nothing keeps these bytes out of them.
-/

namespace Caden.CertScan

open CertBytes
open DerTlv (IsField derParseTlv_field)
open Slice (FirstAt)

/-! ### Certificates -/

/-- An algorithm, with what follows its identifier: nothing, or the parameters. -/
structure AlgorithmIdentifier where
  algorithm : Bytes
  parameters : Bytes
  deriving DecidableEq

structure BitString where
  unusedBits : Fin 8
  bytes : Bytes
  deriving DecidableEq

/-- A `SubjectPublicKeyInfo`. -/
structure KeyInfo where
  algorithm : AlgorithmIdentifier
  subjectPublicKey : BitString
  deriving DecidableEq

/-- What is signed. Of the fields that no search looks into, the contents are left open. -/
structure TbsCertificate where
  version : Option UInt8
  serialNumber : Bytes
  signature : AlgorithmIdentifier
  issuer : Bytes
  validity : Bytes
  subject : Bytes
  subjectPublicKeyInfo : KeyInfo
  issuerUniqueId : Option Bytes
  subjectUniqueId : Option Bytes
  extensions : Option Bytes

structure Certificate where
  tbsCertificate : TbsCertificate
  signatureAlgorithm : AlgorithmIdentifier
  signatureValue : BitString

def AlgorithmIdentifier.encode (a : AlgorithmIdentifier) : Bytes :=
  Der.element 0x30 (Der.element 0x06 a.algorithm ++ a.parameters)

def BitString.encode (b : BitString) : Bytes :=
  Der.element 0x03 (UInt8.ofNat b.unusedBits :: b.bytes)

def KeyInfo.encode (s : KeyInfo) : Bytes :=
  Der.element 0x30 (s.algorithm.encode ++ s.subjectPublicKey.encode)

/-- A field that may be left out. -/
def optional (tag : UInt8) : Option Bytes → Bytes
  | none => []
  | some c => Der.element tag c

namespace TbsCertificate

/-- The fields before the key. -/
def beforeKey (t : TbsCertificate) : Bytes :=
  optional 0xa0 (t.version.map fun v => Der.element 0x02 [v]) ++
    (Der.element 0x02 t.serialNumber ++ (t.signature.encode ++ (Der.element 0x30 t.issuer ++
      (Der.element 0x30 t.validity ++ Der.element 0x30 t.subject))))

/-- The fields after the key. -/
def afterKey (t : TbsCertificate) : Bytes :=
  optional 0x81 t.issuerUniqueId ++
    (optional 0x82 t.subjectUniqueId ++ optional 0xa3 t.extensions)

def encode (t : TbsCertificate) : Bytes :=
  Der.element 0x30 (t.beforeKey ++ (t.subjectPublicKeyInfo.encode ++ t.afterKey))

end TbsCertificate

namespace Certificate

def encode (c : Certificate) : Bytes :=
  Der.element 0x30 (c.tbsCertificate.encode ++
    (c.signatureAlgorithm.encode ++ c.signatureValue.encode))

def keyInfo (c : Certificate) : KeyInfo := c.tbsCertificate.subjectPublicKeyInfo

end Certificate

/-! ### Keys -/

/-- `ecPublicKey`. -/
def EC_PUBLIC_KEY : Bytes := [0x2a, 0x86, 0x48, 0xce, 0x3d, 0x02, 0x01]

def PRIME256V1 : Bytes := [0x2a, 0x86, 0x48, 0xce, 0x3d, 0x03, 0x01, 0x07]

def RSA_ENCRYPTION : Bytes := [0x2a, 0x86, 0x48, 0x86, 0xf7, 0x0d, 0x01, 0x01, 0x01]

/-- The bytes of an uncompressed point. -/
def IsPoint (k : Bytes) : Prop := k.length = 65 ∧ k.head? = some 0x04

/-- The P-256 key of a point. -/
def p256 (k : Bytes) : KeyInfo :=
  ⟨⟨EC_PUBLIC_KEY, Der.element 0x06 PRIME256V1⟩, ⟨0, k⟩⟩

namespace KeyInfo

/-- An uncompressed P-256 key with the bits `k`. -/
def IsP256 (s : KeyInfo) (k : Bytes) : Prop := IsPoint k ∧ s = p256 k

/-- An RSA key with the bits `k`. -/
def IsRsa (s : KeyInfo) (k : Bytes) : Prop :=
  s.algorithm.algorithm = RSA_ENCRYPTION ∧ s.subjectPublicKey = ⟨0, k⟩

end KeyInfo

/-! ### Where the key is -/

namespace Certificate

/-- The bytes before the key. -/
def beforeKey (c : Certificate) : Bytes :=
  0x30 :: Der.lengthField (c.tbsCertificate.encode ++
    (c.signatureAlgorithm.encode ++ c.signatureValue.encode)).length ++
  (0x30 :: Der.lengthField (c.tbsCertificate.beforeKey ++
    (c.keyInfo.encode ++ c.tbsCertificate.afterKey)).length ++ c.tbsCertificate.beforeKey)

/-- The bytes after the key. -/
def afterKey (c : Certificate) : Bytes :=
  c.tbsCertificate.afterKey ++ (c.signatureAlgorithm.encode ++ c.signatureValue.encode)

/-- The position of the key. -/
def keyAt (c : Certificate) : ℕ := c.beforeKey.length

lemma encode_eq (c : Certificate) :
    c.encode = c.beforeKey ++ (c.keyInfo.encode ++ c.afterKey) := by
  simp only [encode, TbsCertificate.encode, beforeKey, afterKey, keyInfo, Der.element,
    List.cons_append, List.append_assoc]

lemma drop_keyAt (c : Certificate) : c.encode.drop c.keyAt = c.keyInfo.encode ++ c.afterKey := by
  rw [encode_eq, keyAt, List.drop_left]

lemma length_keyInfo_le (c : Certificate) : c.keyInfo.encode.length ≤ c.encode.length := by
  rw [encode_eq, List.length_append, List.length_append]
  omega

end Certificate

/-- The bytes of a key before the identifier of its algorithm. -/
def KeyInfo.beforeIdentifier (s : KeyInfo) : Bytes :=
  0x30 :: Der.lengthField (s.algorithm.encode ++ s.subjectPublicKey.encode).length ++
  0x30 :: Der.lengthField (Der.element 0x06 s.algorithm.algorithm ++
    s.algorithm.parameters).length

lemma KeyInfo.encode_eq (s : KeyInfo) : s.encode = s.beforeIdentifier ++
    (Der.element 0x06 s.algorithm.algorithm ++
      (s.algorithm.parameters ++ s.subjectPublicKey.encode)) := by
  simp only [encode, AlgorithmIdentifier.encode, beforeIdentifier, Der.element,
    List.cons_append, List.append_assoc]

namespace Certificate

/-- The position of the identifier in the key. -/
def identifierAt (c : Certificate) : ℕ := c.keyAt + c.keyInfo.beforeIdentifier.length

lemma drop_identifierAt (c : Certificate) : c.encode.drop c.identifierAt =
    Der.element 0x06 c.keyInfo.algorithm.algorithm ++
      (c.keyInfo.algorithm.parameters ++ (c.keyInfo.subjectPublicKey.encode ++ c.afterKey)) := by
  rw [identifierAt, ← List.drop_drop, drop_keyAt, KeyInfo.encode_eq, List.append_assoc,
    List.drop_left]
  simp only [List.append_assoc]

end Certificate

/-! ### The key is read in one way -/

section
variable {s t : Bytes}

lemma AlgorithmIdentifier.unique {a b : AlgorithmIdentifier}
    (ha : a.encode.length < 256 ^ 0x7e) (hb : b.encode.length < 256 ^ 0x7e)
    (h : a.encode ++ s = b.encode ++ t) : a = b ∧ s = t := by
  obtain ⟨-, hcontents, hst⟩ := Der.element_unique ha hb h
  have hle (x : AlgorithmIdentifier) :
      (Der.element 0x06 x.algorithm).length ≤ x.encode.length := by
    refine le_trans ?_ (Der.length_le_element _ _)
    rw [List.length_append]
    omega
  obtain ⟨-, halgorithm, hparameters⟩ :=
    Der.element_unique ((hle a).trans_lt ha) ((hle b).trans_lt hb) hcontents
  obtain ⟨_, _⟩ := a
  obtain ⟨_, _⟩ := b
  exact ⟨by simp_all only, hst⟩

lemma BitString.unique {a b : BitString} (ha : a.encode.length < 256 ^ 0x7e)
    (hb : b.encode.length < 256 ^ 0x7e) (h : a.encode ++ s = b.encode ++ t) : a = b := by
  obtain ⟨-, hcontents, -⟩ := Der.element_unique ha hb h
  obtain ⟨hbits, hbytes⟩ := List.cons_eq_cons.mp hcontents
  have hnat (n : Fin 8) : (UInt8.ofNat n).toNat = n :=
    UInt8.toNat_ofNat_of_lt' (by simp only [UInt8.size]; omega)
  have hunused : a.unusedBits = b.unusedBits := by
    rw [Fin.ext_iff, ← hnat, hbits, hnat]
  obtain ⟨_, _⟩ := a
  obtain ⟨_, _⟩ := b
  simp_all only

lemma KeyInfo.unique {a b : KeyInfo} (ha : a.encode.length < 256 ^ 0x7e)
    (hb : b.encode.length < 256 ^ 0x7e) (h : a.encode ++ s = b.encode ++ t) : a = b := by
  obtain ⟨-, hcontents, -⟩ := Der.element_unique ha hb h
  have hle (x : KeyInfo) :
      x.algorithm.encode.length + x.subjectPublicKey.encode.length ≤ x.encode.length := by
    rw [← List.length_append]
    exact Der.length_le_element _ _
  have halg (x : KeyInfo) : x.algorithm.encode.length ≤ x.encode.length :=
    (Nat.le_add_right _ _).trans (hle x)
  have hkey (x : KeyInfo) : x.subjectPublicKey.encode.length ≤ x.encode.length :=
    (Nat.le_add_left _ _).trans (hle x)
  obtain ⟨halgorithm, hbits⟩ :=
    AlgorithmIdentifier.unique ((halg a).trans_lt ha) ((halg b).trans_lt hb) hcontents
  rw [← List.append_nil a.subjectPublicKey.encode, ← List.append_nil b.subjectPublicKey.encode]
    at hbits
  have hsubject := BitString.unique ((hkey a).trans_lt ha) ((hkey b).trans_lt hb) hbits
  obtain ⟨_, _⟩ := a
  obtain ⟨_, _⟩ := b
  simp_all only

end

/-! ### P-256 keys -/

/-- The searched bytes without the first byte of the point. -/
def P256_HEADER : Bytes := SPKI_PREFIX.dropLast

lemma spkiPrefix_eq : SPKI_PREFIX = P256_HEADER ++ [0x04] := rfl

section
variable {data k : Bytes} {i : ℕ}

lemma encode_p256 (h : k.length = 65) : (p256 k).encode = P256_HEADER ++ k := by
  have hbits : (p256 k).subjectPublicKey.encode = [0x03, 0x42, 0x00] ++ k := by
    have hlen : ((0x00 : UInt8) :: k).length = 66 := by rw [List.length_cons, h]
    change Der.element 0x03 (0x00 :: k) = _
    rw [Der.element_short (by omega), hlen]
    rfl
  have halg : (p256 k).algorithm.encode = (SPKI_PREFIX.drop 2).take 21 := rfl
  have hlen : ((SPKI_PREFIX.drop 2).take 21 ++ ([0x03, 0x42, 0x00] ++ k)).length = 89 := by
    rw [List.length_append, List.length_append, h]
    rfl
  rw [KeyInfo.encode, hbits, halg, Der.element_short (by omega), hlen]
  rfl

lemma extractEc_eq_ok_iff_get : extractEcP256PublicKeyFromCert data = .ok k ↔
    ∃ i, FirstAt SPKI_PREFIX data i ∧
      Slice.get data (i + SPKI_PREFIX.length - 1) (i + SPKI_PREFIX.length - 1 + 65) = some k := by
  simp only [extractEcP256PublicKeyFromCert, Outcome.okOr_eq_ok, Option.bind_eq_bind,
    Option.bind_eq_some_iff, Slice.position_eq_some_iff (by decide : SPKI_PREFIX ≠ [])]

/-- Where the searched bytes come first, the P-256 key of the point `k` is written. -/
def FindsP256 (data k : Bytes) : Prop :=
  ∃ i, FirstAt SPKI_PREFIX data i ∧ IsPoint k ∧ (p256 k).encode <+: data.drop i

/-- **The search finds a key wherever one is written.** -/
lemma extractEc_eq_ok : extractEcP256PublicKeyFromCert data = .ok k ↔ FindsP256 data k := by
  rw [extractEc_eq_ok_iff_get]
  refine exists_congr fun i => and_congr_right fun hfirst => ?_
  rw [Slice.get_eq_some]
  obtain ⟨t, ht⟩ := hfirst.1
  have hpoint : data.drop (i + SPKI_PREFIX.length - 1) = 0x04 :: t := by
    have hadd : i + SPKI_PREFIX.length - 1 = i + P256_HEADER.length := rfl
    rw [hadd, ← List.drop_drop, ← ht, spkiPrefix_eq, List.append_assoc, List.drop_left]
    rfl
  have hlen := congrArg List.length hpoint
  rw [List.length_drop, List.length_cons] at hlen
  rw [hpoint, Nat.add_sub_cancel_left]
  refine ⟨?_, ?_⟩
  · rintro ⟨⟨-, hle⟩, rfl⟩
    have h65 : ((0x04 :: t).take 65).length = 65 := by
      rw [List.length_take, List.length_cons]
      omega
    refine ⟨⟨h65, rfl⟩, t.drop 64, ?_⟩
    rw [encode_p256 h65, ← ht, spkiPrefix_eq, List.append_assoc, List.append_assoc]
    exact congrArg _ (List.take_append_drop 65 (0x04 :: t))
  · rintro ⟨⟨h65, -⟩, r, hr⟩
    rw [encode_p256 h65, ← ht, spkiPrefix_eq, List.append_assoc, List.append_assoc] at hr
    have hkr : k ++ r = 0x04 :: t := List.append_cancel_left hr
    have hkr' := congrArg List.length hkr
    rw [List.length_append, List.length_cons] at hkr'
    refine ⟨⟨by omega, by omega⟩, ?_⟩
    rw [← hkr, List.take_left' h65]

lemma eq_p256 {c : Certificate} {s t : Bytes} (hlen : c.encode.length < 2 ^ 63) (hk : IsPoint k)
    (h : (p256 k).encode ++ s = c.keyInfo.encode ++ t) : p256 k = c.keyInfo := by
  have hinfo : c.keyInfo.encode.length < 256 ^ 0x7e := by
    refine (c.length_keyInfo_le.trans_lt hlen).trans ?_
    decide
  have hp256 : (p256 k).encode.length < 256 ^ 0x7e := by
    rw [encode_p256 hk.1, List.length_append, hk.1]
    decide
  exact KeyInfo.unique hp256 hinfo h

lemma exists_extractEc {c : Certificate} (h : c.keyInfo.IsP256 k) :
    ∃ k', extractEcP256PublicKeyFromCert c.encode = .ok k' := by
  obtain ⟨⟨h65, hhead⟩, hinfo⟩ := h
  obtain ⟨t, rfl⟩ := List.head?_eq_some_iff.mp hhead
  have hkey : c.encode.drop c.keyAt = P256_HEADER ++ (0x04 :: t) ++ c.afterKey := by
    rw [c.drop_keyAt, hinfo, encode_p256 h65]
  have hat : SPKI_PREFIX <+: c.encode.drop c.keyAt := by
    refine ⟨t ++ c.afterKey, ?_⟩
    rw [hkey, spkiPrefix_eq]
    simp only [List.append_assoc, List.cons_append, List.nil_append]
  obtain ⟨i, hle, hfirst⟩ := Slice.exists_firstAt hat
  have hlen := congrArg List.length hkey
  have hheader : P256_HEADER.length = 26 := rfl
  have hlead : SPKI_PREFIX.length = 27 := rfl
  rw [List.length_drop, List.length_append, List.length_append, h65, hheader] at hlen
  refine ⟨_, extractEc_eq_ok_iff_get.mpr ⟨i, hfirst, Slice.get_eq_some.mpr ⟨⟨?_, ?_⟩, rfl⟩⟩⟩
  · omega
  · omega

/-- Where the 27 bytes come first with room for a key behind them, the certificate's own
`SubjectPublicKeyInfo` is written. -/
def Certificate.OwnPoint (c : Certificate) : Prop :=
  ∀ i, FirstAt SPKI_PREFIX c.encode i → i + 91 ≤ c.encode.length →
    c.keyInfo.encode <+: c.encode.drop i

lemma room_of_point {c : Certificate} (hk : IsPoint k)
    (h : (p256 k).encode <+: c.encode.drop i) : i + 91 ≤ c.encode.length := by
  have hlen := h.length_le
  have hheader : P256_HEADER.length = 26 := rfl
  rw [encode_p256 hk.1, List.length_append, hk.1, hheader, List.length_drop] at hlen
  omega

lemma extractEc_agrees_iff {c : Certificate} (hlen : c.encode.length < 2 ^ 63) :
    (∀ k, extractEcP256PublicKeyFromCert c.encode = .ok k ↔ c.keyInfo.IsP256 k) ↔
      c.OwnPoint := by
  refine ⟨fun h i hfirst hroom => ?_, fun hown => ?_⟩
  · -- behind the searched bytes there are the 65 bytes that are extracted
    obtain ⟨k, hk⟩ : ∃ k, extractEcP256PublicKeyFromCert c.encode = .ok k := by
      have hlead : SPKI_PREFIX.length = 27 := rfl
      refine ⟨_, extractEc_eq_ok_iff_get.mpr ⟨i, hfirst, Slice.get_eq_some.mpr ⟨⟨?_, ?_⟩, rfl⟩⟩⟩
      · omega
      · omega
    obtain ⟨j, hj, -, hat⟩ := extractEc_eq_ok.mp hk
    rw [hfirst.unique hj, ((h k).mp hk).2]
    exact hat
  · have hsound : ∀ k, extractEcP256PublicKeyFromCert c.encode = .ok k → c.keyInfo.IsP256 k := by
      intro k hok
      obtain ⟨i, hfirst, hk, hat⟩ := extractEc_eq_ok.mp hok
      obtain ⟨s, hs⟩ := hown i hfirst (room_of_point hk hat)
      obtain ⟨t, ht⟩ := hat
      exact ⟨hk, (eq_p256 hlen hk (ht.trans hs.symm)).symm⟩
    refine fun k => ⟨hsound k, fun hkey => ?_⟩
    obtain ⟨k', hok⟩ := exists_extractEc hkey
    have hkk : p256 k' = p256 k := (hsound k' hok).2.symm.trans hkey.2
    have hbytes : k' = k := congrArg (·.subjectPublicKey.bytes) hkk
    rw [← hbytes, hok]

/-! ### RSA keys -/

/-- At the front of `b` there is an element, and behind it a BIT STRING with the bytes `k`. -/
def KeyBehind (b k : Bytes) : Prop :=
  ∃ tag contents parameters unused bits, IsField tag contents parameters ∧
    IsField 0x03 (unused :: k) bits ∧ parameters ++ bits <+: b

lemma keyBehind_iff : KeyBehind data k ↔
    ∃ tag parameters rest, derParseTlv data = .ok (tag, parameters, rest) ∧
      ∃ unused rest', derParseTlv rest = .ok (0x03, unused :: k, rest') := by
  refine ⟨?_, ?_⟩
  · rintro ⟨tag, contents, parameters, unused, bits, hparameters, hbits, r, rfl⟩
    rw [List.append_assoc]
    exact ⟨tag, contents, bits ++ r, derParseTlv_field.mpr ⟨_, hparameters, rfl⟩, unused, r,
      derParseTlv_field.mpr ⟨_, hbits, rfl⟩⟩
  · rintro ⟨tag, contents, rest, hparse, unused, rest', hparse'⟩
    obtain ⟨parameters, hparameters, rfl⟩ := derParseTlv_field.mp hparse
    obtain ⟨bits, hbits, rfl⟩ := derParseTlv_field.mp hparse'
    refine ⟨tag, contents, parameters, unused, bits, hparameters, hbits, rest', ?_⟩
    rw [List.append_assoc]

lemma KeyBehind.unique {k' : Bytes} (h : KeyBehind data k) (h' : KeyBehind data k') : k = k' := by
  obtain ⟨_, _, rest, hparse, _, _, hbits⟩ := keyBehind_iff.mp h
  obtain ⟨_, _, rest', hparse', _, _, hbits'⟩ := keyBehind_iff.mp h'
  obtain ⟨-, -, rfl⟩ : _ ∧ _ ∧ rest = rest' := by simpa using hparse.symm.trans hparse'
  have heq := hbits.symm.trans hbits'
  simp only [Outcome.ok.injEq, Prod.mk.injEq, List.cons.injEq] at heq
  exact heq.2.1.2

/-- Behind the first identifier there is a key with the bytes `k`. -/
def FindsRsa (data k : Bytes) : Prop :=
  ∃ i, FirstAt RSA_ENCRYPTION_OID data i ∧
    KeyBehind (data.drop (i + RSA_ENCRYPTION_OID.length)) k

/-- **The search reads what is behind the first identifier.** -/
lemma extractRsa_eq_ok : extractRsaPublicKeyDerFromCert data = .ok k ↔ FindsRsa data k := by
  simp only [FindsRsa, extractRsaPublicKeyDerFromCert, Outcome.bind_eq_ok, Outcome.okOr_eq_ok,
    Slice.sliceFrom_eq_ok, Outcome.mapErr_eq_ok, Outcome.rejectIf_eq_ok, Prod.exists,
    exists_const, Slice.getFrom_eq_some, keyBehind_iff,
    Slice.position_eq_some_iff (by decide : RSA_ENCRYPTION_OID ≠ [])]
  refine exists_congr fun i => and_congr_right fun hfirst => ⟨?_, ?_⟩
  · rintro ⟨_, ⟨-, rfl⟩, tag, parameters, rest, hparams, _, bits, rest', hbits, htag, hone, rfl⟩
    obtain rfl := not_not.mp htag
    obtain _ | ⟨unused, k⟩ := bits
    · simp at hone
    · exact ⟨tag, parameters, rest, hparams, unused, rest', hbits⟩
  · rintro ⟨tag, parameters, rest, hparams, unused, rest', hbits⟩
    exact ⟨_, ⟨hfirst.le_length (by decide), rfl⟩, tag, parameters, rest, hparams, _, _, rest',
      hbits, not_not.mpr rfl, by simp, rfl⟩

/-- An RSA key of whole bytes. -/
def KeyInfo.IsWholeRsa (s : KeyInfo) : Prop :=
  s.algorithm.algorithm = RSA_ENCRYPTION ∧ s.subjectPublicKey.unusedBits = 0

lemma KeyInfo.isRsa_iff {s : KeyInfo} :
    s.IsRsa k ↔ s.IsWholeRsa ∧ k = s.subjectPublicKey.bytes := by
  obtain ⟨algorithm, unusedBits, bytes⟩ := s
  simp only [IsRsa, IsWholeRsa, BitString.mk.injEq, and_assoc, eq_comm (a := k)]

/-- The bytes of the certificate behind an identifier at the position `i`. -/
def Certificate.behind (c : Certificate) (i : ℕ) : Bytes :=
  c.encode.drop (i + RSA_ENCRYPTION_OID.length)

/-- The identifier at `i` is the one in the key, and one element follows it there. -/
def Certificate.AtKey (c : Certificate) (i : ℕ) : Prop :=
  i = c.identifierAt ∧ ∃ tag p, Der.IsElement tag p c.keyInfo.algorithm.parameters

/-- What the first identifier may be: that of a key of whole bytes; one with the bytes of such a
key behind it, as they are in the key; or, in a certificate of another key, one with no key behind
it. -/
inductive Certificate.HarmlessAt (c : Certificate) (i : ℕ) : Prop
  | key (atKey : c.AtKey i) (whole : c.keyInfo.subjectPublicKey.unusedBits = 0)
  | copy (rsa : c.keyInfo.IsWholeRsa)
      (behind : KeyBehind (c.behind i) c.keyInfo.subjectPublicKey.bytes)
  | noKey (other : ¬ c.keyInfo.IsWholeRsa) (behind : ∀ k, ¬ KeyBehind (c.behind i) k)

def Certificate.OwnIdentifier (c : Certificate) : Prop :=
  ∀ i, FirstAt RSA_ENCRYPTION_OID c.encode i → c.HarmlessAt i

lemma rsaEncryptionOid_eq : RSA_ENCRYPTION_OID = Der.element 0x06 RSA_ENCRYPTION := rfl

lemma identifier_prefix_iff {c : Certificate} (hlen : c.encode.length < 2 ^ 63) :
    RSA_ENCRYPTION_OID <+: c.encode.drop c.identifierAt ↔
      c.keyInfo.algorithm.algorithm = RSA_ENCRYPTION := by
  have hdrop := c.drop_identifierAt
  have hle := congrArg List.length hdrop
  rw [List.length_drop, List.length_append] at hle
  have halg : (Der.element 0x06 c.keyInfo.algorithm.algorithm).length < 256 ^ 0x7e := by
    have hlt : (Der.element 0x06 c.keyInfo.algorithm.algorithm).length < 2 ^ 63 := by omega
    exact hlt.trans (by decide)
  rw [hdrop, rsaEncryptionOid_eq]
  refine ⟨?_, fun h => ?_⟩
  · rintro ⟨t, ht⟩
    obtain ⟨-, halgorithm, -⟩ := Der.element_unique (by decide) halg ht
    exact halgorithm.symm
  · rw [h]
    exact List.prefix_append _ _

lemma BitString.isElement {b : BitString} (h : b.encode.length < 256 ^ 0x7e) :
    Der.IsElement 0x03 (UInt8.ofNat b.unusedBits :: b.bytes) b.encode :=
  Der.isElement_element ((Der.length_le_element _ _).trans_lt h)

lemma keyBehind_atKey {c : Certificate} (hlen : c.encode.length < 2 ^ 63) (h : c.AtKey i)
    (hfirst : FirstAt RSA_ENCRYPTION_OID c.encode i) :
    KeyBehind (c.behind i) c.keyInfo.subjectPublicKey.bytes := by
  refine keyBehind_iff.mpr ?_
  obtain ⟨rfl, tag, p, hparameters⟩ := h
  have halgorithm := (identifier_prefix_iff hlen).mp hfirst.1
  have hdrop := c.drop_identifierAt
  have hle := congrArg List.length hdrop
  simp only [List.length_drop, List.length_append] at hle
  have hbits : c.keyInfo.subjectPublicKey.encode.length < 256 ^ 0x7e := by
    have hlt : c.keyInfo.subjectPublicKey.encode.length < 2 ^ 63 := by omega
    exact hlt.trans (by decide)
  have hparse : derParseTlv (c.keyInfo.algorithm.parameters ++
      (c.keyInfo.subjectPublicKey.encode ++ c.afterKey)) =
        .ok (tag, p, c.keyInfo.subjectPublicKey.encode ++ c.afterKey) :=
    derParseTlv_element hparameters (by omega)
  have hparse' : derParseTlv (c.keyInfo.subjectPublicKey.encode ++ c.afterKey) =
      .ok (0x03, UInt8.ofNat c.keyInfo.subjectPublicKey.unusedBits ::
        c.keyInfo.subjectPublicKey.bytes, c.afterKey) :=
    derParseTlv_element (BitString.isElement hbits) (by omega)
  rw [Certificate.behind, ← List.drop_drop, hdrop, halgorithm, ← rsaEncryptionOid_eq,
    List.drop_left]
  exact ⟨_, _, _, hparse, _, _, hparse'⟩

/-- **Behind a harmless identifier there is the certificate's own key or none.** -/
lemma keyBehind_iff_of_harmless {c : Certificate} (hlen : c.encode.length < 2 ^ 63)
    (hfirst : FirstAt RSA_ENCRYPTION_OID c.encode i) (h : c.HarmlessAt i) :
    KeyBehind (c.behind i) k ↔ c.keyInfo.IsRsa k := by
  have hbytes (h : KeyBehind (c.behind i) c.keyInfo.subjectPublicKey.bytes) :
      KeyBehind (c.behind i) k ↔ k = c.keyInfo.subjectPublicKey.bytes := by
    refine ⟨fun hk => hk.unique h, ?_⟩
    rintro rfl
    exact h
  rw [KeyInfo.isRsa_iff]
  cases h with
  | key atKey whole =>
    have halgorithm := (identifier_prefix_iff hlen).mp (atKey.1 ▸ hfirst.1)
    rw [hbytes (keyBehind_atKey hlen atKey hfirst)]
    exact (and_iff_right ⟨halgorithm, whole⟩).symm
  | copy rsa behind =>
    rw [hbytes behind]
    exact (and_iff_right rsa).symm
  | noKey other behind =>
    exact ⟨fun hk => absurd hk (behind k), fun hk => absurd hk.1 other⟩

lemma extractRsa_agrees_iff {c : Certificate} (hlen : c.encode.length < 2 ^ 63) :
    (∀ k, extractRsaPublicKeyDerFromCert c.encode = .ok k ↔ c.keyInfo.IsRsa k) ↔
      c.OwnIdentifier := by
  refine ⟨fun h i hfirst => ?_, fun hown k => ?_⟩
  · have hread (k : Bytes) : KeyBehind (c.behind i) k ↔ c.keyInfo.IsRsa k := by
      rw [← h k, extractRsa_eq_ok]
      refine ⟨fun hk => ⟨i, hfirst, hk⟩, ?_⟩
      rintro ⟨j, hj, hk⟩
      rwa [hfirst.unique hj]
    by_cases hrsa : c.keyInfo.IsWholeRsa
    · exact .copy hrsa ((hread _).mpr (KeyInfo.isRsa_iff.mpr ⟨hrsa, rfl⟩))
    · exact .noKey hrsa fun k hk => hrsa (KeyInfo.isRsa_iff.mp ((hread k).mp hk)).1
  · rw [extractRsa_eq_ok]
    refine ⟨?_, fun hrsa => ?_⟩
    · rintro ⟨i, hfirst, hk⟩
      exact (keyBehind_iff_of_harmless hlen hfirst (hown i hfirst)).mp hk
    · obtain ⟨i, -, hfirst⟩ := Slice.exists_firstAt ((identifier_prefix_iff hlen).mpr hrsa.1)
      exact ⟨i, hfirst, (keyBehind_iff_of_harmless hlen hfirst (hown i hfirst)).mpr hrsa⟩

/-- **The searches agree with the structure exactly when what they search for comes first in
the key**, or where it comes earlier, has the same key behind it, or none in a certificate that has
no such key. -/
theorem key_extraction_agrees_iff (c : Certificate) (hlen : c.encode.length < 2 ^ 63) :
    ((∀ k, extractEcP256PublicKeyFromCert c.encode = .ok k ↔ c.keyInfo.IsP256 k) ∧
      ∀ k, extractRsaPublicKeyDerFromCert c.encode = .ok k ↔ c.keyInfo.IsRsa k) ↔
    c.OwnPoint ∧ c.OwnIdentifier :=
  and_congr (extractEc_agrees_iff hlen) (extractRsa_agrees_iff hlen)

end

/-! ### A certificate whose subject is a key -/

/-- A certificate of one key with another key for a name. -/
def namedByKey : Certificate where
  tbsCertificate := {
    version := some 2
    serialNumber := [0x06]
    signature := ⟨[0x2a, 0x86, 0x48, 0xce, 0x3d, 0x04, 0x03, 0x02], []⟩
    issuer := beBytes 12 0x310a300806035504030c0152
    validity := beBytes 30 0x170d3236313131393233303533395a170d3336313131363233303533395a
    subject := Der.element 0x31 (Der.element 0x30 (Der.element 0x06 [0x55, 0x04, 0x2d] ++
      Der.element 0x03 (0x00 :: (p256 (uncompressed Recorded.keyX Recorded.keyY)).encode)))
    subjectPublicKeyInfo := p256 Recorded.leafPoint
    issuerUniqueId := none
    subjectUniqueId := none
    extensions := some (beBytes 16 0x300e300c0603551d130101ff04023000) }
  signatureAlgorithm := ⟨[0x2a, 0x86, 0x48, 0xce, 0x3d, 0x04, 0x03, 0x02], []⟩
  signatureValue := ⟨0,
    beBytes 35 0x304402205454e9366d0c5d96dd4bb335665ba9f5b3453aea67126e0a66bcdafcbebfda ++
    beBytes 35 0x17022022b2cfde0f5e9bdf0cddd3f2f16d5e6bc5e2067e7f6ced2e2318cd8551d4a5b6⟩

theorem key_extraction_agrees_iff_named :
    ((∀ k, extractEcP256PublicKeyFromCert namedByKey.encode = .ok k ↔
        namedByKey.keyInfo.IsP256 k) ∧
      ∀ k, extractRsaPublicKeyDerFromCert namedByKey.encode = .ok k ↔
        namedByKey.keyInfo.IsRsa k) ↔
    namedByKey.OwnPoint ∧ namedByKey.OwnIdentifier :=
  key_extraction_agrees_iff _ (by decide +kernel)

/-- The key in the name is extracted. -/
theorem key_extraction_disagrees : ¬ ∀ c : Certificate, c.encode.length < 2 ^ 63 →
    (∀ k, extractEcP256PublicKeyFromCert c.encode = .ok k ↔ c.keyInfo.IsP256 k) ∧
      ∀ k, extractRsaPublicKeyDerFromCert c.encode = .ok k ↔ c.keyInfo.IsRsa k := by
  intro h
  obtain ⟨hec, -⟩ := h namedByKey (by decide +kernel)
  have hok : extractEcP256PublicKeyFromCert namedByKey.encode =
      .ok (uncompressed Recorded.keyX Recorded.keyY) := by
    decide +kernel
  obtain ⟨-, hinfo⟩ := (hec _).mp hok
  revert hinfo
  decide

end Caden.CertScan
