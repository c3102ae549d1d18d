import Caden.AppleNonce
import Caden.CertScan
import Caden.CoseKeys
import Caden.Seal
import Caden.TpmAccepts

/-!
What the verifiers of attestation statements accept.

For each format the conditions are those of this code, in terms of what the statement holds and of
the bytes of its parts. They are not the rules of the formats: a key or nonce is the one that a
search finds in the leaf, the algorithm of an Android key statement is not compared, an RSA key is
compared by its modulus alone.
-/

namespace Caden.AttStmt

open X5c

variable {fmt : String} {wanted : List Field} {st : Fields} {attStmt : Value} {f : Field}

/-! ### What a statement holds -/

/-- The value of an entry is read as `a`. -/
def Field.Reads : (f : Field) → Value → f.Val → Prop
  | .ver, v, s => v = .text s
  | .alg, v, i => v = .integer i ∧ CoseKeys.IsI64 i
  | .x5c, v, certs => v = arrayOf certs ∧ certs ≠ []
  | .sig, v, b => v = .bytes b
  | .certInfo, v, b => v = .bytes b
  | .pubArea, v, b => v = .bytes b
  | .response, v, b => v = .bytes b

/-- A map in which every entry of a wanted field can be read, also one that is replaced. -/
def WellTyped (wanted : List Field) (attStmt : Value) : Prop :=
  ∃ m, attStmt = .map m ∧ ∀ f ∈ wanted, ∀ v, (.text f.key, v) ∈ m → ∃ a, f.Reads v a

/-- The last entry of the field is read as `a`. -/
def Holds (attStmt : Value) (f : Field) (a : f.Val) : Prop :=
  ∃ v, entryOf f.key attStmt = some v ∧ f.Reads v a

lemma readValue_eq_ok {v : Value} {a : f.Val} : readValue fmt f v = .ok a ↔ f.Reads v a := by
  cases f with
  | ver => cases v <;> simp [readValue, Field.Reads]
  | alg =>
    cases v with
    | integer i =>
      simp only [readValue, Outcome.okOr_eq_ok, CoseKeys.i64TryFrom_iff, Field.Reads,
        Value.integer.injEq]
      exact and_comm
    | _ => simp [readValue, Field.Reads]
  | x5c => exact extractX5cArray_eq_ok
  | sig | certInfo | pubArea | response => exact readBytes_eq_ok

lemma wellTyped_of_readStmt (h : readStmt fmt wanted attStmt = .ok st) :
    WellTyped wanted attStmt := by
  simp only [readStmt, Outcome.bind_eq_ok, Outcome.okOr_eq_ok] at h
  obtain ⟨m, hm, h⟩ := h
  refine ⟨m, Value.asMap_eq_some.mp hm, ?_⟩
  refine Outcome.foldlM_induction (fun p _ => ∀ f ∈ wanted, ∀ v, (.text f.key, v) ∈ p →
    ∃ a, f.Reads v a) (by simp) ?_ h
  intro p e s t hp he f hf v hv
  rcases List.mem_append.mp hv with hv | hv
  · exact hp f hf v hv
  · obtain rfl := List.mem_singleton.mp hv
    rw [readEntry, fieldOf_eq_some.mpr ⟨hf, rfl⟩] at he
    obtain ⟨a, ha, -⟩ := Outcome.bind_eq_ok.mp he
    exact ⟨a, readValue_eq_ok.mp ha⟩

lemma exists_readStmt : (∃ st, readStmt fmt wanted attStmt = .ok st) ↔
    WellTyped wanted attStmt := by
  refine ⟨?_, ?_⟩
  · rintro ⟨st, hst⟩
    exact wellTyped_of_readStmt hst
  · rintro ⟨m, rfl, hm⟩
    refine readStmt_isOk fun f hf v hv => ?_
    obtain ⟨a, ha⟩ := hm f hf v hv
    exact ⟨a, readValue_eq_ok.mpr ha⟩

lemma readStmt_holds (h : readStmt fmt wanted attStmt = .ok st) (hf : f ∈ wanted) {a : f.Val} :
    st f = some a ↔ Holds attStmt f a := by
  refine ⟨fun ha => ?_, ?_⟩
  · obtain ⟨v, hv, hread⟩ := readStmt_entry h hf ha
    exact ⟨v, hv, readValue_eq_ok.mp hread⟩
  · rintro ⟨v, hv, hread⟩
    exact readStmt_field h hf hv (readValue_eq_ok.mpr hread)

lemma readStmt_eq_none (h : readStmt fmt wanted attStmt = .ok st) (hf : f ∈ wanted) :
    st f = none ↔ entryOf f.key attStmt = none :=
  ⟨readStmt_no_entry h hf, readStmt_absent h hf⟩

end Caden.AttStmt

namespace Caden.Attestation

open AppleNonce (FindsNonce extractAppleNonce_eq_ok)
open AttStmt CertBytes TpmPubArea X5c
open CertScan (FindsP256 FindsRsa extractEc_eq_ok extractRsa_eq_ok)

/-! ### The conditions -/

/-- What a registration presents beside its statement. -/
structure Subject where
  authData : Bytes
  hash : ArrayN UInt8 32
  key : PublicKey
  credId : Bytes
  aaguid : ArrayN UInt8 16

/-- The message of most formats. -/
def Subject.message (s : Subject) : Bytes := verificationData s.authData s.hash

/-- The signature verifies under the key that the search for the algorithm finds in the leaf. -/
def SignedUnder (E : Env) (alg : ℤ) (leaf m sig : Bytes) : Prop :=
  (alg = COSE_ES256 ∧ ∃ key, FindsP256 leaf key ∧ E.ecdsaP256Sha256Asn1 key m sig = true) ∨
  (alg = COSE_RS256 ∧ ∃ key, FindsRsa leaf key ∧ E.rsaPkcs1Sha256 key m sig = true)

/-- The same for a JWS, where the signature of an EC key has a fixed size. -/
def JwsSigned (E : Env) (jws : JwsX5cChain) (leaf : Bytes) : Prop :=
  (jws.alg = "ES256" ∧ ∃ key, FindsP256 leaf key ∧
    E.ecdsaP256Sha256Fixed key jws.signingInput jws.signature = true) ∨
  (jws.alg = "RS256" ∧ ∃ key, FindsRsa leaf key ∧
    E.rsaPkcs1Sha256 key jws.signingInput jws.signature = true)

/-- The certificate names the host as a DNS name or as a common name. -/
def IssuedTo (E : Env) (leaf : Bytes) (hostname : String) : Prop :=
  ∃ cert, E.x509FromDer leaf = some cert ∧
    ((∃ names, cert.subjectAlternativeName = .ok (some names) ∧ .dnsName hostname ∈ names) ∨
      some hostname ∈ cert.commonNames)

/-- The type that a chain has. -/
def ChainType (E : Env) (anchors certs : List Bytes) (t : AttestationType) : Prop :=
  (t = .basic ∧ anchors = [] ∧ certs.IsChain (IssuedBy E)) ∨
    (t = .basicVerified ∧ anchors ≠ [] ∧ Chain E certs (AnchoredIn E anchors))

section
variable (E : Env) (anchors : List Bytes) (s : Subject) (v : Value) (t : AttestationType)

namespace Accepted

/-- Packed with certificates: the key found in the leaf signed, an AAGUID in the leaf is that of
the authenticator, and Basic Constraints that can be read do not make it a CA. -/
inductive PackedBasic : Prop
  | intro {alg : ℤ} {sig leaf : Bytes} {issuers : List Bytes}
    (typed : WellTyped [.alg, .sig, .x5c] v) (holdsAlg : Holds v .alg alg)
    (holdsSig : Holds v .sig sig) (holdsX5c : Holds v .x5c (leaf :: issuers))
    (signed : SignedUnder E alg leaf s.message sig)
    (fits : LeafFits E s.aaguid leaf) (chain : ChainType E anchors (leaf :: issuers) t)

/-- Packed without certificates: the credential's key signed, with an algorithm other than
ES384. -/
inductive PackedSelf : Prop
  | intro {sig : Bytes} (typed : WellTyped [.alg, .sig, .x5c] v) (noX5c : entryOf "x5c" v = none)
    (holdsAlg : Holds v .alg s.key.algorithm) (holdsSig : Holds v .sig sig)
    (key : s.key.algorithm ≠ COSE_ES384) (signed : s.key.Verifies E s.message sig)
    (type : t = .selfAttestation)

/-- U2F: the key found in the leaf signed the parts of the registration that U2F knows. -/
inductive FidoU2f : Prop
  | intro {sig leaf x y : Bytes} {issuers : List Bytes} (typed : WellTyped [.sig, .x5c] v)
    (holdsSig : Holds v .sig sig) (holdsX5c : Holds v .x5c (leaf :: issuers))
    (key : s.key = .es256 x y) (header : 32 ≤ s.authData.length)
    (signed : SignedUnder E COSE_ES256 leaf
      (messageOf "fido-u2f" s.authData s.hash s.credId s.key) sig)
    (chain : ChainType E anchors (leaf :: issuers) t)

/-- Android key: the key found in the leaf is the credential's, which signed. The algorithm is
read and not compared. -/
inductive AndroidKey : Prop
  | intro {alg : ℤ} {sig leaf x y : Bytes} {issuers : List Bytes}
    (typed : WellTyped [.alg, .sig, .x5c] v) (holdsAlg : Holds v .alg alg)
    (holdsSig : Holds v .sig sig) (holdsX5c : Holds v .x5c (leaf :: issuers))
    (key : s.key = .es256 x y)
    (leafKey : FindsP256 leaf (uncompressed x y))
    (signed : s.key.Verifies E s.message sig) (chain : ChainType E anchors (leaf :: issuers) t)

/-- Apple: the key found in the leaf is the credential's, and the nonce found in it is the digest of
the message. -/
inductive Apple : Prop
  | intro {leaf x y : Bytes} {issuers : List Bytes} (typed : WellTyped [.x5c] v)
    (holdsX5c : Holds v .x5c (leaf :: issuers))
    (nonce : FindsNonce leaf (Crypto.sha256Of E s.message).toList)
    (key : s.key = .es256 x y)
    (leafKey : FindsP256 leaf (uncompressed x y))
    (chain : ChainType E anchors (leaf :: issuers) t)

/-- TPM: the key found in the leaf signed a certification of the public area for the message, and
the area has the point or the modulus of the credential's key. -/
inductive Tpm : Prop
  | intro {sig leaf certInfo name rest : Bytes} {issuers : List Bytes} {area : PubArea 4}
    (typed : WellTyped [.ver, .alg, .sig, .x5c, .certInfo, .pubArea] v)
    (holdsVer : Holds v .ver "2.0") (holdsAlg : Holds v .alg s.key.algorithm)
    (holdsSig : Holds v .sig sig) (holdsX5c : Holds v .x5c (leaf :: issuers))
    (holdsCertInfo : Holds v .certInfo certInfo)
    (holdsPubArea : Holds v .pubArea (area.encode ++ rest)) (key : area.key.UniqueOf s.key)
    (named : Tpm.Named E area.nameAlg (area.encode ++ rest) name)
    (certified : Tpm.Certified certInfo (Crypto.sha256Of E s.message) name)
    (signed : SignedUnder E s.key.algorithm leaf certInfo sig)
    (chain : ChainType E anchors (leaf :: issuers) t)

/-- SafetyNet: the leaf names the host, and the key found in it signed a response with the digest
of the message. -/
inductive AndroidSafetynet : Prop
  | intro {ver text : String} {response leaf : Bytes} {issuers : List Bytes} {jws : JwsX5cChain}
    {payload : SafetyNetPayload} (typed : WellTyped [.ver, .response] v)
    (holdsVer : Holds v .ver ver) (holdsResponse : Holds v .response response)
    (utf8 : Text.fromUtf8 response = some text) (isJws : IsJws E text jws)
    (certs : jws.certs = leaf :: issuers)
    (signed : JwsSigned E jws leaf)
    (decodes : E.jsonSafetyNetPayload jws.payload = .ok payload)
    (nonce : payload.nonce = E.standardEncode (E.sha256Digest s.message))
    (hostname : IssuedTo E leaf "attest.android.com")
    (chain : ChainType E anchors (leaf :: issuers) t)

end Accepted

open Accepted in
/-- The verifier of the format accepts the statement with the type `t`. -/
def Accepted (fmt : String) : Prop :=
  match fmt with
  | "packed" => PackedBasic E anchors s v t ∨ PackedSelf E s v t
  | "fido-u2f" => FidoU2f E anchors s v t
  | "android-key" => AndroidKey E anchors s v t
  | "apple" => Apple E anchors s v t
  | "tpm" => Tpm E anchors s v t
  | "android-safetynet" => AndroidSafetynet E anchors s v t
  | _ => t = .none

end

/-! ### The verifiers decide the conditions -/

variable {E : Env} {anchors certs : List Bytes} {s : Subject} {v : Value} {t : AttestationType}
  {st : Fields} {alg : ℤ} {leaf m sig : Bytes}

lemma chainType_iff : verifyX5cChain E certs anchors = .ok t ↔ ChainType E anchors certs t :=
  verifyX5cChain_eq_ok

lemma verifyLeafSignature_eq_ok {u : Unit} :
    verifyLeafSignature E alg leaf m sig = .ok u ↔ SignedUnder E alg leaf m sig := by
  have hne : COSE_ES256 ≠ COSE_RS256 := by decide
  unfold verifyLeafSignature SignedUnder
  split_ifs with h₁ h₂
  · simp [h₁, hne, extractEc_eq_ok]
  · simp [h₂, hne.symm, extractRsa_eq_ok]
  · simp [h₁, h₂]

lemma verifyJwsSignature_eq_ok {jws : JwsX5cChain} {u : Unit} :
    verifyJwsSignature E jws leaf = .ok u ↔ JwsSigned E jws leaf := by
  unfold verifyJwsSignature JwsSigned
  split_ifs with h₁ h₂ <;> simp [*, extractEc_eq_ok, extractRsa_eq_ok]

lemma certIssuedToHostname_iff {hostname : String} :
    certIssuedToHostname E leaf hostname = true ↔ IssuedTo E leaf hostname := by
  unfold certIssuedToHostname IssuedTo
  rcases E.x509FromDer leaf with _ | cert
  · simp
  · simp only [Option.some.injEq, exists_eq_left', Bool.or_eq_true, List.any_eq_true, beq_iff_eq,
      exists_eq_right]
    refine or_congr ?_ Iff.rfl
    rcases cert.subjectAlternativeName with e | _ | names
    · simp
    · simp
    · simp only [List.any_eq_true, Except.ok.injEq, Option.some.injEq, exists_eq_left']
      refine ⟨?_, fun h => ⟨_, h, beq_self_eq_true _⟩⟩
      rintro ⟨name, hname, hdns⟩
      cases name with
      | dnsName dns => rwa [beq_iff_eq.mp hdns] at hname
      | other => cases hdns

lemma verifySelfSignature_eq_ok' {pk : PublicKey} {u : Unit} :
    verifySelfSignature E pk.algorithm pk m sig = .ok u ↔
      pk.algorithm ≠ COSE_ES384 ∧ pk.Verifies E m sig := by
  have hes256 : COSE_ES256 ≠ COSE_ES384 := by decide
  have hedDsa : COSE_EDDSA ≠ COSE_ES384 := by decide
  have hrs256 : COSE_RS256 ≠ COSE_ES384 := by decide
  cases pk with
  | es256 x y => simp [verifySelfSignature, PublicKey.Verifies, PublicKey.algorithm, hes256]
  | es384 x y => simp [verifySelfSignature, PublicKey.algorithm]
  | edDsa pk => simp [verifySelfSignature, PublicKey.Verifies, PublicKey.algorithm, hedDsa]
  | rs256 n e =>
    simp [verifySelfSignature, PublicKey.Verifies, PublicKey.algorithm, hrs256, and_assoc]

lemma fits_iff {u u' : Unit} : (verifyCertAaguidExtension E leaf s.aaguid = .ok u ∧
    verifyCertIsNotCa E leaf = .ok u') ↔ LeafFits E s.aaguid leaf := by
  rw [verifyCertAaguidExtension_eq_ok, verifyCertIsNotCa_eq_ok]
  exact ⟨fun h => ⟨h.1, h.2⟩, fun h => ⟨h.1, h.2⟩⟩

lemma signedUnder_es256 : SignedUnder E COSE_ES256 leaf m sig ↔
    ∃ key, FindsP256 leaf key ∧ E.ecdsaP256Sha256Asn1 key m sig = true := by
  have hne : COSE_ES256 ≠ COSE_RS256 := by decide
  simp [SignedUnder, hne]

lemma fidoU2f_iff : verifyFidoU2f E v s.authData s.hash s.credId s.key anchors = .ok t ↔
    Accepted.FidoU2f E anchors s v t := by
  simp only [verifyFidoU2f, Outcome.bind_eq_ok, required_eq_ok, Slice.index_zero_eq_ok,
    es256Point_eq_ok, Outcome.rejectIf_eq_ok, exists_const, Slice.slice_eq_ok,
    Crypto.verifyEs256_eq_ok, extractEc_eq_ok, chainType_iff]
  refine ⟨?_, ?_⟩
  · rintro ⟨st, hst, certs, hcerts, sig, hsig, leaf, hhead, key, hkey, _, ⟨⟨x, y, hxy⟩, rfl⟩, hlen,
      _, ⟨-, rfl⟩, hver, hchain⟩
    obtain ⟨issuers, rfl⟩ := List.head?_eq_some_iff.mp hhead
    exact ⟨wellTyped_of_readStmt hst, (readStmt_holds hst (by simp)).mp hsig,
      (readStmt_holds hst (by simp)).mp hcerts, hxy, not_lt.mp hlen,
      signedUnder_es256.mpr ⟨key, hkey, hver⟩, hchain⟩
  · rintro ⟨typed, holdsSig, holdsX5c, key, header, signed, chain⟩
    obtain ⟨st, hst⟩ := exists_readStmt.mpr typed
    obtain ⟨k, hk, hver⟩ := signedUnder_es256.mp signed
    exact ⟨st, hst, _, (readStmt_holds hst (by simp)).mpr holdsX5c, _,
      (readStmt_holds hst (by simp)).mpr holdsSig, _, rfl, k, hk, _, ⟨⟨_, _, key⟩, rfl⟩,
      not_lt.mpr header, _, ⟨⟨by omega, header⟩, rfl⟩, hver, chain⟩

lemma androidKey_iff : verifyAndroidKey E v s.authData s.hash s.key anchors = .ok t ↔
    Accepted.AndroidKey E anchors s v t := by
  simp only [verifyAndroidKey, Outcome.bind_eq_ok, required_eq_ok, Slice.index_zero_eq_ok,
    es256Point_eq_ok, Outcome.rejectIf_eq_ok, exists_const, not_not,
    Crypto.verifyEs256_eq_ok, extractEc_eq_ok, chainType_iff]
  refine ⟨?_, ?_⟩
  · rintro ⟨st, hst, alg, halg, sig, hsig, certs, hcerts, leaf, hhead, key, hkey, _,
      ⟨⟨x, y, hxy⟩, rfl⟩, rfl, hver, hchain⟩
    obtain ⟨issuers, rfl⟩ := List.head?_eq_some_iff.mp hhead
    rw [hxy] at hkey hver
    refine ⟨wellTyped_of_readStmt hst, (readStmt_holds hst (by simp)).mp halg,
      (readStmt_holds hst (by simp)).mp hsig, (readStmt_holds hst (by simp)).mp hcerts, hxy, hkey,
      ?_, hchain⟩
    rw [hxy]
    exact hver
  · rintro ⟨typed, holdsAlg, holdsSig, holdsX5c, key, leafKey, signed, chain⟩
    obtain ⟨st, hst⟩ := exists_readStmt.mpr typed
    rw [key] at signed
    exact ⟨st, hst, _, (readStmt_holds hst (by simp)).mpr holdsAlg, _,
      (readStmt_holds hst (by simp)).mpr holdsSig, _,
      (readStmt_holds hst (by simp)).mpr holdsX5c, _, rfl, _, leafKey, _, ⟨⟨_, _, key⟩, rfl⟩,
      by rw [key]; rfl, signed, chain⟩

lemma apple_iff : verifyApple E v s.authData s.hash s.key anchors = .ok t ↔
    Accepted.Apple E anchors s v t := by
  simp only [verifyApple, Outcome.bind_eq_ok, required_eq_ok, Slice.index_zero_eq_ok,
    es256Point_eq_ok, Outcome.rejectIf_eq_ok, exists_const, not_not, Crypto.sha256_eq,
    Outcome.ok.injEq, exists_eq_left', extractEc_eq_ok, extractAppleNonce_eq_ok, chainType_iff]
  refine ⟨?_, ?_⟩
  · rintro ⟨st, hst, certs, hcerts, leaf, hhead, _, hnonce, rfl, key, hkey, _,
      ⟨⟨x, y, hxy⟩, rfl⟩, rfl, hchain⟩
    obtain ⟨issuers, rfl⟩ := List.head?_eq_some_iff.mp hhead
    rw [hxy] at hkey
    exact ⟨wellTyped_of_readStmt hst, (readStmt_holds hst (by simp)).mp hcerts, hnonce, hxy, hkey,
      hchain⟩
  · rintro ⟨typed, holdsX5c, nonce, key, leafKey, chain⟩
    obtain ⟨st, hst⟩ := exists_readStmt.mpr typed
    exact ⟨st, hst, _, (readStmt_holds hst (by simp)).mpr holdsX5c, _, rfl, _, nonce, rfl, _,
      leafKey, _, ⟨⟨_, _, key⟩, rfl⟩, by rw [key]; rfl, chain⟩

lemma packed_iff : verifyPacked E v s.authData s.hash s.key anchors s.aaguid = .ok t ↔
    Accepted.PackedBasic E anchors s v t ∨ Accepted.PackedSelf E s v t := by
  rw [verifyPacked, Outcome.bind_eq_ok]
  refine ⟨?_, ?_⟩
  · rintro ⟨st, hst, h⟩
    split at h
    · rename_i certs hcerts
      simp only [verifyPackedBasic, Outcome.bind_eq_ok, required_eq_ok, Slice.index_zero_eq_ok,
        Unique.exists_iff, verifyLeafSignature_eq_ok, chainType_iff] at h
      obtain ⟨alg, halg, sig, hsig, leaf, hhead, hver, haaguid, hca, hchain⟩ := h
      obtain ⟨issuers, rfl⟩ := List.head?_eq_some_iff.mp hhead
      exact .inl ⟨wellTyped_of_readStmt hst, (readStmt_holds hst (by simp)).mp halg,
        (readStmt_holds hst (by simp)).mp hsig, (readStmt_holds hst (by simp)).mp hcerts, hver,
        fits_iff.mp ⟨haaguid, hca⟩, hchain⟩
    · rename_i hnone
      simp only [verifyPackedSelf, Outcome.bind_eq_ok, required_eq_ok, Outcome.rejectIf_eq_ok,
        Unique.exists_iff, not_not, Outcome.pure_eq, Outcome.ok.injEq] at h
      obtain ⟨_, halg, sig, hsig, rfl, hver, rfl⟩ := h
      obtain ⟨hne, hverified⟩ := verifySelfSignature_eq_ok'.mp hver
      exact .inr ⟨wellTyped_of_readStmt hst, (readStmt_eq_none hst (by simp)).mp hnone,
        (readStmt_holds hst (by simp)).mp halg, (readStmt_holds hst (by simp)).mp hsig, hne,
        hverified, rfl⟩
  · rintro (⟨typed, holdsAlg, holdsSig, holdsX5c, signed, fits, chain⟩ |
      ⟨typed, noX5c, holdsAlg, holdsSig, key, signed, rfl⟩)
    · obtain ⟨st, hst⟩ := exists_readStmt.mpr typed
      have hcerts := (readStmt_holds hst (by simp)).mpr holdsX5c
      obtain ⟨haaguid, hca⟩ := fits_iff.mpr fits
      refine ⟨st, hst, ?_⟩
      simp only [hcerts, verifyPackedBasic, Outcome.bind_eq_ok, required_eq_ok,
        Slice.index_zero_eq_ok, Unique.exists_iff, verifyLeafSignature_eq_ok, chainType_iff]
      exact ⟨_, (readStmt_holds hst (by simp)).mpr holdsAlg, _,
        (readStmt_holds hst (by simp)).mpr holdsSig, _, rfl, signed, haaguid, hca, chain⟩
    · obtain ⟨st, hst⟩ := exists_readStmt.mpr typed
      have hnone := (readStmt_eq_none hst (f := .x5c) (by simp)).mpr noX5c
      refine ⟨st, hst, ?_⟩
      simp only [hnone, verifyPackedSelf, Outcome.bind_eq_ok, required_eq_ok,
        Outcome.rejectIf_eq_ok, Unique.exists_iff, not_not, Outcome.pure_eq]
      exact ⟨_, (readStmt_holds hst (by simp)).mpr holdsAlg, _,
        (readStmt_holds hst (by simp)).mpr holdsSig, rfl,
        verifySelfSignature_eq_ok'.mpr ⟨key, signed⟩, trivial⟩

lemma tpmSigned_iff {certInfo : Bytes} :
    (∃ key, tpmCertKey alg leaf = .ok key ∧ tpmVerifySignature E alg key certInfo sig = .ok ()) ↔
      SignedUnder E alg leaf certInfo sig := by
  have hne : COSE_ES256 ≠ COSE_RS256 := by decide
  unfold tpmCertKey tpmVerifySignature SignedUnder
  split_ifs with h₁ h₂
  · simp [h₁, hne, extractEc_eq_ok]
  · simp [h₂, hne.symm, extractRsa_eq_ok]
  · simp [h₁, h₂]

lemma tpm_iff : verifyTpm E v s.authData s.hash s.key anchors = .ok t ↔
    Accepted.Tpm E anchors s v t := by
  simp only [verifyTpm, Outcome.bind_eq_ok, required_eq_ok, Slice.index_zero_eq_ok,
    Outcome.rejectIf_eq_ok, Unique.exists_iff, not_not, Crypto.sha256_eq,
    Outcome.ok.injEq, exists_eq_left', chainType_iff]
  refine ⟨?_, ?_⟩
  · rintro ⟨st, hst, _, hver, rfl, _, halg, rfl, certs, hcerts, sig, hsig, certInfo, hcertInfo,
      pubArea, hpubArea, leaf, hhead, key, hkey, name, hname, harea, hinfo, hsigned, hchain⟩
    obtain ⟨issuers, rfl⟩ := List.head?_eq_some_iff.mp hhead
    obtain ⟨area, rest, rfl, hunique⟩ := verifyPubArea_iff.mp harea
    exact ⟨wellTyped_of_readStmt hst, (readStmt_holds hst (by simp)).mp hver,
      (readStmt_holds hst (by simp)).mp halg, (readStmt_holds hst (by simp)).mp hsig,
      (readStmt_holds hst (by simp)).mp hcerts, (readStmt_holds hst (by simp)).mp hcertInfo,
      (readStmt_holds hst (by simp)).mp hpubArea, hunique,
      (Tpm.computePubAreaName_eq_ok rfl).mp hname, Tpm.verifyCertInfo_iff.mp hinfo,
      tpmSigned_iff.mp ⟨key, hkey, hsigned⟩, hchain⟩
  · rintro ⟨typed, holdsVer, holdsAlg, holdsSig, holdsX5c, holdsCertInfo, holdsPubArea, key, named,
      certified, signed, chain⟩
    obtain ⟨st, hst⟩ := exists_readStmt.mpr typed
    obtain ⟨k, hk, hver⟩ := tpmSigned_iff.mpr signed
    exact ⟨st, hst, _, (readStmt_holds hst (by simp)).mpr holdsVer, rfl, _,
      (readStmt_holds hst (by simp)).mpr holdsAlg, rfl, _,
      (readStmt_holds hst (by simp)).mpr holdsX5c, _, (readStmt_holds hst (by simp)).mpr holdsSig,
      _, (readStmt_holds hst (by simp)).mpr holdsCertInfo, _,
      (readStmt_holds hst (by simp)).mpr holdsPubArea, _, rfl, k, hk, _,
      (Tpm.computePubAreaName_eq_ok rfl).mpr named, verifyPubArea_iff.mpr ⟨_, _, rfl, key⟩,
      Tpm.verifyCertInfo_iff.mpr certified, hver, chain⟩

lemma androidSafetynet_iff : verifyAndroidSafetynet E v s.authData s.hash anchors = .ok t ↔
    Accepted.AndroidSafetynet E anchors s v t := by
  simp only [verifyAndroidSafetynet, Outcome.bind_eq_ok, required_eq_ok, Slice.index_zero_eq_ok,
    Outcome.okOr_eq_ok, Outcome.ofExcept_eq_ok, Outcome.rejectIf_eq_ok, exists_const, not_not,
    splitJwsWithX5c_eq_ok, verifyJwsSignature_eq_ok, Bool.not_eq_false,
    certIssuedToHostname_iff, Crypto.sha256_eq,
    Outcome.ok.injEq, exists_eq_left', chainType_iff]
  refine ⟨?_, ?_⟩
  · rintro ⟨st, hst, ver, hver, response, hresponse, text, htext, jws, hjws, leaf, hhead, hsigned,
      payload, hpayload, hnonce, hhost, hchain⟩
    obtain ⟨issuers, hcerts⟩ := List.head?_eq_some_iff.mp hhead
    rw [hcerts] at hchain
    exact ⟨wellTyped_of_readStmt hst, (readStmt_holds hst (by simp)).mp hver,
      (readStmt_holds hst (by simp)).mp hresponse, htext, hjws, hcerts, hsigned, hpayload, hnonce,
      hhost, hchain⟩
  · rintro ⟨typed, holdsVer, holdsResponse, utf8, isJws, certs, signed, decodes, nonce, hostname,
      chain⟩
    obtain ⟨st, hst⟩ := exists_readStmt.mpr typed
    rw [← certs] at chain
    exact ⟨st, hst, _, (readStmt_holds hst (by simp)).mpr holdsVer, _,
      (readStmt_holds hst (by simp)).mpr holdsResponse, _, utf8, _, isJws, _,
      List.head?_eq_some_iff.mpr ⟨_, certs⟩, signed, _, decodes, nonce, hostname, chain⟩

/-- **The verifiers accept by the conditions.** -/
lemma verify_iff_accepted {fmt : String} :
    verify E fmt v s.authData s.hash s.key s.credId anchors s.aaguid = .ok t ↔
      Accepted E anchors s v t fmt := by
  unfold verify Accepted
  split
  · simp [eq_comm]
  · exact packed_iff
  · exact fidoU2f_iff
  · exact androidKey_iff
  · exact apple_iff
  · exact tpm_iff
  · exact androidSafetynet_iff
  · simp [eq_comm]

/-- **Verification decides the condition of the format.** For a statement of any format it returns
the one type for which the condition holds, and an error exactly when there is none. -/
theorem verify_decides (E : Env) (fmt : String) (attStmt : Value) (s : Subject)
    (anchors : List Bytes) :
    match verify E fmt attStmt s.authData s.hash s.key s.credId anchors s.aaguid with
    | .ok t => ∀ t', Accepted E anchors s attStmt t' fmt ↔ t' = t
    | .err _ => ∀ t, ¬ Accepted E anchors s attStmt t fmt
    | .panic => False := by
  have hiff : ∀ t, verify E fmt attStmt s.authData s.hash s.key s.credId anchors s.aaguid = .ok t ↔
      Accepted E anchors s attStmt t fmt := fun t => verify_iff_accepted
  have hsafe : (verify E fmt attStmt s.authData s.hash s.key s.credId anchors s.aaguid).Safe :=
    safe_verify
  split
  · rename_i t hverify
    intro t'
    rw [← hiff, hverify, Outcome.ok.injEq, eq_comm]
  · rename_i e hverify
    intro t ht
    rw [← hiff, hverify] at ht
    cases ht
  · rename_i hverify
    exact hsafe hverify

end Caden.Attestation
