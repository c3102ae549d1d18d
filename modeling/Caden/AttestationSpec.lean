import Caden.Attestation
import Caden.Lib.Matched
import Caden.Recorded

/-!
What the type of an attestation means.

Six formats come to the chain check, each by its own route, and report the type that the check
returns. A certificate that earlier checks let through because it does not parse is caught there
when trust anchors are configured.
-/

namespace Caden.Attestation

open CertBytes AttStmt X5c

/-- The formats that have a verifier and carry certificates or a signature. -/
def verifiedFormats : List String :=
  ["packed", "fido-u2f", "android-key", "apple", "tpm", "android-safetynet"]

/-- The certificates of a statement: its `x5c` entry, or for SafetyNet the ones in the header
of the JWS it carries. -/
def CertsOf (E : Env) (fmt : String) (attStmt : Value) (certs : List Bytes) : Prop :=
  if fmt = "android-safetynet" then
    ∃ response jws j, entryOf "response" attStmt = some (.bytes response) ∧
      Text.fromUtf8 response = some jws ∧ IsJws E jws j ∧ j.certs = certs
  else entryOf "x5c" attStmt = some (arrayOf certs)

/-- What is required of the leaf of a packed statement, as far as the leaf parses. -/
structure LeafFits (E : Env) (aaguid : ArrayN UInt8 16) (leaf : Bytes) : Prop where
  aaguid : ∀ cert, E.x509FromDer leaf = some cert → ∀ ext ∈ cert.extensions,
    ext.oid = FIDO_GEN_CE_AAGUID_OID → ext.value = aaguidOctets aaguid
  notCa : ∀ cert bc, E.x509FromDer leaf = some cert →
    cert.basicConstraints = .ok (some bc) → bc.ca = false

variable {E : Env} {attStmt : Value} {certs anchors : List Bytes} {authData credId : Bytes}
  {hash : ArrayN UInt8 32} {pk : PublicKey} {aaguid : ArrayN UInt8 16} {t : AttestationType}
  {fmt : String} {st : Fields} {wanted : List Field}

/-! ### The routes to the chain check -/

/-- The type comes from the chain check of the statement's certificates. -/
def FromChain (E : Env) (fmt : String) (attStmt : Value) (anchors : List Bytes)
    (t : AttestationType) : Prop :=
  ∃ certs, CertsOf E fmt attStmt certs ∧ verifyX5cChain E certs anchors = .ok t

lemma certsOf_x5c (hfmt : fmt ≠ "android-safetynet") (h : readStmt fmt wanted attStmt = .ok st)
    (hf : .x5c ∈ wanted) (hc : st .x5c = some certs) : CertsOf E fmt attStmt certs := by
  rw [CertsOf, if_neg hfmt]
  exact (readStmt_x5c h hf hc).1

lemma fromChain_fidoU2f : (verifyFidoU2f E attStmt authData hash credId pk anchors).Returns
    (FromChain E "fido-u2f" attStmt anchors) := by
  refine .bind fun st hst => ?_
  refine .bind fun certs hcerts => ?_
  have hc : CertsOf E "fido-u2f" attStmt certs :=
    certsOf_x5c (by decide) hst (by simp) (required_eq_ok.mp hcerts)
  iterate 7 refine .bind fun _ _ => ?_
  exact fun t ht => ⟨certs, hc, ht⟩

lemma fromChain_androidKey : (verifyAndroidKey E attStmt authData hash pk anchors).Returns
    (FromChain E "android-key" attStmt anchors) := by
  refine .bind fun st hst => ?_
  refine .bind fun _ _ => .bind fun _ _ => ?_
  refine .bind fun certs hcerts => ?_
  have hc : CertsOf E "android-key" attStmt certs :=
    certsOf_x5c (by decide) hst (by simp) (required_eq_ok.mp hcerts)
  iterate 5 refine .bind fun _ _ => ?_
  exact fun t ht => ⟨certs, hc, ht⟩

lemma fromChain_apple : (verifyApple E attStmt authData hash pk anchors).Returns
    (FromChain E "apple" attStmt anchors) := by
  refine .bind fun st hst => ?_
  refine .bind fun certs hcerts => ?_
  have hc : CertsOf E "apple" attStmt certs :=
    certsOf_x5c (by decide) hst (by simp) (required_eq_ok.mp hcerts)
  iterate 7 refine .bind fun _ _ => ?_
  exact fun t ht => ⟨certs, hc, ht⟩

lemma fromChain_tpm : (verifyTpm E attStmt authData hash pk anchors).Returns
    (FromChain E "tpm" attStmt anchors) := by
  refine .bind fun st hst => ?_
  iterate 4 refine .bind fun _ _ => ?_
  refine .bind fun certs hcerts => ?_
  have hc : CertsOf E "tpm" attStmt certs :=
    certsOf_x5c (by decide) hst (by simp) (required_eq_ok.mp hcerts)
  iterate 10 refine .bind fun _ _ => ?_
  exact fun t ht => ⟨certs, hc, ht⟩

lemma fromChain_androidSafetynet :
    (verifyAndroidSafetynet E attStmt authData hash anchors).Returns
      (FromChain E "android-safetynet" attStmt anchors) := by
  refine .bind fun st hst => ?_
  refine .bind fun _ _ => ?_
  refine .bind fun response hresponse => ?_
  refine .bind fun text htext => ?_
  refine .bind fun jws hjws => ?_
  have hc : CertsOf E "android-safetynet" attStmt jws.certs := by
    have hentry := readStmt_response hst (by simp) (required_eq_ok.mp hresponse)
    rw [CertsOf, if_pos rfl]
    exact ⟨response, text, jws, hentry, Outcome.okOr_eq_ok.mp htext,
      splitJwsWithX5c_eq_ok.mp hjws, rfl⟩
  iterate 6 refine .bind fun _ _ => ?_
  exact fun t ht => ⟨jws.certs, hc, ht⟩

/-! ### Packed statements -/

lemma verifySelfSignature_eq_ok {alg : ℤ} {m sig : Bytes} {u : Unit}
    (h : verifySelfSignature E alg pk m sig = .ok u) : pk.Verifies E m sig := by
  cases pk
  case es384 => cases h
  all_goals
    simp only [verifySelfSignature] at h
    split_ifs at h
    simpa [PublicKey.Verifies, and_assoc] using h

lemma verifyPackedBasic_returns :
    (verifyPackedBasic E st certs authData hash anchors aaguid).Returns fun t =>
      (∃ leaf, certs.head? = some leaf ∧ LeafFits E aaguid leaf) ∧
        verifyX5cChain E certs anchors = .ok t := by
  iterate 2 refine .bind fun _ _ => ?_
  refine .bind fun leaf hleaf => ?_
  have hhead : certs.head? = some leaf := Slice.index_zero_eq_ok.mp hleaf
  refine .bind fun _ _ => ?_
  refine .bind fun _ haaguid => ?_
  refine .bind fun _ hca => ?_
  have hfits : LeafFits E aaguid leaf :=
    ⟨verifyCertAaguidExtension_eq_ok.mp haaguid, verifyCertIsNotCa_eq_ok.mp hca⟩
  exact fun t ht => ⟨⟨leaf, hhead, hfits⟩, ht⟩

/-- Self attestation: no certificates, and a signature by the credential's own key. -/
def SelfSigned (E : Env) (attStmt : Value) (pk : PublicKey) (m : Bytes) : Prop :=
  entryOf "x5c" attStmt = none ∧
    ∃ sig, entryOf "sig" attStmt = some (.bytes sig) ∧ pk.Verifies E m sig

lemma verifyPackedSelf_returns (hst : readStmt "packed" [.alg, .sig, .x5c] attStmt = .ok st)
    (hnone : st .x5c = none) : (verifyPackedSelf E st authData hash pk).Returns fun t =>
      t = .selfAttestation ∧ SelfSigned E attStmt pk (verificationData authData hash) := by
  refine .bind fun _ _ => ?_
  refine .bind fun sig hsig => ?_
  have hentry := readStmt_sig hst (by simp) (required_eq_ok.mp hsig)
  refine .bind fun _ _ => ?_
  refine .bind fun _ hself => ?_
  have hx5c := readStmt_no_entry hst (by simp) hnone
  exact .pure ⟨rfl, hx5c, sig, hentry, verifySelfSignature_eq_ok hself⟩

/-! ### The meaning of a type -/

/-- What a type promises about the statement it was returned for. -/
def Means (E : Env) (fmt : String) (attStmt : Value) (authData : Bytes)
    (hash : ArrayN UInt8 32) (pk : PublicKey) (anchors : List Bytes)
    (aaguid : ArrayN UInt8 16) : AttestationType → Prop
  | .none => fmt = "none" ∨ fmt ∉ verifiedFormats
  | .selfAttestation =>
    fmt = "packed" ∧ SelfSigned E attStmt pk (verificationData authData hash)
  | .basic => anchors = []
  | .basicVerified => anchors ≠ [] ∧
    ∃ certs, CertsOf E fmt attStmt certs ∧ Chain E certs (AnchoredIn E anchors) ∧
      (fmt = "packed" → ∃ leaf, certs.head? = some leaf ∧ LeafFits E aaguid leaf)

lemma means_of_chain (hcerts : CertsOf E fmt attStmt certs)
    (hleaf : fmt = "packed" → ∃ leaf, certs.head? = some leaf ∧ LeafFits E aaguid leaf)
    (h : verifyX5cChain E certs anchors = .ok t) :
    Means E fmt attStmt authData hash pk anchors aaguid t := by
  rcases verifyX5cChain_eq_ok.mp h with ⟨rfl, hnil, -⟩ | ⟨rfl, hne, hchain⟩
  · exact hnil
  · exact ⟨hne, certs, hcerts, hchain, hleaf⟩

lemma means_of_fromChain (hfmt : fmt ≠ "packed") (h : FromChain E fmt attStmt anchors t) :
    Means E fmt attStmt authData hash pk anchors aaguid t := by
  obtain ⟨certs, hcerts, h⟩ := h
  exact means_of_chain hcerts (fun he => absurd he hfmt) h

lemma means_of_packed : (verifyPacked E attStmt authData hash pk anchors aaguid).Returns
    (Means E "packed" attStmt authData hash pk anchors aaguid) := by
  refine .bind fun st hst => ?_
  split
  · rename_i certs hc
    intro t ht
    obtain ⟨hleaf, hchain⟩ := verifyPackedBasic_returns t ht
    exact means_of_chain (certsOf_x5c (by decide) hst (by simp) hc) (fun _ => hleaf) hchain
  · rename_i hnone
    intro t ht
    obtain ⟨rfl, hself⟩ := verifyPackedSelf_returns hst hnone t ht
    exact ⟨rfl, hself⟩

/-- **An attestation type means what it says**, for every format. -/
theorem verify_means (h : verify E fmt attStmt authData hash pk credId anchors aaguid = .ok t) :
    Means E fmt attStmt authData hash pk anchors aaguid t := by
  unfold verify at h
  split at h
  · cases h
    exact Or.inl rfl
  · exact means_of_packed t h
  · exact means_of_fromChain (by decide) (fromChain_fidoU2f t h)
  · exact means_of_fromChain (by decide) (fromChain_androidKey t h)
  · exact means_of_fromChain (by decide) (fromChain_apple t h)
  · exact means_of_fromChain (by decide) (fromChain_tpm t h)
  · exact means_of_fromChain (by decide) (fromChain_androidSafetynet t h)
  · cases h
    right
    simp_all [verifiedFormats]

/-! ### Verification up to the certificates -/

/-- `E` with other functions that decode and check certificates. -/
def withCertificates (E : Env) (fromDer : Bytes → Option X509Certificate)
    (check : X509Certificate → SubjectPublicKeyInfo → Bool) : Env :=
  { E with x509FromDer := fromDer, x509VerifySignature := check }

section
variable {E' : Env} {fromDer : Bytes → Option X509Certificate}
  {check : X509Certificate → SubjectPublicKeyInfo → Bool} {anchors' : List Bytes}
  {R : AttestationType → AttestationType → Prop}

/-- The checks of a packed leaf pass in `E'` too. -/
structure LeafMatched (E E' : Env) (aaguid : ArrayN UInt8 16) (leaf : Bytes) : Prop where
  aaguid : (verifyCertAaguidExtension E leaf aaguid).Matched Eq
    (verifyCertAaguidExtension E' leaf aaguid)
  notCa : (verifyCertIsNotCa E leaf).Matched Eq (verifyCertIsNotCa E' leaf)

lemma LeafMatched.refl (leaf : Bytes) : LeafMatched E E aaguid leaf :=
  ⟨.refl (fun _ => rfl) _, .refl (fun _ => rfl) _⟩

lemma matched_packed (hE : E' = withCertificates E fromDer check) (hR : ∀ t, R t t)
    (hchain : ∀ certs, (verifyX5cChain E certs anchors).Matched R
      (verifyX5cChain E' certs anchors'))
    (hleaf : ∀ certs leaf, CertsOf E "packed" attStmt certs → certs.head? = some leaf →
      LeafMatched E E' aaguid leaf) :
    (verifyPacked E attStmt authData hash pk anchors aaguid).Matched R
      (verifyPacked E' attStmt authData hash pk anchors' aaguid) := by
  subst hE
  refine .bind_same fun st hst => ?_
  split
  · rename_i certs hcerts
    have hc : CertsOf E "packed" attStmt certs :=
      certsOf_x5c (by decide) hst (by simp) hcerts
    refine .bind_same fun _ _ => .bind_same fun _ _ => .bind_same fun leaf hindex => ?_
    refine .bind_same fun _ _ => ?_
    have hmatched := hleaf certs leaf hc (Slice.index_zero_eq_ok.mp hindex)
    refine .bind hmatched.aaguid fun _ _ _ _ => ?_
    refine .bind hmatched.notCa fun _ _ _ _ => ?_
    exact hchain certs
  · exact .refl hR _

/-- **The formats examine certificates only in their own checks of the leaf and in the chain
check.** Where these are matched in another environment, verification is. -/
lemma matched_verify (hE : E' = withCertificates E fromDer check) (hR : ∀ t, R t t)
    (hchain : ∀ certs, (verifyX5cChain E certs anchors).Matched R
      (verifyX5cChain E' certs anchors'))
    (hhost : ∀ leaf hostname, certIssuedToHostname E' leaf hostname =
      certIssuedToHostname E leaf hostname)
    (hleaf : fmt = "packed" → ∀ certs leaf, CertsOf E fmt attStmt certs →
      certs.head? = some leaf → LeafMatched E E' aaguid leaf) :
    (verify E fmt attStmt authData hash pk credId anchors aaguid).Matched R
      (verify E' fmt attStmt authData hash pk credId anchors' aaguid) := by
  unfold verify
  split
  · exact .refl hR _
  · exact matched_packed hE hR hchain (hleaf rfl)
  all_goals subst hE
  · iterate 9 refine .bind_same fun _ _ => ?_
    exact hchain _
  · iterate 9 refine .bind_same fun _ _ => ?_
    exact hchain _
  · iterate 9 refine .bind_same fun _ _ => ?_
    exact hchain _
  · iterate 16 refine .bind_same fun _ _ => ?_
    exact hchain _
  · -- SafetyNet also compares the names of the leaf
    iterate 5 refine .bind_same fun _ _ => ?_
    refine .bind_same fun leaf _ => ?_
    iterate 4 refine .bind_same fun _ _ => ?_
    rw [hhost]
    refine .bind_same fun _ _ => ?_
    exact hchain _
  · exact .refl hR _

end

/-! ### A packed statement -/

/-- A signature of the attestation certificate's key over a registration's data. -/
def packedSig : Bytes :=
  beBytes 38 0x3045022100dd254a1c6a4daa84e68a9f9feb8f9d6fcd5c300527f2a898171547862ae014b902 ++
  beBytes 33 0x2060a3dcaa93f4c45733867d7b2b3333c24a8716c03d8df7d8ab7df783772e5812

def packedStmt : Value :=
  .map [(.text "alg", .integer (-7)), (.text "sig", .bytes packedSig),
    (.text "x5c", arrayOf [Recorded.leafDer])]

def packedEnv : Env :=
  { Recorded.certificates with
    ecdsaAsn1 := [(Recorded.leafPoint,
      verificationData (Recorded.createAuthData Recorded.aaguid) Recorded.createHash,
      packedSig)] }.env

def packedKey : PublicKey := .es256 Recorded.keyX Recorded.keyY

lemma verify_packedStmt : verify packedEnv "packed" packedStmt
    (Recorded.createAuthData Recorded.aaguid) Recorded.createHash packedKey
    Recorded.credentialId [Recorded.rootDer] Recorded.aaguid = .ok .basicVerified := by
  decide +kernel

/-- The certificate of a packed statement is under the configured anchor. -/
theorem packedStmt_means : Means packedEnv "packed" packedStmt
    (Recorded.createAuthData Recorded.aaguid) Recorded.createHash packedKey [Recorded.rootDer]
    Recorded.aaguid .basicVerified :=
  verify_means verify_packedStmt

end Caden.Attestation
