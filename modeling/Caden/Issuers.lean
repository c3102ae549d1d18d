import Caden.AttestationSpec

/-!
What a verified chain says about its issuers.

Links are names and signatures, up to a trust anchor. The Basic Constraints of a certificate do
not matter to them: with any others in its certificates the chain is verified as well.
-/

namespace Caden.Issuers

open Attestation AttStmt X5c

/-- A certificate with a Basic Constraints extension in which CA is true. -/
def IsCa (E : Env) (certDer : Bytes) : Prop :=
  ∃ cert bc, E.x509FromDer certDer = some cert ∧ cert.basicConstraints = .ok (some bc) ∧
    bc.ca = true

/-- The Basic Constraints of each certificate, in the place of what they were. -/
abbrev Constraints : Type := Bytes → Except Unit (Option BasicConstraints)

def relabel (E : Env) (bc : Constraints) : Env :=
  { E with x509FromDer := fun certDer =>
      (E.x509FromDer certDer).map fun cert => { cert with basicConstraints := bc certDer } }

/-- The signature of a certificate is one of its bytes, whatever was decoded from them. -/
def SignatureOfBytes (E : Env) : Prop :=
  ∀ cert bc key, E.x509VerifySignature { cert with basicConstraints := bc } key =
    E.x509VerifySignature cert key

section
variable {E : Env} {bc : Constraints} {c d leaf : Bytes} {certs anchors : List Bytes}
  {attStmt : Value} {authData credId : Bytes} {hash : ArrayN UInt8 32} {pk : PublicKey}
  {aaguid : ArrayN UInt8 16} {t : AttestationType} {fmt : String}

/-! ### Chains -/

lemma relabel_eq_some {cert : X509Certificate} :
    (relabel E bc).x509FromDer c = some cert ↔
      ∃ cert', E.x509FromDer c = some cert' ∧ { cert' with basicConstraints := bc c } = cert :=
  Option.map_eq_some_iff

lemma relabel_of_eq_some {cert : X509Certificate} (h : E.x509FromDer c = some cert) :
    (relabel E bc).x509FromDer c = some { cert with basicConstraints := bc c } :=
  relabel_eq_some.mpr ⟨cert, h, rfl⟩

lemma issuedBy_relabel (hsig : SignatureOfBytes E) (h : IssuedBy E c d) :
    IssuedBy (relabel E bc) c d := by
  obtain ⟨subject, issuer, hsubject, hissuer, hname, hver⟩ := h
  have hver' : E.x509VerifySignature { subject with basicConstraints := bc c }
      issuer.publicKey = true := by
    rw [hsig]
    exact hver
  exact ⟨_, _, relabel_of_eq_some hsubject, relabel_of_eq_some hissuer, hname, hver'⟩

lemma signedBy_relabel (hsig : SignatureOfBytes E) (h : SignedBy E c d) :
    SignedBy (relabel E bc) c d := by
  obtain ⟨cert, signer, hcert, hsigner, hver⟩ := h
  have hver' : E.x509VerifySignature { cert with basicConstraints := bc c }
      signer.publicKey = true := by
    rw [hsig]
    exact hver
  exact ⟨_, _, relabel_of_eq_some hcert, relabel_of_eq_some hsigner, hver'⟩

lemma chain_relabel (hsig : SignatureOfBytes E) (h : Chain E certs (AnchoredIn E anchors)) :
    Chain (relabel E bc) certs (AnchoredIn (relabel E bc) anchors) where
  parses c hc := by
    obtain ⟨cert, hcert⟩ := Option.isSome_iff_exists.mp (h.parses c hc)
    exact Option.isSome_iff_exists.mpr ⟨_, relabel_of_eq_some hcert⟩
  linked := h.linked.imp fun _ _ hlink => issuedBy_relabel hsig hlink
  root := by
    obtain ⟨r, hr, a, ha, hsigned⟩ := h.root
    have hsigned' : SignedBy (relabel E bc) r a := signedBy_relabel hsig hsigned
    exact ⟨r, hr, a, ha, hsigned'⟩

lemma verifyX5cChain_relabel (hsig : SignatureOfBytes E) :
    (verifyX5cChain E certs anchors).Matched Eq
      (verifyX5cChain (relabel E bc) certs anchors) := by
  refine .of_imp fun t ht => ?_
  rcases verifyX5cChain_eq_ok.mp ht with ⟨rfl, hnil, hlinked⟩ | ⟨rfl, hne, hchain⟩
  · have hlinked' : certs.IsChain (IssuedBy (relabel E bc)) :=
      hlinked.imp fun _ _ hlink => issuedBy_relabel hsig hlink
    exact verifyX5cChain_eq_ok.mpr (Or.inl ⟨rfl, hnil, hlinked'⟩)
  · exact verifyX5cChain_eq_ok.mpr (Or.inr ⟨rfl, hne, chain_relabel hsig hchain⟩)

/-! ### Leaves -/

lemma not_isCa_iff : ¬ IsCa E leaf ↔ ∀ cert bc, E.x509FromDer leaf = some cert →
    cert.basicConstraints = .ok (some bc) → bc.ca = false := by
  refine ⟨fun h cert bc hcert hbc => ?_, ?_⟩
  · rw [← Bool.not_eq_true]
    exact fun hca => h ⟨cert, bc, hcert, hbc, hca⟩
  · rintro h ⟨cert, bc, hcert, hbc, hca⟩
    rw [h cert bc hcert hbc] at hca
    cases hca

lemma verifyCertIsNotCa_iff : verifyCertIsNotCa E leaf = .ok () ↔ ¬ IsCa E leaf :=
  verifyCertIsNotCa_eq_ok.trans not_isCa_iff.symm

lemma leafMatched_relabel (h : ¬ IsCa (relabel E bc) leaf) :
    LeafMatched E (relabel E bc) aaguid leaf where
  aaguid := by
    refine .of_imp fun _ hok => ?_
    rw [verifyCertAaguidExtension_eq_ok] at hok ⊢
    intro cert hcert
    obtain ⟨cert', hcert', rfl⟩ := relabel_eq_some.mp hcert
    exact hok cert' hcert'
  notCa := .of_imp fun _ _ => verifyCertIsNotCa_iff.mpr h

lemma certIssuedToHostname_relabel (leaf : Bytes) (hostname : String) :
    certIssuedToHostname (relabel E bc) leaf hostname = certIssuedToHostname E leaf hostname := by
  unfold certIssuedToHostname relabel
  rcases hcert : E.x509FromDer leaf with _ | cert
  · simp only [hcert, Option.map_none]
  · simp only [hcert, Option.map_some]

/-- **Verification does not depend on Basic Constraints**, but for the leaf of a packed
statement. -/
lemma verify_relabel (hsig : SignatureOfBytes E)
    (hleaf : fmt = "packed" → ∀ certs leaf, CertsOf E fmt attStmt certs →
      certs.head? = some leaf → ¬ IsCa (relabel E bc) leaf)
    (h : verify E fmt attStmt authData hash pk credId anchors aaguid = .ok t) :
    verify (relabel E bc) fmt attStmt authData hash pk credId anchors aaguid = .ok t := by
  have hE : relabel E bc =
      withCertificates E (relabel E bc).x509FromDer E.x509VerifySignature := rfl
  have hmatched : (verify E fmt attStmt authData hash pk credId anchors aaguid).Matched Eq
      (verify (relabel E bc) fmt attStmt authData hash pk credId anchors aaguid) := by
    refine matched_verify hE (fun _ => rfl) (fun _ => verifyX5cChain_relabel hsig)
      certIssuedToHostname_relabel fun hfmt certs leaf hc hhead => ?_
    exact leafMatched_relabel (hleaf hfmt certs leaf hc hhead)
  obtain ⟨_, ht, rfl⟩ := hmatched t h
  exact ht

lemma arrayOf_injective : Function.Injective arrayOf := by
  intro l l' h
  have hmap : l.map Value.bytes = l'.map .bytes := Value.array.inj h
  exact (List.map_injective_iff.mpr fun _ _ => Value.bytes.inj) hmap

end

/-- **What a verified result rests on.** Every certificate of the chain is issued by the next
one and the last one by an anchor. Whatever other Basic Constraints they have, the result is the
same, unless the leaf of a packed statement is a CA. -/
theorem constraints_unexamined (E : Env) (fmt : String) (attStmt : Value) (authData : Bytes)
    (hash : ArrayN UInt8 32) (pk : PublicKey) (credId : Bytes) (anchors : List Bytes)
    (aaguid : ArrayN UInt8 16)
    (h : verify E fmt attStmt authData hash pk credId anchors aaguid = .ok .basicVerified) :
    ∃ certs, CertsOf E fmt attStmt certs ∧ Chain E certs (AnchoredIn E anchors) ∧
      (fmt = "packed" → ∀ leaf, certs.head? = some leaf → ¬ IsCa E leaf) ∧
      (SignatureOfBytes E → ∀ bc : Constraints,
        (fmt = "packed" → ∀ leaf, certs.head? = some leaf → ¬ IsCa (relabel E bc) leaf) →
        verify (relabel E bc) fmt attStmt authData hash pk credId anchors aaguid =
          .ok .basicVerified) := by
  obtain ⟨-, certs, hcerts, hchain, hfits⟩ := verify_means h
  refine ⟨certs, hcerts, hchain, fun hfmt leaf hhead => ?_, fun hsig bc hleaf => ?_⟩
  · obtain ⟨leaf', hhead', hfit⟩ := hfits hfmt
    obtain rfl := Option.some.inj (hhead.symm.trans hhead')
    exact not_isCa_iff.mpr hfit.notCa
  · refine verify_relabel hsig (fun hfmt certs' leaf hcerts' hhead => ?_) h
    -- a packed statement has one chain of certificates
    subst hfmt
    rw [CertsOf, if_neg (by decide)] at hcerts hcerts'
    obtain rfl := arrayOf_injective (Option.some.inj (hcerts.symm.trans hcerts'))
    exact hleaf rfl leaf hhead

section
open Recorded

/-- A certificate that the holder of the attestation certificate made: its issuer is the
attestation certificate, which is not a CA. -/
def mintedDer : Bytes :=
    beBytes 40 0x3082013a3081e0a003020102020103300a06082a8648ce3d040302300c310a300806035504030c01 ++
    beBytes 40 0x4c301e170d3236313132303030343733325a170d3336313131373030343733325a300c310a300806 ++
    beBytes 40 0x035504030c014d3059301306072a8648ce3d020106082a8648ce3d03010703420004e984806b2f94 ++
    beBytes 40 0xcf882a6b5705d301ec81672b504b4b4b88871a029b1034c933a354d5239703c72d0a61291b0ad319 ++
    beBytes 40 0x9f20b5e40a3ac66ecad67d584fa0f4fd4971a3333031300c0603551d130101ff040230003021060b ++
    beBytes 40 0x2b0601040182e51c01010404120410000102030405060708090a0b0c0d0e0f300a06082a8648ce3d ++
    beBytes 40 0x0403020349003046022100a9512548a9e06bb36720def3f37e8914c7415ec01069cd6b8c99740abf ++
    beBytes 38 0x4ff27d022100e79af36a29fc6fbba2291a0b86d98ee623010a35dca2df16d952f0dd8540a4c3

def mintedPoint : Bytes :=
    beBytes 33 0x04e984806b2f94cf882a6b5705d301ec81672b504b4b4b88871a029b1034c933a3 ++
    beBytes 32 0x54d5239703c72d0a61291b0ad3199f20b5e40a3ac66ecad67d584fa0f4fd4971

def mintedCert : X509Certificate where
  tbsCertificate := (mintedDer.drop 4).take 227
  signatureAlgorithm := ecdsaWithSha256
  signatureValue := (mintedDer.drop 246).take 72
  issuer := nameOf 0x4c
  subject := nameOf 0x4d
  publicKey := ⟨(mintedDer.drop 87).take 91⟩
  extensions := leafCert.extensions
  basicConstraints := .ok (some ⟨false⟩)
  subjectAlternativeName := .ok none
  commonNames := [some "M"]

/-- A signature of its key over a registration's data. -/
def mintedSig : Bytes :=
  beBytes 40 0x304602210096bddbc6722be14fb4437607b7f32a81a70ec05d2a97f13ad23781f7c657d8ec022100 ++
    beBytes 32 0x9728f78c9311f001387095b174b1a784e47435a749702705f4c23e2c6c2583b5

def mintedStmt : Value :=
  .map [(.text "alg", .integer (-7)), (.text "sig", .bytes mintedSig),
    (.text "x5c", arrayOf [mintedDer, leafDer])]

def mintedRecord : Record :=
  { certificates with
    ecdsaAsn1 := [(mintedPoint, verificationData (createAuthData Recorded.aaguid) createHash,
      mintedSig)]
    x509 := (mintedDer, mintedCert) :: certificates.x509
    x509Signed := (mintedCert.tbsCertificate, leafCert.publicKey) :: certificates.x509Signed }

def mintedEnv : Env := mintedRecord.env

lemma verify_mintedStmt : verify mintedEnv "packed" mintedStmt
    (createAuthData Recorded.aaguid) createHash packedKey credentialId [rootDer]
    Recorded.aaguid = .ok .basicVerified := by
  decide +kernel

lemma signatureOfBytes_mintedEnv : SignatureOfBytes mintedEnv := fun _ _ _ => rfl

/-- Certificates without Basic Constraints. -/
def unmarked : Constraints := fun _ => .ok none

lemma not_isCa_unmarked (E : Env) (c : Bytes) : ¬ IsCa (relabel E unmarked) c := by
  rintro ⟨cert, bc, hcert, hbc, -⟩
  obtain ⟨cert', -, rfl⟩ := relabel_eq_some.mp hcert
  cases hbc

/-- The same certificates without any Basic Constraints. -/
theorem unmarked_verified : verify (relabel mintedEnv unmarked) "packed" mintedStmt
    (createAuthData Recorded.aaguid) createHash packedKey credentialId [rootDer]
    Recorded.aaguid = .ok .basicVerified := by
  obtain ⟨certs, -, -, -, hany⟩ := constraints_unexamined mintedEnv "packed" mintedStmt
    (createAuthData Recorded.aaguid) createHash packedKey credentialId [rootDer]
    Recorded.aaguid verify_mintedStmt
  exact hany signatureOfBytes_mintedEnv unmarked fun _ leaf _ => not_isCa_unmarked mintedEnv leaf

/-- A verified result whose issuer at index 1 is not a CA. -/
theorem minted_verified :
    verify mintedEnv "packed" mintedStmt (createAuthData Recorded.aaguid) createHash packedKey
      credentialId [rootDer] Recorded.aaguid = .ok .basicVerified ∧
    CertsOf mintedEnv "packed" mintedStmt [mintedDer, leafDer] ∧ ¬ IsCa mintedEnv leafDer := by
  refine ⟨verify_mintedStmt, rfl, ?_⟩
  exact verifyCertIsNotCa_iff.mp (by decide +kernel)

end

end Caden.Issuers
