import Caden.CertScan
import Caden.MetadataSpec

/-!
Which errors the verification of a metadata BLOB ends in.

The helpers that it shares with attestation are given the error to fail with, except for the one
that reads the signer's key.
-/

namespace Caden.Metadata

open CertBytes X5c
open Slice (FirstAt)

/-- The four errors of a metadata BLOB. -/
def IsMdsError : WebAuthnError → Prop
  | .mdsBlobMalformed _ | .mdsChainInvalid _ | .mdsRootUntrusted | .mdsSignatureInvalid => True
  | _ => False

/-- The fixed header of a P-256 key occurs in the certificate, and where it first occurs the
whole point follows. -/
def HasP256Key (certDer : Bytes) : Prop :=
  ∃ i, FirstAt SPKI_PREFIX certDer i ∧ i + SPKI_PREFIX.length - 1 + 65 ≤ certDer.length

/-- The BLOB is a JWS for ES256 with a chain from `leaf` to the trust root. -/
def SignerIs (E : Env) (blob : String) (trustRoot leaf : Bytes) : Prop :=
  ∃ j, IsJws E blob j ∧ j.alg = "ES256" ∧ Chain E j.certs (fun r => SignedBy E r trustRoot) ∧
    j.certs.head? = some leaf

variable {E : Env} {blob : String} {trustRoot leaf certDer : Bytes}

/-! ### The signer's key -/

lemma exists_key_iff :
    (∃ k, extractEcP256PublicKeyFromCert certDer = .ok k) ↔ HasP256Key certDer := by
  simp only [CertScan.extractEc_eq_ok_iff_get, Slice.get_eq_some]
  refine ⟨?_, ?_⟩
  · rintro ⟨k, i, hfirst, ⟨-, hle⟩, -⟩
    exact ⟨i, hfirst, hle⟩
  · rintro ⟨i, hfirst, hle⟩
    exact ⟨_, i, hfirst, ⟨by omega, hle⟩, rfl⟩

lemma extractEc_eq_err (h : ¬ HasP256Key certDer) : extractEcP256PublicKeyFromCert certDer =
    .err (invalid "fido-u2f: certificate does not contain a P-256 EC public key") := by
  rw [← exists_key_iff] at h
  unfold extractEcP256PublicKeyFromCert at h ⊢
  generalize (do
    let pos ← Slice.position SPKI_PREFIX certDer
    let keyStart := pos + SPKI_PREFIX.length - 1
    Slice.get certDer keyStart (keyStart + 65)) = key at h ⊢
  cases key with
  | none => rfl
  | some k => exact absurd ⟨k, rfl⟩ h

/-! ### The steps before the key -/

lemma verifyMdsBlob_reaches {j : JwsX5cChain} (hj : IsJws E blob j) (halg : j.alg = "ES256")
    (hchain : Chain E j.certs fun r => SignedBy E r trustRoot) (hleaf : j.certs.head? = some leaf)
    {e : WebAuthnError} (hkey : extractEcP256PublicKeyFromCert leaf = .err e) :
    verifyMdsBlob E blob trustRoot = .err e := by
  obtain ⟨-, hlinks, r, hr, hroot⟩ := hchain
  have hsplit : splitJwsWithX5c E blob .mdsBlobMalformed = .ok j := splitJwsWithX5c_eq_ok.mpr hj
  have horder : verifyChainOrder E .mdsChainInvalid j.certs = .ok ⟨⟩ :=
    verifyChainOrder_eq_ok.mpr hlinks
  have hindex : (Slice.index j.certs 0 : Res Bytes) = .ok leaf := Slice.index_zero_eq_ok.mpr hleaf
  rw [verifyMdsBlob, hsplit, Outcome.ok_bind, halg]
  simp [Outcome.rejectIf, horder, hr, Outcome.expect, certSignedBy_iff.mpr hroot, hindex, hkey]

lemma throws_verifyMdsBlob (h : ∀ leaf, SignerIs E blob trustRoot leaf → HasP256Key leaf) :
    (verifyMdsBlob E blob trustRoot).Throws IsMdsError := by
  refine .bind (throws_splitJwsWithX5c (fun _ => trivial) blob) fun j hj => ?_
  refine .bind (by simp [IsMdsError]) fun _ halg => ?_
  refine .bind (throws_verifyChainOrder fun _ => trivial) fun _ horder => ?_
  refine .bind (Outcome.throws_expect _) fun r hr => ?_
  refine .bind (by simp [IsMdsError]) fun _ hroot => ?_
  refine .bind (Outcome.throws_expect _) fun leaf hleaf => ?_
  have hsigned : SignedBy E r trustRoot := by
    rw [← certSignedBy_iff]
    simpa using hroot
  have hP : ∀ r, SignedBy E r trustRoot → (E.x509FromDer r).isSome := fun _ => SignedBy.parses
  have hchain := (chain_iff hP).mpr
    ⟨verifyChainOrder_eq_ok.mp horder, r, Outcome.expect_eq_ok.mp hr, hsigned⟩
  -- the signer is known now, so it has a key
  obtain ⟨k, hk⟩ := exists_key_iff.mpr <| h leaf ⟨j, splitJwsWithX5c_eq_ok.mp hj,
    by simpa using halg, hchain, Slice.index_zero_eq_ok.mp hleaf⟩
  rw [hk, Outcome.ok_bind]
  refine .bind (Outcome.throws_mapErr.mpr fun _ _ => trivial) fun _ _ => ?_
  exact Outcome.throws_ofExcept.mpr fun _ _ => trivial

lemma throws_foldlM_mergeEntry (entries : List MdsEntry) (m : StatusMap)
    (P : WebAuthnError → Prop) : (entries.foldlM mergeEntry m).Throws P := by
  rcases foldlM_mergeEntry entries m with ⟨-, h⟩ | ⟨-, h⟩ <;> rw [h] <;> simp

/-- **Every error is one of the BLOB exactly when a signer that is reached has a P-256 key.** -/
theorem mds_errors_iff (E : Env) (blob : String) (trustRoot : Bytes) :
    (∀ e, verifyAndParseMdsBlob E blob trustRoot = .err e → IsMdsError e) ↔
      ∀ leaf, SignerIs E blob trustRoot leaf → HasP256Key leaf := by
  refine ⟨fun h leaf hleaf => ?_, fun h => ?_⟩
  · by_contra hkey
    obtain ⟨j, hj, halg, hchain, hhead⟩ := hleaf
    have herr := verifyMdsBlob_reaches hj halg hchain hhead (extractEc_eq_err hkey)
    exact h _ (by rw [verifyAndParseMdsBlob, herr, Outcome.err_bind])
  · exact (throws_verifyMdsBlob h).bind fun payload _ => throws_foldlM_mergeEntry _ _ _

/-! ### A signer with another key -/

section
open Recorded

/-- A certificate for a P-384 key, under the recorded root. -/
def p384Der : Bytes :=
    beBytes 40 0x308201323081daa003020102020103300a06082a8648ce3d040302300c310a300806035504030c01 ++
    beBytes 40 0x52301e170d3236313132303033323633395a170d3336313131373033323633395a300c310a300806 ++
    beBytes 40 0x035504030c014c3076301006072a8648ce3d020106052b81040022036200041877fc29e23dc0ef5e ++
    beBytes 40 0x7f3ed3a3ecff7dd0752d5eadebb33f5cd9696e4f8dcd060d72fb107049490310ac7b4a8065d9fcc8 ++
    beBytes 40 0xd6af208c90e81748bceebfc5fa56ef7dd2a5ea994591b89657a4c6861b26706dd96f5cbb3d1c63df ++
    beBytes 40 0xd407bb9cdcaa88a310300e300c0603551d130101ff04023000300a06082a8648ce3d040302034700 ++
    beBytes 40 0x3044022046bcb34a79c84b617664acde89efb98564e6297042949427c070f9a730af70cb0220046f ++
    beBytes 30 0xed06e4cc6245fa106b09423852f23fcd62a41fddc7cb96bf2601b44311e3

def p384Cert : X509Certificate where
  tbsCertificate := (p384Der.drop 4).take 221
  signatureAlgorithm := ecdsaWithSha256
  signatureValue := (p384Der.drop 240).take 70
  issuer := nameOf 0x52
  subject := nameOf 0x4c
  publicKey := ⟨(p384Der.drop 87).take 120⟩
  extensions := [⟨"2.5.29.19", [0x30, 0x00]⟩]
  basicConstraints := .ok (some ⟨false⟩)
  subjectAlternativeName := .ok none
  commonNames := [some "L"]

def p384HeaderJson : Bytes :=
  Text.asBytes "\x7b\"alg\":\"ES256\",\"x5c\":[\"" ++
    (base64 '+' '/' ['='] ['=', '='] p384Der).flatMap String.utf8EncodeChar ++
    Text.asBytes "\"]\x7d"

def emptyPayload : Bytes := Text.asBytes "\x7b\"entries\":[]\x7d"

def zeroSignature : Bytes := List.replicate 64 0

/-- A BLOB without entries, with the certificate as its signer's. -/
def p384Blob : String :=
  urlSafe p384HeaderJson ++ "." ++ urlSafe emptyPayload ++ "." ++ urlSafe zeroSignature

def p384Record : Record where
  x509 := [(p384Der, p384Cert), (rootDer, rootCert)]
  x509Signed := [(p384Cert.tbsCertificate, rootKey), (rootCert.tbsCertificate, rootKey)]
  joseHeader := [(p384HeaderJson, ⟨"ES256", [standard p384Der]⟩)]
  mdsBlobPayload := [(emptyPayload, ⟨[]⟩)]
  urlSafe := [(urlSafe p384HeaderJson, p384HeaderJson), (urlSafe emptyPayload, emptyPayload),
    (urlSafe zeroSignature, zeroSignature)]
  standard := [(standard p384Der, p384Der)]

lemma p384_chain : Chain p384Record.env [p384Der] fun r => SignedBy p384Record.env r rootDer := by
  have hne : rootDer ≠ p384Der := by decide
  have hleaf : p384Record.env.x509FromDer p384Der = some p384Cert := by
    simp [p384Record]
  have hroot : p384Record.env.x509FromDer rootDer = some rootCert := by
    have h : (rootDer == p384Der) = false := beq_eq_false_iff_ne.mpr hne
    simp [p384Record, List.lookup_cons, h]
  have hsigned : p384Record.env.x509VerifySignature p384Cert rootCert.publicKey = true := by
    simp [p384Record, rootCert]
  exact SignedBy.chain ⟨p384Cert, rootCert, hleaf, hroot, hsigned⟩

lemma p384_signer : SignerIs p384Record.env p384Blob rootDer p384Der := by
  have hne : urlSafe emptyPayload ≠ urlSafe p384HeaderJson := urlSafe_ne (by decide)
  have hne' : urlSafe zeroSignature ≠ urlSafe p384HeaderJson := urlSafe_ne (by decide)
  have hne'' : urlSafe zeroSignature ≠ urlSafe emptyPayload := urlSafe_ne (by decide)
  have hjws := isJws_env (r := p384Record) rfl rfl rfl hne hne' hne''
  exact ⟨_, hjws, rfl, p384_chain, rfl⟩

lemma not_hasP256Key_p384Der : ¬ HasP256Key p384Der := by
  have hextract : extractEcP256PublicKeyFromCert p384Der =
      .err (invalid "fido-u2f: certificate does not contain a P-256 EC public key") := by
    decide +kernel
  rw [← exists_key_iff]
  rintro ⟨k, hk⟩
  rw [hextract] at hk
  cases hk

/-- A BLOB ends in an error of attestation. -/
theorem p384Blob_error : verifyAndParseMdsBlob p384Record.env p384Blob rootDer =
      .err (.invalidAttestationObject
        "fido-u2f: certificate does not contain a P-256 EC public key") ∧
    ¬ ∀ e, verifyAndParseMdsBlob p384Record.env p384Blob rootDer = .err e → IsMdsError e := by
  have herr : verifyAndParseMdsBlob p384Record.env p384Blob rootDer =
      .err (invalid "fido-u2f: certificate does not contain a P-256 EC public key") := by
    obtain ⟨j, hj, halg, hchain, hhead⟩ := p384_signer
    rw [verifyAndParseMdsBlob, verifyMdsBlob_reaches hj halg hchain hhead
      (extractEc_eq_err not_hasP256Key_p384Der), Outcome.err_bind]
  exact ⟨herr, fun h => h _ herr⟩

end

end Caden.Metadata
