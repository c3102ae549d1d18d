import Caden.AttestationSpec
import Caden.AuthenticationSpec
import Caden.MetadataSpec
import Caden.Offer

/-!
The algorithm that a statement declares, the verifier that accepts its signature, and the
verifier that authentication uses for the same key.

Self-attestation and authentication dispatch on the key in two places, and three formats read a
declared algorithm and use it in three ways.
-/

namespace Caden.Algorithms

open Attestation AttStmt CertBytes X5c

/-! ### Self-attestation and authentication -/

/-- A statement without certificates that declares `alg` and carries `sig`; entries under other
keys do not matter. -/
structure IsSelfStatement (m : List (Value × Value)) (alg : ℤ) (sig : Bytes) : Prop where
  alg : ∀ v, (.text "alg", v) ∈ m ↔ v = .integer alg
  sig : ∀ v, (.text "sig", v) ∈ m ↔ v = .bytes sig
  noX5c : ∀ v, (.text "x5c", v) ∉ m

section
variable {E : Env} {m : List (Value × Value)} {alg : ℤ} {sig authData : Bytes}
  {hash : ArrayN UInt8 32} {pk : PublicKey} {anchors : List Bytes} {aaguid : ArrayN UInt8 16}

lemma i64TryFrom_algorithm (pk : PublicKey) : i64TryFrom pk.algorithm = some pk.algorithm := by
  cases pk <;> rfl

lemma readStmt_self (h : IsSelfStatement m alg sig) (halg : i64TryFrom alg = some alg) :
    ∃ st, readStmt "packed" [.alg, .sig, .x5c] (.map m) = .ok st ∧ st .alg = some alg ∧
      st .sig = some sig ∧ st .x5c = none := by
  have hreadAlg : readValue "packed" .alg (.integer alg) = .ok alg := by
    rw [readValue, halg]
    rfl
  have hreadSig : readValue "packed" .sig (.bytes sig) = .ok sig := rfl
  have hok : ∀ f ∈ [Field.alg, .sig, .x5c], ∀ v, (.text f.key, v) ∈ m →
      ∃ a, readValue "packed" f v = .ok a := by
    intro f hf v hv
    simp only [List.mem_cons, List.not_mem_nil, or_false] at hf
    rcases hf with rfl | rfl | rfl
    · rw [(h.alg v).mp hv]
      exact ⟨alg, hreadAlg⟩
    · rw [(h.sig v).mp hv]
      exact ⟨sig, hreadSig⟩
    · exact absurd hv (h.noX5c v)
  obtain ⟨st, hst⟩ := readStmt_isOk hok
  have halgEntry : entryOf "alg" (.map m) = some (.integer alg) := entryOf_eq_of_forall h.alg
  have hsigEntry : entryOf "sig" (.map m) = some (.bytes sig) := entryOf_eq_of_forall h.sig
  have hx5cEntry : entryOf "x5c" (.map m) = none := entryOf_eq_none h.noX5c
  refine ⟨st, hst, ?_, ?_, ?_⟩
  · exact readStmt_field (f := .alg) hst (by simp) halgEntry hreadAlg
  · exact readStmt_field (f := .sig) hst (by simp) hsigEntry hreadSig
  · exact readStmt_absent (f := .x5c) hst (by simp) hx5cEntry

/-- **What self-attestation decides**: the dispatch on the credential's key. -/
lemma verifyPacked_self (h : IsSelfStatement m pk.algorithm sig) :
    (verifyPacked E (.map m) authData hash pk anchors aaguid).isOk = true ↔
      verifySelfSignature E pk.algorithm pk (verificationData authData hash) sig = .ok () := by
  obtain ⟨st, hst, halg, hsig, hx5c⟩ := readStmt_self h (i64TryFrom_algorithm pk)
  have hself : verifyPacked E (.map m) authData hash pk anchors aaguid =
      verifyPackedSelf E st authData hash pk := by
    rw [verifyPacked, hst, Outcome.ok_bind, hx5c]
  rw [hself, Outcome.isOk_iff, verifyPackedSelf, halg, hsig]
  simp only [required, Outcome.okOr, Outcome.ok_bind, Outcome.bind_eq_ok, Outcome.rejectIf_eq_ok,
    exists_const, Outcome.pure_eq, Outcome.ok.injEq]
  refine ⟨?_, fun hok => ?_⟩
  · rintro ⟨_, -, ⟨⟩, hok, -⟩
    exact hok
  · exact ⟨_, fun hne => hne rfl, (), hok, rfl⟩

lemma verifySelfSignature_eq (hpk : pk.algorithm ≠ COSE_ES384) (m s : Bytes) :
    verifySelfSignature E pk.algorithm pk m s = Authentication.verifySignature E pk m s := by
  cases pk with
  | es384 x y => exact absurd rfl hpk
  | es256 x y => rw [verifySelfSignature, PublicKey.algorithm, if_pos rfl]; rfl
  | edDsa pk => rw [verifySelfSignature, PublicKey.algorithm, if_pos rfl]; rfl
  | rs256 n e => rw [verifySelfSignature, PublicKey.algorithm, if_pos rfl]; rfl

lemma exists_es384 (h : pk.algorithm = COSE_ES384) : ∃ x y, pk = .es384 x y := by
  cases pk with
  | es384 x y => exact ⟨x, y, rfl⟩
  | es256 x y => exact absurd h (show COSE_ES256 ≠ COSE_ES384 by decide)
  | edDsa pk => exact absurd h (show COSE_EDDSA ≠ COSE_ES384 by decide)
  | rs256 n e => exact absurd h (show COSE_RS256 ≠ COSE_ES384 by decide)

end

/-- An environment in which every P-384 signature verifies. -/
def p384Env : Env := { (Record.mk [] [] [] [] [] [] [] [] [] [] []).env with
  ecdsaP384Sha384Asn1 := fun _ _ _ => true }

/-- **Self-attestation and authentication verify alike exactly for keys that are not ES384**,
with whatever signature verifiers. -/
theorem packed_self_agrees_iff (pk : PublicKey) (m : List (Value × Value))
    (sig authData : Bytes) (hash : ArrayN UInt8 32) (anchors : List Bytes)
    (aaguid : ArrayN UInt8 16) (h : IsSelfStatement m pk.algorithm sig) :
    (∀ E : Env, (verifyPacked E (.map m) authData hash pk anchors aaguid).isOk = true ↔
      Authentication.verifySignature E pk (verificationData authData hash) sig = .ok ()) ↔
      pk.algorithm ≠ COSE_ES384 := by
  refine ⟨fun hagree hes384 => ?_, fun hne E => ?_⟩
  · obtain ⟨x, y, rfl⟩ := exists_es384 hes384
    -- where the signature verifies, self-attestation still rejects the key
    have hself := (hagree p384Env).mpr rfl
    cases (verifyPacked_self h).mp hself
  · rw [verifyPacked_self h, verifySelfSignature_eq hne]

section
open Recorded

/-- The statement that declares `alg` and carries `sig`. -/
def selfEntries (alg : ℤ) (sig : Bytes) : List (Value × Value) :=
  [(.text "alg", .integer alg), (.text "sig", .bytes sig)]

lemma isSelfStatement_selfEntries (alg : ℤ) (sig : Bytes) :
    IsSelfStatement (selfEntries alg sig) alg sig where
  alg := by simp [selfEntries]
  sig := by simp [selfEntries]
  noX5c := by simp [selfEntries]

/-- A signature of the recorded credential's key over its own registration. -/
def selfSig : Bytes :=
  beBytes 40 0x3046022100a49f4252da3830c82d85a5e3aefd7ee7513ac805681a1bd9927b4b1025e7e7ad022100 ++
    beBytes 32 0xfe129f0bf9067b9dbb7f0fbae584649e7d38ded7db6efce52333ed9b18ea9baa

def selfEnv : Env :=
  { registration Recorded.aaguid with
    ecdsaAsn1 := [(uncompressed keyX keyY,
      verificationData (createAuthData Recorded.aaguid) createHash, selfSig)] }.env

lemma selfSig_verified : Authentication.verifySignature selfEnv packedKey
    (verificationData (createAuthData Recorded.aaguid) createHash) selfSig = .ok () := by
  decide

/-- The recorded credential can be attested by itself. -/
theorem es256_self_agrees :
    (verifyPacked selfEnv (.map (selfEntries (-7) selfSig)) (createAuthData Recorded.aaguid)
      createHash packedKey [] Recorded.aaguid).isOk = true := by
  have hagree := (packed_self_agrees_iff packedKey _ selfSig (createAuthData Recorded.aaguid)
    createHash [] Recorded.aaguid (isSelfStatement_selfEntries (-7) selfSig)).mpr (by decide)
  exact (hagree selfEnv).mpr selfSig_verified

/-- An ES384 key, and a registration that it signed itself. -/
def es384X : Bytes :=
  beBytes 40 0x1877fc29e23dc0ef5e7f3ed3a3ecff7dd0752d5eadebb33f5cd9696e4f8dcd060d72fb1070494903 ++
    beBytes 8 0x10ac7b4a8065d9fc
def es384Y : Bytes :=
  beBytes 40 0xc8d6af208c90e81748bceebfc5fa56ef7dd2a5ea994591b89657a4c6861b26706dd96f5cbb3d1c63 ++
    beBytes 8 0xdfd407bb9cdcaa88
def es384Key : PublicKey := .es384 es384X es384Y

def es384CoseKey : Bytes :=
  beBytes 11 0xa501020338222002215830 ++ es384X ++ beBytes 3 0x225830 ++ es384Y

def es384AuthData : Bytes :=
  (rpIdHash.toList ++ [0x45, 0, 0, 0, 0]) ++
    (AuthData.credentialHeader Recorded.aaguid idLength credentialId ++ es384CoseKey)

def es384Sig : Bytes :=
  beBytes 40 0x3064023064b44c4240f27ee15bdedc61f83c57beca7314508f69a64e08b8820ce609ff873afe1b42 ++
    beBytes 40 0x767e768ded60ccfb9c5e7df802301c7568245678d4c9f3c69fd5b95efca27c7db0e714c2a2084773 ++
    beBytes 22 0xe8972d1e1a2c43e7a08c614a6588617f0f699532cdd1

def es384Env : Env := { (registration Recorded.aaguid).env with
  ecdsaP384Sha384Asn1 := fun key m s => [(uncompressed es384X es384Y,
    verificationData es384AuthData createHash, es384Sig)].contains (key, m, s) }

/-- Authentication accepts the signature, and self-attestation does not. -/
theorem es384_self_rejected :
    Authentication.verifySignature es384Env es384Key
      (verificationData es384AuthData createHash) es384Sig = .ok () ∧
    verifyPacked es384Env (.map (selfEntries (-35) es384Sig)) es384AuthData createHash es384Key []
      Recorded.aaguid = .err (.unsupportedAlgorithm (-35)) := by
  refine ⟨?_, ?_⟩
  · decide +kernel
  · decide +kernel

end

/-! ### Declared algorithms -/

/-- The algorithms of the signatures in attestation statements. -/
inductive SigAlg where
  | es256
  | edDsa
  | rs256
  deriving DecidableEq

namespace SigAlg

/-- The COSE identifier. -/
def cose : SigAlg → ℤ
  | es256 => COSE_ES256
  | edDsa => COSE_EDDSA
  | rs256 => COSE_RS256

def verifier (E : Env) : SigAlg → Bytes → Bytes → Bytes → Bool
  | es256 => E.ecdsaP256Sha256Asn1
  | edDsa => E.ed25519
  | rs256 => E.rsaPkcs1Sha256

/-- The environment whose verifier for the algorithm accepts nothing. -/
def without (E : Env) : SigAlg → Env
  | es256 => { E with ecdsaP256Sha256Asn1 := fun _ _ _ => false }
  | edDsa => { E with ed25519 := fun _ _ _ => false }
  | rs256 => { E with rsaPkcs1Sha256 := fun _ _ _ => false }

/-- The key of a certificate, for the algorithms that certificates are used with. -/
def certKey (v : SigAlg) (leaf : Bytes) : Res Bytes :=
  match v with
  | es256 => extractEcP256PublicKeyFromCert leaf
  | rs256 => extractRsaPublicKeyDerFromCert leaf
  | edDsa => .err (.unsupportedAlgorithm COSE_EDDSA)

lemma cose_injective : Function.Injective cose := by
  intro v w h
  cases v <;> cases w <;> first | rfl | exact absurd h (by decide)

@[simp] lemma verifier_without (E : Env) (v : SigAlg) (key m s : Bytes) :
    v.verifier (v.without E) key m s = false := by
  cases v <;> rfl

end SigAlg

/-- The key that a statement is verified under: the leaf's, or the credential's own. -/
def KeyFor (v : SigAlg) (attStmt : Value) (pk : PublicKey) (key : Bytes) : Prop :=
  (∃ leaf certs, entryOf "x5c" attStmt = some (arrayOf (leaf :: certs)) ∧
    v.certKey leaf = .ok key) ∨
  (entryOf "x5c" attStmt = none ∧ Offer.keyBytes pk = key)

/-- The bytes that a statement of the format signs. -/
def Signs (fmt : String) (attStmt : Value) (authData : Bytes) (hash : ArrayN UInt8 32)
    (message : Bytes) : Prop :=
  if fmt = "tpm" then entryOf "certInfo" attStmt = some (.bytes message)
  else verificationData authData hash = message

/-- The verifier of `v` accepted the signature in the statement. -/
def AcceptedBy (E : Env) (v : SigAlg) (fmt : String) (attStmt : Value) (authData : Bytes)
    (hash : ArrayN UInt8 32) (pk : PublicKey) : Prop :=
  ∃ sig key message, entryOf "sig" attStmt = some (.bytes sig) ∧ KeyFor v attStmt pk key ∧
    Signs fmt attStmt authData hash message ∧ v.verifier E key message sig = true

/-- The verifier of `v` decides: it accepted the signature, and without it the statement is
not accepted. -/
structure Decides (E : Env) (v : SigAlg) (fmt : String) (attStmt : Value) (authData : Bytes)
    (hash : ArrayN UInt8 32) (pk : PublicKey) (credId : Bytes) (anchors : List Bytes)
    (aaguid : ArrayN UInt8 16) : Prop where
  accepted : AcceptedBy E v fmt attStmt authData hash pk
  needed : ∀ t, verify (v.without E) fmt attStmt authData hash pk credId anchors aaguid ≠ .ok t

/-- The verifier of the declared algorithm accepted the signature. -/
def DeclaredAccepts (E : Env) (fmt : String) (attStmt : Value) (authData : Bytes)
    (hash : ArrayN UInt8 32) (pk : PublicKey) : Prop :=
  ∃ v : SigAlg, entryOf "alg" attStmt = some (.integer v.cose) ∧
    AcceptedBy E v fmt attStmt authData hash pk

section
variable {E : Env} {fmt : String} {attStmt : Value} {alg : ℤ} {authData credId : Bytes}
  {hash : ArrayN UInt8 32} {pk : PublicKey} {anchors certs : List Bytes}
  {aaguid : ArrayN UInt8 16} {st : Fields} {wanted : List Field} {leaf m sig key : Bytes}
  {t : AttestationType}

/-! ### What a dispatch accepts -/

lemma tpmVerifySignature_decides (hkey : tpmCertKey alg leaf = .ok key)
    (h : tpmVerifySignature E alg key m sig = .ok ()) :
    ∃ v, SigAlg.cose v = alg ∧ v.certKey leaf = .ok key ∧ v.verifier E key m sig = true := by
  unfold tpmCertKey at hkey
  unfold tpmVerifySignature at h
  split at h
  · rename_i halg
    rw [if_pos halg] at hkey
    exact ⟨.es256, halg.symm, hkey, Crypto.verifyEs256_eq_ok.mp h⟩
  · rename_i hne
    rw [if_neg hne] at hkey
    split at h
    · rename_i halg
      rw [if_pos halg] at hkey
      exact ⟨.rs256, halg.symm, hkey, Crypto.verifyRs256_eq_ok.mp h⟩
    · cases h

lemma verifyLeafSignature_eq : verifyLeafSignature E alg leaf m sig =
    tpmCertKey alg leaf >>= fun key => tpmVerifySignature E alg key m sig := by
  unfold verifyLeafSignature tpmCertKey tpmVerifySignature
  split
  · rfl
  · split
    · rfl
    · rfl

lemma verifyLeafSignature_decides (h : verifyLeafSignature E alg leaf m sig = .ok ()) :
    ∃ v key, SigAlg.cose v = alg ∧ v.certKey leaf = .ok key ∧ v.verifier E key m sig = true := by
  rw [verifyLeafSignature_eq] at h
  obtain ⟨key, hkey, hver⟩ := Outcome.bind_eq_ok.mp h
  obtain ⟨v, hv, hcert, haccept⟩ := tpmVerifySignature_decides hkey hver
  exact ⟨v, key, hv, hcert, haccept⟩

lemma verifySelfSignature_decides (h : verifySelfSignature E alg pk m sig = .ok ()) :
    ∃ v, SigAlg.cose v = alg ∧ v.verifier E (Offer.keyBytes pk) m sig = true := by
  cases pk with
  | es384 x y => cases h
  | es256 x y =>
    rw [verifySelfSignature] at h
    split at h
    · rename_i halg
      exact ⟨.es256, halg.symm, Crypto.verifyEs256_eq_ok.mp h⟩
    · cases h
  | edDsa pk =>
    rw [verifySelfSignature] at h
    split at h
    · rename_i halg
      exact ⟨.edDsa, halg.symm, Crypto.verifyEddsa_eq_ok.mp h⟩
    · cases h
  | rs256 n e =>
    rw [verifySelfSignature] at h
    split at h
    · rename_i halg
      obtain ⟨der, hder, hver⟩ := Outcome.bind_eq_ok.mp h
      obtain ⟨-, -, rfl⟩ := Crypto.rsaComponentsToDer_eq_ok.mp hder
      exact ⟨.rs256, halg.symm, Crypto.verifyRs256_eq_ok.mp hver⟩
    · cases h

/-! ### What was read -/

lemma x5c_entry (hst : readStmt fmt wanted attStmt = .ok st) (hf : .x5c ∈ wanted)
    (hcerts : st .x5c = some certs) (hleaf : (Slice.index certs 0 : Res Bytes) = .ok leaf) :
    ∃ rest, entryOf "x5c" attStmt = some (arrayOf (leaf :: rest)) := by
  obtain ⟨hentry, -⟩ := readStmt_x5c hst hf hcerts
  rw [Slice.index_zero_eq_ok, List.head?_eq_some_iff] at hleaf
  obtain ⟨rest, rfl⟩ := hleaf
  exact ⟨rest, hentry⟩

/-! ### The formats -/

lemma declaredAccepts_packed : (verifyPacked E attStmt authData hash pk anchors aaguid).Returns
    fun _ => DeclaredAccepts E "packed" attStmt authData hash pk := by
  have hsigns : Signs "packed" attStmt authData hash (verificationData authData hash) :=
    (if_neg (by decide)).mpr rfl
  refine .bind fun st hst => ?_
  split
  · rename_i certs hcerts
    refine .bind fun alg halg => .bind fun sig hsig => .bind fun leaf hleaf => ?_
    refine .bind fun _ hver t _ => ?_
    have halg' := readStmt_alg hst (by simp) (required_eq_ok.mp halg)
    have hsig' := readStmt_sig hst (by simp) (required_eq_ok.mp hsig)
    obtain ⟨rest, hx5c⟩ := x5c_entry hst (by simp) hcerts hleaf
    obtain ⟨v, key, rfl, hkey, haccept⟩ := verifyLeafSignature_decides hver
    exact ⟨v, halg', sig, key, _, hsig', Or.inl ⟨leaf, rest, hx5c, hkey⟩, hsigns, haccept⟩
  · rename_i hnone
    refine .bind fun alg halg => .bind fun sig hsig => .bind fun _ _ => ?_
    refine .bind fun _ hver t _ => ?_
    have halg' := readStmt_alg hst (by simp) (required_eq_ok.mp halg)
    have hsig' := readStmt_sig hst (by simp) (required_eq_ok.mp hsig)
    have hx5c := readStmt_no_entry hst (by simp) hnone
    obtain ⟨v, rfl, haccept⟩ := verifySelfSignature_decides hver
    exact ⟨v, halg', sig, _, _, hsig', Or.inr ⟨hx5c, rfl⟩, hsigns, haccept⟩

lemma declaredAccepts_tpm : (verifyTpm E attStmt authData hash pk anchors).Returns
    fun _ => DeclaredAccepts E "tpm" attStmt authData hash pk := by
  refine .bind fun st hst => .bind fun _ _ => .bind fun _ _ => .bind fun alg halg => ?_
  refine .bind fun _ _ => .bind fun certs hcerts => .bind fun sig hsig => ?_
  refine .bind fun certInfo hcertInfo => .bind fun _ _ => .bind fun leaf hleaf => ?_
  refine .bind fun key hkey => ?_
  iterate 4 refine .bind fun _ _ => ?_
  refine .bind fun _ hver t _ => ?_
  have halg' := readStmt_alg hst (by simp) (required_eq_ok.mp halg)
  have hsig' := readStmt_sig hst (by simp) (required_eq_ok.mp hsig)
  have hcertInfo' := readStmt_certInfo hst (by simp) (required_eq_ok.mp hcertInfo)
  obtain ⟨rest, hx5c⟩ := x5c_entry hst (by simp) (required_eq_ok.mp hcerts) hleaf
  obtain ⟨v, rfl, hcert, haccept⟩ := tpmVerifySignature_decides hkey hver
  have hsigns : Signs "tpm" attStmt authData hash certInfo := (if_pos rfl).mpr hcertInfo'
  exact ⟨v, halg', sig, key, certInfo, hsig', Or.inl ⟨leaf, rest, hx5c, hcert⟩, hsigns, haccept⟩

lemma acceptedBy_androidKey : (verifyAndroidKey E attStmt authData hash pk anchors).Returns
    fun _ => AcceptedBy E .es256 "android-key" attStmt authData hash pk := by
  refine .bind fun st hst => .bind fun _ _ => .bind fun sig hsig => ?_
  refine .bind fun certs hcerts => .bind fun leaf hleaf => .bind fun key hkey => ?_
  refine .bind fun _ _ => .bind fun _ _ => .bind fun _ hver t _ => ?_
  have hsig' := readStmt_sig hst (by simp) (required_eq_ok.mp hsig)
  obtain ⟨rest, hx5c⟩ := x5c_entry hst (by simp) (required_eq_ok.mp hcerts) hleaf
  have hsigns : Signs "android-key" attStmt authData hash (verificationData authData hash) :=
    (if_neg (by decide)).mpr rfl
  exact ⟨sig, key, _, hsig', Or.inl ⟨leaf, rest, hx5c, hkey⟩, hsigns,
    Crypto.verifyEs256_eq_ok.mp hver⟩

lemma not_acceptedBy_without (v : SigAlg) :
    ¬ AcceptedBy (v.without E) v fmt attStmt authData hash pk := by
  rintro ⟨sig, key, message, -, -, -, haccept⟩
  rw [SigAlg.verifier_without] at haccept
  cases haccept

/-! ### Who decides -/

lemma decides_of_declared
    (hrun : ∀ E, (verify E fmt attStmt authData hash pk credId anchors aaguid).Returns
      fun _ => DeclaredAccepts E fmt attStmt authData hash pk)
    (h : verify E fmt attStmt authData hash pk credId anchors aaguid = .ok t) :
    ∃ v : SigAlg, entryOf "alg" attStmt = some (.integer v.cose) ∧
      Decides E v fmt attStmt authData hash pk credId anchors aaguid := by
  obtain ⟨v, hv, haccept⟩ := hrun E t h
  refine ⟨v, hv, haccept, fun t' ht' => ?_⟩
  obtain ⟨w, hw, haccept'⟩ := hrun (v.without E) t' ht'
  have hvw : v.cose = w.cose := Value.integer.inj (Option.some.inj (hv.symm.trans hw))
  obtain rfl := SigAlg.cose_injective hvw
  exact not_acceptedBy_without v haccept'

lemma decides_androidKey {v : SigAlg}
    (h : verifyAndroidKey E attStmt authData hash pk anchors = .ok t) :
    Decides E v "android-key" attStmt authData hash pk credId anchors aaguid ↔ v = .es256 := by
  refine ⟨fun hdecides => ?_, ?_⟩
  · by_contra hne
    -- the other verifiers are not asked
    have hsame : verifyAndroidKey (v.without E) attStmt authData hash pk anchors =
        verifyAndroidKey E attStmt authData hash pk anchors := by
      cases v with
      | es256 => exact absurd rfl hne
      | edDsa => rfl
      | rs256 => rfl
    exact hdecides.needed t (hsame.trans h)
  · rintro rfl
    refine ⟨acceptedBy_androidKey t h, fun t' ht' => ?_⟩
    exact not_acceptedBy_without .es256 (acceptedBy_androidKey t' ht')

end

/-- **The declared algorithm decides exactly when the format is packed or TPM, or the algorithm
is ECDSA with P-256.** An android-key statement may declare any other. -/
theorem declared_decides_iff (E : Env) (fmt : String) (attStmt : Value) (authData : Bytes)
    (hash : ArrayN UInt8 32) (pk : PublicKey) (credId : Bytes) (anchors : List Bytes)
    (aaguid : ArrayN UInt8 16) (t : AttestationType)
    (hfmt : fmt ∈ ["packed", "android-key", "tpm"])
    (h : verify E fmt attStmt authData hash pk credId anchors aaguid = .ok t) :
    (∃ v : SigAlg, entryOf "alg" attStmt = some (.integer v.cose) ∧
      Decides E v fmt attStmt authData hash pk credId anchors aaguid) ↔
    (fmt = "android-key" → entryOf "alg" attStmt = some (.integer COSE_ES256)) := by
  simp only [List.mem_cons, List.not_mem_nil, or_false] at hfmt
  rcases hfmt with rfl | rfl | rfl
  · have hdeclared : ∀ E, (verify E "packed" attStmt authData hash pk credId anchors
        aaguid).Returns fun _ => DeclaredAccepts E "packed" attStmt authData hash pk :=
      fun _ => declaredAccepts_packed
    have hdecides := decides_of_declared hdeclared h
    exact ⟨fun _ he => absurd he (by decide), fun _ => hdecides⟩
  · refine ⟨?_, fun halg => ?_⟩
    · rintro ⟨v, hv, hdecides⟩ -
      obtain rfl := (decides_androidKey h).mp hdecides
      exact hv
    · exact ⟨.es256, halg rfl, (decides_androidKey h).mpr rfl⟩
  · have hdeclared : ∀ E, (verify E "tpm" attStmt authData hash pk credId anchors
        aaguid).Returns fun _ => DeclaredAccepts E "tpm" attStmt authData hash pk :=
      fun _ => declaredAccepts_tpm
    have hdecides := decides_of_declared hdeclared h
    exact ⟨fun _ he => absurd he (by decide), fun _ => hdecides⟩

section
open Recorded

/-- The authenticator data of a credential whose key is the one in the leaf certificate. -/
def androidAuthData : Bytes :=
  (rpIdHash.toList ++ [0x45, 0, 0, 0, 0]) ++
    (AuthData.credentialHeader Recorded.aaguid idLength credentialId ++
      (beBytes 10 0xa5010203262001215820 ++ (leafPoint.drop 1).take 32 ++ beBytes 3 0x225820 ++
        leafPoint.drop 33))

def androidKey : PublicKey := .es256 ((leafPoint.drop 1).take 32) (leafPoint.drop 33)

/-- The key's signature. -/
def androidSig : Bytes :=
  beBytes 40 0x304402204dbdd7d3ede464543bf29e1a61f82618a5c4e86f539d596c03a8c2feb3e43a7b02205953 ++
    beBytes 30 0x8d6436dfd8c37d1447f62412e99d2cdbc3cb49644d209be1ea8d5286603a

def androidStmt (alg : ℤ) : Value :=
  .map [(.text "alg", .integer alg), (.text "sig", .bytes androidSig),
    (.text "x5c", arrayOf [leafDer])]

def androidEnv : Env :=
  { certificates with
    ecdsaAsn1 := [(leafPoint, verificationData androidAuthData createHash, androidSig)] }.env

lemma verify_es256Stmt : verify androidEnv "android-key" (androidStmt (-7)) androidAuthData
    createHash androidKey credentialId [rootDer] Recorded.aaguid = .ok .basicVerified := by
  decide +kernel

/-- The genuine statement. -/
theorem androidStmt_decides : ∃ v : SigAlg,
    entryOf "alg" (androidStmt (-7)) = some (.integer v.cose) ∧
    Decides androidEnv v "android-key" (androidStmt (-7)) androidAuthData createHash androidKey
      credentialId [rootDer] Recorded.aaguid :=
  (declared_decides_iff androidEnv "android-key" (androidStmt (-7)) androidAuthData createHash
    androidKey credentialId [rootDer] Recorded.aaguid .basicVerified (by decide)
    verify_es256Stmt).mpr fun _ => rfl

lemma verify_rs256Stmt : verify androidEnv "android-key" (androidStmt (-257)) androidAuthData
    createHash androidKey credentialId [rootDer] Recorded.aaguid = .ok .basicVerified := by
  decide +kernel

/-- The same signature is accepted in a statement that declares RSA, although no RSA signature
verifies and RSA decides nothing. -/
theorem rs256Stmt_accepted :
    verify androidEnv "android-key" (androidStmt (-257)) androidAuthData createHash androidKey
      credentialId [rootDer] Recorded.aaguid = .ok .basicVerified ∧
    (∀ key m s, androidEnv.rsaPkcs1Sha256 key m s = false) ∧
    ¬ ∃ v : SigAlg, entryOf "alg" (androidStmt (-257)) = some (.integer v.cose) ∧
      Decides androidEnv v "android-key" (androidStmt (-257)) androidAuthData createHash
        androidKey credentialId [rootDer] Recorded.aaguid := by
  refine ⟨verify_rs256Stmt, fun _ _ _ => rfl, ?_⟩
  rintro ⟨v, hv, hdecides⟩
  obtain rfl := (decides_androidKey verify_rs256Stmt).mp hdecides
  have hcose : (-257 : ℤ) = COSE_ES256 := Value.integer.inj (Option.some.inj hv)
  exact absurd hcose (by decide)

end

end Caden.Algorithms
