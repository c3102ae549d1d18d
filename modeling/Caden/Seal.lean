import Caden.AttestationSpec

/-!
What an attestation statement is bound to, apart from the registration it came with.

A statement with certificates was made for one message: it carries a signature over it under the
leaf's key, or the message's digest inside signed data. The messages of all formats but U2F are
the authenticator data and the hash of the client data; the message of U2F has the parts of the
authenticator data that it uses one after the other.
-/

namespace Caden.Attestation

open CertBytes AttStmt X5c

/-! ### Seals -/

/-- What binds a statement to its message. -/
inductive Seal where
  | es256 (key sig : Bytes)
  | rs256 (key sig : Bytes)
  | digest (d : Bytes)
  | nonce (text : String)

/-- The seal was made for the message `m`. -/
def Seal.Covers (E : Env) (m : Bytes) : Seal → Prop
  | .es256 key sig => E.ecdsaP256Sha256Asn1 key m sig = true
  | .rs256 key sig => E.rsaPkcs1Sha256 key m sig = true
  | .digest d => E.sha256Digest m = d
  | .nonce text => E.standardEncode (E.sha256Digest m) = text

/-- The messages in `inputs` are told apart: they have different digests, which have different
encodings, and a signature verifies for one message under a key. -/
structure OneToOne (E : Env) (inputs : Set Bytes) : Prop where
  digests : Set.InjOn E.sha256Digest inputs
  encodings : Set.InjOn E.standardEncode (E.sha256Digest '' inputs)
  es256 : ∀ key sig m m', E.ecdsaP256Sha256Asn1 key m sig = true →
    E.ecdsaP256Sha256Asn1 key m' sig = true → m = m'
  rs256 : ∀ key sig m m', E.rsaPkcs1Sha256 key m sig = true →
    E.rsaPkcs1Sha256 key m' sig = true → m = m'

lemma Seal.Covers.unique {E : Env} {inputs : Set Bytes} (h : OneToOne E inputs)
    {m m' : Bytes} (hm : m ∈ inputs) (hm' : m' ∈ inputs) {s : Seal}
    (hp : s.Covers E m) (hp' : s.Covers E m') : m = m' := by
  cases s with
  | es256 key sig => exact h.es256 key sig m m' hp hp'
  | rs256 key sig => exact h.rs256 key sig m m' hp hp'
  | digest d => exact h.digests hm hm' (hp.trans hp'.symm)
  | nonce text =>
    have hdigest : E.sha256Digest m = E.sha256Digest m' :=
      h.encodings (Set.mem_image_of_mem _ hm) (Set.mem_image_of_mem _ hm') (hp.trans hp'.symm)
    exact h.digests hm hm' hdigest

/-! ### The seal of a statement -/

/-- The extra data of a certification, after its magic, its type and its signer. -/
def extraDataOf (certInfo : Bytes) : Res Bytes := do
  let pos ← Tpm.tpmSkip certInfo 0 2
  let (_, pos) ← Tpm.tpmReadU32Be certInfo pos
  let (_, pos) ← Tpm.tpmReadU16Be certInfo pos
  let (_, pos) ← Tpm.tpmReadBlob certInfo pos
  let (extraData, _) ← Tpm.tpmReadBlob certInfo pos
  return extraData

/-- A signature under the leaf's key for the algorithm. -/
def leafSeal (alg : ℤ) (leaf sig : Bytes) : Res Seal :=
  if alg = COSE_ES256 then do
    let key ← extractEcP256PublicKeyFromCert leaf
    return .es256 key sig
  else if alg = COSE_RS256 then do
    let key ← extractRsaPublicKeyDerFromCert leaf
    return .rs256 key sig
  else .err (.unsupportedAlgorithm alg)

/-- The leaf of a statement with certificates. -/
def leafOf (st : Fields) : Res Bytes := do
  let certs ← required (st .x5c) "x5c"
  Slice.index certs 0

/-- The seal of a statement with certificates, read from the statement alone. -/
def sealOf (E : Env) (fmt : String) (attStmt : Value) : Res Seal :=
  match fmt with
  | "packed" => do
    let st ← readStmt "packed" [.alg, .sig, .x5c] attStmt
    let alg ← required (st .alg) "alg"
    leafSeal alg (← leafOf st) (← required (st .sig) "sig")
  | "fido-u2f" => do
    let st ← readStmt "fido-u2f" [.sig, .x5c] attStmt
    leafSeal COSE_ES256 (← leafOf st) (← required (st .sig) "sig")
  | "android-key" => do
    let st ← readStmt "android-key" [.alg, .sig, .x5c] attStmt
    leafSeal COSE_ES256 (← leafOf st) (← required (st .sig) "sig")
  | "apple" => do
    let st ← readStmt "apple" [.x5c] attStmt
    let nonce ← extractAppleNonceFromCert (← leafOf st)
    return .digest nonce.toList
  | "tpm" => do
    let st ← readStmt "tpm" [.ver, .alg, .sig, .x5c, .certInfo, .pubArea] attStmt
    let extraData ← extraDataOf (← required (st .certInfo) "certInfo")
    return .digest extraData
  | "android-safetynet" => do
    let st ← readStmt "android-safetynet" [.ver, .response] attStmt
    let response ← required (st .response) "response"
    let text ← .okOr (Text.fromUtf8 response) (invalid "response")
    let jws ← splitJwsWithX5c E text invalid
    let payload ← .ofExcept (E.jsonSafetyNetPayload jws.payload) invalid
    return .nonce payload.nonce
  | _ => .err (invalid fmt)

/-- The point of a P-256 key. -/
def pointOf : PublicKey → Bytes
  | .es256 x y => uncompressed x y
  | _ => []

/-- The message that a statement of the format is made for. -/
def messageOf (fmt : String) (authData : Bytes) (hash : ArrayN UInt8 32) (credId : Bytes)
    (pk : PublicKey) : Bytes :=
  if fmt = "fido-u2f" then
    0x00 :: (authData.take 32 ++ hash.toList ++ credId ++ pointOf pk)
  else verificationData authData hash

/-- The statement's seal covers the message. -/
def Sealed (E : Env) (fmt : String) (attStmt : Value) (m : Bytes) : Prop :=
  ∃ s, sealOf E fmt attStmt = .ok s ∧ s.Covers E m

/-- **A statement is sealed for one message.** -/
lemma Sealed.unique {E : Env} {inputs : Set Bytes} (h : OneToOne E inputs) {m m' : Bytes}
    (hm : m ∈ inputs) (hm' : m' ∈ inputs) {fmt : String} {attStmt : Value}
    (hs : Sealed E fmt attStmt m) (hs' : Sealed E fmt attStmt m') : m = m' := by
  obtain ⟨s, hseal, hp⟩ := hs
  obtain ⟨s', hseal', hp'⟩ := hs'
  obtain rfl : s = s' := Outcome.ok.inj (hseal.symm.trans hseal')
  exact hp.unique h hm hm' hp'

/-! ### Every format checks its seal -/

section
variable {E : Env} {attStmt : Value} {certs anchors : List Bytes} {authData credId : Bytes}
  {hash : ArrayN UInt8 32} {pk : PublicKey} {aaguid : ArrayN UInt8 16} {st : Fields}
  {alg : ℤ} {leaf m sig : Bytes}

lemma leafOf_eq_ok (hcerts : st .x5c = some certs)
    (hleaf : (Slice.index certs 0 : Res Bytes) = .ok leaf) : leafOf st = .ok leaf :=
  Outcome.bind_eq_ok.mpr ⟨certs, required_eq_ok.mpr hcerts, hleaf⟩

lemma required_again {α : Type} {o : Option α} {msg msg' : String} {a : α}
    (h : required o msg = .ok a) : required o msg' = .ok a :=
  required_eq_ok.mpr (required_eq_ok.mp h)

lemma leafSeal_of_verified (h : verifyLeafSignature E alg leaf m sig = .ok ()) :
    ∃ s, leafSeal alg leaf sig = .ok s ∧ s.Covers E m := by
  unfold verifyLeafSignature at h
  unfold leafSeal
  split at h
  · obtain ⟨key, hkey, hver⟩ := Outcome.bind_eq_ok.mp h
    rw [if_pos ‹_›, hkey]
    exact ⟨.es256 key sig, rfl, Crypto.verifyEs256_eq_ok.mp hver⟩
  · rw [if_neg ‹_›]
    split at h
    · obtain ⟨key, hkey, hver⟩ := Outcome.bind_eq_ok.mp h
      rw [if_pos ‹_›, hkey]
      exact ⟨.rs256 key sig, rfl, Crypto.verifyRs256_eq_ok.mp hver⟩
    · cases h

lemma extraDataOf_of_verified {certInfo name : Bytes} {extra : ArrayN UInt8 32}
    (h : Tpm.verifyCertInfo certInfo extra name = .ok ()) :
    extraDataOf certInfo = .ok extra.toList := by
  obtain ⟨pos, hpos, h⟩ := Outcome.bind_eq_ok.mp h
  obtain ⟨⟨magic, p₁⟩, hmagic, h⟩ := Outcome.bind_eq_ok.mp h
  obtain ⟨_, -, h⟩ := Outcome.bind_eq_ok.mp h
  obtain ⟨⟨type_, p₂⟩, htype, h⟩ := Outcome.bind_eq_ok.mp h
  obtain ⟨_, -, h⟩ := Outcome.bind_eq_ok.mp h
  obtain ⟨⟨signer, p₃⟩, hsigner, h⟩ := Outcome.bind_eq_ok.mp h
  obtain ⟨⟨data, p₄⟩, hdata, h⟩ := Outcome.bind_eq_ok.mp h
  obtain ⟨_, hsame, -⟩ := Outcome.bind_eq_ok.mp h
  obtain rfl : data = extra.toList := not_not.mp (Outcome.rejectIf_eq_ok.mp hsame)
  simp only [extraDataOf, hpos, hmagic, htype, hsigner, hdata, Outcome.ok_bind, Outcome.pure_eq]

lemma sealed_packed (hx5c : entryOf "x5c" attStmt ≠ none) :
    (verifyPacked E attStmt authData hash pk anchors aaguid).Returns fun _ =>
      Sealed E "packed" attStmt (verificationData authData hash) := by
  refine .bind fun st hst => ?_
  split
  · rename_i certs hcerts
    refine .bind fun alg halg => .bind fun sig hsig => .bind fun leaf hleaf => ?_
    refine .bind fun _ hver t _ => ?_
    obtain ⟨s, hseal, hcovers⟩ := leafSeal_of_verified hver
    refine ⟨s, ?_, hcovers⟩
    simp only [sealOf, hst, required_again halg, leafOf_eq_ok hcerts hleaf, required_again hsig,
      Outcome.ok_bind, hseal]
  · rename_i hnone
    exact absurd (readStmt_no_entry hst (by simp) hnone) hx5c

lemma es256Point_eq_ok {msg : String} {b : Bytes} :
    es256Point msg pk = .ok b ↔ (∃ x y, pk = .es256 x y) ∧ pointOf pk = b := by
  cases pk <;> simp [es256Point, pointOf]

lemma leafSeal_es256 {key : Bytes} (hkey : extractEcP256PublicKeyFromCert leaf = .ok key) :
    leafSeal COSE_ES256 leaf sig = .ok (.es256 key sig) := by
  rw [leafSeal, if_pos rfl, hkey]
  rfl

lemma sealed_fidoU2f : (verifyFidoU2f E attStmt authData hash credId pk anchors).Returns fun _ =>
    Sealed E "fido-u2f" attStmt (messageOf "fido-u2f" authData hash credId pk) ∧
      ∃ x y, pk = .es256 x y := by
  refine .bind fun st hst => ?_
  refine .bind fun certs hcerts => .bind fun sig hsig => ?_
  refine .bind fun leaf hleaf => .bind fun key hkey => .bind fun point hpoint => ?_
  refine .bind fun _ _ => .bind fun rpIdHash hslice => .bind fun _ hver t _ => ?_
  obtain ⟨hes256, rfl⟩ := es256Point_eq_ok.mp hpoint
  obtain ⟨-, rfl⟩ := Slice.slice_eq_ok.mp hslice
  refine ⟨⟨.es256 key sig, ?_, Crypto.verifyEs256_eq_ok.mp hver⟩, hes256⟩
  simp only [sealOf, hst, leafOf_eq_ok (required_eq_ok.mp hcerts) hleaf, required_again hsig,
    Outcome.ok_bind, leafSeal_es256 hkey]

lemma sealed_androidKey : (verifyAndroidKey E attStmt authData hash pk anchors).Returns fun _ =>
    Sealed E "android-key" attStmt (verificationData authData hash) := by
  refine .bind fun st hst => .bind fun _ _ => .bind fun sig hsig => ?_
  refine .bind fun certs hcerts => .bind fun leaf hleaf => .bind fun key hkey => ?_
  refine .bind fun _ _ => .bind fun _ _ => .bind fun _ hver t _ => ?_
  refine ⟨.es256 key sig, ?_, Crypto.verifyEs256_eq_ok.mp hver⟩
  simp only [sealOf, hst, leafOf_eq_ok (required_eq_ok.mp hcerts) hleaf, required_again hsig,
    Outcome.ok_bind, leafSeal_es256 hkey]

lemma sealed_apple : (verifyApple E attStmt authData hash pk anchors).Returns fun _ =>
    Sealed E "apple" attStmt (verificationData authData hash) := by
  refine .bind fun st hst => .bind fun certs hcerts => .bind fun expected hexpected => ?_
  refine .bind fun leaf hleaf => .bind fun nonce hnonce => .bind fun _ hsame => ?_
  intro t _
  obtain rfl : nonce = expected := not_not.mp (Outcome.rejectIf_eq_ok.mp hsame)
  rw [Crypto.sha256_eq, Outcome.ok.injEq] at hexpected
  refine ⟨.digest nonce.toList, ?_, congrArg List.Vector.toList hexpected⟩
  simp only [sealOf, hst, leafOf_eq_ok (required_eq_ok.mp hcerts) hleaf, hnonce, Outcome.ok_bind,
    Outcome.pure_eq]

lemma sealed_tpm : (verifyTpm E attStmt authData hash pk anchors).Returns fun _ =>
    Sealed E "tpm" attStmt (verificationData authData hash) := by
  refine .bind fun st hst => ?_
  iterate 6 refine .bind fun _ _ => ?_
  refine .bind fun certInfo hcertInfo => .bind fun _ _ => ?_
  refine .bind fun _ _ => .bind fun _ _ => .bind fun expected hexpected => ?_
  refine .bind fun name _ => .bind fun _ _ => .bind fun _ hver t _ => ?_
  rw [Crypto.sha256_eq, Outcome.ok.injEq] at hexpected
  refine ⟨.digest expected.toList, ?_, congrArg List.Vector.toList hexpected⟩
  simp only [sealOf, hst, required_again hcertInfo, extraDataOf_of_verified hver, Outcome.ok_bind,
    Outcome.pure_eq]

lemma sealed_androidSafetynet :
    (verifyAndroidSafetynet E attStmt authData hash anchors).Returns fun _ =>
      Sealed E "android-safetynet" attStmt (verificationData authData hash) := by
  refine .bind fun st hst => .bind fun _ _ => .bind fun response hresponse => ?_
  refine .bind fun text htext => .bind fun jws hjws => .bind fun leaf _ => .bind fun _ _ => ?_
  refine .bind fun digest hdigest => .bind fun payload hpayload => .bind fun _ hsame t _ => ?_
  have hnonce : payload.nonce = E.standardEncode digest.toList :=
    not_not.mp (Outcome.rejectIf_eq_ok.mp hsame)
  rw [Crypto.sha256_eq, Outcome.ok.injEq] at hdigest
  subst hdigest
  refine ⟨.nonce payload.nonce, ?_, hnonce.symm⟩
  have htext' := Outcome.okOr_eq_ok.mp htext
  have hpayload' := Outcome.ofExcept_eq_ok.mp hpayload
  simp only [sealOf, hst, required_again hresponse, htext', Outcome.okOr, hjws, hpayload',
    Outcome.ofExcept, Outcome.ok_bind, Outcome.pure_eq]

/-- **Every format with certificates checks its seal.** -/
theorem sealed_of_verified {fmt : String} {t : AttestationType} (hfmt : fmt ∈ verifiedFormats)
    (hx5c : fmt = "packed" → entryOf "x5c" attStmt ≠ none)
    (h : verify E fmt attStmt authData hash pk credId anchors aaguid = .ok t) :
    Sealed E fmt attStmt (messageOf fmt authData hash credId pk) ∧
      (fmt = "fido-u2f" → ∃ x y, pk = .es256 x y) := by
  unfold verify at h
  split at h
  · simp [verifiedFormats] at hfmt
  · exact ⟨sealed_packed (hx5c rfl) t h, by simp⟩
  · obtain ⟨hsealed, hes256⟩ := sealed_fidoU2f t h
    exact ⟨hsealed, fun _ => hes256⟩
  · exact ⟨sealed_androidKey t h, by simp⟩
  · exact ⟨sealed_apple t h, by simp⟩
  · exact ⟨sealed_tpm t h, by simp⟩
  · exact ⟨sealed_androidSafetynet t h, by simp⟩
  · simp_all [verifiedFormats]

end

end Caden.Attestation
