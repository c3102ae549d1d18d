import Mathlib.Data.List.Chain
import Caden.Credential
import Caden.Lib.Text
import Caden.CertBytes

/-!
Certificate chains: where they come from, the order of their links, and their anchors.

A chain is leaf-first. Each certificate must be issued by the next one, and with trust
anchors the last one must be signed by one of them.
-/

namespace Caden.X5c

open CertBytes (invalid)

/-- The certificates of a CBOR `x5c` array, which must not be empty. -/
def extractX5cArray (v : Value) : Res (List Bytes) :=
  match v with
  | .array arr => do
    .rejectIf (arr.isEmpty = true) (invalid "x5c must be non-empty")
    arr.zipIdx.mapM fun (entry, i) =>
      match entry with
      | .bytes b => .ok b
      | _ => .err (invalid s!"x5c[{i}] must be CBOR bytes")
  | _ => .err (invalid "x5c must be a CBOR array")

/-- The array that carries `certs`. -/
def arrayOf (certs : List Bytes) : Value := .array (certs.map .bytes)

/-- **An `x5c` entry is accepted exactly when it is a non-empty array of byte strings.** -/
lemma extractX5cArray_eq_ok {v : Value} {certs : List Bytes} :
    extractX5cArray v = .ok certs ↔ v = arrayOf certs ∧ certs ≠ [] := by
  unfold extractX5cArray
  split
  · rename_i arr
    have hentry : ∀ (x : Value) (i : ℕ) (b : Bytes),
        (match x with
          | .bytes b => .ok b
          | _ => .err (invalid s!"x5c[{i}] must be CBOR bytes") : Res Bytes) = .ok b ↔
          x = .bytes b := by
      intro x i b
      cases x <;> simp
    rw [Outcome.bind_eq_ok]
    simp only [Outcome.rejectIf_eq_ok, exists_const]
    rw [Outcome.mapM_zipIdx_eq_ok hentry, arrayOf, Value.array.injEq, ← List.forall₂_map_right_iff,
      List.forall₂_eq_eq_eq]
    refine ⟨?_, ?_⟩
    · rintro ⟨hne, rfl⟩
      exact ⟨rfl, by simpa using hne⟩
    · rintro ⟨rfl, hne⟩
      exact ⟨by simpa using hne, rfl⟩
  · rename_i h
    simp only [reduceCtorEq, false_iff]
    rintro ⟨rfl, -⟩
    exact h _ rfl

@[simp] lemma safe_extractX5cArray (v : Value) : (extractX5cArray v).Safe := by
  unfold extractX5cArray
  split
  · simp only [Outcome.safe_bind, Outcome.safe_rejectIf, true_and]
    refine fun _ _ => Outcome.safe_mapM fun p _ => ?_
    split <;> simp
  · simp

variable (E : Env)

/-! ### Links -/

/-- One turn of the loop: certificate `i` is signed by certificate `i + 1`. -/
def verifyLink (invalidErr : String → WebAuthnError) (certs : List Bytes) (i : ℕ) :
    Res PUnit := do
  let subjectDer ← Slice.index certs i
  let subject ← .okOr (E.x509FromDer subjectDer)
    (invalidErr s!"x5c[{i}] is not a valid DER-encoded X.509 certificate")
  let issuerDer ← Slice.index certs (i + 1)
  let issuer ← .okOr (E.x509FromDer issuerDer)
    (invalidErr s!"x5c[{i + 1}] is not a valid DER-encoded X.509 certificate")
  .rejectIf (subject.issuer ≠ issuer.subject)
    (invalidErr s!"x5c[{i}].issuer does not match x5c[{i + 1}].subject")
  .rejectIf (E.x509VerifySignature subject issuer.publicKey = false)
    (invalidErr s!"x5c[{i}] is not signed by x5c[{i + 1}]")

def verifyChainOrder (invalidErr : String → WebAuthnError) (certs : List Bytes) : Res PUnit :=
  forM (List.range (certs.length - 1)) (verifyLink E invalidErr certs)

/-- Whether one certificate is signed by another; not so when either does not parse. -/
def certSignedBy (certDer signerDer : Bytes) : Bool :=
  match E.x509FromDer certDer, E.x509FromDer signerDer with
  | some cert, some signer => E.x509VerifySignature cert signer.publicKey
  | _, _ => false

/-- The chain in order, and its root under one of the anchors if there are any. -/
def verifyX5cChain (certs trustAnchors : List Bytes) : Res AttestationType := do
  verifyChainOrder E .attestationChainInvalid certs
  if trustAnchors = [] then return .basic
  else do
    let rootDer ← Slice.index certs (certs.length - 1)
    .rejectIf ((E.x509FromDer rootDer).isNone = true)
      (.attestationChainInvalid "x5c root certificate is not valid DER")
    if trustAnchors.any (certSignedBy E rootDer) then return .basicVerified
    else .err .attestationRootUntrusted

/-! ### What a chain means -/

variable {E}

/-- `c` names `d` as its issuer and carries a signature by `d`'s key. -/
def IssuedBy (E : Env) (c d : Bytes) : Prop :=
  ∃ subject issuer, E.x509FromDer c = some subject ∧ E.x509FromDer d = some issuer ∧
    subject.issuer = issuer.subject ∧ E.x509VerifySignature subject issuer.publicKey = true

/-- `c` carries a signature by `d`'s key. -/
def SignedBy (E : Env) (c d : Bytes) : Prop :=
  ∃ cert signer, E.x509FromDer c = some cert ∧ E.x509FromDer d = some signer ∧
    E.x509VerifySignature cert signer.publicKey = true

lemma certSignedBy_iff {c d : Bytes} : certSignedBy E c d = true ↔ SignedBy E c d := by
  unfold certSignedBy SignedBy
  rcases E.x509FromDer c with _ | cert <;> rcases E.x509FromDer d with _ | signer <;> simp

lemma SignedBy.parses {c d : Bytes} (h : SignedBy E c d) : (E.x509FromDer c).isSome := by
  obtain ⟨cert, -, hc, -⟩ := h
  simp [hc]

/-- Every certificate parses, each is issued by the next, and `anchored` holds of the last. -/
structure Chain (E : Env) (certs : List Bytes) (anchored : Bytes → Prop) : Prop where
  parses : ∀ c ∈ certs, (E.x509FromDer c).isSome
  linked : certs.IsChain (IssuedBy E)
  root : ∃ r, certs.getLast? = some r ∧ anchored r

lemma SignedBy.chain {c d : Bytes} (h : SignedBy E c d) :
    Chain E [c] fun r => SignedBy E r d where
  parses := by simpa using h.parses
  linked := List.isChain_singleton c
  root := ⟨c, rfl, h⟩

variable {invalidErr : String → WebAuthnError} {certs anchors : List Bytes}

lemma verifyLink_eq_ok {i : ℕ} (h : i + 1 < certs.length) :
    verifyLink E invalidErr certs i = .ok ⟨⟩ ↔ IssuedBy E certs[i] certs[i + 1] := by
  have hi : certs[i]? = some certs[i] := List.getElem?_eq_getElem (by omega)
  have hi' : certs[i + 1]? = some certs[i + 1] := List.getElem?_eq_getElem h
  simp [verifyLink, IssuedBy, hi, hi']

/-- **The loop over the links accepts exactly the chains in issuing order.** -/
lemma verifyChainOrder_eq_ok {u : PUnit} :
    verifyChainOrder E invalidErr certs = .ok u ↔ certs.IsChain (IssuedBy E) := by
  cases u
  rw [verifyChainOrder, Outcome.forM_eq_ok, List.isChain_iff_getElem]
  refine ⟨?_, ?_⟩
  · intro h i hi
    exact (verifyLink_eq_ok hi).mp (h i (List.mem_range.mpr (by omega)))
  · intro h i hi
    have hlt : i + 1 < certs.length := by
      have := List.mem_range.mp hi
      omega
    exact (verifyLink_eq_ok hlt).mpr (h i hlt)

lemma parses_of_isChain {r : Bytes} (h : certs.IsChain (IssuedBy E))
    (hr : certs.getLast? = some r) (hp : (E.x509FromDer r).isSome) :
    ∀ c ∈ certs, (E.x509FromDer c).isSome := by
  induction certs with
  | nil => simp
  | cons c certs ih =>
    rcases certs with _ | ⟨d, certs⟩
    · obtain rfl : c = r := by simpa using hr
      simpa using hp
    · obtain ⟨⟨s, i, hs, -⟩, hrest⟩ := List.isChain_cons_cons.mp h
      intro b hb
      rcases List.mem_cons.mp hb with rfl | hb
      · simp [hs]
      · exact ih hrest (by simpa using hr) b hb

lemma chain_iff {P : Bytes → Prop} (hP : ∀ r, P r → (E.x509FromDer r).isSome) :
    Chain E certs P ↔ certs.IsChain (IssuedBy E) ∧ ∃ r, certs.getLast? = some r ∧ P r := by
  refine ⟨?_, ?_⟩
  · rintro ⟨-, hl, hr⟩
    exact ⟨hl, hr⟩
  · rintro ⟨hl, r, hr, hp⟩
    exact ⟨parses_of_isChain hl hr (hP r hp), hl, r, hr, hp⟩

/-- The last certificate is signed by one of `anchors`. -/
def AnchoredIn (E : Env) (anchors : List Bytes) (r : Bytes) : Prop :=
  ∃ a ∈ anchors, SignedBy E r a

/-- **What the type of a chain means.** -/
lemma verifyX5cChain_eq_ok {t : AttestationType} :
    verifyX5cChain E certs anchors = .ok t ↔
      (t = .basic ∧ anchors = [] ∧ certs.IsChain (IssuedBy E)) ∨
      (t = .basicVerified ∧ anchors ≠ [] ∧ Chain E certs (AnchoredIn E anchors)) := by
  have hP : ∀ r, AnchoredIn E anchors r → (E.x509FromDer r).isSome := by
    rintro r ⟨a, -, hsigned⟩
    exact hsigned.parses
  have hlast : certs[certs.length - 1]? = certs.getLast? := List.getLast?_eq_getElem?.symm
  have hany : ∀ r, anchors.any (certSignedBy E r) = true ↔ AnchoredIn E anchors r := by
    simp [AnchoredIn, certSignedBy_iff]
  rw [verifyX5cChain, Outcome.bind_eq_ok, chain_iff hP]
  simp only [verifyChainOrder_eq_ok, exists_const]
  by_cases ha : anchors = []
  · simp [ha, @eq_comm _ _ t, and_comm]
  · simp only [ha, if_false, Outcome.bind_eq_ok, Slice.index_eq_ok, hlast,
      Outcome.rejectIf_eq_ok, exists_const]
    refine ⟨?_, ?_⟩
    · rintro ⟨hl, r, hr, -, h⟩
      split at h
      · cases h
        exact Or.inr ⟨rfl, ha, hl, r, hr, (hany r).mp ‹_›⟩
      · cases h
    · rintro (⟨-, h, -⟩ | ⟨rfl, -, hl, r, hr, hroot⟩)
      · exact h.elim
      · have hsome : ¬ (E.x509FromDer r).isNone = true := by
          simpa [Option.isSome_iff_ne_none] using hP r hroot
        refine ⟨hl, r, hr, hsome, ?_⟩
        rw [if_pos ((hany r).mpr hroot)]
        rfl

@[simp] lemma safe_verifyChainOrder : (verifyChainOrder E invalidErr certs).Safe := by
  refine Outcome.safe_forM fun i hi => ?_
  have hlt : i + 1 < certs.length := by
    have := List.mem_range.mp hi
    omega
  simp only [verifyLink, Outcome.safe_bind, Slice.safe_index, Outcome.safe_okOr,
    Outcome.safe_rejectIf, true_and, implies_true, and_true]
  exact ⟨by omega, fun _ _ _ _ => hlt⟩

lemma throws_verifyChainOrder {P : WebAuthnError → Prop} (h : ∀ msg, P (invalidErr msg)) :
    (verifyChainOrder E invalidErr certs).Throws P := by
  refine Outcome.throws_forM fun i _ => ?_
  simp [verifyLink, Slice.index, h]

lemma safe_verifyX5cChain (h : certs ≠ []) : (verifyX5cChain E certs anchors).Safe := by
  have hpos := List.length_pos_iff.mpr h
  refine Outcome.Safe.bind safe_verifyChainOrder fun _ _ => ?_
  simp only [Outcome.safe_ite, Outcome.safe_pure, Outcome.safe_bind, Slice.safe_index,
    Outcome.safe_rejectIf, Outcome.safe_err, true_and, implies_true, and_true]
  omega

/-! ### Certificates inside a JWS -/

/-- A JWS split at its dots, with its header decoded up to the certificates. -/
structure JwsX5cChain where
  alg : String
  certs : List Bytes
  signingInput : Bytes
  payload : Bytes
  signature : Bytes

/-- The three segments and the error when there are not three. -/
def jwsSegments (malformedErr : String → WebAuthnError) (jws : String) :
    Res (String × String × String) :=
  match Text.split '.' jws with
  | [header, payload, sig] => .ok (header, payload, sig)
  | segments => .err
      (malformedErr s!"expected 3 dot-separated JWS segments, got {segments.length}")

variable (E) in
def splitJwsWithX5c (jws : String) (malformedErr : String → WebAuthnError) :
    Res JwsX5cChain := do
  let (headerB64, payloadB64, sigB64) ← jwsSegments malformedErr jws
  let headerBytes ← .ofExcept (E.urlSafeNoPadDecode headerB64) fun e =>
    malformedErr s!"failed to base64url-decode JWS header: {e}"
  let payload ← .ofExcept (E.urlSafeNoPadDecode payloadB64) fun e =>
    malformedErr s!"failed to base64url-decode JWS payload: {e}"
  let signature ← .ofExcept (E.urlSafeNoPadDecode sigB64) fun e =>
    malformedErr s!"failed to base64url-decode JWS signature: {e}"
  let header ← .ofExcept (E.jsonJoseHeader headerBytes) fun e =>
    malformedErr s!"failed to parse JWS header JSON: {e}"
  .rejectIf (header.x5c = [])
    (malformedErr "JWS header x5c must be a non-empty certificate chain")
  let certs ← header.x5c.zipIdx.mapM fun (entry, i) =>
    .ofExcept (E.standardDecode entry) fun e =>
      malformedErr s!"failed to base64-decode x5c[{i}]: {e}"
  return {
    alg := header.alg
    certs
    signingInput := Text.asBytes (headerB64 ++ "." ++ payloadB64)
    payload
    signature }

/-- The certificates a list of base64 texts decodes to, one by one. -/
def DecodesTo (E : Env) : List String → List Bytes → Prop :=
  List.Forall₂ fun entry cert => E.standardDecode entry = .ok cert

/-- `jws` is exactly these three segments, with a dot between neighbours and no other. -/
def Segments (jws header payload sig : String) : Prop :=
  jws = header ++ "." ++ payload ++ "." ++ sig ∧
    '.' ∉ header.toList ∧ '.' ∉ payload.toList ∧ '.' ∉ sig.toList

/-- `jws` is three segments that decode to the parts of `j`. -/
def IsJws (E : Env) (jws : String) (j : JwsX5cChain) : Prop :=
  ∃ header payload sig headerBytes h, Segments jws header payload sig ∧
    E.urlSafeNoPadDecode header = .ok headerBytes ∧
    E.urlSafeNoPadDecode payload = .ok j.payload ∧
    E.urlSafeNoPadDecode sig = .ok j.signature ∧
    E.jsonJoseHeader headerBytes = .ok h ∧ h.x5c ≠ [] ∧ DecodesTo E h.x5c j.certs ∧
    j.alg = h.alg ∧ j.signingInput = Text.asBytes (header ++ "." ++ payload)

lemma jwsSegments_eq_ok {jws a b c : String} :
    jwsSegments invalidErr jws = .ok (a, b, c) ↔ Segments jws a b c := by
  have hdot : ('.' : Char).toString = "." := rfl
  rw [Segments, ← hdot, ← Text.split_eq_three]
  unfold jwsSegments
  split
  · simp_all
  · rename_i h
    simp only [reduceCtorEq, false_iff]
    exact fun h' => h _ _ _ h'

lemma safe_jwsSegments (jws : String) : (jwsSegments invalidErr jws).Safe := by
  unfold jwsSegments
  split <;> simp

/-- **A JWS that splits is exactly its three segments.** -/
lemma splitJwsWithX5c_eq_ok {jws : String} {j : JwsX5cChain} :
    splitJwsWithX5c E jws invalidErr = .ok j ↔ IsJws E jws j := by
  have hcerts : ∀ (l : List String) (r : List Bytes),
      l.zipIdx.mapM (fun (entry, i) => Outcome.ofExcept (E.standardDecode entry) fun e =>
        invalidErr s!"failed to base64-decode x5c[{i}]: {e}") = .ok r ↔ DecodesTo E l r :=
    fun l r => Outcome.mapM_zipIdx_eq_ok fun x i y => Outcome.ofExcept_eq_ok
  simp only [splitJwsWithX5c, Outcome.bind_eq_ok, Prod.exists, jwsSegments_eq_ok,
    Outcome.ofExcept_eq_ok, Outcome.rejectIf_eq_ok, exists_const, hcerts, Outcome.pure_eq,
    Outcome.ok.injEq]
  refine ⟨?_, ?_⟩
  · rintro ⟨a, b, c, hs, hb, hh, p, hp, sig, hsig, h, hj, hne, certs, hc, rfl⟩
    exact ⟨a, b, c, hb, h, hs, hh, hp, hsig, hj, hne, hc, rfl, rfl⟩
  · rcases j with ⟨alg, certs, input, p, sig⟩
    rintro ⟨a, b, c, hb, h, hs, hh, hp, hsig, hj, hne, hc, rfl, rfl⟩
    exact ⟨a, b, c, hs, hb, hh, p, hp, sig, hsig, h, hj, hne, certs, hc, rfl⟩

lemma IsJws.certs_ne_nil {jws : String} {j : JwsX5cChain} (h : IsJws E jws j) :
    j.certs ≠ [] := by
  obtain ⟨_, _, _, _, hd, -, -, -, -, -, hne, hall, -, -⟩ := h
  intro hnil
  rw [DecodesTo, hnil] at hall
  exact hne (List.forall₂_nil_right_iff.mp hall)

@[simp] lemma safe_splitJwsWithX5c (jws : String) :
    (splitJwsWithX5c E jws invalidErr).Safe := by
  simp only [splitJwsWithX5c, Outcome.safe_bind, safe_jwsSegments, Outcome.safe_ofExcept,
    Outcome.safe_rejectIf, Outcome.safe_pure, true_and, implies_true, and_true]
  intro _ _ _ _ _ _ _ _ _ _ _ _
  exact Outcome.safe_mapM fun _ _ => by simp

lemma throws_splitJwsWithX5c {P : WebAuthnError → Prop} (h : ∀ msg, P (invalidErr msg))
    (jws : String) : (splitJwsWithX5c E jws invalidErr).Throws P := by
  have hsegments : (jwsSegments invalidErr jws).Throws P := by
    unfold jwsSegments
    split <;> simp [h]
  simp only [splitJwsWithX5c, Outcome.throws_bind, hsegments, Outcome.throws_ofExcept,
    Outcome.throws_rejectIf, Outcome.throws_pure, h, implies_true, true_and, and_true]
  intro _ _ _ _ _ _ _ _ _ _ _ _
  exact Outcome.throws_mapM fun _ _ => by simp [h]

/-! ### Leaf certificates -/

def FIDO_GEN_CE_AAGUID_OID : String := "1.3.6.1.4.1.45724.1.1.4"

/-- Whether an extension's value is an octet string of the 16 bytes of `aaguid`. -/
def aaguidMatches (value : Bytes) (aaguid : ArrayN UInt8 16) : Res Bool :=
  if value.length ≠ 18 then .ok false
  else do
    let tag ← Slice.index value 0
    let len ← Slice.index value 1
    let contents ← Slice.slice value 2 18
    return tag == 0x04 && len == 0x10 && contents == aaguid.toList

variable (E) in
/-- Each AAGUID extension of the leaf must match; a leaf that does not parse has none. -/
def verifyCertAaguidExtension (certDer : Bytes) (aaguid : ArrayN UInt8 16) : Res PUnit :=
  match E.x509FromDer certDer with
  | none => .ok ⟨⟩
  | some cert => forM cert.extensions fun ext =>
    if ext.oid ≠ FIDO_GEN_CE_AAGUID_OID then .ok ⟨⟩
    else do
      .rejectIf ((← aaguidMatches ext.value aaguid) = false) .attestationAaguidMismatch

variable (E) in
/-- A leaf whose Basic Constraints cannot be determined is let through. -/
def verifyCertIsNotCa (certDer : Bytes) : Res Unit :=
  match E.x509FromDer certDer with
  | none => .ok ()
  | some cert =>
    match cert.basicConstraints with
    | .ok (some basicConstraints) =>
      .rejectIf (basicConstraints.ca = true) .attestationCertIsCa
    | _ => .ok ()

variable (E) in
/-- Whether a DNS name or a common name of the certificate is `hostname`. -/
def certIssuedToHostname (certDer : Bytes) (hostname : String) : Bool :=
  match E.x509FromDer certDer with
  | none => false
  | some cert =>
    let matchesSan := match cert.subjectAlternativeName with
      | .ok (some names) => names.any fun
        | .dnsName dns => dns == hostname
        | .other => false
      | _ => false
    matchesSan || cert.commonNames.any (· == some hostname)

/-- The value of an AAGUID extension for `aaguid`. -/
def aaguidOctets (aaguid : ArrayN UInt8 16) : Bytes := 0x04 :: 0x10 :: aaguid.toList

lemma aaguidMatches_eq (value : Bytes) (aaguid : ArrayN UInt8 16) :
    aaguidMatches value aaguid = .ok (decide (value = aaguidOctets aaguid)) := by
  have hlen : (aaguidOctets aaguid).length = 18 := by simp [aaguidOctets]
  unfold aaguidMatches
  by_cases h : value.length = 18
  · rcases value with _ | ⟨t, _ | ⟨l, rest⟩⟩
    · simp at h
    · simp at h
    · have hr : rest.length = 16 := by simpa using h
      have ht : rest.take 16 = rest := List.take_of_length_le hr.le
      simp [Slice.index, Slice.slice, Outcome.expect, aaguidOctets, hr, ht, Bool.and_assoc,
        beq_eq_decide]
  · have hne : value ≠ aaguidOctets aaguid := fun e => h (by rw [e, hlen])
    simp [h, hne]

lemma verifyCertAaguidExtension_eq_ok {certDer : Bytes} {aaguid : ArrayN UInt8 16} :
    verifyCertAaguidExtension E certDer aaguid = .ok ⟨⟩ ↔
      ∀ cert, E.x509FromDer certDer = some cert → ∀ ext ∈ cert.extensions,
        ext.oid = FIDO_GEN_CE_AAGUID_OID → ext.value = aaguidOctets aaguid := by
  unfold verifyCertAaguidExtension
  split
  · simp_all
  · rename_i cert hcert
    rw [Outcome.forM_eq_ok]
    simp only [hcert, Option.some.injEq, forall_eq']
    refine forall₂_congr fun ext _ => ?_
    by_cases h : ext.oid = FIDO_GEN_CE_AAGUID_OID <;> simp [h, aaguidMatches_eq]

lemma verifyCertIsNotCa_eq_ok {certDer : Bytes} {u : Unit} :
    verifyCertIsNotCa E certDer = .ok u ↔
      ∀ cert bc, E.x509FromDer certDer = some cert → cert.basicConstraints = .ok (some bc) →
        bc.ca = false := by
  unfold verifyCertIsNotCa
  split
  · simp_all
  · rename_i cert hcert
    simp only [hcert, Option.some.injEq]
    split
    · rename_i bc hbc
      simp only [Outcome.rejectIf_eq_ok, Bool.not_eq_true]
      refine ⟨?_, ?_⟩
      · rintro h _ bc' rfl h'
        rw [hbc] at h'
        cases h'
        exact h
      · exact fun h => h cert bc rfl hbc
    · rename_i h
      simp only [true_iff]
      rintro _ bc rfl hbc
      exact absurd hbc (h bc)

@[simp] lemma safe_verifyCertAaguidExtension (certDer : Bytes) (aaguid : ArrayN UInt8 16) :
    (verifyCertAaguidExtension E certDer aaguid).Safe := by
  unfold verifyCertAaguidExtension
  split
  · simp
  · exact Outcome.safe_forM fun ext _ => by simp [aaguidMatches_eq]

@[simp] lemma safe_verifyCertIsNotCa (certDer : Bytes) : (verifyCertIsNotCa E certDer).Safe := by
  unfold verifyCertIsNotCa
  split
  · simp
  · split <;> simp

end Caden.X5c
