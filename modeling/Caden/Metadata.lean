import Caden.RelyingParty
import Caden.X5c

/-!
Verification and parsing of a FIDO metadata BLOB: a JWS whose payload lists the statuses of
authenticator models.
-/

namespace Caden.Metadata

open AuthData (Aaguid)
open CertBytes X5c

/-! ### Entries -/

/-- `u8::from_str_radix(&hex[i * 2..i * 2 + 2], 16)`. -/
def hexByte (hex : List Char) (i : ℕ) : Outcome Unit UInt8 := do
  let piece ← Text.slice hex (i * 2) (i * 2 + 2)
  .okOr (Text.u8FromStrRadix16 piece) ()

/-- `s.chars().filter(|c| *c != '-').collect()`. -/
def dropHyphens (s : String) : List Char := s.toList.filter (· ≠ '-')

/-- The 16 bytes of a hyphenated identifier. The length is counted in bytes and the pieces
are cut at byte offsets, so a piece may end inside a character. -/
def parseAaguid (s : String) : Outcome Unit Aaguid := do
  .rejectIf (Text.byteLen (dropHyphens s) ≠ 32) ()
  List.Vector.mOfFn fun i : Fin 16 => hexByte (dropHyphens s) i

/-- The status with a given name on the wire. -/
def statusFromWire (s : String) : Option AuthenticatorStatus :=
  match s with
  | "NOT_FIDO_CERTIFIED" => some .notFidoCertified
  | "FIDO_CERTIFIED" => some .fidoCertified
  | "USER_VERIFICATION_BYPASS" => some .userVerificationBypass
  | "ATTESTATION_KEY_COMPROMISE" => some .attestationKeyCompromise
  | "USER_KEY_REMOTE_COMPROMISE" => some .userKeyRemoteCompromise
  | "USER_KEY_PHYSICAL_COMPROMISE" => some .userKeyPhysicalCompromise
  | "UPDATE_AVAILABLE" => some .updateAvailable
  | "REVOKED" => some .revoked
  | "SELF_ASSERTION_SUBMITTED" => some .selfAssertionSubmitted
  | "FIDO_CERTIFIED_L1" => some .fidoCertifiedL1
  | "FIDO_CERTIFIED_L1plus" => some .fidoCertifiedL1Plus
  | "FIDO_CERTIFIED_L2" => some .fidoCertifiedL2
  | "FIDO_CERTIFIED_L2plus" => some .fidoCertifiedL2Plus
  | "FIDO_CERTIFIED_L3" => some .fidoCertifiedL3
  | "FIDO_CERTIFIED_L3plus" => some .fidoCertifiedL3Plus
  | _ => none

lemma statusFromWire_eq_some {s : String} {a : AuthenticatorStatus} :
    statusFromWire s = some a ↔ s = a.display := by
  refine ⟨?_, ?_⟩
  · intro h
    unfold statusFromWire at h
    split at h <;> cases h <;> rfl
  · rintro rfl
    cases a <;> rfl

/-- The recognised statuses of an entry. -/
def statusesOf (entry : MdsEntry) : List AuthenticatorStatus :=
  entry.statusReports.filterMap fun report => statusFromWire report.status

/-- One turn of the loop: an entry without an identifier that parses is skipped, any other
adds its statuses to those its model already has. -/
def mergeEntry (result : StatusMap) (entry : MdsEntry) : Res StatusMap :=
  match entry.aaguid with
  | none => .ok result
  | some s =>
    match parseAaguid s with
    | .ok aaguid => .ok (Fold.extend result aaguid (statusesOf entry))
    | .err () => .ok result
    | .panic => .panic

/-! ### The blob -/

variable (E : Env)

/-- The signed payload of a blob: structure, algorithm, chain, root, signature. -/
def verifyMdsBlob (blob : String) (trustRoot : Bytes) : Res MdsBlobPayload := do
  let jws ← splitJwsWithX5c E blob .mdsBlobMalformed
  .rejectIf (jws.alg ≠ "ES256")
    (.mdsBlobMalformed s!"unsupported JWS alg \"{jws.alg}\", expected \"ES256\"")
  verifyChainOrder E .mdsChainInvalid jws.certs
  let rootDer ← .expect jws.certs.getLast?
  .rejectIf (certSignedBy E rootDer trustRoot = false) .mdsRootUntrusted
  let leafPk ← extractEcP256PublicKeyFromCert (← Slice.index jws.certs 0)
  .mapErr (fun _ => .mdsSignatureInvalid)
    (Crypto.verifyEs256Jws E leafPk jws.signingInput jws.signature)
  .ofExcept (E.jsonMdsBlobPayload jws.payload) fun e =>
    .mdsBlobMalformed s!"failed to parse BLOB payload JSON: {e}"

def verifyAndParseMdsBlob (blob : String) (trustRoot : Bytes) : Res StatusMap := do
  let payload ← verifyMdsBlob E blob trustRoot
  payload.entries.foldlM mergeEntry ∅

/-! ### What is authentic -/

/-- The blob is a JWS with a chain to `trustRoot`, signed with the leaf's key over the bytes
that the payload was decoded from. -/
structure Authentic (E : Env) (blob : String) (trustRoot : Bytes) (payload : MdsBlobPayload) :
    Prop where
  signed : ∃ j leaf leafPk, IsJws E blob j ∧ j.alg = "ES256" ∧
    Chain E j.certs (fun r => SignedBy E r trustRoot) ∧ j.certs.head? = some leaf ∧
    extractEcP256PublicKeyFromCert leaf = .ok leafPk ∧
    E.ecdsaP256Sha256Fixed leafPk j.signingInput j.signature = true ∧
    E.jsonMdsBlobPayload j.payload = .ok payload

variable {E} {blob : String} {trustRoot : Bytes}

lemma verifyMdsBlob_eq_ok {payload : MdsBlobPayload} :
    verifyMdsBlob E blob trustRoot = .ok payload ↔ Authentic E blob trustRoot payload := by
  have hP : ∀ r, SignedBy E r trustRoot → (E.x509FromDer r).isSome := fun _ => SignedBy.parses
  simp only [verifyMdsBlob, Outcome.bind_eq_ok, splitJwsWithX5c_eq_ok, Outcome.rejectIf_eq_ok,
    exists_const, verifyChainOrder_eq_ok, Outcome.expect_eq_ok, Bool.not_eq_false,
    certSignedBy_iff, Slice.index_eq_ok, Outcome.mapErr_eq_ok, Crypto.verifyEs256Jws_eq_ok,
    Outcome.ofExcept_eq_ok, not_not]
  refine ⟨?_, ?_⟩
  · rintro ⟨j, hj, halg, hl, r, hr, hroot, leaf, hleaf, pk, hpk, hsig, hpay⟩
    exact ⟨j, leaf, pk, hj, halg, (chain_iff hP).mpr ⟨hl, r, hr, hroot⟩,
      by rwa [List.head?_eq_getElem?], hpk, hsig, hpay⟩
  · rintro ⟨j, leaf, pk, hj, halg, hchain, hleaf, hpk, hsig, hpay⟩
    obtain ⟨hl, r, hr, hroot⟩ := (chain_iff hP).mp hchain
    exact ⟨j, hj, halg, hl, r, hr, hroot, leaf, by rwa [← List.head?_eq_getElem?], pk, hpk, hsig,
      hpay⟩

lemma safe_verifyMdsBlob : (verifyMdsBlob E blob trustRoot).Safe := by
  refine Outcome.Safe.bind (by simp) fun jws hjws => ?_
  have hne : jws.certs ≠ [] := (splitJwsWithX5c_eq_ok.mp hjws).certs_ne_nil
  have hlast : jws.certs.getLast?.isSome := by simpa using hne
  have hpos : 0 < jws.certs.length := List.length_pos_iff.mpr hne
  simp [hlast, hpos]

/-! ### The loop over the entries -/

/-- The model an entry is about, if its identifier parses. -/
def aaguidOf (entry : MdsEntry) : Option Aaguid :=
  match entry.aaguid.map parseAaguid with
  | some (.ok aaguid) => some aaguid
  | _ => none

lemma aaguidOf_eq_some {entry : MdsEntry} {aaguid : Aaguid} :
    aaguidOf entry = some aaguid ↔
      ∃ s, entry.aaguid = some s ∧ parseAaguid s = .ok aaguid := by
  unfold aaguidOf
  rcases entry.aaguid with _ | s
  · simp
  · rcases h : parseAaguid s <;> simp [h]

/-- Reading the entry's identifier panics. -/
def Panics (entry : MdsEntry) : Prop := ∃ s, entry.aaguid = some s ∧ parseAaguid s = .panic

/-- The entries that are not skipped, by model. -/
def keyed (entries : List MdsEntry) : List (Aaguid × List AuthenticatorStatus) :=
  entries.filterMap fun e => (aaguidOf e).map (·, statusesOf e)

lemma mergeEntry_of_panics {m : StatusMap} {e : MdsEntry} (h : Panics e) :
    mergeEntry m e = .panic := by
  obtain ⟨s, hs, hp⟩ := h
  simp [mergeEntry, hs, hp]

lemma mergeEntry_eq {m : StatusMap} {e : MdsEntry} (h : ¬ Panics e) :
    mergeEntry m e = .ok ((keyed [e]).foldl (fun m e => Fold.extend m e.1 e.2) m) := by
  unfold mergeEntry
  split
  · rename_i hnone
    simp [keyed, aaguidOf, hnone]
  · rename_i s hs
    split
    · rename_i A hA
      simp [keyed, aaguidOf, hs, hA]
    · rename_i hA
      simp [keyed, aaguidOf, hs, hA]
    · rename_i hp
      exact absurd ⟨s, hs, hp⟩ h

lemma foldlM_mergeEntry (entries : List MdsEntry) (m : StatusMap) :
    ((∃ e ∈ entries, Panics e) ∧ entries.foldlM mergeEntry m = .panic) ∨
    ((∀ e ∈ entries, ¬ Panics e) ∧ entries.foldlM mergeEntry m =
      .ok ((keyed entries).foldl (fun m e => Fold.extend m e.1 e.2) m)) := by
  induction entries generalizing m with
  | nil => exact Or.inr ⟨by simp, rfl⟩
  | cons e entries ih =>
    rw [List.foldlM_cons]
    by_cases he : Panics e
    · exact Or.inl ⟨⟨e, by simp, he⟩, by rw [mergeEntry_of_panics he]; rfl⟩
    · rw [mergeEntry_eq he, Outcome.ok_bind]
      rcases ih ((keyed [e]).foldl (fun m e => Fold.extend m e.1 e.2) m) with
        ⟨⟨d, hd, hp⟩, h⟩ | ⟨hall, h⟩
      · exact Or.inl ⟨⟨d, by simp [hd], hp⟩, h⟩
      · refine Or.inr ⟨by simpa [he] using hall, ?_⟩
        have hcons : keyed (e :: entries) = keyed [e] ++ keyed entries := by
          rw [keyed, keyed, keyed, ← List.filterMap_append, List.singleton_append]
        rw [h, hcons, List.foldl_append]

/-- The statuses that all entries about one model list, in their order. -/
def statusesFor (entries : List MdsEntry) (aaguid : Aaguid) : List AuthenticatorStatus :=
  (entries.filter fun e => aaguidOf e = some aaguid).flatMap statusesOf

lemma valuesAt_keyed (entries : List MdsEntry) (aaguid : Aaguid) :
    Fold.valuesAt (keyed entries) aaguid = statusesFor entries aaguid := by
  induction entries with
  | nil => rfl
  | cons e entries ih =>
    unfold Fold.valuesAt keyed statusesFor at ih ⊢
    rw [List.filterMap_cons, List.filter_cons]
    rcases he : aaguidOf e with _ | A
    · simpa [he] using ih
    · by_cases hA : A = aaguid <;> simp [hA, ih]

lemma exists_mem_keyed {entries : List MdsEntry} {aaguid : Aaguid} :
    (∃ d ∈ keyed entries, d.1 = aaguid) ↔ ∃ e ∈ entries, aaguidOf e = some aaguid := by
  simp only [keyed, List.mem_filterMap, Option.map_eq_some_iff]
  refine ⟨?_, ?_⟩
  · rintro ⟨_, ⟨e, he, A, hA, rfl⟩, rfl⟩
    exact ⟨e, he, hA⟩
  · rintro ⟨e, he, hA⟩
    exact ⟨_, ⟨e, he, aaguid, hA, rfl⟩, rfl⟩

/-- **What a parsed blob says about one model.** -/
lemma lookup_of_parse {m : StatusMap} {entries : List MdsEntry}
    (h : entries.foldlM mergeEntry ∅ = .ok m) (aaguid : Aaguid) :
    m.lookup aaguid = if ∃ e ∈ entries, aaguidOf e = some aaguid
      then some (statusesFor entries aaguid) else none := by
  rcases foldlM_mergeEntry entries ∅ with ⟨-, hp⟩ | ⟨-, hok⟩
  · rw [hp] at h
    cases h
  · rw [hok] at h
    cases h
    have hmerge := Fold.lookup_mergeAll (keyed entries) aaguid
    rw [Fold.mergeAll] at hmerge
    rw [hmerge, valuesAt_keyed]
    exact if_congr exists_mem_keyed rfl rfl

end Caden.Metadata
