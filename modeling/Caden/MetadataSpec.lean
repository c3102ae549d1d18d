import Caden.Metadata
import Caden.Recorded
import Caden.RegistrationSpec

/-!
What a verified metadata BLOB says, and what follows for registration.
-/

namespace Caden.Metadata

open AuthData (Aaguid)
open Registration (Reports verifyRegistration)

variable {E : Env} {blob : String} {trustRoot : Bytes}

lemma mem_of_compromised {m : StatusMap} {entries : List MdsEntry} {aaguid : Aaguid}
    (h : entries.foldlM mergeEntry ∅ = .ok m)
    (hcomp : ∃ e ∈ entries, aaguidOf e = some aaguid ∧
      ∃ s ∈ statusesOf e, s.isCompromised = true) :
    ∃ statuses, m.lookup aaguid = some statuses ∧ ∃ s ∈ statuses, s.isCompromised = true := by
  obtain ⟨e, he, hA, s, hs, hc⟩ := hcomp
  refine ⟨statusesFor entries aaguid, ?_, s, ?_, hc⟩
  · rw [lookup_of_parse h, if_pos ⟨e, he, hA⟩]
  · exact List.mem_flatMap.mpr ⟨e, by simp [he, hA], hs⟩

/-- **A verified BLOB is authentic and loses no status.** The map has a model exactly when an
entry's identifier parses to it, with the statuses of all its entries in order; whatever
relying party is given the map, no response that names a model with a compromised status
registers. -/
theorem verified_blob_authentic {m : StatusMap}
    (h : verifyAndParseMdsBlob E blob trustRoot = .ok m) :
    ∃ payload, Authentic E blob trustRoot payload ∧
      (∀ aaguid, (m.lookup aaguid).isSome ↔
        ∃ e ∈ payload.entries, ∃ s, e.aaguid = some s ∧ parseAaguid s = .ok aaguid) ∧
      (∀ aaguid statuses, m.lookup aaguid = some statuses →
        statuses = statusesFor payload.entries aaguid) ∧
      ∀ aaguid, (∃ e ∈ payload.entries, (∃ s, e.aaguid = some s ∧ parseAaguid s = .ok aaguid) ∧
          ∃ status ∈ statusesOf e, status.isCompromised = true) →
        ∀ (entries : List (Aaguid × List AuthenticatorStatus)), Fold.Enumerates entries m →
          ∀ (rp : RelyingParty) (clock : Clock) (challenge : Challenge)
            (response : AuthenticatorAttestationResponse) (userId : Bytes)
            (sets : Arc → Finset Bytes), Reports E response aaguid →
            ((verifyRegistration E (rp.withAuthenticatorMetadata entries) clock challenge
              response userId).run (Heap.new sets)).1.isOk = false := by
  obtain ⟨payload, hp, hm⟩ := Outcome.bind_eq_ok.mp h
  refine ⟨payload, verifyMdsBlob_eq_ok.mp hp, ?_, ?_, ?_⟩
  · intro aaguid
    rw [lookup_of_parse hm]
    simp only [← aaguidOf_eq_some]
    split <;> simp_all
  · intro aaguid statuses hs
    rw [lookup_of_parse hm] at hs
    split at hs
    · exact (Option.some.inj hs).symm
    · cases hs
  · rintro aaguid ⟨e, he, hA, hcomp⟩ entries hentries rp clock challenge response userId sets hrep
    obtain ⟨statuses, hlookup, hc⟩ :=
      mem_of_compromised hm ⟨e, he, aaguidOf_eq_some.mpr hA, hcomp⟩
    refine Registration.not_ok_of_compromised (Heap.sound_new sets) ?_ hc hrep
    rw [← hlookup]
    exact hentries.lookup_collect aaguid

/-! ### Signed BLOBs -/

section
open Recorded X5c
open CertBytes (extractEcP256PublicKeyFromCert)

variable {b : SignedBlob}

lemma rootDer_ne_leafDer : rootDer ≠ leafDer := by decide

lemma SignedBlob.chain : Chain b.record.env [leafDer] fun r => SignedBy b.record.env r rootDer := by
  have hleaf : b.record.env.x509FromDer leafDer = some leafCert := by
    simp [SignedBlob.record, certificates]
  have hroot : b.record.env.x509FromDer rootDer = some rootCert := by
    have h : (rootDer == leafDer) = false := beq_eq_false_iff_ne.mpr rootDer_ne_leafDer
    simp [SignedBlob.record, certificates, List.lookup_cons, h]
  have hsigned : b.record.env.x509VerifySignature leafCert rootCert.publicKey = true := by
    simp [SignedBlob.record, certificates, rootCert]
  exact SignedBy.chain ⟨leafCert, rootCert, hleaf, hroot, hsigned⟩

lemma extract_leafDer : extractEcP256PublicKeyFromCert leafDer = .ok leafPoint := by
  decide +kernel

lemma isJws_env {r : Record} {headerJson payloadJson signature der : Bytes} {alg : String}
    (hurl : r.urlSafe = [(urlSafe headerJson, headerJson), (urlSafe payloadJson, payloadJson),
      (urlSafe signature, signature)])
    (hjose : r.joseHeader = [(headerJson, ⟨alg, [standard der]⟩)])
    (hstandard : r.standard = [(standard der, der)])
    (hpayload : urlSafe payloadJson ≠ urlSafe headerJson)
    (hsig : urlSafe signature ≠ urlSafe headerJson)
    (hsig' : urlSafe signature ≠ urlSafe payloadJson) :
    IsJws r.env (urlSafe headerJson ++ "." ++ urlSafe payloadJson ++ "." ++ urlSafe signature)
      ⟨alg, [der], Text.asBytes (urlSafe headerJson ++ "." ++ urlSafe payloadJson), payloadJson,
        signature⟩ := by
  refine ⟨urlSafe headerJson, urlSafe payloadJson, urlSafe signature, headerJson,
    ⟨alg, [standard der]⟩,
    ⟨rfl, dot_not_mem_urlSafe _, dot_not_mem_urlSafe _, dot_not_mem_urlSafe _⟩, ?_, ?_, ?_, ?_,
    List.cons_ne_nil _ _, .cons ?_ .nil, rfl, rfl⟩
  · simp [hurl]
  · simp [hurl, answer_tail hpayload]
  · simp [hurl, answer_tail hsig, answer_tail hsig']
  · simp [hjose]
  · simp [hstandard]

lemma SignedBlob.authentic (hpayload : urlSafe b.payloadJson ≠ urlSafe headerJson)
    (hsig : urlSafe b.signature ≠ urlSafe headerJson)
    (hsig' : urlSafe b.signature ≠ urlSafe b.payloadJson) :
    Authentic b.record.env b.text rootDer b.payload := by
  refine ⟨_, leafDer, leafPoint, isJws_env (r := b.record) rfl rfl rfl hpayload hsig hsig', rfl,
    SignedBlob.chain, rfl, extract_leafDer, ?_, ?_⟩
  · simp [SignedBlob.record, SignedBlob.signingInput]
  · simp [SignedBlob.record]

/-- A BLOB with two entries for one model, the second of which revokes it. -/
def revokingBlob : SignedBlob where
  payload := ⟨[⟨some "00010203-0405-0607-0809-0a0b0c0d0e0f", [⟨"FIDO_CERTIFIED"⟩]⟩,
    ⟨some "00010203-0405-0607-0809-0a0b0c0d0e0f", [⟨"REVOKED"⟩]⟩]⟩
  payloadJson := Text.asBytes "\x7b\"entries\":[" ++
    Text.asBytes "\x7b\"aaguid\":\"00010203-0405-0607-0809-0a0b0c0d0e0f\"," ++
    Text.asBytes "\"statusReports\":[\x7b\"status\":\"FIDO_CERTIFIED\"\x7d]\x7d," ++
    Text.asBytes "\x7b\"aaguid\":\"00010203-0405-0607-0809-0a0b0c0d0e0f\"," ++
    Text.asBytes "\"statusReports\":[\x7b\"status\":\"REVOKED\"\x7d]\x7d]\x7d"
  signature :=
    beBytes 38 0x664632b58706cec23b3b344bd45c5b0030f52086cd40ab0802480354de07d1c6ce029cad5b16 ++
    beBytes 26 0xfcfdd96ead863f45cd844d2ffb8e0bb734db46bd95a90922b48c

lemma revokingBlob_authentic :
    Authentic revokingBlob.record.env revokingBlob.text rootDer revokingBlob.payload :=
  SignedBlob.authentic (urlSafe_ne (by decide)) (urlSafe_ne (by decide))
    (urlSafe_ne (by decide))

lemma revokingBlob_isOk :
    (verifyAndParseMdsBlob revokingBlob.record.env revokingBlob.text rootDer).isOk = true := by
  rw [verifyAndParseMdsBlob, verifyMdsBlob_eq_ok.mpr revokingBlob_authentic, Outcome.ok_bind]
  decide

lemma parseAaguid_revoked :
    parseAaguid "00010203-0405-0607-0809-0a0b0c0d0e0f" = .ok Recorded.aaguid := by
  decide

/-- No response that names the revoked model registers with the map of the BLOB. -/
theorem revokingBlob_keeps_out : ∃ m,
    verifyAndParseMdsBlob revokingBlob.record.env revokingBlob.text rootDer = .ok m ∧
      ∀ entries, Fold.Enumerates entries m → ∀ response,
        Reports revokingBlob.record.env response Recorded.aaguid →
        ((verifyRegistration revokingBlob.record.env (rp.withAuthenticatorMetadata entries)
          clock createChallenge response []).run (Heap.new fun _ => ∅)).1.isOk = false := by
  obtain ⟨m, hm⟩ := Outcome.isOk_iff.mp revokingBlob_isOk
  obtain ⟨payload, hp, -, -, hout⟩ := verified_blob_authentic hm
  obtain rfl : payload = revokingBlob.payload := Outcome.ok.inj
    ((verifyMdsBlob_eq_ok.mpr hp).symm.trans (verifyMdsBlob_eq_ok.mpr revokingBlob_authentic))
  have hrevoked : statusFromWire "REVOKED" = some .revoked := rfl
  refine ⟨m, hm, fun entries hentries response hrep => ?_⟩
  exact hout Recorded.aaguid
    ⟨_, List.mem_cons_of_mem _ List.mem_cons_self, ⟨_, rfl, parseAaguid_revoked⟩, .revoked,
      by simp [statusesOf, hrevoked], rfl⟩
    entries hentries rp clock createChallenge response [] (fun _ => ∅) hrep

end

end Caden.Metadata
