import Caden.DemoKeys
import Caden.Grammar
import Caden.Recorded
import Caden.Serializable
import Caden.SignCount

/-!
The life of a credential of the simulated authenticator.

What the authenticator writes is accepted whenever the relying party's policy admits it, and the
outcome of every later login is decided by the counts alone.
-/

namespace Caden.Demo

open Registration (Trusted)

section
variable {E : Env} {W : Writers} {key : PublicKey} {credId challenge : Bytes}
  {rpId origin type_ : String} {count : UInt32} {aaguid : AuthData.Aaguid}

/-! ### Reading what was written -/

/-- The client data is decoded to the texts that were written, and its challenge to the bytes
that were encoded. -/
structure ReadsClientData (E : Env) (W : Writers) (type_ : String) (challenge : Bytes)
    (origin : String) : Prop where
  json : E.jsonClientData (makeClientDataJsonBytes W type_ challenge origin) =
    .ok ⟨type_, W.urlSafeNoPadEncode challenge, origin, some false⟩
  base64 : E.urlSafeNoPadDecode (W.urlSafeNoPadEncode challenge) = .ok challenge

lemma makeClientDataJsonBytes_ne_nil : makeClientDataJsonBytes W type_ challenge origin ≠ [] :=
  Text.asBytes_ne_nil (by simp)

lemma binds_written {origins : List String} {rejectCrossOrigin : Bool}
    (h : ReadsClientData E W type_ challenge origin) :
    ClientData.Binds E type_ challenge origins rejectCrossOrigin
      (makeClientDataJsonBytes W type_ challenge origin) ↔ origin ∈ origins := by
  refine ⟨?_, fun horigin => ⟨makeClientDataJsonBytes_ne_nil, _, h.json, rfl, h.base64, horigin,
    by simp⟩⟩
  rintro ⟨-, rcd, hrcd, -, -, horigin, -⟩
  cases h.json.symm.trans hrcd
  exact horigin

/-- The four bytes of a count, and the two of the length of an id. -/
def countBytes (count : UInt32) : ArrayN UInt8 4 := ⟨beBytes 4 count.toNat, beBytes_length _ _⟩
def lengthBytes (credId : Bytes) : ArrayN UInt8 2 := ⟨beBytes 2 credId.length, beBytes_length _ _⟩

lemma u32FromBeBytes_countBytes (count : UInt32) : u32FromBeBytes (countBytes count) = count := by
  rw [← UInt32.toNat_inj, toNat_u32FromBeBytes]
  exact beNat_beBytes _ _ count.toNat_lt

/-- What written authenticator data is parsed to: the user is present, and nothing else is set
but what announces the credential. -/
def writtenData (E : Env) (rpId : String) (count : UInt32)
    (c : Option AuthData.AttestedCredentialData) (raw : Bytes) : AuthData.AuthenticatorData where
  rpIdHash := Crypto.sha256Of E (Text.asBytes rpId)
  flags := ⟨true, false, false, false, c.isSome, false⟩
  signCount := count
  attestedCredentialData := c
  extensions := none
  raw

lemma parse_written {flags : UInt8} {data rest : Bytes}
    {c : Option AuthData.AttestedCredentialData} {n : ℕ}
    (hdata : data = (Crypto.sha256Of E (Text.asBytes rpId)).toList ++ [flags] ++
      (countBytes count).toList ++ rest)
    (hflags : AuthData.flagsOf flags = ⟨true, false, false, false, c.isSome, false⟩)
    (hpart : ∀ cd, c = some cd → AuthData.parseAttestedCredentialData E rest = .ok (cd, n)) :
    AuthData.parseAuthenticatorData E data = .ok (writtenData E rpId count c data) := by
  obtain ⟨hlen, hhash, hflag, hcount, hrest⟩ := Grammar.header_iff.mp hdata
  refine AuthData.parseAuthenticatorData_eq_ok.mpr ⟨hlen, hhash, ⟨flags, hflag, hflags⟩,
    by simp [writtenData], ⟨countBytes count, hcount, u32FromBeBytes_countBytes count⟩,
    ⟨if c.isSome then n else 0, ?_, rfl⟩, rfl⟩
  rcases c with _ | cd
  · rfl
  · have hset : (writtenData E rpId count (some cd) data).flags.attestedCredentialData = true := rfl
    rw [AuthData.attestedPart, if_pos hset, Slice.sliceFrom, if_pos hlen, hrest, Outcome.ok_bind,
      hpart cd rfl]
    rfl

lemma parseAttestedCredentialData_written {coseKey : Bytes}
    (hid : 1 ≤ credId.length ∧ credId.length ≤ 1023) (hkey : Enrollable key)
    (hitem : Grammar.IsItem E (.map (coseEntries key)) coseKey) :
    AuthData.parseAttestedCredentialData E
      (aaguid.toList ++ beBytes 2 credId.length ++ credId ++ coseKey) =
        .ok (⟨aaguid, credId, decodedKey key⟩, 18 + credId.length + coseKey.length) := by
  have hlength : (u16FromBeBytes (lengthBytes credId)).toNat = credId.length := by
    rw [toNat_u16FromBeBytes]
    exact beNat_beBytes _ _ (by omega)
  have hdecoded : AuthData.parseCoseKey E coseKey = .ok (decodedKey key) := by
    rw [CoseKeys.parseCoseKey_eq hitem.2, coseKeyOfMap_coseEntries hkey]
  refine AuthData.parseAttestedCredentialData_eq_ok.mpr ⟨lengthBytes credId, coseKey, [], ?_,
    hlength.symm, List.length_pos_iff.mp hid.1, hid.2,
    ⟨?_, ⟨.map (coseEntries key), ?_⟩, hdecoded⟩, rfl⟩
  · rw [AuthData.credentialHeader, List.append_nil, ← List.append_assoc]
    rfl
  · rw [List.append_nil]
    exact hitem.1
  · rw [List.append_nil]
    exact hitem.2

lemma parse_created {coseKey data : Bytes} (hid : 1 ≤ credId.length ∧ credId.length ≤ 1023)
    (hkey : Enrollable key) (hitem : Grammar.IsItem E (.map (coseEntries key)) coseKey)
    (hdata : data = (Crypto.sha256Of E (Text.asBytes rpId)).toList ++ [0x41] ++
      (countBytes count).toList ++
      (aaguid.toList ++ beBytes 2 credId.length ++ credId ++ coseKey)) :
    AuthData.parseAuthenticatorData E data =
      .ok (writtenData E rpId count (some ⟨aaguid, credId, decodedKey key⟩) data) := by
  have hflags : AuthData.flagsOf 0x41 = ⟨true, false, false, false, true, false⟩ := by decide
  refine parse_written (n := 18 + credId.length + coseKey.length) hdata hflags ?_
  rintro _ ⟨⟩
  exact parseAttestedCredentialData_written hid hkey hitem

lemma parse_present {data : Bytes} (hdata : makeAuthenticatorData E rpId 0x01 count none = data) :
    AuthData.parseAuthenticatorData E data = .ok (writtenData E rpId count none data) :=
  parse_written (n := 0) hdata.symm (by decide) nofun

/-! ### Registration -/

/-- The entries of the attestation object. -/
def objectEntries (authData : Bytes) : List (Value × Value) :=
  [(.text "fmt", .text "none"), (.text "attStmt", .map []), (.text "authData", .bytes authData)]

lemma isAttestationObject_written {authData object : Bytes} {n : ℕ}
    (h : E.cborFromReader object = .ok (.map (objectEntries authData), n)) :
    Registration.IsAttestationObject E object "none" authData (.map []) :=
  ⟨_, n, h, rfl, rfl, rfl⟩

/-- The authenticator data of a registration. -/
def createData (E : Env) (W : Writers) (rpId : String) (key : PublicKey) (credId : Bytes)
    (count : UInt32) : Bytes :=
  makeAuthenticatorData E rpId 0x41 count
    (some (credId, W.cborIntoWriter (.map (coseEntries key))))

/-- The COSE key and the attestation object are decoded to what was encoded, and so is the
client data. -/
structure ReadsRegistration (E : Env) (W : Writers) (rpId : String) (key : PublicKey)
    (credId : Bytes) (count : UInt32) (challenge : Bytes) (origin : String) : Prop where
  coseKey : Grammar.IsItem E (.map (coseEntries key)) (W.cborIntoWriter (.map (coseEntries key)))
  object : Grammar.IsItem E (.map (objectEntries (createData E W rpId key credId count)))
    (makeAttestationObject W (createData E W rpId key credId count))
  clientData : ReadsClientData E W "webauthn.create" challenge origin

/-- The policy of the relying party admits what the authenticator writes. -/
structure Admits (rp : RelyingParty) (origin : String) (key : PublicKey) : Prop where
  origin : origin ∈ rp.allowedOrigins
  backup : rp.requireBackupEligible = false
  trusted : Trusted rp.authenticatorMetadata noAaguid
  algorithm : rp.allowedAlgorithms = [] ∨ key.algorithm ∈ rp.allowedAlgorithms

section
variable {ε : Type} {rp : RelyingParty} {userId : Bytes} {heap : Heap} {clock : Clock}
  {challenge : Challenge} {response : AuthenticatorAttestationResponse} {r : RegistrationResult}

/-- What registration stores. -/
def registeredCredential (rp : RelyingParty) (key : PublicKey) (credId : Bytes) (count : UInt32)
    (userId : Bytes) (createdAt : SystemTime) : Credential where
  id := credId
  publicKey := key
  signCount := count
  userId
  rpId := rp.id
  createdAt
  backupEligible := false
  backupState := false

/-- **A written registration is accepted exactly when the policy admits it**, for a challenge
that is unexpired and unused, and what is stored is what was written. -/
lemma registration_written (hs : heap.Sound) (hid : 1 ≤ credId.length ∧ credId.length ≤ 1023)
    (hkey : Enrollable key) (hresponse : (register E W rp.id key credId count challenge.bytes
      origin : Outcome ε _) = .ok response)
    (hread : ReadsRegistration E W rp.id key credId count challenge.bytes origin) :
    ((Registration.verifyRegistration E rp clock challenge response userId).run heap).1 = .ok r ↔
    challenge.Unexpired (clock 0) ∧ Unused rp.usedChallenges challenge.bytes heap ∧
      Admits rp origin key ∧
      r = ⟨registeredCredential rp key credId count userId (clock 1), .none, false, false,
        none⟩ := by
  rw [register, encodeKey_eq hkey, Outcome.ok_bind, Outcome.pure_eq, Outcome.ok.injEq] at hresponse
  subst hresponse
  have hobj := isAttestationObject_written hread.object.2
  have hparse := parse_created hid hkey hread.coseKey
    (rfl : _ = createData E W rp.id key credId count)
  rw [Registration.verifyRegistration_eq_ok hs]
  refine ⟨?_, ?_⟩
  · rintro ⟨⟨fmt, b, stmt, ad, cd, t⟩, h, rfl⟩
    obtain ⟨rfl, rfl, rfl⟩ := h.object.unique hobj
    obtain rfl : ad = writtenData E rp.id count (some ⟨noAaguid, credId, decodedKey key⟩)
        (createData E W rp.id key credId count) := Outcome.ok.inj (h.parses.symm.trans hparse)
    obtain rfl : cd = ⟨noAaguid, credId, decodedKey key⟩ := Option.some.inj h.attested.symm
    obtain rfl : t = .none := Outcome.ok.inj h.statement.symm
    have halg := h.algorithm
    rw [typedKey_decodedKey] at halg
    refine ⟨h.unexpired, h.unused,
      ⟨(binds_written hread.clientData).mp h.binds, ?_, h.trusted, halg⟩, ?_⟩
    · simpa [writtenData] using h.backupRequired
    · rw [Registration.Evidence.result, typedKey_decodedKey]
      rfl
  · rintro ⟨hexp, hunused, hadmits, rfl⟩
    refine ⟨⟨"none", createData E W rp.id key credId count, .map [],
      writtenData E rp.id count (some ⟨noAaguid, credId, decodedKey key⟩)
        (createData E W rp.id key credId count), ⟨noAaguid, credId, decodedKey key⟩, .none⟩, ?_, ?_⟩
    · exact {
        unexpired := hexp
        utf8 := by simp [makeClientDataJsonBytes, Text.fromUtf8_asBytes]
        binds := (binds_written hread.clientData).mpr hadmits.origin
        unused := hunused
        object := hobj
        parses := hparse
        rpIdHash := rfl
        userPresent := rfl
        backupAllowed := by simp [writtenData]
        backupRequired := by simp [hadmits.backup]
        attested := rfl
        trusted := hadmits.trusted
        algorithm := by
          rw [typedKey_decodedKey]
          exact hadmits.algorithm
        statement := rfl }
    · rw [Registration.Evidence.result, typedKey_decodedKey]
      rfl

end

/-! ### Logins -/

/-- A login of the simulated authenticator. -/
structure Attempt where
  clock : Clock
  challenge : Challenge
  count : UInt32
  response : AuthenticatorAssertionResponse

/-- The attempt at a relying party. -/
def Attempt.login (rp : RelyingParty) (a : Attempt) : SignCount.Login :=
  ⟨rp, a.clock, a.challenge, a.response⟩

/-- The response is what the authenticator writes for the challenge while that is valid, with a
signature that verifies under its key. -/
structure Attempt.Honest (E : Env) (W : Writers) (rp : RelyingParty) (key : PublicKey)
    (credId : Bytes) (origin : String) (a : Attempt) : Prop where
  unexpired : a.challenge.Unexpired (a.clock 0)
  written : ∃ what sign, makeAuthResponse E W what sign a.challenge.bytes rp.id origin a.count
    credId = .ok a.response ∧ ∀ m s, sign m = .ok s → key.Verifies E m s
  reads : ReadsClientData E W "webauthn.get" a.challenge.bytes origin

instance (stored received : UInt32) : Decidable (Authentication.Counts stored received) :=
  inferInstanceAs (Decidable (_ ∨ _))

/-- What the counts decide. -/
def decision (stored : Credential) (count : UInt32) : Res AuthenticationResult :=
  if Authentication.Counts stored.signCount count then
    .ok ⟨stored.id, count, true, false, false, false, none⟩
  else .err (.signCountInvalid stored.signCount count)

/-- What is stored after a count. -/
def next (stored : Credential) (count : UInt32) : Credential :=
  if Authentication.Counts stored.signCount count then { stored with signCount := count }
  else stored

/-- What the counts decide, one after the other. -/
def decisions (stored : Credential) : List UInt32 → List (Res AuthenticationResult)
  | [] => []
  | count :: counts => decision stored count :: decisions (next stored count) counts

/-- What the logins end in, one after the other. -/
def results (E : Env) (s : SignCount.State) :
    List SignCount.Login → List (Res AuthenticationResult)
  | [] => []
  | l :: logins => l.result E s :: results E (l.step E s) logins

section
variable {rp : RelyingParty} {stored : Credential} {heap : Heap} {a : Attempt}

lemma Attempt.Honest.response_eq (h : a.Honest E W rp key credId origin) :
    a.response.clientDataJson = makeClientDataJsonBytes W "webauthn.get" a.challenge.bytes origin ∧
    makeAuthenticatorData E rp.id 0x01 a.count none = a.response.authenticatorData ∧
    key.Verifies E (a.response.authenticatorData ++
      (Crypto.sha256Of E a.response.clientDataJson).toList) a.response.signature := by
  obtain ⟨what, sign, hresponse, hsign⟩ := h.written
  simp only [makeAuthResponse, Outcome.bind_eq_ok, Outcome.ofExcept_eq_ok, Outcome.pure_eq,
    Outcome.ok.injEq] at hresponse
  obtain ⟨sig, hsig, hresponse⟩ := hresponse
  rw [← hresponse]
  exact ⟨rfl, rfl, hsign _ _ hsig⟩

lemma checkSignCount_eq (stored received : UInt32) :
    Authentication.checkSignCount stored received =
      if Authentication.Counts stored received then .ok () else
        .err (.signCountInvalid stored received) := by
  split
  · exact Authentication.checkSignCount_eq_ok.mpr ‹_›
  · rename_i hcounts
    rw [← Authentication.checkSignCount_eq_ok (u := ()), Authentication.checkSignCount,
      Outcome.rejectIf_eq_ok, not_not] at hcounts
    exact if_pos hcounts

/-- **A written response is decided by the counts alone**, where the policy admits the
authenticator and the challenge is new. -/
lemma result_written (hs : heap.Sound) (hadmits : Admits rp origin key)
    (huv : rp.requireUserVerification = false) (hkey : stored.publicKey = key)
    (hid : stored.rpId = rp.id) (hbackup : stored.backupEligible = false)
    (hunused : Unused rp.usedChallenges a.challenge.bytes heap)
    (h : a.Honest E W rp key credId origin) :
    (a.login rp).result E ⟨stored, heap⟩ = decision stored a.count := by
  obtain ⟨hjson, hdata, hsigned⟩ := h.response_eq
  have hbinds : ClientData.Binds E "webauthn.get" a.challenge.bytes rp.allowedOrigins
      rp.rejectCrossOrigin (makeClientDataJsonBytes W "webauthn.get" a.challenge.bytes origin) :=
    (binds_written h.reads).mpr hadmits.origin
  rw [← hjson] at hbinds
  obtain ⟨p, hp⟩ := Authentication.exists_checkClientData.mpr ⟨h.unexpired, hbinds⟩
  have hraw := Authentication.checkClientData_rawJson hp
  have hlock := (useChallenge_eq_ok (u := ()) hs).mpr hunused
  have hchecks : Authentication.checkAuthData E rp stored
      (writtenData E rp.id a.count none a.response.authenticatorData) = .ok () := by
    rw [Authentication.checkAuthData_eq_ok, hid, hbackup, huv, hadmits.backup]
    simp [writtenData]
  have hsignature := (Authentication.verifySignature_eq_ok (u := ())).mpr hsigned
  rw [← hkey] at hsignature
  have hassertion : Authentication.verifyAssertion E rp stored a.response p =
      decision stored a.count := by
    have hraw' : (writtenData E rp.id a.count none a.response.authenticatorData).raw =
        a.response.authenticatorData := rfl
    simp only [Authentication.verifyAssertion, Crypto.sha256_eq, Outcome.ok_bind,
      parse_present hdata, hchecks, hraw, hraw', hsignature]
    rw [show (writtenData E rp.id a.count none a.response.authenticatorData).signCount = a.count
      from rfl, checkSignCount_eq, decision]
    split <;> rfl
  rw [← hassertion]
  exact Authentication.run_of_passes hp hlock

lemma decisions_isOk {last : UInt32} {counts : List UInt32} (hlast : stored.signCount = last)
    (h : (last :: counts).IsChain (· < ·)) : ∀ r ∈ decisions stored counts, r.isOk = true := by
  induction counts generalizing stored last with
  | nil => simp [decisions]
  | cons count counts ih =>
    rw [List.isChain_cons_cons] at h
    have hcounts : Authentication.Counts stored.signCount count := Or.inr (hlast ▸ h.1)
    rw [decisions, decision, if_pos hcounts, next, if_pos hcounts]
    rintro r (_ | ⟨_, hr⟩)
    · rfl
    · exact ih rfl h.2 r hr

lemma step_written (h : (a.login rp).result E ⟨stored, heap⟩ = decision stored a.count) :
    (a.login rp).step E ⟨stored, heap⟩ = ⟨next stored a.count, (((Ceremony.Call.authenticate rp
      stored a.clock a.challenge a.response).run E).run heap).2⟩ := by
  have hheap : (((a.login rp).verify E stored).run heap).2 = (((Ceremony.Call.authenticate rp
      stored a.clock a.challenge a.response).run E).run heap).2 :=
    Stateful.run_bind_pure_snd.symm
  rw [SignCount.Login.step, h, hheap, decision, next]
  by_cases hcounts : Authentication.Counts stored.signCount a.count
  · rw [if_pos hcounts, if_pos hcounts]
    rfl
  · rw [if_neg hcounts, if_neg hcounts]

/-- **The counts decide every login**, in any order of counts, for challenges that are new and
distinct. -/
lemma results_written {attempts : List Attempt} (hs : heap.Sound) (hadmits : Admits rp origin key)
    (huv : rp.requireUserVerification = false) (hkey : stored.publicKey = key)
    (hid : stored.rpId = rp.id) (hbackup : stored.backupEligible = false)
    (hhonest : ∀ a ∈ attempts, a.Honest E W rp key credId origin)
    (hdistinct : rp.usedChallenges.isSome → (attempts.map (·.challenge.bytes)).Nodup)
    (hunused : ∀ a ∈ attempts, Unused rp.usedChallenges a.challenge.bytes heap) :
    results E ⟨stored, heap⟩ (attempts.map (·.login rp)) =
      decisions stored (attempts.map (·.count)) := by
  induction attempts generalizing stored heap with
  | nil => rfl
  | cons a attempts ih =>
    obtain ⟨ha, hrest⟩ := List.forall_mem_cons.mp hhonest
    obtain ⟨hnew, hnewRest⟩ := List.forall_mem_cons.mp hunused
    have hresult := result_written hs hadmits huv hkey hid hbackup hnew ha
    rw [List.map_cons, List.map_cons, results, decisions, hresult, step_written hresult]
    refine congrArg _ (ih ?_ ?_ ?_ ?_ hrest ?_ ?_)
    · exact Ceremony.Call.sound_run _ hs
    · unfold next; split <;> exact hkey
    · unfold next; split <;> exact hid
    · unfold next; split <;> exact hbackup
    · exact fun hused => (List.nodup_cons.mp (hdistinct hused)).2
    · refine fun b hb => (SingleUse.unused_after hs fun hused _ heq => ?_).mpr (hnewRest b hb)
      exact (List.nodup_cons.mp (hdistinct hused)).1 (List.mem_map.mpr ⟨b, hb, heq⟩)

end

end

/-- **A credential of the authenticator lives as its counts say.** Where the policy admits the
authenticator, its registration is accepted and stores what was written. From then on, with new
and distinct challenges, each login is accepted when its count is ahead of the last accepted one,
or both are zero, and it is rejected with the two counts in all other cases; in particular all
logins with increasing counts are accepted. -/
theorem honest_life (E : Env) (W : Writers) (rp : RelyingParty) (key : PublicKey)
    (credId : Bytes) (count : UInt32) (origin : String) (userId : Bytes) (clock : Clock)
    (challenge : Challenge) (response : AuthenticatorAttestationResponse)
    (sets : Arc → Finset Bytes) (attempts : List Attempt)
    (hid : 1 ≤ credId.length ∧ credId.length ≤ 1023) (hkey : Enrollable key)
    (hadmits : Admits rp origin key) (huv : rp.requireUserVerification = false)
    (hresponse : (register E W rp.id key credId count challenge.bytes origin : Res _) =
      .ok response)
    (hread : ReadsRegistration E W rp.id key credId count challenge.bytes origin)
    (hexp : challenge.Unexpired (clock 0))
    (hhonest : ∀ a ∈ attempts, a.Honest E W rp key credId origin)
    (hdistinct : rp.usedChallenges.isSome →
      (challenge.bytes :: attempts.map (·.challenge.bytes)).Nodup)
    (hunused : ∀ bytes ∈ challenge.bytes :: attempts.map (·.challenge.bytes),
      Unused rp.usedChallenges bytes (Heap.new sets)) :
    ∃ stored heap, stored = registeredCredential rp key credId count userId (clock 1) ∧
      (Registration.verifyRegistration E rp clock challenge response userId).run (Heap.new sets) =
        (.ok ⟨stored, .none, false, false, none⟩, heap) ∧
      results E ⟨stored, heap⟩ (attempts.map (·.login rp)) =
        decisions stored (attempts.map (·.count)) ∧
      ((count :: attempts.map (·.count)).IsChain (· < ·) →
        ∀ r ∈ results E ⟨stored, heap⟩ (attempts.map (·.login rp)), r.isOk = true) := by
  have hs := Heap.sound_new sets
  obtain ⟨hfirst, hlater⟩ := List.forall_mem_cons.mp hunused
  have hok : ((Registration.verifyRegistration E rp clock challenge response userId).run
      (Heap.new sets)).1 = .ok ⟨registeredCredential rp key credId count userId (clock 1), .none,
        false, false, none⟩ :=
    (registration_written hs hid hkey hresponse hread).mpr ⟨hexp, hfirst, hadmits, rfl⟩
  set c : Ceremony.Call := .register rp clock challenge response userId with hc
  have hheap : ((c.run E).run (Heap.new sets)).2 =
      ((Registration.verifyRegistration E rp clock challenge response userId).run
        (Heap.new sets)).2 := Stateful.run_bind_pure_snd
  have hsound := c.sound_run (E := E) hs
  have hunused' : ∀ a ∈ attempts,
      Unused rp.usedChallenges a.challenge.bytes ((c.run E).run (Heap.new sets)).2 := by
    intro a ha
    have hmem : a.challenge.bytes ∈ attempts.map (·.challenge.bytes) := List.mem_map_of_mem ha
    refine (SingleUse.unused_after hs fun hused _ heq => ?_).mpr (hlater _ hmem)
    exact (List.nodup_cons.mp (hdistinct hused)).1 (List.mem_map.mpr ⟨a, ha, heq⟩)
  obtain ⟨stored, hstored⟩ : ∃ stored, stored =
    registeredCredential rp key credId count userId (clock 1) := ⟨_, rfl⟩
  have hresults := results_written hsound hadmits huv (congrArg _ hstored) (congrArg _ hstored)
    (congrArg _ hstored) hhonest (fun hused => (List.nodup_cons.mp (hdistinct hused)).2) hunused'
  rw [hheap] at hresults
  rw [← hstored] at hok
  refine ⟨stored, _, hstored, Prod.ext hok rfl, hresults, fun hchain => ?_⟩
  rw [hresults]
  exact decisions_isOk (congrArg _ hstored) hchain

/-! ### A registration and two logins with one count -/

section
open Recorded

/-- The data of the registration, and the attestation object around it. -/
def createBytes : Bytes :=
  rpIdHash.toList ++ [0x41] ++ [0, 0, 0, 0] ++
    (noAaguid.toList ++ [0, 16] ++ credentialId ++ coseKey)

def objectBytes : Bytes :=
  beBytes 30 0xa363666d74646e6f6e656761747453746d74a06861757468446174615894 ++ createBytes

/-- Encoders that write the recorded items. -/
def writers : Writers where
  cborIntoWriter
    | .map ((.text _, _) :: _) => objectBytes
    | _ => coseKey
  urlSafeNoPadEncode := urlSafe

def createJson' : Bytes :=
  makeClientDataJsonBytes writers "webauthn.create" createChallenge.bytes origin

def loginJson (challenge : Challenge) : Bytes :=
  makeClientDataJsonBytes writers "webauthn.get" challenge.bytes origin

/-- The data of a login with the count 1. -/
def loginBytes : Bytes := rpIdHash.toList ++ [0x01] ++ [0, 0, 0, 1] ++ []

def attempt (challenge : Challenge) (signature : Bytes) : Attempt :=
  ⟨clock, challenge, 1, ⟨loginJson challenge, loginBytes, signature, none, credentialId⟩⟩

def firstSignature : Bytes :=
  beBytes 35 0x30440220242c12d50736ac7dd4358d1fea27fd2df8efdc490f44586a5ace63e715b00d ++
  beBytes 35 0x71022033b2f690fb51fa7dfbad26f7e25c156e37380bc60220455558ca1daa8f2e89f5

def secondSignature : Bytes :=
  beBytes 35 0x304402206c93ed4f395346b007117876324a5c90dcc38c5cf9d36cf511a2c68c04e376 ++
  beBytes 35 0x5c022008245a3c4f0cd694dbab69053728ce6829a6880266b90bc2f6bbb8c5ec5f49d7

/-- The text of a challenge. -/
def textOf (challenge : Challenge) : String := writers.urlSafeNoPadEncode challenge.bytes

/-- The registration and the logins. -/
def simulated : Record where
  sha256 := [(Text.asBytes rpId, rpIdHash), (loginJson firstChallenge, firstHash),
    (loginJson secondChallenge, secondHash), (createJson', createHash)]
  ecdsaAsn1 := [
    (uncompressed keyX keyY, loginBytes ++ firstHash.toList, firstSignature),
    (uncompressed keyX keyY, loginBytes ++ secondHash.toList, secondSignature)]
  cbor := [(coseKey, .map (coseEntries credential.publicKey)),
    (objectBytes, .map (objectEntries createBytes))]
  clientData := [
    (createJson', ⟨"webauthn.create", textOf createChallenge, origin, some false⟩),
    (loginJson firstChallenge, ⟨"webauthn.get", textOf firstChallenge, origin, some false⟩),
    (loginJson secondChallenge, ⟨"webauthn.get", textOf secondChallenge, origin, some false⟩)]
  urlSafe := [(textOf createChallenge, createChallenge.bytes),
    (textOf firstChallenge, firstChallenge.bytes), (textOf secondChallenge, secondChallenge.bytes),
    (urlSafe [0x75], [0x75]), (urlSafe credentialId, credentialId)]

lemma sha256_rpId : Crypto.sha256Of simulated.env (Text.asBytes rpId) = rpIdHash :=
  Record.env_sha256Of (answer_head _ _ _)

lemma createData_simulated :
    createData simulated.env writers rpId credential.publicKey credentialId 0 = createBytes := by
  rw [createData, makeAuthenticatorData, sha256_rpId]
  rfl

lemma loginData_simulated : makeAuthenticatorData simulated.env rpId 0x01 1 none = loginBytes := by
  rw [makeAuthenticatorData, sha256_rpId]
  rfl

lemma enrollable_key : Enrollable credential.publicKey := ⟨beBytes_length _ _, beBytes_length _ _⟩

lemma register_simulated : (register simulated.env writers rpId credential.publicKey credentialId 0
    createChallenge.bytes origin : Res _) = .ok ⟨createJson', objectBytes⟩ := by
  rw [register, encodeKey_eq enrollable_key]
  rfl

lemma isItem_coseKey :
    Grammar.IsItem simulated.env (.map (coseEntries credential.publicKey)) coseKey :=
  ⟨by decide, Record.env_cborFromReader (answer_head _ _ _)⟩

lemma isItem_object : Grammar.IsItem simulated.env (.map (objectEntries createBytes))
    objectBytes := by
  have hne : objectBytes ≠ coseKey := by decide
  exact ⟨by decide, Record.env_cborFromReader ((answer_tail hne _ _).trans (answer_head _ _ _))⟩

set_option maxRecDepth 10000 in
lemma clientData_ne : loginJson firstChallenge ≠ createJson' ∧
    loginJson secondChallenge ≠ createJson' ∧
    loginJson secondChallenge ≠ loginJson firstChallenge ∧
    loginJson firstChallenge ≠ Text.asBytes rpId ∧
    loginJson secondChallenge ≠ Text.asBytes rpId := by decide

lemma text_ne : textOf firstChallenge ≠ textOf createChallenge ∧
    textOf secondChallenge ≠ textOf createChallenge ∧
    textOf secondChallenge ≠ textOf firstChallenge := by decide

lemma reads_create : ReadsRegistration simulated.env writers rpId credential.publicKey credentialId
    0 createChallenge.bytes origin where
  coseKey := isItem_coseKey
  object := by
    rw [createData_simulated]
    exact isItem_object
  clientData := {
    json := by
      rw [Record.env_jsonClientData]
      exact answer_head createJson' _ _
    base64 := by
      rw [Record.env_urlSafeNoPadDecode]
      exact answer_head (textOf createChallenge) _ _ }

lemma reads_first : ReadsClientData simulated.env writers "webauthn.get" firstChallenge.bytes
    origin where
  json := by
    rw [Record.env_jsonClientData]
    exact (answer_tail clientData_ne.1 _ _).trans (answer_head (loginJson firstChallenge) _ _)
  base64 := by
    rw [Record.env_urlSafeNoPadDecode]
    exact (answer_tail text_ne.1 _ _).trans (answer_head (textOf firstChallenge) _ _)

lemma reads_second : ReadsClientData simulated.env writers "webauthn.get" secondChallenge.bytes
    origin where
  json := by
    rw [Record.env_jsonClientData]
    exact (answer_tail clientData_ne.2.1 _ _).trans
      ((answer_tail clientData_ne.2.2.1 _ _).trans (answer_head (loginJson secondChallenge) _ _))
  base64 := by
    rw [Record.env_urlSafeNoPadDecode]
    exact (answer_tail text_ne.2.1 _ _).trans
      ((answer_tail text_ne.2.2 _ _).trans (answer_head (textOf secondChallenge) _ _))

lemma hash_first : Crypto.sha256Of simulated.env (loginJson firstChallenge) = firstHash :=
  Record.env_sha256Of ((answer_tail clientData_ne.2.2.2.1 _ _).trans (answer_head _ _ _))

lemma hash_second : Crypto.sha256Of simulated.env (loginJson secondChallenge) = secondHash :=
  Record.env_sha256Of ((answer_tail clientData_ne.2.2.2.2 _ _).trans
    ((answer_tail clientData_ne.2.2.1 _ _).trans (answer_head _ _ _)))

lemma honest_attempt {challenge : Challenge} {signature : Bytes} {hash : ArrayN UInt8 32}
    (hexp : challenge.Unexpired (clock 0))
    (hhash : Crypto.sha256Of simulated.env (loginJson challenge) = hash)
    (hsigned : (uncompressed keyX keyY, loginBytes ++ hash.toList, signature) ∈
      simulated.ecdsaAsn1)
    (hread : ReadsClientData simulated.env writers "webauthn.get" challenge.bytes origin) :
    (attempt challenge signature).Honest simulated.env writers rp credential.publicKey credentialId
      origin where
  unexpired := hexp
  written := by
    refine ⟨"ECDSA", fun m => if m = loginBytes ++ hash.toList then .ok signature else .error "",
      ?_, ?_⟩
    · have hdata : makeAuthenticatorData simulated.env rp.id 0x01
          (attempt challenge signature).count none = loginBytes := loginData_simulated
      have hjson : makeClientDataJsonBytes writers "webauthn.get"
          (attempt challenge signature).challenge.bytes origin = loginJson challenge := rfl
      rw [makeAuthResponse, hdata, hjson, hhash, if_pos rfl]
      rfl
    · intro m s hs
      dsimp only at hs
      split at hs
      · rename_i hm
        cases hs
        rw [hm]
        exact List.contains_iff_mem.mpr hsigned
      · cases hs
  reads := hread

/-- The registration is accepted, the first login too, and the second one, with the same count,
is rejected. -/
theorem simulated_life : ∃ stored heap,
    stored = registeredCredential rp credential.publicKey credentialId 0 [0x75] ⟨0⟩ ∧
    (Registration.verifyRegistration simulated.env rp clock createChallenge
      ⟨createJson', objectBytes⟩ [0x75]).run (Heap.new fun _ => ∅) =
        (.ok ⟨stored, .none, false, false, none⟩, heap) ∧
    results simulated.env ⟨stored, heap⟩ [(attempt firstChallenge firstSignature).login rp,
      (attempt secondChallenge secondSignature).login rp] =
        [.ok ⟨credentialId, 1, true, false, false, false, none⟩, .err (.signCountInvalid 1 1)] := by
  have hexp : ∀ bytes, (Challenge.mk bytes ⟨0⟩).Unexpired (clock 0) := fun _ =>
    ⟨le_rfl, by simp [clock, CHALLENGE_MAX_AGE_SECS, NANOS_PER_SEC]⟩
  have hfirst := honest_attempt (hexp _) hash_first (List.mem_cons_self ..) reads_first
  have hsecond := honest_attempt (hexp _) hash_second
    (List.mem_cons_of_mem _ (List.mem_cons_self ..)) reads_second
  have hadmits : Admits rp origin credential.publicKey :=
    ⟨List.mem_singleton_self _, rfl, by simp [Trusted, rp, RelyingParty.new,
      RelyingParty.withOrigins], Or.inl rfl⟩
  obtain ⟨stored, heap, rfl, hregister, hresults, -⟩ := honest_life simulated.env writers rp
    credential.publicKey credentialId 0 origin [0x75] clock createChallenge
    ⟨createJson', objectBytes⟩ (fun _ => ∅)
    [attempt firstChallenge firstSignature, attempt secondChallenge secondSignature]
    (by simp [credentialId]) enrollable_key hadmits rfl register_simulated reads_create (hexp _)
    (by simpa using ⟨hfirst, hsecond⟩) nofun (fun _ _ => nofun)
  exact ⟨_, heap, rfl, hregister, hresults⟩

end

end Caden.Demo
