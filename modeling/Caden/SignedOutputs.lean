import Caden.AuthenticationSpec
import Caden.Extensions

/-!
The outputs that a ceremony returns are those that the authenticator has signed.
-/

namespace Caden.Outputs

open AuthData
open Grammar (Announced IsCredentialData IsItem ReadsOneItem flagBits header_iff
  parseAuthenticatorData_iff textEntries)
open MapOrder (textKey)

/-! ### The signed outputs -/

section
variable {E : Env} {d : Bytes} {ad : AuthenticatorData} {m : List (Value × Value)}

/-- The bytes are laid out as authenticator data with the extension map `m`. -/
def Signed (E : Env) (d : Bytes) (m : List (Value × Value)) : Prop :=
  ∃ (hash : ArrayN UInt8 32) (flags : UInt8) (count : ArrayN UInt8 4)
    (c : Option AttestedCredentialData) (credData piece rest : Bytes),
    d = hash.toList ++ [flags] ++ count.toList ++ credData ++ piece ++ rest ∧
    Announced (flagBits flags).attestedCredentialData (IsCredentialData E) c credData ∧
    flags.toNat.testBit 7 = true ∧ IsItem E (.map m) piece

/-- The view is of the signed outputs; there is none where the flags announce none. -/
def IsSigned (E : Env) (d : Bytes) : Option ExtensionView → Prop
  | none => ∃ flags, d[32]? = some flags ∧ flags.toNat.testBit 7 = false
  | some view => ∃ m, Signed E d m ∧ view.outputs.ReportedIn m

lemma flags_of_layout {hash : ArrayN UInt8 32} {flags : UInt8} {count : ArrayN UInt8 4}
    {credData piece rest : Bytes}
    (h : d = hash.toList ++ [flags] ++ count.toList ++ credData ++ piece ++ rest) :
    d[32]? = some flags := by
  rw [List.append_assoc, List.append_assoc] at h
  exact (header_iff.mp h).2.2.1

lemma extensions_of_signed (hE : ReadsOneItem E) (h : Signed E d m)
    (hp : parseAuthenticatorData E d = .ok ad) :
    ad.extensions = some (Fold.collect (textEntries m)) := by
  obtain ⟨hash, flags, count, c, credData, piece, rest, hd, hc, hflag, hm⟩ := h
  obtain ⟨flags', _, _, _, _, hd', hflags', hbs, -⟩ :=
    (parseAuthenticatorData_iff E hE d ad).mp hp
  obtain rfl : flags = flags' :=
    Option.some.inj ((flags_of_layout hd).symm.trans (flags_of_layout hd'))
  have hparse : parseAuthenticatorData E d = .ok {
      rpIdHash := hash
      flags := flagBits flags
      signCount := u32FromBeBytes count
      attestedCredentialData := c
      extensions := some (Fold.collect (textEntries m))
      raw := d } :=
    (parseAuthenticatorData_iff E hE d _).mpr ⟨flags, count, credData, piece, rest, hd,
      rfl, hflags' ▸ hbs, toNat_u32FromBeBytes count, hc, ⟨hflag, m, hm, rfl⟩, rfl⟩
  rw [hp] at hparse
  cases hparse
  rfl

lemma isSigned_of_parse (hE : ReadsOneItem E)
    (hp : parseAuthenticatorData E d = .ok ad) :
    IsSigned E d (ad.extensions.map .mk) := by
  obtain ⟨flags, count, credData, piece, rest, hd, hflags, -, -, hc, hm, -⟩ :=
    (parseAuthenticatorData_iff E hE d ad).mp hp
  rw [hflags] at hc hm
  rcases hext : ad.extensions with _ | extensions
  · rw [hext] at hm
    exact ⟨flags, flags_of_layout hd, hm.1⟩
  · rw [hext] at hm
    obtain ⟨hflag, m, hitem, rfl⟩ := hm
    exact ⟨m, ⟨ad.rpIdHash, flags, count, _, credData, piece, rest, hd, hc, hflag, hitem⟩,
      reportedIn_outputs m⟩

end

/-- **The typed outputs are the signed ones.** In an accepted ceremony each accessor returns what
the last entry of its extension in the signed map says, by the first entry of each of its fields,
and nothing where that entry says nothing. -/
theorem outputs_reported (E : Env) (hE : ReadsOneItem E) (rp : RelyingParty)
    (clock : Clock) (challenge : Challenge) (sets : Arc → Finset Bytes) :
    (∀ (stored : Credential) (response : AuthenticatorAssertionResponse)
      (r : AuthenticationResult),
      ((Authentication.verifyAuthentication E rp stored clock challenge response).run
        (Heap.new sets)).1 = .ok r →
      IsSigned E response.authenticatorData r.extensionView) ∧
    ∀ (response : AuthenticatorAttestationResponse) (userId : Bytes) (r : RegistrationResult),
      ((Registration.verifyRegistration E rp clock challenge response userId).run
        (Heap.new sets)).1 = .ok r →
      ∃ fmt d stmt, Registration.IsAttestationObject E response.attestationObject fmt d stmt ∧
        IsSigned E d r.extensionView := by
  refine ⟨fun stored response r h => ?_, fun response userId r h => ?_⟩
  · obtain ⟨ad, had, rfl⟩ := Authentication.accepts_of_ok h
    exact isSigned_of_parse hE had.parses
  · obtain ⟨v, hv, rfl⟩ := Registration.accepts_of_ok h
    exact ⟨v.fmt, v.authDataBytes, v.attStmt, hv.object, isSigned_of_parse hE hv.parses⟩

/-- **Outputs that were written are returned.** Where the signed map has the entries of `o`, and
others that have no type here, in any order at any depth, an accepted ceremony returns `o`. -/
theorem outputs_returned (E : Env) (hE : ReadsOneItem E) (o : Outputs)
    (others m : List (Value × Value)) (d : Bytes)
    (hothers : ∀ e ∈ others, ∀ key ∈ identifiers, textKey e ≠ some key)
    (hm : Shuffled (.map (o.entries ++ others)) (.map m)) (hd : Signed E d m) (rp : RelyingParty)
    (clock : Clock) (challenge : Challenge) (sets : Arc → Finset Bytes) :
    (∀ (stored : Credential) (response : AuthenticatorAssertionResponse)
      (r : AuthenticationResult), response.authenticatorData = d →
      ((Authentication.verifyAuthentication E rp stored clock challenge response).run
        (Heap.new sets)).1 = .ok r →
      r.extensionView.map ExtensionView.outputs = some o) ∧
    ∀ (response : AuthenticatorAttestationResponse) (userId : Bytes) (r : RegistrationResult)
      (fmt : String) (stmt : Value),
      Registration.IsAttestationObject E response.attestationObject fmt d stmt →
      ((Registration.verifyRegistration E rp clock challenge response userId).run
        (Heap.new sets)).1 = .ok r →
      r.extensionView.map ExtensionView.outputs = some o := by
  have houtputs : (ExtensionView.mk (Fold.collect (textEntries m))).outputs = o := by
    rw [← outputs_shuffled hm]
    exact (reportedIn_outputs _).unique (reportedIn_entries hothers)
  refine ⟨fun stored response r hresponse h => ?_, fun response userId r fmt stmt hobject h => ?_⟩
  · subst hresponse
    obtain ⟨ad, had, rfl⟩ := Authentication.accepts_of_ok h
    rw [AuthenticationResult.extensionView, Authentication.resultOf,
      extensions_of_signed hE hd had.parses, ← houtputs]
    rfl
  · obtain ⟨v, hv, rfl⟩ := Registration.accepts_of_ok h
    obtain ⟨-, rfl, -⟩ := hv.object.unique hobject
    rw [RegistrationResult.extensionView, Registration.Evidence.result,
      extensions_of_signed hE hd hv.parses, ← houtputs]
    rfl

/-! ### A login with outputs -/

section
open Recorded

/-- Three outputs, and one that has no type here. -/
def signedOutputs : Outputs where
  credProps := none
  appid := some true
  prf := none
  largeBlob := some ⟨none, some [1, 2, 3], none⟩
  credProtect := some .userVerificationRequired
  minPinLength := none

def otherOutputs : List (Value × Value) := [(.text "hmac-secret", .bool true)]

/-- The entries from the last one to the first. -/
def signedMap : List (Value × Value) := (signedOutputs.entries ++ otherOutputs).reverse

def signedPiece : Bytes :=
  beBytes 27 0xa46b686d61632d736563726574f56b6372656450726f7465637403 ++
    beBytes 27 0x696c61726765426c6f62a164626c6f6243010203656170706964f5

/-- A login whose flags are UP, UV and ED. -/
def outputResponse : AuthenticatorAssertionResponse where
  clientDataJson := firstResponse.clientDataJson
  authenticatorData := rpIdHash.toList ++ [0x85] ++ [0, 0, 0, 1] ++ [] ++ signedPiece ++ []
  signature :=
    beBytes 35 0x304402205f5b61a320bdf70385c0e337a8f6640d8284a909edb47caf8554269b640c26 ++
      beBytes 35 0x3e022022ed51a3cd535e8df69700eb375e78492b40f3478c7c1cb62a72dc6dbc500fd0
  userHandle := none
  credentialId := credentialId

def outputRecord : Record where
  sha256 := [(Text.asBytes rpId, rpIdHash), (firstResponse.clientDataJson, firstHash)]
  ecdsaAsn1 := [(uncompressed keyX keyY,
    outputResponse.authenticatorData ++ firstHash.toList, outputResponse.signature)]
  clientData := [(firstResponse.clientDataJson, clientDataOf "webauthn.get" firstText)]
  urlSafe := [(firstText, firstChallenge.bytes)]

/-- The record, with a decoder of the map. -/
def outputEnv : Env :=
  { outputRecord.env with
    cborFromReader := Grammar.frontReader [(signedPiece, .map signedMap)]
    cborFromReader_le := (Grammar.frontEnv [(signedPiece, .map signedMap)]).cborFromReader_le }

lemma readsOneItem_outputEnv : ReadsOneItem outputEnv := by
  have h : ReadsOneItem (Grammar.frontEnv [(signedPiece, .map signedMap)]) := by
    refine Grammar.readsOneItem_frontEnv ?_ ?_
    · simp only [List.mem_singleton, forall_eq]
      decide
    · simp
  exact h

lemma signed_output : Signed outputEnv outputResponse.authenticatorData signedMap :=
  ⟨rpIdHash, 0x85, ⟨[0, 0, 0, 1], rfl⟩, none, [], signedPiece, [], rfl, ⟨rfl, rfl⟩, rfl,
    by decide, rfl⟩

/-- What the data of the login is parsed to. -/
def outputData : AuthenticatorData where
  rpIdHash := rpIdHash
  flags := flagBits 0x85
  signCount := 1
  attestedCredentialData := none
  extensions := some (Fold.collect (textEntries signedMap))
  raw := outputResponse.authenticatorData

lemma parse_output :
    parseAuthenticatorData outputEnv outputResponse.authenticatorData = .ok outputData :=
  (parseAuthenticatorData_iff _ readsOneItem_outputEnv _ _).mpr
    ⟨0x85, ⟨[0, 0, 0, 1], rfl⟩, [], signedPiece, [], rfl, rfl, nofun, rfl, ⟨rfl, rfl⟩,
      ⟨rfl, signedMap, ⟨by decide, rfl⟩, rfl⟩, rfl⟩

lemma output_accepted : ∃ r, ((Authentication.verifyAuthentication outputEnv rp credential
    clock firstChallenge outputResponse).run (Heap.new fun _ => ∅)).1 = .ok r := by
  have hid : Crypto.sha256Of outputEnv (Text.asBytes rpId) = rpIdHash :=
    Record.env_sha256Of (r := outputRecord) (by simp [outputRecord])
  have hne : firstResponse.clientDataJson ≠ Text.asBytes rpId := by decide
  have hjson : Crypto.sha256Of outputEnv firstResponse.clientDataJson = firstHash :=
    Record.env_sha256Of (r := outputRecord) (by simp [outputRecord, answer_tail hne])
  have hread : answer outputRecord.clientData firstResponse.clientDataJson =
      .ok (clientDataOf "webauthn.get" firstText) := by simp [outputRecord]
  have htext : answer outputRecord.urlSafe firstText = .ok firstChallenge.bytes := by
    simp [outputRecord]
  have hbinds : ClientData.Binds outputEnv "webauthn.get" firstChallenge.bytes rp.allowedOrigins
      rp.rejectCrossOrigin outputResponse.clientDataJson :=
    ⟨clientDataJson_ne_nil _ _, _, hread, rfl, htext, List.mem_singleton_self _,
      by simp [clientDataOf]⟩
  have hsigned : credential.publicKey.Verifies outputEnv
      (outputResponse.authenticatorData ++ firstHash.toList) outputResponse.signature :=
    List.contains_iff_mem.mpr (List.mem_singleton_self _)
  have haccepts : Authentication.Accepts outputEnv rp credential clock firstChallenge
      outputResponse (Heap.new fun _ => ∅) outputData :=
    { unexpired := ⟨le_rfl, by decide⟩
      binds := hbinds
      unused := by simp [Unused, rp, RelyingParty.new, RelyingParty.withOrigins]
      parses := parse_output
      rpIdHash := hid.symm
      userPresent := rfl
      userVerified := fun _ => rfl
      backupAllowed := by simp [rp, RelyingParty.new, RelyingParty.withOrigins]
      backupRequired := by simp [rp, RelyingParty.new, RelyingParty.withOrigins]
      backupUnchanged := rfl
      signed := hjson.symm ▸ hsigned
      counts := Or.inr (by decide) }
  exact ⟨_, (Authentication.verifyAuthentication_eq_ok (Heap.sound_new _)).mpr
    ⟨outputData, haccepts, rfl⟩⟩

/-- The three outputs are returned, from the last entry to the first. -/
theorem output_returned : ∃ r, ((Authentication.verifyAuthentication outputEnv rp credential
    clock firstChallenge outputResponse).run (Heap.new fun _ => ∅)).1 = .ok r ∧
      r.extensionView.map ExtensionView.outputs = some signedOutputs := by
  have hothers : ∀ e ∈ otherOutputs, ∀ key ∈ identifiers, textKey e ≠ some key := by
    simp [otherOutputs, identifiers, textKey]
  have hdistinct : MapOrder.DistinctKeys (signedOutputs.entries ++ otherOutputs) := by
    unfold MapOrder.DistinctKeys
    decide
  obtain ⟨r, hr⟩ := output_accepted
  obtain ⟨hlogin, -⟩ := outputs_returned outputEnv readsOneItem_outputEnv signedOutputs
    otherOutputs signedMap outputResponse.authenticatorData hothers
    (.perm hdistinct (List.reverse_perm _).symm) signed_output rp clock firstChallenge fun _ => ∅
  exact ⟨r, hr, hlogin credential outputResponse r rfl hr⟩

/-- The outputs of this login are the signed ones. -/
theorem output_signed : ∃ r, ((Authentication.verifyAuthentication outputEnv rp credential
    clock firstChallenge outputResponse).run (Heap.new fun _ => ∅)).1 = .ok r ∧
      IsSigned outputEnv outputResponse.authenticatorData r.extensionView := by
  obtain ⟨r, hr⟩ := output_accepted
  obtain ⟨hlogin, -⟩ := outputs_reported outputEnv readsOneItem_outputEnv rp clock firstChallenge
    fun _ => ∅
  exact ⟨r, hr, hlogin credential outputResponse r hr⟩

end

end Caden.Outputs
