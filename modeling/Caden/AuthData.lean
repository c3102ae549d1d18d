import Caden.Credential

/-!
Authenticator data: the binary structure that carries the relying party's hash, the flags,
the signature counter and, during registration, the new credential's key.

The layout is `rpIdHash (32) || flags (1) || signCount (4)`, then attested credential data
when the AT flag is set, then a CBOR map of extensions when the ED flag is set.
-/

namespace Caden.AuthData

/-! ### Flags and limits -/

def FLAG_UP : UInt8 := 0x01
def FLAG_UV : UInt8 := 0x04
def FLAG_BE : UInt8 := 0x08
def FLAG_BS : UInt8 := 0x10
def FLAG_AT : UInt8 := 0x40
def FLAG_ED : UInt8 := 0x80

def MAX_CREDENTIAL_ID_LEN : ℕ := 1023
def MIN_RSA_N_LEN : ℕ := 256

structure AuthenticatorFlags where
  userPresent : Bool
  userVerified : Bool
  backupEligible : Bool
  backupState : Bool
  attestedCredentialData : Bool
  extensionData : Bool
  deriving DecidableEq

/-- The flags byte, bit by bit. -/
def flagsOf (b : UInt8) : AuthenticatorFlags where
  userPresent := b &&& FLAG_UP != 0
  userVerified := b &&& FLAG_UV != 0
  backupEligible := b &&& FLAG_BE != 0
  backupState := b &&& FLAG_BS != 0
  attestedCredentialData := b &&& FLAG_AT != 0
  extensionData := b &&& FLAG_ED != 0

/-- A decoded COSE_Key. -/
inductive CoseKey where
  | ec2 (alg crv : ℤ) (x y : Bytes)
  | okp (alg : ℤ) (x : Bytes)
  | rsa (alg : ℤ) (n e : Bytes)
  deriving DecidableEq

def CoseKey.alg : CoseKey → ℤ
  | .ec2 alg _ _ _ => alg
  | .okp alg _ => alg
  | .rsa alg _ _ => alg

/-- An authenticator model. -/
abbrev Aaguid : Type := ArrayN UInt8 16

structure AttestedCredentialData where
  aaguid : Aaguid
  credentialId : Bytes
  publicKey : CoseKey
  deriving DecidableEq

/-- Parsed authenticator data; `raw` keeps the bytes it was parsed from. -/
structure AuthenticatorData where
  rpIdHash : ArrayN UInt8 32
  flags : AuthenticatorFlags
  signCount : UInt32
  attestedCredentialData : Option AttestedCredentialData
  extensions : Option Extensions
  raw : Bytes

/-! ### COSE keys -/

/-- One step of the loop that rejects a repeated integer key. -/
def seeKey (seen : List ℤ) (e : Value × Value) : Res (List ℤ) :=
  match e.1 with
  | .integer ki =>
    match i64TryFrom ki with
    | some n =>
      if n ∈ seen then .err (.invalidPublicKey s!"duplicate COSE key: {n}") else .ok (seen ++ [n])
    | none => .ok seen
  | _ => .ok seen

/-- The first integer stored under the integer key `key`. -/
def getInt (map : List (Value × Value)) (key : ℤ) : Option ℤ :=
  map.findSome? fun
    | (.integer ki, .integer vi) => do if (← i64TryFrom ki) = key then i64TryFrom vi else none
    | _ => none

/-- The first byte string stored under the integer key `key`. -/
def getBytes (map : List (Value × Value)) (key : ℤ) : Option Bytes :=
  map.findSome? fun
    | (.integer ki, .bytes b) => do if (← i64TryFrom ki) = key then some b else none
    | _ => none

def missingField (field : String) : WebAuthnError :=
  .invalidPublicKey s!"missing required field: {field}"

def parseOkpKey (getInt : ℤ → Option ℤ) (getBytes : ℤ → Option Bytes) : Res CoseKey := do
  let alg ← .okOr (getInt 3) (missingField "alg")
  .rejectIf (alg ≠ COSE_EDDSA) (.unsupportedAlgorithm alg)
  let crv ← .okOr (getInt (-1)) (missingField "crv")
  .rejectIf (crv ≠ COSE_CRV_ED25519)
    (.invalidPublicKey s!"unsupported OKP curve: {crv} (only Ed25519 / crv=6 is supported)")
  let x ← .okOr (getBytes (-2)) (missingField "x")
  .rejectIf (x.length ≠ 32)
    (.invalidPublicKey s!"Ed25519 public key must be 32 bytes, got {x.length}")
  return .okp alg x

/-- The coordinate size of an EC2 key, which also ties the algorithm to its curve. -/
def coordSize (alg crv : ℤ) : Res ℕ :=
  if alg = COSE_ES256 then do
    .rejectIf (crv ≠ COSE_CRV_P256)
      (.invalidPublicKey s!"ES256 requires curve P-256 (crv=1), got {crv}")
    return 32
  else if alg = COSE_ES384 then do
    .rejectIf (crv ≠ COSE_CRV_P384)
      (.invalidPublicKey s!"ES384 requires curve P-384 (crv=2), got {crv}")
    return 48
  else .err (.unsupportedAlgorithm alg)

def parseEc2Key (getInt : ℤ → Option ℤ) (getBytes : ℤ → Option Bytes) : Res CoseKey := do
  let alg ← .okOr (getInt 3) (missingField "alg")
  let crv ← .okOr (getInt (-1)) (missingField "crv")
  let size ← coordSize alg crv
  let x ← .okOr (getBytes (-2)) (missingField "x")
  let y ← .okOr (getBytes (-3)) (missingField "y")
  .rejectIf (x.length ≠ size)
    (.invalidPublicKey s!"x coordinate must be {size} bytes, got {x.length}")
  .rejectIf (y.length ≠ size)
    (.invalidPublicKey s!"y coordinate must be {size} bytes, got {y.length}")
  return .ec2 alg crv x y

def parseRsaKey (getInt : ℤ → Option ℤ) (getBytes : ℤ → Option Bytes) : Res CoseKey := do
  let alg ← .okOr (getInt 3) (missingField "alg")
  .rejectIf (alg ≠ COSE_RS256) (.unsupportedAlgorithm alg)
  let n ← .okOr (getBytes (-1)) (missingField "n")
  .rejectIf (n.length < MIN_RSA_N_LEN) (.invalidPublicKey
    s!"RSA modulus must be at least {MIN_RSA_N_LEN} bytes (2048-bit), got {n.length}")
  let e ← .okOr (getBytes (-2)) (missingField "e")
  .rejectIf (e = []) (.invalidPublicKey "RSA exponent (e) must not be empty")
  return .rsa alg n e

/-- The key in a CBOR map, by its key type. -/
def coseKeyOfMap (map : List (Value × Value)) : Res CoseKey := do
  let _ ← map.foldlM seeKey []
  let kty ← .okOr (getInt map 1) (missingField "kty")
  if kty = COSE_KTY_OKP then parseOkpKey (getInt map) (getBytes map)
  else if kty = COSE_KTY_EC2 then parseEc2Key (getInt map) (getBytes map)
  else if kty = COSE_KTY_RSA then parseRsaKey (getInt map) (getBytes map)
  else .err (.invalidPublicKey
    s!"unsupported key type: {kty} (supported: OKP=1, EC2=2, RSA=3)")

variable (E : Env)

def parseCoseKey (data : Bytes) : Res CoseKey := do
  let item ← .ofExcept (E.cborFromReader data) fun e => .cborDecodeError s!"COSE key: {e}"
  let map ← .okOr item.1.asMap (.invalidPublicKey "COSE key must be a CBOR map")
  coseKeyOfMap map

/-! ### The binary structure -/

/-- The attested credential data at the front of `data`, and the number of bytes it took. -/
def parseAttestedCredentialData (data : Bytes) : Res (AttestedCredentialData × ℕ) := do
  .rejectIf (data.length < 18) (.invalidAuthenticatorData
    s!"attested credential data too short: expected at least 18 bytes after flags/counter, got {data.length}")
  let aaguidBytes ← .okOr (Slice.get data 0 16)
    (.invalidAuthenticatorData "truncated before aaguid")
  let aaguid ← .expect (Slice.tryInto 16 aaguidBytes)
  let high ← .okOr data[16]?
    (.invalidAuthenticatorData "truncated before credentialIdLength high byte")
  let low ← .okOr data[17]?
    (.invalidAuthenticatorData "truncated before credentialIdLength low byte")
  let credIdLen := (u16FromBeBytes (Slice.pair high low)).toNat
  .rejectIf (credIdLen = 0) (.invalidAuthenticatorData
    "credentialIdLength is 0 — empty credential ID is not valid")
  .rejectIf (credIdLen > MAX_CREDENTIAL_ID_LEN) (.invalidAuthenticatorData
    s!"credentialIdLength {credIdLen} exceeds maximum {MAX_CREDENTIAL_ID_LEN} — likely corrupt data")
  let credentialId ← .okOr (Slice.get data 18 (18 + credIdLen)) (.invalidAuthenticatorData
    s!"credentialIdLength ({credIdLen}) extends past end of buffer")
  let offset := 18 + credIdLen
  let remaining ← .okOr (Slice.getFrom data offset)
    (.invalidAuthenticatorData "truncated before public key CBOR")
  .rejectIf (remaining = []) (.invalidAuthenticatorData
    "no bytes remaining for credentialPublicKey CBOR")
  -- The probe only counts bytes; the key is decoded again from exactly those.
  let probe ← .ofExcept (E.cborFromReader remaining) fun e => .cborDecodeError s!"COSE key: {e}"
  let keyBytes ← Slice.slice remaining 0 probe.2
  let publicKey ← parseCoseKey E keyBytes
  return (⟨aaguid, credentialId, publicKey⟩, offset + probe.2)

/-- The text-keyed entries of the extension map; other keys are skipped. -/
def parseExtensionMap (data : Bytes) : Res Extensions := do
  .rejectIf (data = []) (.invalidAuthenticatorData
    "ED flag is set but no extension bytes are present")
  let item ← .ofExcept (E.cborFromReader data) fun e => .cborDecodeError s!"extension map: {e}"
  let map ← .okOr item.1.asMap (.invalidAuthenticatorData "extension data must be a CBOR map")
  return map.foldl (fun m e => match e.1 with
    | .text key => m.insert key e.2
    | _ => m) ∅

/-- The attested credential data where the AT flag is set, and the bytes it took. -/
def attestedPart (flags : AuthenticatorFlags) (data : Bytes) :
    Res (Option AttestedCredentialData × ℕ) :=
  if flags.attestedCredentialData then do
    let rest ← Slice.sliceFrom data 37
    let (credData, n) ← parseAttestedCredentialData E rest
    return (some credData, n)
  else return (none, 0)

/-- The extensions where the ED flag is set, after the `n` bytes of credential data. -/
def extensionPart (flags : AuthenticatorFlags) (data : Bytes) (n : ℕ) :
    Res (Option Extensions) :=
  if flags.extensionData then do
    let rest ← Slice.sliceFrom data (37 + n)
    let extensions ← parseExtensionMap E rest
    return some extensions
  else return none

def parseAuthenticatorData (data : Bytes) : Res AuthenticatorData := do
  .rejectIf (data.length < 37) (.invalidAuthenticatorData
    s!"too short: expected at least 37 bytes, got {data.length}")
  let rpIdHash ← .expect (Slice.tryInto 32 (← Slice.slice data 0 32))
  let flagsByte ← Slice.index data 32
  let flags := flagsOf flagsByte
  .rejectIf (flags.backupState && !flags.backupEligible) (.invalidAuthenticatorData
    "BS flag (backup state) is set but BE flag (backup eligibility) is not — invalid per §6.1")
  let countBytes ← .expect (Slice.tryInto 4 (← Slice.slice data 33 37))
  let (attestedCredentialData, atBytesConsumed) ← attestedPart E flags data
  let extensions ← extensionPart E flags data atBytesConsumed
  return {
    rpIdHash
    flags
    signCount := u32FromBeBytes countBytes
    attestedCredentialData
    extensions
    raw := data }

/-! ### What is accepted -/

/-- The algorithm, the curve and the sizes of a key agree. -/
def CoseKey.Valid : CoseKey → Prop
  | .ec2 alg crv x y =>
    (alg = COSE_ES256 ∧ crv = COSE_CRV_P256 ∧ x.length = 32 ∧ y.length = 32) ∨
    (alg = COSE_ES384 ∧ crv = COSE_CRV_P384 ∧ x.length = 48 ∧ y.length = 48)
  | .okp alg x => alg = COSE_EDDSA ∧ x.length = 32
  | .rsa alg n e => alg = COSE_RS256 ∧ MIN_RSA_N_LEN ≤ n.length ∧ e ≠ []

section
variable {gi : ℤ → Option ℤ} {gb : ℤ → Option Bytes} {k : CoseKey}

lemma coordSize_eq_ok {alg crv : ℤ} {n : ℕ} : coordSize alg crv = .ok n ↔
    (alg = COSE_ES256 ∧ crv = COSE_CRV_P256 ∧ n = 32) ∨
    (alg = COSE_ES384 ∧ crv = COSE_CRV_P384 ∧ n = 48) := by
  unfold coordSize
  have hne : COSE_ES384 ≠ COSE_ES256 := by decide
  by_cases h : alg = COSE_ES256
  · subst h
    simp [hne.symm, @eq_comm _ 32 n]
  · by_cases h' : alg = COSE_ES384
    · subst h'
      simp [hne, @eq_comm _ 48 n]
    · simp [h, h']

lemma parseOkpKey_valid (h : parseOkpKey gi gb = .ok k) : k.Valid := by
  simp only [parseOkpKey, Outcome.bind_eq_ok, Outcome.rejectIf_eq_ok, exists_const,
    Outcome.pure_eq, Outcome.ok.injEq, not_not] at h
  obtain ⟨alg, -, halg, crv, -, -, x, -, hx, rfl⟩ := h
  exact ⟨halg, hx⟩

lemma parseEc2Key_valid (h : parseEc2Key gi gb = .ok k) : k.Valid := by
  simp only [parseEc2Key, Outcome.bind_eq_ok, Outcome.rejectIf_eq_ok, exists_const,
    Outcome.pure_eq, Outcome.ok.injEq, not_not] at h
  obtain ⟨alg, -, crv, -, size, hsize, x, -, y, -, hx, hy, rfl⟩ := h
  rcases coordSize_eq_ok.mp hsize with ⟨halg, hcrv, rfl⟩ | ⟨halg, hcrv, rfl⟩
  · exact Or.inl ⟨halg, hcrv, hx, hy⟩
  · exact Or.inr ⟨halg, hcrv, hx, hy⟩

lemma parseRsaKey_valid (h : parseRsaKey gi gb = .ok k) : k.Valid := by
  simp only [parseRsaKey, Outcome.bind_eq_ok, Outcome.rejectIf_eq_ok, exists_const,
    Outcome.pure_eq, Outcome.ok.injEq, not_not, not_lt] at h
  obtain ⟨alg, -, halg, n, -, hn, e, -, he, rfl⟩ := h
  exact ⟨halg, hn, he⟩

lemma coseKeyOfMap_valid {map : List (Value × Value)} (h : coseKeyOfMap map = .ok k) :
    k.Valid := by
  simp only [coseKeyOfMap, Outcome.bind_eq_ok] at h
  obtain ⟨-, -, kty, -, h⟩ := h
  split at h
  · exact parseOkpKey_valid h
  · split at h
    · exact parseEc2Key_valid h
    · split at h
      · exact parseRsaKey_valid h
      · simp at h

lemma safe_seeKey (seen : List ℤ) (e : Value × Value) : (seeKey seen e).Safe := by
  unfold seeKey
  split
  · split <;> simp
  · simp

lemma safe_coseKeyOfMap (map : List (Value × Value)) : (coseKeyOfMap map).Safe := by
  have hseen : (map.foldlM seeKey []).Safe :=
    Outcome.safe_foldlM (fun s e _ => safe_seeKey s e) []
  simp [coseKeyOfMap, parseOkpKey, parseEc2Key, parseRsaKey, coordSize, hseen]

end

variable {E}

/-- **A decoded key is one the library can verify with.** -/
theorem parseCoseKey_valid {data : Bytes} {k : CoseKey} (h : parseCoseKey E data = .ok k) :
    k.Valid := by
  simp only [parseCoseKey, Outcome.bind_eq_ok] at h
  obtain ⟨-, -, map, -, h⟩ := h
  exact coseKeyOfMap_valid h

lemma safe_parseCoseKey (data : Bytes) : (parseCoseKey E data).Safe := by
  simp [parseCoseKey, safe_coseKeyOfMap]

/-! ### The layout -/

/-- The bytes before the key: the model, the length of the credential id, and the id. -/
def credentialHeader (aaguid : Aaguid) (len : ArrayN UInt8 2) (credentialId : Bytes) : Bytes :=
  aaguid.toList ++ (len.toList ++ credentialId)

/-- `k` is decoded from `key`, which is the first item of `key ++ rest`. -/
def ReadsKey (E : Env) (key rest : Bytes) (k : CoseKey) : Prop :=
  key ++ rest ≠ [] ∧ (∃ v, E.cborFromReader (key ++ rest) = .ok (v, key.length)) ∧
    parseCoseKey E key = .ok k

lemma credentialHeader_length (aaguid : Aaguid) (len : ArrayN UInt8 2) (id : Bytes) :
    (credentialHeader aaguid len id).length = 18 + id.length := by
  simp [credentialHeader]
  omega

lemma eq_credentialHeader {data : Bytes} {hi lo : UInt8} {a : Aaguid} {k : ℕ}
    (ha : data.take 16 = a.toList) (hhi : data[16]? = some hi) (hlo : data[17]? = some lo) :
    data = credentialHeader a (Slice.pair hi lo) ((data.drop 18).take k) ++ data.drop (18 + k) := by
  obtain ⟨h16, hhi⟩ := List.getElem?_eq_some_iff.mp hhi
  obtain ⟨h17, hlo⟩ := List.getElem?_eq_some_iff.mp hlo
  have hrest : data.drop 16 = hi :: lo :: data.drop 18 := by
    rw [List.drop_eq_getElem_cons h16, List.drop_eq_getElem_cons h17, hhi, hlo]
  calc data = data.take 16 ++ data.drop 16 := (List.take_append_drop 16 data).symm
    _ = a.toList ++ hi :: lo :: ((data.drop 18).take k ++ data.drop (18 + k)) := by
      rw [ha, hrest, ← List.drop_drop, List.take_append_drop]
    _ = _ := by simp [credentialHeader]

lemma credentialHeader_parts (a : Aaguid) (hi lo : UInt8) (id tail : Bytes) :
    let data := credentialHeader a (Slice.pair hi lo) id ++ tail
    data.take 16 = a.toList ∧ data[16]? = some hi ∧ data[17]? = some lo ∧
      (data.drop 18).take id.length = id ∧ data.drop (18 + id.length) = tail := by
  have ha : a.toList.length = 16 := a.toList_length
  have hdata : credentialHeader a (Slice.pair hi lo) id ++ tail =
      a.toList ++ (hi :: lo :: (id ++ tail)) := by
    simp [credentialHeader]
  have h18 : (a.toList ++ (hi :: lo :: (id ++ tail))).drop 18 = id ++ tail := by
    rw [List.drop_append, ha, List.drop_of_length_le (by omega)]
    rfl
  rw [hdata]
  refine ⟨?_, ?_, ?_, ?_, ?_⟩
  · exact List.take_left' ha
  · rw [List.getElem?_append_right (by omega), ha]
    rfl
  · rw [List.getElem?_append_right (by omega), ha]
    rfl
  · rw [h18, List.take_left]
  · rw [← List.drop_drop, h18, List.drop_left]

/-- **Credential data that parses is laid out as its header, its key, and the rest.** -/
lemma parseAttestedCredentialData_eq_ok {data : Bytes} {c : AttestedCredentialData} {n : ℕ} :
    parseAttestedCredentialData E data = .ok (c, n) ↔ ∃ len key rest,
      data = credentialHeader c.aaguid len c.credentialId ++ (key ++ rest) ∧
      c.credentialId.length = (u16FromBeBytes len).toNat ∧
      c.credentialId ≠ [] ∧ c.credentialId.length ≤ MAX_CREDENTIAL_ID_LEN ∧
      ReadsKey E key rest c.publicKey ∧ n = 18 + c.credentialId.length + key.length := by
  simp only [parseAttestedCredentialData, Outcome.bind_eq_ok, Outcome.rejectIf_eq_ok,
    Outcome.okOr_eq_ok, Outcome.expect_eq_ok, Outcome.ofExcept_eq_ok, Slice.getFrom_eq_some,
    Slice.get_eq_some, Slice.tryInto_eq_some, Slice.slice_eq_ok, exists_const, not_lt, gt_iff_lt,
    Nat.add_sub_cancel_left, Nat.sub_zero, List.drop_zero, Outcome.pure_eq, Outcome.ok.injEq,
    Prod.mk.injEq]
  refine ⟨?_, ?_⟩
  · rintro ⟨hlen, _, ⟨-, rfl⟩, a, ha, hi, hhi, lo, hlo, h0, hmax, id, ⟨⟨-, hid⟩, rfl⟩, rest,
      ⟨hle, rfl⟩, hne, ⟨v, m⟩, hprobe, kb, ⟨⟨-, hm⟩, rfl⟩, pk, hpk, rfl, rfl⟩
    set k := (u16FromBeBytes (Slice.pair hi lo)).toNat
    have hk : ((data.drop 18).take k).length = k := by
      rw [List.length_take, List.length_drop]
      omega
    have hm : ((data.drop (18 + k)).take m).length = m := List.length_take_of_le hm
    refine ⟨Slice.pair hi lo, (data.drop (18 + k)).take m, (data.drop (18 + k)).drop m, ?_, hk,
      ?_, ?_, ⟨?_, ⟨v, ?_⟩, hpk⟩, ?_⟩
    · rw [List.take_append_drop]
      exact eq_credentialHeader ha hhi hlo
    · rw [← List.length_pos_iff, hk]
      omega
    · exact hk.le.trans hmax
    · rwa [List.take_append_drop]
    · rw [List.take_append_drop, hm, hprobe]
    · rw [hk, hm]
  · rintro ⟨len, key, rest, rfl, hlen, h0, hmax, ⟨hne, ⟨v, hv⟩, hk⟩, rfl⟩
    obtain ⟨hi, lo, rfl⟩ := Slice.exists_pair len
    have hpos := List.length_pos_iff.mpr h0
    have hhead := credentialHeader_length c.aaguid (Slice.pair hi lo) c.credentialId
    obtain ⟨ha, hhi, hlo, hid, hrest⟩ :=
      credentialHeader_parts c.aaguid hi lo c.credentialId (key ++ rest)
    set data := credentialHeader c.aaguid (Slice.pair hi lo) c.credentialId ++ (key ++ rest)
    have hdata : 18 + c.credentialId.length ≤ data.length := by
      rw [List.length_append, hhead]
      omega
    refine ⟨by omega, _, ⟨⟨by omega, by omega⟩, rfl⟩, c.aaguid, ha, hi, hhi, lo, hlo, ?_⟩
    rw [← hlen]
    refine ⟨by omega, hmax, c.credentialId, ⟨⟨by omega, hdata⟩, hid⟩, key ++ rest,
      ⟨hdata, hrest⟩, hne, (v, key.length), hv, key, ⟨⟨by omega, by simp⟩, by simp⟩,
      c.publicKey, hk, rfl, rfl⟩

lemma parseAttestedCredentialData_consumed {data : Bytes} {c : AttestedCredentialData} {n : ℕ}
    (h : parseAttestedCredentialData E data = .ok (c, n)) : n ≤ data.length := by
  obtain ⟨len, key, rest, rfl, -, -, -, -, rfl⟩ := parseAttestedCredentialData_eq_ok.mp h
  simp only [List.length_append, credentialHeader_length]
  omega

lemma parseAttestedCredentialData_valid {data : Bytes} {c : AttestedCredentialData} {n : ℕ}
    (h : parseAttestedCredentialData E data = .ok (c, n)) : c.publicKey.Valid := by
  obtain ⟨_, _, _, -, -, -, -, ⟨-, -, hk⟩, -⟩ := parseAttestedCredentialData_eq_ok.mp h
  exact parseCoseKey_valid hk

lemma safe_parseAttestedCredentialData (data : Bytes) :
    (parseAttestedCredentialData E data).Safe := by
  simp only [parseAttestedCredentialData, Outcome.safe_bind, Outcome.safe_rejectIf,
    Outcome.safe_okOr, Outcome.safe_ofExcept, Outcome.safe_expect, Slice.safe_slice,
    Outcome.okOr_eq_ok, Slice.tryInto_isSome, Outcome.ofExcept_eq_ok, Outcome.safe_pure,
    safe_parseCoseKey, true_and, implies_true, and_true]
  intro _ _ aaguidBytes haaguid
  refine ⟨by simpa using Slice.get_length haaguid, ?_⟩
  intro _ _ _ _ _ _ _ _ _ _ _ _ rest _ _ _ probe hprobe
  exact ⟨Nat.zero_le _, E.cborFromReader_le _ _ _ hprobe⟩

lemma safe_parseExtensionMap (data : Bytes) : (parseExtensionMap E data).Safe := by
  simp [parseExtensionMap]

lemma attestedPart_consumed {flags : AuthenticatorFlags} {data : Bytes}
    {c : Option AttestedCredentialData} {n : ℕ} (hlen : 37 ≤ data.length)
    (h : attestedPart E flags data = .ok (c, n)) : 37 + n ≤ data.length := by
  unfold attestedPart at h
  split at h
  · simp only [Outcome.bind_eq_ok, Slice.sliceFrom_eq_ok, Outcome.pure_eq, Outcome.ok.injEq,
      Prod.mk.injEq] at h
    obtain ⟨rest, ⟨-, rfl⟩, ⟨c', m⟩, hc, -, rfl⟩ := h
    have hm := parseAttestedCredentialData_consumed hc
    rw [List.length_drop] at hm
    simp only
    omega
  · cases h
    omega

lemma safe_attestedPart {flags : AuthenticatorFlags} {data : Bytes} (hlen : 37 ≤ data.length) :
    (attestedPart E flags data).Safe := by
  simp [attestedPart, safe_parseAttestedCredentialData, hlen]

lemma safe_extensionPart {flags : AuthenticatorFlags} {data : Bytes} {n : ℕ}
    (h : 37 + n ≤ data.length) : (extensionPart E flags data n).Safe := by
  simp [extensionPart, safe_parseExtensionMap, h]

/-- **Parsing authenticator data never panics.** Each index is inside the bound that an
earlier step established. -/
theorem safe_parseAuthenticatorData (data : Bytes) : (parseAuthenticatorData E data).Safe := by
  refine Outcome.Safe.bind (by simp) fun _ h => ?_
  have hlen : 37 ≤ data.length := by simpa using h
  have hslice : ∀ lo hi, lo ≤ hi → hi ≤ 37 → (Slice.slice data lo hi : Res Bytes).Safe :=
    fun lo hi h1 h2 => Slice.safe_slice.mpr ⟨h1, h2.trans hlen⟩
  refine Outcome.Safe.bind (hslice 0 32 (by omega) (by omega)) fun head hhead => ?_
  refine Outcome.Safe.bind ?_ fun hash _ => ?_
  · rw [Outcome.safe_expect, Slice.tryInto_isSome]
    exact Slice.slice_length hhead
  refine Outcome.Safe.bind (Slice.safe_index.mpr (by omega)) fun flagsByte _ => ?_
  refine Outcome.Safe.bind (by simp) fun _ _ => ?_
  refine Outcome.Safe.bind (hslice 33 37 (by omega) (by omega)) fun count hcount => ?_
  refine Outcome.Safe.bind ?_ fun countBytes _ => ?_
  · rw [Outcome.safe_expect, Slice.tryInto_isSome]
    exact Slice.slice_length hcount
  refine Outcome.Safe.bind (safe_attestedPart hlen) fun part hpart => ?_
  obtain ⟨c, n⟩ := part
  refine Outcome.Safe.bind (safe_extensionPart (attestedPart_consumed hlen hpart)) fun _ _ => ?_
  exact Outcome.safe_pure _

lemma parseAuthenticatorData_eq_ok {data : Bytes} {ad : AuthenticatorData} :
    parseAuthenticatorData E data = .ok ad ↔
      37 ≤ data.length ∧ data.take 32 = ad.rpIdHash.toList ∧
      (∃ b, data[32]? = some b ∧ flagsOf b = ad.flags) ∧
      ¬ (ad.flags.backupState = true ∧ ad.flags.backupEligible = false) ∧
      (∃ count, (data.drop 33).take 4 = count.toList ∧ u32FromBeBytes count = ad.signCount) ∧
      (∃ n, attestedPart E ad.flags data = .ok (ad.attestedCredentialData, n) ∧
        extensionPart E ad.flags data n = .ok ad.extensions) ∧ ad.raw = data := by
  simp only [parseAuthenticatorData, Outcome.bind_eq_ok, Outcome.rejectIf_eq_ok,
    Outcome.expect_eq_ok, Slice.slice_eq_ok, Slice.index_eq_ok, Slice.tryInto_eq_some,
    exists_const, Outcome.pure_eq, Outcome.ok.injEq, not_lt]
  refine ⟨?_, ?_⟩
  · rintro ⟨hlen, _, ⟨-, rfl⟩, hash, hh, b, hb, hbs, _, ⟨-, rfl⟩, count, hc, ⟨c, n⟩, ha, ext,
      he, rfl⟩
    exact ⟨hlen, by simpa using hh, ⟨b, hb, rfl⟩, by simpa using hbs,
      ⟨count, by simpa using hc, rfl⟩, ⟨n, ha, he⟩, rfl⟩
  · rcases ad with ⟨hash, flags, sc, c, ext, raw⟩
    rintro ⟨hlen, hh, ⟨b, hb, rfl⟩, hbs, ⟨count, hc, rfl⟩, ⟨n, ha, he⟩, rfl⟩
    refine ⟨hlen, _, ⟨⟨by omega, by omega⟩, rfl⟩, hash, by simpa using hh, b, hb,
      by simpa using hbs, _, ⟨⟨by omega, hlen⟩, rfl⟩, count, by simpa using hc, (c, n), ha, ext,
      he, rfl⟩

lemma parseAuthenticatorData_raw {data : Bytes} {ad : AuthenticatorData}
    (h : parseAuthenticatorData E data = .ok ad) : ad.raw = data := by
  obtain ⟨-, -, -, -, -, -, hraw⟩ := parseAuthenticatorData_eq_ok.mp h
  exact hraw

lemma parseAuthenticatorData_valid {data : Bytes} {ad : AuthenticatorData}
    {c : AttestedCredentialData} (h : parseAuthenticatorData E data = .ok ad)
    (hc : ad.attestedCredentialData = some c) : c.publicKey.Valid := by
  obtain ⟨-, -, -, -, -, ⟨n, ha, -⟩, -⟩ := parseAuthenticatorData_eq_ok.mp h
  rw [hc, attestedPart] at ha
  split at ha
  · simp only [Outcome.bind_eq_ok, Outcome.pure_eq, Outcome.ok.injEq, Prod.mk.injEq,
      Option.some.injEq] at ha
    obtain ⟨rest, -, ⟨c', m⟩, hcred, rfl, -⟩ := ha
    exact parseAttestedCredentialData_valid hcred
  · simp at ha

end Caden.AuthData
