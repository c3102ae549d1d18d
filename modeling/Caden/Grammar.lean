import Mathlib.Data.Nat.Bitwise
import Caden.Lib.BigEndian
import Caden.Recorded

/-!
The grammar of authenticator data.

The parser accepts a byte string exactly when it is laid out as the header, then the attested
credential data that the AT flag announces, then the extension map that the ED flag announces,
then anything; and every field of the result is the piece at its place.
-/

namespace Caden.Grammar

open AuthData

variable {E : Env} {d : Bytes} {n : ℕ}

/-! ### Items -/

/-- `item` is the encoding of one item, with the value `v`. -/
def IsItem (E : Env) (v : Value) (item : Bytes) : Prop :=
  item ≠ [] ∧ E.cborFromReader item = .ok (v, item.length)

/-- The decoder reads one item from the front of its input, and reports its length. -/
def ReadsOneItem (E : Env) : Prop :=
  ∀ d v n, E.cborFromReader d = .ok (v, n) ↔
    ∃ item rest, d = item ++ rest ∧ n = item.length ∧ IsItem E v item

/-! ### The pieces -/

/-- A piece that is there when the flag is set. -/
def Announced {α : Type} (flag : Bool) (IsPiece : α → Bytes → Prop) : Option α → Bytes → Prop
  | none, piece => flag = false ∧ piece = []
  | some a, piece => flag = true ∧ IsPiece a piece

/-- The flags byte, by the numbers of its bits. -/
def flagBits (b : UInt8) : AuthenticatorFlags where
  userPresent := b.toNat.testBit 0
  userVerified := b.toNat.testBit 2
  backupEligible := b.toNat.testBit 3
  backupState := b.toNat.testBit 4
  attestedCredentialData := b.toNat.testBit 6
  extensionData := b.toNat.testBit 7

/-- Attested credential data: the model, the length of the credential id, the id, and an item
that is a supported key. -/
def IsCredentialData (E : Env) (c : AttestedCredentialData) (piece : Bytes) : Prop :=
  ∃ (len : ArrayN UInt8 2) (key : Bytes),
    piece = c.aaguid.toList ++ len.toList ++ c.credentialId ++ key ∧
    c.credentialId.length = beNat len.toList ∧
    1 ≤ c.credentialId.length ∧ c.credentialId.length ≤ 1023 ∧
    (∃ v, IsItem E v key) ∧ parseCoseKey E key = .ok c.publicKey

/-- The entries of a map whose keys are texts. -/
def textEntries (m : List (Value × Value)) : List (String × Value) :=
  m.filterMap fun e => match e.1 with
    | .text key => some (key, e.2)
    | _ => none

/-- An extension map, of which the entries with text keys are kept. -/
def IsExtensionMap (E : Env) (extensions : Extensions) (piece : Bytes) : Prop :=
  ∃ m, IsItem E (.map m) piece ∧ extensions = Fold.collect (textEntries m)

/-- `d` is laid out as authenticator data, and the fields of `a` are its pieces. -/
def IsAuthenticatorData (E : Env) (d : Bytes) (a : AuthenticatorData) : Prop :=
  ∃ (flags : UInt8) (count : ArrayN UInt8 4) (credData extensions rest : Bytes),
    d = a.rpIdHash.toList ++ [flags] ++ count.toList ++ credData ++ extensions ++ rest ∧
    a.flags = flagBits flags ∧
    (a.flags.backupState = true → a.flags.backupEligible = true) ∧
    a.signCount.toNat = beNat count.toList ∧
    Announced a.flags.attestedCredentialData (IsCredentialData E) a.attestedCredentialData
      credData ∧
    Announced a.flags.extensionData (IsExtensionMap E) a.extensions extensions ∧
    a.raw = d

/-! ### One lemma for each piece -/

lemma flagsOf_eq (b : UInt8) : flagsOf b = flagBits b := by
  have hbit : ∀ i < 8, (b &&& UInt8.ofNat (2 ^ i) != 0) = b.toNat.testBit i := by
    intro i hi
    have hpow : 2 ^ i < UInt8.size := Nat.pow_lt_pow_right (by decide) hi
    have hand : (b &&& UInt8.ofNat (2 ^ i)).toNat = (b.toNat.testBit i).toNat * 2 ^ i := by
      rw [UInt8.toNat_and, UInt8.toNat_ofNat_of_lt' hpow, Nat.and_two_pow]
    rw [Bool.eq_iff_iff, bne_iff_ne, Ne, ← UInt8.toNat_inj, hand]
    cases b.toNat.testBit i <;> simp
  simp only [flagsOf, flagBits, ← hbit 0 (by decide), ← hbit 2 (by decide), ← hbit 3 (by decide),
    ← hbit 4 (by decide), ← hbit 6 (by decide), ← hbit 7 (by decide)]
  rfl

lemma readsKey_iff (h : ReadsOneItem E) {key rest : Bytes} {k : CoseKey} :
    ReadsKey E key rest k ↔ (∃ v, IsItem E v key) ∧ parseCoseKey E key = .ok k := by
  refine ⟨?_, ?_⟩
  · rintro ⟨-, ⟨v, hv⟩, hk⟩
    obtain ⟨item, rest', heq, hlen, hitem⟩ := (h _ _ _).mp hv
    obtain ⟨rfl, -⟩ := List.append_inj heq hlen
    exact ⟨⟨v, hitem⟩, hk⟩
  · rintro ⟨⟨v, hitem⟩, hk⟩
    have hv := (h _ _ _).mpr ⟨key, rest, rfl, rfl, hitem⟩
    exact ⟨by simp [hitem.1], ⟨v, hv⟩, hk⟩

lemma parseAttestedCredentialData_iff (h : ReadsOneItem E) {c : AttestedCredentialData} :
    parseAttestedCredentialData E d = .ok (c, n) ↔
      ∃ piece rest, d = piece ++ rest ∧ n = piece.length ∧ IsCredentialData E c piece := by
  rw [parseAttestedCredentialData_eq_ok]
  refine ⟨?_, ?_⟩
  · rintro ⟨len, key, rest, rfl, hlen, hne, hmax, hkey, rfl⟩
    obtain ⟨hitem, hk⟩ := (readsKey_iff h).mp hkey
    rw [toNat_u16FromBeBytes] at hlen
    refine ⟨credentialHeader c.aaguid len c.credentialId ++ key, rest, by simp, ?_, len, key, ?_,
      hlen, List.length_pos_iff.mpr hne, hmax, hitem, hk⟩
    · rw [List.length_append, credentialHeader_length]
    · simp [credentialHeader]
  · rintro ⟨_, rest, rfl, rfl, len, key, rfl, hlen, hpos, hmax, hitem, hk⟩
    refine ⟨len, key, rest, by simp [credentialHeader], ?_, List.length_pos_iff.mp hpos, hmax,
      (readsKey_iff h).mpr ⟨hitem, hk⟩, ?_⟩
    · rw [toNat_u16FromBeBytes, hlen]
    · simp only [List.length_append, List.Vector.toList_length]

lemma attestedPart_iff (h : ReadsOneItem E) {flags : AuthenticatorFlags}
    {c : Option AttestedCredentialData} (hlen : 37 ≤ d.length) :
    attestedPart E flags d = .ok (c, n) ↔ ∃ piece rest, d.drop 37 = piece ++ rest ∧
      n = piece.length ∧ Announced flags.attestedCredentialData (IsCredentialData E) c piece := by
  unfold attestedPart
  rcases hflag : flags.attestedCredentialData with _ | _
  · cases c <;> simp [Announced, eq_comm]
  · simp only [if_true, Outcome.bind_eq_ok, Slice.sliceFrom_eq_ok, hlen, true_and,
      exists_eq_left', Prod.exists, parseAttestedCredentialData_iff h, Outcome.pure_eq,
      Outcome.ok.injEq, Prod.mk.injEq]
    cases c with
    | none => simp [Announced]
    | some c =>
      simp only [Announced, true_and, Option.some_inj]
      refine ⟨?_, ?_⟩
      · rintro ⟨_, _, hpiece, rfl, rfl⟩
        exact hpiece
      · exact fun hpiece => ⟨c, n, hpiece, rfl, rfl⟩

lemma foldl_textEntries (m : List (Value × Value)) :
    m.foldl (fun (acc : Extensions) e => match e.1 with
      | .text key => acc.insert key e.2
      | _ => acc) ∅ = Fold.collect (textEntries m) := by
  induction m using List.reverseRecOn with
  | nil => rfl
  | append_singleton m e ih =>
    have hentries : textEntries (m ++ [e]) = textEntries m ++ textEntries [e] :=
      List.filterMap_append
    rw [List.foldl_append, ih, hentries, Fold.collect, Fold.collect, List.foldl_append]
    obtain ⟨_ | _ | _ | key | _ | _ | _ | _ | _, v⟩ := e <;> rfl

lemma parseExtensionMap_iff (h : ReadsOneItem E) {extensions : Extensions} :
    parseExtensionMap E d = .ok extensions ↔
      ∃ piece rest, d = piece ++ rest ∧ IsExtensionMap E extensions piece := by
  simp only [parseExtensionMap, Outcome.bind_eq_ok, Outcome.rejectIf_eq_ok,
    Outcome.ofExcept_eq_ok, Outcome.okOr_eq_ok, Value.asMap_eq_some, exists_const,
    Outcome.pure_eq, Outcome.ok.injEq]
  refine ⟨?_, ?_⟩
  · rintro ⟨-, ⟨v, n⟩, hv, m, rfl, rfl⟩
    obtain ⟨piece, rest, rfl, -, hitem⟩ := (h _ _ _).mp hv
    exact ⟨piece, rest, rfl, m, hitem, foldl_textEntries m⟩
  · rintro ⟨piece, rest, rfl, m, hitem, rfl⟩
    have hv := (h _ _ _).mpr ⟨piece, rest, rfl, rfl, hitem⟩
    exact ⟨by simp [hitem.1], _, hv, m, rfl, foldl_textEntries m⟩

lemma extensionPart_iff (h : ReadsOneItem E) {flags : AuthenticatorFlags}
    {extensions : Option Extensions} (hlen : 37 + n ≤ d.length) :
    extensionPart E flags d n = .ok extensions ↔ ∃ piece rest, d.drop (37 + n) = piece ++ rest ∧
      Announced flags.extensionData (IsExtensionMap E) extensions piece := by
  unfold extensionPart
  rcases hflag : flags.extensionData with _ | _
  · cases extensions <;> simp [Announced]
  · simp only [if_true, Outcome.bind_eq_ok, Slice.sliceFrom_eq_ok, hlen, true_and,
      exists_eq_left', parseExtensionMap_iff h, Outcome.pure_eq, Outcome.ok.injEq]
    cases extensions with
    | none => simp [Announced]
    | some extensions => simp [Announced]

lemma header_iff {hash : ArrayN UInt8 32} {flags : UInt8} {count : ArrayN UInt8 4}
    {tail : Bytes} : d = hash.toList ++ [flags] ++ count.toList ++ tail ↔
      37 ≤ d.length ∧ d.take 32 = hash.toList ∧ d[32]? = some flags ∧
        (d.drop 33).take 4 = count.toList ∧ d.drop 37 = tail := by
  have hhash := hash.toList_length
  have hcount := count.toList_length
  refine ⟨?_, ?_⟩
  · rintro rfl
    have hdrop : (hash.toList ++ [flags] ++ count.toList ++ tail).drop 33 =
        count.toList ++ tail := by
      rw [List.append_assoc, List.drop_left' (by simp)]
    refine ⟨by simp; omega, ?_, ?_, ?_, ?_⟩
    · rw [List.append_assoc, List.append_assoc, List.take_left' hhash]
    · rw [List.append_assoc, List.append_assoc, List.getElem?_append_right (by omega), hhash]
      rfl
    · rw [hdrop, List.take_left' hcount]
    · rw [show 37 = 33 + 4 by rfl, ← List.drop_drop, hdrop, List.drop_left' hcount]
  · rintro ⟨hlen, hh, hf, hc, rfl⟩
    obtain ⟨h32, hf⟩ := List.getElem?_eq_some_iff.mp hf
    calc d = d.take 32 ++ d.drop 32 := (List.take_append_drop 32 d).symm
      _ = hash.toList ++ (flags :: d.drop 33) := by rw [hh, List.drop_eq_getElem_cons h32, hf]
      _ = hash.toList ++ (flags :: ((d.drop 33).take 4 ++ (d.drop 33).drop 4)) := by
        rw [List.take_append_drop]
      _ = _ := by simp [hc, List.drop_drop]

/-- **The parser accepts exactly its grammar.** Where the decoder reads one item at a time,
the result is `a` exactly when the bytes are laid out as authenticator data with the fields of
`a`. -/
theorem parseAuthenticatorData_iff (E : Env) (h : ReadsOneItem E) (d : Bytes)
    (a : AuthenticatorData) : parseAuthenticatorData E d = .ok a ↔ IsAuthenticatorData E d a := by
  rw [parseAuthenticatorData_eq_ok]
  refine ⟨?_, ?_⟩
  · rintro ⟨hlen, hhash, ⟨flags, hf, hflags⟩, hbs, ⟨count, hcount, hsc⟩, ⟨n, hatt, hext⟩, hraw⟩
    obtain ⟨credData, rest, hdrop, rfl, hcred⟩ := (attestedPart_iff h hlen).mp hatt
    have hlen' := congrArg List.length hdrop
    rw [List.length_drop, List.length_append] at hlen'
    obtain ⟨extensions, rest', hdrop', hmap⟩ := (extensionPart_iff h (by omega)).mp hext
    rw [← List.drop_drop, hdrop, List.drop_left] at hdrop'
    have hd := header_iff.mpr ⟨hlen, hhash, hf, hcount, hdrop⟩
    refine ⟨flags, count, credData, extensions, rest', ?_, ?_, by simpa using hbs, ?_, hcred,
      hmap, hraw⟩
    · rw [hd, hdrop']
      simp only [List.append_assoc]
    · rw [← hflags, flagsOf_eq]
    · rw [← hsc, toNat_u32FromBeBytes]
  · rintro ⟨flags, count, credData, extensions, rest, hd, hflags, hbs, hsc, hcred, hmap, hraw⟩
    have hd' : d = a.rpIdHash.toList ++ [flags] ++ count.toList ++
        (credData ++ (extensions ++ rest)) := by
      rw [hd]
      simp only [List.append_assoc]
    obtain ⟨hlen, hhash, hf, hcount, hdrop⟩ := header_iff.mp hd'
    have hlen' := congrArg List.length hdrop
    rw [List.length_drop, List.length_append] at hlen'
    refine ⟨hlen, hhash, ⟨flags, hf, ?_⟩, by simpa using hbs, ⟨count, hcount, ?_⟩,
      ⟨credData.length, ?_, ?_⟩, hraw⟩
    · rw [hflags, flagsOf_eq]
    · rw [← UInt32.toNat_inj, toNat_u32FromBeBytes, hsc]
    · exact (attestedPart_iff h hlen).mpr ⟨credData, _, hdrop, rfl, hcred⟩
    · refine (extensionPart_iff h (by omega)).mpr ⟨extensions, rest, ?_, hmap⟩
      rw [← List.drop_drop, hdrop, List.drop_left]

/-! ### Decoders that read recorded items -/

/-- The recorded item at the front of the input. -/
def frontReader (items : List (Bytes × Value)) (d : Bytes) : Except String (Value × ℕ) :=
  match items.find? (fun e => e.1.isPrefixOf d) with
  | some (item, v) => .ok (v, item.length)
  | none => .error "not recorded"

/-- A record whose decoder reads the recorded items. -/
def frontEnv (items : List (Bytes × Value)) : Env :=
  { Record.env {} with
    cborFromReader := frontReader items
    cborFromReader_le := by
      intro d v n h
      unfold frontReader at h
      split at h
      · rename_i item w hfind
        have hprefix := List.find?_some hfind
        rw [List.isPrefixOf_iff_prefix] at hprefix
        cases h
        exact hprefix.length_le
      · cases h }

lemma frontReader_eq_ok {items : List (Bytes × Value)} {v : Value}
    (hfree : ∀ a ∈ items, ∀ b ∈ items, a.1 <+: b.1 → a = b) :
    frontReader items d = .ok (v, n) ↔
      ∃ item rest, d = item ++ rest ∧ n = item.length ∧ (item, v) ∈ items := by
  have hunique : ∀ {a b : Bytes × Value}, a ∈ items → b ∈ items → a.1 <+: d → b.1 <+: d →
      a = b := by
    intro a b ha hb hpa hpb
    rcases List.prefix_or_prefix_of_prefix hpa hpb with hab | hba
    · exact hfree a ha b hb hab
    · exact (hfree b hb a ha hba).symm
  refine ⟨fun h => ?_, ?_⟩
  · unfold frontReader at h
    split at h
    · rename_i item w hfind
      have hprefix := List.find?_some hfind
      rw [List.isPrefixOf_iff_prefix] at hprefix
      obtain ⟨rest, rfl⟩ := hprefix
      cases h
      exact ⟨item, rest, rfl, rfl, List.mem_of_find?_eq_some hfind⟩
    · cases h
  · rintro ⟨item, rest, rfl, rfl, hmem⟩
    have hprefix : item <+: item ++ rest := ⟨rest, rfl⟩
    unfold frontReader
    rcases hfind : items.find? (fun e => e.1.isPrefixOf (item ++ rest)) with _ | ⟨item', w⟩
    · have hnot := List.find?_eq_none.mp hfind _ hmem
      rw [List.isPrefixOf_iff_prefix] at hnot
      exact absurd hprefix hnot
    · have hprefix' := List.find?_some hfind
      rw [List.isPrefixOf_iff_prefix] at hprefix'
      cases hunique (List.mem_of_find?_eq_some hfind) hmem hprefix' hprefix
      rw [hfind]

lemma readsOneItem_frontEnv {items : List (Bytes × Value)} (hne : ∀ a ∈ items, a.1 ≠ [])
    (hfree : ∀ a ∈ items, ∀ b ∈ items, a.1 <+: b.1 → a = b) : ReadsOneItem (frontEnv items) := by
  have hitem : ∀ item v, IsItem (frontEnv items) v item ↔ (item, v) ∈ items := by
    intro item v
    refine ⟨?_, fun hmem => ⟨hne _ hmem, ?_⟩⟩
    · rintro ⟨-, h⟩
      obtain ⟨item', rest, heq, hlen, hmem⟩ := (frontReader_eq_ok hfree).mp h
      obtain ⟨rfl, -⟩ := List.append_inj ((List.append_nil item).trans heq) hlen
      exact hmem
    · exact (frontReader_eq_ok hfree).mpr ⟨item, [], (List.append_nil _).symm, rfl, hmem⟩
  intro d v n
  simp only [hitem]
  exact frontReader_eq_ok hfree

/-! ### A key and an extension map in one buffer -/

def edPoint : Bytes := beBytes 32 0xd75a980182b10ab7d54bfed3c964073a0ee172f3daa62325af021a68f707511a

/-- An Ed25519 key as a COSE key, and what it decodes to. -/
def edKey : Bytes := beBytes 10 0xa4010103272006215820 ++ edPoint

def edKeyMap : List (Value × Value) :=
  [(.integer 1, .integer 1), (.integer 3, .integer (-8)), (.integer (-1), .integer 6),
    (.integer (-2), .bytes edPoint)]

/-- The extension map `{"appid": true}`. -/
def appid : Bytes := [0xa1, 0x65, 0x61, 0x70, 0x70, 0x69, 0x64, 0xf5]
def appidMap : List (Value × Value) := [(.text "appid", .bool true)]

def edItems : List (Bytes × Value) := [(edKey, .map edKeyMap), (appid, .map appidMap)]

/-- The flags UP, UV, AT and ED, the count 7, the credential data and the extensions. -/
def edAuthData : Bytes :=
  Recorded.rpIdHash.toList ++ [0xc5] ++ [0, 0, 0, 7] ++
    (Recorded.aaguid.toList ++ [0, 16] ++ Recorded.credentialId ++ edKey) ++ appid

lemma readsOneItem_edItems : ReadsOneItem (frontEnv edItems) := by
  have hne : edKey.head? ≠ appid.head? := by decide
  have hdiff : ∀ {a b : Bytes}, a.head? ≠ b.head? → a ≠ [] → ¬ a <+: b := by
    rintro (_ | ⟨x, a⟩) b hab ha ⟨t, rfl⟩
    · exact ha rfl
    · exact hab rfl
  refine readsOneItem_frontEnv (by decide) ?_
  simp only [edItems, List.mem_cons, List.not_mem_nil, or_false, forall_eq_or_imp, forall_eq,
    implies_true, true_and, and_true]
  exact ⟨fun h => absurd h (hdiff hne (by decide)), fun h => absurd h (hdiff hne.symm (by decide))⟩

theorem parseAuthenticatorData_edAuthData :
    parseAuthenticatorData (frontEnv edItems) edAuthData = .ok {
      rpIdHash := Recorded.rpIdHash
      flags := ⟨true, true, false, false, true, true⟩
      signCount := 7
      attestedCredentialData := some ⟨Recorded.aaguid, Recorded.credentialId, .okp (-8) edPoint⟩
      extensions := some (Fold.collect [("appid", .bool true)])
      raw := edAuthData } := by
  have hkey : parseCoseKey (frontEnv edItems) edKey = .ok (.okp (-8) edPoint) := by
    have hmap : coseKeyOfMap edKeyMap = .ok (.okp (-8) edPoint) := by decide
    have hread : (frontEnv edItems).cborFromReader edKey = .ok (.map edKeyMap, edKey.length) := rfl
    simp only [parseCoseKey, hread, Outcome.ofExcept, Value.asMap, Outcome.okOr, Outcome.ok_bind,
      hmap]
  refine (parseAuthenticatorData_iff _ readsOneItem_edItems _ _).mpr
    ⟨0xc5, ⟨[0, 0, 0, 7], rfl⟩, _, appid, [], (List.append_nil _).symm, rfl, by simp, rfl,
      ⟨rfl, Slice.pair 0 16, edKey, rfl, rfl, by decide, by decide,
        ⟨.map edKeyMap, by decide, rfl⟩, hkey⟩,
      ⟨rfl, appidMap, ⟨by decide, rfl⟩, rfl⟩, rfl⟩

end Caden.Grammar
