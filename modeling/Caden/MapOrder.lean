import Mathlib.Data.List.Perm.Basic
import Caden.AttestationSpec
import Caden.Ceremony
import Caden.Transplant

/-!
Registration does not depend on the order of the entries of the attestation object and of its
statement.

Both are read by loops in which a later entry replaces an earlier one, and the loop over a
statement stops at the first value it cannot read. Where no text key is repeated, what is read is
given by the entries alone.
-/

namespace Caden.MapOrder

open AttStmt (Field Fields entryOf fieldOf readStmt readValue textValue)
open Fold (lastSome)
open Outcome (Matched)

/-! ### Maps without repeated keys -/

/-- The text of a key, if it is text. -/
def textKey : Value × Value → Option String
  | (.text key, _) => some key
  | _ => none

/-- No text key is repeated. -/
def DistinctKeys (m : List (Value × Value)) : Prop := (m.filterMap textKey).Nodup

/-- Neither the attestation object nor its statement repeats a text key. -/
structure NoRepeats (m : List (Value × Value)) : Prop where
  keys : DistinctKeys m
  stmt : ∀ s, (.text "attStmt", .map s) ∈ m → DistinctKeys s

/-- The same entry, and for a statement that is a map the same up to the order of its entries. -/
def SameEntry (e e' : Value × Value) : Prop :=
  e = e' ∨ ∃ s s', e = (.text "attStmt", .map s) ∧ e' = (.text "attStmt", .map s') ∧ s.Perm s'

/-- The same entries in another order. -/
def Reordered (m m' : List (Value × Value)) : Prop :=
  ∃ l, m.Perm l ∧ List.Forall₂ SameEntry l m'

/-- The same statement, and for a map the same up to the order of its entries. -/
def SameStmt (v v' : Value) : Prop :=
  v = v' ∨ ∃ s s', v = .map s ∧ v' = .map s' ∧ s.Perm s' ∧ DistinctKeys s

variable {m m' s s' : List (Value × Value)} {e e' : Value × Value} {key : String}

lemma textValue_textKey {v : Value} (h : textValue key e = some v) : textKey e = some key := by
  rw [AttStmt.textValue_eq_some.mp h, textKey]

lemma DistinctKeys.perm (hp : s.Perm s') (h : DistinctKeys s) : DistinctKeys s' :=
  (hp.filterMap textKey).nodup_iff.mp h

lemma DistinctKeys.lastSome_iff {β : Type} {f : Value × Value → Option β} {b : β}
    (h : DistinctKeys m) (hf : ∀ e b, f e = some b → textKey e = some key) :
    lastSome f m = some b ↔ ∃ e ∈ m, f e = some b := by
  refine Fold.lastSome_eq_some_of_agree fun x hx y hy b c hb hc => ?_
  obtain rfl := Fold.eq_of_filterMap_nodup h hx hy (hf x b hb) (hf y c hc)
  exact Option.some.inj (hb.symm.trans hc)

lemma DistinctKeys.entryOf_iff {v : Value} (h : DistinctKeys m) :
    entryOf key (.map m) = some v ↔ (.text key, v) ∈ m := by
  refine (h.lastSome_iff fun _ _ => textValue_textKey).trans ⟨?_, fun hv => ?_⟩
  · rintro ⟨e, he, hv⟩
    rwa [AttStmt.textValue_eq_some.mp hv] at he
  · exact ⟨_, hv, AttStmt.textValue_eq_some.mpr rfl⟩

lemma DistinctKeys.entryOf_perm (h : DistinctKeys s) (hp : s.Perm s') (key : String) :
    entryOf key (.map s) = entryOf key (.map s') := by
  refine Option.ext fun v => ?_
  rw [h.entryOf_iff, (h.perm hp).entryOf_iff, hp.mem_iff]

/-! ### The two maps -/

lemma SameEntry.textKey_eq (h : SameEntry e e') : textKey e = textKey e' := by
  rcases h with rfl | ⟨s, s', rfl, rfl, -⟩ <;> rfl

lemma SameEntry.symm (h : SameEntry e e') : SameEntry e' e := by
  rcases h with rfl | ⟨s, s', rfl, rfl, hp⟩
  · exact Or.inl rfl
  · exact Or.inr ⟨s', s, rfl, rfl, hp.symm⟩

lemma Reordered.symm (h : Reordered m m') : Reordered m' m := by
  obtain ⟨l, hp, hl⟩ := h
  have hflip : List.Forall₂ SameEntry m' l := hl.flip.imp fun _ _ => SameEntry.symm
  have hcomp : Relation.Comp (List.Forall₂ SameEntry) List.Perm m' m := ⟨l, hflip, hp.symm⟩
  rwa [List.forall₂_comp_perm_eq_perm_comp_forall₂] at hcomp

lemma Reordered.exists_entry (h : Reordered m m') (he : e ∈ m) : ∃ e' ∈ m', SameEntry e e' := by
  obtain ⟨l, hp, hl⟩ := h
  obtain ⟨i, hi, rfl⟩ := List.mem_iff_getElem.mp (hp.mem_iff.mp he)
  have hi' : i < m'.length := hl.length_eq ▸ hi
  exact ⟨m'[i], List.getElem_mem hi', (List.forall₂_iff_get.mp hl).2 i hi hi'⟩

lemma Reordered.mem_of_ne (h : Reordered m m') (he : e ∈ m) (hne : textKey e ≠ some "attStmt") :
    e ∈ m' := by
  obtain ⟨e', he', rfl | ⟨s, s', rfl, -, -⟩⟩ := h.exists_entry he
  · exact he'
  · exact absurd rfl hne

lemma Reordered.exists_stmt (h : Reordered m m') {stmt : Value}
    (hm : ∀ s, (.text "attStmt", .map s) ∈ m → DistinctKeys s)
    (he : (.text "attStmt", stmt) ∈ m) :
    ∃ stmt', (.text "attStmt", stmt') ∈ m' ∧ SameStmt stmt stmt' := by
  obtain ⟨e', he', rfl | ⟨s, s', heq, rfl, hp⟩⟩ := h.exists_entry he
  · exact ⟨stmt, he', Or.inl rfl⟩
  · obtain rfl : stmt = .map s := (Prod.mk.inj heq).2
    exact ⟨.map s', he', Or.inr ⟨s, s', rfl, rfl, hp, hm s he⟩⟩

lemma Reordered.distinctKeys (h : Reordered m m') (hm : DistinctKeys m) : DistinctKeys m' := by
  obtain ⟨l, hp, hl⟩ := h
  have hkeys : l.filterMap textKey = m'.filterMap textKey := by
    clear hp
    induction hl with
    | nil => rfl
    | cons hab _ ih => rw [List.filterMap_cons, List.filterMap_cons, hab.textKey_eq, ih]
  rw [DistinctKeys, ← hkeys]
  exact hm.perm hp

lemma NoRepeats.reordered (h : NoRepeats m) (hr : Reordered m m') : NoRepeats m' where
  keys := hr.distinctKeys h.keys
  stmt := by
    intro s' hs'
    obtain ⟨e, he, heq | ⟨t, s, ht, rfl, hp⟩⟩ := hr.symm.exists_entry hs'
    · exact h.stmt s' (heq ▸ he)
    · obtain rfl : s' = t := by simpa using ht
      exact (h.stmt s he).perm hp.symm

/-! ### Reading them -/

variable {fmt : String} {wanted : List Field}

lemma matched_readStmt (h : DistinctKeys s) (hp : s.Perm s') :
    Matched Eq (readStmt fmt wanted (.map s)) (readStmt fmt wanted (.map s')) := by
  intro st hst
  -- each entry is the one its key was read from
  have hreads : ∀ f ∈ wanted, ∀ v, (.text f.key, v) ∈ s' → ∃ a, readValue fmt f v = .ok a := by
    intro f hf v hv
    have hspec := AttStmt.readStmt_spec hst hf
    rw [h.entryOf_iff.mpr (hp.mem_iff.mpr hv), Option.map_some] at hspec
    obtain ⟨a, -, ha⟩ := Option.map_eq_some_iff.mp hspec.symm
    exact ⟨a, ha.symm⟩
  obtain ⟨st', hst'⟩ := AttStmt.readStmt_isOk hreads
  refine ⟨st', hst', funext fun f => ?_⟩
  by_cases hf : f ∈ wanted
  · have hspec := AttStmt.readStmt_spec hst hf
    rw [h.entryOf_perm hp, AttStmt.readStmt_spec hst' hf] at hspec
    exact Option.map_injective (fun _ _ => Outcome.ok.inj) hspec.symm
  · rw [AttStmt.readStmt_unwanted hst hf, AttStmt.readStmt_unwanted hst' hf]

section
variable {E : Env}

lemma matched_readStmt_bind {β : Type} {k : Fields → Res β} (h : DistinctKeys s)
    (hp : s.Perm s') :
    Matched Eq (readStmt fmt wanted (.map s) >>= k) (readStmt fmt wanted (.map s') >>= k) := by
  refine .bind (matched_readStmt h hp) fun st st' _ heq => ?_
  rw [heq]
  exact .refl (fun _ => rfl) _

open Attestation in
/-- **Every format verifies its statement the same in every order.** -/
lemma matched_verify {stmt stmt' : Value} {authData credId : Bytes} {hash : ArrayN UInt8 32}
    {pk : PublicKey} {anchors : List Bytes} {aaguid : ArrayN UInt8 16}
    (h : SameStmt stmt stmt') :
    Matched Eq (verify E fmt stmt authData hash pk credId anchors aaguid)
      (verify E fmt stmt' authData hash pk credId anchors aaguid) := by
  rcases h with rfl | ⟨s, s', rfl, rfl, hp, hd⟩
  · exact .refl (fun _ => rfl) _
  · unfold verify
    split
    · exact .refl (fun _ => rfl) _
    · exact matched_readStmt_bind hd hp
    · exact matched_readStmt_bind hd hp
    · exact matched_readStmt_bind hd hp
    · exact matched_readStmt_bind hd hp
    · exact matched_readStmt_bind hd hp
    · exact matched_readStmt_bind hd hp
    · exact .refl (fun _ => rfl) _

open Registration in
lemma fmtText_eq_some {fmt : String} :
    fmtText e = some fmt ↔ e = (.text "fmt", .text fmt) := by
  unfold fmtText
  split
  · rename_i k s
    by_cases hk : k = "fmt" <;> simp [hk]
  · rename_i hne
    simp only [reduceCtorEq, false_iff]
    rintro rfl
    exact hne _ _ rfl

open Registration in
/-- **An attestation object is read the same in every order**, up to the order of its
statement. -/
lemma matched_parse {data data' : Bytes} {n n' : ℕ}
    (hread : E.cborFromReader data = .ok (.map m, n))
    (hread' : E.cborFromReader data' = .ok (.map m', n')) (h : NoRepeats m)
    (hr : Reordered m m') :
    Matched (fun p p' => p.1 = p'.1 ∧ p.2.1 = p'.2.1 ∧ SameStmt p.2.2 p'.2.2)
      (parseAttestationObject E data) (parseAttestationObject E data') := by
  rintro ⟨fmt, authData, stmt⟩ hparse
  obtain ⟨_, _, hc, hfmt, hdata, hstmt⟩ := parseAttestationObject_eq_ok.mp hparse
  rw [hread] at hc
  cases hc
  have hkeys := (h.reordered hr).keys
  have hfmtKey : ∀ e b, fmtText e = some b → textKey e = some "fmt" := fun e b hb => by
    rw [fmtText_eq_some.mp hb, textKey]
  obtain ⟨e, he, hf⟩ := (h.keys.lastSome_iff hfmtKey).mp hfmt
  have hfmt' : (.text "fmt", .text fmt) ∈ m' := by
    rw [fmtText_eq_some.mp hf] at he
    exact hr.mem_of_ne he (by simp [textKey])
  have hdata' : (.text "authData", .bytes authData) ∈ m' :=
    hr.mem_of_ne (h.keys.entryOf_iff.mp hdata) (by simp [textKey])
  obtain ⟨stmt', hstmt', hsame⟩ := hr.exists_stmt h.stmt (h.keys.entryOf_iff.mp hstmt)
  refine ⟨(fmt, authData, stmt'), ?_, rfl, rfl, hsame⟩
  exact parseAttestationObject_eq_ok.mpr ⟨m', n', hread',
    (hkeys.lastSome_iff hfmtKey).mpr ⟨_, hfmt', fmtText_eq_some.mpr rfl⟩,
    hkeys.entryOf_iff.mpr hdata', hkeys.entryOf_iff.mpr hstmt'⟩

end

/-! ### Registration -/

section
open Registration
variable {E : Env} {rp : RelyingParty} {clock : Clock} {challenge : Challenge}
  {response response' : AuthenticatorAttestationResponse} {userId : Bytes} {heap : Heap}

/-- The result of registering is the same, or an error in both cases. -/
def SameResult (r r' : Res RegistrationResult) : Prop :=
  (∃ a, r = .ok a ∧ r' = .ok a) ∨ ∃ e e', r = .err e ∧ r' = .err e'

/-- Two responses with the same client data, and with attestation objects that are decoded to the
maps `m` and `m'`. -/
structure Carry (E : Env) (response response' : AuthenticatorAttestationResponse)
    (m m' : List (Value × Value)) : Prop where
  clientData : response.clientDataJson = response'.clientDataJson
  first : ∃ n, E.cborFromReader response.attestationObject = .ok (.map m, n)
  second : ∃ n, E.cborFromReader response'.attestationObject = .ok (.map m', n)

lemma Carry.symm (h : Carry E response response' m m') : Carry E response' response m' m :=
  ⟨h.clientData.symm, h.second, h.first⟩

lemma matched_verifyAttestation (hc : Carry E response response' m m') (h : NoRepeats m)
    (hr : Reordered m m') (p : ClientData.ParsedClientData) :
    Matched Eq (verifyAttestation E rp clock response userId p)
      (verifyAttestation E rp clock response' userId p) := by
  obtain ⟨n, hread⟩ := hc.first
  obtain ⟨n', hread'⟩ := hc.second
  refine .bind_same fun hash _ => ?_
  refine .bind (matched_parse hread hread' h hr) fun parts parts' _ hparts => ?_
  obtain ⟨fmt, authData, stmt⟩ := parts
  obtain ⟨fmt', authData', stmt'⟩ := parts'
  obtain ⟨rfl, rfl, hstmt⟩ := hparts
  refine .bind_same fun ad _ => ?_
  refine .bind_same fun cd _ => ?_
  refine .bind_same fun pk _ => ?_
  refine .bind (matched_verify hstmt) fun t t' _ ht => ?_
  rw [ht]
  exact .refl (fun _ => rfl) _

lemma matched_verifyRegistration (hc : Carry E response response' m m') (h : NoRepeats m)
    (hr : Reordered m m') :
    Matched Eq ((verifyRegistration E rp clock challenge response userId).run heap).1
      ((verifyRegistration E rp clock challenge response' userId).run heap).1 := by
  intro r hok
  obtain ⟨p, hcheck, hrest⟩ := Stateful.run_bind_eq_ok.mp hok
  obtain ⟨u, hlock, hverify⟩ := Stateful.run_bind_eq_ok.mp hrest
  obtain ⟨r', hverify', rfl⟩ := matched_verifyAttestation hc h hr p r hverify
  have hcheck' : checkClientData E rp clock challenge response' = .ok p := by
    rw [checkClientData, ← hc.clientData]
    exact hcheck
  refine ⟨r, Stateful.run_bind_eq_ok.mpr ⟨p, hcheck', ?_⟩, rfl⟩
  exact Stateful.run_bind_eq_ok.mpr ⟨u, hlock, hverify'⟩

/-- **Registration does not depend on the order of the entries.** -/
theorem registration_order_independent (E : Env) (rp : RelyingParty) (clock : Clock)
    (challenge : Challenge) (response response' : AuthenticatorAttestationResponse)
    (userId : Bytes) (sets : Arc → Finset Bytes) (calls : List Ceremony.Call)
    (m m' : List (Value × Value)) (hc : Carry E response response' m m') (h : NoRepeats m)
    (hr : Reordered m m') :
    SameResult
      ((verifyRegistration E rp clock challenge response userId).run
        (Ceremony.after E calls (Heap.new sets))).1
      ((verifyRegistration E rp clock challenge response' userId).run
        (Ceremony.after E calls (Heap.new sets))).1 := by
  have hsound := Ceremony.sound_after (E := E) calls (Heap.sound_new sets)
  exact Outcome.ok_or_err (matched_verifyRegistration hc h hr)
    (matched_verifyRegistration hc.symm (h.reordered hr) hr.symm)
    (safe_verifyRegistration hsound) (safe_verifyRegistration hsound)

end

/-! ### A registration in two orders -/

section
open Recorded Transplant

def packedMap : List (Value × Value) :=
  [(.text "fmt", .text "packed"), (.text "attStmt", Attestation.packedStmt),
    (.text "authData", .bytes (createAuthData aaguid))]

/-- The statement of the recorded registration with its entries in reverse. -/
def reversedStmt : List (Value × Value) :=
  [(.text "x5c", X5c.arrayOf [leafDer]), (.text "sig", .bytes Attestation.packedSig),
    (.text "alg", .integer (-7))]

def reversedMap : List (Value × Value) :=
  [(.text "authData", .bytes (createAuthData aaguid)), (.text "attStmt", .map reversedStmt),
    (.text "fmt", .text "packed")]

/-- The attestation object with both maps in reverse. -/
def reversedObject : Bytes :=
  beBytes 12 0xa36861757468446174615894 ++ createAuthData aaguid ++
    beBytes 17 0x6761747453746d74a3637835638159013d ++ leafDer ++
    beBytes 6 0x637369675847 ++ Attestation.packedSig ++
    beBytes 16 0x63616c672663666d74667061636b6564

def bothOrders : Record :=
  { packedRecord with cbor := (reversedObject, .map reversedMap) :: packedRecord.cbor }

/-- Registering with an attestation object. -/
def register (E : Env) (object : Bytes) : Res RegistrationResult :=
  ((Registration.verifyRegistration E rp clock createChallenge ⟨createJson, object⟩ [0x75]).run
    (Ceremony.after E [] (Heap.new fun _ => ∅))).1

lemma register_isOk : (register bothOrders.env packedObject).isOk = true := by decide +kernel

lemma reversedObject_ne : packedObject ≠ reversedObject := by decide

lemma bothOrders_carry : Carry bothOrders.env ⟨createJson, packedObject⟩
    ⟨createJson, reversedObject⟩ packedMap reversedMap where
  clientData := rfl
  first := by
    refine ⟨packedObject.length, Record.env_cborFromReader ?_⟩
    rw [bothOrders, packedRecord, answer_tail reversedObject_ne, answer_tail packedObject_ne,
      packedMap, answer_head]
  second := by
    refine ⟨reversedObject.length, Record.env_cborFromReader ?_⟩
    rw [bothOrders, answer_head]

lemma packedMap_noRepeats : NoRepeats packedMap where
  keys := by simp [DistinctKeys, packedMap, textKey]
  stmt := by
    rintro s hs
    have hstmt : Value.map s = Attestation.packedStmt := by simpa [packedMap] using hs
    cases hstmt
    simp [DistinctKeys, textKey]

lemma packedMap_reordered : Reordered packedMap reversedMap := by
  refine ⟨packedMap.reverse, (List.reverse_perm _).symm, ?_⟩
  refine .cons (Or.inl rfl) (.cons (Or.inr ⟨_, reversedStmt, rfl, rfl, ?_⟩)
    (.cons (Or.inl rfl) .nil))
  exact (List.reverse_perm _).symm

/-- A packed registration is accepted, and in the other order with the same result. -/
theorem reversed_registers : (register bothOrders.env packedObject).isOk = true ∧
    SameResult (register bothOrders.env packedObject)
      (register bothOrders.env reversedObject) := by
  refine ⟨register_isOk, ?_⟩
  rw [register, register]
  exact registration_order_independent bothOrders.env rp clock createChallenge
    ⟨createJson, packedObject⟩ ⟨createJson, reversedObject⟩ [0x75] (fun _ => ∅) [] packedMap
    reversedMap bothOrders_carry packedMap_noRepeats packedMap_reordered

end

end Caden.MapOrder
