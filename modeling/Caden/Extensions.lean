import Caden.Grammar
import Caden.MapOrder
import Caden.Options

/-!
The extension outputs that an authenticator has signed, as typed values.

The outputs are the entries of a CBOR map, by identifier. Of several entries with one identifier the
last one is kept, while inside an output the first entry of a field counts.
-/

namespace Caden

/-! ### Typed outputs -/

structure CredProps where
  rk : Option Bool
  deriving DecidableEq

structure PrfValues where
  first : Bytes
  second : Option Bytes
  deriving DecidableEq

structure PrfExtension where
  results : Option PrfValues
  deriving DecidableEq

structure LargeBlobExtension where
  supported : Option Bool
  blob : Option Bytes
  written : Option Bool
  deriving DecidableEq

/-- A typed view over the outputs. -/
structure ExtensionView where
  map : Extensions

def RegistrationResult.extensionView (r : RegistrationResult) : Option ExtensionView :=
  r.extensions.map .mk

def AuthenticationResult.extensionView (r : AuthenticationResult) : Option ExtensionView :=
  r.extensions.map .mk

namespace ExtensionView

open AttStmt (textValue)
open Fold (lastSome)
open MapOrder (textKey DistinctKeys)

/-! ### CBOR map helpers -/

def findValue (map : List (Value × Value)) (key : String) : Option Value :=
  map.findSome? (textValue key)

def findBool (map : List (Value × Value)) (key : String) : Option Bool :=
  (findValue map key).bind fun
    | .bool b => some b
    | _ => none

def findBytes (map : List (Value × Value)) (key : String) : Option Bytes :=
  (findValue map key).bind fun
    | .bytes b => some b
    | _ => none

def u8TryFrom (i : ℤ) : Option UInt8 :=
  if 0 ≤ i ∧ i < 2 ^ 8 then some (UInt8.ofNat i.toNat) else none

def u32TryFrom (i : ℤ) : Option UInt32 :=
  if 0 ≤ i ∧ i < 2 ^ 32 then some (UInt32.ofNat i.toNat) else none

/-! ### The accessors -/

/-- What an accessor makes of the value of its extension. -/
def credPropsOf : Value → Option CredProps
  | .map map => some ⟨findBool map "rk"⟩
  | _ => none

def appidOf : Value → Option Bool
  | .bool b => some b
  | _ => none

def prfResults (outer : List (Value × Value)) : Option (Option PrfValues) :=
  match findValue outer "results" with
  | none => some none
  | some (.map inner) => do
    let first ← findBytes inner "first"
    return some ⟨first, findBytes inner "second"⟩
  | some _ => none

def prfOf : Value → Option PrfExtension
  | .map outer => (prfResults outer).map .mk
  | _ => none

def largeBlobOf : Value → Option LargeBlobExtension
  | .map map => some ⟨findBool map "supported", findBytes map "blob", findBool map "written"⟩
  | _ => none

def credProtectOf : Value → Option CredProtectPolicy
  | .integer i => do
    match ← u8TryFrom i with
    | 1 => some .userVerificationOptional
    | 2 => some .userVerificationOptionalWithCredentialIdList
    | 3 => some .userVerificationRequired
    | _ => none
  | _ => none

def minPinLengthOf : Value → Option UInt32
  | .integer i => u32TryFrom i
  | _ => none

variable (view : ExtensionView)

def credProps : Option CredProps := (view.map.lookup "credProps").bind credPropsOf
def appid : Option Bool := (view.map.lookup "appid").bind appidOf
def prf : Option PrfExtension := (view.map.lookup "prf").bind prfOf
def largeBlob : Option LargeBlobExtension := (view.map.lookup "largeBlob").bind largeBlobOf
def credProtect : Option CredProtectPolicy := (view.map.lookup "credProtect").bind credProtectOf
def minPinLength : Option UInt32 := (view.map.lookup "minPinLength").bind minPinLengthOf

end ExtensionView

/-- All typed outputs. -/
structure Outputs where
  credProps : Option CredProps
  appid : Option Bool
  prf : Option PrfExtension
  largeBlob : Option LargeBlobExtension
  credProtect : Option CredProtectPolicy
  minPinLength : Option UInt32
  deriving DecidableEq

def ExtensionView.outputs (view : ExtensionView) : Outputs where
  credProps := view.credProps
  appid := view.appid
  prf := view.prf
  largeBlob := view.largeBlob
  credProtect := view.credProtect
  minPinLength := view.minPinLength

namespace Outputs

open AttStmt (textValue)
open ExtensionView
open Fold (lastSome)
open MapOrder (textKey DistinctKeys)

variable {m m' inner : List (Value × Value)} {key : String} {v v' : Value}

/-! ### What a map says -/

/-- `v` is the value of the first entry under `key`. -/
def First (m : List (Value × Value)) (key : String) (v : Value) : Prop :=
  ∃ p s, m = p ++ (.text key, v) :: s ∧ ∀ e ∈ p, textKey e ≠ some key

/-- `v` is the value of the last entry under `key`. -/
def Last (m : List (Value × Value)) (key : String) (v : Value) : Prop :=
  ∃ p s, m = p ++ (.text key, v) :: s ∧ ∀ e ∈ s, textKey e ≠ some key

/-- `x` is the field `key`, which is there when its first entry has the right type. -/
def IsField {α : Type} (m : List (Value × Value)) (key : String) (wrap : α → Value)
    (x : Option α) : Prop :=
  ∀ a, x = some a ↔ First m key (wrap a)

/-- `x` is the output `key`, which is there when its last entry says it. -/
def IsOutput {α : Type} (m : List (Value × Value)) (key : String) (Says : α → Value → Prop)
    (x : Option α) : Prop :=
  ∀ a, x = some a ↔ ∃ v, Last m key v ∧ Says a v

inductive SaysCredProps (c : CredProps) : Value → Prop
  | mk {m : List (Value × Value)} (rk : IsField m "rk" .bool c.rk) : SaysCredProps c (.map m)

inductive SaysLargeBlob (l : LargeBlobExtension) : Value → Prop
  | mk {m : List (Value × Value)} (supported : IsField m "supported" .bool l.supported)
      (blob : IsField m "blob" .bytes l.blob) (written : IsField m "written" .bool l.written) :
      SaysLargeBlob l (.map m)

/-- Without results, or with results of which the first is there. -/
inductive SaysPrf : PrfExtension → Value → Prop
  | empty {m : List (Value × Value)} (h : ∀ e ∈ m, textKey e ≠ some "results") :
      SaysPrf ⟨none⟩ (.map m)
  | results {m inner : List (Value × Value)} {values : PrfValues}
      (h : First m "results" (.map inner)) (first : First inner "first" (.bytes values.first))
      (second : IsField inner "second" .bytes values.second) : SaysPrf ⟨some values⟩ (.map m)

/-- The number of a policy. -/
def code : CredProtectPolicy → ℤ
  | .userVerificationOptional => 1
  | .userVerificationOptionalWithCredentialIdList => 2
  | .userVerificationRequired => 3

/-- The outputs are what the map says. -/
structure ReportedIn (o : Outputs) (m : List (Value × Value)) : Prop where
  credProps : IsOutput m "credProps" SaysCredProps o.credProps
  appid : IsOutput m "appid" (fun b v => v = .bool b) o.appid
  prf : IsOutput m "prf" SaysPrf o.prf
  largeBlob : IsOutput m "largeBlob" SaysLargeBlob o.largeBlob
  credProtect : IsOutput m "credProtect" (fun p v => v = .integer (code p)) o.credProtect
  minPinLength : IsOutput m "minPinLength" (fun n v => v = .integer n.toNat) o.minPinLength

/-! ### The accessors read it -/

lemma textValue_eq_none {e : Value × Value} :
    textValue key e = none ↔ textKey e ≠ some key := by
  rw [← not_iff_not, not_not, ← ne_eq, Option.ne_none_iff_exists']
  refine ⟨?_, ?_⟩
  · rintro ⟨v, hv⟩
    exact MapOrder.textValue_textKey hv
  · intro h
    unfold textKey at h
    split at h
    · cases h
      exact ⟨_, AttStmt.textValue_eq_some.mpr rfl⟩
    · cases h

lemma findValue_eq_some : findValue m key = some v ↔ First m key v := by
  simp only [findValue, List.findSome?_eq_some_iff, AttStmt.textValue_eq_some, textValue_eq_none,
    First]
  refine ⟨?_, ?_⟩
  · rintro ⟨p, _, s, rfl, rfl, hp⟩
    exact ⟨p, s, rfl, hp⟩
  · rintro ⟨p, s, rfl, hp⟩
    exact ⟨p, _, s, rfl, rfl, hp⟩

lemma findValue_eq_none : findValue m key = none ↔ ∀ e ∈ m, textKey e ≠ some key := by
  simp only [findValue, List.findSome?_eq_none_iff, textValue_eq_none]

lemma lastSome_eq_some : lastSome (textValue key) m = some v ↔ Last m key v := by
  simp only [Fold.lastSome_eq_some_iff, AttStmt.textValue_eq_some, textValue_eq_none, Last]
  refine ⟨?_, ?_⟩
  · rintro ⟨p, _, s, rfl, rfl, hs⟩
    exact ⟨p, s, rfl, hs⟩
  · rintro ⟨p, s, rfl, hs⟩
    exact ⟨p, _, s, rfl, rfl, hs⟩

lemma lookup_eq (m : List (Value × Value)) (key : String) :
    (Fold.collect (Grammar.textEntries m)).lookup key = lastSome (textValue key) m := by
  rw [Fold.lookup_collect, Grammar.textEntries, Fold.lastSome_filterMap]
  refine congrArg (lastSome · m) (funext fun e => ?_)
  obtain ⟨_ | _ | _ | k | _ | _ | _ | _ | _, v⟩ := e <;> rfl

section
variable {α : Type} {wrap : α → Value} {x y : Option α} {Says : α → Value → Prop}
  {read : Value → Option α}

lemma IsField.unique (hx : IsField m key wrap x) (hy : IsField m key wrap y) : x = y :=
  Option.ext fun a => (hx a).trans (hy a).symm

lemma IsOutput.unique (hx : IsOutput m key Says x) (hy : IsOutput m key Says y) : x = y :=
  Option.ext fun a => (hx a).trans (hy a).symm

lemma isField_findValue (hread : ∀ v a, read v = some a ↔ v = wrap a) :
    IsField m key wrap ((findValue m key).bind read) := by
  intro a
  simp [Option.bind_eq_some_iff, hread, findValue_eq_some]

lemma isField_findBool : IsField m key .bool (findBool m key) :=
  isField_findValue fun v a => by cases v <;> simp

lemma isField_findBytes : IsField m key .bytes (findBytes m key) :=
  isField_findValue fun v a => by cases v <;> simp

lemma isOutput_lookup (hread : ∀ v a, read v = some a ↔ Says a v) :
    IsOutput m key Says (((Fold.collect (Grammar.textEntries m)).lookup key).bind read) := by
  intro a
  rw [lookup_eq]
  simp [Option.bind_eq_some_iff, hread, lastSome_eq_some]

end

lemma credPropsOf_eq_some {c : CredProps} : credPropsOf v = some c ↔ SaysCredProps c v := by
  refine ⟨?_, ?_⟩
  · intro h
    unfold credPropsOf at h
    split at h
    · cases h
      exact ⟨isField_findBool⟩
    · cases h
  · rintro ⟨hrk⟩
    rw [credPropsOf, isField_findBool.unique hrk]

lemma largeBlobOf_eq_some {l : LargeBlobExtension} :
    largeBlobOf v = some l ↔ SaysLargeBlob l v := by
  refine ⟨?_, ?_⟩
  · intro h
    unfold largeBlobOf at h
    split at h
    · cases h
      exact ⟨isField_findBool, isField_findBytes, isField_findBool⟩
    · cases h
  · rintro ⟨hsupported, hblob, hwritten⟩
    rw [largeBlobOf, isField_findBool.unique hsupported, isField_findBytes.unique hblob,
      isField_findBool.unique hwritten]

lemma prfOf_eq_some {p : PrfExtension} : prfOf v = some p ↔ SaysPrf p v := by
  refine ⟨?_, ?_⟩
  · intro h
    unfold prfOf at h
    split at h
    · rename_i outer
      obtain ⟨results, hresults, rfl⟩ := Option.map_eq_some_iff.mp h
      unfold prfResults at hresults
      split at hresults
      · rename_i hnone
        cases hresults
        exact .empty (findValue_eq_none.mp hnone)
      · rename_i inner hinner
        obtain ⟨first, hfirst, hvalues⟩ := Option.bind_eq_some_iff.mp hresults
        cases hvalues
        exact .results (findValue_eq_some.mp hinner) ((isField_findBytes _).mp hfirst)
          isField_findBytes
      · cases hresults
    · cases h
  · rintro (h | ⟨h, hfirst, hsecond⟩)
    · rw [prfOf, prfResults, findValue_eq_none.mpr h]
      rfl
    · rw [prfOf, prfResults, findValue_eq_some.mpr h]
      simp only [(isField_findBytes _).mpr hfirst, isField_findBytes.unique hsecond]
      rfl

lemma u8TryFrom_eq_some {i : ℤ} {n : UInt8} : u8TryFrom i = some n ↔ i = n.toNat := by
  unfold u8TryFrom
  split
  · rename_i hi
    have hto : (UInt8.ofNat i.toNat).toNat = i.toNat := UInt8.toNat_ofNat_of_lt' (by simp; omega)
    rw [Option.some.injEq, ← UInt8.toNat_inj, hto]
    omega
  · rename_i hi
    have hn : n.toNat < 2 ^ 8 := n.toNat_lt
    simp only [reduceCtorEq, false_iff]
    omega

lemma u32TryFrom_eq_some {i : ℤ} {n : UInt32} : u32TryFrom i = some n ↔ i = n.toNat := by
  unfold u32TryFrom
  split
  · rename_i hi
    have hto : (UInt32.ofNat i.toNat).toNat = i.toNat := UInt32.toNat_ofNat_of_lt' (by simp; omega)
    rw [Option.some.injEq, ← UInt32.toNat_inj, hto]
    omega
  · rename_i hi
    have hn : n.toNat < 2 ^ 32 := n.toNat_lt
    simp only [reduceCtorEq, false_iff]
    omega

lemma credProtectOf_eq_some {p : CredProtectPolicy} :
    credProtectOf v = some p ↔ v = .integer (code p) := by
  refine ⟨?_, ?_⟩
  · intro h
    unfold credProtectOf at h
    split at h
    · obtain ⟨n, hn, hp⟩ := Option.bind_eq_some_iff.mp h
      rw [u8TryFrom_eq_some.mp hn]
      split at hp <;> cases hp <;> rfl
    · cases h
  · rintro rfl
    cases p <;> rfl

lemma minPinLengthOf_eq_some {n : UInt32} :
    minPinLengthOf v = some n ↔ v = .integer n.toNat := by
  cases v with
  | integer i => rw [minPinLengthOf, u32TryFrom_eq_some, Value.integer.injEq]
  | _ => simp [minPinLengthOf]

/-- **The view reports what the map says.** -/
lemma reportedIn_outputs (m : List (Value × Value)) :
    (ExtensionView.mk (Fold.collect (Grammar.textEntries m))).outputs.ReportedIn m where
  credProps := isOutput_lookup fun _ _ => credPropsOf_eq_some
  appid := isOutput_lookup fun v _ => by cases v <;> simp [appidOf]
  prf := isOutput_lookup fun _ _ => prfOf_eq_some
  largeBlob := isOutput_lookup fun _ _ => largeBlobOf_eq_some
  credProtect := isOutput_lookup fun _ _ => credProtectOf_eq_some
  minPinLength := isOutput_lookup fun _ _ => minPinLengthOf_eq_some

lemma ReportedIn.unique {o o' : Outputs} (h : o.ReportedIn m) (h' : o'.ReportedIn m) : o = o' := by
  cases o
  cases o'
  rw [mk.injEq]
  exact ⟨h.credProps.unique h'.credProps, h.appid.unique h'.appid, h.prf.unique h'.prf,
    h.largeBlob.unique h'.largeBlob, h.credProtect.unique h'.credProtect,
    h.minPinLength.unique h'.minPinLength⟩

/-! ### Writing outputs -/

/-- The entries of the fields that are there. -/
def entriesOf (fields : List (String × Option Value)) : List (Value × Value) :=
  fields.filterMap fun f => f.2.map (.text f.1, ·)

def credPropsValue (c : CredProps) : Value := .map (entriesOf [("rk", c.rk.map .bool)])

def prfValuesValue (p : PrfValues) : Value :=
  .map (entriesOf [("first", some (.bytes p.first)), ("second", p.second.map .bytes)])

def prfValue (p : PrfExtension) : Value :=
  .map (entriesOf [("results", p.results.map prfValuesValue)])

def largeBlobValue (l : LargeBlobExtension) : Value :=
  .map (entriesOf [("supported", l.supported.map .bool), ("blob", l.blob.map .bytes),
    ("written", l.written.map .bool)])

def fields (o : Outputs) : List (String × Option Value) :=
  [("credProps", o.credProps.map credPropsValue), ("appid", o.appid.map .bool),
    ("prf", o.prf.map prfValue), ("largeBlob", o.largeBlob.map largeBlobValue),
    ("credProtect", o.credProtect.map fun p => .integer (code p)),
    ("minPinLength", o.minPinLength.map fun n => .integer n.toNat)]

/-- The entries of the outputs that are there. -/
def entries (o : Outputs) : List (Value × Value) := entriesOf o.fields

section
variable {fields : List (String × Option Value)}

lemma mem_entriesOf : (.text key, v) ∈ entriesOf fields ↔ (key, some v) ∈ fields := by
  simp only [entriesOf, List.mem_filterMap, Option.map_eq_some_iff, Prod.mk.injEq,
    Value.text.injEq]
  refine ⟨?_, ?_⟩
  · rintro ⟨⟨_, _⟩, hf, _, rfl, rfl, rfl⟩
    exact hf
  · exact fun hf => ⟨_, hf, v, rfl, rfl, rfl⟩

lemma textKeys_entriesOf :
    ((entriesOf fields).filterMap textKey).Sublist (fields.map Prod.fst) := by
  induction fields with
  | nil => exact List.Sublist.slnil
  | cons f fields ih =>
    obtain ⟨k, _ | v⟩ := f
    · exact ih.cons k
    · exact ih.cons_cons k

lemma distinctKeys_entriesOf (h : (fields.map Prod.fst).Nodup) : DistinctKeys (entriesOf fields) :=
  textKeys_entriesOf.nodup h

end

lemma first_iff_mem (h : DistinctKeys m) : First m key v ↔ (.text key, v) ∈ m := by
  refine ⟨?_, fun hv => ?_⟩
  · rintro ⟨p, s, rfl, -⟩
    simp
  · rcases hfind : findValue m key with _ | w
    · exact absurd rfl (findValue_eq_none.mp hfind _ hv)
    · have hw := findValue_eq_some.mp hfind
      obtain ⟨p, s, hm, -⟩ := hw
      have hmem : (.text key, w) ∈ m := by simp [hm]
      have heq : ((Value.text key, v) : Value × Value) = (.text key, w) :=
        Fold.eq_of_filterMap_nodup h hv hmem rfl rfl
      cases heq
      exact findValue_eq_some.mp hfind

lemma last_iff_mem (h : DistinctKeys m) : Last m key v ↔ (.text key, v) ∈ m :=
  lastSome_eq_some.symm.trans h.entryOf_iff

lemma last_append {others : List (Value × Value)} (h : ∀ e ∈ others, textKey e ≠ some key) :
    Last (m ++ others) key v ↔ Last m key v := by
  have hnone : lastSome (textValue key) others = none :=
    Fold.lastSome_eq_none_iff.mpr fun e he => textValue_eq_none.mpr (h e he)
  rw [← lastSome_eq_some, Fold.lastSome_append, hnone, Option.none_or, lastSome_eq_some]

lemma isField_entriesOf {α : Type} {fields : List (String × Option Value)} {wrap : α → Value}
    {x : Option α} (hkeys : (fields.map Prod.fst).Nodup) (hwrap : Function.Injective wrap)
    (h : (key, x.map wrap) ∈ fields) : IsField (entriesOf fields) key wrap x := by
  intro a
  rw [first_iff_mem (distinctKeys_entriesOf hkeys), mem_entriesOf]
  refine ⟨?_, fun ha => ?_⟩
  · rintro rfl
    exact h
  · have heq := congrArg Prod.snd (List.inj_on_of_nodup_map hkeys h ha rfl)
    obtain ⟨b, rfl, hb⟩ := Option.map_eq_some_iff.mp heq
    rw [hwrap hb]

lemma isOutput_entriesOf {α : Type} {fields : List (String × Option Value)}
    {others : List (Value × Value)} {Says : α → Value → Prop} {w : α → Value} {x : Option α}
    (hkeys : (fields.map Prod.fst).Nodup) (hothers : ∀ e ∈ others, textKey e ≠ some key)
    (hwrite : ∀ a b, Says a (w b) ↔ b = a) (h : (key, x.map w) ∈ fields) :
    IsOutput (entriesOf fields ++ others) key Says x := by
  intro a
  simp only [last_append hothers, last_iff_mem (distinctKeys_entriesOf hkeys), mem_entriesOf]
  refine ⟨?_, ?_⟩
  · rintro rfl
    exact ⟨w a, h, (hwrite a a).mpr rfl⟩
  · rintro ⟨v, hv, ha⟩
    have heq := congrArg Prod.snd (List.inj_on_of_nodup_map hkeys h hv rfl)
    obtain ⟨b, rfl, rfl⟩ := Option.map_eq_some_iff.mp heq
    rw [(hwrite a b).mp ha]

lemma saysCredProps_value {c d : CredProps} : SaysCredProps c (credPropsValue d) ↔ d = c := by
  have hd : SaysCredProps d (credPropsValue d) :=
    ⟨isField_entriesOf (by simp) (fun _ _ => Value.bool.inj) (by simp)⟩
  rw [← credPropsOf_eq_some, credPropsOf_eq_some.mpr hd, Option.some.injEq]

lemma saysLargeBlob_value {l l' : LargeBlobExtension} :
    SaysLargeBlob l (largeBlobValue l') ↔ l' = l := by
  have hl : SaysLargeBlob l' (largeBlobValue l') :=
    ⟨isField_entriesOf (by simp) (fun _ _ => Value.bool.inj) (by simp),
      isField_entriesOf (by simp) (fun _ _ => Value.bytes.inj) (by simp),
      isField_entriesOf (by simp) (fun _ _ => Value.bool.inj) (by simp)⟩
  rw [← largeBlobOf_eq_some, largeBlobOf_eq_some.mpr hl, Option.some.injEq]

lemma saysPrf_value {p p' : PrfExtension} : SaysPrf p (prfValue p') ↔ p' = p := by
  have hp : SaysPrf p' (prfValue p') := by
    obtain ⟨_ | values⟩ := p'
    · exact .empty (by simp [entriesOf])
    · refine .results ⟨[], [], rfl, by simp⟩ ?_
        (isField_entriesOf (by simp) (fun _ _ => Value.bytes.inj) (by simp))
      exact (first_iff_mem (distinctKeys_entriesOf (by simp))).mpr (mem_entriesOf.mpr (by simp))
  rw [← prfOf_eq_some, prfOf_eq_some.mpr hp, Option.some.injEq]

lemma code_injective : Function.Injective code := by
  intro p q h
  cases p <;> cases q <;> first | rfl | cases h

/-- The identifiers of the typed outputs. -/
def identifiers : List String :=
  ["credProps", "appid", "prf", "largeBlob", "credProtect", "minPinLength"]

lemma reportedIn_entries {o : Outputs} {others : List (Value × Value)}
    (h : ∀ e ∈ others, ∀ key ∈ identifiers, textKey e ≠ some key) :
    o.ReportedIn (o.entries ++ others) := by
  have hkeys : (o.fields.map Prod.fst).Nodup := by
    have hids : o.fields.map Prod.fst = identifiers := rfl
    rw [hids]
    decide
  have hothers : ∀ key ∈ identifiers, ∀ e ∈ others, textKey e ≠ some key :=
    fun key hkey e he => h e he key hkey
  exact {
    credProps := isOutput_entriesOf hkeys (hothers _ (by simp [identifiers]))
      (fun _ _ => saysCredProps_value) (by simp [fields])
    appid := isOutput_entriesOf (w := .bool) hkeys (hothers _ (by simp [identifiers]))
      (fun _ _ => Value.bool.injEq _ _ ▸ Iff.rfl) (by simp [fields])
    prf := isOutput_entriesOf hkeys (hothers _ (by simp [identifiers]))
      (fun _ _ => saysPrf_value) (by simp [fields])
    largeBlob := isOutput_entriesOf hkeys (hothers _ (by simp [identifiers]))
      (fun _ _ => saysLargeBlob_value) (by simp [fields])
    credProtect := isOutput_entriesOf (w := fun p => .integer (code p)) hkeys
      (hothers _ (by simp [identifiers])) (by simp [code_injective.eq_iff]) (by simp [fields])
    minPinLength := isOutput_entriesOf (w := fun n => .integer n.toNat) hkeys
      (hothers _ (by simp [identifiers])) (by simp [UInt32.toNat_inj]) (by simp [fields]) }

/-! ### The order of entries -/

/-- The same value, with the entries of maps that repeat no text key in another order, at any
depth. -/
inductive Shuffled : Value → Value → Prop
  | refl (v : Value) : Shuffled v v
  | entry {p s : List (Value × Value)} {k v v' : Value} (h : Shuffled v v') :
      Shuffled (.map (p ++ (k, v) :: s)) (.map (p ++ (k, v') :: s))
  | perm {m m' : List (Value × Value)} (hd : DistinctKeys m) (h : m.Perm m') :
      Shuffled (.map m) (.map m')
  | trans {u v w : Value} (h : Shuffled u v) (h' : Shuffled v w) : Shuffled u w

lemma Shuffled.maps (h : Shuffled v v') : v = v' ∨ ∃ m m', v = .map m ∧ v' = .map m' := by
  induction h with
  | refl v => exact Or.inl rfl
  | entry h ih => exact Or.inr ⟨_, _, rfl, rfl⟩
  | perm hd h => exact Or.inr ⟨_, _, rfl, rfl⟩
  | trans h h' ih ih' =>
    rcases ih with rfl | ⟨m, _, rfl, rfl⟩
    · exact ih'
    · rcases ih' with rfl | ⟨_, m', -, rfl⟩
      · exact Or.inr ⟨m, _, rfl, rfl⟩
      · exact Or.inr ⟨m, m', rfl, rfl⟩

lemma rel_refl (x : Option Value) : Option.Rel Shuffled x x := by
  cases x with
  | none => exact .none
  | some v => exact .some (.refl v)

lemma rel_trans {x y z : Option Value} (h : Option.Rel Shuffled x y)
    (h' : Option.Rel Shuffled y z) : Option.Rel Shuffled x z := by
  cases h with
  | none => exact h'
  | some h =>
    cases h' with
    | some h' => exact .some (h.trans h')

lemma rel_or {x x' y y' : Option Value} (h : Option.Rel Shuffled x x')
    (h' : Option.Rel Shuffled y y') : Option.Rel Shuffled (x.or y) (x'.or y') := by
  cases h with
  | none => simpa using h'
  | some h => exact .some h

/-- What is found under a key, from either end. -/
def Found (m m' : List (Value × Value)) : Prop :=
  ∀ key, Option.Rel Shuffled (findValue m key) (findValue m' key) ∧
    Option.Rel Shuffled (lastSome (textValue key) m) (lastSome (textValue key) m')

lemma Found.entry {p s : List (Value × Value)} {k : Value} (h : Shuffled v v') :
    Found (p ++ (k, v) :: s) (p ++ (k, v') :: s) := by
  intro key
  have hone : Option.Rel Shuffled (textValue key (k, v)) (textValue key (k, v')) := by
    cases k with
    | text k =>
      simp only [textValue]
      split
      · exact .some h
      · exact .none
    | _ => exact .none
  have hfind : ∀ w, findValue (p ++ (k, w) :: s) key =
      (findValue p key).or ((textValue key (k, w)).or (findValue s key)) := by
    intro w
    rw [findValue, List.findSome?_append, List.findSome?_cons]
    cases textValue key (k, w) <;> rfl
  have hlast : ∀ w, lastSome (textValue key) (p ++ (k, w) :: s) =
      ((lastSome (textValue key) s).or (textValue key (k, w))).or (lastSome (textValue key) p) := by
    intro w
    rw [Fold.lastSome_append, ← List.singleton_append, Fold.lastSome_append,
      Fold.lastSome_singleton]
  rw [hfind, hfind, hlast, hlast]
  exact ⟨rel_or (rel_refl _) (rel_or hone (rel_refl _)),
    rel_or (rel_or (rel_refl _) hone) (rel_refl _)⟩

lemma Found.perm (hd : DistinctKeys m) (h : m.Perm m') : Found m m' := by
  intro key
  have hfind : findValue m key = findValue m' key := by
    refine Option.ext fun v => ?_
    rw [findValue_eq_some, findValue_eq_some, first_iff_mem hd, first_iff_mem (hd.perm h),
      h.mem_iff]
  have hlast : lastSome (textValue key) m = lastSome (textValue key) m' := hd.entryOf_perm h key
  rw [hfind, hlast]
  exact ⟨rel_refl _, rel_refl _⟩

lemma Shuffled.found (h : Shuffled v v') :
    ∀ m m', v = .map m → v' = .map m' → Found m m' := by
  induction h with
  | refl v =>
    rintro m _ rfl ⟨⟩
    exact fun key => ⟨rel_refl _, rel_refl _⟩
  | entry h ih =>
    rintro _ _ ⟨⟩ ⟨⟩
    exact .entry h
  | perm hd h =>
    rintro _ _ ⟨⟩ ⟨⟩
    exact .perm hd h
  | trans h h' ih ih' =>
    rintro m m' rfl rfl
    obtain ⟨n, rfl⟩ : ∃ n, _ = Value.map n := by
      rcases h.maps with hv | ⟨_, n, -, hv⟩
      · exact ⟨m, hv.symm⟩
      · exact ⟨n, hv⟩
    exact fun key => ⟨rel_trans (ih _ _ rfl rfl key).1 (ih' _ _ rfl rfl key).1,
      rel_trans (ih _ _ rfl rfl key).2 (ih' _ _ rfl rfl key).2⟩

lemma bind_eq_of_rel {α : Type} {x y : Option Value} {read : Value → Option α}
    (h : Option.Rel Shuffled x y) (hread : ∀ v v', Shuffled v v' → read v = read v') :
    x.bind read = y.bind read := by
  cases h with
  | none => rfl
  | some h => exact hread _ _ h

lemma findBool_shuffled (h : Found m m') (key : String) : findBool m key = findBool m' key := by
  refine bind_eq_of_rel (h key).1 fun v v' hv => ?_
  rcases hv.maps with rfl | ⟨_, _, rfl, rfl⟩ <;> rfl

lemma findBytes_shuffled (h : Found m m') (key : String) : findBytes m key = findBytes m' key := by
  refine bind_eq_of_rel (h key).1 fun v v' hv => ?_
  rcases hv.maps with rfl | ⟨_, _, rfl, rfl⟩ <;> rfl

lemma read_shuffled {α : Type} {read : Value → Option α}
    (hmap : ∀ m m', Found m m' → read (.map m) = read (.map m')) (h : Shuffled v v') :
    read v = read v' := by
  rcases h.maps with rfl | ⟨m, m', rfl, rfl⟩
  · rfl
  · exact hmap m m' (h.found m m' rfl rfl)

lemma prfResults_shuffled (h : Found m m') : prfResults m = prfResults m' := by
  have hresults := (h "results").1
  unfold prfResults
  generalize findValue m "results" = x at hresults ⊢
  generalize findValue m' "results" = y at hresults ⊢
  cases hresults with
  | none => rfl
  | some hv =>
    rcases hv.maps with rfl | ⟨n, n', rfl, rfl⟩
    · rfl
    · have hfound := hv.found n n' rfl rfl
      simp only [findBytes_shuffled hfound]

lemma outputs_shuffled (h : Shuffled (.map m) (.map m')) :
    (ExtensionView.mk (Fold.collect (Grammar.textEntries m))).outputs =
      (ExtensionView.mk (Fold.collect (Grammar.textEntries m'))).outputs := by
  have hlookup : ∀ key, Option.Rel Shuffled
      ((Fold.collect (Grammar.textEntries m)).lookup key)
      ((Fold.collect (Grammar.textEntries m')).lookup key) := by
    intro key
    rw [lookup_eq, lookup_eq]
    exact (h.found m m' rfl rfl key).2
  unfold ExtensionView.outputs
  rw [mk.injEq]
  refine ⟨?_, ?_, ?_, ?_, ?_, ?_⟩
  · refine bind_eq_of_rel (hlookup _) fun _ _ => read_shuffled fun m m' hm => ?_
    rw [credPropsOf, credPropsOf, findBool_shuffled hm]
  · exact bind_eq_of_rel (hlookup _) fun _ _ => read_shuffled fun _ _ _ => rfl
  · refine bind_eq_of_rel (hlookup _) fun _ _ => read_shuffled fun m m' hm => ?_
    rw [prfOf, prfOf, prfResults_shuffled hm]
  · refine bind_eq_of_rel (hlookup _) fun _ _ => read_shuffled fun m m' hm => ?_
    rw [largeBlobOf, largeBlobOf, findBool_shuffled hm, findBytes_shuffled hm,
      findBool_shuffled hm]
  · exact bind_eq_of_rel (hlookup _) fun _ _ => read_shuffled fun _ _ _ => rfl
  · exact bind_eq_of_rel (hlookup _) fun _ _ => read_shuffled fun _ _ _ => rfl

end Outputs

end Caden
