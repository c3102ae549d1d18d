import Mathlib.Logic.Function.Basic
import Caden.Lib.Fold
import Caden.X5c

/-!
Reading an attestation statement: a CBOR map whose text keys name the fields a format uses.

All formats read their statements with the same loop, which skips unknown keys, lets a later
entry replace an earlier one, and fails at the first field of the wrong type.
-/

namespace Caden.AttStmt

open CertBytes (invalid)
open Fold (lastSome)

inductive Field where
  | ver | alg | sig | x5c | certInfo | pubArea | response
  deriving DecidableEq

def Field.key : Field → String
  | .ver => "ver"
  | .alg => "alg"
  | .sig => "sig"
  | .x5c => "x5c"
  | .certInfo => "certInfo"
  | .pubArea => "pubArea"
  | .response => "response"

/-- What a field holds once it is read. -/
abbrev Field.Val : Field → Type
  | .ver => String
  | .alg => ℤ
  | .x5c => List Bytes
  | .sig | .certInfo | .pubArea | .response => Bytes

/-- The fields read so far. -/
abbrev Fields : Type := (f : Field) → Option f.Val

def readBytes (fmt key : String) : Value → Res Bytes
  | .bytes b => .ok b
  | _ => .err (invalid s!"{fmt} attStmt {key} must be CBOR bytes")

def readValue (fmt : String) : (f : Field) → Value → Res f.Val
  | .ver, .text s => .ok s
  | .ver, _ => .err (invalid s!"{fmt} attStmt ver must be a CBOR text string")
  | .alg, .integer i => .okOr (i64TryFrom i) (invalid s!"{fmt} attStmt alg value out of i64 range")
  | .alg, _ => .err (invalid s!"{fmt} attStmt alg must be a CBOR integer")
  | .x5c, v => X5c.extractX5cArray v
  | .sig, v => readBytes fmt "sig" v
  | .certInfo, v => readBytes fmt "certInfo" v
  | .pubArea, v => readBytes fmt "pubArea" v
  | .response, v => readBytes fmt "response" v

/-- The field of `wanted` that a key names. -/
def fieldOf (wanted : List Field) : Value → Option Field
  | .text key => wanted.find? (·.key = key)
  | _ => none

/-- One turn of the loop over the entries. -/
def readEntry (fmt : String) (wanted : List Field) (st : Fields) (e : Value × Value) :
    Res Fields :=
  match fieldOf wanted e.1 with
  | some f => do
    let a ← readValue fmt f e.2
    return Function.update st f (some a)
  | none => .ok st

def readStmt (fmt : String) (wanted : List Field) (attStmt : Value) : Res Fields := do
  let stmtMap ← .okOr attStmt.asMap (invalid s!"{fmt} attStmt must be a CBOR map")
  stmtMap.foldlM (readEntry fmt wanted) fun _ => none

/-! ### What was read -/

/-- The value an entry gives to a text key. -/
def textValue (key : String) : Value × Value → Option Value
  | (.text k, v) => if k = key then some v else none
  | _ => none

/-- The last value stored under a text key. -/
def entryOf (key : String) (v : Value) : Option Value :=
  v.asMap.bind (lastSome (textValue key))

variable {fmt : String} {wanted : List Field} {st : Fields} {attStmt : Value} {f : Field}

lemma Field.key_injective : Function.Injective Field.key := by
  intro f g h
  cases f <;> cases g <;> first | rfl | exact absurd h (by decide)

lemma fieldOf_eq_some {k : Value} :
    fieldOf wanted k = some f ↔ f ∈ wanted ∧ k = .text f.key := by
  refine ⟨?_, ?_⟩
  · intro h
    unfold fieldOf at h
    split at h
    · have hkey := List.find?_some h
      exact ⟨List.mem_of_find?_eq_some h, by simpa using (of_decide_eq_true hkey).symm⟩
    · simp at h
  · rintro ⟨hf, rfl⟩
    have hsome : (wanted.find? fun g => g.key = f.key).isSome := by
      simpa using ⟨f, hf, rfl⟩
    obtain ⟨g, hg⟩ := Option.isSome_iff_exists.mp hsome
    have hgf : g = f := Field.key_injective (by simpa using List.find?_some hg)
    rw [fieldOf, hg, hgf]

lemma textValue_of_fieldOf {e : Value × Value} (h : fieldOf wanted e.1 = some f) (g : Field) :
    textValue g.key e = if f = g then some e.2 else none := by
  obtain ⟨-, hk⟩ := fieldOf_eq_some.mp h
  obtain ⟨k, v⟩ := e
  obtain rfl : k = .text f.key := hk
  simp [textValue, Field.key_injective.eq_iff]

lemma textValue_of_none {e : Value × Value} (h : fieldOf wanted e.1 = none) (hf : f ∈ wanted) :
    textValue f.key e = none := by
  obtain ⟨k, v⟩ := e
  unfold textValue
  split
  · rename_i k' v' heq
    obtain ⟨rfl, rfl⟩ := Prod.mk.inj heq
    rw [if_neg]
    rintro rfl
    rw [fieldOf_eq_some.mpr ⟨hf, rfl⟩] at h
    cases h
  · rfl

lemma readStmt_spec (h : readStmt fmt wanted attStmt = .ok st) (hf : f ∈ wanted) :
    (entryOf f.key attStmt).map (readValue fmt f) = (st f).map .ok := by
  simp only [readStmt, Outcome.bind_eq_ok, Outcome.okOr_eq_ok] at h
  obtain ⟨m, hm, h⟩ := h
  rw [entryOf, hm, Option.bind_some]
  refine Outcome.foldlM_induction
    (fun p st => (lastSome (textValue f.key) p).map (readValue fmt f) = (st f).map .ok) rfl ?_ h
  intro p e s t hp he
  rw [Fold.lastSome_concat]
  unfold readEntry at he
  split at he
  · rename_i g hg
    simp only [Outcome.bind_eq_ok, Outcome.pure_eq, Outcome.ok.injEq] at he
    obtain ⟨a, ha, rfl⟩ := he
    rw [textValue_of_fieldOf hg]
    by_cases hgf : g = f
    · subst hgf
      rw [if_pos rfl, Option.some_or, Function.update_self, Option.map_some, Option.map_some, ha]
    · -- another field: what `f` holds is unchanged
      rw [if_neg hgf, Option.none_or, Function.update_of_ne (Ne.symm hgf), hp]
  · rename_i hnone
    cases he
    rw [textValue_of_none hnone hf, Option.none_or, hp]

lemma readStmt_unwanted (h : readStmt fmt wanted attStmt = .ok st) (hf : f ∉ wanted) :
    st f = none := by
  simp only [readStmt, Outcome.bind_eq_ok] at h
  obtain ⟨m, -, h⟩ := h
  refine Outcome.foldlM_induction (fun _ st => st f = none) rfl ?_ h
  intro p e s t hs he
  unfold readEntry at he
  split at he
  · rename_i g hg
    simp only [Outcome.bind_eq_ok, Outcome.pure_eq, Outcome.ok.injEq] at he
    obtain ⟨a, -, rfl⟩ := he
    have hne : f ≠ g := by
      rintro rfl
      exact hf (fieldOf_eq_some.mp hg).1
    rw [Function.update_of_ne hne, hs]
  · cases he
    exact hs

lemma readStmt_entry (h : readStmt fmt wanted attStmt = .ok st) (hf : f ∈ wanted) {a : f.Val}
    (ha : st f = some a) :
    ∃ v, entryOf f.key attStmt = some v ∧ readValue fmt f v = .ok a := by
  have hspec := readStmt_spec h hf
  rw [ha, Option.map_some] at hspec
  exact Option.map_eq_some_iff.mp hspec

lemma readStmt_no_entry (h : readStmt fmt wanted attStmt = .ok st) (hf : f ∈ wanted)
    (hnone : st f = none) : entryOf f.key attStmt = none := by
  have hspec := readStmt_spec h hf
  rw [hnone, Option.map_none] at hspec
  exact Option.map_eq_none_iff.mp hspec

lemma textValue_eq_some {key : String} {e : Value × Value} {v : Value} :
    textValue key e = some v ↔ e = (.text key, v) := by
  obtain ⟨k, w⟩ := e
  cases k <;> simp [textValue]

lemma entryOf_eq_of_forall {m : List (Value × Value)} {key : String} {v : Value}
    (h : ∀ w, (.text key, w) ∈ m ↔ w = v) : entryOf key (.map m) = some v := by
  refine Fold.lastSome_eq_of_forall ⟨(.text key, v), (h v).mpr rfl, ?_⟩ fun e he w hw => ?_
  · exact textValue_eq_some.mpr rfl
  · obtain rfl := textValue_eq_some.mp hw
    exact (h w).mp he

lemma entryOf_eq_none {m : List (Value × Value)} {key : String}
    (h : ∀ w, (.text key, w) ∉ m) : entryOf key (.map m) = none := by
  refine Fold.lastSome_eq_none_iff.mpr fun e he => ?_
  rw [Option.eq_none_iff_forall_not_mem]
  intro w hw
  exact h w (textValue_eq_some.mp hw ▸ he)

lemma readStmt_isOk {m : List (Value × Value)}
    (h : ∀ f ∈ wanted, ∀ v, (.text f.key, v) ∈ m → ∃ a, readValue fmt f v = .ok a) :
    ∃ st, readStmt fmt wanted (.map m) = .ok st := by
  have hstep : ∀ st, ∀ e ∈ m, ∃ st', readEntry fmt wanted st e = .ok st' := by
    rintro st ⟨k, v⟩ he
    rcases hk : fieldOf wanted k with _ | f
    · exact ⟨st, by simp only [readEntry, hk]⟩
    · obtain ⟨hf, rfl⟩ := fieldOf_eq_some.mp hk
      obtain ⟨a, ha⟩ := h f hf v he
      exact ⟨Function.update st f (some a), by simp [readEntry, hk, ha]⟩
  exact Outcome.foldlM_isOk hstep _

lemma readStmt_field (h : readStmt fmt wanted attStmt = .ok st) (hf : f ∈ wanted) {v : Value}
    (hv : entryOf f.key attStmt = some v) {a : f.Val} (ha : readValue fmt f v = .ok a) :
    st f = some a := by
  have hspec := readStmt_spec h hf
  rw [hv, Option.map_some, ha] at hspec
  rcases hst : st f with _ | b
  · rw [hst] at hspec
    cases hspec
  · rw [hst, Option.map_some, Option.some.injEq, Outcome.ok.injEq] at hspec
    rw [hspec]

lemma readStmt_absent (h : readStmt fmt wanted attStmt = .ok st) (hf : f ∈ wanted)
    (hv : entryOf f.key attStmt = none) : st f = none := by
  have hspec := readStmt_spec h hf
  rw [hv, Option.map_none] at hspec
  exact Option.map_eq_none_iff.mp hspec.symm

@[simp] lemma readBytes_eq_ok {key : String} {v : Value} {b : Bytes} :
    readBytes fmt key v = .ok b ↔ v = .bytes b := by
  cases v <;> simp [readBytes]

lemma readStmt_value {a : f.Val} {v : Value} (h : readStmt fmt wanted attStmt = .ok st)
    (hf : f ∈ wanted) (ha : st f = some a)
    (hv : ∀ w, readValue fmt f w = .ok a → w = v) : entryOf f.key attStmt = some v := by
  obtain ⟨w, hw, hread⟩ := readStmt_entry h hf ha
  rw [hw, hv w hread]

lemma readStmt_alg (h : readStmt fmt wanted attStmt = .ok st) (hf : .alg ∈ wanted) {alg : ℤ}
    (ha : st .alg = some alg) : entryOf "alg" attStmt = some (.integer alg) := by
  refine readStmt_value h hf ha fun w hread => ?_
  cases w
  case integer i =>
    rw [readValue, Outcome.okOr_eq_ok, i64TryFrom] at hread
    split at hread
    · rw [Option.some.inj hread]
    · cases hread
  all_goals cases hread

lemma readStmt_sig (h : readStmt fmt wanted attStmt = .ok st) (hf : .sig ∈ wanted) {b : Bytes}
    (hb : st .sig = some b) : entryOf "sig" attStmt = some (.bytes b) :=
  readStmt_value h hf hb fun _ => readBytes_eq_ok.mp

lemma readStmt_certInfo (h : readStmt fmt wanted attStmt = .ok st) (hf : .certInfo ∈ wanted)
    {b : Bytes} (hb : st .certInfo = some b) : entryOf "certInfo" attStmt = some (.bytes b) :=
  readStmt_value h hf hb fun _ => readBytes_eq_ok.mp

lemma readStmt_response (h : readStmt fmt wanted attStmt = .ok st) (hf : .response ∈ wanted)
    {b : Bytes} (hb : st .response = some b) : entryOf "response" attStmt = some (.bytes b) :=
  readStmt_value h hf hb fun _ => readBytes_eq_ok.mp

lemma readStmt_x5c (h : readStmt fmt wanted attStmt = .ok st) (hf : .x5c ∈ wanted)
    {certs : List Bytes} (hc : st .x5c = some certs) :
    entryOf "x5c" attStmt = some (X5c.arrayOf certs) ∧ certs ≠ [] := by
  obtain ⟨v, hv, hread⟩ := readStmt_entry h hf hc
  obtain ⟨rfl, hne⟩ := X5c.extractX5cArray_eq_ok.mp hread
  exact ⟨hv, hne⟩

lemma safe_readBytes (key : String) (v : Value) : (readBytes fmt key v).Safe := by
  cases v <;> simp [readBytes]

lemma safe_readValue (f : Field) (v : Value) : (readValue fmt f v).Safe := by
  cases f
  case ver => cases v <;> simp [readValue]
  case alg => cases v <;> simp [readValue]
  case x5c => exact X5c.safe_extractX5cArray v
  all_goals exact safe_readBytes _ v

@[simp] lemma safe_readStmt : (readStmt fmt wanted attStmt).Safe := by
  simp only [readStmt, Outcome.safe_bind, Outcome.safe_okOr, true_and]
  intro m _
  refine Outcome.safe_foldlM (fun s e _ => ?_) _
  unfold readEntry
  split
  · exact (safe_readValue _ _).bind fun _ _ => Outcome.safe_pure _
  · simp

end Caden.AttStmt
