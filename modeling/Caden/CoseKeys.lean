import Caden.Lib.Matched
import Caden.Recorded

/-!
The COSE keys that are supported.

The lookups take the first entry with a label and a value of the wanted type. As no label may
be repeated, that is the only entry with the label, so the order of the entries does not
matter.
-/

namespace Caden.CoseKeys

open AuthData

variable {E : Env} {m m' : List (Value × Value)} {k : CoseKey} {key i : ℤ}

/-! ### What a supported key is -/

/-- The label of an entry: its key, when that is an integer of 64 bits. -/
def label (e : Value × Value) : Option ℤ :=
  match e.1 with
  | .integer ki => i64TryFrom ki
  | _ => none

/-- No label occurs twice. -/
def DistinctLabels (m : List (Value × Value)) : Prop := (m.filterMap label).Nodup

/-- The entries of `m` describe the key `k`. -/
def Describes (m : List (Value × Value)) : CoseKey → Prop
  | .ec2 alg crv x y =>
    (.integer 1, .integer 2) ∈ m ∧ (.integer 3, .integer alg) ∈ m ∧
    (.integer (-1), .integer crv) ∈ m ∧ (.integer (-2), .bytes x) ∈ m ∧
    (.integer (-3), .bytes y) ∈ m ∧
    ((alg = -7 ∧ crv = 1 ∧ x.length = 32 ∧ y.length = 32) ∨
      (alg = -35 ∧ crv = 2 ∧ x.length = 48 ∧ y.length = 48))
  | .okp alg x =>
    (.integer 1, .integer 1) ∈ m ∧ (.integer 3, .integer alg) ∈ m ∧
    (.integer (-1), .integer 6) ∈ m ∧ (.integer (-2), .bytes x) ∈ m ∧
    alg = -8 ∧ x.length = 32
  | .rsa alg n e =>
    (.integer 1, .integer 3) ∈ m ∧ (.integer 3, .integer alg) ∈ m ∧
    (.integer (-1), .bytes n) ∈ m ∧ (.integer (-2), .bytes e) ∈ m ∧
    alg = -257 ∧ 256 ≤ n.length ∧ e ≠ []

lemma DistinctLabels.perm (hp : m.Perm m') : DistinctLabels m ↔ DistinctLabels m' :=
  (hp.filterMap label).nodup_iff

lemma Describes.perm (hp : m.Perm m') : Describes m k ↔ Describes m' k := by
  cases k <;> simp only [Describes, hp.mem_iff]

/-! ### The loop that rejects a repeated label -/

lemma seeKey_eq (seen : List ℤ) (e : Value × Value) : seeKey seen e =
    match label e with
    | some n => if n ∈ seen then .err (.invalidPublicKey s!"duplicate COSE key: {n}")
      else .ok (seen ++ [n])
    | none => .ok seen := by
  obtain ⟨_ | _ | _ | _ | _ | _ | _ | _ | _, v⟩ := e <;> rfl

lemma foldlM_seeKey {seen labels : List ℤ} (hseen : seen.Nodup) :
    m.foldlM seeKey seen = .ok labels ↔
      labels = seen ++ m.filterMap label ∧ labels.Nodup := by
  induction m generalizing seen with
  | nil =>
    simp only [List.foldlM_nil, Outcome.pure_eq, Outcome.ok.injEq, List.filterMap_nil,
      List.append_nil]
    exact ⟨fun h => ⟨h.symm, h ▸ hseen⟩, fun h => h.1.symm⟩
  | cons e m ih =>
    rw [List.foldlM_cons, seeKey_eq, List.filterMap_cons]
    rcases hlabel : label e with _ | n
    · exact ih hseen
    · by_cases hmem : n ∈ seen
      · simp only [if_pos hmem, Outcome.bind_eq_ok, reduceCtorEq, false_and, exists_false,
          false_iff]
        rintro ⟨rfl, hnd⟩
        exact (List.disjoint_of_nodup_append hnd) hmem (by simp)
      · have hnew : (seen ++ [n]).Nodup := by
          rw [← List.concat_eq_append]
          exact List.Nodup.concat hmem hseen
        simp only [if_neg hmem, Outcome.ok_bind]
        rw [ih hnew, List.append_assoc]
        rfl

lemma foldlM_seeKey_isOk : (∃ labels, m.foldlM seeKey [] = .ok labels) ↔ DistinctLabels m := by
  simp only [foldlM_seeKey List.nodup_nil, List.nil_append, exists_eq_left]
  rfl

/-! ### The lookups -/

lemma DistinctLabels.unique (h : DistinctLabels m) {e e' : Value × Value} (he : e ∈ m)
    (he' : e' ∈ m) {n : ℤ} (hn : label e = some n) (hn' : label e' = some n) : e = e' :=
  Fold.eq_of_filterMap_nodup h he he' hn hn'

lemma findSome?_iff {β : Type} {f : Value × Value → Option β} {b : β} (h : DistinctLabels m)
    (hf : ∀ e c, f e = some c → label e = some key) :
    m.findSome? f = some b ↔ ∃ e ∈ m, f e = some b := by
  refine ⟨List.exists_of_findSome?_eq_some, ?_⟩
  rintro ⟨e, he, hb⟩
  have hsome : (m.findSome? f).isSome := List.findSome?_isSome_iff.mpr ⟨e, he, by simp [hb]⟩
  obtain ⟨c, hc⟩ := Option.isSome_iff_exists.mp hsome
  obtain ⟨e', he', hc'⟩ := List.exists_of_findSome?_eq_some hc
  obtain rfl := h.unique he he' (hf e b hb) (hf e' c hc')
  rw [hc, ← hc', hb]

lemma i64TryFrom_eq_some {j : ℤ} : i64TryFrom i = some j ↔ (-2 ^ 63 ≤ i ∧ i < 2 ^ 63) ∧ i = j := by
  unfold i64TryFrom
  split <;> simp_all

/-- Fits in 64 bits. -/
def IsI64 (i : ℤ) : Prop := i64TryFrom i = some i

lemma i64TryFrom_iff {j : ℤ} : i64TryFrom i = some j ↔ IsI64 j ∧ i = j := by
  rw [IsI64, i64TryFrom_eq_some, i64TryFrom_eq_some]
  refine ⟨?_, ?_⟩
  · rintro ⟨hi, rfl⟩
    exact ⟨⟨hi, rfl⟩, rfl⟩
  · rintro ⟨⟨hj, -⟩, rfl⟩
    exact ⟨hj, rfl⟩

lemma isI64_small (h : -300 ≤ i ∧ i ≤ 300) : IsI64 i := by
  rw [IsI64, i64TryFrom_eq_some]
  omega

/-- The integer that an entry gives to `key`. -/
def intAt (key : ℤ) : Value × Value → Option ℤ
  | (.integer ki, .integer vi) => do if (← i64TryFrom ki) = key then i64TryFrom vi else none
  | _ => none

/-- The byte string that an entry gives to `key`. -/
def bytesAt (key : ℤ) : Value × Value → Option Bytes
  | (.integer ki, .bytes b) => do if (← i64TryFrom ki) = key then some b else none
  | _ => none

lemma intAt_eq_some (hkey : IsI64 key) {e : Value × Value} :
    intAt key e = some i ↔ e = (.integer key, .integer i) ∧ IsI64 i := by
  unfold intAt
  split
  · simp only [Option.bind_eq_bind, Option.bind_eq_some_iff, i64TryFrom_iff, Prod.mk.injEq,
      Value.integer.injEq, Option.ite_none_right_eq_some]
    refine ⟨?_, ?_⟩
    · rintro ⟨_, ⟨-, rfl⟩, rfl, hi, rfl⟩
      exact ⟨⟨rfl, rfl⟩, hi⟩
    · rintro ⟨⟨rfl, rfl⟩, hi⟩
      exact ⟨_, ⟨hkey, rfl⟩, rfl, hi, rfl⟩
  · rename_i hne
    simp only [reduceCtorEq, false_iff]
    rintro ⟨rfl, -⟩
    exact hne _ _ rfl

lemma bytesAt_eq_some (hkey : IsI64 key) {e : Value × Value} {b : Bytes} :
    bytesAt key e = some b ↔ e = (.integer key, .bytes b) := by
  unfold bytesAt
  split
  · simp only [Option.bind_eq_bind, Option.bind_eq_some_iff, i64TryFrom_iff, Prod.mk.injEq,
      Value.integer.injEq, Value.bytes.injEq, Option.ite_none_right_eq_some, Option.some_inj]
    refine ⟨?_, ?_⟩
    · rintro ⟨_, ⟨-, rfl⟩, rfl, rfl⟩
      exact ⟨rfl, rfl⟩
    · rintro ⟨rfl, rfl⟩
      exact ⟨_, ⟨hkey, rfl⟩, rfl, rfl⟩
  · rename_i hne
    simp only [reduceCtorEq, false_iff]
    rintro rfl
    exact hne _ _ rfl

lemma getInt_iff (h : DistinctLabels m) (hkey : IsI64 key) :
    getInt m key = some i ↔ (.integer key, .integer i) ∈ m ∧ IsI64 i := by
  have hlabel : ∀ e c, intAt key e = some c → label e = some key := by
    intro e c he
    obtain ⟨rfl, -⟩ := (intAt_eq_some hkey).mp he
    exact hkey
  rw [show getInt m key = m.findSome? (intAt key) from rfl, findSome?_iff h hlabel]
  simp only [intAt_eq_some hkey]
  refine ⟨?_, fun hi => ⟨_, hi.1, rfl, hi.2⟩⟩
  rintro ⟨_, he, rfl, hi⟩
  exact ⟨he, hi⟩

lemma getBytes_iff (h : DistinctLabels m) (hkey : IsI64 key) {b : Bytes} :
    getBytes m key = some b ↔ (.integer key, .bytes b) ∈ m := by
  have hlabel : ∀ e c, bytesAt key e = some c → label e = some key := by
    intro e c he
    rw [(bytesAt_eq_some hkey).mp he]
    exact hkey
  rw [show getBytes m key = m.findSome? (bytesAt key) from rfl, findSome?_iff h hlabel]
  simp only [bytesAt_eq_some hkey, exists_eq_right]

/-! ### The parser -/

lemma isI64_three : IsI64 3 := isI64_small (by decide)
lemma isI64_neg_one : IsI64 (-1) := isI64_small (by decide)
lemma isI64_neg_two : IsI64 (-2) := isI64_small (by decide)

section
variable (h : DistinctLabels m)
include h

lemma parseOkpKey_iff : parseOkpKey (getInt m) (getBytes m) = .ok k ↔
    ∃ x, k = .okp (-8) x ∧ (.integer 3, .integer (-8)) ∈ m ∧
      (.integer (-1), .integer 6) ∈ m ∧ (.integer (-2), .bytes x) ∈ m ∧ x.length = 32 := by
  simp only [parseOkpKey, Outcome.bind_eq_ok, Outcome.okOr_eq_ok, Outcome.rejectIf_eq_ok,
    exists_const, Outcome.pure_eq, Outcome.ok.injEq, not_not,
    getInt_iff h isI64_three, getInt_iff h isI64_neg_one, getBytes_iff h isI64_neg_two]
  refine ⟨?_, ?_⟩
  · rintro ⟨_, ⟨halg, -⟩, rfl, _, ⟨hcrv, -⟩, rfl, x, hx, hlen, rfl⟩
    exact ⟨x, rfl, halg, hcrv, hx, hlen⟩
  · rintro ⟨x, rfl, halg, hcrv, hx, hlen⟩
    exact ⟨_, ⟨halg, isI64_small (by decide)⟩, rfl, _, ⟨hcrv, isI64_small (by decide)⟩, rfl, x,
      hx, hlen, rfl⟩

lemma parseEc2Key_iff : parseEc2Key (getInt m) (getBytes m) = .ok k ↔
    ∃ alg crv x y, k = .ec2 alg crv x y ∧ (.integer 3, .integer alg) ∈ m ∧
      (.integer (-1), .integer crv) ∈ m ∧ (.integer (-2), .bytes x) ∈ m ∧
      (.integer (-3), .bytes y) ∈ m ∧
      ((alg = -7 ∧ crv = 1 ∧ x.length = 32 ∧ y.length = 32) ∨
        (alg = -35 ∧ crv = 2 ∧ x.length = 48 ∧ y.length = 48)) := by
  simp only [parseEc2Key, Outcome.bind_eq_ok, Outcome.okOr_eq_ok, Outcome.rejectIf_eq_ok,
    exists_const, Outcome.pure_eq, Outcome.ok.injEq, not_not, coordSize_eq_ok,
    getInt_iff h isI64_three, getInt_iff h isI64_neg_one, getBytes_iff h isI64_neg_two,
    getBytes_iff h (isI64_small (by decide) : IsI64 (-3))]
  refine ⟨?_, ?_⟩
  · rintro ⟨alg, ⟨halg, -⟩, crv, ⟨hcrv, -⟩, _, hsize, x, hx, y, hy, rfl, hylen, rfl⟩
    refine ⟨alg, crv, x, y, rfl, halg, hcrv, hx, hy, ?_⟩
    rcases hsize with ⟨rfl, rfl, hxlen⟩ | ⟨rfl, rfl, hxlen⟩
    · exact Or.inl ⟨rfl, rfl, hxlen, hylen.trans hxlen⟩
    · exact Or.inr ⟨rfl, rfl, hxlen, hylen.trans hxlen⟩
  · rintro ⟨alg, crv, x, y, rfl, halg, hcrv, hx, hy, hsize⟩
    rcases hsize with ⟨rfl, rfl, hxlen, hylen⟩ | ⟨rfl, rfl, hxlen, hylen⟩
    · exact ⟨_, ⟨halg, isI64_small (by decide)⟩, _, ⟨hcrv, isI64_small (by decide)⟩, 32,
        Or.inl ⟨rfl, rfl, rfl⟩, x, hx, y, hy, hxlen, hylen, rfl⟩
    · exact ⟨_, ⟨halg, isI64_small (by decide)⟩, _, ⟨hcrv, isI64_small (by decide)⟩, 48,
        Or.inr ⟨rfl, rfl, rfl⟩, x, hx, y, hy, hxlen, hylen, rfl⟩

lemma parseRsaKey_iff : parseRsaKey (getInt m) (getBytes m) = .ok k ↔
    ∃ n e, k = .rsa (-257) n e ∧ (.integer 3, .integer (-257)) ∈ m ∧
      (.integer (-1), .bytes n) ∈ m ∧ (.integer (-2), .bytes e) ∈ m ∧
      256 ≤ n.length ∧ e ≠ [] := by
  simp only [parseRsaKey, Outcome.bind_eq_ok, Outcome.okOr_eq_ok, Outcome.rejectIf_eq_ok,
    exists_const, Outcome.pure_eq, Outcome.ok.injEq, not_not, not_lt,
    getInt_iff h isI64_three, getBytes_iff h isI64_neg_one, getBytes_iff h isI64_neg_two]
  refine ⟨?_, ?_⟩
  · rintro ⟨_, ⟨halg, -⟩, rfl, n, hn, hlen, e, he, hne, rfl⟩
    exact ⟨n, e, rfl, halg, hn, he, hlen, hne⟩
  · rintro ⟨n, e, rfl, halg, hn, he, hlen, hne⟩
    exact ⟨_, ⟨halg, isI64_small (by decide)⟩, rfl, n, hn, hlen, e, he, hne, rfl⟩

end

/-- **The maps that are supported keys.** -/
lemma coseKeyOfMap_iff : coseKeyOfMap m = .ok k ↔ DistinctLabels m ∧ Describes m k := by
  have hkty : IsI64 1 := isI64_small (by decide)
  simp only [coseKeyOfMap, Outcome.bind_eq_ok, Outcome.okOr_eq_ok]
  refine ⟨?_, ?_⟩
  · rintro ⟨labels, hlabels, kty, hget, hparse⟩
    have h := foldlM_seeKey_isOk.mp ⟨labels, hlabels⟩
    obtain ⟨hmem, -⟩ := (getInt_iff h hkty).mp hget
    refine ⟨h, ?_⟩
    split at hparse
    · rename_i heq
      rw [heq] at hmem
      obtain ⟨x, rfl, halg, hcrv, hx, hlen⟩ := (parseOkpKey_iff h).mp hparse
      exact ⟨hmem, halg, hcrv, hx, rfl, hlen⟩
    · split at hparse
      · rename_i heq
        rw [heq] at hmem
        obtain ⟨alg, crv, x, y, rfl, hrest⟩ := (parseEc2Key_iff h).mp hparse
        exact ⟨hmem, hrest⟩
      · split at hparse
        · rename_i heq
          rw [heq] at hmem
          obtain ⟨n, e, rfl, halg, hn, he, hlen, hne⟩ := (parseRsaKey_iff h).mp hparse
          exact ⟨hmem, halg, hn, he, rfl, hlen, hne⟩
        · cases hparse
  · rintro ⟨h, hk⟩
    obtain ⟨labels, hlabels⟩ := foldlM_seeKey_isOk.mpr h
    refine ⟨labels, hlabels, ?_⟩
    cases k with
    | okp alg x =>
      obtain ⟨hmem, halg, hcrv, hx, rfl, hlen⟩ := hk
      exact ⟨1, (getInt_iff h hkty).mpr ⟨hmem, hkty⟩,
        (parseOkpKey_iff h).mpr ⟨x, rfl, halg, hcrv, hx, hlen⟩⟩
    | ec2 alg crv x y =>
      obtain ⟨hmem, hrest⟩ := hk
      exact ⟨2, (getInt_iff h hkty).mpr ⟨hmem, isI64_small (by decide)⟩,
        (parseEc2Key_iff h).mpr ⟨alg, crv, x, y, rfl, hrest⟩⟩
    | rsa alg n e =>
      obtain ⟨hmem, halg, hn, he, rfl, hlen, hne⟩ := hk
      exact ⟨3, (getInt_iff h hkty).mpr ⟨hmem, isI64_small (by decide)⟩,
        (parseRsaKey_iff h).mpr ⟨n, e, rfl, halg, hn, he, hlen, hne⟩⟩

/-- The same key, or an error in both cases. -/
def SameKey (r r' : Res CoseKey) : Prop :=
  (∃ k, r = .ok k ∧ r' = .ok k) ∨ ∃ e e', r = .err e ∧ r' = .err e'

lemma sameKey_coseKeyOfMap (hp : m.Perm m') :
    SameKey (coseKeyOfMap m) (coseKeyOfMap m') := by
  have hiff : ∀ k, coseKeyOfMap m = .ok k ↔ coseKeyOfMap m' = .ok k := by
    intro k
    rw [coseKeyOfMap_iff, coseKeyOfMap_iff, DistinctLabels.perm hp, Describes.perm hp]
  exact Outcome.ok_or_err (.of_imp fun k => (hiff k).mp) (.of_imp fun k => (hiff k).mpr)
    (safe_coseKeyOfMap m) (safe_coseKeyOfMap m')

lemma parseCoseKey_eq {data : Bytes} {n : ℕ}
    (h : E.cborFromReader data = .ok (.map m, n)) : parseCoseKey E data = coseKeyOfMap m := by
  simp only [parseCoseKey, h, Outcome.ofExcept, Value.asMap, Outcome.okOr, Outcome.ok_bind]

/-- **Exactly the supported keys are accepted, whatever the order of their entries.** -/
theorem parseCoseKey_iff (E : Env) (data : Bytes) (v : Value) (n : ℕ)
    (h : E.cborFromReader data = .ok (v, n)) :
    (∀ k, parseCoseKey E data = .ok k ↔ ∃ m, v = .map m ∧ DistinctLabels m ∧ Describes m k) ∧
    ∀ m m' data' n', v = .map m → m.Perm m' → E.cborFromReader data' = .ok (.map m', n') →
      SameKey (parseCoseKey E data) (parseCoseKey E data') := by
  refine ⟨fun k => ?_, ?_⟩
  · refine ⟨fun hk => ?_, ?_⟩
    · simp only [parseCoseKey, Outcome.bind_eq_ok, Outcome.okOr_eq_ok, Value.asMap_eq_some, h,
        Outcome.ofExcept_eq_ok, Except.ok.injEq] at hk
      obtain ⟨_, rfl, m, rfl, hk⟩ := hk
      exact ⟨m, rfl, coseKeyOfMap_iff.mp hk⟩
    · rintro ⟨m, rfl, hk⟩
      rw [parseCoseKey_eq h]
      exact coseKeyOfMap_iff.mpr hk
  · rintro m m' data' n' rfl hp h'
    rw [parseCoseKey_eq h, parseCoseKey_eq h']
    exact sameKey_coseKeyOfMap hp

/-! ### A key in two orders -/

/-- The recorded key with its entries in reverse. -/
def reversedKey : Bytes :=
  beBytes 4 0xa5225820 ++ Recorded.keyY ++ beBytes 3 0x215820 ++ Recorded.keyX ++
    beBytes 6 0x200103260102

def twoOrders : Record where
  cbor := [(Recorded.coseKey, .map Recorded.coseKeyMap),
    (reversedKey, .map Recorded.coseKeyMap.reverse)]

theorem parseCoseKey_iff_reversed :
    parseCoseKey twoOrders.env Recorded.coseKey =
      .ok (.ec2 (-7) 1 Recorded.keyX Recorded.keyY) ∧
    SameKey (parseCoseKey twoOrders.env Recorded.coseKey)
      (parseCoseKey twoOrders.env reversedKey) := by
  have hread : twoOrders.env.cborFromReader Recorded.coseKey =
      .ok (.map Recorded.coseKeyMap, Recorded.coseKey.length) :=
    Record.env_cborFromReader (by simp [twoOrders])
  have hne : reversedKey ≠ Recorded.coseKey := by decide
  have hread' : twoOrders.env.cborFromReader reversedKey =
      .ok (.map Recorded.coseKeyMap.reverse, reversedKey.length) :=
    Record.env_cborFromReader (by simp [twoOrders, answer_tail hne])
  have h := parseCoseKey_iff twoOrders.env Recorded.coseKey (.map Recorded.coseKeyMap) _ hread
  have hdistinct : (Recorded.coseKeyMap.filterMap label).Nodup := by decide
  refine ⟨(h.1 _).mpr ⟨Recorded.coseKeyMap, rfl, hdistinct, ?_⟩,
    h.2 Recorded.coseKeyMap _ reversedKey _ rfl (List.reverse_perm _).symm hread'⟩
  exact ⟨by simp [Recorded.coseKeyMap], by simp [Recorded.coseKeyMap],
    by simp [Recorded.coseKeyMap], by simp [Recorded.coseKeyMap], by simp [Recorded.coseKeyMap],
    Or.inl ⟨rfl, rfl, by decide, by decide⟩⟩

end Caden.CoseKeys
