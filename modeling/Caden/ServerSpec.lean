import Caden.Lib.Tickets
import Caden.Server

/-!
What the server is for: sessions are tickets, and credentials are enrolled before they log in.

A history says which requests were answered, which session each of them used, and which
credentials are stored. It changes only by the acts below, so what holds along all of them holds
of every interleaving of requests.
-/

namespace Caden.Server

open Relation

/-- The session that a response begins, and its challenge. -/
def Reply.begun : Reply → Option (String × Challenge)
  | .registerBegin sessionId options => some (sessionId, options.challenge)
  | .authBegin sessionId options => some (sessionId, options.challenge)
  | _ => none

/-- Credentials in which the one under the key gets a new count. -/
def recount (stored : Fold.Map String Credential) (key : String) (newSignCount : UInt32) :
    Fold.Map String Credential :=
  match stored.lookup key with
  | some credential => stored.insert key { credential with signCount := newSignCount }
  | none => stored

lemma setSignCount_eq (s : AppState) (key : String) (n : UInt32) :
    s.setSignCount key n = ((), { s with credentials := recount s.credentials key n }) := by
  unfold AppState.setSignCount recount
  rcases s.credentials.lookup key with _ | c <;> rfl

lemma lookup_recount {stored : Fold.Map String Credential} {key key' : String} {n : UInt32}
    {c : Credential} (h : (recount stored key n).lookup key' = some c) :
    stored.lookup key' = some c ∨
      ∃ old, stored.lookup key' = some old ∧ c = { old with signCount := n } := by
  unfold recount at h
  split at h
  · rename_i old hold
    by_cases hk : key' = key
    · subst hk
      rw [Finmap.lookup_insert] at h
      exact Or.inr ⟨old, hold, (Option.some.inj h).symm⟩
    · rw [Finmap.lookup_insert_of_ne _ hk] at h
      exact Or.inl h
  · exact Or.inl h

/-- The credential `c` is `r`'s, with a count that a login has reported if it is not the count
at registration. -/
def Descends {ι : Type} (answered : ι → Reply → Prop) (r : RegistrationResult) (c : Credential) :
    Prop :=
  c = { r.credential with signCount := c.signCount } ∧
    (c.signCount = r.credential.signCount ∨ ∃ j, answered j (.authComplete "ok" c.signCount))

lemma Descends.mono {ι : Type} {answered answered' : ι → Reply → Prop} {r : RegistrationResult}
    {c : Credential} (h : Descends answered r c) (hle : ∀ i a, answered i a → answered' i a) :
    Descends answered' r c :=
  ⟨h.1, h.2.imp_right fun ⟨j, hj⟩ => ⟨j, hle _ _ hj⟩⟩

lemma Descends.id_eq {ι : Type} {answered : ι → Reply → Prop} {r : RegistrationResult}
    {c : Credential} (h : Descends answered r c) : c.id = r.credential.id := by
  rw [h.1]

/-! ### Histories -/

/-- The tickets of the sessions, the responses that were given, what each registration has
enrolled, and the credentials that are stored. -/
structure History (ι : Type) where
  tickets : Tickets.State String ι
  answers : ι → Option Reply
  enrolled : ι → Option RegistrationResult
  stored : Fold.Map String Credential

variable {ι : Type}

namespace History

def start : History ι := ⟨Tickets.start, fun _ => none, fun _ => none, ∅⟩

def Answered (t : History ι) (i : ι) (reply : Reply) : Prop := t.answers i = some reply

/-- The request that began the session which request `i` has used. -/
def begun (t : History ι) (i : ι) : ι := (t.tickets.redeemed i).getD i

lemma begun_eq {t : History ι} {i b : ι} (h : t.tickets.redeemed i = some b) : t.begun i = b := by
  rw [begun, h, Option.getD_some]

/-- Request `i` has not been answered. -/
def Open (i : ι) (t : History ι) : Prop := t.answers i = none

variable [DecidableEq ι]

/-- What request `i` can do. `names` says which credential a request is about. -/
inductive Act (names : ι → String → Prop) (i : ι) (t : History ι) : History ι → Prop
  | rest : Act names i t t
  | issue (sessionId : String) (challenge : Challenge) (reply : Reply) (hi : t.answers i = none)
      (hreply : reply.begun = some (sessionId, challenge)) :
      Act names i t { t with
        tickets := t.tickets.issue sessionId i
        answers := Function.update t.answers i (some reply) }
  | redeem (sessionId : String) (j : ι) (hj : t.tickets.pending sessionId = some j)
      (hi : t.tickets.redeemed i = none) :
      Act names i t { t with tickets := t.tickets.redeem sessionId i j }
  | enroll (r : RegistrationResult) (reply : Reply) (hi : t.answers i = none)
      (hr : t.enrolled i = none) :
      Act names i t { t with
        answers := Function.update t.answers i (some reply)
        enrolled := Function.update t.enrolled i (some r)
        stored := t.stored.insert (toHex r.credential.id) r.credential }
  | count (key : String) (n : UInt32) (hi : t.answers i = none) (hkey : names i key) :
      Act names i t { t with
        answers := Function.update t.answers i (some (.authComplete "ok" n))
        stored := recount t.stored key n }

/-- What all acts preserve. -/
structure Consistent (t : History ι) : Prop where
  tickets : Tickets.Inv t.tickets
  issued : ∀ i, t.answers i = none → i ∉ t.tickets.issued
  enrolled : ∀ i, t.answers i = none → t.enrolled i = none
  stored : ∀ key c, t.stored.lookup key = some c →
    ∃ k r, t.enrolled k = some r ∧ key = toHex r.credential.id ∧ Descends t.Answered r c

variable {names : ι → String → Prop} {t t' : History ι} {i j : ι}

omit [DecidableEq ι] in
lemma consistent_start : Consistent (start : History ι) where
  tickets := Tickets.inv_start
  issued _ _ h := h
  enrolled _ _ := rfl
  stored _ _ h := by
    rw [start, Finmap.lookup_empty] at h
    cases h

/-! ### Along acts -/

/-- What has been said and done stays so. -/
structure Le (t t' : History ι) : Prop where
  answered : ∀ i a, t.Answered i a → t'.Answered i a
  enrolled : ∀ i r, t.enrolled i = some r → t'.enrolled i = some r

omit [DecidableEq ι] in
lemma Le.refl (t : History ι) : Le t t := ⟨fun _ _ h => h, fun _ _ h => h⟩

omit [DecidableEq ι] in
lemma Le.trans {t'' : History ι} (h : Le t t') (h' : Le t' t'') : Le t t'' :=
  ⟨fun i a ha => h'.answered i a (h.answered i a ha),
    fun i r hr => h'.enrolled i r (h.enrolled i r hr)⟩

lemma le_answer {reply : Reply} (hi : t.answers i = none)
    (ha : t'.answers = Function.update t.answers i (some reply))
    (he : ∀ k r, t.enrolled k = some r → t'.enrolled k = some r) : Le t t' := by
  refine ⟨fun k a hk => ?_, he⟩
  have hne : k ≠ i := by
    rintro rfl
    rw [Answered, hi] at hk
    cases hk
  rw [Answered, ha, Function.update_of_ne hne]
  exact hk

lemma Act.le (h : Act names i t t') : Le t t' := by
  cases h with
  | rest => exact .refl t
  | issue sessionId challenge reply hi hreply => exact le_answer hi rfl fun _ _ h => h
  | redeem sessionId j hj hi => exact ⟨fun _ _ h => h, fun _ _ h => h⟩
  | enroll r reply hi hr =>
    refine le_answer hi rfl fun k q hq => ?_
    have hne : k ≠ i := by
      rintro rfl
      rw [hr] at hq
      cases hq
    simpa [hne] using hq
  | count key n hi hkey => exact le_answer hi rfl fun _ _ h => h

/-- What request `i` has done is the same in both histories. -/
structure Same (i : ι) (t t' : History ι) : Prop where
  answers : t'.answers i = t.answers i
  enrolled : t'.enrolled i = t.enrolled i
  redeemed : t'.tickets.redeemed i = t.tickets.redeemed i

lemma Act.same (h : Act names j t t') (hj : j ≠ i) : Same i t t' := by
  have hij := Ne.symm hj
  cases h with
  | rest => exact ⟨rfl, rfl, rfl⟩
  | issue sessionId challenge reply hi hreply =>
    exact ⟨Function.update_of_ne hij .., rfl, rfl⟩
  | redeem sessionId k hk hi => exact ⟨rfl, rfl, Function.update_of_ne hij ..⟩
  | enroll r reply hi hr =>
    exact ⟨Function.update_of_ne hij .., Function.update_of_ne hij .., rfl⟩
  | count key n hi hkey => exact ⟨Function.update_of_ne hij .., rfl, rfl⟩

lemma others_spec (h : Others (Act names) i t t') : Le t t' ∧ Same i t t' := by
  refine invariant_of_steps (P := fun u => Le t u ∧ Same i t u) ?_ h ⟨.refl t, rfl, rfl, rfl⟩
  rintro u v ⟨hle, hsame⟩ ⟨j, hj, hact⟩
  have hsame' := hact.same hj
  exact ⟨hle.trans hact.le, hsame'.answers.trans hsame.answers,
    hsame'.enrolled.trans hsame.enrolled, hsame'.redeemed.trans hsame.redeemed⟩

lemma answers_eq_none {reply : Reply} {k : ι}
    (h : Function.update t.answers i (some reply) k = none) : k ≠ i ∧ t.answers k = none := by
  by_cases hk : k = i
  · subst hk
    rw [Function.update_self] at h
    cases h
  · exact ⟨hk, by rwa [Function.update_of_ne hk] at h⟩

/-- **Acts keep histories consistent.** -/
lemma Consistent.act (ht : Consistent t) (h : Act names i t t') : Consistent t' := by
  have hle := h.le
  cases h with
  | rest => exact ht
  | issue sessionId challenge reply hi hreply =>
    refine ⟨ht.tickets.issue (ht.issued i hi), fun k hk => ?_, fun k hk => ?_, ?_⟩
    · obtain ⟨hne, hk⟩ := answers_eq_none hk
      exact fun hmem => ht.issued k hk (hmem.resolve_left hne)
    · exact ht.enrolled k (answers_eq_none hk).2
    · intro key c hc
      obtain ⟨k, r, hr, hkey, hdesc⟩ := ht.stored key c hc
      exact ⟨k, r, hr, hkey, hdesc.mono hle.answered⟩
  | redeem sessionId j hj hi =>
    exact ⟨ht.tickets.redeem hj, ht.issued, ht.enrolled, ht.stored⟩
  | enroll r reply hi hr =>
    refine ⟨ht.tickets, fun k hk => ht.issued k (answers_eq_none hk).2, fun k hk => ?_, ?_⟩
    · obtain ⟨hne, hk⟩ := answers_eq_none hk
      exact (Function.update_of_ne hne ..).trans (ht.enrolled k hk)
    · intro key c hc
      by_cases hkey : key = toHex r.credential.id
      · -- the credential that is enrolled now
        rw [hkey, Finmap.lookup_insert] at hc
        obtain rfl := Option.some.inj hc
        exact ⟨i, r, Function.update_self .., hkey, rfl, Or.inl rfl⟩
      · rw [Finmap.lookup_insert_of_ne _ hkey] at hc
        obtain ⟨k, q, hq, hkey', hdesc⟩ := ht.stored key c hc
        exact ⟨k, q, hle.enrolled k q hq, hkey', hdesc.mono hle.answered⟩
  | count key n hi hkey =>
    refine ⟨ht.tickets, fun k hk => ht.issued k (answers_eq_none hk).2,
      fun k hk => ht.enrolled k (answers_eq_none hk).2, fun key' c hc => ?_⟩
    rcases lookup_recount hc with hc | ⟨old, hold, rfl⟩
    · obtain ⟨k, r, hr, hkey', hdesc⟩ := ht.stored key' c hc
      exact ⟨k, r, hr, hkey', hdesc.mono hle.answered⟩
    · obtain ⟨k, r, hr, hkey', hold', -⟩ := ht.stored key' old hold
      exact ⟨k, r, hr, hkey', by rw [hold'], Or.inr ⟨i, Function.update_self ..⟩⟩

end History

end Caden.Server
