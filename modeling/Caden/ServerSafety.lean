import Caden.ServerSpec
import Caden.Recorded

/-!
Safety of the server in every interleaving of requests.

Each request writes its part of a history. From the history of a run follows what a response
means: which session it used, and which registration and verification it rests on.
-/

namespace Caden.Server

open Relation

/-! ### What a response rests on -/

/-- The session that a request completes. -/
def Request.session : Request → Option String
  | .registerComplete req _ => some req.sessionId
  | .authenticateComplete req _ => some req.sessionId
  | .passkeyAuthenticateComplete req _ => some req.sessionId
  | _ => none

/-- The assertion that a request brings, of either flow. -/
def Request.login : Request → Option (AuthCompleteRequest × Clock)
  | .authenticateComplete req clock => some (req, clock)
  | .passkeyAuthenticateComplete req clock => some (req, clock)
  | _ => none

section
variable (E : Env)

/-- The response inside a request. -/
def RegisterCompleteRequest.Decodes (req : RegisterCompleteRequest)
    (response : AuthenticatorAttestationResponse) : Prop :=
  E.urlSafeNoPadDecode req.clientDataJson = .ok response.clientDataJson ∧
    E.urlSafeNoPadDecode req.attestationObject = .ok response.attestationObject

/-- The response inside a request; the request carries no user handle. -/
def AuthCompleteRequest.Decodes (req : AuthCompleteRequest)
    (response : AuthenticatorAssertionResponse) : Prop :=
  E.urlSafeNoPadDecode req.credentialId = .ok response.credentialId ∧
    E.urlSafeNoPadDecode req.clientDataJson = .ok response.clientDataJson ∧
    E.urlSafeNoPadDecode req.authenticatorData = .ok response.authenticatorData ∧
    E.urlSafeNoPadDecode req.signature = .ok response.signature ∧ response.userHandle = none

end

section
variable (E : Env) (encode : Bytes → String) (rp : RelyingParty) {ι : Type}
  (requests : ι → Request) (answered : ι → Reply → Prop)

/-- Request `b` has begun the session with this challenge. -/
def Begins (b : ι) (sessionId : String) (challenge : Challenge) : Prop :=
  ∃ reply, answered b reply ∧ reply.begun = some (sessionId, challenge)

/-- Request `k` has registered `r`: in a session that request `b` has begun, its response was
accepted. -/
def Registers (b k : ι) (r : RegistrationResult) : Prop :=
  ∃ req clock challenge response heap v, requests k = .registerComplete req clock ∧
    answered k (.registerComplete (encode r.credential.id) "ok") ∧
    Begins answered b req.sessionId challenge ∧ req.Decodes E response ∧
    Registration.Accepts E rp clock challenge response heap v ∧
    v.result rp clock (Text.asBytes req.sessionId) = r

/-- Request `j` has logged in: in a session that request `b` has begun, its assertion was
accepted for the credential `stored` with the id that it names. -/
def LogsIn (b j : ι) (stored : Credential) : Prop :=
  ∃ req clock challenge response heap ad, (requests j).login = some (req, clock) ∧
    answered j (.authComplete "ok" ad.signCount) ∧
    Begins answered b req.sessionId challenge ∧ req.Decodes E response ∧
    stored.id = response.credentialId ∧
    Authentication.Accepts E rp stored clock challenge response heap ad

variable {E encode rp requests answered} {answered' : ι → Reply → Prop} {b k : ι}

lemma Begins.mono (h : ∀ i a, answered i a → answered' i a) {sessionId : String}
    {challenge : Challenge} (hb : Begins answered b sessionId challenge) :
    Begins answered' b sessionId challenge := by
  obtain ⟨reply, hreply, hbegun⟩ := hb
  exact ⟨reply, h b reply hreply, hbegun⟩

lemma Registers.mono (h : ∀ i a, answered i a → answered' i a) {r : RegistrationResult}
    (hr : Registers E encode rp requests answered b k r) :
    Registers E encode rp requests answered' b k r := by
  obtain ⟨req, clock, challenge, response, heap, v, hreq, hk, hb, hacc⟩ := hr
  exact ⟨req, clock, challenge, response, heap, v, hreq, h _ _ hk, hb.mono h, hacc⟩

lemma LogsIn.mono (h : ∀ i a, answered i a → answered' i a) {stored : Credential}
    (hl : LogsIn E rp requests answered b k stored) :
    LogsIn E rp requests answered' b k stored := by
  obtain ⟨req, clock, challenge, response, heap, ad, hreq, hk, hb, hacc⟩ := hl
  exact ⟨req, clock, challenge, response, heap, ad, hreq, h _ _ hk, hb.mono h, hacc⟩

/-! ### The text of an id -/

lemma toHex_injective : Function.Injective toHex := by
  have hdigit : ∀ m < 16, ∀ n < 16, Nat.digitChar m = Nat.digitChar n → m = n := by decide
  have hbyte : ∀ a b : UInt8, Nat.digitChar (a.toNat / 16) = Nat.digitChar (b.toNat / 16) →
      Nat.digitChar (a.toNat % 16) = Nat.digitChar (b.toNat % 16) → a = b := by
    intro a b hhigh hlow
    have ha := a.toNat_lt
    have hb := b.toNat_lt
    have hhigh' := hdigit _ (by omega) _ (by omega) hhigh
    have hlow' := hdigit _ (by omega) _ (by omega) hlow
    exact UInt8.toNat_inj.mp (by omega)
  intro a b h
  have hchars := String.ofList_injective h
  clear h
  induction a generalizing b with
  | nil => cases b <;> simp_all
  | cons x a ih =>
    cases b with
    | nil => simp at hchars
    | cons y b =>
      simp only [List.flatMap_cons, List.cons_append, List.nil_append, List.cons.injEq] at hchars
      obtain ⟨hhigh, hlow, hrest⟩ := hchars
      rw [hbyte x y hhigh hlow, ih hrest]

/-! ### The part of each request -/

/-- The state in memory is the one that the history tells. -/
structure Matches (t : History ι) (s : AppState) : Prop where
  consistent : t.Consistent
  pending : ∀ sessionId challenge, s.pendingChallenges.lookup sessionId = some challenge →
    ∃ j, t.tickets.pending sessionId = some j ∧ Begins t.Answered j sessionId challenge
  credentials : s.credentials = t.stored

variable (E requests) in
/-- The credential with the text `key` is the one that the login `i` names. -/
def Names (i : ι) (key : String) : Prop :=
  ∃ req clock id, (requests i).login = some (req, clock) ∧
    E.urlSafeNoPadDecode req.credentialId = .ok id ∧ key = toHex id

variable (E encode rp requests) in
/-- What has come before the response of request `i`. -/
structure Post (i : ι) (t : History ι) (reply : Reply) : Prop where
  answered : t.Answered i reply
  session : ∀ sessionId, (requests i).session = some sessionId →
    ∃ b, t.tickets.redeemed i = some b
  enrolled : ∀ req clock, requests i = .registerComplete req clock → ∃ r, t.enrolled i = some r
  registers : ∀ r, t.enrolled i = some r →
    ∃ b, t.tickets.redeemed i = some b ∧ Registers E encode rp requests t.Answered b i r
  logsIn : ∀ l, (requests i).login = some l → ∃ b k r stored,
    t.tickets.redeemed i = some b ∧ t.enrolled k = some r ∧ Descends t.Answered r stored ∧
    LogsIn E rp requests t.Answered b i stored

/-- Request `i` has taken the challenge of the session and was not answered yet. -/
structure Holds (i : ι) (sessionId : String) (challenge : Challenge) (b : ι) (t : History ι) :
    Prop where
  unanswered : t.Open i
  redeemed : t.tickets.redeemed i = some b
  begins : Begins t.Answered b sessionId challenge

variable [DecidableEq ι] {i : ι} {t t' : History ι} {s : AppState}

variable (E requests) in
/-- What a request can do. -/
abbrev Acts : ι → History ι → History ι → Prop := History.Act (Names E requests)

lemma open_others (h : Others (Acts E requests) i t t') (hi : t.Open i) : t'.Open i :=
  (History.others_spec h).2.answers.trans hi

lemma Holds.others {sessionId : String} {challenge : Challenge}
    (hh : Holds i sessionId challenge b t) (h : Others (Acts E requests) i t t') :
    Holds i sessionId challenge b t' := by
  obtain ⟨hle, hsame⟩ := History.others_spec h
  exact ⟨open_others h hh.unanswered, hsame.redeemed.trans hh.redeemed,
    hh.begins.mono hle.answered⟩

lemma Post.others {reply : Reply} (hp : Post E encode rp requests i t reply)
    (h : Others (Acts E requests) i t t') : Post E encode rp requests i t' reply := by
  obtain ⟨hle, hsame⟩ := History.others_spec h
  refine ⟨hle.answered _ _ hp.answered, ?_, ?_, ?_, ?_⟩
  · rw [hsame.redeemed]
    exact hp.session
  · rw [hsame.enrolled]
    exact hp.enrolled
  · rw [hsame.redeemed, hsame.enrolled]
    intro r hr
    obtain ⟨b, hb, hreg⟩ := hp.registers r hr
    exact ⟨b, hb, hreg.mono hle.answered⟩
  · rw [hsame.redeemed]
    intro l hl
    obtain ⟨b, k, r, stored, hb, hk, hdesc, hlog⟩ := hp.logsIn l hl
    exact ⟨b, k, r, stored, hb, hle.enrolled k r hk, hdesc.mono hle.answered,
      hlog.mono hle.answered⟩

/-! ### Rules for the sections -/

variable (E encode rp requests) in
/-- From the history `t` on, the task does the part of request `i`. -/
def Does (i : ι) (t : History ι) (x : Handler) : Prop :=
  x.Keeps Matches (Acts E requests) History.Open i (Post E encode rp requests i) t

lemma does_lift {α : Type} {x : Outcome ErrorResponse α} {f : α → Handler} (h : t.Open i)
    (hf : ∀ a, x = .ok a → Does E encode rp requests i t (f a)) :
    Does E encode rp requests i t ((liftM x : Task _ _ α) >>= f) :=
  Task.keeps_lift_bind h hf

lemma does_quiet {α : Type} {g : AppState → Outcome ErrorResponse α × AppState}
    {f : α → Handler} (h : t.Open i)
    (hg : ∀ s, (g s).2.pendingChallenges = s.pendingChallenges ∧
      (g s).2.credentials = s.credentials)
    (hf : ∀ t' s a, Others (Acts E requests) i t t' → Matches t' s → (g s).1 = .ok a →
      Does E encode rp requests i t' (f a)) :
    Does E encode rp requests i t (Task.lockedRes g >>= f) := by
  refine Task.keeps_bind (Q := fun t' a => Does E encode rp requests i t' (f a))
    (Task.keeps_lockedRes h fun t' s ho hm => ?_) fun t' a ha => ha
  obtain ⟨hpending, hcredentials⟩ := hg s
  refine ⟨t', .rest, ⟨hm.consistent, ?_, hcredentials.trans hm.credentials⟩, open_others ho h,
    fun a ha => hf t' s a ho hm ha⟩
  rw [hpending]
  exact hm.pending

lemma does_take {sessionId : String} {f : Challenge → Handler} (h : t.Open i)
    (hnew : t.tickets.redeemed i = none)
    (hf : ∀ t' challenge b, Holds i sessionId challenge b t' →
      Does E encode rp requests i t' (f challenge)) :
    Does E encode rp requests i t
      (Task.locked (AppState.takeChallenge · sessionId) >>= fun found =>
        (liftM (Outcome.okOr found sessionNotFound) : Task _ _ Challenge) >>= f) := by
  refine Task.keeps_bind (Q := fun t' found => t'.Open i ∧ ∀ challenge, found = some challenge →
    ∃ b, Holds i sessionId challenge b t') (Task.keeps_locked h fun t' s ho hm => ?_) ?_
  · obtain ⟨-, hsame⟩ := History.others_spec ho
    have hopen := open_others ho h
    have hpending : ∀ id c, (s.pendingChallenges.erase sessionId).lookup id = some c →
        id ≠ sessionId ∧ s.pendingChallenges.lookup id = some c := by
      intro id c hc
      by_cases hid : id = sessionId
      · subst hid
        simp at hc
      · exact ⟨hid, by rwa [Finmap.lookup_erase_ne hid] at hc⟩
    rcases hfound : s.pendingChallenges.lookup sessionId with _ | challenge
    · refine ⟨t', .rest, ⟨hm.consistent, fun id c hc => ?_, hm.credentials⟩, hopen, ?_⟩
      · exact hm.pending id c (hpending id c hc).2
      · intro c hc
        rw [AppState.takeChallenge, hfound] at hc
        cases hc
    · obtain ⟨b, hb, hbegins⟩ := hm.pending sessionId challenge hfound
      have hact : Acts E requests i t' { t' with tickets := t'.tickets.redeem sessionId i b } :=
        .redeem sessionId b hb (hsame.redeemed.trans hnew)
      refine ⟨_, hact, ⟨hm.consistent.act hact, fun id c hc => ?_, hm.credentials⟩, hopen, ?_⟩
      · obtain ⟨hid, hc⟩ := hpending id c hc
        obtain ⟨j, hj, hbegins'⟩ := hm.pending id c hc
        exact ⟨j, (Function.update_of_ne hid ..).trans hj, hbegins'⟩
      · intro c hc
        obtain rfl : challenge = c := Option.some.inj (hfound.symm.trans hc)
        exact ⟨b, hopen, Function.update_self .., hbegins⟩
  · rintro t' found ⟨hopen, hholds⟩
    refine does_lift hopen fun challenge hc => ?_
    obtain ⟨b, hb⟩ := hholds challenge (Outcome.okOr_eq_ok.mp hc)
    exact hf t' challenge b hb

lemma does_verifying {α : Type} {what : String} {x : Stateful Heap WebAuthnError α}
    {f : α → Handler} (h : t.Open i)
    (hf : ∀ t' heap a, Others (Acts E requests) i t t' → (x.run heap).1 = .ok a →
      Does E encode rp requests i t' (f a)) :
    Does E encode rp requests i t (verifying what x >>= f) :=
  does_quiet h (fun _ => ⟨rfl, rfl⟩) fun t' s a ho _ ha =>
    hf t' s.heap a ho (Outcome.mapErr_eq_ok.mp ha)

lemma does_store {sessionId : String} {challenge : Challenge} {reply : Reply}
    (hreply : reply.begun = some (sessionId, challenge)) (h : t.Open i)
    (hsession : (requests i).session = none) :
    Does E encode rp requests i t
      (Task.locked (AppState.storeChallenge · sessionId challenge) >>= fun _ => pure reply) := by
  refine Task.keeps_bind (Q := fun t' _ => Post E encode rp requests i t' reply)
    (Task.keeps_locked h fun t' s ho hm => ?_) fun t' _ hpost => Task.keeps_pure hpost
  have hopen := open_others ho h
  let u : History ι := { t' with
    tickets := t'.tickets.issue sessionId i
    answers := Function.update t'.answers i (some reply) }
  have hact : Acts E requests i t' u := .issue sessionId challenge reply hopen hreply
  have hle := hact.le
  have hself : u.Answered i reply := Function.update_self ..
  refine ⟨u, hact, ⟨hm.consistent.act hact, fun id c hc => ?_, hm.credentials⟩, ?_⟩
  · by_cases hid : id = sessionId
    · subst hid
      rw [AppState.storeChallenge, Finmap.lookup_insert] at hc
      obtain rfl := Option.some.inj hc
      exact ⟨i, Function.update_self .., reply, hself, hreply⟩
    · rw [AppState.storeChallenge, Finmap.lookup_insert_of_ne _ hid] at hc
      obtain ⟨j, hj, hbegins⟩ := hm.pending id c hc
      exact ⟨j, (Function.update_of_ne hid ..).trans hj, hbegins.mono hle.answered⟩
  · have hnone : t'.enrolled i = none := hm.consistent.enrolled i hopen
    refine ⟨hself, ?_, ?_, ?_, ?_⟩
    · intro id hid
      rw [hsession] at hid
      cases hid
    · intro req clock hreq
      rw [hreq] at hsession
      cases hsession
    · intro r hr
      rw [hnone] at hr
      cases hr
    · intro l hl
      cases hreq : requests i <;> rw [hreq] at hl hsession <;> cases hl <;> cases hsession

lemma does_find {key : String} {f : Credential → Handler} (h : t.Open i)
    (hf : ∀ t' stored k r, Others (Acts E requests) i t t' → t'.enrolled k = some r →
      key = toHex r.credential.id → Descends t'.Answered r stored →
      Does E encode rp requests i t' (f stored)) :
    Does E encode rp requests i t
      (Task.locked (AppState.findCredential · key) >>= fun found =>
        (liftM (Outcome.okOr found credentialNotFound) : Task _ _ Credential) >>= f) := by
  refine does_quiet (g := fun s => (.ok (s.credentials.lookup key), s)) h
    (fun _ => ⟨rfl, rfl⟩) fun t' s found ho hm hfound => ?_
  refine does_lift (open_others ho h) fun stored hstored => ?_
  obtain rfl := Outcome.ok.inj hfound
  have hlookup := Outcome.okOr_eq_ok.mp hstored
  rw [hm.credentials] at hlookup
  obtain ⟨k, r, hr, hkey, hdesc⟩ := hm.consistent.stored key stored hlookup
  exact hf t' stored k r ho hr hkey hdesc

lemma does_enroll {req : RegisterCompleteRequest} {clock : Clock} {challenge : Challenge}
    {response : AuthenticatorAttestationResponse} {heap : Heap} {r : RegistrationResult}
    (hreq : requests i = .registerComplete req clock) (hh : Holds i req.sessionId challenge b t)
    (hdec : req.Decodes E response)
    (hr : ((Registration.verifyRegistration E rp clock challenge response
      (Text.asBytes req.sessionId)).run heap).1 = .ok r) :
    Does E encode rp requests i t
      (Task.locked (AppState.storeCredential · (toHex r.credential.id) r.credential) >>= fun _ =>
        pure (.registerComplete (encode r.credential.id) "ok")) := by
  refine Task.keeps_bind (Q := fun t' _ => Post E encode rp requests i t'
      (.registerComplete (encode r.credential.id) "ok"))
    (Task.keeps_locked hh.unanswered fun t' s ho hm => ?_) fun t' _ hpost =>
      Task.keeps_pure hpost
  have hh' := hh.others ho
  let u : History ι := { t' with
    answers := Function.update t'.answers i (some (.registerComplete (encode r.credential.id) "ok"))
    enrolled := Function.update t'.enrolled i (some r)
    stored := t'.stored.insert (toHex r.credential.id) r.credential }
  have hact : Acts E requests i t' u :=
    .enroll r _ hh'.unanswered (hm.consistent.enrolled i hh'.unanswered)
  have hle := hact.le
  have hself : u.Answered i (.registerComplete (encode r.credential.id) "ok") :=
    Function.update_self ..
  have henrolled : u.enrolled i = some r := Function.update_self ..
  refine ⟨u, hact, ⟨hm.consistent.act hact, fun id c hc => ?_, ?_⟩, hself, ?_, ?_, ?_, ?_⟩
  · obtain ⟨j, hj, hbegins⟩ := hm.pending id c hc
    exact ⟨j, hj, hbegins.mono hle.answered⟩
  · rw [AppState.storeCredential, hm.credentials]
  · exact fun _ _ => ⟨b, hh'.redeemed⟩
  · exact fun _ _ _ => ⟨r, henrolled⟩
  · intro q hq
    obtain rfl : r = q := Option.some.inj (henrolled.symm.trans hq)
    obtain ⟨v, hv, hresult⟩ := Registration.accepts_of_ok hr
    exact ⟨b, hh'.redeemed, req, clock, challenge, response, heap, v, hreq, hself,
      hh'.begins.mono hle.answered, hdec, hv, hresult⟩
  · intro l hl
    rw [hreq] at hl
    cases hl

lemma does_count {req : AuthCompleteRequest} {clock : Clock} {challenge : Challenge}
    {response : AuthenticatorAssertionResponse} {heap : Heap} {stored : Credential}
    {r₀ : RegistrationResult} {r : AuthenticationResult} {key : String}
    (hlogin : (requests i).login = some (req, clock)) (hh : Holds i req.sessionId challenge b t)
    (hdec : req.Decodes E response) (hk : t.enrolled k = some r₀)
    (hdesc : Descends t.Answered r₀ stored)
    (hkey : key = toHex r₀.credential.id) (hid : key = toHex response.credentialId)
    (hr : ((Authentication.verifyAuthentication E rp stored clock challenge response).run
      heap).1 = .ok r) :
    Does E encode rp requests i t
      (Task.locked (AppState.setSignCount · key r.newSignCount) >>= fun _ =>
        pure (.authComplete "ok" r.newSignCount)) := by
  refine Task.keeps_bind (Q := fun t' _ => Post E encode rp requests i t'
      (.authComplete "ok" r.newSignCount))
    (Task.keeps_locked hh.unanswered fun t' s ho hm => ?_) fun t' _ hpost =>
      Task.keeps_pure hpost
  have hh' := hh.others ho
  let u : History ι := { t' with
    answers := Function.update t'.answers i (some (.authComplete "ok" r.newSignCount))
    stored := recount t'.stored key r.newSignCount }
  have hact : Acts E requests i t' u := .count key r.newSignCount hh'.unanswered
    ⟨req, clock, _, hlogin, hdec.1, hid⟩
  have hstored : stored.id = response.credentialId :=
    hdesc.id_eq.trans (toHex_injective (hkey.symm.trans hid))
  have hle := (History.others_spec ho).1.trans hact.le
  have hself : u.Answered i (.authComplete "ok" r.newSignCount) := Function.update_self ..
  have hnone : u.enrolled i = none := hm.consistent.enrolled i hh'.unanswered
  refine ⟨u, hact, ⟨hm.consistent.act hact, fun id c hc => ?_, ?_⟩, hself, ?_, ?_, ?_, ?_⟩
  · rw [setSignCount_eq] at hc
    obtain ⟨j, hj, hbegins⟩ := hm.pending id c hc
    exact ⟨j, hj, hbegins.mono hact.le.answered⟩
  · rw [setSignCount_eq, hm.credentials]
  · exact fun _ _ => ⟨b, hh'.redeemed⟩
  · intro q c hq
    rw [hq] at hlogin
    cases hlogin
  · intro q hq
    rw [hnone] at hq
    cases hq
  · intro l hl
    obtain ⟨ad, had, rfl⟩ := Authentication.accepts_of_ok hr
    exact ⟨b, k, r₀, stored, hh'.redeemed, hle.enrolled k r₀ hk, hdesc.mono hle.answered, req,
      clock, challenge, response, heap, ad, hlogin, hself, hh'.begins.mono hact.le.answered, hdec,
      hstored, had⟩

/-! ### The endpoints -/

omit [DecidableEq ι] in
lemma decodeB64url_eq_ok {value field : String} {bytes : Bytes} :
    decodeB64url E value field = .ok bytes ↔ E.urlSafeNoPadDecode value = .ok bytes :=
  Outcome.ofExcept_eq_ok

lemma does_registerBegin {req : RegisterBeginRequest} {draws : Draws} (h : t.Open i)
    (hreq : requests i = .registerBegin req draws) :
    Does E encode rp requests i t (registerBegin rp req draws) := by
  unfold registerBegin
  refine does_lift h fun options _ => ?_
  refine does_lift h fun sessionId _ => ?_
  exact does_store rfl h (by rw [hreq]; rfl)

lemma does_registerComplete {req : RegisterCompleteRequest} {clock : Clock} (h : t.Open i)
    (hnew : t.tickets.redeemed i = none) (hreq : requests i = .registerComplete req clock) :
    Does E encode rp requests i t (registerComplete E encode rp req clock) := by
  unfold registerComplete
  refine does_take h hnew fun t₁ challenge b hh => ?_
  refine does_lift hh.unanswered fun clientDataJson hjson => ?_
  refine does_lift hh.unanswered fun attestationObject hobject => ?_
  refine does_verifying hh.unanswered fun t₂ heap r ho hr => ?_
  exact does_enroll hreq (hh.others ho)
    ⟨decodeB64url_eq_ok.mp hjson, decodeB64url_eq_ok.mp hobject⟩ hr

lemma does_authenticateBegin {req : AuthBeginRequest} {draws : Draws} (h : t.Open i)
    (hreq : requests i = .authenticateBegin req draws) :
    Does E encode rp requests i t (authenticateBegin E rp req draws) := by
  unfold authenticateBegin
  refine does_lift h fun credIdBytes _ => ?_
  refine does_quiet (g := fun s => (.ok (s.containsCredential (toHex credIdBytes)).1, s)) h
    (fun _ => ⟨rfl, rfl⟩) fun t₁ s known ho _ _ => ?_
  have h₁ := open_others ho h
  refine does_lift h₁ fun _ _ => ?_
  refine does_lift h₁ fun options _ => ?_
  refine does_lift h₁ fun sessionId _ => ?_
  exact does_store rfl h₁ (by rw [hreq]; rfl)

lemma does_authenticateComplete {req : AuthCompleteRequest} {clock : Clock} (h : t.Open i)
    (hnew : t.tickets.redeemed i = none) (hreq : requests i = .authenticateComplete req clock) :
    Does E encode rp requests i t (authenticateComplete E rp req clock) := by
  unfold authenticateComplete
  refine does_take h hnew fun t₁ challenge b hh => ?_
  refine does_lift hh.unanswered fun credIdBytes hid => ?_
  refine does_find hh.unanswered fun t₂ stored k r ho hk hkey hdesc => ?_
  have hh₂ := hh.others ho
  refine does_lift hh₂.unanswered fun clientDataJson hjson => ?_
  refine does_lift hh₂.unanswered fun authenticatorData hdata => ?_
  refine does_lift hh₂.unanswered fun signature hsig => ?_
  refine does_verifying hh₂.unanswered fun t₃ heap result ho' hr => ?_
  have hle := (History.others_spec ho').1
  exact does_count (by rw [hreq]; rfl) (hh₂.others ho')
    ⟨decodeB64url_eq_ok.mp hid, decodeB64url_eq_ok.mp hjson, decodeB64url_eq_ok.mp hdata,
      decodeB64url_eq_ok.mp hsig, rfl⟩
    (hle.enrolled k r hk) (hdesc.mono hle.answered) hkey rfl hr

lemma does_passkeyAuthenticateBegin {draws : Draws} (h : t.Open i)
    (hreq : requests i = .passkeyAuthenticateBegin draws) :
    Does E encode rp requests i t (passkeyAuthenticateBegin rp draws) := by
  unfold passkeyAuthenticateBegin
  refine does_lift h fun options _ => ?_
  refine does_lift h fun sessionId _ => ?_
  exact does_store rfl h (by rw [hreq]; rfl)

lemma does_passkeyAuthenticateComplete {req : PasskeyAuthCompleteRequest} {clock : Clock}
    (h : t.Open i) (hnew : t.tickets.redeemed i = none)
    (hreq : requests i = .passkeyAuthenticateComplete req clock) :
    Does E encode rp requests i t (passkeyAuthenticateComplete E rp req clock) := by
  unfold passkeyAuthenticateComplete
  refine does_take h hnew fun t₁ challenge b hh => ?_
  refine does_lift hh.unanswered fun clientDataJson hjson => ?_
  refine does_lift hh.unanswered fun authenticatorData hdata => ?_
  refine does_lift hh.unanswered fun signature hsig => ?_
  refine does_lift hh.unanswered fun credIdBytes hid => ?_
  refine does_lift hh.unanswered fun ⟨lookupId, handle⟩ hbegin => ?_
  obtain ⟨-, rfl, -⟩ := RelyingParty.beginAuthentication_eq_ok.mp (Outcome.mapErr_eq_ok.mp hbegin)
  refine does_find hh.unanswered fun t₂ stored k r ho hk hkey hdesc => ?_
  have hh₂ := hh.others ho
  refine does_verifying hh₂.unanswered fun t₃ heap result ho' hr => ?_
  have hle := (History.others_spec ho').1
  exact does_count (by rw [hreq]; rfl) (hh₂.others ho')
    ⟨decodeB64url_eq_ok.mp hid, decodeB64url_eq_ok.mp hjson, decodeB64url_eq_ok.mp hdata,
      decodeB64url_eq_ok.mp hsig, rfl⟩
    (hle.enrolled k r hk) (hdesc.mono hle.answered) hkey rfl hr

lemma does_handle (h : t.Open i) (hnew : t.tickets.redeemed i = none) :
    Does E encode rp requests i t (handle E encode rp (requests i)) := by
  cases hreq : requests i with
  | registerBegin req draws => exact does_registerBegin h hreq
  | registerComplete req clock => exact does_registerComplete h hnew hreq
  | authenticateBegin req draws => exact does_authenticateBegin h hreq
  | authenticateComplete req clock => exact does_authenticateComplete h hnew hreq
  | passkeyAuthenticateBegin draws => exact does_passkeyAuthenticateBegin h hreq
  | passkeyAuthenticateComplete req clock =>
    exact does_passkeyAuthenticateComplete h hnew hreq

/-! ### Runs -/

variable {heap : Heap} {p q : Run ι}

variable (E encode rp requests) in
/-- The history `t` is one of this state of the server. -/
abbrev Tells (t : History ι) (p : Run ι) : Prop :=
  p.Keeps Matches (Acts E requests) History.Open (Post E encode rp requests) t

lemma tells_start : Tells E encode rp requests .start (serve E encode rp requests heap) where
  holds := ⟨History.consistent_start, fun _ _ h => by simp [serve, AppState.new] at h, rfl⟩
  tasks _ := does_handle rfl rfl

lemma exists_history (h : ReflTransGen Pool.Step (serve E encode rp requests heap) p) :
    ∃ t, Tells E encode rp requests t p := by
  obtain ⟨t, -, ht⟩ := tells_start.run (fun _ _ _ => open_others)
    (fun _ _ _ _ ho hp => hp.others ho) h
  exact ⟨t, ht⟩

lemma answered_iff (h : Tells E encode rp requests t p) (i : ι) (reply : Reply) :
    t.Answered i reply ↔ p.Answered i reply := by
  refine ⟨fun ha => ?_, fun hp => ?_⟩
  · have hopen : ¬ t.Open i := by
      rw [History.Open, ha]
      exact nofun
    obtain ⟨reply', hp, hpost⟩ := h.answered hopen
    obtain rfl : reply = reply' := Option.some.inj (ha.symm.trans hpost.answered)
    exact hp
  · have htask := h.tasks i
    rw [hp] at htask
    exact htask.answered

lemma registers_of_enrolled (h : Tells E encode rp requests t p) {r : RegistrationResult}
    (hr : t.enrolled k = some r) :
    ∃ b, t.tickets.redeemed k = some b ∧ Registers E encode rp requests p.Answered b k r := by
  have hopen : ¬ t.Open k := by
    intro hopen
    rw [h.holds.consistent.enrolled k hopen] at hr
    cases hr
  obtain ⟨reply, -, hpost⟩ := h.answered hopen
  obtain ⟨b, hb, hreg⟩ := hpost.registers r hr
  exact ⟨b, hb, hreg.mono fun i a => (answered_iff h i a).mp⟩

lemma post_of_answered (h : Tells E encode rp requests t p) {reply : Reply}
    (hp : p.Answered i reply) : Post E encode rp requests i t reply := by
  have htask := h.tasks i
  rw [hp] at htask
  exact htask

lemma begun_inj (h : Tells E encode rp requests t p) {i j : ι} {a a' : Reply}
    (hi : (requests i).session.isSome) (hj : (requests j).session.isSome) (hpi : p.Answered i a)
    (hpj : p.Answered j a') (he : t.begun i = t.begun j) : i = j := by
  obtain ⟨id, hid⟩ := Option.isSome_iff_exists.mp hi
  obtain ⟨id', hid'⟩ := Option.isSome_iff_exists.mp hj
  obtain ⟨b, hb⟩ := (post_of_answered h hpi).session id hid
  obtain ⟨b', hb'⟩ := (post_of_answered h hpj).session id' hid'
  rw [History.begun_eq hb, History.begun_eq hb'] at he
  exact h.holds.consistent.tickets.redeemed_single i j b hb (he ▸ hb')

lemma logsIn_of_answered (h : Tells E encode rp requests t p)
    {l : AuthCompleteRequest × Clock} {a : Reply} (hl : (requests i).login = some l)
    (hp : p.Answered i a) : ∃ k r stored, LogsIn E rp requests p.Answered (t.begun i) i stored ∧
      Registers E encode rp requests p.Answered (t.begun k) k r ∧
      Descends p.Answered r stored := by
  have hmono : ∀ i a, t.Answered i a → p.Answered i a := fun i a => (answered_iff h i a).mp
  obtain ⟨b, k, r, stored, hb, hk, hdesc, hlog⟩ := (post_of_answered h hp).logsIn l hl
  obtain ⟨b', hb', hreg⟩ := registers_of_enrolled h hk
  rw [History.begun_eq hb]
  refine ⟨k, r, stored, hlog.mono hmono, ?_, hdesc.mono hmono⟩
  rw [History.begun_eq hb']
  exact hreg

end

/-! ### A visit -/

section
open Recorded

/-- The calls of a registration and a login. -/
def visit : Record where
  sha256 := [(Text.asBytes rpId, rpIdHash), (createJson, createHash),
    (firstResponse.clientDataJson, firstHash)]
  ecdsaAsn1 := [(uncompressed keyX keyY, firstResponse.authenticatorData ++ firstHash.toList,
    firstResponse.signature)]
  cbor := (registration aaguid).cbor
  clientData := [(createJson, clientDataOf "webauthn.create" createText),
    (firstResponse.clientDataJson, clientDataOf "webauthn.get" firstText)]
  urlSafe := [(createText, createChallenge.bytes), (firstText, firstChallenge.bytes),
    (urlSafe createJson, createJson),
    (urlSafe (attestationObject aaguid), attestationObject aaguid),
    (urlSafe credentialId, credentialId),
    (urlSafe firstResponse.clientDataJson, firstResponse.clientDataJson),
    (urlSafe firstResponse.authenticatorData, firstResponse.authenticatorData),
    (urlSafe firstResponse.signature, firstResponse.signature)]

def drawsOf (challenge session : UInt8) : Draws :=
  ⟨some (List.Vector.replicate 32 challenge), ⟨0⟩, some (List.Vector.replicate 16 session)⟩

def sessionOf (session : UInt8) : String := toHex (List.replicate 16 session)

/-- The requests of one client. -/
def visits : Fin 4 → Request
  | 0 => .registerBegin ⟨"u", "user"⟩ (drawsOf 1 1)
  | 1 => .registerComplete
    ⟨sessionOf 1, urlSafe createJson, urlSafe (attestationObject aaguid)⟩ clock
  | 2 => .authenticateBegin ⟨urlSafe credentialId⟩ (drawsOf 2 2)
  | 3 => .authenticateComplete ⟨sessionOf 2, urlSafe credentialId,
      urlSafe firstResponse.clientDataJson, urlSafe firstResponse.authenticatorData,
      urlSafe firstResponse.signature⟩ clock

def noVisit : Run (Fin 4) := serve visit.env urlSafe rp visits (Heap.new fun _ => ∅)

/-- Before the credential is stored, after it, and after the login. -/
def registering : Run (Fin 4) := [0, 1, 1].foldl Pool.advance noVisit
def registered : Run (Fin 4) := registering.advance 1
def visited : Run (Fin 4) := [2, 2, 3, 3, 3, 3].foldl Pool.advance registered

/-- The challenges of the sessions that the requests have begun. -/
def issued : Fin 4 → Option Bytes
  | 0 => some (List.replicate 32 1)
  | 2 => some (List.replicate 32 2)
  | _ => none

lemma visits_answered : (∀ i, (visited.answer i).map (fun reply => reply.begun.map (·.2.bytes)) =
      some (issued i)) ∧
    registering.waits 1 = true ∧
    registering.shared.credentials.lookup (toHex credentialId) = none ∧
    (registered.shared.credentials.lookup (toHex credentialId)).isSome ∧
    (visited.shared.credentials.lookup (toHex credentialId)).isSome := by
  decide +kernel

lemma run_registering : ReflTransGen Pool.Step noVisit registering := Pool.run_advance _ _

lemma run_visited : ReflTransGen Pool.Step noVisit visited :=
  (run_registering.tail (Pool.step_advance visits_answered.2.1)).trans (Pool.run_advance _ _)

lemma answered_visited (i : Fin 4) : ∃ a, visited.Answered i a := by
  obtain ⟨a, ha, -⟩ := Option.map_eq_some_iff.mp (visits_answered.1 i)
  exact ⟨a, Pool.answer_eq_some.mp ha⟩

end

/-! ### What the server guarantees -/

variable {ι : Type} [DecidableEq ι]

/-- **Every session is completed once, and every login rests on a registration.** In every
interleaving, the answered requests that complete a session completed different ones, each begun
by a request of its own; a registration was accepted with the challenge of its session, and so
was a login, for a credential that an answered registration has stored. -/
theorem sessions_complete_once (E : Env) (encode : Bytes → String) (rp : RelyingParty)
    (requests : ι → Request) (heap : Heap) (p : Run ι)
    (h : ReflTransGen Pool.Step (serve E encode rp requests heap) p) :
    ∃ begun : ι → ι,
      (∀ i j a a', (requests i).session.isSome → (requests j).session.isSome →
        p.Answered i a → p.Answered j a' → begun i = begun j → i = j) ∧
      (∀ i req clock a, requests i = .registerComplete req clock → p.Answered i a →
        ∃ r, Registers E encode rp requests p.Answered (begun i) i r) ∧
      ∀ i l a, (requests i).login = some l → p.Answered i a →
        ∃ k r stored, LogsIn E rp requests p.Answered (begun i) i stored ∧
          Registers E encode rp requests p.Answered (begun k) k r ∧
          Descends p.Answered r stored := by
  obtain ⟨t, ht⟩ := exists_history h
  refine ⟨t.begun, fun i j a a' => begun_inj ht, ?_, fun i l a => logsIn_of_answered ht⟩
  intro i req clock a hreq hp
  obtain ⟨r, hr⟩ := (post_of_answered ht hp).enrolled req clock hreq
  obtain ⟨b, hb, hreg⟩ := registers_of_enrolled ht hr
  rw [History.begun_eq hb]
  exact ⟨r, hreg⟩

/-- The login of the visit rests on its registration, in a session of its own. -/
theorem visits_complete_once : ∃ begun : Fin 4 → Fin 4, begun 1 ≠ begun 3 ∧
    (∃ r, Registers visit.env Recorded.urlSafe Recorded.rp visits visited.Answered (begun 1) 1 r) ∧
    ∃ k r stored, LogsIn visit.env Recorded.rp visits visited.Answered (begun 3) 3 stored ∧
      Registers visit.env Recorded.urlSafe Recorded.rp visits visited.Answered (begun k) k r ∧
      Descends visited.Answered r stored := by
  obtain ⟨begun, hsingle, hregisters, hlogins⟩ :=
    sessions_complete_once visit.env Recorded.urlSafe Recorded.rp visits _ visited run_visited
  obtain ⟨a, ha⟩ := answered_visited 1
  obtain ⟨a', ha'⟩ := answered_visited 3
  refine ⟨begun, fun he => ?_, hregisters 1 _ _ a rfl ha, hlogins 3 _ a' rfl ha'⟩
  exact absurd (hsingle 1 3 a a' rfl rfl ha ha' he) (by decide)

/-- **Every stored credential was registered.** In every reachable state, a stored credential is
under the text of its id, and it is the one that an answered registration has verified, except
for a count that an answered login has reported. -/
theorem stored_credentials_registered (E : Env) (encode : Bytes → String) (rp : RelyingParty)
    (requests : ι → Request) (heap : Heap) (p : Run ι)
    (h : ReflTransGen Pool.Step (serve E encode rp requests heap) p) (key : String)
    (c : Credential) (hc : p.shared.credentials.lookup key = some c) :
    key = toHex c.id ∧ ∃ b k r, Registers E encode rp requests p.Answered b k r ∧
      Descends p.Answered r c := by
  obtain ⟨t, ht⟩ := exists_history h
  rw [ht.holds.credentials] at hc
  obtain ⟨k, r, hr, hkey, hdesc⟩ := ht.holds.consistent.stored key c hc
  obtain ⟨b, -, hreg⟩ := registers_of_enrolled ht hr
  exact ⟨hdesc.id_eq ▸ hkey, b, k, r, hreg, hdesc.mono fun i a => (answered_iff ht i a).mp⟩

/-- The credential of the visit is stored and was registered. -/
theorem visits_stored : ∃ c,
    visited.shared.credentials.lookup (toHex Recorded.credentialId) = some c ∧
    toHex Recorded.credentialId = toHex c.id ∧
    ∃ b k r, Registers visit.env Recorded.urlSafe Recorded.rp visits visited.Answered b k r ∧
      Descends visited.Answered r c := by
  obtain ⟨c, hc⟩ := Option.isSome_iff_exists.mp visits_answered.2.2.2.2
  exact ⟨c, hc, stored_credentials_registered visit.env Recorded.urlSafe Recorded.rp visits _
    visited run_visited _ c hc⟩

/-- **Only accepted requests change what is stored.** A step of any run leaves the credentials
as they are, unless it is the one that answers a registration, which stores the credential that
was verified, or a login, which writes the reported count to the credential that it names. -/
theorem credentials_change (E : Env) (encode : Bytes → String) (rp : RelyingParty)
    (requests : ι → Request) (heap : Heap) (p q : Run ι)
    (h : ReflTransGen Pool.Step (serve E encode rp requests heap) p) (hstep : p.Step q) :
    q.shared.credentials = p.shared.credentials ∨
    ∃ i b, (∀ a, ¬ p.Answered i a) ∧
      ((∃ r, Registers E encode rp requests q.Answered b i r ∧ q.shared.credentials =
        p.shared.credentials.insert (toHex r.credential.id) r.credential) ∨
      ∃ stored n, LogsIn E rp requests q.Answered b i stored ∧
        q.Answered i (.authComplete "ok" n) ∧
        q.shared.credentials = recount p.shared.credentials (toHex stored.id) n) := by
  obtain ⟨t, ht⟩ := exists_history h
  obtain ⟨i, u, hact, hu⟩ := ht.step (fun _ _ _ => open_others)
    (fun _ _ _ _ ho hp => hp.others ho) hstep
  have hunanswered : t.Open i → ∀ a, ¬ p.Answered i a := by
    intro hopen a ha
    rw [← answered_iff ht, History.Answered, hopen] at ha
    cases ha
  rw [hu.holds.credentials, ht.holds.credentials]
  cases hact with
  | rest => exact Or.inl rfl
  | issue sessionId challenge reply hi hreply => exact Or.inl rfl
  | redeem sessionId j hj hi => exact Or.inl rfl
  | enroll r reply hi hr =>
    obtain ⟨b, -, hreg⟩ := registers_of_enrolled hu (Function.update_self ..)
    exact Or.inr ⟨i, b, hunanswered hi, Or.inl ⟨r, hreg, rfl⟩⟩
  | count key n hi hkey =>
    obtain ⟨req, clock, id, hlogin, hid, rfl⟩ := hkey
    have hq : q.Answered i (.authComplete "ok" n) :=
      (answered_iff hu i _).mp (Function.update_self ..)
    obtain ⟨b, k, r, stored, -, -, -, hlog⟩ := (post_of_answered hu hq).logsIn _ hlogin
    have hlog' := hlog.mono fun i a => (answered_iff hu i a).mp
    obtain ⟨req', clock', challenge, response, heap, ad, hlogin', -, -, hdec, hstored, -⟩ := hlog
    -- the request decodes to one id
    obtain ⟨rfl, rfl⟩ := Prod.mk.inj (Option.some.inj (hlogin.symm.trans hlogin'))
    obtain rfl : id = stored.id := (Except.ok.inj (hid.symm.trans hdec.1)).trans hstored.symm
    exact Or.inr ⟨i, b, hunanswered hi, Or.inr ⟨stored, n, hlog', hq, rfl⟩⟩

/-- The step that answers the registration changes what is stored. -/
theorem visits_change : registered.shared.credentials ≠ registering.shared.credentials ∧
    ∃ i b, (∀ a, ¬ registering.Answered i a) ∧
      ((∃ r, Registers visit.env Recorded.urlSafe Recorded.rp visits registered.Answered b i r ∧
        registered.shared.credentials =
          registering.shared.credentials.insert (toHex r.credential.id) r.credential) ∨
      ∃ stored n, LogsIn visit.env Recorded.rp visits registered.Answered b i stored ∧
        registered.Answered i (.authComplete "ok" n) ∧
        registered.shared.credentials =
          recount registering.shared.credentials (toHex stored.id) n) := by
  have hne : registered.shared.credentials ≠ registering.shared.credentials := by
    intro he
    have hsome := visits_answered.2.2.2.1
    rw [he, visits_answered.2.2.1] at hsome
    cases hsome
  refine ⟨hne, Or.resolve_left ?_ hne⟩
  exact credentials_change visit.env Recorded.urlSafe Recorded.rp visits _ registering registered
    run_registering (Pool.step_advance visits_answered.2.1)

end Caden.Server
