import Caden.Lib.Agreement
import Caden.Serializable
import Caden.ServerSafety

/-!
Agreement between the logins that are accepted and the authenticators that sign.

What an authenticator has signed is kept in a log, together with the client data whose hash it was
given. If the signatures that are presented verify only for messages in the log, an accepted login
presents exactly what one entry of the log was made from, and this entry was made for the login's
challenge and origin. Logins with different challenges have different entries.
-/

namespace Caden

open Relation Ceremony

/-! ### What was signed -/

/-- One use of a key: the authenticator data, and the client data that the client has hashed. -/
structure Signing where
  key : PublicKey
  authenticatorData : Bytes
  clientDataJson : Bytes
  deriving DecidableEq

namespace Signing

instance : Nonempty Signing := ⟨⟨.edDsa [], [], []⟩⟩

variable (E : Env)

/-- The message under a signature. -/
def messageOf (authenticatorData clientDataJson : Bytes) : Bytes :=
  authenticatorData ++ (Crypto.sha256Of E clientDataJson).toList

/-- Of the responses that are presented, those whose signature verifies under one of the keys
present a message of the log, and none presents client data that collides with the log's. -/
structure Authentic (log : Set Signing) (keys : Set PublicKey)
    (presented : Set AuthenticatorAssertionResponse) : Prop where
  unforgeable : ∀ key ∈ keys, ∀ r ∈ presented,
    key.Verifies E (messageOf E r.authenticatorData r.clientDataJson) r.signature →
      ∃ g ∈ log, g.key = key ∧ messageOf E g.authenticatorData g.clientDataJson =
        messageOf E r.authenticatorData r.clientDataJson
  digests : ∀ g ∈ log, ∀ r ∈ presented,
    Crypto.sha256Of E g.clientDataJson = Crypto.sha256Of E r.clientDataJson →
      g.clientDataJson = r.clientDataJson

/-- The signing is what the response presents, and was made for this challenge, at an origin that
is allowed, for the credential's relying party, and by a user who was present, and verified where
that is required. -/
structure MadeFor (rp : RelyingParty) (stored : Credential) (challenge : Challenge)
    (response : AuthenticatorAssertionResponse) (g : Signing) : Prop where
  key : g.key = stored.publicKey
  authenticatorData : g.authenticatorData = response.authenticatorData
  clientDataJson : g.clientDataJson = response.clientDataJson
  binds : ClientData.Binds E "webauthn.get" challenge.bytes rp.allowedOrigins
    rp.rejectCrossOrigin g.clientDataJson
  flags : ∃ ad, AuthData.parseAuthenticatorData E g.authenticatorData = .ok ad ∧
    ad.rpIdHash = Crypto.sha256Of E (Text.asBytes stored.rpId) ∧ ad.flags.userPresent = true ∧
    (rp.requireUserVerification = true → ad.flags.userVerified = true)

variable {E} {log : Set Signing} {keys : Set PublicKey}
  {presented : Set AuthenticatorAssertionResponse} {rp rp' : RelyingParty}
  {stored stored' : Credential} {challenge challenge' : Challenge}
  {response response' : AuthenticatorAssertionResponse} {g : Signing}

lemma exists_madeFor {clock : Clock} {heap : Heap} {ad : AuthData.AuthenticatorData}
    (hauth : Authentic E log keys presented) (hkey : stored.publicKey ∈ keys)
    (hresponse : response ∈ presented)
    (h : Authentication.Accepts E rp stored clock challenge response heap ad) :
    ∃ g ∈ log, MadeFor E rp stored challenge response g := by
  obtain ⟨g, hg, hgkey, hmessage⟩ := hauth.unforgeable _ hkey _ hresponse h.signed
  -- the hash has a fixed length, so the message falls into its parts
  have hlen : (Crypto.sha256Of E g.clientDataJson).toList.length =
      (Crypto.sha256Of E response.clientDataJson).toList.length := by
    rw [List.Vector.toList_length, List.Vector.toList_length]
  obtain ⟨hdata, hhash⟩ := List.append_inj' hmessage hlen
  have hjson := hauth.digests g hg _ hresponse (List.Vector.toList_injective hhash)
  refine ⟨g, hg, hgkey, hdata, hjson, ?_, ad, ?_, h.rpIdHash, h.userPresent, h.userVerified⟩
  · rw [hjson]
    exact h.binds
  · rw [hdata]
    exact h.parses

lemma MadeFor.challenge_eq (h : MadeFor E rp stored challenge response g)
    (h' : MadeFor E rp' stored' challenge' response' g) : challenge.bytes = challenge'.bytes := by
  obtain ⟨-, rcd, hrcd, -, hch, -⟩ := h.binds
  obtain ⟨-, rcd', hrcd', -, hch', -⟩ := h'.binds
  obtain rfl : rcd = rcd' := Except.ok.inj (hrcd.symm.trans hrcd')
  exact Except.ok.inj (hch.symm.trans hch')

end Signing

/-! ### Concurrent ceremonies -/

namespace SingleUse

variable {ι : Type} [DecidableEq ι] {E : Env} {calls : ι → Call} {s : State ι} {heap : Heap}

/-- The call is a login under one of the keys. -/
def IsLogin (keys : Set PublicKey) : Call → Prop
  | .register .. => False
  | .authenticate _ stored _ _ _ => stored.publicKey ∈ keys

/-- The signing was made for the call. -/
def SignedFor (E : Env) (g : Signing) : Call → Prop
  | .register .. => False
  | .authenticate rp stored _ challenge response => g.MadeFor E rp stored challenge response

/-- The responses of the logins. -/
def presented (calls : ι → Call) : Set AuthenticatorAssertionResponse :=
  {r | ∃ i rp stored clock challenge, calls i = .authenticate rp stored clock challenge r}

/-- The logins under the keys that were accepted. -/
def loggedIn (keys : Set PublicKey) (calls : ι → Call) (s : State ι) : Set ι :=
  {i | IsLogin keys (calls i) ∧ (s.phase i).Accepted}

lemma run_of_accepted (h : ReflTransGen (Step E calls) (start heap) s) {i : ι}
    (hi : (s.phase i).Accepted) : ∃ heap' v, (((calls i).run E).run heap').1 = .ok v := by
  obtain ⟨order, hexplains⟩ := explained_run h
  obtain ⟨v, hv⟩ := hi
  have hdecided : (s.phase i).Decided := by
    rw [hv]
    trivial
  obtain ⟨pre, post, rfl⟩ := List.append_of_mem ((hexplains.mem i).mpr hdecided)
  have htells : (s.phase i).Tells E (calls i) _ := hexplains.tells pre i post rfl
  rw [hv] at htells
  exact ⟨_, v, htells.symm⟩

lemma SignedFor.challenge_eq {g : Signing} {c c' : Call} (h : SignedFor E g c)
    (h' : SignedFor E g c') : c.challenge.bytes = c'.challenge.bytes := by
  cases c with
  | register => exact h.elim
  | authenticate rp stored clock challenge response =>
    cases c' with
    | register => exact h'.elim
    | authenticate rp' stored' clock' challenge' response' =>
      exact Signing.MadeFor.challenge_eq h h'

/-- **Injective agreement of concurrent logins.** In every interleaving of calls, each accepted
login is matched to a signing of the log that was made for it. Logins on one shared set of used
challenges are matched to different signings, so there are no more of them than signings. -/
theorem logins_agree (E : Env) (calls : ι → Call) (heap : Heap) (s : State ι)
    (h : ReflTransGen (Step E calls) (start heap) s) (log : Set Signing) (keys : Set PublicKey)
    (hauth : Signing.Authentic E log keys (presented calls)) :
    ∃ f : ι → Signing,
      (∀ i ∈ loggedIn keys calls s, f i ∈ log ∧ SignedFor E (f i) (calls i)) ∧
      ∀ a, Set.InjOn f {i ∈ loggedIn keys calls s | (calls i).rp.usedChallenges = some a} ∧
        {i ∈ loggedIn keys calls s | (calls i).rp.usedChallenges = some a}.encard ≤ log.encard := by
  have hexists : ∀ i ∈ loggedIn keys calls s, ∃ g ∈ log, SignedFor E g (calls i) := by
    rintro i ⟨hlogin, haccepted⟩
    obtain ⟨heap', v, hv⟩ := run_of_accepted h haccepted
    rcases hcall : calls i with _ | ⟨rp, stored, clock, challenge, response⟩
    · rw [hcall] at hlogin
      exact hlogin.elim
    · rw [hcall] at hlogin hv
      obtain ⟨r, hr, -⟩ := Stateful.run_bind_eq_ok.mp hv
      obtain ⟨ad, had, -⟩ := Authentication.accepts_of_ok hr
      exact Signing.exists_madeFor hauth hlogin ⟨i, rp, stored, clock, challenge, hcall⟩ had
  obtain ⟨f, hf⟩ := Agreement.exists_agrees hexists
  refine ⟨f, fun i hi => ⟨hf.occurs hi, hf.matched i hi⟩, fun a => ?_⟩
  have hsub : {i ∈ loggedIn keys calls s | (calls i).rp.usedChallenges = some a} ⊆
      loggedIn keys calls s := fun _ hi => hi.1
  have hfresh : Set.InjOn (key calls)
      {i ∈ loggedIn keys calls s | (calls i).rp.usedChallenges = some a} :=
    fun i hi j hj hkey => past_unique h hi.2 hj.2 hi.1.2.past hj.1.2.past hkey
  have hinj := hf.injOn hsub (fun i j g hi hj => hi.challenge_eq hj) hfresh
  exact ⟨hinj, hf.encard_le hsub hinj⟩

section
open Recorded

/-- Two logins of a credential, at relying parties that share a set. -/
def pairOfLogins : Bool → Call
  | false => .authenticate (rp.enforceSingleUseChallenges 0 true) credential clock firstChallenge
      firstResponse
  | true => .authenticate (rp.enforceSingleUseChallenges 0 true) credential clock secondChallenge
      secondResponse

/-- What the authenticator has signed for them. -/
def pairOfSignings : Bool → Signing
  | false => ⟨credential.publicKey, firstResponse.authenticatorData, firstResponse.clientDataJson⟩
  | true => ⟨credential.publicKey, secondResponse.authenticatorData, secondResponse.clientDataJson⟩

lemma pair_isOk :
    (∀ b, (((pairOfLogins b).run twoAssertions.env).run (Heap.new fun _ => ∅)).1.isOk = true) ∧
    Crypto.sha256Of twoAssertions.env firstResponse.clientDataJson = firstHash ∧
    Crypto.sha256Of twoAssertions.env secondResponse.clientDataJson = secondHash ∧
    firstHash ≠ secondHash ∧ firstChallenge.bytes ≠ secondChallenge.bytes := by
  decide +kernel

lemma pair_authentic : Signing.Authentic twoAssertions.env (Set.range pairOfSignings)
    {credential.publicKey} (presented pairOfLogins) := by
  obtain ⟨-, hfirst, hsecond, hne, -⟩ := pair_isOk
  have hpresented : ∀ r ∈ presented pairOfLogins, r = firstResponse ∨ r = secondResponse := by
    rintro r ⟨_ | _, _, _, _, _, hcall⟩
    · cases hcall
      exact .inl rfl
    · cases hcall
      exact .inr rfl
  refine ⟨fun key hkey r hr _ => ?_, ?_⟩
  · obtain rfl := hkey
    rcases hpresented r hr with rfl | rfl
    · exact ⟨_, ⟨false, rfl⟩, rfl, rfl⟩
    · exact ⟨_, ⟨true, rfl⟩, rfl, rfl⟩
  · rintro g ⟨b, rfl⟩ r hr hhash
    rcases hpresented r hr with rfl | rfl <;> cases b
    · rfl
    · exact absurd (hfirst.symm.trans (hhash.symm.trans hsecond)) hne
    · exact absurd (hfirst.symm.trans (hhash.trans hsecond)) hne
    · rfl

lemma pair_accepted : ∃ s,
    ReflTransGen (Step twoAssertions.env pairOfLogins) (start (Heap.new fun _ => ∅)) s ∧
    ∀ b, (s.phase b).Accepted := by
  obtain ⟨hok, -, -, -, hne⟩ := pair_isOk
  have hsound := Heap.sound_new fun _ => (∅ : Finset Bytes)
  obtain ⟨v, hv⟩ := Outcome.isOk_iff.mp (hok false)
  obtain ⟨v', hv'⟩ := Outcome.isOk_iff.mp (hok true)
  obtain ⟨ph, hrun, hph⟩ := @run_refines Bool _ twoAssertions.env pairOfLogins
    (start (Heap.new fun _ => ∅)) false rfl
  have hidle (heap : Heap) : ((start (Heap.new fun _ => ∅) : State Bool).put heap false
      ph).phase true = .idle := rfl
  obtain ⟨ph', hrun', hph'⟩ := run_refines _ true (hidle _)
  -- the first login leaves the challenge of the second one unused
  have hsame : (((pairOfLogins true).run twoAssertions.env).run
      ((pairOfLogins false).run twoAssertions.env |>.run (Heap.new fun _ => ∅)).2).1 = .ok v' := by
    rw [← hv']
    refine run_congr ((pairOfLogins false).sound_run hsound) hsound ?_
    exact unused_after hsound fun _ _ => hne.symm
  obtain rfl := (hph v).mp hv
  obtain rfl := (hph' v').mp hsame
  refine ⟨_, hrun.trans hrun', ?_⟩
  rintro (_ | _)
  · exact ⟨v, rfl⟩
  · exact ⟨v', rfl⟩

/-- The two logins have two signings. -/
theorem pair_agrees : ∃ s,
    ReflTransGen (Step twoAssertions.env pairOfLogins) (start (Heap.new fun _ => ∅)) s ∧
    ∃ f : Bool → Signing, f false ≠ f true ∧
      ∀ b, f b ∈ Set.range pairOfSignings ∧ SignedFor twoAssertions.env (f b) (pairOfLogins b) := by
  obtain ⟨s, hs, haccepted⟩ := pair_accepted
  obtain ⟨f, hf, hsets⟩ := logins_agree twoAssertions.env pairOfLogins _ s hs _ _ pair_authentic
  have hin (b : Bool) : b ∈ loggedIn {credential.publicKey} pairOfLogins s := by
    refine ⟨?_, haccepted b⟩
    cases b <;> rfl
  obtain ⟨hinj, -⟩ := hsets 0
  refine ⟨s, hs, f, fun he => ?_, fun b => hf b (hin b)⟩
  exact absurd (hinj ⟨hin false, rfl⟩ ⟨hin true, rfl⟩ he) (by decide)

end

end SingleUse

/-! ### The server -/

namespace Server

variable {ι : Type} [DecidableEq ι]

section
variable (E : Env) (encode : Bytes → String) (rp : RelyingParty) (requests : ι → Request)
  (answered : ι → Reply → Prop)

/-- The logins that were answered. -/
def loggedIn : Set ι := {i | (requests i).login.isSome ∧ ∃ a, answered i a}

/-- The keys of the credentials that were registered. -/
def registeredKeys : Set PublicKey :=
  {key | ∃ b k r, Registers E encode rp requests answered b k r ∧ r.credential.publicKey = key}

/-- The responses that the logins carry. -/
def presented : Set AuthenticatorAssertionResponse :=
  {r | ∃ i l, (requests i).login = some l ∧ l.1.Decodes E r}

/-- Requests that have begun sessions were given different challenges. -/
def ChallengesDiffer : Prop :=
  ∀ b b' sessionId sessionId' challenge challenge', Begins answered b sessionId challenge →
    Begins answered b' sessionId' challenge' → challenge.bytes = challenge'.bytes → b = b'

/-- The signing was made for the login `i`, with the key of a registered credential, and for the
challenge of the session that request `b` has begun. -/
def SignedFor (b i : ι) (g : Signing) : Prop :=
  ∃ req clock challenge response b' k r, (requests i).login = some (req, clock) ∧
    Begins answered b req.sessionId challenge ∧ req.Decodes E response ∧
    Registers E encode rp requests answered b' k r ∧ response.credentialId = r.credential.id ∧
    g.MadeFor E rp r.credential challenge response

end

lemma Request.session_of_login {q : Request} (h : q.login.isSome) : q.session.isSome := by
  cases q <;> simp_all [Request.login, Request.session]

omit [DecidableEq ι] in
lemma exists_signedFor {E : Env} {encode : Bytes → String} {rp : RelyingParty}
    {requests : ι → Request} {answered : ι → Reply → Prop} {log : Set Signing} {b b' k i : ι}
    {r : RegistrationResult} {stored : Credential}
    (hauth : Signing.Authentic E log (registeredKeys E encode rp requests answered)
      (presented E requests))
    (hlog : LogsIn E rp requests answered b i stored)
    (hreg : Registers E encode rp requests answered b' k r) (hdesc : Descends answered r stored) :
    ∃ g ∈ log, SignedFor E encode rp requests answered b i g := by
  obtain ⟨req, clock, challenge, response, heap, ad, hlogin, -, hbegins, hdec, hid, had⟩ := hlog
  have hkey : stored.publicKey = r.credential.publicKey := by rw [hdesc.1]
  have hrpId : stored.rpId = r.credential.rpId := by rw [hdesc.1]
  obtain ⟨g, hg, hfor⟩ := Signing.exists_madeFor hauth
    (hkey ▸ ⟨b', k, r, hreg, rfl⟩) ⟨i, _, hlogin, hdec⟩ had
  refine ⟨g, hg, req, clock, challenge, response, b', k, r, hlogin, hbegins, hdec, hreg,
    hid.symm.trans hdesc.id_eq, hfor.key.trans hkey, hfor.authenticatorData, hfor.clientDataJson,
    hfor.binds, ?_⟩
  rw [← hrpId]
  exact hfor.flags

/-- **Injective agreement of the server's logins.** In every interleaving of requests, each login
that was answered is matched to a signing of the log, made with a key that the server has
registered and for the challenge of a session that the server has begun. Where the challenges of
sessions differ, logins are matched to different signings, so there are no more of them. -/
theorem server_logins_agree (E : Env) (encode : Bytes → String) (rp : RelyingParty)
    (requests : ι → Request) (heap : Heap) (p : Run ι)
    (h : ReflTransGen Pool.Step (serve E encode rp requests heap) p) (log : Set Signing)
    (hauth : Signing.Authentic E log (registeredKeys E encode rp requests p.Answered)
      (presented E requests)) :
    ∃ (begun : ι → ι) (f : ι → Signing),
      (∀ i ∈ loggedIn requests p.Answered, f i ∈ log ∧
        SignedFor E encode rp requests p.Answered (begun i) i (f i)) ∧
      Set.InjOn begun (loggedIn requests p.Answered) ∧
      (ChallengesDiffer p.Answered → Set.InjOn f (loggedIn requests p.Answered) ∧
        (loggedIn requests p.Answered).encard ≤ log.encard) := by
  obtain ⟨t, ht⟩ := exists_history h
  have hexists : ∀ i ∈ loggedIn requests p.Answered, ∃ g ∈ log,
      SignedFor E encode rp requests p.Answered (t.begun i) i g := by
    rintro i ⟨hlogin, a, ha⟩
    obtain ⟨l, hl⟩ := Option.isSome_iff_exists.mp hlogin
    obtain ⟨k, r, stored, hlog, hreg, hdesc⟩ := logsIn_of_answered ht hl ha
    exact exists_signedFor hauth hlog hreg hdesc
  have hbegun : Set.InjOn t.begun (loggedIn requests p.Answered) := by
    rintro i ⟨hi, a, ha⟩ j ⟨hj, a', ha'⟩ he
    exact begun_inj ht (Request.session_of_login hi) (Request.session_of_login hj) ha ha' he
  obtain ⟨f, hf⟩ := Agreement.exists_agrees hexists
  refine ⟨t.begun, f, fun i hi => ⟨hf.occurs hi, hf.matched i hi⟩, hbegun, fun hdiffer => ?_⟩
  have hinj := hf.injOn subset_rfl (fun i j g hi hj => ?_) hbegun
  · exact ⟨hinj, hf.encard_le subset_rfl hinj⟩
  · obtain ⟨req, clock, challenge, response, b', k, r, -, hbegins, -, -, -, hfor⟩ := hi
    obtain ⟨req', clock', challenge', response', b₁, k', r', -, hbegins', -, -, -, hfor'⟩ := hj
    exact hdiffer _ _ _ _ _ _ hbegins hbegins' (hfor.challenge_eq hfor')

section
open Recorded

/-- What was signed in the visit. -/
def visitSignings : Set Signing :=
  {g | ∃ key, g = ⟨key, firstResponse.authenticatorData, firstResponse.clientDataJson⟩}

lemma visit_decodes : visit.env.urlSafeNoPadDecode (urlSafe firstResponse.clientDataJson) =
      .ok firstResponse.clientDataJson ∧
    visit.env.urlSafeNoPadDecode (urlSafe firstResponse.authenticatorData) =
      .ok firstResponse.authenticatorData := by
  decide +kernel

lemma visits_presented {r : AuthenticatorAssertionResponse} (h : r ∈ presented visit.env visits) :
    r.authenticatorData = firstResponse.authenticatorData ∧
      r.clientDataJson = firstResponse.clientDataJson := by
  obtain ⟨hjson, hdata⟩ := visit_decodes
  obtain ⟨i, l, hl, -, hjson', hdata', -⟩ := h
  match i with
  | 0 | 1 | 2 => cases hl
  | 3 =>
    cases hl
    exact ⟨Except.ok.inj (hdata'.symm.trans hdata), Except.ok.inj (hjson'.symm.trans hjson)⟩

lemma visit_authentic : Signing.Authentic visit.env visitSignings
    (registeredKeys visit.env urlSafe rp visits visited.Answered)
    (presented visit.env visits) := by
  refine ⟨fun key _ r hr _ => ?_, ?_⟩
  · obtain ⟨hdata, hjson⟩ := visits_presented hr
    exact ⟨_, ⟨key, rfl⟩, rfl, by rw [hdata, hjson]⟩
  · rintro g ⟨key, rfl⟩ r hr -
    exact (visits_presented hr).2.symm

lemma visit_challengesDiffer : ChallengesDiffer visited.Answered := by
  have hissued {b : Fin 4} {id : String} {c : Challenge} (h : Begins visited.Answered b id c) :
      issued b = some c.bytes := by
    obtain ⟨reply, hreply, hbegun⟩ := h
    obtain ⟨reply', hreply', hb⟩ := Option.map_eq_some_iff.mp (visits_answered.1 b)
    obtain rfl : reply' = reply :=
      Option.some.inj (hreply'.symm.trans (Pool.answer_eq_some.mpr hreply))
    rw [← hb, hbegun, Option.map_some]
  have hdiffer : ∀ b b', (issued b).isSome → issued b = issued b' → b = b' := by decide
  intro b b' id id' c c' h h' he
  refine hdiffer b b' (by rw [hissued h]; rfl) ?_
  rw [hissued h, hissued h', he]

/-- The login of the visit has a signing. -/
theorem visits_agree : ∃ (begun : Fin 4 → Fin 4) (f : Fin 4 → Signing),
    f 3 ∈ visitSignings ∧
    SignedFor visit.env urlSafe rp visits visited.Answered (begun 3) 3 (f 3) ∧
    Set.InjOn f (loggedIn visits visited.Answered) := by
  obtain ⟨begun, f, hf, -, hinj⟩ := server_logins_agree visit.env urlSafe rp visits _ visited
    run_visited visitSignings visit_authentic
  obtain ⟨a, ha⟩ := answered_visited 3
  obtain ⟨hlog, hfor⟩ := hf 3 ⟨rfl, a, ha⟩
  exact ⟨begun, f, hlog, hfor, (hinj visit_challengesDiffer).1⟩

end

end Server

end Caden
