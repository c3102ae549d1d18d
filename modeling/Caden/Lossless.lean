import Caden.Recorded
import Caden.Wire

/-!
What the options say is what is sent.

The members that are announced are the members that follow, and different options are sent as
different JSON, whatever the order of the members is. The time at which the challenge was issued is
the one thing that is not sent.
-/

namespace Caden.Lossless

open Json

section
variable {encode : Bytes → String}

/-! ### The announced members -/

lemma wellFormed_selection (sel : AuthenticatorSelection) : sel.serialize.WellFormed := by
  refine wellFormed_entries ?_ (by simp [AuthenticatorSelection.fields]) ?_
  · rcases sel with ⟨_ | _, _ | _, _, _⟩ <;> rfl
  · simp only [AuthenticatorSelection.fields, List.forall_mem_cons]
    exact ⟨wellFormed_option fun _ => .str _, wellFormed_option fun _ => .str _,
      wellFormed_some (.bool _), wellFormed_some (.str _), List.forall_mem_nil _⟩

lemma wellFormed_prfEval (eval : PrfEvalInput) : (eval.serialize encode).WellFormed := by
  refine wellFormed_entries ?_ (by simp [PrfEvalInput.fields]) ?_
  · rcases eval with ⟨_, _ | _⟩ <;> rfl
  · simp only [PrfEvalInput.fields, List.forall_mem_cons]
    exact ⟨wellFormed_some (.str _), wellFormed_option fun _ => .str _, List.forall_mem_nil _⟩

lemma wellFormed_prf (input : PrfInput) : (input.serialize encode).WellFormed := by
  refine wellFormed_entries ?_ (by simp [PrfInput.fields]) ?_
  · rcases input with ⟨_ | _⟩ <;> rfl
  · simp only [PrfInput.fields, List.forall_mem_cons]
    exact ⟨wellFormed_option wellFormed_prfEval, List.forall_mem_nil _⟩

lemma wellFormed_blobSupport (input : LargeBlobRegistrationInput) : input.serialize.WellFormed :=
  wellFormed_entries rfl (by simp) (by simp)

lemma wellFormed_blobOperation (input : LargeBlobAuthenticationInput) :
    (input.serialize encode).WellFormed := by
  cases input with
  | read => exact wellFormed_entries rfl (by simp) (by simp)
  | write blob => exact wellFormed_entries rfl (by simp) (by simp [base64url])

lemma wellFormed_credProtect (input : CredProtectInput) : input.serialize.WellFormed :=
  wellFormed_entries rfl (by simp [CredProtectInput.fields]) (by simp [CredProtectInput.fields])

lemma wellFormed_registrationExtensions (exts : RegistrationExtensions) :
    (exts.serialize encode).WellFormed := by
  refine wellFormed_entries ?_ (by simp [RegistrationExtensions.fields]) ?_
  · rcases exts with ⟨_ | _, _ | _, _ | _, _ | _, _ | _⟩ <;> rfl
  · simp only [RegistrationExtensions.fields, List.forall_mem_cons]
    exact ⟨wellFormed_option .bool, wellFormed_option wellFormed_prf,
      wellFormed_option wellFormed_blobSupport, wellFormed_option wellFormed_credProtect,
      wellFormed_option .bool, List.forall_mem_nil _⟩

lemma wellFormed_authenticationExtensions (exts : AuthenticationExtensions) :
    (exts.serialize encode).WellFormed := by
  refine wellFormed_entries ?_ (by simp [AuthenticationExtensions.fields]) ?_
  · rcases exts with ⟨_ | _, _ | _⟩ <;> rfl
  · simp only [AuthenticationExtensions.fields, List.forall_mem_cons]
    exact ⟨wellFormed_option wellFormed_prf, wellFormed_option wellFormed_blobOperation,
      List.forall_mem_nil _⟩

lemma wellFormed_descriptor (d : PublicKeyCredentialDescriptor) :
    (d.serialize encode).WellFormed := by
  refine wellFormed_entries ?_ (by simp [PublicKeyCredentialDescriptor.fields]) ?_
  · rcases d with ⟨_, _ | _⟩ <;> rfl
  · simp only [PublicKeyCredentialDescriptor.fields, List.forall_mem_cons]
    exact ⟨wellFormed_some (.str _), wellFormed_some (.str _),
      wellFormed_option fun _ => wellFormed_map fun _ _ => .str _, List.forall_mem_nil _⟩

lemma wellFormed_param (alg : ℤ) : (pubKeyCredParamSer alg).WellFormed :=
  wellFormed_entries rfl (by simp) (by simp)

lemma wellFormed_user (user : UserEntity) : (user.serialize encode).WellFormed :=
  wellFormed_entries rfl (by simp [UserEntity.fields]) (by simp [UserEntity.fields, base64url])

lemma wellFormed_rp (rp : String × String) : (rpInfoSer rp).WellFormed :=
  wellFormed_entries rfl (by simp) (by simp)

lemma wellFormed_registrationOptions (o : RegistrationOptions) :
    (o.serialize encode).WellFormed := by
  refine wellFormed_entries ?_ (by simp [RegistrationOptions.fields]) ?_
  · rcases o with ⟨_, _, _, _, _, _, _, _, _ | _, _ | _⟩ <;> rfl
  · simp only [RegistrationOptions.fields, List.forall_mem_cons]
    exact ⟨wellFormed_some (wellFormed_rp _), wellFormed_some (wellFormed_user _),
      wellFormed_some (.str _), wellFormed_some (wellFormed_map fun _ _ => wellFormed_param _),
      wellFormed_some (.num _), wellFormed_some (wellFormed_map fun _ _ => wellFormed_descriptor _),
      wellFormed_some (.str _), wellFormed_option wellFormed_selection,
      wellFormed_option wellFormed_registrationExtensions, List.forall_mem_nil _⟩

lemma wellFormed_authenticationOptions (o : AuthenticationOptions) :
    (o.serialize encode).WellFormed := by
  refine wellFormed_entries ?_ (by simp [AuthenticationOptions.fields]) ?_
  · rcases o with ⟨_, _, _, _, _, _ | _⟩ <;> rfl
  · simp only [AuthenticationOptions.fields, List.forall_mem_cons]
    exact ⟨wellFormed_some (.str _), wellFormed_some (.num _), wellFormed_some (.str _),
      wellFormed_some (wellFormed_map fun _ _ => wellFormed_descriptor _),
      wellFormed_some (.str _), wellFormed_option wellFormed_authenticationExtensions,
      List.forall_mem_nil _⟩

end

/-! ### The byte strings of the options -/

def prfBlobs (input : PrfInput) : List Bytes :=
  match input.eval with
  | some eval => eval.first :: eval.second.toList
  | none => []

def registrationBlobs (o : RegistrationOptions) : List Bytes :=
  o.challenge.bytes :: o.user.id :: o.excludeCredentials.map (·.id) ++
    ((o.extensions.bind (·.prf)).map prfBlobs).getD []

def largeBlobs : LargeBlobAuthenticationInput → List Bytes
  | .read => []
  | .write blob => [blob]

def authenticationBlobs (o : AuthenticationOptions) : List Bytes :=
  o.challenge.bytes :: o.allowCredentials.map (·.id) ++
    ((o.extensions.bind (·.prf)).map prfBlobs).getD [] ++
    ((o.extensions.bind (·.largeBlob)).map largeBlobs).getD []

/-- Byte strings of the one list and the other have one text only if they are equal. -/
def TellsApart (encode : Bytes → String) (blobs blobs' : List Bytes) : Prop :=
  ∀ b ∈ blobs, ∀ b' ∈ blobs', encode b = encode b' → b = b'

lemma TellsApart.mono {encode : Bytes → String} {blobs blobs' part part' : List Bytes}
    (h : TellsApart encode blobs blobs') (hpart : part ⊆ blobs) (hpart' : part' ⊆ blobs') :
    TellsApart encode part part' :=
  fun b hb b' hb' => h b (hpart hb) b' (hpart' hb')

/-! ### What the members keep apart -/

section
variable {encode : Bytes → String}

lemma apart_bytes {b b' : Bytes} (h : encode b = encode b' → b = b') :
    Apart (base64url encode) b b' :=
  fun hsame => h hsame.str

lemma apart_bool (b b' : Bool) : Apart Json.bool b b' := fun hsame => hsame.bool

lemma apart_attachment (a b : AuthenticatorAttachment) : Apart (fun a => .str a.text) a b :=
  .text (by intro a b; cases a <;> cases b <;> decide) a b

lemma apart_residentKey (a b : ResidentKeyRequirement) : Apart (fun a => .str a.text) a b :=
  .text (by intro a b; cases a <;> cases b <;> decide) a b

lemma apart_userVerification (a b : UserVerificationRequirement) :
    Apart (fun a => .str a.text) a b :=
  .text (by intro a b; cases a <;> cases b <;> decide) a b

lemma apart_attestation (a b : AttestationPreference) : Apart (fun a => .str a.text) a b :=
  .text (by intro a b; cases a <;> cases b <;> decide) a b

lemma apart_support (a b : LargeBlobSupport) : Apart (fun a => .str a.text) a b :=
  .text (by intro a b; cases a <;> cases b <;> decide) a b

lemma apart_transport (a b : AuthenticatorTransport) : Apart (fun a => .str a.text) a b :=
  .text (by intro a b; cases a <;> cases b <;> decide) a b

lemma apart_policy (a b : CredProtectPolicy) : Apart (fun a => .str (credProtectPolicyStr a)) a b :=
  .text (by intro a b; cases a <;> cases b <;> decide) a b

lemma apart_selection (sel sel' : AuthenticatorSelection) :
    Apart AuthenticatorSelection.serialize sel sel' := by
  intro hsame
  have hvalues := hsame.values rfl (by simp [AuthenticatorSelection.fields])
  simp only [AuthenticatorSelection.fields, List.map_cons, List.forall₂_cons,
    Option.rel_some_some] at hvalues
  obtain ⟨hattachment, hresidentKey, hrequire, hverification, -⟩ := hvalues
  have h₁ := Apart.option (fun a _ b _ => apart_attachment a b) hattachment
  have h₂ := Apart.option (fun a _ b _ => apart_residentKey a b) hresidentKey
  have h₃ := apart_userVerification _ _ hverification
  cases sel
  cases sel'
  simp only [AuthenticatorSelection.mk.injEq]
  exact ⟨h₁, h₂, hrequire.bool, h₃⟩

lemma apart_prfEval {eval eval' : PrfEvalInput}
    (h : TellsApart encode (eval.first :: eval.second.toList)
      (eval'.first :: eval'.second.toList)) :
    Apart (PrfEvalInput.serialize encode) eval eval' := by
  intro hsame
  have hvalues := hsame.values rfl (by simp [PrfEvalInput.fields])
  simp only [PrfEvalInput.fields, List.map_cons, List.forall₂_cons,
    Option.rel_some_some] at hvalues
  obtain ⟨hfirst, hsecond, -⟩ := hvalues
  have h₁ := apart_bytes (h _ List.mem_cons_self _ List.mem_cons_self) hfirst
  have h₂ := Apart.option (fun b hb b' hb' => apart_bytes
    (h b (by simp [hb]) b' (by simp [hb']))) hsecond
  cases eval
  cases eval'
  simp only [PrfEvalInput.mk.injEq]
  exact ⟨h₁, h₂⟩

lemma apart_prf {input input' : PrfInput}
    (h : TellsApart encode (prfBlobs input) (prfBlobs input')) :
    Apart (PrfInput.serialize encode) input input' := by
  intro hsame
  have hvalues := hsame.values rfl (by simp [PrfInput.fields])
  simp only [PrfInput.fields, List.map_cons, List.forall₂_cons] at hvalues
  have heval := Apart.option (fun e he e' he' => apart_prfEval (by
    rw [prfBlobs, prfBlobs, he, he'] at h
    exact h)) hvalues.1
  cases input
  cases input'
  exact congrArg _ heval

lemma apart_blobSupport (input input' : LargeBlobRegistrationInput) :
    Apart LargeBlobRegistrationInput.serialize input input' := by
  intro hsame
  have hvalues := hsame.values rfl (by simp)
  simp only [List.map_cons, List.forall₂_cons, Option.rel_some_some] at hvalues
  have hsupport := apart_support _ _ hvalues.1
  cases input
  cases input'
  exact congrArg _ hsupport

lemma apart_blobOperation {input input' : LargeBlobAuthenticationInput}
    (h : TellsApart encode (largeBlobs input) (largeBlobs input')) :
    Apart (LargeBlobAuthenticationInput.serialize encode) input input' := by
  intro hsame
  cases input with
  | read =>
    cases input' with
    | read => rfl
    | write blob' =>
      obtain ⟨j, hj, -⟩ := hsame.mem.1 ("read", .bool true) (by simp)
      simp at hj
  | write blob =>
    cases input' with
    | read =>
      obtain ⟨j, hj, -⟩ := hsame.mem.1 ("write", base64url encode blob) (by simp)
      simp at hj
    | write blob' =>
      have hvalues := hsame.values rfl (by simp)
      simp only [List.map_cons, List.forall₂_cons, Option.rel_some_some] at hvalues
      exact congrArg _ (apart_bytes
        (h _ (List.mem_singleton_self _) _ (List.mem_singleton_self _)) hvalues.1)

lemma apart_credProtect (input input' : CredProtectInput) :
    Apart CredProtectInput.serialize input input' := by
  intro hsame
  have hvalues := hsame.values rfl (by simp [CredProtectInput.fields])
  simp only [CredProtectInput.fields, List.map_cons, List.forall₂_cons,
    Option.rel_some_some] at hvalues
  have hpolicy := apart_policy _ _ hvalues.1
  have henforce := hvalues.2.1.bool
  cases input
  cases input'
  simp only [CredProtectInput.mk.injEq]
  exact ⟨hpolicy, henforce⟩

lemma apart_registrationExtensions {exts exts' : RegistrationExtensions}
    (h : TellsApart encode ((exts.prf.map prfBlobs).getD []) ((exts'.prf.map prfBlobs).getD [])) :
    Apart (RegistrationExtensions.serialize encode) exts exts' := by
  intro hsame
  have hvalues := hsame.values rfl (by simp [RegistrationExtensions.fields])
  simp only [RegistrationExtensions.fields, List.map_cons, List.forall₂_cons] at hvalues
  obtain ⟨hprops, hprf, hblob, hprotect, hpin, -⟩ := hvalues
  have h₁ := Apart.option (fun a _ b _ => apart_bool a b) hprops
  have h₂ := Apart.option (fun p hp p' hp' => apart_prf (by
    rw [hp, hp'] at h
    exact h)) hprf
  have h₃ := Apart.option (fun a _ b _ => apart_blobSupport a b) hblob
  have h₄ := Apart.option (fun a _ b _ => apart_credProtect a b) hprotect
  have h₅ := Apart.option (fun a _ b _ => apart_bool a b) hpin
  cases exts
  cases exts'
  simp only [RegistrationExtensions.mk.injEq]
  exact ⟨h₁, h₂, h₃, h₄, h₅⟩

lemma apart_authenticationExtensions {exts exts' : AuthenticationExtensions}
    (h : TellsApart encode ((exts.prf.map prfBlobs).getD []) ((exts'.prf.map prfBlobs).getD []))
    (h' : TellsApart encode ((exts.largeBlob.map largeBlobs).getD [])
      ((exts'.largeBlob.map largeBlobs).getD [])) :
    Apart (AuthenticationExtensions.serialize encode) exts exts' := by
  intro hsame
  have hvalues := hsame.values rfl (by simp [AuthenticationExtensions.fields])
  simp only [AuthenticationExtensions.fields, List.map_cons, List.forall₂_cons] at hvalues
  obtain ⟨hprf, hblob, -⟩ := hvalues
  have h₁ := Apart.option (fun p hp p' hp' => apart_prf (by
    rw [hp, hp'] at h
    exact h)) hprf
  have h₂ := Apart.option (fun b hb b' hb' => apart_blobOperation (by
    rw [hb, hb'] at h'
    exact h')) hblob
  cases exts
  cases exts'
  simp only [AuthenticationExtensions.mk.injEq]
  exact ⟨h₁, h₂⟩

lemma apart_descriptor {d d' : PublicKeyCredentialDescriptor}
    (h : encode d.id = encode d'.id → d.id = d'.id) :
    Apart (PublicKeyCredentialDescriptor.serialize encode) d d' := by
  intro hsame
  have hvalues := hsame.values rfl (by simp [PublicKeyCredentialDescriptor.fields])
  simp only [PublicKeyCredentialDescriptor.fields, List.map_cons, List.forall₂_cons,
    Option.rel_some_some] at hvalues
  obtain ⟨-, hid, htransports, -⟩ := hvalues
  have h₁ := apart_bytes h hid
  have h₂ := Apart.option (fun ts _ ts' _ => Apart.arr fun t _ t' _ => apart_transport t t')
    htransports
  cases d
  cases d'
  simp only [PublicKeyCredentialDescriptor.mk.injEq]
  exact ⟨h₁, h₂⟩

lemma apart_param (alg alg' : ℤ) : Apart pubKeyCredParamSer alg alg' := by
  intro hsame
  have hvalues := hsame.values rfl (by simp)
  simp only [List.map_cons, List.forall₂_cons, Option.rel_some_some] at hvalues
  exact hvalues.2.1.num

lemma apart_user {user user' : UserEntity}
    (h : encode user.id = encode user'.id → user.id = user'.id) :
    Apart (UserEntity.serialize encode) user user' := by
  intro hsame
  have hvalues := hsame.values rfl (by simp [UserEntity.fields])
  simp only [UserEntity.fields, List.map_cons, List.forall₂_cons, Option.rel_some_some] at hvalues
  obtain ⟨hid, hname, hdisplayName, -⟩ := hvalues
  have h₁ := apart_bytes h hid
  have h₂ := hname.str
  have h₃ := hdisplayName.str
  cases user
  cases user'
  simp only [UserEntity.mk.injEq]
  exact ⟨h₁, h₂, h₃⟩

lemma apart_rp (rp rp' : String × String) : Apart rpInfoSer rp rp' := by
  intro hsame
  have hvalues := hsame.values rfl (by simp)
  simp only [List.map_cons, List.forall₂_cons, Option.rel_some_some] at hvalues
  exact Prod.ext hvalues.1.str hvalues.2.1.str

lemma apart_timeout {n n' : UInt32} (h : Same (.num n.toNat) (.num n'.toNat)) : n = n' :=
  UInt32.toNat_inj.mp (Int.ofNat_inj.mp h.num)

end

/-! ### Options -/

/-- The options without the time of issue. -/
def registrationSent (o : RegistrationOptions) : RegistrationOptions :=
  { o with challenge := ⟨o.challenge.bytes, ⟨0⟩⟩ }

def authenticationSent (o : AuthenticationOptions) : AuthenticationOptions :=
  { o with challenge := ⟨o.challenge.bytes, ⟨0⟩⟩ }

section
variable {encode : Bytes → String}

lemma apart_registrationOptions {o o' : RegistrationOptions}
    (h : TellsApart encode (registrationBlobs o) (registrationBlobs o'))
    (hsame : Same (o.serialize encode) (o'.serialize encode)) :
    registrationSent o = registrationSent o' := by
  have hvalues := hsame.values rfl (by simp [RegistrationOptions.fields])
  simp only [RegistrationOptions.fields, List.map_cons, List.forall₂_cons,
    Option.rel_some_some] at hvalues
  obtain ⟨hrp, huser, hchallenge, hparams, htimeout, hexclude, hattestation, hselection,
    hextensions, -⟩ := hvalues
  have h₁ := apart_rp _ _ hrp
  have h₂ := apart_user (h _ (by simp [registrationBlobs]) _ (by simp [registrationBlobs])) huser
  have h₃ := apart_bytes (h _ (by simp [registrationBlobs]) _ (by simp [registrationBlobs]))
    hchallenge
  have h₄ := Apart.arr (fun alg _ alg' _ => apart_param alg alg') hparams
  have h₅ := apart_timeout htimeout
  have h₆ := Apart.arr (fun d hd d' hd' => apart_descriptor (h _
    (List.mem_append_left _ (by simpa using Or.inr (Or.inr ⟨d, hd, rfl⟩))) _
    (List.mem_append_left _ (by simpa using Or.inr (Or.inr ⟨d', hd', rfl⟩))))) hexclude
  have h₇ := apart_attestation _ _ hattestation
  have h₈ := Apart.option (fun a _ b _ => apart_selection a b) hselection
  have h₉ := Apart.option (fun e he e' he' => apart_registrationExtensions (h.mono
    (fun b hb => List.mem_append_right _ (by rw [he]; exact hb))
    (fun b hb => List.mem_append_right _ (by rw [he']; exact hb)))) hextensions
  cases o
  cases o'
  simp only [registrationSent, RegistrationOptions.mk.injEq, Challenge.mk.injEq, and_true]
  exact ⟨h₃, congrArg Prod.fst h₁, congrArg Prod.snd h₁, h₂, h₄, h₅, h₇, h₆, h₈, h₉⟩

lemma apart_authenticationOptions {o o' : AuthenticationOptions}
    (h : TellsApart encode (authenticationBlobs o) (authenticationBlobs o'))
    (hsame : Same (o.serialize encode) (o'.serialize encode)) :
    authenticationSent o = authenticationSent o' := by
  have hvalues := hsame.values rfl (by simp [AuthenticationOptions.fields])
  simp only [AuthenticationOptions.fields, List.map_cons, List.forall₂_cons,
    Option.rel_some_some] at hvalues
  obtain ⟨hchallenge, htimeout, hrp, hallow, hverification, hextensions, -⟩ := hvalues
  have h₁ := apart_bytes (h _ (by simp [authenticationBlobs]) _ (by simp [authenticationBlobs]))
    hchallenge
  have h₂ := apart_timeout htimeout
  have h₃ := hrp.str
  have h₄ := Apart.arr (fun d hd d' hd' => apart_descriptor (h _
    (List.mem_append_left _ (List.mem_append_left _ (by simpa using Or.inr ⟨d, hd, rfl⟩))) _
    (List.mem_append_left _ (List.mem_append_left _ (by simpa using Or.inr ⟨d', hd', rfl⟩)))))
    hallow
  have h₅ := apart_userVerification _ _ hverification
  have h₆ := Apart.option (fun e he e' he' => apart_authenticationExtensions
    (h.mono
      (fun b hb => List.mem_append_left _ (List.mem_append_right _ (by rw [he]; exact hb)))
      (fun b hb => List.mem_append_left _ (List.mem_append_right _ (by rw [he']; exact hb))))
    (h.mono
      (fun b hb => List.mem_append_right _ (by rw [he]; exact hb))
      (fun b hb => List.mem_append_right _ (by rw [he']; exact hb)))) hextensions
  cases o
  cases o'
  simp only [authenticationSent, AuthenticationOptions.mk.injEq, Challenge.mk.injEq, and_true]
  exact ⟨h₁, h₂, h₃, h₄, h₅, h₆⟩

end

/-- **Nothing is lost or confused in what is sent.** The JSON of any options of either ceremony has
the announced members under different keys at every depth. Two options of a ceremony have the same
JSON, whatever the order of members is, exactly when they differ in the time of issue alone. -/
theorem options_lossless (encode : Bytes → String) :
    (∀ o : RegistrationOptions, (o.serialize encode).WellFormed) ∧
    (∀ o : AuthenticationOptions, (o.serialize encode).WellFormed) ∧
    (∀ o o' : RegistrationOptions,
      TellsApart encode (registrationBlobs o) (registrationBlobs o') →
      (Same (o.serialize encode) (o'.serialize encode) ↔
        registrationSent o = registrationSent o')) ∧
    ∀ o o' : AuthenticationOptions,
      TellsApart encode (authenticationBlobs o) (authenticationBlobs o') →
      (Same (o.serialize encode) (o'.serialize encode) ↔
        authenticationSent o = authenticationSent o') := by
  refine ⟨wellFormed_registrationOptions, wellFormed_authenticationOptions, fun o o' h => ?_,
    fun o o' h => ?_⟩
  · refine ⟨apart_registrationOptions h, fun hsent => ?_⟩
    have hserialize : ∀ o : RegistrationOptions,
      o.serialize encode = (registrationSent o).serialize encode := fun _ => rfl
    rw [hserialize o, hserialize o', hsent]
    exact .refl _
  · refine ⟨apart_authenticationOptions h, fun hsent => ?_⟩
    have hserialize : ∀ o : AuthenticationOptions,
      o.serialize encode = (authenticationSent o).serialize encode := fun _ => rfl
    rw [hserialize o, hserialize o', hsent]
    exact .refl _

section
open Recorded

/-- Options with a member of every kind, and the transports of the excluded credential. -/
def createOptions (transports : Option (List AuthenticatorTransport)) : RegistrationOptions where
  challenge := createChallenge
  rpId := rpId
  rpName := "Example"
  user := ⟨[0x75], "user", "User"⟩
  pubKeyCredParams := [COSE_ES256, COSE_EDDSA]
  timeoutMs := 300000
  attestation := .enterprise
  excludeCredentials := [⟨credentialId, transports⟩]
  authenticatorSelection := some ⟨some .crossPlatform, none, true, .required⟩
  extensions := some ⟨some true, some ⟨some ⟨[1], some [2]⟩⟩, some ⟨.preferred⟩,
    some ⟨.userVerificationOptionalWithCredentialIdList, true⟩, none⟩

def getOptions (operation : LargeBlobAuthenticationInput) : AuthenticationOptions where
  challenge := firstChallenge
  timeoutMs := 60000
  rpId := rpId
  allowCredentials := [⟨credentialId, none⟩]
  userVerification := .discouraged
  extensions := some ⟨some ⟨none⟩, some operation⟩

lemma recorded_texts_apart :
    TellsApart urlSafe (registrationBlobs (createOptions none))
      (registrationBlobs (createOptions (some []))) ∧
    TellsApart urlSafe (authenticationBlobs (getOptions .read))
      (authenticationBlobs (getOptions (.write []))) := by
  unfold TellsApart
  decide

/-- No transports and an empty list of them are sent as different JSON, and so are a read and the
write of nothing. -/
theorem recorded_options_apart :
    ¬ Same ((createOptions none).serialize urlSafe) ((createOptions (some [])).serialize urlSafe) ∧
    ¬ Same ((getOptions .read).serialize urlSafe) ((getOptions (.write [])).serialize urlSafe) := by
  obtain ⟨hcreate, hget⟩ := recorded_texts_apart
  obtain ⟨-, -, hregistration, hauthentication⟩ := options_lossless urlSafe
  refine ⟨fun hsame => ?_, fun hsame => ?_⟩
  · have hsent := (hregistration _ _ hcreate).mp hsame
    revert hsent
    decide
  · have hsent := (hauthentication _ _ hget).mp hsame
    revert hsent
    decide

end

end Caden.Lossless
