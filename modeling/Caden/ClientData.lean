import Caden.Credential
import Caden.Lib.Text

/-!
Parsing and validation of `clientDataJSON`, the object that binds a ceremony to a type, a
challenge and an origin.
-/

namespace Caden.ClientData

variable (E : Env)

/-- Decoded client data; `rawJson` keeps the exact bytes that were received. -/
structure ParsedClientData where
  type_ : String
  challengeBytes : Bytes
  origin : String
  crossOrigin : Bool
  rawJson : Bytes

def parseClientData (raw : Bytes) : Res ParsedClientData := do
  .rejectIf (raw = []) (.invalidClientData "empty client data")
  let rcd ← .ofExcept (E.jsonClientData raw) fun e => .invalidClientData s!"JSON parse failed: {e}"
  let challengeBytes ← .ofExcept (E.urlSafeNoPadDecode rcd.challenge) fun e =>
    .base64DecodeError s!"challenge field: {e}"
  return {
    type_ := rcd.type_
    challengeBytes
    origin := rcd.origin
    crossOrigin := rcd.crossOrigin.getD false
    rawJson := raw }

/-- The checks in the order of the source: type, challenge, origin, cross-origin. -/
def validateClientData (parsed : ParsedClientData) (expectedType : String)
    (expectedChallenge : Bytes) (allowedOrigins : List String) (rejectCrossOrigin : Bool) :
    Res Unit := do
  .rejectIf (parsed.type_ = "") (.invalidClientData "type field is empty")
  .rejectIf (parsed.type_ ≠ expectedType)
    (.invalidClientData s!"expected type \"{expectedType}\", got \"{parsed.type_}\"")
  .rejectIf (parsed.challengeBytes ≠ expectedChallenge) .challengeMismatch
  .rejectIf (¬ allowedOrigins.any (· == parsed.origin))
    (.originMismatch (", ".intercalate allowedOrigins) parsed.origin)
  .rejectIf (rejectCrossOrigin && parsed.crossOrigin) .crossOriginNotAllowed

/-! ### What is accepted -/

/-- The bytes `raw` are client data of the ceremony `type_` for the issued challenge, from an
allowed origin, and not cross-origin where that is rejected. -/
structure Binds (type_ : String) (challenge : Bytes) (allowedOrigins : List String)
    (rejectCrossOrigin : Bool) (raw : Bytes) : Prop where
  nonempty : raw ≠ []
  fields : ∃ rcd, E.jsonClientData raw = .ok rcd ∧ rcd.type_ = type_ ∧
    E.urlSafeNoPadDecode rcd.challenge = .ok challenge ∧ rcd.origin ∈ allowedOrigins ∧
    ¬ (rejectCrossOrigin = true ∧ rcd.crossOrigin = some true)

variable {E}

lemma parseClientData_eq_ok {raw : Bytes} {p : ParsedClientData} :
    parseClientData E raw = .ok p ↔ raw ≠ [] ∧ ∃ rcd, E.jsonClientData raw = .ok rcd ∧
      ∃ ch, E.urlSafeNoPadDecode rcd.challenge = .ok ch ∧
        ⟨rcd.type_, ch, rcd.origin, rcd.crossOrigin.getD false, raw⟩ = p := by
  simp [parseClientData]

lemma parseClientData_rawJson {raw : Bytes} {p : ParsedClientData}
    (h : parseClientData E raw = .ok p) : p.rawJson = raw := by
  obtain ⟨-, rcd, -, ch, -, rfl⟩ := parseClientData_eq_ok.mp h
  rfl

lemma validateClientData_eq_ok {p : ParsedClientData} {ty : String} {ch : Bytes}
    {os : List String} {rc : Bool} {u : Unit} (hty : ty ≠ "") :
    validateClientData p ty ch os rc = .ok u ↔ p.type_ = ty ∧ p.challengeBytes = ch ∧
      p.origin ∈ os ∧ ¬ (rc = true ∧ p.crossOrigin = true) := by
  unfold validateClientData
  simp only [Outcome.bind_eq_ok, Outcome.rejectIf_eq_ok, exists_const]
  refine ⟨?_, ?_⟩
  · rintro ⟨-, h1, h2, h3, h4⟩
    exact ⟨by simpa using h1, by simpa using h2, by simpa using h3, by simpa using h4⟩
  · rintro ⟨rfl, rfl, h3, h4⟩
    exact ⟨hty, by simp, by simp, by simpa using h3, by simpa using h4⟩

/-- **Parsing and validating accept exactly the client data that binds the ceremony.** -/
lemma parse_validate_iff {raw ch : Bytes} {ty : String} {os : List String} {rc : Bool}
    (hty : ty ≠ "") :
    (∃ p, parseClientData E raw = .ok p ∧ validateClientData p ty ch os rc = .ok ()) ↔
      Binds E ty ch os rc raw := by
  refine ⟨?_, ?_⟩
  · rintro ⟨p, hp, hv⟩
    obtain ⟨hne, rcd, hj, c, hc, rfl⟩ := parseClientData_eq_ok.mp hp
    obtain ⟨h1, h2, h3, h4⟩ := (validateClientData_eq_ok hty).mp hv
    refine ⟨hne, rcd, hj, h1, h2 ▸ hc, h3, ?_⟩
    rintro ⟨hr, hx⟩
    exact h4 ⟨hr, by simp [hx]⟩
  · rintro ⟨hne, rcd, hj, h1, hc, h3, h4⟩
    refine ⟨_, parseClientData_eq_ok.mpr ⟨hne, rcd, hj, ch, hc, rfl⟩, ?_⟩
    refine (validateClientData_eq_ok hty).mpr ⟨h1, rfl, h3, ?_⟩
    rintro ⟨hr, hx⟩
    rcases hco : rcd.crossOrigin with _ | _ | _ <;> simp_all

lemma safe_parseClientData (raw : Bytes) : (parseClientData E raw).Safe := by
  refine Outcome.Safe.bind (by simp) fun _ _ => ?_
  refine Outcome.Safe.bind (by simp) fun _ _ => ?_
  exact Outcome.Safe.bind (by simp) fun _ _ => by simp

lemma safe_validateClientData (p : ParsedClientData) (ty : String) (ch : Bytes)
    (os : List String) (rc : Bool) : (validateClientData p ty ch os rc).Safe := by
  iterate 4 refine Outcome.Safe.bind (by simp) fun _ _ => ?_
  simp

end Caden.ClientData
