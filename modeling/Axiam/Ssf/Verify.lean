import Axiam.Ssf.Keys
import Mathlib.Algebra.Group.Nat.Defs

/-!
# Verifying a Security Event Token

`SsfReceiver::State::verify` (`src/ssf.cpp`): nine steps in a fixed order, the first
failing one refuses.  Only step 4 (the key) and step 9 (the replay store) touch the
receiver; what they throw is no verdict.
-/

namespace Axiam.Ssf

open Axiam.Lib

structure SecurityEvent where
  jti : Str
  iat : Int
  iss : Str
  audJson : Str
  txn : Option Str
  eventType : Str
  eventJson : Str
  subIdJson : Str
  deriving DecidableEq

def reasonCode : SetFailureReason → Str
  | .malformed => "malformed"
  | .invalidType => "invalid_type"
  | .invalidKey => "invalid_key"
  | .invalidIssuer => "invalid_issuer"
  | .invalidAudience => "invalid_audience"
  | .invalidRequest => "invalid_request"
  | .replayed => "replayed"

/-- What `refuse` throws. -/
def refusal (reason : SetFailureReason) (why : Str) : Exc :=
  .axiam (.setVerification
    (str "SET refused (" ++ reasonCode reason ++ "): " ++ why ++ " (CONTRACT.md §32.7)") reason)

/-- The NetworkError cause of a replay store that could not answer. -/
def kReplayStoreUnavailable : Str := "replay_store_unavailable"

/-- The parts of a SET, decoded. -/
structure SetParts where
  header : Json
  claims : Json
  signature : Str
  signingInput : Str

section

variable (env : Env)

/-- `json_object_of`: a base64url segment that decodes to a JSON object. -/
def jsonObjectOf (part : Str) : Option Json :=
  ((base64urlDecode part).bind env.parse).filter Json.isObject

/-- Step 1: three parts, the first two JSON objects. -/
def openSet (set : Str) : Except Exc SetParts :=
  match threeParts set with
  | none => .error (refusal .malformed "not three base64url parts")
  | some (a, b, c) =>
      match jsonObjectOf env a, jsonObjectOf env b, base64urlDecode c with
      | some header, some claims, some signature =>
          .ok ⟨header, claims, signature, a ++ str "." ++ b⟩
      | _, _, _ => .error (refusal .malformed "a part is not base64url-encoded JSON")

def typIsSecevent (header : Json) : Bool :=
  match header.stringMember? "typ" with
  | none => false
  | some typ => lower typ == str "secevent+jwt" || lower typ == str "application/secevent+jwt"

/-- Steps 1 to 3 and the `kid` of step 4: what comes before any key is consulted. -/
def headerKid (set : Str) : Except Exc (SetParts × Str) := do
  let parts ← openSet env set
  unless typIsSecevent parts.header do throw (refusal .invalidType "typ is not secevent+jwt")
  if stringMember parts.header "alg" ≠ str "EdDSA" then
    throw (refusal .invalidKey "alg is not EdDSA")
  if stringMember parts.header "kid" = [] then
    throw (refusal .invalidKey "the header names no kid")
  return (parts, stringMember parts.header "kid")

/-- Step 7: `aud` is the audience, or an array that contains it. -/
def audOk (claims : Json) : Bool :=
  match claims.find? "aud" with
  | some (.string s) => s == env.config.audience
  | some (.array items) => items.any fun a => a.string? == some env.config.audience
  | _ => false

/-- Step 8: the members a SET must have. -/
def setMembers (claims : Json) : Option (Str × Int × Json × Str × Json) := do
  let jti ← claims.stringMember? "jti"
  if jti = [] then none
  let .integer iat ← claims.find? "iat" | none
  let subId ← (claims.find? "sub_id").filter Json.isObject
  let .object [(eventType, event)] ← claims.find? "events" | none
  some (jti, iat, subId, eventType, event)

/-- Steps 5 to 8, over the key step 4 found. -/
def checkClaims (parts : SetParts) (key : Str) (expectedJti : Option Str) :
    Except Exc SecurityEvent := do
  unless env.ed25519Verify key parts.signingInput parts.signature do
    throw (refusal .invalidKey "the signature does not verify")
  let iss := stringMember parts.claims "iss"
  if iss ≠ env.config.issuer then throw (refusal .invalidIssuer "iss is not the configured issuer")
  unless audOk env parts.claims do
    throw (refusal .invalidAudience "aud does not name this receiver")
  if parts.claims.contains "exp" || parts.claims.contains "sub" then
    throw (refusal .invalidRequest "a SET carries no exp and no sub")
  let some (jti, iat, subId, eventType, event) := setMembers parts.claims
    | throw (refusal .invalidRequest
        "a SET needs a jti, a numeric iat, an object sub_id and exactly one event")
  if expectedJti.any (· != jti) then
    throw (refusal .invalidRequest "the poll key is not the SET's jti")
  return {
    jti := jti
    iat := Json.wrapInt64 iat
    iss := iss
    audJson := env.dump ((parts.claims.find? "aud").getD .null)
    txn := parts.claims.stringMember? "txn"
    eventType := eventType
    eventJson := env.dump event
    subIdJson := env.dump subId }

/-- Step 9: the store records the `jti`, says it is known, or cannot answer. -/
def checkAndRecord (jti : Str) : Prog Receiver Exc Bool := fun r =>
  (match env.store r.asked jti with
    | .ok fresh => .ok fresh
    | .error e =>
        .error (.network (str "ssf: the replay store could not answer: " ++ e.what)
          kReplayStoreUnavailable),
    { r with asked := r.asked ++ [jti] })

/-- Step 4 and what follows it. -/
def judge (parts : SetParts) (kid : Str) (expectedJti : Option Str) (askStore : Bool) :
    Prog Receiver Exc SecurityEvent := do
  let key ← keyFor env kid
  match key with
  | none => throw (refusal .invalidKey "no key for the kid in the JWKS")
  | some key => do
      let event ← Prog.lift (checkClaims env parts key expectedJti)
      if askStore then do
        let firstSight ← checkAndRecord env event.jti
        if firstSight then pure event
        else throw (refusal .replayed "this jti was already accepted")
      else throw (.network
        "ssf: the replay store could not answer earlier in this poll batch and is not asked again (CONTRACT.md §34.2 P1)"
        kReplayStoreUnavailable)

/-- `verify`. -/
def verify (set : Str) (expectedJti : Option Str) (askStore : Bool) :
    Prog Receiver Exc SecurityEvent :=
  match headerKid env set with
  | .error e => throw e
  | .ok (parts, kid) => judge env parts kid expectedJti askStore

/-- `verify_set`. -/
def verifySet (set : Str) : Prog Receiver Exc SecurityEvent := verify env set none true

end

/-! ## What a verification does to the receiver -/

section

variable {env : Env} {r r' : Receiver} {expectedJti : Option Str} {askStore : Bool}

/-- The state but for what the replay store was asked. -/
def Receiver.unasked (r : Receiver) : Receiver := { r with asked := [] }

/-- After step 4 only the record of the store changes. -/
theorem judge_cases {parts : SetParts} {kid : Str} {out : Except Exc SecurityEvent}
    (h : judge env parts kid expectedJti askStore r = (out, r')) :
    ∃ found m, keyFor env kid r = (found, m) ∧ r'.unasked = m.unasked ∧
      (∀ e, found = .error e → out = .error e) ∧
      (found = .ok none →
        out = .error (refusal .invalidKey "no key for the kid in the JWKS")) := by
  unfold judge at h
  rcases hkey : keyFor env kid r with ⟨found, m⟩
  rw [Prog.bind_run, hkey] at h
  refine ⟨found, m, rfl, ?_⟩
  rcases found with e | _ | key
  · cases h
    exact ⟨rfl, by simp, by simp⟩
  · cases h
    exact ⟨rfl, by simp, by simp⟩
  · refine ⟨?_, by simp, by simp⟩
    simp only [Prog.bind_run, Prog.lift_run] at h
    rcases hclaims : checkClaims env parts key expectedJti with e | event <;> rw [hclaims] at h
    · cases h
      rfl
    · cases askStore with
      | false =>
          cases h
          rfl
      | true =>
          simp only [if_true, Prog.bind_run, checkAndRecord] at h
          rcases hstore : env.store m.asked event.jti with e | firstSight <;> rw [hstore] at h
          · cases h
            rfl
          · cases firstSight <;> (cases h; rfl)

/-- With a key, what steps 5 to 8 refuse is refused, and only what they let through is accepted. -/
theorem judge_keyed {parts : SetParts} {kid key : Str} {m : Receiver}
    (hkey : keyFor env kid r = (.ok (some key), m)) :
    (∀ e, checkClaims env parts key expectedJti = .error e →
      (judge env parts kid expectedJti askStore r).1 = .error e) ∧
    ∀ event, (judge env parts kid expectedJti askStore r).1 = .ok event →
      checkClaims env parts key expectedJti = .ok event := by
  have hjudge : judge env parts kid expectedJti askStore r = (do
      let event ← Prog.lift (checkClaims env parts key expectedJti)
      if askStore then do
        let firstSight ← checkAndRecord env event.jti
        if firstSight then pure event
        else throw (refusal .replayed "this jti was already accepted")
      else throw (.network
        "ssf: the replay store could not answer earlier in this poll batch and is not asked again (CONTRACT.md §34.2 P1)"
        kReplayStoreUnavailable) : Prog Receiver Exc SecurityEvent) m := by
    unfold judge
    rw [Prog.bind_run, hkey]
  rw [hjudge, Prog.bind_run, Prog.lift_run]
  cases hclaims : checkClaims env parts key expectedJti with
  | error e => exact ⟨fun e' he => by rw [← he], fun event hevent => nomatch hevent⟩
  | ok event =>
      refine ⟨fun e he => (nomatch he), fun event' hevent => ?_⟩
      dsimp only at hevent
      cases askStore with
      | false => cases hevent
      | true =>
          rw [if_pos rfl, Prog.bind_run] at hevent
          unfold checkAndRecord at hevent
          rcases hstore : env.store m.asked event.jti with e | firstSight <;>
            rw [hstore] at hevent
          · cases hevent
          · cases firstSight <;> cases hevent
            rfl

/-- A verification is a call of `key_for`, or leaves the receiver as it was. -/
theorem verify_cases {set : Str} {out : Except Exc SecurityEvent}
    (h : verify env set expectedJti askStore r = (out, r')) :
    (∃ e, headerKid env set = .error e ∧ out = .error e ∧ r' = r) ∨
    (∃ parts kid, headerKid env set = .ok (parts, kid) ∧
      judge env parts kid expectedJti askStore r = (out, r')) := by
  unfold verify at h
  rcases hheader : headerKid env set with e | ⟨parts, kid⟩ <;> rw [hheader] at h
  · cases h
    exact .inl ⟨e, rfl, rfl, rfl⟩
  · exact .inr ⟨parts, kid, rfl, h⟩

end

end Axiam.Ssf
