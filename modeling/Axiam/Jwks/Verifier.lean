import Axiam.Core.Base64
import Axiam.Core.Http
import Axiam.Lib.Prog

/-!
# The JWKS verifier

`JwksVerifier` (`src/jwks.cpp`): a cache of Ed25519 keys behind one URL, and the signature
check of a compact JWS against it.  The header of the token and the members of the key
document are read with `value`, which throws on a member of another type; the cache is
cleared before the document is walked.
-/

namespace Axiam.Jwks

open Axiam.Lib

structure Ed25519Jwk where
  kid : Str
  xB64url : Str
  deriving DecidableEq

/-- `kid` to key. -/
abbrev KeySet : Type := Str → Option Ed25519Jwk

/-- What a verifier runs in. -/
structure Env where
  baseUrl : Str
  cacheTtl : Int
  parse : Parser
  ed25519Verify : Str → Str → Str → Bool
  transport : List HttpRequest → HttpRequest → Answer
  clock : Nat → Int

/-- `kOidcJwksRefetchCooldownSeconds`. -/
def kOidcJwksRefetchCooldownSeconds : Int := 60

structure Verifier where
  keys : KeySet := fun _ => none
  fetchedAt : Int := 0
  /-- When the cooldown of an unknown `kid` is over. -/
  refetchCooldownUntil : Int := 0
  haveKeys : Bool := false
  /-- What the transport was handed, oldest first. -/
  sent : List HttpRequest := []
  /-- What it answered, oldest first. -/
  received : List HttpResponse := []
  /-- How often the clock was read. -/
  ticks : Nat := 0

/-- The payload of a verified token, or why it is none. -/
abbrev JwtVerification : Type := Except OidcValidationReason Str

/-! ## The key document -/

/-- The `keys` of a document: nothing when the text is no JSON or has no such array. -/
def itemsOf (parse : Parser) (body : Str) : Option (List Json) :=
  match (parse body).bind fun doc => doc.find? "keys" with
  | some (.array items) => some items
  | _ => none

/-- One member of `keys`: nothing when it is no object, no Ed25519 key, or has no `x`. -/
def readJwk (k : Json) : Except JsonError (Option Ed25519Jwk) := do
  if k.isObject = false then return none
  let kty ← k.valueString "kty" ""
  let crv ← k.valueString "crv" ""
  if kty ≠ str "OKP" ∨ crv ≠ str "Ed25519" then return none
  let kid ← k.valueString "kid" ""
  let x ← k.valueString "x" ""
  if x = [] then return none
  return some ⟨kid, x⟩

/-- A key goes into the set under its `kid`. -/
def KeySet.insert (keys : KeySet) : Option Ed25519Jwk → KeySet
  | none => keys
  | some jwk => Function.update keys jwk.kid (some jwk)

/-- The walk over the members: it stops where one cannot be read. -/
def addAll : List Json → Prog Verifier Exc Unit
  | [] => pure ()
  | k :: rest => do
      let jwk ← Prog.lift (liftJson (readJwk k))
      Prog.modify fun s => { s with keys := s.keys.insert jwk }
      addAll rest

section

variable (env : Env)

/-- `load_from_json`. -/
def loadFromJson (body : Str) : Prog Verifier Exc Unit := do
  Prog.modify fun s => { s with keys := fun _ => none }
  match itemsOf env.parse body with
  | none => pure ()
  | some items => addAll items

def now : Prog Verifier Exc Int := fun s =>
  (.ok (env.clock s.ticks), { s with ticks := s.ticks + 1 })

def transport (req : HttpRequest) : Prog Verifier Exc HttpResponse := fun s =>
  match env.transport s.sent req with
  | .ok resp =>
      (.ok resp, { s with sent := s.sent ++ [req], received := s.received ++ [resp] })
  | .error e => (.error e, { s with sent := s.sent ++ [req] })

def jwksRequest : HttpRequest where
  method := "GET"
  url := env.baseUrl ++ str "/oauth2/jwks"
  headers := [("Accept", "application/json")]
  sessionless := true

/-- The cached keys are not due. -/
def Verifier.warm (s : Verifier) (time : Int) : Bool :=
  s.haveKeys && time - s.fetchedAt < env.cacheTtl

/-- The response carries a key document. -/
def delivered (resp : HttpResponse) : Bool := resp.transportError == [] && resp.status == 200

/-- `ensure_keys_locked`. -/
def ensureKeysLocked : Prog Verifier Exc Unit := do
  let time ← now env
  let s ← Prog.read
  if s.warm env time then pure ()
  else do
    let resp ← transport env (jwksRequest env)
    if delivered resp = false then pure ()  -- keep any previously cached keys
    else do
      loadFromJson env resp.body
      Prog.modify fun s => { s with fetchedAt := time, haveKeys := true }

/-- `refresh_keys`. -/
def refreshKeys : Prog Verifier Exc Unit := do
  Prog.modify fun s => { s with haveKeys := false }
  ensureKeysLocked env

/-! ## The token -/

/-- `split_jwt`: three parts, none of them empty. -/
def splitJwt (jwt : Str) : Option (Str × Str × Str) :=
  (threeParts jwt).filter fun p => p.1 ≠ [] ∧ p.2.1 ≠ [] ∧ p.2.2 ≠ []

/-- The header of a token, when the token splits and its first part decodes to JSON. -/
def headerOf (jwt : Str) : Option Json := do
  let (header, _, _) ← splitJwt jwt
  let text ← base64urlDecode header
  env.parse text

/-- `alg` and, only for an `EdDSA` header, `kid`. -/
def readHeader (header : Json) : Except JsonError (Option Str) := do
  let alg ← header.valueString "alg" ""
  if alg ≠ str "EdDSA" then return none
  let kid ← header.valueString "kid" ""
  return some kid

/-- The key for a `kid`: one refetch opens the cooldown, and none is made inside it. -/
def findKey (kid : Str) : Prog Verifier Exc (Option Ed25519Jwk) := do
  ensureKeysLocked env
  let s ← Prog.read
  match s.keys kid with
  | some jwk => pure (some jwk)
  | none => do
      let time ← now env
      if time < s.refetchCooldownUntil then pure none
      else do
        Prog.modify fun s =>
          { s with
            refetchCooldownUntil := time + kOidcJwksRefetchCooldownSeconds
            haveKeys := false }
        ensureKeysLocked env
        let s ← Prog.read
        pure (s.keys kid)

/-- The signature over the first two parts, and then the payload. -/
def checkSignature (jwt : Str) (jwk : Ed25519Jwk) : JwtVerification :=
  match splitJwt jwt with
  | none => .error .invalidAlg
  | some (header, payload, sig) =>
      match base64urlDecode jwk.xB64url, base64urlDecode sig with
      | some rawPub, some sig =>
          if rawPub.length = 32 ∧ sig.length = 64 ∧
              env.ed25519Verify rawPub (header ++ str "." ++ payload) sig = true then
            match base64urlDecode payload with
            | some payload => .ok payload
            | none => .error .invalidSignature
          else .error .invalidSignature
      | _, _ => .error .invalidSignature

/-- `verify_with_reason`. -/
def verifyWithReason (jwt : Str) : Prog Verifier Exc JwtVerification :=
  match headerOf env jwt with
  | none => pure (.error .invalidAlg)
  | some header => do
      let kid ← Prog.lift (liftJson (readHeader header))
      match kid with
      | none => pure (.error .invalidAlg)
      | some kid => do
          let jwk ← findKey env kid
          match jwk with
          | none => pure (.error .unknownKid)
          | some jwk => pure (checkSignature env jwt jwk)

/-- `verify_signature_only_unchecked`. -/
def verifySignatureOnlyUnchecked (jwt : Str) : Prog Verifier Exc (Option Str) := do
  let v ← verifyWithReason env jwt
  match v with
  | .ok payload => pure (some payload)
  | .error _ => pure none

end

/-! ## Reading without a throw -/

/-- The text of a member that is a string, and the empty text otherwise. -/
def memberText (j : Json) (key : Str) : Str := (j.stringMember? key).getD []

theorem valueString_of_readable {j : Json} {key : Str} (hobject : j.isObject = true)
    (hread : j.StringOrAbsent key) : j.valueString key "" = .ok (memberText j key) := by
  obtain ⟨s, hs⟩ := (Json.valueString_ok_iff j key "").mpr ⟨hobject, hread⟩
  rw [hs]
  unfold memberText
  rcases Json.valueString_eq_ok hs with hmember | ⟨hnone, rfl⟩
  · rw [hmember]
    rfl
  · unfold Json.stringMember?
    rw [hnone]
    rfl

theorem valueString_of_unreadable {j : Json} (key : Str)
    (h : ¬(j.isObject = true ∧ j.StringOrAbsent key)) :
    ∃ e, j.valueString key "" = .error e := by
  rcases hs : j.valueString key "" with e | s
  · exact ⟨e, rfl⟩
  · exact absurd ((Json.valueString_ok_iff j key "").mp ⟨s, hs⟩) h

/-- The member says it is an Ed25519 key. -/
def IsEd25519 (k : Json) : Prop := memberText k "kty" = str "OKP" ∧ memberText k "crv" = str "Ed25519"

/-- A member of `keys` the walk can read. -/
def ReadableKey (k : Json) : Prop :=
  k.isObject = true →
    k.StringOrAbsent "kty" ∧ k.StringOrAbsent "crv" ∧
      (IsEd25519 k → k.StringOrAbsent "kid" ∧ k.StringOrAbsent "x")

/-- The key a member holds, if it is usable: an Ed25519 key with an `x`. -/
def usableKey? (k : Json) : Option Ed25519Jwk :=
  if memberText k "kty" = str "OKP" ∧ memberText k "crv" = str "Ed25519" ∧ memberText k "x" ≠ []
  then some ⟨memberText k "kid", memberText k "x"⟩
  else none

/-- The usable keys of a document, a later one of a `kid` before an earlier one. -/
def usableKeys (items : List Json) : KeySet :=
  items.foldl (fun keys k => keys.insert (usableKey? k)) fun _ => none

theorem memberText_of_not_object {k : Json} (h : k.isObject = false) (key : Str) :
    memberText k key = [] := by
  cases k <;> first | rfl | simp [Json.isObject] at h

/-- A readable member gives its usable key. -/
theorem readJwk_of_readable {k : Json} (h : ReadableKey k) : readJwk k = .ok (usableKey? k) := by
  unfold readJwk usableKey?
  by_cases hobject : k.isObject = false
  · rw [if_pos hobject, memberText_of_not_object hobject, if_neg]
    · rfl
    · rintro ⟨hkty, _⟩
      exact absurd hkty (by decide)
  rw [if_neg hobject]
  have hobject : k.isObject = true := by simpa using hobject
  obtain ⟨hkty, hcrv, hrest⟩ := h hobject
  rw [valueString_of_readable hobject hkty, valueString_of_readable hobject hcrv]
  by_cases hcurve : IsEd25519 k
  · obtain ⟨hkid, hx⟩ := hrest hcurve
    rw [valueString_of_readable hobject hkid, valueString_of_readable hobject hx]
    obtain ⟨h1, h2⟩ := hcurve
    by_cases hempty : memberText k "x" = [] <;>
      simp [h1, h2, hempty, bind, Except.bind, pure, Except.pure]
  · unfold IsEd25519 at hcurve
    have hother : memberText k "kty" ≠ str "OKP" ∨ memberText k "crv" ≠ str "Ed25519" := by
      tauto
    have hunusable : ¬(memberText k "kty" = str "OKP" ∧ memberText k "crv" = str "Ed25519" ∧
        memberText k "x" ≠ []) := by
      tauto
    simp only [bind, Except.bind, pure, Except.pure]
    rw [if_pos hother, if_neg hunusable]

/-- An unreadable member throws. -/
theorem readJwk_of_unreadable {k : Json} (h : ¬ReadableKey k) : ∃ e, readJwk k = .error e := by
  unfold ReadableKey at h
  rw [Classical.not_imp] at h
  obtain ⟨hobject, hbad⟩ := h
  unfold readJwk
  rw [if_neg (by simp [hobject])]
  by_cases hkty : k.StringOrAbsent "kty"
  · rw [valueString_of_readable hobject hkty]
    by_cases hcrv : k.StringOrAbsent "crv"
    · rw [valueString_of_readable hobject hcrv]
      have hrest : IsEd25519 k ∧ ¬(k.StringOrAbsent "kid" ∧ k.StringOrAbsent "x") := by tauto
      obtain ⟨⟨h1, h2⟩, hnot⟩ := hrest
      by_cases hkid : k.StringOrAbsent "kid"
      · obtain ⟨e, he⟩ := valueString_of_unreadable "x" (by tauto)
        rw [valueString_of_readable hobject hkid, he]
        exact ⟨e, by simp [h1, h2, bind, Except.bind]⟩
      · obtain ⟨e, he⟩ := valueString_of_unreadable "kid" (by tauto)
        rw [he]
        exact ⟨e, by simp [h1, h2, bind, Except.bind]⟩
    · obtain ⟨e, he⟩ := valueString_of_unreadable "crv" (by tauto)
      rw [he]
      exact ⟨e, rfl⟩
  · obtain ⟨e, he⟩ := valueString_of_unreadable "kty" (by tauto)
    rw [he]
    exact ⟨e, rfl⟩

end Axiam.Jwks
