import Axiam.Core.Json

/-!
# Verifying a reactor delivery

`reactor_verify_event` (`src/reactor.cpp`) decides whether a delivery may reach the
handler: key version, MAC, freshness in both directions, nonce, and last the tenant and
the registry.  The nonces seen are a map from a nonce to the second it is forgotten,
shared by all deliveries of one `reactor_serve`.

The JSON parser, `dump`, HMAC-SHA256 and `strptime` are the library functions the code
calls; they are parameters.
-/

namespace Axiam.Reactor

/-- The library functions the verification calls. -/
structure Library where
  parse : Parser
  dump : Json → Str
  /-- HMAC-SHA256 of the bytes under the key, in lower-case hex. -/
  hmacSha256Hex : Str → Str → Str
  /-- `strptime(.., "%Y-%m-%dT%H:%M:%SZ", ..)` followed by `timegm`. -/
  strptimeUtc : Str → Option Int

def kKeyVersion : Int := 2

def kFreshnessSkewSecs : Int := 300

/-- The events of the registry. -/
def registry : List Str :=
  ["token.pre_issue", "login.post_auth", "user.pre_create", "user.pre_update",
    "grant.pre_assign"]

inductive ReactorRefusal where
  | malformed | keyVersionTooOld | badSignature | stale | replay | tenantMismatch
  | unknownEvent
  deriving DecidableEq

structure ReactorEvent where
  tenantId : Str
  event : Str
  correlationId : Str
  payloadJson : Str
  timeoutMs : Int
  nonce : Str
  deriving DecidableEq

/-- `ok` with the event, or the category of the refusal. -/
abbrev ReactorVerification : Type := Except ReactorRefusal ReactorEvent

/-- Nonce to the second at which it is forgotten. -/
abbrev SeenNonces : Type := Str → Option Int

/-! ## The signed bytes -/

/-- A byte as two lower-case hex digits. -/
def hexByte (c : UInt8) : Str :=
  let digit (d : UInt8) : UInt8 := if d < 10 then 48 + d else 87 + d
  [digit (c / 16), digit (c % 16)]

def jsonEscape (value : Str) : Str :=
  value.flatMap fun c =>
    if c = 34 then "\\\""
    else if c = 92 then "\\\\"
    else if c = 8 then "\\b"
    else if c = 12 then "\\f"
    else if c = 10 then "\\n"
    else if c = 13 then "\\r"
    else if c = 9 then "\\t"
    else if c < 0x20 then str "\\u00" ++ hexByte c
    else [c]

def quoted (value : Str) : Str := str "\"" ++ jsonEscape value ++ str "\""

def stringOf (message : Json) (key : Str) : Str := (message.stringMember? key).getD []

/-- `get<std::int64_t>()` of a member that is an integer. -/
def integerOf (message : Json) (key : Str) : Int :=
  match message.find? key with
  | some (.integer i) => Json.wrapInt64 i
  | _ => 0

/-- The message in its declared field order, `hmac_signature` present and null. -/
def canonicalEvent (lib : Library) (message : Json) : Str :=
  str "\x7b" ++ str "\"tenant_id\":" ++ quoted (stringOf message "tenant_id") ++
    str ",\"event\":" ++ quoted (stringOf message "event") ++
    str ",\"correlation_id\":" ++ quoted (stringOf message "correlation_id") ++
    str ",\"payload\":" ++ lib.dump ((message.find? "payload").getD .null) ++
    str ",\"timeout_ms\":" ++ toStr (integerOf message "timeout_ms") ++
    str ",\"key_version\":" ++ toStr (integerOf message "key_version") ++
    str ",\"nonce\":" ++ quoted (stringOf message "nonce") ++
    str ",\"issued_at\":" ++ quoted (stringOf message "issued_at") ++
    str ",\"hmac_signature\":null" ++ str "\x7d"

/-- Equal lengths, and no byte in which the two differ. -/
def constantTimeEquals (a b : Str) : Bool :=
  a.length == b.length && (a.zip b).foldl (fun diff p => diff ||| (p.1 ^^^ p.2)) 0 == 0

private theorem foldl_or_eq_zero (l : List (UInt8 × UInt8)) (acc : UInt8) :
    l.foldl (fun diff p => diff ||| (p.1 ^^^ p.2)) acc = 0 ↔
      acc = 0 ∧ ∀ p ∈ l, p.1 = p.2 := by
  induction l generalizing acc with
  | nil => simp
  | cons p rest ih =>
      rw [List.foldl_cons, ih]
      simp only [UInt8.or_eq_zero_iff, UInt8.xor_eq_zero_iff, List.forall_mem_cons, and_assoc]

/-- The constant-time comparison is equality. -/
theorem constantTimeEquals_iff (a b : Str) : constantTimeEquals a b = true ↔ a = b := by
  simp only [constantTimeEquals, Bool.and_eq_true, beq_iff_eq, foldl_or_eq_zero, true_and]
  constructor
  · rintro ⟨hlen, hall⟩
    refine List.ext_getElem hlen fun i hi hj => ?_
    have hmem : (a[i], b[i]) ∈ a.zip b := by
      rw [List.mem_iff_getElem]
      exact ⟨i, by rw [List.length_zip]; omega, by simp⟩
    exact hall _ hmem
  · rintro rfl
    refine ⟨rfl, fun p hp => ?_⟩
    obtain ⟨i, hi, rfl⟩ := List.mem_iff_getElem.mp hp
    simp

def parseRfc3339Utc (lib : Library) (value : Str) : Int :=
  match lib.strptimeUtc value with
  | none => -1
  | some t => t

/-! ## The checks in order -/

/-- The members `canonicalEvent` reads. -/
def requiredMembers : List Str :=
  ["tenant_id", "event", "correlation_id", "payload", "timeout_ms", "nonce", "issued_at"]

/-- Those of them that must be strings. -/
def stringMembers : List Str := ["tenant_id", "event", "correlation_id", "nonce", "issued_at"]

/-- Steps 1 to 3: the shape and the key version, the MAC, the freshness.  They look at
the body and the clock only. -/
def freshMessage (lib : Library) (signingKey body : Str) (now : Int) :
    Except ReactorRefusal Json := do
  let some message := lib.parse body | throw .malformed
  unless message.isObject do throw .malformed
  -- 1. key_version, before anything else about the body is considered
  let some (.integer version) := message.find? "key_version" | throw .keyVersionTooOld
  if Json.wrapInt64 version < kKeyVersion then throw .keyVersionTooOld
  unless requiredMembers.all message.contains do throw .malformed
  unless (stringMembers.all fun key => (message.stringMember? key).isSome) do throw .malformed
  let some (.integer _) := message.find? "timeout_ms" | throw .malformed
  -- 2. the MAC, over the body with hmac_signature set to null
  let some presented := message.stringMember? "hmac_signature" | throw .badSignature
  unless constantTimeEquals presented
      (lib.hmacSha256Hex signingKey (canonicalEvent lib message)) do throw .badSignature
  -- 3. freshness, in both directions
  let issuedAt := parseRfc3339Utc lib (stringOf message "issued_at")
  if issuedAt < 0 then throw .malformed
  let drift := now - issuedAt
  if drift > kFreshnessSkewSecs ∨ drift < -kFreshnessSkewSecs then throw .stale
  return message

/-- The sweep of step 4: a nonce whose time has come is forgotten. -/
def sweep (seen : SeenNonces) (now : Int) : SeenNonces :=
  fun nonce => (seen nonce).filter fun expiry => now < expiry

/-- Tenant and registry, after the cryptography. -/
def identify (lib : Library) (message : Json) (expectedTenant : Str) : ReactorVerification :=
  if stringOf message "tenant_id" ≠ expectedTenant then .error .tenantMismatch
  else if stringOf message "event" ∉ registry then .error .unknownEvent
  else .ok
    { tenantId := stringOf message "tenant_id"
      event := stringOf message "event"
      correlationId := stringOf message "correlation_id"
      payloadJson := lib.dump ((message.find? "payload").getD .null)
      timeoutMs := integerOf message "timeout_ms"
      nonce := stringOf message "nonce" }

/-- `reactor_verify_event`; no set of seen nonces means no replay check. -/
def reactorVerifyEvent (lib : Library) (signingKey body expectedTenant : Str) (now : Int)
    (seenNonces : Option SeenNonces) : ReactorVerification × Option SeenNonces :=
  match freshMessage lib signingKey body now with
  | .error why => (.error why, seenNonces)
  | .ok message =>
      match seenNonces with
      | none => (identify lib message expectedTenant, none)
      | some seen =>
          -- 4. the nonce, against the seen-set
          let nonce := stringOf message "nonce"
          let swept := sweep seen now
          if (swept nonce).isSome then (.error .replay, some swept)
          else
            (identify lib message expectedTenant,
              some (Function.update swept nonce (some (now + 2 * kFreshnessSkewSecs))))

/-- The `issued_at` of a body, as the freshness check reads it. -/
def issuedAt (lib : Library) (body : Str) : Int :=
  match lib.parse body with
  | none => -1
  | some message => parseRfc3339Utc lib (stringOf message "issued_at")

/-- A body that passed steps 1 to 3 was issued within the skew of now. -/
theorem freshMessage_fresh {lib : Library} {signingKey body : Str} {now : Int}
    {message : Json} (h : freshMessage lib signingKey body now = .ok message) :
    now - issuedAt lib body ≤ kFreshnessSkewSecs ∧
      -kFreshnessSkewSecs ≤ now - issuedAt lib body := by
  simp only [freshMessage, issuedAt, bind, Except.bind, pure, Except.pure, throw,
    throwThe, MonadExceptOf.throw] at h ⊢
  -- every refusing branch contradicts `h`; the one that is left passed all the tests
  repeat' split at h
  all_goals first
    | contradiction
    | simp_all

/-- An accepted event carries the nonce of its message. -/
theorem identify_nonce {lib : Library} {message : Json} {expectedTenant : Str}
    {e : ReactorEvent} (h : identify lib message expectedTenant = .ok e) :
    e.nonce = stringOf message "nonce" := by
  unfold identify at h
  split at h
  · contradiction
  · split at h
    · contradiction
    · cases h
      rfl

/-- What acceptance means for the seen-set: the body is fresh, the event's nonce was not
among the nonces still remembered, and it is remembered from now on for twice the skew. -/
theorem reactorVerifyEvent_ok {lib : Library} {signingKey body expectedTenant : Str}
    {now : Int} {seen : SeenNonces} {e : ReactorEvent} {after : Option SeenNonces}
    (h : reactorVerifyEvent lib signingKey body expectedTenant now (some seen) =
      (.ok e, after)) :
    (∃ message, freshMessage lib signingKey body now = .ok message ∧
        stringOf message "nonce" = e.nonce) ∧
      sweep seen now e.nonce = none ∧
      after = some (Function.update (sweep seen now) e.nonce
        (some (now + 2 * kFreshnessSkewSecs))) := by
  unfold reactorVerifyEvent at h
  split at h
  · simp at h
  · rename_i message hfresh
    simp only at h
    split at h
    · simp at h
    · rename_i hunseen
      simp only [Prod.mk.injEq] at h
      obtain ⟨hid, rfl⟩ := h
      rw [identify_nonce hid]
      exact ⟨⟨message, hfresh, rfl⟩, by simpa using hunseen, rfl⟩

/-- What any verification does to the seen-set: nothing; or the sweep; or the sweep and
one more nonce, remembered for twice the skew. -/
theorem reactorVerifyEvent_seen {lib : Library} {signingKey body expectedTenant : Str}
    {now : Int} {seen after : SeenNonces} {v : ReactorVerification}
    (h : reactorVerifyEvent lib signingKey body expectedTenant now (some seen) =
      (v, some after)) :
    after = seen ∨ after = sweep seen now ∨
      ∃ nonce, after = Function.update (sweep seen now) nonce
        (some (now + 2 * kFreshnessSkewSecs)) := by
  unfold reactorVerifyEvent at h
  split at h
  · simp_all
  · simp only at h
    split at h
    · simp only [Prod.mk.injEq, Option.some.injEq] at h
      exact .inr (.inl h.2.symm)
    · simp only [Prod.mk.injEq, Option.some.injEq] at h
      exact .inr (.inr ⟨_, h.2.symm⟩)

end Axiam.Reactor
