import Axiam.Core.Http

/-!
# What a status raises

The two status mappings of the SDK.  Both end in a throw, so each is the exception it
throws: for an ill-shaped `403` or `409` body the first throws the JSON library's own.
-/

namespace Axiam

/-- `kRetryMaxAttempts`: one attempt and two retries. -/
def kRetryMaxAttempts : Nat := 3

/-- `retry_should_retry`: no response at all, `408`, `429` or a `5xx`. -/
def retryShouldRetry : Option Int → Bool
  | none => true
  | some status => status == 408 || status == 429 || (500 ≤ status && status ≤ 599)

/-- `http_` and the status, the cause of a `NetworkError`. -/
def httpCause (status : Int) : Str := str "http_" ++ toStr status

/-- The body as an object; anything else reads as an empty one. -/
def objectOf (parse : Parser) (body : Str) : Json :=
  match parse body with
  | some (.object members) => .object members
  | _ => .object []

/-- `raise_for_status`. -/
def raiseForStatus (parse : Parser) (resp : HttpResponse) : Exc :=
  let s := resp.status
  if s = 401 then .auth "authentication failed (401)"
  else if s = 403 ∨ s = 409 then
    let j := objectOf parse resp.body
    match j.valueString "message" "authorization denied" with
    | .error e => .json e
    | .ok msg =>
        .axiam (.authz (msg ++ " (" ++ toStr s ++ ")") (j.stringMember? "action")
          (j.stringMember? "resource_id"))
  else if s = 400 then .network "malformed request (400)" "http_400"
  else if s = 408 ∨ s = 429 then
    .network (str "timeout / rate limited (" ++ toStr s ++ ")") (httpCause s)
  else if s ≥ 500 then .network (str "server error (" ++ toStr s ++ ")") (httpCause s)
  else .network (str "unexpected HTTP status (" ++ toStr s ++ ")") (httpCause s)

/-- The `message` of an error body, as a suffix of the text. -/
def messageSuffix (parse : Parser) (body : Str) : Str :=
  match (parse body).bind fun j => j.stringMember? "message" with
  | some message => str ": " ++ message
  | none => []

/-- `raise_management_status`. -/
def raiseManagementStatus (parse : Parser) (operation : Str) (resp : HttpResponse) : Exc :=
  let «where» := operation ++ ": "
  if resp.status = 404 then .axiam (.notFound («where» ++ "not found (HTTP 404)"))
  else if resp.status = 409 then
    .axiam (.conflict («where» ++ "conflict (HTTP 409)" ++ messageSuffix parse resp.body)
      ((parse resp.body).bind fun j => j.stringMember? "reason_code"))
  else if resp.status = 400 ∨ resp.status = 422 then
    .axiam (.validation («where» ++ "invalid request (HTTP " ++ toStr resp.status ++ ")" ++
      messageSuffix parse resp.body))
  else raiseForStatus parse resp

/-- The one way a status mapping leaves the taxonomy: a `403` or `409` whose body is an
object with a `message` that is no string. -/
def unreadableDenial (parse : Parser) (resp : HttpResponse) : Prop :=
  (resp.status = 403 ∨ resp.status = 409) ∧
    ¬(objectOf parse resp.body).StringOrAbsent "message"

/-- A denial is no `2xx`. -/
theorem isSuccess_of_unreadableDenial {parse : Parser} {resp : HttpResponse}
    (h : unreadableDenial parse resp) : resp.isSuccess = false := by
  unfold HttpResponse.isSuccess
  rcases h.1 with hstatus | hstatus <;> rw [hstatus] <;> rfl

theorem isObject_objectOf (parse : Parser) (body : Str) :
    (objectOf parse body).isObject = true := by
  unfold objectOf
  split <;> rfl

/-- `raise_for_status` throws an `AxiamError` exactly when the denial is readable. -/
theorem isAxiam_raiseForStatus_iff (parse : Parser) (resp : HttpResponse) :
    (raiseForStatus parse resp).isAxiam = true ↔ ¬unreadableDenial parse resp := by
  unfold raiseForStatus unreadableDenial
  simp only
  by_cases hauth : resp.status = 401
  · rw [if_pos hauth]
    simp [Exc.auth, Exc.isAxiam, hauth]
  rw [if_neg hauth]
  by_cases hdenied : resp.status = 403 ∨ resp.status = 409
  · rw [if_pos hdenied]
    have hread := Json.valueString_ok_iff (objectOf parse resp.body) "message"
      "authorization denied"
    rw [isObject_objectOf] at hread
    cases hvalue : (objectOf parse resp.body).valueString "message" "authorization denied" with
    | error e => simp_all [Exc.isAxiam]
    | ok msg =>
        have : (objectOf parse resp.body).StringOrAbsent "message" := by simp_all
        simp [Exc.isAxiam, this]
  · rw [if_neg hdenied]
    have : ¬(resp.status = 403 ∨ resp.status = 409) := hdenied
    -- every other status is a NetworkError
    split_ifs <;> simp_all [Exc.network, Exc.isAxiam]

end Axiam
