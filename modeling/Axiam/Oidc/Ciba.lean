import Axiam.Oidc.DeviceGrant

/-!
# Waiting for a backchannel decision

`ciba_poll`, one poll of the token endpoint for a backchannel authentication request, and
`ciba_await`, the loop around it (`src/oidc.cpp`).  The loop is a sibling of the device grant's:
its answers are sorted inside the poll, and its deadline is kept by a clock of its own.
-/

namespace Axiam.Oidc

open Axiam.Lib Axiam.Client

/-- An instant of the steady clock, in the first 73 years of its epoch. -/
structure Instant where
  ns : Int
  inRange : 0 ≤ ns ∧ ns < 2305843009213693952

instance : Zero Instant := ⟨⟨0, by decide⟩⟩

/-- `CibaInitiateResponse`; when it was received is an instant of the steady clock. -/
structure CibaInitiateResponse where
  authReqId : Str
  expiresIn : Int
  interval : Int := 5
  receivedAt : Instant

/-- `CibaClock`: its readings. -/
structure CibaClock where
  now : Nat → Instant

/-- `CibaAwaitOptions`. -/
structure CibaAwaitOptions where
  tenantId : Option Str := none
  clock : CibaClock

/-- `CibaPollOutcome`: the tokens, or an error and whether the loop survives it. -/
inductive CibaPollOutcome where
  | tokens (set : OidcTokenSet)
  | failed (error : Exc) (transient : Bool)

def kCibaGrantType : Str := "urn:openid:params:grant-type:ciba"

def kCibaDefaultIntervalSeconds : Int := 5

def kCibaSlowDownIncrementSeconds : Int := 5

/-- The nanoseconds of a millisecond. -/
def nsPerMs : Int := 1000000

/-- The nanoseconds of a second. -/
def nsPerSecond : Int := 1000000000

/-- The deadline as a poll's own retries refuse it. -/
def cibaRetryExpired : Exc :=
  .axiam (.oauthProtocol ("expired_token: the CIBA request expired before it was decided " ++
    "(client-side deadline from expires_in; CONTRACT.md §34.2 P10)") "expired_token" none none none)

/-- The deadline as the loop refuses it. -/
def cibaExpired : Exc :=
  .axiam (.oauthProtocol ("expired_token: the CIBA request expired before it was decided " ++
    "(client-side deadline from expires_in; CONTRACT.md §33.7 rule 4)") "expired_token" none none none)

/-- `clock.now()`. -/
def CibaClock.read (clock : CibaClock) : Prog DeviceClient Exc Instant := fun s =>
  (.ok (clock.now s.ticks),
    { s with ticks := s.ticks + 1, journal := s.journal ++ [.clock (clock.now s.ticks).ns] })

/-- Whether a wait would end at the deadline or after it; without a clock there is none. -/
def passesDeadline (clock : Option CibaClock) (deadline : Option Int) (ms : Int) :
    Prog DeviceClient Exc Bool :=
  match clock, deadline with
  | some clock, some deadline => do
      let now ← clock.read
      pure (decide (deadline ≤ now.ns + ms * nsPerMs))
  | _, _ => pure false

section

variable (env : GrantEnv)

/-- `add_ciba_client_auth`: a CIBA client is never public. -/
def cibaClientAuth (operation : Str) : Except Exc (List (Str × Str)) := do
  let clientId ← requireClientId env operation
  let secret := env.oidcClientSecret.bind fun secret => if secret = [] then none else some secret
  if secret = none ∧ env.client.presentsClientCertificate = false then
    .error (.auth (operation ++ str (" requires client authentication: a CIBA client is never " ++
      "public — build the client with oidc_client_secret() or a §6.1 client certificate " ++
      "(CONTRACT.md §33.1)")))
  else
    .ok ((str "client_id", clientId) :: (secret.map fun secret => (str "client_secret", secret)).toList)

/-! ## One poll -/

/-- A sub-`500` answer with an `error` member: a `5xx` is transient whatever its body. -/
def protocolAnswer (resp : HttpResponse) : Bool :=
  match exchangeStatus resp with
  | none => false
  | some status => !decide (500 ≤ status) &&
      (optString (parseOrObject env.client resp.body) "error").isSome

/-- `out.transient`. -/
def cibaTransient (resp : HttpResponse) : Bool :=
  !protocolAnswer env resp && retryShouldRetry (exchangeStatus resp)

/-- The request of `ciba_poll_once`. -/
def cibaRequest (url form : Str) : HttpRequest where
  method := "POST"
  url := url
  headers := [(str "X-Tenant-ID", env.client.tenantHeader),
    (str "Accept", str "application/json"),
    (str "Content-Type", str "application/x-www-form-urlencoded")]
  body := form
  sessionless := true
  replayable := 0 < grantRetries env true

/-- The error of a poll, kept for its caller. -/
def cibaFailure (resp : HttpResponse) : Prog DeviceClient Exc Exc :=
  tryCatch
    (match exchangeStatus resp with
      | none => throw (.network (str "ciba poll failed: " ++ resp.transportError) resp.transportError)
      | some status =>
          if 500 ≤ status then
            throw (.network (str "ciba poll failed (HTTP " ++ toStr status ++ str ")") (httpCause status))
          else raiseGrantError env "ciba poll failed" resp)
    pure

/-- What a poll makes of its last response: a `2xx` is consumed, whether it parses or not. -/
def cibaConclude (config : OidcConfiguration) (resp : HttpResponse) :
    Prog DeviceClient Exc CibaPollOutcome :=
  if resp.transportError = [] ∧ resp.isSuccess then do
    let set ← parseTokenSet env resp.body config none
    pure (.tokens set)
  else do
    let error ← cibaFailure env resp
    pure (.failed error (cibaTransient env resp))

/-- The attempts of `ciba_poll_once`, with `left` retries after this one. -/
def cibaAttempts (config : OidcConfiguration) (req : HttpRequest) (clock : Option CibaClock)
    (deadline : Option Int) : Nat → Nat → Prog DeviceClient Exc CibaPollOutcome
  | 0, _ => do
      let resp ← exchangeToken env req
      cibaConclude env config resp
  | left + 1, attempt => do
      let resp ← exchangeToken env req
      if cibaTransient env resp = false then cibaConclude env config resp
      else do
        let hint ← retryAfter env resp
        let delay ← retryDelay env attempt hint
        let late ← passesDeadline clock deadline delay
        if late = true then pure (.failed cibaRetryExpired false)
        else do
          sleep delay
          let overslept ← passesDeadline clock deadline 0
          if overslept = true then pure (.failed cibaRetryExpired false)
          else cibaAttempts config req clock deadline left (attempt + 1)

/-- `ciba_poll_once`. -/
def cibaPollOnce (config : OidcConfiguration) (authReqId tenant : Str) (clock : Option CibaClock)
    (deadline : Option Int) : Prog DeviceClient Exc CibaPollOutcome := do
  let auth ← Prog.lift (cibaClientAuth env "ciba_poll")
  let form := Form.str ([(str "grant_type", kCibaGrantType), (str "auth_req_id", authReqId)] ++ auth)
  let endpoint ← Prog.lift (preferredEndpoint env config MtlsEndpointAliases.tokenEndpoint
    (some config.tokenEndpoint))
  let url := withTenant (endpoint.getD []) tenant
  cibaAttempts env config (cibaRequest env url form) clock deadline (grantRetries env true) 1

/-- `ciba_poll`. -/
def cibaPoll (authReqId : Str) (tenantId : Option Str) : Prog DeviceClient Exc OidcTokenSet := do
  onClient (onImpl ensureOpen)
  if authReqId = [] then throw (.auth "ciba_poll requires an auth_req_id")
  else do
    let _ ← Prog.lift (cibaClientAuth env "ciba_poll")
    let tenant ← Prog.lift (requireTenantUuid env tenantId "ciba_poll")
    let config ← onClient (oidcDiscover env.client env.discoveryTtl)
    let outcome ← cibaPollOnce env config authReqId tenant none none
    match outcome with
    | .tokens set => pure set
    | .failed error _ => throw error

/-! ## The loop -/

/-- What every turn of `ciba_await` reads. -/
structure CibaGrant where
  config : OidcConfiguration
  authReqId : Str
  tenant : Str
  clock : CibaClock
  deadline : Int

/-- `ciba_await` up to its loop: what it polls with, and the first interval. -/
def startAwait (initiated : CibaInitiateResponse) (options : CibaAwaitOptions) :
    Prog DeviceClient Exc (CibaGrant × Int) := do
  onClient (onImpl ensureOpen)
  if initiated.authReqId = [] then throw (.auth "ciba_await requires an auth_req_id")
  else do
    let _ ← Prog.lift (cibaClientAuth env "ciba_await")
    let tenant ← Prog.lift (requireTenantUuid env options.tenantId "ciba_await")
    let config ← onClient (oidcDiscover env.client env.discoveryTtl)
    let deadline :=
      initiated.receivedAt.ns + max 0 (min initiated.expiresIn 1000000000) * 1000 * nsPerMs
    let interval := if 0 < initiated.interval then initiated.interval else kCibaDefaultIntervalSeconds
    pure (⟨config, initiated.authReqId, tenant, options.clock, deadline⟩, interval)

/-- The `catch` arm of the loop: the next interval, or none where it rethrows. -/
def awaitAfter (interval : Int) : Exc → Option Int
  | .axiam (.oauthProtocol _ code _ _ _) =>
      if code = str "authorization_pending" ∨ code = str "rate_limit_exceeded" then some interval
      else if code = str "slow_down" then some (interval + kCibaSlowDownIncrementSeconds)
      else none
  | _ => none

/-- What the loop makes of an outcome: a token set, or the interval it goes on with. -/
def awaitSettle (interval : Int) : CibaPollOutcome → Except Exc (OidcTokenSet ⊕ Int)
  | .tokens set => .ok (.inl set)
  | .failed error transient =>
      if transient = true then .ok (.inr interval)
      else match awaitAfter interval error with
        | some next => .ok (.inr next)
        | none => .error error

/-- Where a wait of `interval` seconds would end.  A signed result past 64 bits is undefined; on the
machines the SDK is built for it wraps. -/
def awaitDue (now : Instant) (interval : Int) : Int :=
  Json.wrapInt64 (now.ns + Json.wrapInt64 (interval * nsPerSecond))

/-- One turn of the loop; what it keeps of the interval has 64 bits. -/
def awaitOnce (grant : CibaGrant) (interval : Int) : Prog DeviceClient Exc (OidcTokenSet ⊕ Int) := do
  let now ← grant.clock.read
  if grant.deadline ≤ awaitDue now interval then throw cibaExpired
  else do
    sleep (interval * 1000)
    let overslept ← passesDeadline (some grant.clock) (some grant.deadline) 0
    if overslept = true then throw cibaExpired
    else do
      let outcome ← cibaPollOnce env grant.config grant.authReqId grant.tenant (some grant.clock)
        (some grant.deadline)
      Prog.lift ((awaitSettle interval outcome).map (Sum.map id Json.wrapInt64))

/-- Where the loop stands. -/
inductive AwaitProgress where
  | polling (interval : Int)
  | ended (outcome : Except Exc OidcTokenSet)

/-- A `ciba_await` in its loop. -/
structure CibaAwait where
  client : DeviceClient
  progress : AwaitProgress

/-- One turn of the loop at `interval`. -/
def CibaAwait.turn (grant : CibaGrant) (interval : Int) (c : DeviceClient) : CibaAwait :=
  match awaitOnce env grant interval c with
  | (.ok (.inl set), c') => ⟨c', .ended (.ok set)⟩
  | (.ok (.inr next), c') => ⟨c', .polling next⟩
  | (.error e, c') => ⟨c', .ended (.error e)⟩

/-- The loop takes a turn while it has not ended. -/
def CibaAwait.Turns (grant : CibaGrant) (s : CibaAwait) (_ : Unit) (t : CibaAwait) : Prop :=
  ∃ interval, s.progress = .polling interval ∧ t = CibaAwait.turn env grant interval s.client

end

end Axiam.Oidc
