import Axiam.Client.Access
import Axiam.Core.Backoff
import Axiam.Core.Uri
import Axiam.Jwks.Verifier
import Axiam.Lib.Retry
import Axiam.Oidc.Discovery

/-!
# The device grant

`device_login` (`src/oidc.cpp`): the authorization of a device, and the loop that polls the token
endpoint until it has tokens, a refusal, or no time left.  One turn of the loop is a program;
the loop itself is a step relation, since nothing but the clock bounds it.
-/

namespace Axiam.Oidc

open Axiam.Lib Axiam.Client

/-- `IdTokenClaims`. -/
structure IdTokenClaims where
  subject : Str
  issuer : Str
  audience : List Str
  expiresAt : Int
  issuedAt : Int
  nonce : Option Str
  authorizedParty : Option Str
  email : Option Str
  preferredUsername : Option Str
  tenantId : Option Str
  roles : List Str
  rawClaimsJson : Str
  deriving DecidableEq

/-- `OidcTokenSet`. -/
structure OidcTokenSet where
  accessToken : Str
  tokenType : Str
  expiresIn : Int
  scope : Option Str
  refreshToken : Option Str
  idToken : Option Str
  idClaims : Option IdTokenClaims
  deriving DecidableEq

/-- `DeviceAuthorization`. -/
structure DeviceAuthorization where
  deviceCode : Str
  userCode : Str
  verificationUri : Str
  verificationUriComplete : Option Str
  expiresIn : Int
  interval : Int
  deriving DecidableEq

/-- What a grant runs in, beside the client's own environment. -/
structure GrantEnv where
  client : Client.Env
  jwks : Jwks.Env
  oidcClientId : Option Str := none
  oidcClientSecret : Option Str := none
  oidcClockSkew : Int := 60
  /-- The lifetime of the discovery document. -/
  discoveryTtl : Int := 300
  /-- The monotonic clock of the deadline, in milliseconds. -/
  nowMs : Nat → Int
  /-- The wall clock, in seconds. -/
  nowSeconds : Nat → Int
  /-- What the jitter leaves of a backoff. -/
  jittered : Nat → Int → Int
  /-- An HTTP date, in seconds: `strptime` and `timegm`. -/
  httpDate : Str → Option Int

/-- A client with its verifier. -/
structure DeviceClient where
  client : Discovering := {}
  verifier : Jwks.Verifier := {}
  /-- What the token endpoint answered, oldest first. -/
  answers : List Answer := []
  /-- The moments of the polling loops, oldest first. -/
  journal : List (Moment Answer) := []
  /-- How often a clock or the jitter was read. -/
  ticks : Nat := 0

def onClient {α : Type} : Prog Discovering Exc α → Prog DeviceClient Exc α :=
  Prog.zoom DeviceClient.client fun s t => { t with client := s }

def onVerifier {α : Type} : Prog Jwks.Verifier Exc α → Prog DeviceClient Exc α :=
  Prog.zoom DeviceClient.verifier fun s t => { t with verifier := s }

/-! ## Forms and endpoints -/

/-- `Form::add`: a value that is empty is left out. -/
def Form.add (form key value : Str) : Str :=
  if value = [] then form
  else (if form = [] then [] else form ++ str "&") ++ urlEncode key ++ str "=" ++ urlEncode value

/-- A form of fields, in order. -/
def Form.str (fields : List (Str × Str)) : Str :=
  fields.foldl (fun form field => Form.add form field.1 field.2) []

/-- `scheme_of`. -/
def schemeOf (url : Str) : Str :=
  match cutAt (str "://") url with
  | some (scheme, _) => lower scheme
  | none => []

/-- `assert_usable_mtls_alias`. -/
def assertUsableMtlsAlias (aliasUrl replaces : Str) : Except Exc Unit :=
  let scheme := schemeOf aliasUrl
  if scheme = [] ∨ aliasUrl.length ≤ scheme.length + 3 then
    .error (.auth (str "mtls_endpoint_aliases publishes \"" ++ aliasUrl ++ str ("\", which is not " ++
      "an absolute URL. Refusing rather than falling back to the top-level endpoint: this call " ++
      "presents a client certificate, and sending it to the front-channel host would " ++
      "authenticate nothing while appearing to work (CONTRACT.md §21.3.1 vector C)")))
  else if schemeOf replaces = str "https" ∧ scheme ≠ str "https" then
    .error (.auth (str "mtls_endpoint_aliases publishes \"" ++ aliasUrl ++ str "\", whose scheme is \"" ++
      scheme ++ str ("\", in place of an https endpoint. That is a downgrade, and mutual TLS over " ++
      "cleartext is a contradiction; refusing rather than falling back to the top-level endpoint " ++
      "(CONTRACT.md §21.3.1 vector C)")))
  else .ok ()

/-- The pairs of a query; nothing between two `&` is no pair. -/
def queryPairs (query : Str) : List Str := (Uri.fields 38 query).filter (· ≠ [])

/-- `SplitUrl`. -/
structure SplitUrl where
  beforeQuery : Str
  pairs : List Str
  fragment : Str
  deriving DecidableEq

/-- `split_url`. -/
def splitUrl (url : Str) : SplitUrl :=
  let (addressable, fragment) := match cut 35 url with
    | some (before, rest) => (before, str "#" ++ rest)
    | none => (url, [])
  match cut 63 addressable with
  | some (before, query) => ⟨before, queryPairs query, fragment⟩
  | none => ⟨addressable, [], fragment⟩

/-- `is_tenant_pair`. -/
def isTenantPair (pair : Str) : Bool :=
  pair = str "tenant_id" || (str "tenant_id=").isPrefixOf pair

/-- `with_tenant`: any tenant the endpoint carries is replaced, the rest of its query is kept. -/
def withTenant (endpoint tenant : Str) : Str :=
  let split := splitUrl endpoint
  split.beforeQuery ++ str "?" ++
    (split.pairs.filter fun pair => !isTenantPair pair).flatMap (fun pair => pair ++ str "&") ++
    str "tenant_id=" ++ urlEncode tenant ++ split.fragment

section

variable (env : GrantEnv)

/-- `preferred_endpoint`. -/
def preferredEndpoint (config : OidcConfiguration) (pick : MtlsEndpointAliases → Option Str)
    (topLevel : Option Str) : Except Exc (Option Str) :=
  match if env.client.presentsClientCertificate then config.mtlsEndpointAliases.bind pick else none with
  | none | some [] => .ok topLevel
  | some aliasUrl => do
      assertUsableMtlsAlias aliasUrl (topLevel.getD [])
      pure (some aliasUrl)

/-- `require_client_id`. -/
def requireClientId (operation : Str) : Except Exc Str :=
  match env.oidcClientId with
  | some (c :: rest) => .ok (c :: rest)
  | _ => .error (.auth (operation ++ str (" requires an OIDC client_id; set it on the builder " ++
      "(CONTRACT.md §12.1: it is configuration, not a per-call argument)")))

/-- `require_tenant_uuid`. -/
def requireTenantUuid (explicitId : Option Str) (operation : Str) : Except Exc Str :=
  let tenant := match explicitId with
    | some (c :: rest) => c :: rest
    | _ => env.client.tenantId.getD []
  if looksLikeUuid tenant then .ok tenant
  else .error (.auth (operation ++ str (" requires a tenant_id UUID for the /oauth2 query " ++
    "parameter; this client has only a tenant slug and a slug is never a substitute (CONTRACT.md " ++
    "§12.3 rule 4). Construct the client with tenant_id, or pass one per call.")))

/-- `add_client_auth`. -/
def clientAuth (clientId : Str) : List (Str × Str) :=
  (str "client_id", clientId) ::
    (env.oidcClientSecret.map fun secret => (str "client_secret", secret)).toList

/-! ## Clocks -/

def nowMs : Prog DeviceClient Exc Int := fun s =>
  (.ok (env.nowMs s.ticks),
    { s with ticks := s.ticks + 1, journal := s.journal ++ [.clock (env.nowMs s.ticks)] })

/-- The sleeper; how long it really takes only a clock can tell. -/
def sleep (ms : Int) : Prog DeviceClient Exc Unit := fun s =>
  (.ok (), { s with journal := s.journal ++ [.slept ms] })

def nowSeconds : Prog DeviceClient Exc Int := fun s =>
  (.ok (env.nowSeconds s.ticks), { s with ticks := s.ticks + 1 })

def jitter (backoff : Int) : Prog DeviceClient Exc Int := fun s =>
  (.ok (env.jittered s.ticks backoff), { s with ticks := s.ticks + 1 })

/-- `retry_after_from_header`, in milliseconds. -/
def retryAfterFromHeader (value : Str) (now : Int) : Option Int :=
  Axiam.retryAfterFromHeader env.httpDate value now

/-- The `Retry-After` of a response; the clock is read only when there is one. -/
def retryAfter (resp : HttpResponse) : Prog DeviceClient Exc (Option Int) :=
  match resp.headers.find? "Retry-After" with
  | none => pure none
  | some hint => do
      let now ← nowSeconds env
      pure (retryAfterFromHeader env hint now)

/-- `retry_delay`. -/
def retryDelay (attempt : Nat) (hint : Option Int) : Prog DeviceClient Exc Int := do
  let wait ← jitter env (retryBackoff attempt)
  pure (Axiam.retryDelay wait hint)

def grantExpired : Exc :=
  .axiam (.oauthProtocol "expired_token: the device grant expired before the user approved it"
    "expired_token" none none none)

/-- A wait must end before the deadline, when there is one. -/
def withinDeadline (expired : Exc) (deadline : Option Int) (wait : Int) : Prog DeviceClient Exc Unit :=
  match deadline with
  | none => pure ()
  | some deadline => do
      let now ← nowMs env
      if deadline ≤ now + wait then throw expired else pure ()

/-- A wait, with a look at the clock before it and, since a sleep may last longer, after it. -/
def pause (expired : Exc) (deadline : Option Int) (wait : Int) : Prog DeviceClient Exc Unit := do
  withinDeadline env expired deadline wait
  sleep wait
  withinDeadline env expired deadline 0

/-! ## The token endpoint -/

/-- `raise_grant_error`: the `error` member first, and without one the status. -/
def raiseGrantError {α : Type} (context : Str) (resp : HttpResponse) : Prog DeviceClient Exc α :=
  let unread : Exc := .network (context ++ str " (HTTP " ++ toStr resp.status ++ str ")")
    (httpCause resp.status)
  if 300 ≤ resp.status ∧ resp.status < 400 then throw unread
  else
    let j := parseOrObject env.client resp.body
    match optString j "error" with
    | some code => do
        let description := optString j "error_description"
        let message := match description with
          | some text => code ++ str ": " ++ text
          | none => code ++ str " (" ++ context ++ str ")"
        let hint ← retryAfter env resp
        throw (.axiam (.oauthProtocol message code description hint (some resp.status)))
    | none =>
        if resp.status = 401 then throw (.auth context)
        else if resp.status = 403 ∨ resp.status = 409 then throw (.axiam (.authz context none none))
        else throw unread

/-- One request to the token endpoint. -/
def exchangeToken (req : HttpRequest) : Prog DeviceClient Exc HttpResponse := fun s =>
  let answer := env.client.transport s.client.impl.sent req
  (answer, { s with
    client := { s.client with impl := { s.client.impl with sent := s.client.impl.sent ++ [req] } }
    answers := s.answers ++ [answer]
    journal := s.journal ++ [.sent answer] })

/-- The status of a response, none when there was no exchange. -/
def exchangeStatus (resp : HttpResponse) : Option Int :=
  if resp.transportError = [] then some resp.status else none

/-- The attempts of `token_grant`, with `left` retries after this one. -/
def attemptGrant (req : HttpRequest) (retryable : Bool) (deadline : Option Int) :
    Nat → Nat → Prog DeviceClient Exc HttpResponse
  | 0, _ => exchangeToken env req
  | left + 1, attempt => do
      let resp ← exchangeToken env req
      let status := exchangeStatus resp
      if retryShouldRetry status = false then pure resp
      -- the polling loop waits a `429` out
      else if retryable = true ∧ status = some 429 then pure resp
      else do
        let hint ← retryAfter env resp
        let delay ← retryDelay env attempt hint
        pause env grantExpired deadline delay
        attemptGrant req retryable deadline left (attempt + 1)

/-- What `token_grant` makes of its last response. -/
def readGrant (retryable : Bool) (context : Str) (resp : HttpResponse) : Prog DeviceClient Exc Str :=
  if resp.transportError ≠ [] then
    throw (.network (context ++ str ": " ++ resp.transportError) resp.transportError)
  else if resp.isSuccess then pure resp.body
  else if retryable = true ∧ 500 ≤ resp.status then
    throw (.network (context ++ str " (HTTP " ++ toStr resp.status ++ str ")") (httpCause resp.status))
  else if retryable = true ∧ resp.status = 429 then do
    let hint ← retryAfter env resp
    throw (.axiam (.oauthProtocol (str "rate_limit_exceeded (" ++ context ++ str ")")
      "rate_limit_exceeded" none hint (some 429)))
  else raiseGrantError env context resp

/-- The budget of `token_grant`, less its first attempt. -/
def grantRetries (retryable : Bool) : Nat :=
  if retryable && env.client.retryEnabled then kRetryMaxAttempts - 1 else 0

/-- The request of `token_grant`. -/
def grantRequest (url form : Str) (retryable : Bool) : HttpRequest where
  method := "POST"
  url := url
  headers := [(str "Accept", str "application/json"),
    (str "Content-Type", str "application/x-www-form-urlencoded"),
    (str "X-Tenant-ID", env.client.tenantHeader)]
  body := form
  sessionless := true
  replayable := 0 < grantRetries env retryable

/-- `token_grant`. -/
def tokenGrant (config : OidcConfiguration) (tenant form : Str) (retryable : Bool) (context : Str)
    (deadline : Option Int) : Prog DeviceClient Exc Str := do
  let endpoint ← Prog.lift (preferredEndpoint env config MtlsEndpointAliases.tokenEndpoint
    (some config.tokenEndpoint))
  let url := withTenant (endpoint.getD []) tenant
  let resp ← attemptGrant env (grantRequest env url form retryable) retryable deadline
    (grantRetries env retryable) 1
  readGrant env retryable context resp

/-! ## The token set -/

/-- `audience_ok`. -/
def audienceOk (aud : List Str) (azp : Option Str) (clientId : Str) : Bool :=
  aud.contains clientId && (aud.length ≤ 1 || azp == some clientId)

def refuseClaims {α : Type} (what : Str) (reason : OidcValidationReason) : Except Exc α :=
  .error (.axiam (.oidcValidation what reason))

/-- The time rules of an ID token: what `exp` and `iat` it has. -/
def checkTimes (j : Json) (now skew : Int) : Except Exc (Int × Int) :=
  match optInt j "exp" with
  | none => refuseClaims "id_token has no usable exp claim" .tokenExpired
  | some exp =>
      if exp + skew < now then refuseClaims "id_token has expired" .tokenExpired
      else match optInt j "iat" with
        | none => refuseClaims "id_token has no usable iat claim" .tokenExpired
        | some iat =>
            if now + skew < iat then refuseClaims "id_token was issued in the future" .tokenExpired
            else
              let early := match optInt j "nbf" with
                | some nbf => decide (now + skew < nbf)
                | none => j.contains "nbf"
              if early then refuseClaims "id_token is not yet valid" .tokenExpired
              else .ok (exp, iat)

/-- `check_id_claims`, at a reading of the wall clock. -/
def checkIdClaims (j : Json) (config : OidcConfiguration) (expectedNonce : Option Str)
    (rawPayload : Str) (now : Int) : Except Exc IdTokenClaims := do
  let clientId ← requireClientId env "oidc id_token validation"
  if optString j "iss" ≠ some config.issuer then
    refuseClaims "id_token iss does not equal the discovery document's issuer" .invalidIssuer
  else if audienceOk (stringArray j "aud") (optString j "azp") clientId = false then
    refuseClaims ("id_token aud does not name this client (or azp is missing on a " ++
      "multi-audience token)") .invalidAudience
  else do
    let (exp, iat) ← checkTimes j now env.oidcClockSkew
    if expectedNonce.isSome ∧ optString j "nonce" ≠ expectedNonce then
      refuseClaims ("id_token nonce is absent or does not match the one oidc_begin produced")
        .nonceMismatch
    else do
      let subject ← liftJson (j.valueString "sub" [])
      pure {
        subject := subject
        issuer := config.issuer
        audience := stringArray j "aud"
        expiresAt := exp
        issuedAt := iat
        nonce := optString j "nonce"
        authorizedParty := optString j "azp"
        email := optString j "email"
        preferredUsername := optString j "preferred_username"
        tenantId := optString j "tenant_id"
        roles := stringArray j "roles"
        rawClaimsJson := rawPayload }

/-- The claims of an ID token, once its signature is verified. -/
def readIdToken (config : OidcConfiguration) (expectedNonce : Option Str) (idToken : Str) :
    Prog DeviceClient Exc IdTokenClaims := do
  let v ← onVerifier (Jwks.verifyWithReason env.jwks idToken)
  match v with
  | .error reason => throw (.axiam (.oidcValidation "id_token signature verification failed" reason))
  | .ok payload =>
      let j := parseOrObject env.client payload
      if j.isObject = false then
        throw (.axiam (.oidcValidation "id_token payload is not a JSON object" .invalidSignature))
      else do
        let now ← nowSeconds env
        Prog.lift (checkIdClaims env j config expectedNonce payload now)

/-- `parse_token_set`: nothing is returned of a set whose ID token is refused. -/
def parseTokenSet (body : Str) (config : OidcConfiguration) (expectedNonce : Option Str) :
    Prog DeviceClient Exc OidcTokenSet :=
  let j := parseOrObject env.client body
  match optString j "access_token" with
  | none => throw (.network "malformed TokenResponse (missing access_token)" "malformed_body")
  | some access => do
      let claims ← match optString j "id_token" with
        | none => pure none
        | some idToken => do
            let claims ← readIdToken env config expectedNonce idToken
            pure (some claims)
      pure {
        accessToken := access
        tokenType := (optString j "token_type").getD "Bearer"
        expiresIn := (optInt j "expires_in").getD 0
        scope := optString j "scope"
        refreshToken := optString j "refresh_token"
        idToken := optString j "id_token"
        idClaims := claims }

/-! ## The grant -/

/-- What `device_authorize` makes of a `2xx`. -/
def readAuthorization (body : Str) : Except Exc DeviceAuthorization :=
  let j := parseOrObject env.client body
  match optString j "device_code", optString j "user_code", optString j "verification_uri" with
  | some deviceCode, some userCode, some verificationUri =>
      .ok {
        deviceCode := deviceCode
        userCode := userCode
        verificationUri := verificationUri
        verificationUriComplete := optString j "verification_uri_complete"
        expiresIn := (optInt j "expires_in").getD 0
        interval := match optInt j "interval" with
          | some n => if 0 < n then n else 5
          | none => 5 }
  | _, _, _ => .error (.network "malformed DeviceAuthorizationResponse" "malformed_body")

/-- `device_authorize`. -/
def deviceAuthorize (scope tenantId : Option Str) : Prog DeviceClient Exc DeviceAuthorization := do
  onClient (onImpl ensureOpen)
  let clientId ← Prog.lift (requireClientId env "device_authorize")
  let tenant ← Prog.lift (requireTenantUuid env tenantId "device_authorize")
  let config ← onClient (oidcDiscover env.client env.discoveryTtl)
  let endpoint ← Prog.lift (preferredEndpoint env config
    MtlsEndpointAliases.deviceAuthorizationEndpoint config.deviceAuthorizationEndpoint)
  match endpoint with
  | none =>
      throw (.network "the discovery document advertises no device_authorization_endpoint"
        "missing_endpoint")
  | some endpoint => do
      let resp ← onClient (onImpl (sendRaw env.client {
        method := "POST"
        url := withTenant endpoint tenant
        headers := [(str "Accept", str "application/json"),
          (str "Content-Type", str "application/x-www-form-urlencoded"),
          (str "X-Tenant-ID", env.client.tenantHeader)]
        body := Form.str (clientAuth env clientId ++ [(str "scope", scope.getD [])])
        sessionless := true }))
      if resp.isSuccess then Prog.lift (readAuthorization env resp.body)
      else raiseGrantError env "device authorization failed" resp

/-- What every turn of the polling loop reads. -/
structure Grant where
  config : OidcConfiguration
  deviceCode : Str
  clientId : Str
  tenant : Str
  deadline : Int

/-- What the polling loop carries from turn to turn: the interval, and the wait a `429` asked
for in its place. -/
structure Polling where
  interval : Int
  retryFloorMs : Int := 0
  deriving DecidableEq

/-- `device_poll_with`. -/
def devicePollWith (grant : Grant) : Prog DeviceClient Exc OidcTokenSet := do
  let form := Form.str ([(str "grant_type", str "urn:ietf:params:oauth:grant-type:device_code"),
    (str "device_code", grant.deviceCode)] ++ clientAuth env grant.clientId)
  let body ← tokenGrant env grant.config grant.tenant form true "device poll failed"
    (some grant.deadline)
  parseTokenSet env body grant.config none

/-- `device_login` up to its loop: the caller is shown the codes before the first poll. -/
def startLogin (display : DeviceAuthorization → Except Exc Unit) (scope tenantId : Option Str) :
    Prog DeviceClient Exc (Grant × Polling) := do
  onClient (onImpl ensureOpen)
  let authorization ← deviceAuthorize env scope tenantId
  Prog.lift (display authorization)
  let clientId ← Prog.lift (requireClientId env "device_login")
  let tenant ← Prog.lift (requireTenantUuid env tenantId "device_login")
  let config ← onClient (oidcDiscover env.client env.discoveryTtl)
  let start ← nowMs env
  let deadline := start + max 0 (min authorization.expiresIn 1000000000) * 1000
  pure (⟨config, authorization.deviceCode, clientId, tenant, deadline⟩, ⟨authorization.interval, 0⟩)

/-- The `catch` arms of the loop: how it goes on, or none where it rethrows. -/
def Polling.after (p : Polling) : Exc → Option Polling
  | .axiam (.oauthProtocol _ code _ retryAfter httpStatus) =>
      if code = str "rate_limit_exceeded" ∨ httpStatus = some 429 then
        some ⟨p.interval, retryAfter.getD 0⟩
      else if code = str "authorization_pending" then some ⟨p.interval, 0⟩
      else if code = str "slow_down" then some ⟨p.interval + 5, 0⟩
      else none
  | e => if e.isNetwork then some ⟨p.interval, 0⟩ else none

/-- The wait before a poll, in milliseconds.  A signed result past 64 bits is undefined; on the
machines the SDK is built for it wraps. -/
def Polling.wait (p : Polling) : Int := max (Json.wrapInt64 (p.interval * 1000)) p.retryFloorMs

/-- That wait, with a look at the clock before it and after it. -/
def waitTurn (grant : Grant) (p : Polling) : Prog DeviceClient Exc Unit := do
  let now ← nowMs env
  if grant.deadline ≤ Json.wrapInt64 (now + p.wait) then throw grantExpired
  else do
    sleep p.wait
    withinDeadline env grantExpired (some grant.deadline) 0

/-- What the loop keeps, in 64 bits. -/
def Polling.kept (p : Polling) : Polling := ⟨Json.wrapInt64 p.interval, p.retryFloorMs⟩

/-- One turn of the loop: a token set, or how it goes on. -/
def pollOnce (grant : Grant) (p : Polling) : Prog DeviceClient Exc (OidcTokenSet ⊕ Polling) := do
  waitTurn env grant p
  tryCatch
    (do
      let set ← devicePollWith env grant
      pure (.inl set))
    fun e => match p.after e with
      | some next => pure (.inr next.kept)
      | none => throw e

/-- Where the loop stands. -/
inductive Progress where
  | polling (p : Polling)
  | ended (outcome : Except Exc OidcTokenSet)

/-- A `device_login` in its loop. -/
structure DeviceLogin where
  client : DeviceClient
  progress : Progress

/-- One turn of the loop from `p`. -/
def DeviceLogin.turn (grant : Grant) (p : Polling) (c : DeviceClient) : DeviceLogin :=
  match pollOnce env grant p c with
  | (.ok (.inl set), c') => ⟨c', .ended (.ok set)⟩
  | (.ok (.inr next), c') => ⟨c', .polling next⟩
  | (.error e, c') => ⟨c', .ended (.error e)⟩

/-- The loop takes a turn while it has not ended. -/
def DeviceLogin.Turns (grant : Grant) (s : DeviceLogin) (_ : Unit) (t : DeviceLogin) : Prop :=
  ∃ p, s.progress = .polling p ∧ t = DeviceLogin.turn env grant p s.client

end

end Axiam.Oidc
