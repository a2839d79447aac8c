import Axiam.Client.Impl
import Mathlib.Algebra.Group.Nat.Defs

/-!
# Signing in and out

The operations that complete a session and the two that end one (`src/client.cpp`,
`src/account.cpp`, `src/webauthn.cpp`, `src/oidc.cpp`).  Each completes a session in its own
few lines: it writes `session`, the device credential and the login result by hand.
-/

namespace Axiam.Client

open Axiam.Lib Axiam.Memo

/-- What a login came to: a session, or a challenge still to be answered. -/
structure LoginResult where
  mfaRequired : Bool := false
  user : Option UserInfo := none
  sessionId : Str := []
  expiresIn : Int := 0
  challengeToken : Str := []
  availableMethods : List Str := []
  mfaSetupRequired : Bool := false
  setupToken : Str := []
  deriving DecidableEq

/-- The login stopped at no challenge. -/
def LoginResult.complete (r : LoginResult) : Bool := !r.mfaRequired && !r.mfaSetupRequired

structure SsoCompleteResult where
  userId : Str
  sessionId : Str
  expiresIn : Int
  redirectUri : Option Str
  deriving DecidableEq

structure WebauthnLoginResult where
  accessToken : Str
  refreshToken : Str
  sessionId : Str
  expiresIn : Int
  deriving DecidableEq

structure DeviceAuth where
  accessToken : Str
  tokenType : Str
  expiresIn : Int
  deriving DecidableEq

/-! ## Reading the answers -/

/-- The strings of an array member; anything else is skipped. -/
def stringsOf (j : Json) (key : Str) : List Str :=
  match j.find? key with
  | some (.array items) => items.filterMap Json.string?
  | _ => []

/-- `parse_user`, with `read_principal_scope`. -/
def parseUser (u : Json) : Except JsonError UserInfo := do
  let id ← u.valueString "id" []
  let username ← u.valueString "username" []
  let email ← u.valueString "email" []
  let tenantId ← u.valueString "tenant_id" []
  pure {
    id := id
    username := username
    email := email
    tenantId := tenantId
    orgSlug := u.stringMember? "org_slug"
    tenantSlug := u.stringMember? "tenant_slug"
    organizationLevel := u.trueMember "organization_level"
    -- absent means equal to the acting tenant, not unknown
    principalTenantId := (u.stringMember? "principal_tenant_id").getD tenantId
    principalTenantSlug := u.stringMember? "principal_tenant_slug"
    orgId := u.stringMember? "org_id"
    reachableTenantIds :=
      match stringsOf u "reachable_tenant_ids" with
      | [] => none
      | ids => some ids }

/-- The success branch of a login answer. -/
def readSession (j : Json) : Except JsonError LoginResult := do
  let sessionId ← j.valueString "session_id" []
  let expiresIn ← j.valueInt "expires_in" 0
  let user ← match j.find? "user" with
    | some (.object members) => (parseUser (.object members)).map some
    | _ => pure none
  pure { sessionId := sessionId, expiresIn := expiresIn, user := user }

/-- The challenge branch of a login answer. -/
def readChallenge : Option Json → Except JsonError LoginResult
  | none => pure { mfaRequired := true }
  | some j => do
      let challengeToken ← j.valueString "challenge_token" []
      pure {
        mfaRequired := true
        challengeToken := challengeToken
        availableMethods := stringsOf j "available_methods" }

/-- Whether the answer asks for a second factor; the body is looked at only under another
status than `202`. -/
def mfaRequired (status : Int) (j : Option Json) : Except JsonError Bool :=
  if status = 202 then pure true
  else match j with
    | none => pure false
    | some j => j.valueBool "mfa_required" false

/-- A `2xx` of a login: the challenge it asks, or the session it opened. -/
def readLogin (status : Int) (j : Option Json) : Except JsonError LoginResult := do
  let required ← mfaRequired status j
  if required then readChallenge j
  else match j with
    | none => pure {}
    | some j => readSession j

/-- `cookie_value`. -/
def cookieValue (setCookies : List Str) (name : Str) : Option Str :=
  (setCookies.find? fun sc => (name ++ [61]).isPrefixOf sc).map fun sc =>
    let rest := sc.drop (name.length + 1)
    match cut 59 rest with
    | some (value, _) => value
    | none => rest

/-- `jwt_claim`. -/
def jwtClaim (parse : Parser) (jwt claim : Str) : Option Str := do
  let (_, rest) ← cut 46 jwt
  let (payload, _) ← cut 46 rest
  let decoded ← base64urlDecode payload
  let j ← parse decoded
  j.stringMember? claim

/-- `org_id_from_cookies`. -/
def orgIdFromCookies (parse : Parser) (setCookies : List Str) : Option Str := do
  let access ← cookieValue setCookies "axiam_access"
  jwtClaim parse access "org_id"

/-! ## Adopting a session -/

section

variable {δ : Type}

/-- The fields a completed login writes. -/
def Impl.adoptUser (s : Impl δ) (user : Option UserInfo) : Impl δ :=
  { s.releaseDeviceCredential with
    session := true
    loginUserInfo := user
    resolvedTenantId := (user.map UserInfo.tenantId).or s.resolvedTenantId
    principalTenantId :=
      (user.bind fun u => if u.principalTenantId = [] then none else some u.principalTenantId).or
        s.principalTenantId }

/-- The organization id the access-token cookie names. -/
def Impl.adoptOrg (s : Impl δ) (orgId : Option Str) : Impl δ :=
  { s with resolvedOrgId := orgId.or s.resolvedOrgId }

/-- What a WebAuthn authentication writes: it brings no login result. -/
def Impl.adoptPasskey (s : Impl δ) : Impl δ :=
  { s.releaseDeviceCredential with session := true, loginUserInfo := none }

/-- What a federation completion writes. -/
def Impl.adoptFederation (s : Impl δ) : Impl δ :=
  { s.releaseDeviceCredential with loginUserInfo := none }

/-- What a device login writes. -/
def Impl.adoptDevice (s : Impl δ) (accessToken : Str) : Impl δ :=
  { s with deviceAccessToken := accessToken, deviceSession := true, loginUserInfo := none }

/-- What a logout writes. -/
def Impl.signOut (s : Impl δ) : Impl δ :=
  { s.releaseDeviceCredential with session := false, csrf := [], loginUserInfo := none }

/-- What the first `close` writes. -/
def Impl.shutDown (s : Impl δ) : Impl δ :=
  { s with closed := true, session := false, csrf := [], memo := s.memo.clear }

end

section

variable (env : Env)

/-- A member that is sent only when there is a value. -/
def member (name : Str) (value : Option Str) : List (Str × Json) :=
  match value with
  | some v => [(name, .string v)]
  | none => []

/-- `raise_for_status` on anything that is no `2xx`. -/
def requireSuccess (resp : HttpResponse) : Except Exc Unit :=
  if resp.isSuccess then .ok () else .error (raiseForStatus env.parse resp)

/-- The body of `login`. -/
def loginBody (usernameOrEmail password : Str) : Json :=
  .object (member "org_id" env.orgId ++ member "org_slug" env.orgSlug ++
    member "password" (some password) ++ member "tenant_id" env.tenantId ++
    member "tenant_slug" env.tenantSlug ++ member "username_or_email" (some usernameOrEmail))

/-- What `login` makes of its answer: a `403` may be the demand to set a factor up. -/
def readLoginAnswer (resp : HttpResponse) : Except Exc LoginResult := do
  let j := env.parse resp.body
  let setup ← match j with
    | some (.object members) =>
        if resp.status = 403 then
          liftJson ((Json.object members).valueBool "mfa_setup_required" false)
        else pure false
    | _ => pure false
  if setup then do
    let setupToken ← liftJson ((objectOf env.parse resp.body).valueString "setup_token" [])
    pure { mfaSetupRequired := true, setupToken := setupToken }
  else do
    requireSuccess env resp
    liftJson (readLogin resp.status j)

/-- A login result that is no challenge is adopted. -/
def adoptLogin (resp : HttpResponse) (result : LoginResult) : Prog Impl Exc LoginResult :=
  if result.complete then do
    Prog.modify fun s =>
      (s.adoptUser result.user).adoptOrg (orgIdFromCookies env.parse resp.setCookies)
    pure result
  else pure result

/-- `login`. -/
def login (usernameOrEmail password : Str) : Prog Impl Exc LoginResult := do
  ensureOpen
  clearMemo
  let body ← Prog.lift (dumpText env (loginBody env usernameOrEmail password))
  let resp ← sendBuilt env "POST" "/api/v1/auth/login" body
  let result ← Prog.lift (readLoginAnswer env resp)
  adoptLogin env resp result

/-! ### OPAQUE -/

/-- `json_str`. -/
def jsonStr (j : Json) (name : Str) : Str := (j.stringMember? name).getD []

/-- `json_cost`: an unsigned member, in 32 bits. -/
def jsonCost (j : Json) (name : Str) : Option Nat :=
  match j.find? name with
  | some (.integer (.ofNat n)) => some (n % 2 ^ 32)
  | _ => none

/-- `read_ksf`. -/
def readKsf (j : Json) : OpaqueKsfParams where
  ksf := jsonStr j "ksf"
  memoryKib := jsonCost j "memory_kib"
  iterations := jsonCost j "iterations"
  parallelism := jsonCost j "parallelism"
  logN := jsonCost j "log_n"
  r := jsonCost j "r"
  p := jsonCost j "p"

structure OpaqueLoginStart where
  opaqueSession : Str
  ke2 : Str
  ksf : OpaqueKsfParams
  mode : Option Str
  deriving DecidableEq

/-- `read_login_start`. -/
def readLoginStart (j : Json) : OpaqueLoginStart where
  opaqueSession := jsonStr j "opaque_session"
  ke2 := jsonStr j "ke2"
  ksf := readKsf j
  mode := j.stringMember? "mode"

/-- What `opaque_start` makes of its answer. -/
def readOpaqueStart (what : Str) (resp : HttpResponse) : Except Exc Json :=
  if resp.status = 404 then
    .error (.network ("OPAQUE: this tenant does not offer OPAQUE (opaque_mode is disabled); " ++
      "use login() instead") "opaque_disabled")
  else do
    requireSuccess env resp
    match env.parse resp.body with
    | some j => .ok j
    | none =>
        .error (.network (str "OPAQUE: the " ++ what ++ " response was not the shape §23 defines")
          "opaque_malformed")

/-- The body of `login/start`. -/
def opaqueBody (usernameOrEmail ke1 : Str) : Json :=
  .object (member "ke1" (some ke1) ++ member "org_id" env.orgId ++ member "org_slug" env.orgSlug ++
    member "tenant_id" env.tenantId ++ member "tenant_slug" env.tenantSlug ++
    member "username_or_email" (some usernameOrEmail))

/-- The second round trip of `login_opaque`. -/
def finishOpaque (started : OpaqueLoginStart) (ke3 : Str) : Prog Impl Exc LoginResult := do
  let body ← Prog.lift (dumpText env (.object
    [("ke3", .string ke3), ("opaque_session", .string started.opaqueSession)]))
  let resp ← execute env "POST" "/api/v1/auth/opaque/login/finish" body false
  let result ← Prog.lift (liftJson (readLogin resp.status (env.parse resp.body)))
  adoptLogin env resp result

/-- The native library spends the `KE2`; when it will not open, an optional tenant is asked
for a password login instead. -/
def openKe2 (usernameOrEmail password : Str) (started : OpaqueLoginStart) :
    Prog Impl Exc LoginResult := do
  let s ← Prog.read
  match env.opaqueFinish s.sent password started.ke2 started.ksf with
  | .ok ke3 => finishOpaque env started ke3
  | .error e =>
      if e.isAuth = true ∧ started.mode = some (str "optional") then
        login env usernameOrEmail password
      else throw e

/-- `login_opaque`. -/
def loginOpaque (usernameOrEmail password : Str) : Prog Impl Exc LoginResult := do
  ensureOpen
  clearMemo
  let s ← Prog.read
  let ke1 ← Prog.lift (env.opaqueStart s.sent password)
  let body ← Prog.lift (dumpText env (opaqueBody env usernameOrEmail ke1))
  let resp ← sendBuilt env "POST" "/api/v1/auth/opaque/login/start" body
  let j ← Prog.lift (readOpaqueStart env "login/start" resp)
  let started := readLoginStart j
  if started.ke2 = [] then
    throw (.network "OPAQUE: login/start returned no `ke2`" "opaque_malformed")
  else openKe2 env usernameOrEmail password started

/-! ### The second factor -/

/-- `verify_mfa`. -/
def verifyMfa (challengeToken totpCode : Str) : Prog Impl Exc LoginResult := do
  ensureOpen
  clearMemo
  let body ← Prog.lift (dumpText env (.object
    [("challenge_token", .string challengeToken), ("totp_code", .string totpCode)]))
  let resp ← execute env "POST" "/api/v1/auth/mfa/verify" body false
  let result ← Prog.lift (match env.parse resp.body with
    | some j => liftJson (readSession j)
    | none => pure {})
  Prog.modify fun s =>
    (s.adoptUser result.user).adoptOrg (orgIdFromCookies env.parse resp.setCookies)
  pure result

/-- What the two setup confirmations make of a body: anything but an object is empty. -/
def readSetup (body : Str) : Except Exc LoginResult :=
  match env.parse body with
  | some (.object members) => liftJson (readSession (.object members))
  | _ => pure {}

/-- `post`, a request whose answer has to be a `2xx`. -/
def post (path body : Str) : Prog Impl Exc HttpResponse := do
  let resp ← sendBuilt env "POST" path body
  orRaise env resp

/-- `mfa_setup_confirm`. -/
def mfaSetupConfirm (setupToken totpCode : Str) : Prog Impl Exc LoginResult := do
  ensureOpen
  clearMemo
  let body ← Prog.lift (dumpText env (.object
    [("setup_token", .string setupToken), ("totp_code", .string totpCode)]))
  let resp ← post env "/api/v1/auth/mfa/setup/confirm" body
  let result ← Prog.lift (readSetup env resp.body)
  Prog.modify fun s => s.adoptUser result.user
  pure result

/-! ### WebAuthn -/

/-- `std::isspace` of the C locale. -/
def isSpace (c : UInt8) : Bool := c == 32 || (9 ≤ c && c ≤ 13)

/-- One member of the body `finish_body` writes by hand. -/
def textMember (name : Str) (value : Option Str) : Except Exc Str :=
  match value with
  | some v => do
      let text ← dumpText env (.string v)
      pure (str "\"" ++ name ++ "\":" ++ text ++ ",")
  | none => pure []

/-- `finish_body`: the authenticator's response is spliced in as it stands. -/
def finishBody (stateToken : Str) (credentialName : Option Str) (response operation : Str)
    (setupToken : Option Str) : Except Exc Str :=
  let trimmed := response.dropWhile isSpace
  match env.parse trimmed with
  | none =>
      .error (.auth (operation ++ str ": the authenticator response string is not valid JSON. " ++
        "Pass the platform's response JSON verbatim (CONTRACT.md §24.6a)"))
  | some (.object _) => do
      let setup ← textMember env "setup_token" setupToken
      let state ← textMember env "state_token" (some stateToken)
      let name ← textMember env "credential_name" credentialName
      pure (str "\x7b" ++ setup ++ state ++ name ++ "\"response\":" ++ trimmed ++ "\x7d")
  | some _ =>
      .error (.auth (operation ++ str ": the authenticator response must be a JSON object " ++
        "(CONTRACT.md §24.6a)"))

/-- What `finish_login` makes of a `2xx`. -/
def readPasskey (body : Str) : Except Exc WebauthnLoginResult :=
  match env.parse body with
  | some (.object members) => do
      let j := Json.object members
      let accessToken ← liftJson (j.valueString "access_token" [])
      let refreshToken ← liftJson (j.valueString "refresh_token" [])
      let sessionId ← liftJson (j.valueString "session_id" [])
      let expiresIn ← liftJson (j.valueInt "expires_in" 0)
      pure ⟨accessToken, refreshToken, sessionId, expiresIn⟩
  | _ => .error (.network "webauthn finish: response body is not a JSON object" "malformed_body")

/-- `finish_login`, the tail of both authentication ceremonies. -/
def finishLogin (path stateToken response operation : Str) : Prog Impl Exc WebauthnLoginResult := do
  ensureOpen
  let body ← Prog.lift (finishBody env stateToken none response operation none)
  clearMemo
  let resp ← post env path body
  let result ← Prog.lift (readPasskey env resp.body)
  Prog.modify Impl.adoptPasskey
  pure result

def webauthnAuthenticateFinish (stateToken response : Str) : Prog Impl Exc WebauthnLoginResult :=
  finishLogin env "/api/v1/auth/webauthn/authenticate/finish" stateToken response
    "webauthn_authenticate_finish"

def webauthnDiscoverableFinish (stateToken response : Str) : Prog Impl Exc WebauthnLoginResult :=
  finishLogin env "/api/v1/auth/webauthn/authenticate/discoverable/finish" stateToken response
    "webauthn_discoverable_finish"

/-- `webauthn_setup_register_finish`: sent without the session's cookies. -/
def webauthnSetupRegisterFinish (setupToken stateToken credentialName response : Str) :
    Prog Impl Exc LoginResult := do
  ensureOpen
  if credentialName = [] then
    throw (.auth "webauthn_setup_register_finish needs a credential name")
  else do
    clearMemo
    let body ← Prog.lift (finishBody env stateToken (some credentialName) response
      "webauthn_setup_register_finish" (some setupToken))
    let s ← Prog.read
    let resp ← sendRaw env
      { buildRequest env s "POST" "/api/v1/auth/webauthn/setup/register/finish" body with
        noStoredCookies := true }
    let resp ← orRaise env resp
    let result ← Prog.lift (readSetup env resp.body)
    Prog.modify fun s => s.adoptUser result.user
    pure result

/-! ### Federation -/

/-- `opt_string`: a string member that is not empty. -/
def optString (j : Json) (key : Str) : Option Str :=
  match j.stringMember? key with
  | some [] => none
  | other => other

/-- `opt_int`. -/
def optInt (j : Json) (key : Str) : Option Int := (j.find? key).bind Json.int64?

/-- `parse_or_object`. -/
def parseOrObject (body : Str) : Json := (env.parse body).getD (.object [])

/-- The reading half of `parse_federation_session`. -/
def readFederation (context : Str) (j : Json) : Except Exc SsoCompleteResult :=
  match optString j "user_id", optString j "session_id" with
  | some userId, some sessionId =>
      .ok ⟨userId, sessionId, (optInt j "expires_in").getD 0, optString j "redirect_uri"⟩
  | _, _ =>
      .error (.network (context ++ ": malformed SsoLoginSuccessResponse") "malformed_body")

/-- The three completions of a federated login. -/
def completeFederation (path context : Str) (request : Json) :
    Prog Impl Exc SsoCompleteResult := do
  ensureOpen
  clearMemo
  let body ← Prog.lift (dumpText env request)
  let resp ← execute env "POST" path body false
  let result ← Prog.lift (readFederation context (parseOrObject env resp.body))
  Prog.modify Impl.adoptFederation
  pure result

def ssoComplete (code state : Str) : Prog Impl Exc SsoCompleteResult :=
  completeFederation env "/api/v1/auth/federation/oidc/callback" "sso complete"
    (.object [("code", .string code), ("state", .string state)])

def ssoCompleteOauth2 (code state : Str) : Prog Impl Exc SsoCompleteResult :=
  completeFederation env "/api/v1/auth/federation/oauth2/callback" "sso complete oauth2"
    (.object [("code", .string code), ("state", .string state)])

def ssoCompleteHandoff (code : Str) : Prog Impl Exc SsoCompleteResult :=
  completeFederation env "/api/v1/auth/federation/handoff" "sso complete handoff"
    (.object [("code", .string code)])

/-! ### The device -/

/-- The request of `authenticate_device`: no body, no cookie, no bearer. -/
def deviceRequest (s : Impl) : HttpRequest where
  method := "POST"
  url := env.baseUrl ++ "/api/v1/auth/device"
  headers :=
    [(str "Accept", str "application/json")] ++ header "X-Axiam-Tenant" s.actingTenantId ++
      [(str "X-Tenant-ID", env.tenantHeader)]
  noStoredCookies := true

/-- What `authenticate_device` makes of a `2xx`. -/
def readDeviceAuth (body : Str) : Except Exc DeviceAuth :=
  let j := (env.parse body).getD .null
  match j.stringMember? "access_token" with
  | none | some [] =>
      .error (.network ("authenticate_device: the server's 200 body is not a well-formed " ++
        "DeviceAuth (CONTRACT.md §6.1 rule 6 / CONTRACT 1.52 N4.2 (C-12)) -- no access_token, " ++
        "or an empty one; this client's state is unchanged") "malformed_body")
  | some accessToken => do
      let tokenType ← liftJson (j.valueString "token_type" [])
      let expiresIn ← liftJson (j.valueInt "expires_in" 0)
      pure ⟨accessToken, tokenType, expiresIn⟩

/-- `authenticate_device`. -/
def authenticateDevice : Prog Impl Exc DeviceAuth := do
  ensureOpen
  if env.presentsClientCertificate = false then
    throw (.auth ("authenticate_device: this client was not built with with_client_cert() " ++
      "(CONTRACT.md §6.1 rule 7) — there is no certificate for the server to authenticate, " ++
      "so this call is refused client-side rather than sent"))
  else do
    clearMemo
    let s ← Prog.read
    let resp ← sendRaw env (deviceRequest env s)
    let resp ← orRaise env resp
    let result ← Prog.lift (readDeviceAuth env resp.body)
    Prog.modify fun s => s.adoptDevice result.accessToken
    pure result

/-! ### Ending a session -/

/-- `refresh`. -/
def refresh : Prog Impl Exc Int := do
  ensureOpen
  doSingleFlightRefresh env

/-- The request of `logout`; an `AxiamError` is no reason not to sign out. -/
def requestLogout : Prog Impl Exc Unit :=
  tryCatch
    (do
      let _ ← execute env "POST" "/api/v1/auth/logout" "\x7b\x7d" false
      pure ())
    fun e => if e.isAxiam then pure () else throw e

/-- `logout`. -/
def logout : Prog Impl Exc Unit := do
  ensureOpen
  clearMemo
  requestLogout env
  Prog.modify Impl.signOut

/-- `close`: idempotent, and no request is issued. -/
def close : Prog Impl Exc Unit := do
  let s ← Prog.read
  if s.closed then pure () else Prog.modify Impl.shutDown

end

end Axiam.Client
