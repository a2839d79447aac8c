import Axiam.Client.Login
import Axiam.Webauthn.RawMember

/-!
# Factors, passkeys and registration records

The operations around an account that open no session by themselves (`src/account.cpp`,
`src/webauthn.cpp`, `src/client.cpp`): enrolling a second factor, the first halves of the passkey
ceremonies, and sealing an OPAQUE registration record.
-/

namespace Axiam.Client

open Axiam.Lib

structure MfaEnrollment where
  secretBase32 : Str
  totpUri : Str
  deriving DecidableEq

structure WebauthnChallenge where
  challengeJson : Str
  stateToken : Str
  deriving DecidableEq

structure WebauthnCredential where
  id : Str
  credentialId : Str
  name : Str
  credentialType : Str
  createdAt : Str
  lastUsedAt : Option Str
  deriving DecidableEq

structure WebauthnWorkspace where
  orgId : Option Str := none
  orgSlug : Option Str := none
  tenantId : Option Str := none
  tenantSlug : Option Str := none
  deriving DecidableEq

structure OpaqueEnrollment where
  opaqueSession : Str
  registrationRecord : Str
  deriving DecidableEq

/-- The native library's half of a registration. -/
structure RegistrationExchange where
  /-- The registration request for a password, or what it throws. -/
  start : List HttpRequest → Str → Except Exc Str
  /-- The record for a password, a response and the cost named, or what it throws. -/
  finish : List HttpRequest → Str → Str → OpaqueKsfParams → Except Exc Str

/-! ## Reading the answers -/

section

variable (env : Env)

/-- `read_enrollment`. -/
def readEnrollment (body : Str) : Except Exc MfaEnrollment :=
  match env.parse body with
  | some (.object members) => do
      let j := Json.object members
      let secretBase32 ← liftJson (j.valueString "secret_base32" [])
      let totpUri ← liftJson (j.valueString "totp_uri" [])
      pure ⟨secretBase32, totpUri⟩
  | _ => .error (.network "mfa enrolment: response body is not a JSON object" "malformed_body")

/-- What `mfa_confirm` makes of a `2xx`: the server's answer, not the status. -/
def readConfirmed (body : Str) : Except JsonError Bool :=
  match env.parse body with
  | none => pure false
  | some j => j.valueBool "mfa_enabled" false

/-- What a `*_start` makes of a `2xx`. -/
def readChallengeBody (body : Str) : Except Exc WebauthnChallenge :=
  match env.parse body with
  | some (.object members) =>
      .ok ⟨(Webauthn.rawMember body "challenge").getD "\x7b\x7d",
        ((Json.object members).stringMember? "state_token").getD []⟩
  | _ => .error (.network "webauthn start: response body is not a JSON object" "malformed_body")

/-- What `webauthn_register_finish` makes of its answer. -/
def readCredential (resp : HttpResponse) : Except Exc WebauthnCredential :=
  if resp.status = 403 then
    .error (.axiam (.authz (str "webauthn_register_finish: " ++
      ((env.parse resp.body).bind fun j => j.stringMember? "message").getD
        "the tenant's attestation policy rejected this authenticator") none none))
  else do
    requireSuccess env resp
    match env.parse resp.body with
    | some (.object members) => do
        let j := Json.object members
        let id ← liftJson (j.valueString "id" [])
        let credentialId ← liftJson (j.valueString "credential_id" [])
        let name ← liftJson (j.valueString "name" [])
        let credentialType ← liftJson (j.valueString "credential_type" [])
        let createdAt ← liftJson (j.valueString "created_at" [])
        pure ⟨id, credentialId, name, credentialType, createdAt, j.stringMember? "last_used_at"⟩
    | _ => .error (.network "webauthn register/finish: response body is not a JSON object"
        "malformed_body")

/-! ## Enrolling a factor -/

/-- `mfa_enroll`. -/
def mfaEnroll : Prog Impl Exc MfaEnrollment := do
  ensureOpen
  let resp ← post env "/api/v1/auth/mfa/enroll" "\x7b\x7d"
  Prog.lift (readEnrollment env resp.body)

/-- `mfa_confirm`. -/
def mfaConfirm (totpCode : Str) : Prog Impl Exc Bool := do
  ensureOpen
  let body ← Prog.lift (dumpText env (.object [("totp_code", .string totpCode)]))
  let resp ← post env "/api/v1/auth/mfa/confirm" body
  Prog.lift (liftJson (readConfirmed env resp.body))

/-- `mfa_setup_enroll`. -/
def mfaSetupEnroll (setupToken : Str) : Prog Impl Exc MfaEnrollment := do
  ensureOpen
  let body ← Prog.lift (dumpText env (.object [("setup_token", .string setupToken)]))
  let resp ← post env "/api/v1/auth/mfa/setup/enroll" body
  Prog.lift (readEnrollment env resp.body)

/-! ## Passkey ceremonies -/

/-- The request of a `*_start`: whether it withholds cookies is what the ceremony says. -/
def startRequest (s : Impl) (path body : Str) (noStoredCookies : Bool) : HttpRequest :=
  { buildRequest env s "POST" path body with noStoredCookies := noStoredCookies }

/-- `start`. -/
def startCeremony (path body : Str) (noStoredCookies : Bool) : Prog Impl Exc WebauthnChallenge := do
  let s ← Prog.read
  let resp ← sendRaw env (startRequest env s path body noStoredCookies)
  let resp ← orRaise env resp
  Prog.lift (readChallengeBody env resp.body)

/-- `require_session`: a cookie session. -/
def requireSession (operation : Str) : Prog Impl Exc Unit := do
  let s ← Prog.read
  if s.session then pure ()
  else throw (.auth (operation ++ str " requires an authenticated session: enrol a passkey while " ++
    "signed in (CONTRACT.md §24.1)"))

def webauthnRegisterStart : Prog Impl Exc WebauthnChallenge := do
  ensureOpen
  requireSession "webauthn_register_start"
  startCeremony env "/api/v1/auth/webauthn/register/start" "\x7b\x7d" false

/-- `webauthn_register_finish`. -/
def webauthnRegisterFinish (stateToken credentialName response : Str) :
    Prog Impl Exc WebauthnCredential := do
  ensureOpen
  requireSession "webauthn_register_finish"
  if credentialName = [] then throw (.auth "webauthn_register_finish needs a credential name")
  else do
    let body ← Prog.lift (finishBody env stateToken (some credentialName) response
      "webauthn_register_finish" none)
    let resp ← sendBuilt env "POST" "/api/v1/auth/webauthn/register/finish" body
    Prog.lift (readCredential env resp)

def webauthnAuthenticateStart (challengeToken : Str) : Prog Impl Exc WebauthnChallenge := do
  ensureOpen
  if challengeToken = [] then
    throw (.auth ("webauthn_authenticate_start needs the challenge token from a login that " ++
      "answered mfa_required (CONTRACT.md §24.2)"))
  else do
    let body ← Prog.lift (dumpText env (.object [("challenge_token", .string challengeToken)]))
    startCeremony env "/api/v1/auth/webauthn/authenticate/start" body false

/-- `workspace_body`: one form for each level, the client's own where none is passed. -/
def workspaceBody (workspace : WebauthnWorkspace) : Except Exc Json :=
  let (orgId, orgSlug) :=
    if workspace.orgId.isNone ∧ workspace.orgSlug.isNone then (env.orgId, env.orgSlug)
    else (workspace.orgId, workspace.orgSlug)
  let org := match orgId, orgSlug with
    | some id, _ => some (str "org_id", Json.string id)
    | none, some slug => some (str "org_slug", Json.string slug)
    | none, none => none
  let tenant := match workspace.tenantId, workspace.tenantSlug, env.tenantId with
    | some id, _, _ => (str "tenant_id", Json.string id)
    | none, some slug, _ => (str "tenant_slug", Json.string slug)
    | none, none, some id => (str "tenant_id", Json.string id)
    | none, none, none => (str "tenant_slug", Json.string (env.tenantSlug.getD []))
  match org with
  | some org => .ok (.object [org, tenant])
  | none =>
      .error (.auth ("webauthn_discoverable_start needs an organization: build the client with " ++
        "one, or pass it in the workspace argument (CONTRACT.md §24.1)"))

def webauthnDiscoverableStart (workspace : WebauthnWorkspace) :
    Prog Impl Exc WebauthnChallenge := do
  ensureOpen
  let workspace ← Prog.lift (workspaceBody env workspace)
  let body ← Prog.lift (dumpText env workspace)
  startCeremony env "/api/v1/auth/webauthn/authenticate/discoverable/start" body false

/-- `webauthn_setup_register_start`: the setup token is the credential. -/
def webauthnSetupRegisterStart (setupToken : Str) : Prog Impl Exc WebauthnChallenge := do
  ensureOpen
  let body ← Prog.lift (dumpText env (.object [("setup_token", .string setupToken)]))
  startCeremony env "/api/v1/auth/webauthn/setup/register/start" body true

/-! ## Registration records -/

/-- The body of `register/start`: a principal tenant is named by id, and then no slug is. -/
def registrationBody (request : Str) (principal : Option Str) : Json :=
  match principal with
  | some tenant =>
      .object (member "org_id" env.orgId ++ member "org_slug" env.orgSlug ++
        member "registration_request" (some request) ++ member "tenant_id" (some tenant))
  | none =>
      .object (member "org_id" env.orgId ++ member "org_slug" env.orgSlug ++
        member "registration_request" (some request) ++ member "tenant_id" env.tenantId ++
        member "tenant_slug" env.tenantSlug)

variable (exchange : RegistrationExchange)

/-- `enroll`, once the request is there. -/
def sealRecord (password : Str) (body : Json) : Prog Impl Exc OpaqueEnrollment := do
  let body ← Prog.lift (dumpText env body)
  let resp ← sendBuilt env "POST" "/api/v1/auth/opaque/register/start" body
  let started ← Prog.lift (readOpaqueStart env "register/start" resp)
  let response := jsonStr started "registration_response"
  if response = [] then
    throw (.network "OPAQUE: register/start returned no `registration_response`" "opaque_malformed")
  else do
    let s ← Prog.read
    let record ← Prog.lift (exchange.finish s.sent password response (readKsf started))
    pure ⟨jsonStr started "opaque_session", record⟩

/-- `enroll`. -/
def enroll (password : Str) (principal : Option Str) : Prog Impl Exc OpaqueEnrollment := do
  ensureOpen
  let s ← Prog.read
  let request ← Prog.lift (exchange.start s.sent password)
  sealRecord env exchange password (registrationBody env request principal)

def opaqueEnrollment (password : Str) : Prog Impl Exc OpaqueEnrollment :=
  enroll env exchange password none

/-- `opaque_enrollment_for_self`: never against the acting tenant. -/
def opaqueEnrollmentForSelf (password : Str) : Prog Impl Exc OpaqueEnrollment := do
  let s ← Prog.read
  match s.principalTenantId with
  | none =>
      throw (.network ("OPAQUE: no principal tenant is known yet — sign in before building a " ++
        "registration record for your own password") "opaque_no_principal_tenant")
  | some tenant => enroll env exchange password (some tenant)

end

end Axiam.Client
