import Axiam.Client.Decisions
import Axiam.Core.JsonDump
import Axiam.Lib.Journal
import Axiam.Oidc.IdpHint

/-!
# The UMA surface of a client

The Protection API and the ticket grant (`src/client.cpp`): a discovery document that is kept for
five minutes, the calls a resource server makes with its own token at the endpoints the document
names, and the grant that spends a ticket.
-/

namespace Axiam.Uma

open Axiam.Lib Axiam.Lib.Prog Axiam.Client Axiam.Memo Uri

/-- `UmaConfiguration`. -/
structure UmaConfiguration where
  issuer : Str
  tokenEndpoint : Str
  permissionEndpoint : Str
  resourceRegistrationEndpoint : Str
  permissionTicketLifetime : Option Int
  deriving DecidableEq

/-- `UmaResourceSet`. -/
structure UmaResourceSet where
  id : Option Str
  name : Str
  type : Option Str
  resourceScopes : List Str
  deriving DecidableEq

/-- `UmaRequestedPermission`. -/
structure UmaRequestedPermission where
  resourceId : Str
  resourceScopes : List Str
  deriving DecidableEq

/-- `RequestingPartyToken`: a refresh token has no member here. -/
structure RequestingPartyToken where
  accessToken : Str
  tokenType : Str
  expiresIn : Int
  deriving DecidableEq

/-- `UmaExchangeTicketParams`, with the credentials in it. -/
structure UmaExchangeTicketParams where
  ticket : Str
  claimToken : Str
  clientId : Str
  clientSecret : Str
  tenantId : Option Str := none
  deriving DecidableEq

def kUmaTicketGrantType : Str := "urn:ietf:params:oauth:grant-type:uma-ticket"

def kUmaClaimTokenFormat : Str := "urn:ietf:params:oauth:token-type:access_token"

/-- A client with the document it keeps. -/
structure UmaClient where
  impl : Impl := {}
  umaConfig : Option UmaConfiguration := none
  umaConfigExpiresAt : Int := 0

/-- A program of the client alone. -/
def onImpl {α : Type} : Prog Impl Exc α → Prog UmaClient Exc α :=
  Prog.zoom UmaClient.impl fun s t => { t with impl := s }

/-! ## What goes over the wire -/

/-- `string_array`: what is no string is skipped. -/
def stringArray : Json → List Str
  | .array items => items.filterMap Json.string?
  | _ => []

def listJson (items : List Str) : Json := .array (items.map .string)

/-- `resource_set_from_wire`. -/
def resourceSetFromWire (j : Json) : Except Exc UmaResourceSet :=
  match j.stringMember? "name" with
  | none => .error (.network "uma: malformed ResourceSet (missing name)" "malformed_body")
  | some name => .ok {
      id := optString j "_id"
      name := name
      type := optString j "type"
      resourceScopes := ((j.find? "resource_scopes").map stringArray).getD [] }

/-- `resource_set_to_wire`: the scopes are always there, a type that is empty is not. -/
def resourceSetToWire (name : Str) (type : Option Str) (scopes : List Str) : Json :=
  .object ([(str "name", .string name), (str "resource_scopes", listJson scopes)] ++
    match type with
    | none | some [] => []
    | some t => [(str "type", .string t)])

/-- The body of `uma_request_ticket`. -/
def permissionsJson (permissions : List UmaRequestedPermission) : Json :=
  .array (permissions.map fun permission => .object
    [(str "resource_id", .string permission.resourceId),
      (str "resource_scopes", listJson permission.resourceScopes)])

/-- The document of a discovery: three endpoints, each a string. -/
def readConfiguration (j : Json) : Except Exc UmaConfiguration :=
  match j.stringMember? "token_endpoint", j.stringMember? "permission_endpoint",
      j.stringMember? "resource_registration_endpoint" with
  | some token, some permission, some registration => do
      let issuer ← liftJson (j.valueString "issuer" [])
      pure {
        issuer := issuer
        tokenEndpoint := token
        permissionEndpoint := permission
        resourceRegistrationEndpoint := registration
        permissionTicketLifetime := optInt j "permission_ticket_lifetime" }
  | _, _, _ => .error (.network
      "uma discovery: missing token/permission/resource_registration endpoint" "malformed_body")

/-- The fields of the grant, in their order. -/
def ticketFields (params : UmaExchangeTicketParams) : List (Str × Str) :=
  [(str "grant_type", kUmaTicketGrantType), (str "ticket", params.ticket),
    (str "claim_token", params.claimToken), (str "claim_token_format", kUmaClaimTokenFormat),
    (str "client_id", params.clientId), (str "client_secret", params.clientSecret)]

/-- The form of the grant: the values are encoded, the keys are as they are. -/
def ticketForm (params : UmaExchangeTicketParams) : Str :=
  (ticketFields params).foldl (fun form field =>
    (if form = [] then [] else form ++ str "&") ++ field.1 ++ str "=" ++ urlEncode field.2) []

/-- Where the grant goes: the tenant is put behind the query the endpoint has. -/
def ticketUrl (endpoint tenant : Str) : Str :=
  endpoint ++ (if 63 ∈ endpoint then str "&" else str "?") ++ str "tenant_id=" ++ urlEncode tenant

/-! ## The operations -/

section

variable (env : Env)

/-- The document from the server, kept for five minutes. -/
def fetchConfiguration : Prog UmaClient Exc UmaConfiguration := do
  let resp ← onImpl (sendBuilt env "GET" "/.well-known/uma2-configuration" [])
  let resp ← onImpl (orRaise env resp)
  let cfg ← Prog.lift (readConfiguration (parseOrObject env resp.body))
  let t ← onImpl (now env)
  Prog.modify fun c =>
    { c with umaConfig := some cfg, umaConfigExpiresAt := t + milliseconds 300000 }
  pure cfg

/-- `uma_discover`: the clock is read only when there is a document to be too old. -/
def umaDiscover : Prog UmaClient Exc UmaConfiguration := do
  onImpl ensureOpen
  let c ← Prog.read
  match c.umaConfig with
  | none => fetchConfiguration env
  | some cfg => do
      let t ← onImpl (now env)
      if t < c.umaConfigExpiresAt then pure cfg else fetchConfiguration env

/-- The request of `uma_protection_request`. -/
def protectionRequest (method url pat body : Str) : HttpRequest where
  method := method
  url := url
  headers :=
    [(str "Accept", str "application/json"), (str "Authorization", str "Bearer " ++ pat)] ++
      header "Content-Type" (if body = [] then none else some (str "application/json")) ++
      [(str "X-Tenant-ID", env.tenantHeader)]
  body := body

/-- `uma_protection_request`. -/
def umaProtectionRequest (method url pat body : Str) : Prog Impl Exc HttpResponse := do
  ensureOpen
  if pat = [] then throw (.auth ("the UMA Protection API requires a PAT — a client-credentials " ++
    "token carrying the uma_protection scope; this SDK does not fall back to its own session " ++
    "(CONTRACT.md §20.2 rule 1)"))
  else do
    let resp ← sendRaw env (protectionRequest env method url pat body)
    orRaise env resp

/-- A program that needs the document. -/
def withDocument {α : Type} (k : UmaConfiguration → Prog Impl Exc α) : Prog UmaClient Exc α := do
  let cfg ← umaDiscover env
  onImpl (k cfg)

/-- A resource set sent, and the one that came back. -/
def sendResource (method url pat body : Str) : Prog Impl Exc UmaResourceSet := do
  let resp ← umaProtectionRequest env method url pat body
  Prog.lift (resourceSetFromWire (parseOrObject env resp.body))

def umaRegisterResource (pat name : Str) (type : Option Str) (scopes : List Str) :
    Prog UmaClient Exc UmaResourceSet :=
  withDocument env fun cfg => do
    let body ← Prog.lift (dumpText env (resourceSetToWire name type scopes))
    sendResource env "POST" cfg.resourceRegistrationEndpoint pat body

/-- Where one resource is. -/
def resourceUrl (cfg : UmaConfiguration) (id : Str) : Str :=
  cfg.resourceRegistrationEndpoint ++ str "/" ++ urlEncode id

def umaReadResource (pat id : Str) : Prog UmaClient Exc UmaResourceSet :=
  withDocument env fun cfg => sendResource env "GET" (resourceUrl cfg id) pat []

def umaUpdateResource (pat id name : Str) (type : Option Str) (scopes : List Str) :
    Prog UmaClient Exc UmaResourceSet :=
  withDocument env fun cfg => do
    let body ← Prog.lift (dumpText env (resourceSetToWire name type scopes))
    sendResource env "PUT" (resourceUrl cfg id) pat body

def umaDeleteResource (pat id : Str) : Prog UmaClient Exc Unit :=
  withDocument env fun cfg => do
    let _ ← umaProtectionRequest env "DELETE" (resourceUrl cfg id) pat []
    pure ()

def umaListResources (pat : Str) : Prog UmaClient Exc (List Str) :=
  withDocument env fun cfg => do
    let resp ← umaProtectionRequest env "GET" cfg.resourceRegistrationEndpoint pat []
    let j := parseOrObject env resp.body
    if j.isArray then pure (stringArray j)
    else throw (.network "uma list resources: body is not a JSON array" "malformed_body")

/-- A ticket that was minted. -/
def readTicket (j : Json) : Except Exc Str :=
  match optString j "ticket" with
  | some ticket => .ok ticket
  | none => .error (.network "uma request ticket: malformed PermissionTicketResponse"
      "malformed_body")

def umaRequestTicket (pat : Str) (permissions : List UmaRequestedPermission) :
    Prog UmaClient Exc Str :=
  withDocument env fun cfg => do
    let body ← Prog.lift (dumpText env (permissionsJson permissions))
    let resp ← umaProtectionRequest env "POST" cfg.permissionEndpoint pat body
    Prog.lift (readTicket (parseOrObject env resp.body))

/-- The tenant of a grant. -/
def ticketTenant (params : UmaExchangeTicketParams) : Str :=
  params.tenantId.getD (env.tenantId.getD [])

/-- What a grant is refused for before any request. -/
def checkExchange (params : UmaExchangeTicketParams) : Except Exc Unit :=
  if params.ticket = [] then
    .error (.auth "the UMA ticket grant requires a ticket (CONTRACT.md §20.1)")
  else if params.claimToken = [] then
    .error (.auth ("the UMA ticket grant requires a claim_token naming the requesting party; it " ++
      "is never defaulted (CONTRACT.md §20.2 rule 2)"))
  else if params.clientId = [] ∨ params.clientSecret = [] then
    .error (.auth ("the UMA ticket grant is a token-endpoint grant and requires " ++
      "confidential-client credentials (CONTRACT.md §20.1)"))
  else if looksLikeUuid (ticketTenant env params) = false then
    .error (.auth ("the UMA ticket grant requires a tenant_id UUID for the /oauth2 query " ++
      "parameter; a tenant slug cannot be substituted (CONTRACT.md §12.3 rule 4)"))
  else .ok ()

/-- The one request of a grant. -/
def ticketRequest (cfg : UmaConfiguration) (params : UmaExchangeTicketParams) : HttpRequest where
  method := "POST"
  url := ticketUrl cfg.tokenEndpoint (ticketTenant env params)
  headers := [(str "Accept", str "application/json"),
    (str "Content-Type", str "application/x-www-form-urlencoded"),
    (str "X-Tenant-ID", env.tenantHeader)]
  body := ticketForm params
  sessionless := true

/-- A grant that was refused: by its code, unless the answer is a redirection. -/
def refuseExchange (resp : HttpResponse) : Exc :=
  let j := parseOrObject env resp.body
  match if 300 ≤ resp.status ∧ resp.status < 400 then none else optString j "error" with
  | some code => .axiam (.oauthProtocol (str "uma ticket exchange refused: " ++ code) code
      (j.stringMember? "error_description") none none)
  | none => raiseForStatus env.parse resp

/-- The token of a grant. -/
def readToken (j : Json) : Except Exc RequestingPartyToken :=
  match optString j "access_token" with
  | none => .error (.network
      "uma ticket exchange: malformed TokenResponse (missing access_token)" "malformed_body")
  | some accessToken => do
      let tokenType ← liftJson (j.valueString "token_type" "Bearer")
      let expiresIn ← liftJson (j.valueInt "expires_in" 0)
      pure ⟨accessToken, tokenType, expiresIn⟩

def umaExchangeTicket (params : UmaExchangeTicketParams) :
    Prog UmaClient Exc RequestingPartyToken := do
  onImpl ensureOpen
  Prog.lift (checkExchange env params)
  withDocument env fun cfg => do
    let resp ← sendRaw env (ticketRequest env cfg params)
    if resp.isSuccess then Prog.lift (readToken (parseOrObject env resp.body))
    else throw (refuseExchange env resp)

end

/-! ## Calls -/

/-- A call of the surface, or any other call of the client. -/
inductive Call where
  | discover
  | registerResource (pat name : Str) (type : Option Str) (scopes : List Str)
  | readResource (pat id : Str)
  | updateResource (pat id name : Str) (type : Option Str) (scopes : List Str)
  | deleteResource (pat id : Str)
  | listResources (pat : Str)
  | requestTicket (pat : Str) (permissions : List UmaRequestedPermission)
  | exchangeTicket (params : UmaExchangeTicketParams)
  | other (op : Client.Op)

/-- What a call returned. -/
inductive Answered where
  | configuration (cfg : UmaConfiguration)
  | resource (resource : UmaResourceSet)
  | resources (ids : List Str)
  | ticket (ticket : Str)
  | token (token : RequestingPartyToken)
  | done
  | other (reply : Client.Reply)

/-- A program with its result as an answer. -/
def answering {α : Type} (wrap : α → Answered) (m : Prog UmaClient Exc α) :
    Prog UmaClient Exc Answered := do
  let a ← m
  pure (wrap a)

/-- The call as the client performs it. -/
def Call.perform (env : Env) : Call → Prog UmaClient Exc Answered
  | .discover => answering .configuration (umaDiscover env)
  | .registerResource pat name type scopes =>
      answering .resource (umaRegisterResource env pat name type scopes)
  | .readResource pat id => answering .resource (umaReadResource env pat id)
  | .updateResource pat id name type scopes =>
      answering .resource (umaUpdateResource env pat id name type scopes)
  | .deleteResource pat id => answering (fun _ => .done) (umaDeleteResource env pat id)
  | .listResources pat => answering .resources (umaListResources env pat)
  | .requestTicket pat permissions => answering .ticket (umaRequestTicket env pat permissions)
  | .exchangeTicket params => answering .token (umaExchangeTicket env params)
  | .other op => answering .other (onImpl (op.perform env))

/-- A call and what it came to. -/
structure Event where
  call : Call
  outcome : Except Exc Answered

/-- One call on a client. -/
def Step (env : Env) (s : UmaClient) (e : Event) (t : UmaClient) : Prop :=
  e.call.perform env s = (e.outcome, t)

/-! ## The document that is kept -/

section

variable (env : Env)

/-- Among the requests is one for the document, answered with it. -/
def Served (sent : List HttpRequest) (cfg : UmaConfiguration) : Prop :=
  ∃ before req after resp, sent = before ++ req :: after ∧ req.method = str "GET" ∧
    req.url = env.baseUrl ++ str "/.well-known/uma2-configuration" ∧
    env.transport before req = .ok resp ∧ resp.transportError = [] ∧ resp.isSuccess = true ∧
    readConfiguration (parseOrObject env resp.body) = .ok cfg

/-- The document a client keeps was served to it. -/
def Kept (c : UmaClient) : Prop := ∀ cfg, c.umaConfig = some cfg → Served env c.impl.sent cfg

end

section

variable {env : Env}

theorem Served.mono {sent sent' : List HttpRequest} {cfg : UmaConfiguration}
    (h : Served env sent cfg) (hsent : sent <+: sent') : Served env sent' cfg := by
  obtain ⟨more, rfl⟩ := hsent
  obtain ⟨before, req, after, resp, rfl, hserved⟩ := h
  exact ⟨before, req, after ++ more, resp, by rw [List.append_assoc, List.cons_append], hserved⟩

theorem Kept.grow {c : UmaClient} (h : Kept env c) {s : Impl} (hsent : c.impl.sent <+: s.sent) :
    Kept env { c with impl := s } := fun cfg hcfg => (h cfg hcfg).mono hsent

theorem onImpl_run {α : Type} (m : Prog Impl Exc α) (c : UmaClient) :
    onImpl m c = ((m c.impl).1, { c with impl := (m c.impl).2 }) := rfl

/-- The request for the document. -/
def discoveryRequest (env : Env) (s : Impl) : HttpRequest :=
  buildRequest env s "GET" "/.well-known/uma2-configuration" []

/-- What a discovery does: it sends the request for the document, or nothing, and what it returns
the server has served. -/
structure Discovers (env : Env) (c c' : UmaClient) (r : Except Exc UmaConfiguration) : Prop where
  kept : Kept env c'
  sent : ∃ first, c'.impl.sent = c.impl.sent ++ first ∧
    (first = [] ∨ first = [discoveryRequest env c.impl])
  served : ∀ cfg, r = .ok cfg → Served env c'.impl.sent cfg

theorem fetchConfiguration_discovers {c : UmaClient} (hc : Kept env c) :
    Discovers env c (fetchConfiguration env c).2 (fetchConfiguration env c).1 := by
  have hsent := sendRaw_sent env (discoveryRequest env c.impl) c.impl
  have hfailed : ∀ {s : Impl} {e : Exc}, s.sent = c.impl.sent ++ [discoveryRequest env c.impl] →
      Discovers env c { c with impl := s } (.error e) := fun hs =>
    ⟨hc.grow ⟨_, hs.symm⟩, ⟨_, hs, .inr rfl⟩, nofun⟩
  unfold fetchConfiguration
  rw [bind_run, onImpl_run]
  show Discovers env c _ _
  rcases hraw : sendRaw env (discoveryRequest env c.impl) c.impl with ⟨e | resp, s⟩
  · have hbuilt : sendBuilt env "GET" "/.well-known/uma2-configuration" [] c.impl = (.error e, s) :=
      hraw
    rw [hbuilt]
    rw [hraw] at hsent
    exact hfailed hsent
  have hbuilt : sendBuilt env "GET" "/.well-known/uma2-configuration" [] c.impl = (.ok resp, s) :=
    hraw
  rw [hbuilt]
  rw [hraw] at hsent
  obtain ⟨hanswer, hcompleted, -⟩ := sendRaw_eq_ok hraw
  simp only
  unfold orRaise
  by_cases hsuccess : resp.isSuccess = true
  · rw [if_pos hsuccess, bind_run, onImpl_run]
    show Discovers env c _ _
    simp only [pure_run]
    rw [bind_run, lift_run]
    cases hread : readConfiguration (parseOrObject env resp.body) with
    | error e => exact hfailed hsent
    | ok cfg =>
        have hserved : Served env s.sent cfg :=
          ⟨c.impl.sent, discoveryRequest env c.impl, [], resp, hsent, rfl, rfl, hanswer, hcompleted,
            hsuccess, hread⟩
        refine ⟨fun cfg' hcfg' => ?_, ⟨_, hsent, .inr rfl⟩, fun cfg' hcfg' => ?_⟩
        · cases hcfg'
          exact hserved
        · cases hcfg'
          exact hserved
  · rw [if_neg hsuccess, bind_run, onImpl_run]
    exact hfailed hsent

theorem umaDiscover_discovers {c : UmaClient} (hc : Kept env c) :
    Discovers env c (umaDiscover env c).2 (umaDiscover env c).1 := by
  unfold umaDiscover
  have hkept := ensureOpen_keeps (f := id) c.impl
  rcases hopen : ensureOpen c.impl with ⟨e | _, s⟩
  · have hclosed : onImpl ensureOpen c = (.error e, { c with impl := s }) := by rw [onImpl_run, hopen]
    rw [hopen] at hkept
    obtain rfl : s = c.impl := hkept
    rw [bind_run_error hclosed]
    exact ⟨hc, ⟨[], (List.append_nil _).symm, .inl rfl⟩, nofun⟩
  rw [hopen] at hkept
  obtain rfl : s = c.impl := hkept
  have hopened : onImpl ensureOpen c = (.ok (), c) := by rw [onImpl_run, hopen]
  rw [bind_run_ok hopened, bind_run_ok (read_run c)]
  cases hconfig : c.umaConfig with
  | none => exact fetchConfiguration_discovers hc
  | some cfg =>
      -- the clock is read, and by it the document is or is not too old
      have hread : Kept env { c with impl := (now env c.impl).2 } := hc.grow List.prefix_rfl
      show Discovers env c ((onImpl (now env) >>= _) c).2 ((onImpl (now env) >>= _) c).1
      rw [bind_run_ok (onImpl_run (now env) c)]
      split
      · refine ⟨hread, ⟨[], (List.append_nil _).symm, .inl rfl⟩, fun cfg' hcfg' => ?_⟩
        cases hcfg'
        exact hc _ hconfig
      · obtain ⟨hkept', hsent, hserved⟩ := fetchConfiguration_discovers hread
        exact ⟨hkept', hsent, hserved⟩

end

/-! ## The one request of a call -/

section

variable {env : Env} {p : HttpRequest → Prop}

theorem sendRaw_once {req : HttpRequest} (h : p req) : Writes Impl.sent (sendRaw env req) (Once p) :=
  fun s => ⟨[req], sendRaw_sent env req s, .inr ⟨req, rfl, h⟩⟩

theorem orRaise_sent (resp : HttpResponse) : Keeps Impl.sent (orRaise env resp) :=
  Keeps.ite (Keeps.ret _) (Keeps.raise _)

end

/-- A request in the name of the resource server. -/
structure Protected (pat url : Str) (req : HttpRequest) : Prop where
  url : req.url = url
  named : pat ≠ []
  bearer : req.headers.find? "Authorization" = some (str "Bearer " ++ pat)
  session : req.sessionless = false

/-- The request of a grant: where it goes, that it carries no session and no second identity, and
what the server reads of its form. -/
structure Granting (env : Env) (cfg : UmaConfiguration) (params : UmaExchangeTicketParams)
    (req : HttpRequest) : Prop where
  allowed : checkExchange env params = .ok ()
  url : req.url = ticketUrl cfg.tokenEndpoint (ticketTenant env params)
  sessionless : req.sessionless = true
  alone : req.headers.find? "Authorization" = none ∧ req.headers.find? "X-CSRF-Token" = none ∧
    req.headers.find? "X-Axiam-Tenant" = none
  form : (parameters (some req.body)).map (fun q => (parameterName q, parameterValue q)) =
    ticketFields params

/-- The request that a call makes of a document. -/
def Call.Own (env : Env) (cfg : UmaConfiguration) (req : HttpRequest) : Call → Prop
  | .registerResource pat _ _ _ | .listResources pat =>
      Protected pat cfg.resourceRegistrationEndpoint req
  | .readResource pat id | .updateResource pat id _ _ _ | .deleteResource pat id =>
      Protected pat (resourceUrl cfg id) req
  | .requestTicket pat _ => Protected pat cfg.permissionEndpoint req
  | .exchangeTicket params => Granting env cfg params req
  | .discover | .other _ => False

section

variable {env : Env}

theorem protectionRequest_protected {pat : Str} (method url body : Str) (hpat : pat ≠ []) :
    Protected pat url (protectionRequest env method url pat body) where
  url := rfl
  named := hpat
  bearer := by
    unfold protectionRequest HeaderMap.find?
    rfl
  session := rfl

theorem umaProtectionRequest_once {method url pat body : Str} :
    Writes Impl.sent (umaProtectionRequest env method url pat body) (Once (Protected pat url)) := by
  refine Writes.once_before (ensureOpen_keeps (f := Impl.sent)) fun _ _ _ => ?_
  refine Writes.ite (fun _ => Writes.once_raise _) fun hpat => ?_
  exact Writes.once_after (sendRaw_once (protectionRequest_protected method url body hpat)) orRaise_sent

theorem sendResource_once {method url pat body : Str} :
    Writes Impl.sent (sendResource env method url pat body) (Once (Protected pat url)) :=
  Writes.once_after umaProtectionRequest_once fun _ => Keeps.lift _

/-- The form of fields that are all there is the form of a grant. -/
theorem ticketForm_eq {params : UmaExchangeTicketParams} (hticket : params.ticket ≠ [])
    (hclaim : params.claimToken ≠ []) (hid : params.clientId ≠ []) (hsecret : params.clientSecret ≠ []) :
    ticketForm params = Oidc.Form.str (ticketFields params) := by
  have hkeys : ∀ key ∈ (ticketFields params).map Prod.fst, urlEncode key = key := by
    show ∀ key ∈ [str "grant_type", str "ticket", str "claim_token", str "claim_token_format",
      str "client_id", str "client_secret"], urlEncode key = key
    decide
  have hkey : ∀ field ∈ ticketFields params, urlEncode field.1 = field.1 ∧ field.2 ≠ [] := by
    intro field hfield
    refine ⟨hkeys _ (List.mem_map_of_mem hfield), ?_⟩
    have hformat : kUmaTicketGrantType ≠ [] ∧ kUmaClaimTokenFormat ≠ [] := by decide
    unfold ticketFields at hfield
    simp only [List.mem_cons, List.not_mem_nil, or_false] at hfield
    rcases hfield with rfl | rfl | rfl | rfl | rfl | rfl
    · exact hformat.1
    · exact hticket
    · exact hclaim
    · exact hformat.2
    · exact hid
    · exact hsecret
  unfold ticketForm Oidc.Form.str
  refine List.foldl_ext _ _ _ fun form field hfield => ?_
  obtain ⟨hname, hvalue⟩ := hkey field hfield
  unfold Oidc.Form.add
  rw [if_neg hvalue, hname]

theorem checkExchange_ok {params : UmaExchangeTicketParams} (h : checkExchange env params = .ok ()) :
    params.ticket ≠ [] ∧ params.claimToken ≠ [] ∧ params.clientId ≠ [] ∧ params.clientSecret ≠ [] := by
  unfold checkExchange at h
  split_ifs at h with hticket hclaim hcredentials huuid
  exact ⟨hticket, hclaim, fun hid => hcredentials (.inl hid), fun hs => hcredentials (.inr hs)⟩

theorem ticketRequest_granting (cfg : UmaConfiguration) {params : UmaExchangeTicketParams}
    (h : checkExchange env params = .ok ()) :
    Granting env cfg params (ticketRequest env cfg params) where
  allowed := h
  url := rfl
  sessionless := rfl
  alone := ⟨rfl, rfl, rfl⟩
  form := by
    obtain ⟨hticket, hclaim, hid, hsecret⟩ := checkExchange_ok h
    show (parameters (some (ticketForm params))).map _ = _
    have hpresent : Oidc.present (ticketFields params) = ticketFields params := by
      have hformat : kUmaTicketGrantType ≠ [] ∧ kUmaClaimTokenFormat ≠ [] := by decide
      simp [Oidc.present, ticketFields, hticket, hclaim, hid, hsecret, hformat]
    rw [ticketForm_eq hticket hclaim hid hsecret, Oidc.parameters_str, hpresent, List.map_map]
    refine (List.map_congr_left fun field _ => ?_).trans (List.map_id _)
    exact Prod.ext (Oidc.parameterName_formPair field) (Oidc.parameterValue_formPair field)

/-- What a call does: it sends the request for the document, or nothing, and then at most one
request of its own, by a document that was served. -/
structure Performs (env : Env) (call : Call) (c c' : UmaClient) (r : Except Exc Answered) : Prop where
  kept : Kept env c'
  sent : ∃ first second, c'.impl.sent = c.impl.sent ++ first ++ second ∧
    (first = [] ∨ first = [discoveryRequest env c.impl]) ∧
    ((second = [] ∧ ((∃ e, r = .error e) ∨ call = .discover)) ∨
      ∃ cfg req, second = [req] ∧ Served env (c.impl.sent ++ first) cfg ∧ call.Own env cfg req)

theorem Discovers.threw {call : Call} {c c' : UmaClient} {r : Except Exc UmaConfiguration} {e : Exc}
    (h : Discovers env c c' r) : Performs env call c c' (.error e) := by
  obtain ⟨first, hfirst, hwhat⟩ := h.sent
  exact ⟨h.kept, first, [], by rw [hfirst, List.append_nil], hwhat, .inl ⟨rfl, .inl ⟨e, rfl⟩⟩⟩

/-- A program that needs the document, and sends one request of its own. -/
theorem withDocument_performs {α : Type} {call : Call} {k : UmaConfiguration → Prog Impl Exc α}
    (hk : ∀ cfg, Writes Impl.sent (k cfg) (Once fun req => call.Own env cfg req)) (wrap : α → Answered)
    {c : UmaClient} (hc : Kept env c) :
    Performs env call c (answering wrap (withDocument env k) c).2
      (answering wrap (withDocument env k) c).1 := by
  have hdiscovers := umaDiscover_discovers hc
  unfold answering withDocument
  rcases hdiscover : umaDiscover env c with ⟨e | cfg, c'⟩
  · rw [hdiscover] at hdiscovers
    rw [bind_run_error (bind_run_error hdiscover _)]
    exact hdiscovers.threw
  rw [hdiscover] at hdiscovers
  obtain ⟨first, hfirst, hwhat⟩ := hdiscovers.sent
  obtain ⟨new, hnew, honce⟩ := hk cfg c'.impl
  have hserved := hdiscovers.served cfg rfl
  simp only at hfirst hserved
  have hkept : Kept env { c' with impl := (k cfg c'.impl).2 } := hdiscovers.kept.grow ⟨new, hnew.symm⟩
  have hsent : (k cfg c'.impl).2.sent = c.impl.sent ++ first ++ new := by rw [hnew, hfirst]
  rw [hfirst] at hserved
  have hrun : (umaDiscover env >>= fun cfg => onImpl (k cfg)) c =
      ((k cfg c'.impl).1, { c' with impl := (k cfg c'.impl).2 }) := bind_run_ok hdiscover _
  rcases hbody : (k cfg c'.impl).1 with e | a
  · rw [hbody] at hrun honce
    rw [bind_run_error hrun]
    refine ⟨hkept, first, new, hsent, hwhat, ?_⟩
    rcases honce with ⟨rfl, -⟩ | ⟨req, rfl, hown⟩
    · exact .inl ⟨rfl, .inl ⟨e, rfl⟩⟩
    · exact .inr ⟨cfg, req, rfl, hserved, hown⟩
  · rw [hbody] at hrun honce
    rw [bind_run_ok hrun]
    refine ⟨hkept, first, new, hsent, hwhat, ?_⟩
    rcases honce with ⟨-, e, he⟩ | ⟨req, rfl, hown⟩
    · cases he
    · exact .inr ⟨cfg, req, rfl, hserved, hown⟩

theorem Performs.silent {call : Call} {c : UmaClient} {e : Exc} (hc : Kept env c) :
    Performs env call c c (.error e) :=
  ⟨hc, [], [], by rw [List.append_nil, List.append_nil], .inl rfl, .inl ⟨rfl, .inl ⟨e, rfl⟩⟩⟩

theorem exchangeTicket_performs (params : UmaExchangeTicketParams) {c : UmaClient} (hc : Kept env c) :
    Performs env (.exchangeTicket params) c ((Call.exchangeTicket params).perform env c).2
      ((Call.exchangeTicket params).perform env c).1 := by
  show Performs env _ c (answering .token (umaExchangeTicket env params) c).2
    (answering .token (umaExchangeTicket env params) c).1
  unfold answering umaExchangeTicket
  have hkept := ensureOpen_keeps (f := id) c.impl
  rcases hopen : ensureOpen c.impl with ⟨e | _, s⟩
  · have hclosed : onImpl ensureOpen c = (.error e, { c with impl := s }) := by rw [onImpl_run, hopen]
    rw [hopen] at hkept
    obtain rfl : s = c.impl := hkept
    rw [bind_run_error (bind_run_error hclosed _)]
    exact .silent hc
  rw [hopen] at hkept
  obtain rfl : s = c.impl := hkept
  have hopened : onImpl ensureOpen c = (.ok (), c) := by rw [onImpl_run, hopen]
  rw [bind_run, bind_run_ok hopened]
  cases hcheck : checkExchange env params with
  | error e =>
      -- refused before any request
      rw [bind_run_error (lift_run c _)]
      exact .silent hc
  | ok u =>
      rw [bind_run_ok (lift_run c _), ← bind_run]
      refine withDocument_performs (fun cfg => ?_) .token hc
      refine Writes.once_after (sendRaw_once (ticketRequest_granting cfg hcheck)) fun resp => ?_
      exact Keeps.ite (Keeps.lift _) (Keeps.raise _)

/-- Every call of the surface. -/
theorem Call.perform_performs {call : Call} (hcall : ∀ op, call ≠ .other op) {c : UmaClient}
    (hc : Kept env c) : Performs env call c (call.perform env c).2 (call.perform env c).1 := by
  cases call with
  | discover =>
      have hdiscovers := umaDiscover_discovers hc
      show Performs env _ c (answering .configuration (umaDiscover env) c).2
        (answering .configuration (umaDiscover env) c).1
      unfold answering
      rcases hdiscover : umaDiscover env c with ⟨e | cfg, c'⟩
      · rw [hdiscover] at hdiscovers
        rw [bind_run_error hdiscover]
        exact hdiscovers.threw
      · rw [hdiscover] at hdiscovers
        obtain ⟨first, hfirst, hwhat⟩ := hdiscovers.sent
        rw [bind_run_ok hdiscover]
        exact ⟨hdiscovers.kept, first, [], by rw [List.append_nil]; exact hfirst, hwhat,
          .inl ⟨rfl, .inr rfl⟩⟩
  | registerResource pat name type scopes =>
      refine withDocument_performs (fun cfg => ?_) _ hc
      exact Writes.once_before (Keeps.lift _) fun _ _ _ => sendResource_once
  | readResource pat id => exact withDocument_performs (fun cfg => sendResource_once) _ hc
  | updateResource pat id name type scopes =>
      refine withDocument_performs (fun cfg => ?_) _ hc
      exact Writes.once_before (Keeps.lift _) fun _ _ _ => sendResource_once
  | deleteResource pat id =>
      refine withDocument_performs (fun cfg => ?_) _ hc
      exact Writes.once_after umaProtectionRequest_once fun _ => Keeps.ret _
  | listResources pat =>
      refine withDocument_performs (fun cfg => ?_) _ hc
      exact Writes.once_after umaProtectionRequest_once fun _ => Keeps.ite (Keeps.ret _) (Keeps.raise _)
  | requestTicket pat permissions =>
      refine withDocument_performs (fun cfg => ?_) _ hc
      refine Writes.once_before (Keeps.lift _) fun _ _ _ => ?_
      exact Writes.once_after umaProtectionRequest_once fun _ => Keeps.lift _
  | exchangeTicket params => exact exchangeTicket_performs params hc
  | other op => exact absurd rfl (hcall op)

end

/-! ### Minting -/

/-- A ticket that was minted: by the answer of the permission endpoint of a document that was
served, to a request for these permissions in the name of the resource server. -/
def Minted (env : Env) (pat : Str) (permissions : List UmaRequestedPermission) (c c' : UmaClient)
    (ticket : Str) : Prop :=
  ∃ first cfg req resp, c'.impl.sent = c.impl.sent ++ first ++ [req] ∧
    Served env (c.impl.sent ++ first) cfg ∧ Protected pat cfg.permissionEndpoint req ∧
    dumpText env (permissionsJson permissions) = .ok req.body ∧
    env.transport (c.impl.sent ++ first) req = .ok resp ∧ resp.isSuccess = true ∧
    readTicket (parseOrObject env resp.body) = .ok ticket

theorem umaProtectionRequest_eq_ok {env : Env} {method url pat body : Str} {s t : Impl}
    {resp : HttpResponse} (h : umaProtectionRequest env method url pat body s = (.ok resp, t)) :
    pat ≠ [] ∧ t.sent = s.sent ++ [protectionRequest env method url pat body] ∧
      env.transport s.sent (protectionRequest env method url pat body) = .ok resp ∧
      resp.isSuccess = true := by
  unfold umaProtectionRequest at h
  obtain ⟨_, s', hopen, hrest⟩ := bind_eq_ok.mp h
  obtain rfl : s' = s := by
    have hkept := ensureOpen_keeps (f := id) s
    rw [hopen] at hkept
    exact hkept
  by_cases hpat : pat = []
  · rw [if_pos hpat] at hrest
    cases hrest
  rw [if_neg hpat] at hrest
  obtain ⟨resp', u, hsend, hraise⟩ := bind_eq_ok.mp hrest
  obtain ⟨hanswer, -, hsent⟩ := sendRaw_eq_ok hsend
  unfold orRaise at hraise
  by_cases hsuccess : resp'.isSuccess = true
  · rw [if_pos hsuccess] at hraise
    cases hraise
    exact ⟨hpat, hsent, hanswer, hsuccess⟩
  · rw [if_neg hsuccess] at hraise
    cases hraise

/-- A ticket that a call returns was minted for what the call asked. -/
theorem umaRequestTicket_minted {env : Env} {pat ticket : Str}
    {permissions : List UmaRequestedPermission} {c c' : UmaClient} (hc : Kept env c)
    (h : umaRequestTicket env pat permissions c = (.ok ticket, c')) :
    Minted env pat permissions c c' ticket := by
  unfold umaRequestTicket withDocument at h
  obtain ⟨cfg, d, hdiscover, h⟩ := bind_eq_ok.mp h
  have hdiscovers := umaDiscover_discovers hc
  rw [hdiscover] at hdiscovers
  obtain ⟨first, hfirst, -⟩ := hdiscovers.sent
  have hserved := hdiscovers.served cfg rfl
  simp only at hfirst hserved
  rw [hfirst] at hserved
  rw [onImpl_run, Prod.mk.injEq] at h
  obtain ⟨hok, rfl⟩ := h
  obtain ⟨body, s', hbody, hrest⟩ := bind_eq_ok.mp (Prod.ext hok rfl)
  rw [lift_run, Prod.mk.injEq] at hbody
  obtain ⟨hbody, rfl⟩ := hbody
  obtain ⟨resp, t, hsend, hread⟩ := bind_eq_ok.mp hrest
  rw [lift_run, Prod.mk.injEq] at hread
  obtain ⟨hread, hlast⟩ := hread
  obtain ⟨hpat, hsent, hanswer, hsuccess⟩ := umaProtectionRequest_eq_ok hsend
  refine ⟨first, cfg, protectionRequest env "POST" cfg.permissionEndpoint pat body, resp, ?_, hserved,
    protectionRequest_protected _ _ _ hpat, hbody, ?_, hsuccess, hread⟩
  · exact (congrArg Impl.sent hlast).symm.trans (by rw [hsent, hfirst])
  · rw [← hfirst]
    exact hanswer

/-! ## Runs -/

section

variable {env : Env}

theorem step_kept {c c' : UmaClient} {e : Event} (hc : Kept env c) (hstep : Step env c e c') :
    Kept env c' := by
  have hkept : Kept env (e.call.perform env c).2 := by
    by_cases hcall : ∃ op, e.call = .other op
    · obtain ⟨op, hop⟩ := hcall
      rw [hop]
      show Kept env (answering .other (onImpl (op.perform env)) c).2
      unfold answering
      rw [bind_run_state c fun _ _ => rfl, onImpl_run]
      exact hc.grow (op.perform_sent env c.impl)
    · exact (Call.perform_performs (fun op hop => hcall ⟨op, hop⟩) hc).kept
  have hrun : e.call.perform env c = (e.outcome, c') := hstep
  rwa [hrun] at hkept

variable {start last : UmaClient} (hstart : start.umaConfig = none)
  {trace : List (Transition UmaClient Event)} (hrun : Run (Step env) start trace last)
include hstart hrun

theorem run_performs : ∀ e ∈ trace, (∀ op, e.label.call ≠ .other op) →
    Performs env e.label.call e.pre e.post e.label.outcome := by
  have hnone : Kept env start := fun cfg hcfg => absurd (hstart.symm.trans hcfg) nofun
  refine hrun.forall_steps (fun _ _ _ hc hstep => step_kept hc hstep) ?_ hnone
  intro c e c' hc hstep hcall
  have hperforms := Call.perform_performs hcall hc
  have hrun : e.call.perform env c = (e.outcome, c') := hstep
  rwa [hrun] at hperforms

/-- Over any run of calls, whatever else the client does between them: beside the request for the
document a call sends at most one request, to where a document that the base URL has served sends
it, and a resource server's token goes there alone. -/
theorem run_confined : ∀ e ∈ trace, (∀ op, e.label.call ≠ .other op) →
    ∃ first second, e.post.impl.sent = e.pre.impl.sent ++ first ++ second ∧
      (first = [] ∨ first = [discoveryRequest env e.pre.impl]) ∧ second.length ≤ 1 ∧
      ∀ req ∈ second, ∃ cfg, Served env (e.pre.impl.sent ++ first) cfg ∧
        e.label.call.Own env cfg req := by
  intro e he hcall
  obtain ⟨first, second, hsent, hfirst, hsecond⟩ := (run_performs hstart hrun e he hcall).sent
  refine ⟨first, second, hsent, hfirst, ?_⟩
  rcases hsecond with ⟨rfl, -⟩ | ⟨cfg, req, rfl, hserved, hown⟩
  · exact ⟨Nat.zero_le 1, fun req hreq => absurd hreq List.not_mem_nil⟩
  · refine ⟨Nat.le_refl 1, fun req' hreq' => ?_⟩
    rw [List.mem_singleton.mp hreq']
    exact ⟨cfg, hserved, hown⟩

end

/-! ### A server -/

/-- A server with a document, and a token and a ticket for whoever asks. -/
def exampleEnv : Env where
  baseUrl := "https://as.example"
  tenantHeader := "acme"
  tenantId := some (str "11111111-1111-1111-1111-111111111111")
  parse := tableParser [
    (str "D", .object [(str "permission_endpoint", .string "https://as.example/perm"),
      (str "resource_registration_endpoint", .string "https://as.example/rs"),
      (str "token_endpoint", .string "https://as.example/token")]),
    (str "T", .object [(str "access_token", .string "rpt"), (str "ticket", .string "tkt")])]
  dump := Json.dumpWith fun _ => []
  transport _ req := .ok
    { status := 200, body := if req.method = str "GET" then "D" else "T" }
  clock _ := 0
  opaqueStart _ _ := .ok []
  opaqueFinish _ _ _ _ := .ok []

/-- A call on a new client of that server. -/
def exampleCall (call : Call) : Transition UmaClient Event :=
  ⟨{}, ⟨call, (call.perform exampleEnv {}).1⟩, (call.perform exampleEnv {}).2⟩

theorem exampleStart : UmaClient.umaConfig {} = none := rfl

theorem exampleRun (call : Call) :
    Run (Step exampleEnv) {} [exampleCall call] (exampleCall call).post := .cons rfl (.nil _)

/-- A call for a ticket: beside the request for the document there is one to its endpoint, with the
token of the resource server. -/
theorem example_confined : ∃ first second,
    (exampleCall (.requestTicket "pat" [])).post.impl.sent = first ++ second ∧
      (first = [] ∨ first = [discoveryRequest exampleEnv {}]) ∧ second.length ≤ 1 ∧
      ∀ req ∈ second, ∃ cfg : UmaConfiguration, Protected "pat" cfg.permissionEndpoint req := by
  obtain ⟨first, second, hsent, hfirst, hlength, hsecond⟩ := run_confined exampleStart
    (exampleRun (.requestTicket "pat" [])) _ (List.mem_singleton.mpr rfl) (by rintro op h; cases h)
  refine ⟨first, second, hsent, hfirst, hlength, fun req hreq => ?_⟩
  obtain ⟨cfg, -, hown⟩ := hsecond req hreq
  exact ⟨cfg, hown⟩

/-! ### Tickets -/

/-- The tickets that are read in the forms of requests without a session. -/
def ticketsIn (requests : List HttpRequest) : List Str :=
  requests.flatMap fun req =>
    if req.sessionless then
      ((parameters (some req.body)).filter (parameterName · = str "ticket")).map parameterValue
    else []

/-- The tickets that a call presents. -/
def presented (e : Transition UmaClient Event) : List Str :=
  match e.label.call with
  | .other _ => []
  | _ => ticketsIn (e.post.impl.sent.drop e.pre.impl.sent.length)

/-- The ticket that a call was made with, where the call was not refused at once. -/
def offered (env : Env) (e : Event) : List Str :=
  match e.call with
  | .exchangeTicket params => ((checkExchange env params).toOption.map fun _ => params.ticket).toList
  | _ => []

theorem ticketsIn_granting {env : Env} {cfg : UmaConfiguration} {params : UmaExchangeTicketParams}
    {req : HttpRequest} (h : Granting env cfg params req) : ticketsIn [req] = [params.ticket] := by
  have hread : ((parameters (some req.body)).filter (parameterName · = str "ticket")).map
      parameterValue = ((ticketFields params).filter (·.1 = str "ticket")).map Prod.snd := by
    rw [← h.form, List.filter_map, List.map_map]
    rfl
  unfold ticketsIn
  rw [List.flatMap_singleton, if_pos h.sessionless, hread]
  rfl

section

variable {env : Env}

/-- A call presents the ticket it was made with, or nothing, and then it throws. -/
theorem Performs.presents {e : Transition UmaClient Event} (hcall : ∀ op, e.label.call ≠ .other op)
    (h : Performs env e.label.call e.pre e.post e.label.outcome) :
    presented e = offered env e.label ∨ (presented e = [] ∧ ∃ x, e.label.outcome = .error x) := by
  obtain ⟨first, second, hsent, hfirst, hsecond⟩ := h.sent
  have hpresented : presented e = ticketsIn second := by
    have hdrop : e.post.impl.sent.drop e.pre.impl.sent.length = first ++ second := by
      rw [hsent, List.append_assoc, List.drop_left]
    have hquiet : ticketsIn first = [] := by
      rcases hfirst with rfl | rfl <;> rfl
    have hall : presented e = ticketsIn (first ++ second) := by
      unfold presented
      rw [hdrop]
      split
      · next op hop => exact absurd hop (hcall op)
      · rfl
    have hjoin : ticketsIn (first ++ second) = ticketsIn first ++ ticketsIn second :=
      List.flatMap_append
    rw [hall, hjoin, hquiet, List.nil_append]
  rcases hsecond with ⟨rfl, herror | hdiscover⟩ | ⟨cfg, req, rfl, -, hown⟩
  · exact .inr ⟨hpresented, herror⟩
  · refine .inl (hpresented.trans ?_)
    unfold offered
    rw [hdiscover]
    rfl
  · refine .inl (hpresented.trans ?_)
    have hprotected : ∀ {pat url : Str}, Protected pat url req → ticketsIn [req] = [] := by
      intro pat url hreq
      unfold ticketsIn
      rw [List.flatMap_singleton, hreq.session]
      rfl
    unfold offered
    cases hcase : e.label.call with
    | exchangeTicket params =>
        rw [hcase] at hown
        simp only
        rw [ticketsIn_granting hown, hown.allowed]
        rfl
    | registerResource _ _ _ _ | readResource _ _ | updateResource _ _ _ _ _ | deleteResource _ _
    | listResources _ | requestTicket _ _ =>
        rw [hcase] at hown
        exact hprotected hown
    | discover | other _ =>
        rw [hcase] at hown
        exact hown.elim

variable {start last : UmaClient} (hstart : start.umaConfig = none)
  {trace : List (Transition UmaClient Event)} (hrun : Run (Step env) start trace last)
include hstart hrun

/-- Over any run a ticket is presented at most as often as a call was made with it, in the order of
the calls, and never by a call that is refused before its request; a call that returns has presented
its own, once. -/
theorem run_presents_once :
    (trace.flatMap presented).Sublist (trace.flatMap fun e => offered env e.label) ∧
      ∀ e ∈ trace, (∃ a, e.label.outcome = .ok a) → presented e = offered env e.label := by
  have heach : ∀ e ∈ trace, presented e = offered env e.label ∨
      (presented e = [] ∧ ∃ x, e.label.outcome = .error x) := by
    intro e he
    by_cases hcall : ∃ op, e.label.call = .other op
    · obtain ⟨op, hop⟩ := hcall
      left
      unfold presented offered
      rw [hop]
    · have hcall : ∀ op, e.label.call ≠ .other op := fun op hop => hcall ⟨op, hop⟩
      exact (run_performs hstart hrun e he hcall).presents hcall
  refine ⟨?_, fun e he ⟨a, hok⟩ => ?_⟩
  · refine sublist_flatMap fun e he => ?_
    rcases heach e he with heq | ⟨hnone, -⟩
    · exact heq ▸ .refl _
    · exact hnone ▸ List.nil_sublist _
  · rcases heach e he with heq | ⟨-, x, herror⟩
    · exact heq
    · rw [hok] at herror
      cases herror

end

/-- A ticket that is exchanged is presented once. -/
theorem example_presented :
    presented (exampleCall (.exchangeTicket ⟨"t&u", "c", "rs", "s", none⟩)) = [str "t&u"] := by
  have honce := run_presents_once exampleStart
    (exampleRun (.exchangeTicket ⟨"t&u", "c", "rs", "s", none⟩))
  exact (honce.2 _ (List.mem_singleton.mpr rfl) ⟨.token ⟨"rpt", "Bearer", 0⟩, rfl⟩).trans rfl

end Axiam.Uma
