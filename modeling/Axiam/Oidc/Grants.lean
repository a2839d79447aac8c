import Axiam.Lib.Journal
import Axiam.Oidc.IdpHint
import Axiam.Oidc.RegistrationBearer

/-!
# Grants that are spent

The grants of the token endpoint that present a credential once (`src/oidc.cpp`): the code of an
authorization, the secret of a client, the token of a provider, a token to be exchanged.  None of
them is tried again, and a code is bound by its challenge to the flow that began it.
-/

namespace Axiam.Oidc

open Axiam.Lib Axiam.Lib.Prog Axiam.Client Uri

/-- `OidcExchangeParams`. -/
structure OidcExchangeParams where
  code : Str
  codeVerifier : Str
  redirectUri : Str
  nonce : Str
  tenantId : Option Str := none

/-- `TokenExchangeParams`. -/
structure TokenExchangeParams where
  subjectToken : Str
  subjectTokenType : Str
  actorToken : Option Str := none
  scopes : List Str := []
  audience : Option Str := none
  resource : Option Str := none
  tenantId : Option Str := none

/-- `ExchangedToken`: a refresh token has no member here. -/
structure ExchangedToken where
  accessToken : Str
  issuedTokenType : Str
  tokenType : Str
  expiresIn : Int
  scope : Option Str
  deriving DecidableEq

def kTokenExchangeGrantType : Str := "urn:ietf:params:oauth:grant-type:token-exchange"

def kAccessTokenType : Str := "urn:ietf:params:oauth:token-type:access_token"

def kProviderIdTokenGrantType : Str := "urn:axiam:params:oauth:grant-type:provider-id-token"

/-- Scopes in one text, a blank between two of them. -/
def joinScopes (scopes : List Str) : Str :=
  scopes.foldl (fun joined s => (if joined = [] then [] else joined ++ str " ") ++ s) []

section

variable (env : GrantEnv)

/-- `require_client_secret`. -/
def requireClientSecret (operation : Str) : Except Exc Str :=
  match env.oidcClientSecret with
  | some (c :: rest) => .ok (c :: rest)
  | _ => .error (.auth (operation ++ str (" is a confidential-client operation and requires an " ++
      "OIDC client_secret; a public client cannot call it (CONTRACT.md §12.1 rule 4)")))

/-- What an exchange of a code is refused for before anything else. -/
def checkCode (params : OidcExchangeParams) : Except Exc Unit :=
  if params.code = [] ∨ params.redirectUri = [] ∨ params.codeVerifier = [] then
    .error (.auth ("oidc_exchange requires code, code_verifier and the same redirect_uri the " ++
      "authorization request carried"))
  else if params.nonce = [] then
    .error (.auth ("oidc_exchange requires the nonce oidc_begin produced " ++
      "(CONTRACT.md §12.4 rule 6 is mandatory here)"))
  else .ok ()

/-- The form of an exchange of a code. -/
def codeFields (params : OidcExchangeParams) (clientId : Str) : List (Str × Str) :=
  [(str "grant_type", str "authorization_code"), (str "code", params.code),
    (str "code_verifier", params.codeVerifier), (str "redirect_uri", params.redirectUri)] ++
    clientAuth env clientId

/-- `oidc_exchange`. -/
def oidcExchange (params : OidcExchangeParams) : Prog DeviceClient Exc OidcTokenSet := do
  onClient (onImpl ensureOpen)
  Prog.lift (checkCode params)
  let clientId ← Prog.lift (requireClientId env "oidc_exchange")
  let tenant ← Prog.lift (requireTenantUuid env params.tenantId "oidc_exchange")
  let config ← onClient (oidcDiscover env.client env.discoveryTtl)
  let body ← tokenGrant env config tenant (Form.str (codeFields env params clientId)) false
    "oidc exchange failed" none
  parseTokenSet env body config (some params.nonce)

/-- The form of a client's own grant. -/
def credentialsFields (clientId secret : Str) (scope : Option Str) : List (Str × Str) :=
  [(str "grant_type", str "client_credentials"), (str "client_id", clientId),
    (str "client_secret", secret), (str "scope", scope.getD [])]

/-- `login_client_credentials`. -/
def loginClientCredentials (scope tenantId : Option Str) : Prog DeviceClient Exc OidcTokenSet := do
  onClient (onImpl ensureOpen)
  let clientId ← Prog.lift (requireClientId env "login_client_credentials")
  let secret ← Prog.lift (requireClientSecret env "login_client_credentials")
  let tenant ← Prog.lift (requireTenantUuid env tenantId "login_client_credentials")
  let config ← onClient (oidcDiscover env.client env.discoveryTtl)
  let body ← tokenGrant env config tenant (Form.str (credentialsFields clientId secret scope)) false
    "client credentials login failed" none
  parseTokenSet env body config none

/-- What a sign-in with a provider's token is refused for before anything else. -/
def checkProvider (provider idToken nonce : Str) : Except Exc Unit :=
  let missing (parameter : Str) : Except Exc Unit :=
    .error (.invalidArgument (str "login_with_provider_id_token: " ++ parameter ++
      str " must not be empty (CONTRACT.md §37.2 rule 4)"))
  if provider = [] then missing "provider"
  else if idToken = [] then missing "id_token"
  else if nonce = [] then missing "nonce"
  else .ok ()

/-- The form of a sign-in with a provider's token. -/
def providerFields (clientId provider idToken nonce : Str) (scopes : List Str)
    (resource : Option Str) : List (Str × Str) :=
  (str "grant_type", kProviderIdTokenGrantType) :: clientAuth env clientId ++
    [(str "provider", provider), (str "id_token", idToken), (str "nonce", nonce),
      (str "scope", joinScopes scopes), (str "resource", resource.getD [])]

/-- `login_with_provider_id_token`. -/
def loginWithProviderIdToken (provider idToken nonce : Str) (scopes : List Str)
    (resource tenantId : Option Str) : Prog DeviceClient Exc OidcTokenSet := do
  onClient (onImpl ensureOpen)
  Prog.lift (checkProvider provider idToken nonce)
  let clientId ← Prog.lift (requireClientId env "login_with_provider_id_token")
  let tenant ← Prog.lift (requireTenantUuid env tenantId "login_with_provider_id_token")
  let config ← onClient (oidcDiscover env.client env.discoveryTtl)
  let body ← tokenGrant env config tenant
    (Form.str (providerFields env clientId provider idToken nonce scopes resource)) false
    "provider id token sign-in failed" none
  parseTokenSet env body config (some nonce)

/-- What a token exchange is refused for before anything else. -/
def checkSubject (params : TokenExchangeParams) : Except Exc Unit :=
  if params.subjectToken = [] then .error (.auth "token_exchange requires a subject_token")
  else if params.subjectTokenType = [] then
    .error (.auth ("token_exchange requires subject_token_type (§15.1): pass " ++
      "kAccessTokenType for an AXIAM access token, or kJwtTokenType for a " ++
      "trusted external issuer's JWT"))
  else .ok ()

/-- The actor of a delegation: an actor token that is empty is none. -/
def actorFields (actorToken : Option Str) : List (Str × Str) :=
  match actorToken with
  | none | some [] => []
  | some token => [(str "actor_token", token), (str "actor_token_type", kAccessTokenType)]

/-- The form of a token exchange. -/
def subjectFields (params : TokenExchangeParams) (clientId secret : Str) : List (Str × Str) :=
  [(str "grant_type", kTokenExchangeGrantType), (str "subject_token", params.subjectToken),
    (str "subject_token_type", params.subjectTokenType)] ++ actorFields params.actorToken ++
    [(str "scope", joinScopes (params.scopes.filter (· ≠ []))),
      (str "audience", params.audience.getD []), (str "resource", params.resource.getD []),
      (str "client_id", clientId), (str "client_secret", secret)]

/-- What a token exchange makes of its answer. -/
def readExchanged (body : Str) : Except Exc ExchangedToken :=
  let j := parseOrObject env.client body
  match optString j "access_token" with
  | none => .error (.network "token exchange: malformed TokenExchangeResponse" "malformed_body")
  | some access => .ok {
      accessToken := access
      issuedTokenType := (optString j "issued_token_type").getD kAccessTokenType
      tokenType := (optString j "token_type").getD "Bearer"
      expiresIn := (optInt j "expires_in").getD 0
      scope := optString j "scope" }

/-- `token_exchange`. -/
def tokenExchange (params : TokenExchangeParams) : Prog DeviceClient Exc ExchangedToken := do
  onClient (onImpl ensureOpen)
  Prog.lift (checkSubject params)
  let clientId ← Prog.lift (requireClientId env "token_exchange")
  let secret ← Prog.lift (requireClientSecret env "token_exchange")
  let tenant ← Prog.lift (requireTenantUuid env params.tenantId "token_exchange")
  let config ← onClient (oidcDiscover env.client env.discoveryTtl)
  let body ← tokenGrant env config tenant (Form.str (subjectFields params clientId secret)) false
    "token exchange failed" none
  Prog.lift (readExchanged env body)

end

/-! ## Calls -/

/-- A grant that is spent. -/
inductive SpentGrant where
  | code (params : OidcExchangeParams)
  | credentials (scope tenantId : Option Str)
  | provider (name idToken nonce : Str) (scopes : List Str) (resource tenantId : Option Str)
  | subject (params : TokenExchangeParams)

/-- What a grant returned. -/
inductive Granted where
  | tokens (set : OidcTokenSet)
  | exchanged (token : ExchangedToken)

/-- A program with its result as what was granted. -/
def granting {α : Type} (wrap : α → Granted) (m : Prog DeviceClient Exc α) :
    Prog DeviceClient Exc Granted := do
  let a ← m
  pure (wrap a)

/-- The grant as the client performs it. -/
def SpentGrant.perform (env : GrantEnv) : SpentGrant → Prog DeviceClient Exc Granted
  | .code params => granting .tokens (oidcExchange env params)
  | .credentials scope tenantId => granting .tokens (loginClientCredentials env scope tenantId)
  | .provider name idToken nonce scopes resource tenantId =>
      granting .tokens (loginWithProviderIdToken env name idToken nonce scopes resource tenantId)
  | .subject params => granting .exchanged (tokenExchange env params)

/-- The form a grant posts, for a client with these credentials. -/
def SpentGrant.fields (env : GrantEnv) (clientId secret : Str) : SpentGrant → List (Str × Str)
  | .code params => codeFields env params clientId
  | .credentials scope _ => credentialsFields clientId secret scope
  | .provider name idToken nonce scopes resource _ =>
      providerFields env clientId name idToken nonce scopes resource
  | .subject params => subjectFields params clientId secret

/-- A grant and what it came to. -/
structure GrantEvent where
  grant : SpentGrant
  outcome : Except Exc Granted

/-- One grant, or anything else that only adds to what was sent. -/
def GrantStep (env : GrantEnv) (s : DeviceClient) (e : Option GrantEvent) (t : DeviceClient) : Prop :=
  match e with
  | some e => e.grant.perform env s = (e.outcome, t)
  | none => sentSoFar s <+: sentSoFar t

/-! ## The one request of a grant -/

section

variable {env : GrantEnv} {α β : Type}

theorem onImpl_sent {m : Prog Impl Exc α} (h : Keeps Impl.sent m) :
    Keeps (fun d : Discovering => d.impl.sent) (onImpl m) := fun d => h d.impl

/-- A discovery sends its request, or nothing. -/
theorem oidcDiscover_writes (env : Env) (ttl : Int) :
    Writes (fun d : Discovering => d.impl.sent) (oidcDiscover env ttl) fun new _ =>
      new = [] ∨ new = [discoveryRequest env] := by
  have hnow : Keeps (fun d : Discovering => d.impl.sent) (onImpl (now env)) := fun _ => rfl
  have hfetch : Writes (fun d : Discovering => d.impl.sent) (fetchConfiguration env ttl)
      fun new _ => new = [] ∨ new = [discoveryRequest env] := by
    have hsent : Writes (fun d : Discovering => d.impl.sent)
        (onImpl (sendRaw env (discoveryRequest env))) fun new _ => new = [discoveryRequest env] :=
      fun d => ⟨_, sendRaw_sent env (discoveryRequest env) d.impl, rfl⟩
    refine hsent.bind (fun new e hnew => .inr hnew) fun new resp hnew => ?_
    refine Writes.keeps ?_ fun _ => by rw [hnew, List.append_nil]; exact .inr rfl
    refine Keeps.bind (Keeps.lift _) fun cfg => hnow.bind fun t => ?_
    exact Keeps.bind (Keeps.modify fun _ => rfl) fun _ => Keeps.ret _
  refine Writes.bind_keeps (onImpl_sent ensureOpen_keeps) (fun _ _ _ => .inl rfl) fun _ _ _ => ?_
  refine Writes.bind_keeps Keeps.read (fun _ _ _ => .inl rfl) fun s d _ => ?_
  cases d.oidcConfig with
  | none => exact hfetch
  | some cfg =>
      refine Writes.bind_keeps hnow (fun _ _ _ => .inl rfl) fun _ t _ => ?_
      exact Writes.ite (fun _ => Writes.ret (.inl rfl)) fun _ => hfetch

/-- What a grant sends: the request of a discovery, or nothing, and then what it sends once. -/
def Spends (env : GrantEnv) (p : HttpRequest → Prop) (new : List HttpRequest) (r : Except Exc α) :
    Prop :=
  ∃ first second, new = first ++ second ∧ (first = [] ∨ first = [discoveryRequest env.client]) ∧
    Once p second r

variable {p : HttpRequest → Prop}

/-- A grant that is refused before its discovery. -/
theorem spends_before {m : Prog DeviceClient Exc α} {k : α → Prog DeviceClient Exc β}
    (hm : Keeps sentSoFar m)
    (hk : ∀ s a, (m s).1 = .ok a → Writes sentSoFar (k a) (Spends env p)) :
    Writes sentSoFar (m >>= k) (Spends env p) :=
  Writes.bind_keeps hm (fun _ e _ => ⟨[], [], rfl, .inl rfl, .inl ⟨rfl, e, rfl⟩⟩) hk

theorem spends_discovered {k : OidcConfiguration → Prog DeviceClient Exc β}
    (hk : ∀ config, Writes sentSoFar (k config) (Once p)) :
    Writes sentSoFar (onClient (oidcDiscover env.client env.discoveryTtl) >>= k) (Spends env p) := by
  have hdiscover : Writes sentSoFar (onClient (oidcDiscover env.client env.discoveryTtl))
      fun new _ => new = [] ∨ new = [discoveryRequest env.client] := fun c => by
    obtain ⟨new, hnew, hwhat⟩ := oidcDiscover_writes env.client env.discoveryTtl c.client
    exact ⟨new, hnew, hwhat⟩
  refine hdiscover.bind (fun new e hnew => ?_) fun new config hnew => ?_
  · exact ⟨new, [], (List.append_nil new).symm, hnew, .inl ⟨rfl, e, rfl⟩⟩
  · exact (hk config).weaken fun more r honce => ⟨new, more, rfl, hnew, honce⟩

theorem Spends.map {wrap : α → β} {m : Prog DeviceClient Exc α}
    (hm : Writes sentSoFar m (Spends env p)) :
    Writes sentSoFar (do let a ← m; pure (wrap a)) (Spends env p) := by
  refine hm.bind ?_ ?_
  · rintro new e ⟨first, second, hnew, hfirst, honce⟩
    refine ⟨first, second, hnew, hfirst, ?_⟩
    rcases honce with ⟨rfl, -⟩ | hsent
    · exact .inl ⟨rfl, e, rfl⟩
    · exact .inr hsent
  · rintro new a ⟨first, second, rfl, hfirst, honce⟩
    refine Writes.ret ⟨first, second, List.append_nil _, hfirst, ?_⟩
    rcases honce with ⟨-, e, he⟩ | hsent
    · cases he
    · exact .inr hsent

theorem sent_beside : Beside sentSoFar := ⟨fun _ _ => rfl, fun _ _ => rfl⟩

/-- The request of a grant, and what the server reads of it. -/
structure Posts (tenant : Str) (fields : List (Str × Str)) (req : HttpRequest) : Prop where
  method : req.method = str "POST"
  url : ∃ endpoint, req.url = withTenant endpoint tenant
  sessionless : req.sessionless = true
  replayable : req.replayable = false
  alone : req.headers.find? "Authorization" = none ∧ req.headers.find? "X-CSRF-Token" = none ∧
    req.headers.find? "X-Axiam-Tenant" = none
  form : (parameters (some req.body)).map (fun q => (parameterName q, parameterValue q)) =
    present fields

theorem form_reads (fields : List (Str × Str)) :
    (parameters (some (Form.str fields))).map (fun q => (parameterName q, parameterValue q)) =
      present fields := by
  rw [parameters_str, List.map_map]
  refine (List.map_congr_left fun field _ => ?_).trans (List.map_id _)
  exact Prod.ext (parameterName_formPair field) (parameterValue_formPair field)

theorem grantRequest_posts (endpoint tenant : Str) (fields : List (Str × Str)) :
    Posts tenant fields (grantRequest env (withTenant endpoint tenant) (Form.str fields) false) where
  method := rfl
  url := ⟨endpoint, rfl⟩
  sessionless := rfl
  replayable := rfl
  alone := ⟨rfl, rfl, rfl⟩
  form := form_reads fields

/-- A grant that is not tried again posts its form once. -/
theorem tokenGrant_once (config : OidcConfiguration) (tenant context : Str)
    (fields : List (Str × Str)) :
    Writes sentSoFar (tokenGrant env config tenant (Form.str fields) false context none)
      (Once (Posts tenant fields)) := by
  refine Writes.once_before (Keeps.lift _) fun _ endpoint _ => ?_
  refine Writes.once_after (fun c => ?_) fun resp => keeps_readGrant sent_beside false context resp
  exact ⟨[_], rfl, .inr ⟨_, rfl, grantRequest_posts _ tenant fields⟩⟩

end

section

variable {env : GrantEnv}

theorem requireClientId_ok {operation clientId : Str}
    (h : requireClientId env operation = .ok clientId) :
    env.oidcClientId = some clientId ∧ clientId ≠ [] := by
  unfold requireClientId at h
  split at h
  · next c rest hid =>
      cases h
      exact ⟨hid, List.cons_ne_nil _ _⟩
  · cases h

theorem requireClientSecret_ok {operation secret : Str}
    (h : requireClientSecret env operation = .ok secret) :
    secret = env.oidcClientSecret.getD [] := by
  unfold requireClientSecret at h
  split at h
  · next c rest hsecret =>
      cases h
      rw [hsecret]
      rfl
  · cases h

theorem requireTenantUuid_ok {tenantId : Option Str} {operation tenant : Str}
    (h : requireTenantUuid env tenantId operation = .ok tenant) : looksLikeUuid tenant = true := by
  unfold requireTenantUuid at h
  dsimp only at h
  split_ifs at h with huuid
  cases h
  exact huuid

/-- What a grant is refused for before anything else. -/
def SpentGrant.check : SpentGrant → Except Exc Unit
  | .code params => checkCode params
  | .credentials _ _ => .ok ()
  | .provider name idToken nonce _ _ _ => checkProvider name idToken nonce
  | .subject params => checkSubject params

/-- The request that is a grant's own: its form is read as the grant's fields, and no others. -/
def SpentGrant.Own (env : GrantEnv) (g : SpentGrant) (req : HttpRequest) : Prop :=
  g.check = .ok () ∧ ∃ clientId tenant, env.oidcClientId = some clientId ∧ clientId ≠ [] ∧
    looksLikeUuid tenant = true ∧
    Posts tenant (g.fields env clientId (env.oidcClientSecret.getD [])) req

theorem ensureOpen_sent : Keeps sentSoFar (onClient (onImpl ensureOpen)) :=
  fun c => ensureOpen_keeps (f := Impl.sent) c.client.impl

theorem lift_eq_ok {σ ε α : Type} {x : Except ε α} {s : σ} {a : α}
    (h : ((Prog.lift x : Prog σ ε α) s).1 = .ok a) : x = .ok a := h

/-- The part of a grant behind its checks. -/
theorem spends_granted {α : Type} {g : SpentGrant} {tenant clientId context : Str}
    {k : OidcConfiguration → Str → Prog DeviceClient Exc α} (hcheck : g.check = .ok ())
    (hid : env.oidcClientId = some clientId ∧ clientId ≠ []) (htenant : looksLikeUuid tenant = true)
    (hk : ∀ config body, Keeps sentSoFar (k config body)) :
    Writes sentSoFar (do
      let config ← onClient (oidcDiscover env.client env.discoveryTtl)
      let body ← tokenGrant env config tenant
        (Form.str (g.fields env clientId (env.oidcClientSecret.getD []))) false context none
      k config body) (Spends env (g.Own env)) := by
  refine spends_discovered fun config => Writes.once_after ?_ fun body => hk config body
  refine (tokenGrant_once config tenant context _).weaken fun new r honce => ?_
  rcases honce with hnone | ⟨req, hnew, hposts⟩
  · exact .inl hnone
  · exact .inr ⟨req, hnew, hcheck, clientId, tenant, hid.1, hid.2, htenant, hposts⟩

/-- A grant posts its form at most once, and once if it returns. -/
theorem SpentGrant.perform_spends (g : SpentGrant) :
    Writes sentSoFar (g.perform env) (Spends env (g.Own env)) := by
  cases g with
  | code params =>
      refine Spends.map (spends_before ensureOpen_sent fun _ _ _ => ?_)
      refine spends_before (Keeps.lift _) fun _ _ hcheck => ?_
      refine spends_before (Keeps.lift _) fun _ clientId hid => ?_
      refine spends_before (Keeps.lift _) fun _ tenant htenant => ?_
      exact spends_granted (g := .code params) (lift_eq_ok hcheck)
        (requireClientId_ok (lift_eq_ok hid)) (requireTenantUuid_ok (lift_eq_ok htenant))
        fun config body => keeps_parseTokenSet sent_beside body config _
  | credentials scope tenantId =>
      refine Spends.map (spends_before ensureOpen_sent fun _ _ _ => ?_)
      refine spends_before (Keeps.lift _) fun _ clientId hid => ?_
      refine spends_before (Keeps.lift _) fun _ secret hsecret => ?_
      refine spends_before (Keeps.lift _) fun _ tenant htenant => ?_
      obtain rfl := requireClientSecret_ok (lift_eq_ok hsecret)
      exact spends_granted (g := .credentials scope tenantId) rfl
        (requireClientId_ok (lift_eq_ok hid)) (requireTenantUuid_ok (lift_eq_ok htenant))
        fun config body => keeps_parseTokenSet sent_beside body config _
  | provider name idToken nonce scopes resource tenantId =>
      refine Spends.map (spends_before ensureOpen_sent fun _ _ _ => ?_)
      refine spends_before (Keeps.lift _) fun _ _ hcheck => ?_
      refine spends_before (Keeps.lift _) fun _ clientId hid => ?_
      refine spends_before (Keeps.lift _) fun _ tenant htenant => ?_
      exact spends_granted (g := .provider name idToken nonce scopes resource tenantId)
        (lift_eq_ok hcheck) (requireClientId_ok (lift_eq_ok hid))
        (requireTenantUuid_ok (lift_eq_ok htenant)) fun config body =>
          keeps_parseTokenSet sent_beside body config _
  | subject params =>
      refine Spends.map (spends_before ensureOpen_sent fun _ _ _ => ?_)
      refine spends_before (Keeps.lift _) fun _ _ hcheck => ?_
      refine spends_before (Keeps.lift _) fun _ clientId hid => ?_
      refine spends_before (Keeps.lift _) fun _ secret hsecret => ?_
      refine spends_before (Keeps.lift _) fun _ tenant htenant => ?_
      obtain rfl := requireClientSecret_ok (lift_eq_ok hsecret)
      exact spends_granted (g := .subject params) (lift_eq_ok hcheck)
        (requireClientId_ok (lift_eq_ok hid)) (requireTenantUuid_ok (lift_eq_ok htenant))
        fun config body => Keeps.lift _

end

/-! ## Runs -/

/-- The values that are read in the forms of requests under a name. -/
def valuesOf (name : Str) (requests : List HttpRequest) : List Str :=
  requests.flatMap fun req =>
    ((parameters (some req.body)).filter (parameterName · = name)).map parameterValue

/-- What a grant presents under a name. -/
def presented (name : Str) (e : Transition DeviceClient (Option GrantEvent)) : List Str :=
  match e.label with
  | none => []
  | some _ => valuesOf name ((sentSoFar e.post).drop (sentSoFar e.pre).length)

/-- What a grant was given to present under a name, where it was not refused at once. -/
def given (env : GrantEnv) (name : Str) (e : Option GrantEvent) : List Str :=
  match e with
  | none => []
  | some e => if e.grant.check.toOption.isNone then [] else
      ((present (e.grant.fields env (env.oidcClientId.getD []) (env.oidcClientSecret.getD []))).filter
        (·.1 = name)).map Prod.snd

section

variable {env : GrantEnv}

theorem valuesOf_own {g : SpentGrant} {req : HttpRequest} (h : g.Own env req) (name : Str)
    (outcome : Except Exc Granted) : valuesOf name [req] = given env name (some ⟨g, outcome⟩) := by
  obtain ⟨hcheck, clientId, tenant, hid, -, -, hposts⟩ := h
  have hread : ((parameters (some req.body)).filter (parameterName · = name)).map parameterValue =
      ((present (g.fields env clientId (env.oidcClientSecret.getD []))).filter
        (·.1 = name)).map Prod.snd := by
    rw [← hposts.form, List.filter_map, List.map_map]
    rfl
  have hgiven : given env name (some ⟨g, outcome⟩) =
      ((present (g.fields env (env.oidcClientId.getD []) (env.oidcClientSecret.getD []))).filter
        (·.1 = name)).map Prod.snd := by
    unfold given
    simp only [hcheck]
    rfl
  unfold valuesOf
  rw [List.flatMap_singleton, hread, hgiven, hid]
  rfl

/-- A grant presents what it was given, or nothing, and then it throws. -/
theorem step_presents {s t : DeviceClient} {e : Option GrantEvent} (name : Str)
    (hstep : GrantStep env s e t) :
    presented name ⟨s, e, t⟩ = given env name e ∨
      (presented name ⟨s, e, t⟩ = [] ∧ ∃ g x, e = some ⟨g, .error x⟩) := by
  cases e with
  | none => exact .inl rfl
  | some e =>
      have hspends : Writes sentSoFar (e.grant.perform env) (Spends env (e.grant.Own env)) :=
        e.grant.perform_spends
      obtain ⟨new, hnew, first, second, rfl, hfirst, honce⟩ := hspends s
      have hrun : e.grant.perform env s = (e.outcome, t) := hstep
      rw [hrun] at hnew honce
      have hpresented : presented name ⟨s, some e, t⟩ = valuesOf name second := by
        have hquiet : valuesOf name first = [] := by
          rcases hfirst with rfl | rfl <;> rfl
        have hjoin : valuesOf name (first ++ second) = valuesOf name first ++ valuesOf name second :=
          List.flatMap_append
        show valuesOf name ((sentSoFar t).drop (sentSoFar s).length) = valuesOf name second
        rw [hnew, List.drop_left, hjoin, hquiet, List.nil_append]
      rcases honce with ⟨rfl, x, hx⟩ | ⟨req, rfl, hown⟩
      · refine .inr ⟨hpresented, e.grant, x, ?_⟩
        rw [← hx]
      · exact .inl (hpresented.trans (valuesOf_own hown name e.outcome))

/-- Over any run of grants, with anything else between them that only sends: what is presented
under a name, a code or a token or a secret, is what the grants were given, in their order, each at
most once; and a grant that returns has presented its own. -/
theorem grants_presented_once {start last : DeviceClient}
    {trace : List (Transition DeviceClient (Option GrantEvent))}
    (hrun : Run (GrantStep env) start trace last) (name : Str) :
    (trace.flatMap (presented name)).Sublist (trace.flatMap fun e => given env name e.label) ∧
      ∀ e ∈ trace, ∀ g a, e.label = some ⟨g, .ok a⟩ →
        presented name e = given env name e.label := by
  have heach : ∀ e ∈ trace, presented name e = given env name e.label ∨
      (presented name e = [] ∧ ∃ g x, e.label = some ⟨g, .error x⟩) := fun e he =>
    step_presents name (hrun.steps e he)
  refine ⟨sublist_flatMap fun e he => ?_, fun e he g a hok => ?_⟩
  · rcases heach e he with heq | ⟨hnone, -⟩
    · exact heq ▸ .refl _
    · exact hnone ▸ List.nil_sublist _
  · rcases heach e he with heq | ⟨-, g', x, herror⟩
    · exact heq
    · rw [hok] at herror
      cases herror

end

/-- A code for `https://rp.example/cb`. -/
def grantedCode : OidcExchangeParams :=
  ⟨"c", "v", "https://rp.example/cb", "n", some "00000000-0000-0000-0000-000000000001"⟩

/-- The exchange of the code, for the client with a document and a key. -/
def codeRun : Transition DeviceClient (Option GrantEvent) :=
  let ran := (SpentGrant.code grantedCode).perform (rpEnv rpParse) rpClient
  ⟨rpClient, some ⟨.code grantedCode, ran.1⟩, ran.2⟩

theorem code_presented_once :
    given (rpEnv rpParse) "code" codeRun.label = [str "c"] ∧
      ([codeRun].flatMap (presented "code")).Sublist
        ([codeRun].flatMap fun e => given (rpEnv rpParse) "code" e.label) := by
  have hrun : Run (GrantStep (rpEnv rpParse)) rpClient [codeRun] codeRun.post := .cons rfl (.nil _)
  exact ⟨rfl, (grants_presented_once hrun "code").1⟩

/-! ## What a grant leaves alone -/

section

variable {env : GrantEnv}

/-- What a client has of its session, with its clocks and its verifier beside it. -/
theorem impl_beside {τ : Type} (f : Impl → τ) : Beside fun c : DeviceClient => f c.client.impl :=
  ⟨fun _ _ => rfl, fun _ _ => rfl⟩

section

variable {α τ : Type} {f : Impl → τ} (hf : Untouched f)
include hf

theorem oidcDiscover_keeps (env : Env) (ttl : Int) :
    Keeps (fun d : Discovering => f d.impl) (oidcDiscover env ttl) := by
  have himpl : ∀ {β : Type} {m : Prog Impl Exc β}, Keeps f m →
      Keeps (fun d : Discovering => f d.impl) (onImpl m) := fun hm d => hm d.impl
  have hfetch : Keeps (fun d : Discovering => f d.impl) (fetchConfiguration env ttl) := by
    refine (himpl (sendRaw_keeps env hf _)).bind fun resp => ?_
    refine (Keeps.lift _).bind fun cfg => (himpl (now_keeps env hf)).bind fun t => ?_
    exact Keeps.bind (fun _ => rfl) fun _ => Keeps.ret _
  refine (himpl ensureOpen_keeps).bind fun _ => Keeps.read.bind fun d => ?_
  cases d.oidcConfig with
  | none => exact hfetch
  | some cfg => exact (himpl (now_keeps env hf)).bind fun t => Keeps.ite (Keeps.ret _) hfetch

/-- A grant behind its checks: a discovery, a form that is posted, and a reading of the answer. -/
theorem granted_keeps {tenant context form : Str}
    {k : OidcConfiguration → Str → Prog DeviceClient Exc α}
    (hk : ∀ config body, Keeps (fun c : DeviceClient => f c.client.impl) (k config body)) :
    Keeps (fun c : DeviceClient => f c.client.impl) (do
      let config ← onClient (oidcDiscover env.client env.discoveryTtl)
      let body ← tokenGrant env config tenant form false context none
      k config body) := by
  have hdiscover : Keeps (fun c : DeviceClient => f c.client.impl)
      (onClient (oidcDiscover env.client env.discoveryTtl)) := fun c =>
    oidcDiscover_keeps hf env.client env.discoveryTtl c.client
  refine hdiscover.bind fun config => Keeps.bind ?_ fun body => hk config body
  refine (Keeps.lift _).bind fun endpoint => ?_
  exact Keeps.bind (fun c => hf.sent c.client.impl _) fun resp =>
    keeps_readGrant (impl_beside f) false context resp

omit hf in
theorem granting_keeps {m : Prog DeviceClient Exc α} {wrap : α → Granted}
    (hm : Keeps (fun c : DeviceClient => f c.client.impl) m) :
    Keeps (fun c : DeviceClient => f c.client.impl) (granting wrap m) :=
  hm.bind fun _ => Keeps.ret _

end

end

end Axiam.Oidc
