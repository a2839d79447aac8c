import Axiam.Jose.Base64
import Axiam.Oidc.Ciba
import Axiam.Oidc.CodeFlow
import Axiam.Oidc.Registration

/-!
# Asking for a backchannel decision

`ciba_initiate`, which asks in a plain form or in one signed token, and `ciba_handle_ping`, which
reads the notification that the decision has been made (`src/oidc.cpp`).  The server that stands
between the two reads the members of a request out of either form, and presents the token it read
there with its ping.
-/

namespace Axiam.Oidc

open Axiam.Lib Axiam.Lib.Prog Axiam.Client Axiam.Jose Uri

/-- `CibaUserHint`. -/
inductive CibaUserHint where
  | loginHint (value : Str)
  | idTokenHint (value : Str)

/-- `CibaDelivery`. -/
inductive CibaDelivery where
  | poll
  | ping (clientNotificationToken : Str)

/-- `CibaSigningAlg`. -/
inductive CibaSigningAlg where
  | ps256
  | es256
  | edDSA

/-- `CibaRequestSigner`, with what its key makes of a text. -/
structure CibaRequestSigner where
  alg : CibaSigningAlg
  kid : Option Str := none
  sign : Str → Option Str

/-- `CibaInitiateParams`. -/
structure CibaInitiateParams where
  scope : Str
  hint : CibaUserHint
  bindingMessage : Option Str := none
  requestedExpiry : Option Int := none
  acrValues : Option Str := none
  resource : Option Str := none
  delivery : CibaDelivery := .poll
  signer : Option CibaRequestSigner := none
  tenantId : Option Str := none

def kCibaSignedRequestLifetimeSeconds : Int := 300

/-- `alg_name`. -/
def algName : CibaSigningAlg → Str
  | .ps256 => "PS256"
  | .es256 => "ES256"
  | .edDSA => "EdDSA"

/-! ## The request -/

def CibaUserHint.name : CibaUserHint → Str
  | .loginHint _ => "login_hint"
  | .idTokenHint _ => "id_token_hint"

def CibaUserHint.value : CibaUserHint → Str
  | .loginHint value => value
  | .idTokenHint value => value

/-- The token of a ping; a poll has none. -/
def CibaDelivery.token : CibaDelivery → Option Str
  | .poll => none
  | .ping clientNotificationToken => some clientNotificationToken

/-- The members of a request, as the code sets them. -/
def cibaSlots (params : CibaInitiateParams) : List (Str × Option Json) :=
  [(str "scope", some (.string params.scope)),
    (params.hint.name, some (.string params.hint.value)),
    (str "binding_message", params.bindingMessage.map .string),
    (str "requested_expiry", params.requestedExpiry.map .integer),
    (str "acr_values", params.acrValues.map .string),
    (str "resource", params.resource.map .string),
    (str "client_notification_token", params.delivery.token.map .string)]

/-- `ciba_members`. -/
def cibaMembers (params : CibaInitiateParams) : Members := putAll (cibaSlots params) []

/-- The claims of a signed request. -/
def cibaClaims (params : CibaInitiateParams) (clientId issuer : Str) (now : Int) (jti : Str) :
    Members :=
  putAll
    [(str "iss", some (.string clientId)), (str "aud", some (.string issuer)),
      (str "iat", some (.integer now)), (str "nbf", some (.integer now)),
      (str "exp", some (.integer (now + kCibaSignedRequestLifetimeSeconds))),
      (str "jti", some (.string jti))] (cibaMembers params)

/-- The header of a signed request. -/
def cibaHeader (signer : CibaRequestSigner) : Members :=
  putAll [(str "alg", some (.string (algName signer.alg))), (str "kid", signer.kid.map .string)] []

def kHex : Str := "0123456789abcdef"

/-- `random_hex`. -/
def randomHex (crypto : Crypto) (draw : Nat) : Except Exc Str :=
  match crypto.randBytes draw with
  | some raw => .ok (raw.flatMap fun b => [kHex.getD (b.toNat / 16) 0, kHex.getD (b.toNat % 16) 0])
  | none => .error (.network "could not draw cryptographic randomness" "rand_failure")

section

variable (env : GrantEnv) (crypto : Crypto)

/-- `signed_ciba_request`. -/
def signedCibaRequest (params : CibaInitiateParams) (signer : CibaRequestSigner)
    (clientId issuer : Str) : Prog DeviceClient Exc Str := do
  let now ← nowSeconds env
  let jti ← Prog.lift (randomHex crypto 0)
  let header ← Prog.lift (dumpText env.client (.object (cibaHeader signer)))
  let claims ← Prog.lift
    (dumpText env.client (.object (cibaClaims params clientId issuer now jti)))
  let jws := b64urlEncode header ++ str "." ++ b64urlEncode claims
  match signer.sign jws with
  | none => throw (.network "ciba_initiate: the signed request could not be signed" "sign_failure")
  | some signature => pure (jws ++ str "." ++ b64urlEncode signature)

/-- A member in a form: a string as it is, anything else as it is dumped. -/
def memberText : Json → Str
  | .string s => s
  | j => env.client.dump j

/-- The fields of a request: one signed token, or its members. -/
def cibaFields (params : CibaInitiateParams) (config : OidcConfiguration) :
    Prog DeviceClient Exc (List (Str × Str)) :=
  match params.signer with
  | some signer => do
      let clientId ← Prog.lift (requireClientId env "ciba_initiate")
      let request ← signedCibaRequest env crypto params signer clientId config.issuer
      pure [(str "request", request)]
  | none => pure ((cibaMembers params).map fun m => (m.1, memberText env m.2))

/-- A ping needs a token to ping with. -/
def checkDelivery : CibaDelivery → Except Exc Unit
  | .ping [] => .error (.invalidArgument ("ciba_initiate: a ping-mode request needs a " ++
      "client_notification_token — without one AXIAM has nothing to ping with (CONTRACT.md §33.2)"))
  | _ => .ok ()

/-- The endpoint of a request. -/
def cibaEndpoint (config : OidcConfiguration) : Except Exc Str := do
  let endpoint ← preferredEndpoint env config
    MtlsEndpointAliases.backchannelAuthenticationEndpoint config.backchannelAuthenticationEndpoint
  match endpoint with
  | some endpoint => .ok endpoint
  | none => .error (.auth ("the discovery document advertises no " ++
      "backchannel_authentication_endpoint: this server does not support CIBA (CONTRACT.md §33.1)"))

/-- The request of `ciba_initiate`. -/
def initiateRequest (url form : Str) : HttpRequest where
  method := "POST"
  url := url
  headers := [(str "X-Tenant-ID", env.client.tenantHeader), (str "Accept", str "application/json"),
    (str "Content-Type", str "application/x-www-form-urlencoded")]
  body := form
  sessionless := true

/-- What `ciba_initiate` makes of a `2xx`. -/
def readInitiated (body : Str) (receivedAt : Instant) : Except Exc CibaInitiateResponse :=
  let j := parseOrObject env.client body
  match optString j "auth_req_id", optInt j "expires_in" with
  | some authReqId, some expiresIn => .ok {
      authReqId := authReqId
      expiresIn := expiresIn
      interval := match optInt j "interval" with
        | some interval => if 0 < interval then interval else kCibaDefaultIntervalSeconds
        | none => kCibaDefaultIntervalSeconds
      receivedAt := receivedAt }
  | _, _ => .error (.network "malformed CibaInitiateResponse" "malformed_body")

/-- `ciba_initiate`, with the steady clock. -/
def cibaInitiate (steady : CibaClock) (params : CibaInitiateParams) :
    Prog DeviceClient Exc CibaInitiateResponse := do
  onClient (onImpl ensureOpen)
  Prog.lift (checkDelivery params.delivery)
  let auth ← Prog.lift (cibaClientAuth env "ciba_initiate")
  let tenant ← Prog.lift (requireTenantUuid env params.tenantId "ciba_initiate")
  let config ← onClient (oidcDiscover env.client env.discoveryTtl)
  let endpoint ← Prog.lift (cibaEndpoint env config)
  let fields ← cibaFields env crypto params config
  let resp ← onClient (onImpl (sendRaw env.client
    (initiateRequest env (withTenant endpoint tenant) (Form.str (auth ++ fields)))))
  if resp.status < 200 ∨ 300 ≤ resp.status then raiseGrantError env "ciba_initiate failed" resp
  else do
    let receivedAt ← steady.read
    Prog.lift (readInitiated env resp.body receivedAt)

/-! ## The ping -/

def pingRefused : Exc :=
  .auth ("ciba ping refused: the Authorization header is not the expected bearer " ++
    "(CONTRACT.md §33.1)")

/-- The loop over the headers: a second `Authorization` refuses the ping. -/
def scanAuthorization : Option Str → List (Str × Str) → Except Exc (Option Str)
  | found, [] => .ok found
  | found, (name, value) :: rest =>
      if lower name ≠ "authorization" then scanAuthorization found rest
      else if found.isSome then .error pingRefused
      else scanAuthorization (some value) rest

/-- `ping_token_matches`. -/
def pingTokenMatches (token expected : Str) : Bool :=
  expected ≠ [] && token.length == expected.length && token == expected

/-- The scheme and the token of an `Authorization` value. -/
def bearerMatches (authorization expected : Str) : Bool :=
  match cut 32 authorization with
  | some (scheme, token) => lower scheme == str "bearer" && pingTokenMatches token expected
  | none => false

/-- `ciba_handle_ping`. -/
def cibaHandlePing (headers : List (Str × Str)) (body expectedToken : Str) : Except Exc Str := do
  let authorization ← scanAuthorization none headers
  if (authorization.any (bearerMatches · expectedToken)) = false then .error pingRefused
  else match (env.client.parse body).bind (optString · "auth_req_id") with
    | some id => .ok id
    | none => .error (.invalidArgument ("ciba_handle_ping: the ping body is not a JSON object " ++
        "carrying a non-empty auth_req_id string (CONTRACT.md §33.1)"))

end

/-! ## What a server reads -/

/-- The claims of a signed token, as a server with a JSON parser reads them. -/
def claimsOf (parse : Parser) (jws : Str) : Option Json :=
  match fields 46 jws with
  | [_, payload, _] => (base64urlDecode payload).bind parse
  | _ => none

/-- A member of a request, out of either form. -/
def cibaRead (env : GrantEnv) (parse : Parser) (body name : Str) : Option Str :=
  match valueOf "request" (some body) with
  | none => valueOf name (some body)
  | some jws => ((claimsOf parse jws).bind (·.find? name)).map (memberText env)

/-- The members of a request. -/
def memberNames : List Str :=
  [str "scope", str "login_hint", str "id_token_hint", str "binding_message",
    str "requested_expiry", str "acr_values", str "resource", str "client_notification_token"]

/-- A member, as the caller gave it. -/
def askedFor (env : GrantEnv) (params : CibaInitiateParams) (name : Str) : Option Str :=
  ((cibaSlots params).lookup name).join.map (memberText env)

/-- A parser that reads objects as they were dumped. -/
def ReadsDumps (env : GrantEnv) (parse : Parser) : Prop :=
  ∀ members, (Json.object members).dumpable = true →
    parse (env.client.dump (.object members)) = some (.object members)

/-- The request of an initiation: whichever form it has, a server reads the members that the caller
gave, but for those of a plain form that are empty; a signed request has nothing beside it. -/
structure CibaOwn (env : GrantEnv) (params : CibaInitiateParams) (req : HttpRequest) : Prop where
  delivery : checkDelivery params.delivery = .ok ()
  method : req.method = str "POST"
  url : ∃ endpoint tenant, req.url = withTenant endpoint tenant ∧ looksLikeUuid tenant = true
  sessionless : req.sessionless = true
  replayable : req.replayable = false
  client : ∃ clientId, env.oidcClientId = some clientId ∧
    valueOf "client_id" (some req.body) = some clientId
  secret : valueOf "client_secret" (some req.body) = env.oidcClientSecret.filter (· ≠ [])
  members : ∀ parse, ReadsDumps env parse → ∀ name ∈ memberNames,
    cibaRead env parse req.body name =
      if params.signer.isSome then askedFor env params name
      else (askedFor env params name).filter (· ≠ [])
  alone : params.signer.isSome = true → ∀ p ∈ parameters (some req.body),
    parameterName p ∈ [str "client_id", str "client_secret", str "request"]

theorem valueOf_str (fields : List (Str × Str)) (name : Str) :
    valueOf name (some (Form.str fields)) =
      ((present fields).find? (·.1 = name)).map Prod.snd := by
  have hname : (fun p => decide (parameterName p = name)) ∘ formPair =
      fun field : Str × Str => decide (field.1 = name) :=
    funext fun field => by simp [parameterName_formPair]
  unfold valueOf
  rw [parameters_str, List.find?_map, hname, Option.map_map]
  congr 1
  exact funext parameterValue_formPair

theorem find?_present_members {members : Members} (h : Assoc.Ordered members) (text : Json → Str)
    (name : Str) :
    ((present (members.map fun m => (m.1, text m.2))).find? (·.1 = name)).map Prod.snd =
      ((members.lookup name).map text).filter (· ≠ []) := by
  induction members with
  | nil => rfl
  | cons m rest ih =>
      obtain ⟨hfirst, hrest⟩ := List.pairwise_cons.mp h
      have hih := ih hrest
      unfold present at hih ⊢
      rw [Assoc.lookup_cons_if, List.map_cons]
      by_cases hname : name = m.1
      · rw [if_pos hname]
        have hlater : rest.lookup name = none := by
          rw [List.lookup_eq_none_iff]
          intro m' hm'
          rw [bne_iff_ne, hname]
          exact ne_of_lt (hfirst m' hm')
        by_cases hempty : text m.2 = []
        · rw [List.filter_cons_of_neg (by simpa using hempty), hih, hlater]
          exact (Option.filter_some_neg (by simpa using hempty)).symm
        · rw [List.filter_cons_of_pos (by simpa using hempty),
            List.find?_cons_of_pos (by simpa using hname.symm)]
          exact (Option.filter_some_pos (by simpa using hempty)).symm
      · rw [if_neg hname]
        by_cases hempty : text m.2 = []
        · rw [List.filter_cons_of_neg (by simpa using hempty)]
          exact hih
        · rw [List.filter_cons_of_pos (by simpa using hempty),
            List.find?_cons_of_neg (by simpa using fun heq => hname (Eq.symm heq))]
          exact hih

theorem cibaSlots_nodup (params : CibaInitiateParams) : ((cibaSlots params).map (·.1)).Nodup := by
  have hnames : (cibaSlots params).map (·.1) =
      [str "scope", params.hint.name, str "binding_message", str "requested_expiry",
        str "acr_values", str "resource", str "client_notification_token"] := rfl
  rw [hnames]
  cases params.hint with
  | loginHint value =>
      show [str "scope", str "login_hint", str "binding_message", str "requested_expiry",
        str "acr_values", str "resource", str "client_notification_token"].Nodup
      decide
  | idTokenHint value =>
      show [str "scope", str "id_token_hint", str "binding_message", str "requested_expiry",
        str "acr_values", str "resource", str "client_notification_token"].Nodup
      decide

theorem ordered_nil : Assoc.Ordered ([] : Members) := List.Pairwise.nil

theorem lookup_cibaMembers (params : CibaInitiateParams) (name : Str) :
    (cibaMembers params).lookup name = ((cibaSlots params).lookup name).join := by
  unfold cibaMembers
  rw [lookup_putAll (cibaSlots_nodup params), List.lookup_nil, Option.or_none]

/-- A claim of a signed request that is a member is the one of the plain form. -/
theorem lookup_cibaClaims {params : CibaInitiateParams} {clientId issuer jti name : Str} {now : Int}
    (hname : name ∈ memberNames) :
    (cibaClaims params clientId issuer now jti).lookup name =
      ((cibaSlots params).lookup name).join := by
  let own : List (Str × Option Json) :=
    [(str "iss", some (.string clientId)), (str "aud", some (.string issuer)),
      (str "iat", some (.integer now)), (str "nbf", some (.integer now)),
      (str "exp", some (.integer (now + kCibaSignedRequestLifetimeSeconds))),
      (str "jti", some (.string jti))]
  have hkeys : own.map (·.1) =
      [str "iss", str "aud", str "iat", str "nbf", str "exp", str "jti"] := rfl
  have hnone : own.lookup name = none := by
    rw [List.lookup_eq_none_iff]
    intro slot hslot
    rw [bne_iff_ne]
    rintro rfl
    have hkey : slot.1 ∈ own.map (·.1) := List.mem_map_of_mem hslot
    rw [hkeys] at hkey
    exact absurd hname ((by decide : ∀ key ∈ [str "iss", str "aud", str "iat", str "nbf",
      str "exp", str "jti"], key ∉ memberNames) slot.1 hkey)
  show (putAll own (cibaMembers params)).lookup name = _
  rw [lookup_putAll (by rw [hkeys]; decide), hnone, lookup_cibaMembers]
  rfl

theorem dot_notMem_base64url (x : Str) : 46 ∉ b64urlEncode x := by
  have hsymbol : ∀ v, base64urlSymbol (v % 64) ≠ 46 := fun v =>
    (by decide : ∀ n < 64, base64urlSymbol n ≠ 46) _ (Nat.mod_lt v (by omega))
  rw [b64urlEncode_eq]
  fun_induction base64urlEncode x with
  | case1 => simp
  | case2 a v => simp [Ne.symm (hsymbol _)]
  | case3 a b v => simp [Ne.symm (hsymbol _)]
  | case4 a b c rest v ih => simp [Ne.symm (hsymbol _), ih]

theorem claimsOf_signed (parse : Parser) (header claims signature : Str) :
    claimsOf parse (b64urlEncode header ++ str "." ++ b64urlEncode claims ++ str "." ++
      b64urlEncode signature) = parse claims := by
  have hjoin : b64urlEncode header ++ str "." ++ b64urlEncode claims ++ str "." ++
      b64urlEncode signature =
        b64urlEncode header ++ 46 :: (b64urlEncode claims ++ 46 :: b64urlEncode signature) := by
    simp only [List.append_assoc]
    rfl
  have hdecode : base64urlDecode (b64urlEncode claims) = some claims := by
    rw [b64urlEncode_eq, base64urlDecode_eq]
    exact exactLoop_encode claims 0 []
  unfold claimsOf
  rw [hjoin, fields_append _ (dot_notMem_base64url header),
    fields_append _ (dot_notMem_base64url claims), fields_of_notMem (dot_notMem_base64url signature)]
  show (base64urlDecode (b64urlEncode claims)).bind parse = parse claims
  rw [hdecode, Option.bind_some]

section

variable {env : GrantEnv} {crypto : Crypto} {params : CibaInitiateParams}

theorem mem_cibaMembers {m : Str × Json} (hm : m ∈ cibaMembers params) : m.1 ∈ memberNames := by
  have hordered : Assoc.Ordered (cibaMembers params) := ordered_putAll _ ordered_nil
  have hlookup := hordered.lookup_iff.mpr hm
  rw [lookup_cibaMembers] at hlookup
  obtain ⟨before, after, hslot, -⟩ := List.lookup_eq_some_iff.mp (Option.join_eq_some_iff.mp hlookup)
  have hkey : m.1 ∈ (cibaSlots params).map (·.1) := by
    rw [hslot]
    simp
  have hnames : (cibaSlots params).map (·.1) =
      [str "scope", params.hint.name, str "binding_message", str "requested_expiry",
        str "acr_values", str "resource", str "client_notification_token"] := rfl
  rw [hnames] at hkey
  have hhint : params.hint.name ∈ memberNames := by
    cases params.hint
    · exact (by decide : str "login_hint" ∈ memberNames)
    · exact (by decide : str "id_token_hint" ∈ memberNames)
  have hothers : ∀ key ∈ [str "scope", str "binding_message", str "requested_expiry",
      str "acr_values", str "resource", str "client_notification_token"], key ∈ memberNames := by
    decide
  simp only [List.mem_cons, List.not_mem_nil, or_false] at hkey hothers
  rcases hkey with h | h | h | h | h | h | h
  · exact hothers _ (.inl h)
  · rw [h]
    exact hhint
  · exact hothers _ (.inr (.inl h))
  · exact hothers _ (.inr (.inr (.inl h)))
  · exact hothers _ (.inr (.inr (.inr (.inl h))))
  · exact hothers _ (.inr (.inr (.inr (.inr (.inl h)))))
  · exact hothers _ (.inr (.inr (.inr (.inr (.inr h)))))

theorem cibaClientAuth_ok {operation : Str} {auth : List (Str × Str)}
    (h : cibaClientAuth env operation = .ok auth) :
    ∃ clientId, env.oidcClientId = some clientId ∧ clientId ≠ [] ∧
      present auth = (str "client_id", clientId) ::
        ((env.oidcClientSecret.filter (· ≠ [])).map fun secret =>
          (str "client_secret", secret)).toList := by
  unfold cibaClientAuth at h
  obtain ⟨clientId, hid, h⟩ := except_bind_eq_ok.mp h
  obtain ⟨hknown, hne⟩ := requireClientId_ok hid
  refine ⟨clientId, hknown, hne, ?_⟩
  dsimp only at h
  split_ifs at h
  cases h
  unfold present
  rw [List.filter_cons_of_pos (by simpa using hne)]
  cases env.oidcClientSecret with
  | none => rfl
  | some secret =>
      by_cases hempty : secret = []
      · rw [hempty]
        rfl
      · have hsome : ((some secret).bind fun secret => if secret = [] then none else some secret) =
            some secret := if_neg hempty
        rw [hsome, Option.filter_some_pos (by simpa using hempty)]
        exact congrArg _ (List.filter_cons_of_pos (by simpa using hempty))

/-- What a form of the client's credentials and of other fields is read as. -/
theorem read_auth {auth own : List (Str × Str)} {operation : Str}
    (hauth : cibaClientAuth env operation = .ok auth)
    (hown : ∀ f ∈ own, f.1 ≠ str "client_id" ∧ f.1 ≠ str "client_secret") :
    (∃ clientId, env.oidcClientId = some clientId ∧
      valueOf "client_id" (some (Form.str (auth ++ own))) = some clientId) ∧
      valueOf "client_secret" (some (Form.str (auth ++ own))) =
        env.oidcClientSecret.filter (· ≠ []) ∧
      ∀ name, name ≠ str "client_id" → name ≠ str "client_secret" →
        valueOf name (some (Form.str (auth ++ own))) =
          ((present own).find? (·.1 = name)).map Prod.snd := by
  obtain ⟨clientId, hid, -, hpresent⟩ := cibaClientAuth_ok hauth
  have hform : present (auth ++ own) = (str "client_id", clientId) ::
      (((env.oidcClientSecret.filter (· ≠ [])).map fun secret =>
        (str "client_secret", secret)).toList ++ present own) := by
    unfold present at hpresent ⊢
    rw [List.filter_append, hpresent]
    rfl
  have hnone : (present own).find? (·.1 = str "client_secret") = none := by
    refine List.find?_eq_none.mpr fun f hf => ?_
    simpa using (hown f (List.mem_filter.mp hf).1).2
  refine ⟨⟨clientId, hid, ?_⟩, ?_, fun name hclient hsecret => ?_⟩
  · rw [valueOf_str, hform, List.find?_cons_of_pos (by simp)]
    rfl
  · have hother : str "client_id" ≠ str "client_secret" := by decide
    rw [valueOf_str, hform, List.find?_cons_of_neg (by simpa using hother), List.find?_append, hnone]
    cases env.oidcClientSecret.filter (· ≠ []) with
    | none => rfl
    | some secret => simp
  · rw [valueOf_str, hform, List.find?_cons_of_neg (by simpa using hclient.symm),
      List.find?_append]
    cases env.oidcClientSecret.filter (· ≠ []) with
    | none => rfl
    | some secret => simp [hsecret.symm]

/-- The fields that an initiation puts beside its credentials. -/
def FieldsOf (env : GrantEnv) (params : CibaInitiateParams) (own : List (Str × Str)) : Prop :=
  (params.signer = none ∧ own = (cibaMembers params).map fun m => (m.1, memberText env m.2)) ∨
    params.signer.isSome = true ∧ ∃ header signature clientId issuer now jti,
      let claims := Json.object (cibaClaims params clientId issuer now jti)
      claims.dumpable = true ∧ own = [(str "request", b64urlEncode header ++ str "." ++
        b64urlEncode (env.client.dump claims) ++ str "." ++ b64urlEncode signature)]

theorem cibaFields_ok {config : OidcConfiguration} {s t : DeviceClient} {own : List (Str × Str)}
    (h : cibaFields env crypto params config s = (.ok own, t)) : FieldsOf env params own := by
  unfold cibaFields at h
  cases hsigner : params.signer with
  | none =>
      rw [hsigner] at h
      cases h
      exact .inl ⟨hsigner, rfl⟩
  | some signer =>
      rw [hsigner] at h
      dsimp only at h
      obtain ⟨clientId, u, -, h⟩ := bind_eq_ok.mp h
      obtain ⟨jws, v, hjws, h⟩ := bind_eq_ok.mp h
      cases h
      unfold signedCibaRequest at hjws
      obtain ⟨now, u₁, -, hjws⟩ := bind_eq_ok.mp hjws
      obtain ⟨jti, u₂, -, hjws⟩ := bind_eq_ok.mp hjws
      obtain ⟨header, u₃, -, hjws⟩ := bind_eq_ok.mp hjws
      obtain ⟨claims, u₄, hclaims, hjws⟩ := bind_eq_ok.mp hjws
      have hdump : dumpText env.client
          (.object (cibaClaims params clientId config.issuer now jti)) = .ok claims :=
        congrArg Prod.fst hclaims
      unfold dumpText at hdump
      split_ifs at hdump with hdumpable
      cases hdump
      cases hsign : signer.sign (b64urlEncode header ++ str "." ++ b64urlEncode
          (env.client.dump (.object (cibaClaims params clientId config.issuer now jti)))) with
      | none =>
          simp only [hsign] at hjws
          cases hjws
      | some signature =>
          simp only [hsign] at hjws
          cases hjws
          refine .inr ⟨by rw [hsigner]; rfl, header, signature, clientId, config.issuer, now, jti,
            hdumpable, rfl⟩

theorem memberNames_apart : ∀ name ∈ memberNames,
    name ≠ str "client_id" ∧ name ≠ str "client_secret" ∧ name ≠ str "request" := by
  decide

theorem fields_apart {own : List (Str × Str)} (h : FieldsOf env params own) :
    ∀ f ∈ own, f.1 ≠ str "client_id" ∧ f.1 ≠ str "client_secret" := by
  intro f hf
  rcases h with ⟨-, rfl⟩ | ⟨-, header, signature, clientId, issuer, now, jti, -, rfl⟩
  · obtain ⟨m, hm, rfl⟩ := List.mem_map.mp hf
    obtain ⟨hclient, hsecret, -⟩ := memberNames_apart m.1 (mem_cibaMembers hm)
    exact ⟨hclient, hsecret⟩
  · obtain rfl := List.mem_singleton.mp hf
    exact (by decide : str "request" ≠ str "client_id" ∧ str "request" ≠ str "client_secret")

/-- The members that a server reads, whichever form they have. -/
theorem cibaRead_form {own : List (Str × Str)} {body name : Str} {parse : Parser}
    (hfields : FieldsOf env params own) (hparse : ReadsDumps env parse)
    (hread : ∀ name, name ≠ str "client_id" → name ≠ str "client_secret" →
      valueOf name (some body) = ((present own).find? (·.1 = name)).map Prod.snd)
    (hname : name ∈ memberNames) :
    cibaRead env parse body name =
      if params.signer.isSome then askedFor env params name
      else (askedFor env params name).filter (· ≠ []) := by
  have hrequest : valueOf "request" (some body) =
      ((present own).find? (·.1 = str "request")).map Prod.snd :=
    hread _ (by decide) (by decide)
  obtain ⟨hclient, hsecret, -⟩ := memberNames_apart name hname
  unfold cibaRead askedFor
  rcases hfields with ⟨hsigner, rfl⟩ | ⟨hsigner, header, signature, clientId, issuer, now, jti,
    hdumpable, rfl⟩
  · have hnone : (present ((cibaMembers params).map fun m => (m.1, memberText env m.2))).find?
        (·.1 = str "request") = none := by
      refine List.find?_eq_none.mpr fun f hf => ?_
      obtain ⟨m, hm, rfl⟩ := List.mem_map.mp (List.mem_filter.mp hf).1
      simpa using (memberNames_apart m.1 (mem_cibaMembers hm)).2.2
    rw [hnone] at hrequest
    rw [hrequest, hsigner, hread name hclient hsecret]
    have hordered : Assoc.Ordered (cibaMembers params) := ordered_putAll _ ordered_nil
    show ((present _).find? _).map Prod.snd = Option.filter _ _
    rw [find?_present_members hordered, lookup_cibaMembers]
  · have hjws : b64urlEncode header ++ str "." ++ b64urlEncode (env.client.dump
        (.object (cibaClaims params clientId issuer now jti))) ++ str "." ++
        b64urlEncode signature ≠ [] :=
      List.ne_nil_of_mem (a := 46)
        (List.mem_append_left _ (List.mem_append_right _ (by decide : 46 ∈ str ".")))
    unfold present at hrequest
    rw [List.filter_cons_of_pos (p := fun field : Str × Str => decide (field.2 ≠ []))
      (decide_eq_true hjws), List.find?_cons_of_pos (by simp)] at hrequest
    rw [hrequest, if_pos hsigner]
    show ((claimsOf parse _).bind (·.find? name)).map (memberText env) = _
    rw [claimsOf_signed, hparse _ hdumpable, Option.bind_some]
    show ((cibaClaims params clientId issuer now jti).lookup name).map (memberText env) = _
    rw [lookup_cibaClaims hname]

/-- A signed request has nothing beside its credentials. -/
theorem signed_alone {auth own : List (Str × Str)} (hfields : FieldsOf env params own)
    (hauth : cibaClientAuth env "ciba_initiate" = .ok auth) (hsigner : params.signer.isSome = true) :
    ∀ p ∈ parameters (some (Form.str (auth ++ own))),
      parameterName p ∈ [str "client_id", str "client_secret", str "request"] := by
  obtain ⟨clientId, -, -, hpresent⟩ := cibaClientAuth_ok hauth
  intro p hp
  rw [parameters_str] at hp
  obtain ⟨f, hf, rfl⟩ := List.mem_map.mp hp
  rw [parameterName_formPair]
  unfold present at hf hpresent
  rw [List.filter_append, hpresent] at hf
  rcases List.mem_append.mp hf with hf | hf
  · rcases List.mem_cons.mp hf with rfl | hf
    · exact List.mem_cons_self
    · obtain ⟨secret, -, rfl⟩ := Option.map_eq_some_iff.mp (Option.mem_toList.mp hf)
      exact (by decide : str "client_secret" ∈ [str "client_id", str "client_secret", str "request"])
  · rcases hfields with ⟨hnone, -⟩ | ⟨-, header, signature, clientId', issuer, now, jti, -, rfl⟩
    · rw [hnone] at hsigner
      cases hsigner
    · obtain rfl := List.mem_singleton.mp (List.mem_filter.mp hf).1
      exact (by decide : str "request" ∈ [str "client_id", str "client_secret", str "request"])

theorem initiateRequest_own {auth own : List (Str × Str)} {endpoint tenant : Str}
    (hdelivery : checkDelivery params.delivery = .ok ())
    (hauth : cibaClientAuth env "ciba_initiate" = .ok auth) (htenant : looksLikeUuid tenant = true)
    (hfields : FieldsOf env params own) :
    CibaOwn env params
      (initiateRequest env (withTenant endpoint tenant) (Form.str (auth ++ own))) := by
  obtain ⟨hclient, hsecret, hread⟩ := read_auth hauth (fields_apart hfields)
  exact {
    delivery := hdelivery
    method := rfl
    url := ⟨endpoint, tenant, rfl, htenant⟩
    sessionless := rfl
    replayable := rfl
    client := hclient
    secret := hsecret
    members := fun parse hparse name hname => cibaRead_form hfields hparse hread hname
    alone := signed_alone hfields hauth }

theorem cibaFields_keeps (config : OidcConfiguration) :
    Keeps sentSoFar (cibaFields env crypto params config) := by
  unfold cibaFields
  cases params.signer with
  | none => exact Keeps.ret _
  | some signer =>
      refine (Keeps.lift _).bind fun clientId => Keeps.bind ?_ fun _ => Keeps.ret _
      have hnow : Keeps sentSoFar (nowSeconds env) := fun _ => rfl
      refine hnow.bind fun now => (Keeps.lift _).bind fun jti => (Keeps.lift _).bind fun header => ?_
      refine (Keeps.lift _).bind fun claims => ?_
      dsimp only
      split
      · exact Keeps.raise _
      · exact Keeps.ret _

variable (env crypto params) in
/-- From whatever state, an initiation sends one request of its own at most, and never again: its
members are what the caller gave, in the plain form as in the signed one. -/
theorem cibaInitiate_spends (steady : CibaClock) :
    Writes sentSoFar (cibaInitiate env crypto steady params) (Spends env (CibaOwn env params)) := by
  refine spends_before ensureOpen_sent fun _ _ _ => ?_
  refine spends_before (Keeps.lift _) fun _ _ hdelivery => ?_
  refine spends_before (Keeps.lift _) fun _ auth hauth => ?_
  refine spends_before (Keeps.lift _) fun _ tenant htenant => ?_
  refine spends_discovered fun config => ?_
  refine Writes.once_before (Keeps.lift _) fun _ endpoint _ => ?_
  refine Writes.once_before (cibaFields_keeps config) fun s own hown => ?_
  have hfields : FieldsOf env params own := cibaFields_ok (Prod.ext hown rfl)
  refine Writes.once_after (fun c => ?_) fun resp => ?_
  · exact ⟨[_], sendRaw_sent env.client _ c.client.impl, .inr ⟨_, rfl, initiateRequest_own
      (lift_eq_ok hdelivery) (lift_eq_ok hauth) (requireTenantUuid_ok (lift_eq_ok htenant)) hfields⟩⟩
  · refine Keeps.ite (keeps_raiseGrantError sent_beside.ticks "ciba_initiate failed" resp) ?_
    have hclock : Keeps sentSoFar steady.read := fun _ => rfl
    exact hclock.bind fun _ => Keeps.lift _

/-! ## What a ping is taken for -/

theorem scanAuthorization_some (value : Str) (headers : List (Str × Str)) :
    scanAuthorization (some value) headers =
      if headers.filter (lower ·.1 = "authorization") = [] then .ok (some value)
      else .error pingRefused := by
  induction headers with
  | nil => rfl
  | cons h rest ih =>
      obtain ⟨name, v⟩ := h
      by_cases hname : lower name = "authorization"
      · rw [List.filter_cons_of_pos (by simpa using hname), if_neg (List.cons_ne_nil _ _)]
        simp only [scanAuthorization, if_neg (not_not_intro hname)]
        rfl
      · rw [List.filter_cons_of_neg (by simpa using hname), ← ih]
        simp only [scanAuthorization, if_pos hname]

theorem scanAuthorization_none (headers : List (Str × Str)) :
    scanAuthorization none headers =
      match headers.filter (lower ·.1 = "authorization") with
      | [] => .ok none
      | [h] => .ok (some h.2)
      | _ => .error pingRefused := by
  induction headers with
  | nil => rfl
  | cons h rest ih =>
      obtain ⟨name, value⟩ := h
      by_cases hname : lower name = "authorization"
      · rw [List.filter_cons_of_pos (by simpa using hname)]
        have hscan : scanAuthorization none ((name, value) :: rest) =
            scanAuthorization (some value) rest := by
          simp only [scanAuthorization, if_neg (not_not_intro hname)]
          rfl
        rw [hscan, scanAuthorization_some]
        cases rest.filter (lower ·.1 = "authorization") <;> rfl
      · rw [List.filter_cons_of_neg (by simpa using hname), ← ih]
        simp only [scanAuthorization, if_pos hname]

theorem blank_notMem_bearer {scheme : Str} (h : lower scheme = "bearer") : 32 ∉ scheme := by
  intro hmem
  have hlower : (32 : UInt8) ∈ lower scheme := List.mem_map.mpr ⟨32, hmem, by decide⟩
  rw [h] at hlower
  exact absurd hlower (by decide)

/-- A value is the expected bearer when it is the scheme, one space and the token. -/
theorem bearerMatches_iff {authorization expected : Str} :
    bearerMatches authorization expected = true ↔
      expected ≠ [] ∧ ∃ scheme, authorization = scheme ++ 32 :: expected ∧
        lower scheme = "bearer" := by
  unfold bearerMatches pingTokenMatches
  constructor
  · intro h
    split at h
    · next scheme token hcut =>
        simp only [Bool.and_eq_true, beq_iff_eq, decide_eq_true_eq] at h
        obtain ⟨hscheme, ⟨hne, -⟩, rfl⟩ := h
        exact ⟨hne, scheme, (cut_eq_some hcut).1, hscheme⟩
    · cases h
  · rintro ⟨hne, scheme, rfl, hscheme⟩
    rw [cut_append _ (blank_notMem_bearer hscheme)]
    simp [hne, hscheme]

/-- A ping is taken exactly when its one `Authorization` header is the expected bearer, and its body
names a request. -/
theorem cibaHandlePing_iff {headers : List (Str × Str)} {body expected id : Str} :
    cibaHandlePing env headers body expected = .ok id ↔
      expected ≠ [] ∧
        (∃ name scheme, headers.filter (lower ·.1 = "authorization") =
          [(name, scheme ++ 32 :: expected)] ∧ lower scheme = "bearer") ∧
        (env.client.parse body).bind (optString · "auth_req_id") = some id := by
  have hbody : ∀ o : Option Str, ((match o with
      | some id => .ok id
      | none => .error (.invalidArgument
          ("ciba_handle_ping: the ping body is not a JSON object " ++
            "carrying a non-empty auth_req_id string (CONTRACT.md §33.1)"))) :
        Except Exc Str) = .ok id ↔ o = some id := by
    intro o
    cases o <;> simp
  unfold cibaHandlePing
  rw [scanAuthorization_none]
  generalize headers.filter (fun h => decide (lower h.1 = str "authorization")) = found
  rcases found with _ | ⟨⟨name, value⟩, _ | ⟨h', rest⟩⟩
  · refine ⟨nofun, ?_⟩
    rintro ⟨-, ⟨name, scheme, hone, -⟩, -⟩
    cases hone
  · show (if bearerMatches value expected = false then _ else _) = _ ↔ _
    by_cases hmatch : bearerMatches value expected = true
    · rw [if_neg (by rw [hmatch]; decide), hbody]
      obtain ⟨hne, scheme, hvalue, hscheme⟩ := bearerMatches_iff.mp hmatch
      refine ⟨fun hid => ⟨hne, ⟨name, scheme, ?_, hscheme⟩, hid⟩, fun h => h.2.2⟩
      rw [hvalue]
    · rw [if_pos (Bool.eq_false_iff.mpr hmatch)]
      refine ⟨nofun, ?_⟩
      rintro ⟨hne, ⟨name', scheme, hone, hscheme⟩, -⟩
      cases hone
      exact absurd (bearerMatches_iff.mpr ⟨hne, scheme, rfl, hscheme⟩) hmatch
  · refine ⟨nofun, ?_⟩
    rintro ⟨-, ⟨name, scheme, hone, -⟩, -⟩
    cases hone

/-! ## The flow -/

variable (env crypto params) in
/-- What an initiation posts is its own request, and it posts once at most. -/
theorem cibaInitiate_posts (steady : CibaClock) (s : DeviceClient) :
    ∃ new, sentSoFar (cibaInitiate env crypto steady params s).2 = sentSoFar s ++ new ∧
      (new.filter (·.method = str "POST")).length ≤ 1 ∧
      ∀ req ∈ new, req.method = str "POST" → CibaOwn env params req := by
  obtain ⟨new, hnew, first, second, rfl, hfirst, honce⟩ :=
    cibaInitiate_spends env crypto params steady s
  have hget : first.filter (·.method = str "POST") = [] := by
    rcases hfirst with rfl | rfl
    · rfl
    · exact List.filter_cons_of_neg (by
        have hmethod : (discoveryRequest env.client).method = str "GET" := rfl
        rw [hmethod]
        decide)
  have hsecond : second.length ≤ 1 ∧ ∀ req ∈ second, CibaOwn env params req := by
    rcases honce with ⟨rfl, -⟩ | ⟨own, rfl, hown⟩
    · exact ⟨Nat.zero_le _, nofun⟩
    · exact ⟨le_refl _, fun req hreq => List.mem_singleton.mp hreq ▸ hown⟩
  refine ⟨first ++ second, hnew, ?_, fun req hreq hpost => ?_⟩
  · rw [List.filter_append, hget, List.nil_append]
    exact (List.length_filter_le _ _).trans hsecond.1
  · rcases List.mem_append.mp hreq with hreq | hreq
    · have hmem : req ∈ first.filter (·.method = str "POST") :=
        List.mem_filter.mpr ⟨hreq, decide_eq_true hpost⟩
      rw [hget] at hmem
      cases hmem
    · exact hsecond.2 req hreq

end

/-- A request for `alice`, who is asked on her own device; the token is for the ping. -/
def aliceParams : CibaInitiateParams where
  scope := "openid"
  hint := .loginHint "alice"
  delivery := .ping "t"

end Axiam.Oidc
