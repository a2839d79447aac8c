import Axiam.Client.Requests
import Axiam.Jose.Base64
import Axiam.Oidc.IdToken
import Axiam.Oidc.Polling
import Axiam.Oidc.TenantUrl

/-!
# The identity provider a login asks for

`oidc_begin` and `oidc_par` (`src/oidc.cpp`).  A hint of the identity provider goes out in the
authorization URL; a push that is given no hint of its own reads it back from that URL.  The URL
is the discovered endpoint with the parameters at its end, so what the endpoint already carries
decides what is read back.
-/

namespace Axiam.Oidc

open Axiam.Lib Axiam.Client Uri

/-- `kKey` of `begin_url_idp_hint`. -/
def hintPrefix : Str := str "axiam_idp_hint="

/-- `begin_url_idp_hint`: the first occurrence is read. -/
def beginUrlIdpHint (url : Str) : Option Str :=
  ((splitUrl url).pairs.find? hintPrefix.isPrefixOf).map fun pair =>
    percentDecode (pair.drop hintPrefix.length)

def kIdpHintMaxBytes : Nat := 256

/-- `check_idp_hint`. -/
def checkIdpHint (idpHint : Option Str) (operation : Str) : Except Exc Unit :=
  match idpHint with
  | none => .ok ()
  | some hint =>
      if hint = [] then
        .error (.invalidArgument (operation ++ str ": idp_hint must not be empty (CONTRACT.md §12.1)"))
      else if kIdpHintMaxBytes < hint.length then
        .error (.invalidArgument (operation ++
          str ": idp_hint is longer than 256 bytes (CONTRACT.md §12.1)"))
      else .ok ()

/-- `AuthorizationRequest`. -/
structure AuthorizationRequest where
  url : Str
  state : Str
  nonce : Str
  codeVerifier : Str
  deriving DecidableEq

/-- `PushedAuthorizationRequest`. -/
structure PushedAuthorizationRequest where
  url : Str
  requestUri : Str
  expiresIn : Int
  state : Str
  nonce : Str
  codeVerifier : Str
  deriving DecidableEq

/-- The cryptographic library: the draws of random bytes, each of which may fail, and SHA-256. -/
structure Crypto where
  randBytes : Nat → Option Str
  sha256 : Str → Option Str

/-- `normalize_scope`: the token `openid` is there, as a token of its own. -/
def normalizeScope (scope : Option Str) : Str :=
  let requested := scope.getD []
  if str "openid" ∈ fields 32 requested then requested
  else if requested = [] then str "openid" else str "openid " ++ requested

section

variable (crypto : Crypto)

/-- `random_b64url`, at its draw. -/
def randomB64url (draw : Nat) : Except Exc Str :=
  match crypto.randBytes draw with
  | some raw => .ok (Jose.b64url raw raw.length)
  | none => .error (.network "oidc_begin: could not draw cryptographic randomness" "rand_failure")

/-- `s256_challenge`. -/
def s256Challenge (verifier : Str) : Except Exc Str :=
  match crypto.sha256 verifier with
  | some digest => .ok (Jose.b64url digest digest.length)
  | none => .error (.network "oidc_begin: digest failed" "digest")

end

/-! ## Beginning a flow -/

/-- The parameters of the authorization URL. -/
def beginFields (clientId redirectUri scopes state nonce challenge : Str) (idpHint : Option Str) :
    List (Str × Str) :=
  [(str "response_type", str "code"), (str "client_id", clientId),
    (str "redirect_uri", redirectUri), (str "scope", scopes), (str "state", state),
    (str "nonce", nonce), (str "code_challenge", challenge),
    (str "code_challenge_method", str "S256"), (str "axiam_idp_hint", idpHint.getD [])]

/-- Parameters put at the end of an endpoint, wherever that is. -/
def appendQuery (endpoint form : Str) : Str :=
  endpoint ++ (if 63 ∈ endpoint then str "&" else str "?") ++ form

section

variable (env : GrantEnv) (crypto : Crypto)

/-- `oidc_begin`. -/
def oidcBegin (config : OidcConfiguration) (redirectUri : Str) (scope idpHint : Option Str) :
    Except Exc AuthorizationRequest := do
  checkIdpHint idpHint "oidc_begin"
  if config.authorizationEndpoint = [] ∨ redirectUri = [] then
    .error (.network "oidc_begin requires a discovery document and a redirect_uri"
      "invalid_argument")
  else do
    let clientId ← requireClientId env "oidc_begin"
    let state ← randomB64url crypto 0
    let nonce ← randomB64url crypto 1
    let verifier ← randomB64url crypto 2
    let challenge ← s256Challenge crypto verifier
    pure {
      url := appendQuery config.authorizationEndpoint (Form.str
        (beginFields clientId redirectUri (normalizeScope scope) state nonce challenge idpHint))
      state := state
      nonce := nonce
      codeVerifier := verifier }

/-! ## Pushing it -/

/-- The form of a push. -/
def parFields (request : AuthorizationRequest) (clientId redirectUri scopes challenge : Str)
    (dpopJkt idpHint : Option Str) : List (Str × Str) :=
  [(str "response_type", str "code"), (str "redirect_uri", redirectUri), (str "scope", scopes),
    (str "state", request.state), (str "nonce", request.nonce),
    (str "code_challenge", challenge), (str "code_challenge_method", str "S256"),
    (str "dpop_jkt", dpopJkt.getD []), (str "axiam_idp_hint", idpHint.getD [])] ++
    clientAuth env clientId

/-- The request of `oidc_par`, with the client and the tenant it is for. -/
def parRequest (config : OidcConfiguration) (request : AuthorizationRequest) (redirectUri : Str)
    (scope tenantId dpopJkt idpHint : Option Str) : Except Exc (Str × Str × HttpRequest) :=
  if redirectUri = [] then .error (.auth "oidc_par needs a redirect_uri")
  else do
    let endpoint ← preferredEndpoint env config
      MtlsEndpointAliases.pushedAuthorizationRequestEndpoint
      config.pushedAuthorizationRequestEndpoint
    if endpoint.getD [] = [] then
      .error (.auth ("the authorization server's discovery document advertises no " ++
        "pushed_authorization_request_endpoint: this server does not support RFC 9126 " ++
        "(CONTRACT.md §26.1)"))
    else do
      let clientId ← requireClientId env "oidc_par"
      let tenant ← requireTenantUuid env tenantId "oidc_par"
      if request.codeVerifier = [] then
        .error (.auth "oidc_par: the authorization request carries no code_verifier")
      else do
        let challenge ← s256Challenge crypto request.codeVerifier
        pure (clientId, tenant, {
          method := "POST"
          url := withTenant (endpoint.getD []) tenant
          headers := [(str "Accept", str "application/json"),
            (str "Content-Type", str "application/x-www-form-urlencoded"),
            (str "X-Tenant-ID", env.client.tenantHeader)]
          body := Form.str (parFields env request clientId redirectUri (normalizeScope scope)
            challenge dpopJkt idpHint)
          sessionless := true })

/-- `par_redirect_url`. -/
def parRedirectUrl (authorizationEndpoint clientId requestUri tenant : Str) : Str :=
  (splitUrl authorizationEndpoint).beforeQuery ++ str "?client_id=" ++ urlEncode clientId ++
    str "&request_uri=" ++ urlEncode requestUri ++ str "&tenant_id=" ++ urlEncode tenant

/-- What `oidc_par` makes of a `2xx`. -/
def readPushed (config : OidcConfiguration) (request : AuthorizationRequest)
    (clientId tenant body : Str) : Except Exc PushedAuthorizationRequest :=
  let j := parseOrObject env.client body
  match optString j "request_uri" with
  | none => .error (.network "pushed authorization response carried no request_uri" "malformed_body")
  | some requestUri =>
      .ok {
        url := parRedirectUrl config.authorizationEndpoint clientId requestUri tenant
        requestUri := requestUri
        expiresIn := (optInt j "expires_in").getD 0
        state := request.state
        nonce := request.nonce
        codeVerifier := request.codeVerifier }

/-- The hint of a push: the argument, and where there is none the one of the begin call. -/
def pushedHint (request : AuthorizationRequest) : Option Str → Option Str
  | some hint => some hint
  | none => beginUrlIdpHint request.url

/-- `oidc_par`. -/
def oidcPar (config : OidcConfiguration) (request : AuthorizationRequest) (redirectUri : Str)
    (scope tenantId dpopJkt idpHint : Option Str) :
    Prog DeviceClient Exc PushedAuthorizationRequest := do
  let hint := pushedHint request idpHint
  Prog.lift (checkIdpHint hint "oidc_par")
  onClient (onImpl ensureOpen)
  let (clientId, tenant, req) ← Prog.lift
    (parRequest env crypto config request redirectUri scope tenantId dpopJkt hint)
  let resp ← onClient (onImpl (sendRaw env.client req))
  if resp.status < 200 ∨ 300 ≤ resp.status then
    raiseGrantError env "pushed authorization request failed" resp
  else Prog.lift (readPushed env config request clientId tenant resp.body)

end

/-! ## Forms as queries -/

/-- The parameters of two queries joined. -/
theorem parameters_join (a b : Str) :
    parameters (some (a ++ 38 :: b)) = parameters (some a) ++ parameters (some b) := by
  unfold parameters
  rw [Option.getD_some, fields_append_sep, List.filter_append]
  rfl

/-- A field as a form has it. -/
def formPair (field : Str × Str) : Str := urlEncode field.1 ++ 61 :: urlEncode field.2

theorem mem_formPair {field : Str × Str} {c : UInt8} (h : c ∈ formPair field) :
    isUnreserved c = true ∨ c = 37 ∨ c = 61 := by
  rcases List.mem_append.mp h with h | h
  · rcases mem_urlEncode h with h | h
    · exact .inl h
    · exact .inr (.inl h)
  · rcases List.mem_cons.mp h with h | h
    · exact .inr (.inr h)
    · rcases mem_urlEncode h with h | h
      · exact .inl h
      · exact .inr (.inl h)

theorem parameters_formPair (field : Str × Str) :
    parameters (some (formPair field)) = [formPair field] := by
  have hsep : 38 ∉ formPair field := by
    intro h
    rcases mem_formPair h with h | h | h <;> exact absurd h (by decide)
  have hne : formPair field ≠ [] := by
    unfold formPair
    simp
  unfold parameters
  rw [Option.getD_some, fields_of_notMem hsep, List.filter_singleton]
  simp [hne]

theorem parameters_add (form : Str) (field : Str × Str) :
    parameters (some (Form.add form field.1 field.2)) =
      parameters (some form) ++ if field.2 = [] then [] else [formPair field] := by
  unfold Form.add
  by_cases hempty : field.2 = []
  · rw [if_pos hempty, if_pos hempty, List.append_nil]
  · rw [if_neg hempty, if_neg hempty]
    by_cases hform : form = []
    · rw [if_pos hform, hform, List.nil_append, List.append_assoc]
      exact parameters_formPair field
    · rw [if_neg hform]
      have hjoin : form ++ str "&" ++ urlEncode field.1 ++ str "=" ++ urlEncode field.2 =
          form ++ 38 :: formPair field := by
        simp only [List.append_assoc, formPair]
        rfl
      rw [hjoin, parameters_join, parameters_formPair]

/-- The fields that a form has. -/
def present (fields : List (Str × Str)) : List (Str × Str) := fields.filter (·.2 ≠ [])

theorem parameters_str (fields : List (Str × Str)) :
    parameters (some (Form.str fields)) = (present fields).map formPair := by
  have hfrom : ∀ form, parameters (some (fields.foldl
      (fun form field => Form.add form field.1 field.2) form)) =
      parameters (some form) ++ (present fields).map formPair := by
    induction fields with
    | nil => simp [present]
    | cons field rest ih =>
        intro form
        rw [List.foldl_cons, ih, parameters_add, List.append_assoc]
        by_cases hempty : field.2 = [] <;> simp [present, hempty]
  exact hfrom []

theorem hash_notMem_str (fields : List (Str × Str)) : 35 ∉ Form.str fields := by
  have hfrom : ∀ form : Str, 35 ∉ form → 35 ∉ fields.foldl
      (fun form field => Form.add form field.1 field.2) form := by
    induction fields with
    | nil => exact fun _ h => h
    | cons field rest ih =>
        intro form hform
        refine ih _ ?_
        have hencoded : ∀ s, 35 ∉ urlEncode s := fun s h => by
          rcases mem_urlEncode h with h | h <;> exact absurd h (by decide)
        have hand : 35 ∉ str "&" := by decide
        have hequals : 35 ∉ str "=" := by decide
        show 35 ∉ Form.add form field.1 field.2
        unfold Form.add
        by_cases hempty : field.2 = []
        · rwa [if_pos hempty]
        · rw [if_neg hempty]
          by_cases hnone : form = []
          · simp [hnone, hencoded, hequals]
          · simp [hnone, hencoded, hequals, hand, hform]
  exact hfrom [] List.not_mem_nil

theorem equals_notMem_urlEncode (s : Str) : 61 ∉ urlEncode s := fun h => by
  rcases mem_urlEncode h with h | h <;> exact absurd h (by decide)

theorem parameterName_formPair (field : Str × Str) : parameterName (formPair field) = field.1 := by
  have hspelled : spelledName (formPair field) = urlEncode field.1 :=
    (spelledName_eq_iff (equals_notMem_urlEncode field.1)).mpr
      (.inr ⟨urlEncode field.2, by rw [List.append_assoc]; rfl⟩)
  unfold parameterName
  rw [hspelled, percentDecode_urlEncode]

theorem parameterValue_formPair (field : Str × Str) :
    parameterValue (formPair field) = field.2 := by
  unfold formPair
  rw [parameterValue_joined (equals_notMem_urlEncode field.1), percentDecode_urlEncode]

/-! ## Reading a hint -/

theorem splitUrl_pairs (url : Str) : (splitUrl url).pairs = parameters (reference url).query := by
  obtain ⟨hier, query, fragment, rfl, hhier, hquery⟩ := exists_marked url
  rw [reference_marked hhier hquery, splitUrl_marked hhier hquery]

def hintKey : Str := str "axiam_idp_hint"

/-- The first hint among some parameters. -/
def firstHint (pairs : List Str) : Option Str :=
  (pairs.find? hintPrefix.isPrefixOf).map fun pair => percentDecode (pair.drop hintPrefix.length)

theorem beginUrlIdpHint_eq (url : Str) :
    beginUrlIdpHint url = firstHint (parameters (reference url).query) := by
  unfold beginUrlIdpHint firstHint
  rw [splitUrl_pairs]

theorem firstHint_append (a b : List Str) : firstHint (a ++ b) = (firstHint a).or (firstHint b) := by
  unfold firstHint
  rw [List.find?_append]
  cases a.find? hintPrefix.isPrefixOf <;> rfl

theorem firstHint_eq_none {pairs : List Str} :
    firstHint pairs = none ↔ ∀ p ∈ pairs, ¬hintPrefix <+: p := by
  unfold firstHint
  rw [Option.map_eq_none_iff, List.find?_eq_none]
  simp only [List.isPrefixOf_iff_prefix]

/-- A field is a hint by its key. -/
theorem isPrefixOf_formPair (field : Str × Str) :
    hintPrefix.isPrefixOf (formPair field) = decide (field.1 = hintKey) := by
  rw [Bool.eq_iff_iff, decide_eq_true_eq, List.isPrefixOf_iff_prefix]
  constructor
  · intro h
    have hspelled : spelledName (formPair field) = hintKey :=
      (spelledName_eq_iff (by decide)).mpr (.inr h)
    have hname := parameterName_formPair field
    unfold parameterName at hname
    rw [hspelled] at hname
    rw [← hname]
    decide
  · intro h
    refine ⟨urlEncode field.2, ?_⟩
    unfold formPair
    rw [h, show urlEncode hintKey = hintKey by decide]
    rfl

theorem firstHint_form (fields : List (Str × Str)) :
    firstHint (parameters (some (Form.str fields))) =
      ((present fields).find? (·.1 = hintKey)).map (·.2) := by
  have hkeys : hintPrefix.isPrefixOf ∘ formPair = fun field : Str × Str =>
      decide (field.1 = hintKey) := funext isPrefixOf_formPair
  unfold firstHint
  rw [parameters_str, List.find?_map, hkeys, Option.map_map]
  refine Option.map_congr fun field hfield => ?_
  have hkey : field.1 = hintKey := by simpa using List.find?_some hfield
  have hdrop : (formPair field).drop hintPrefix.length = urlEncode field.2 := by
    unfold formPair
    rw [hkey, show urlEncode hintKey = hintKey by decide]
    rfl
  show percentDecode ((formPair field).drop hintPrefix.length) = field.2
  rw [hdrop, percentDecode_urlEncode]

/-- The hints a body has. -/
def pushedHints (body : Str) : List Str :=
  ((parameters (some body)).filter fun p => parameterName p = hintKey).map parameterValue

theorem pushedHints_form (fields : List (Str × Str)) :
    pushedHints (Form.str fields) = ((present fields).filter (·.1 = hintKey)).map (·.2) := by
  unfold pushedHints
  rw [parameters_str, List.filter_map, List.map_map]
  have hname : (fun p => decide (parameterName p = hintKey)) ∘ formPair =
      fun field : Str × Str => decide (field.1 = hintKey) :=
    funext fun field => by simp [parameterName_formPair]
  have hvalue : parameterValue ∘ formPair = fun field : Str × Str => field.2 :=
    funext parameterValue_formPair
  rw [hname, hvalue]

/-! ## What the endpoint does to a hint -/

/-- The query of an endpoint that parameters were put at the end of: a fragment takes them in. -/
theorem parameters_appendQuery (endpoint : Str) (fields : List (Str × Str)) :
    parameters (reference (appendQuery endpoint (Form.str fields))).query =
      parameters (reference endpoint).query ++
        if (reference endpoint).fragment = none then (present fields).map formPair else [] := by
  obtain ⟨hier, query, fragment, rfl, hhier, hquery⟩ := exists_marked endpoint
  have hmark : 63 ∉ hier := fun h => absurd (hhier 63 h) (by decide)
  have hform := hash_notMem_str fields
  rw [reference_marked hhier hquery]
  cases fragment with
  | some f =>
      have hurl : ∃ rest, appendQuery (hier ++ (marked 63 query ++ marked 35 (some f)))
          (Form.str fields) = hier ++ (marked 63 query ++ marked 35 (some (f ++ rest))) :=
        ⟨_, by simp only [appendQuery, marked, List.append_assoc, List.cons_append]; rfl⟩
      obtain ⟨rest, hurl⟩ := hurl
      rw [hurl, reference_marked hhier hquery]
      simp
  | none =>
      cases query with
      | none =>
          have hurl : appendQuery (hier ++ (marked 63 none ++ marked 35 none)) (Form.str fields) =
              hier ++ (marked 63 (some (Form.str fields)) ++ marked 35 none) := by
            simp only [appendQuery, marked, List.append_nil, if_neg hmark, List.append_assoc]
            rfl
          rw [hurl, reference_marked hhier fun q hq => by cases hq; exact hform]
          simp only [parameters_str, if_pos]
          rfl
      | some q =>
          have hsome : 63 ∈ hier ++ (marked 63 (some q) ++ marked 35 none) := by simp [marked]
          have hurl : appendQuery (hier ++ (marked 63 (some q) ++ marked 35 none))
              (Form.str fields) =
              hier ++ (marked 63 (some (q ++ 38 :: Form.str fields)) ++ marked 35 none) := by
            unfold appendQuery
            rw [if_pos hsome]
            simp only [marked, List.append_nil, List.append_assoc, List.cons_append]
            rfl
          have hjoined : ∀ r ∈ some (q ++ 38 :: Form.str fields), 35 ∉ r := fun r hr => by
            cases hr
            simpa [hform] using hquery q rfl
          rw [hurl, reference_marked hhier hjoined]
          simp only [parameters_join, parameters_str, if_pos]

/-- The hints of a form with one field for them. -/
theorem hints_present {fields : List (Str × Str)} {idpHint : Option Str}
    (hone : fields.filter (·.1 = hintKey) = [(hintKey, idpHint.getD [])])
    (hne : idpHint ≠ some []) :
    ((present fields).filter (·.1 = hintKey)).map (·.2) = idpHint.toList := by
  unfold present
  rw [List.filter_comm, hone]
  cases idpHint with
  | none => rfl
  | some hint =>
      have hhint : hint ≠ [] := fun heq => hne (congrArg some heq)
      simp [hhint]

theorem beginFields_hint (clientId redirectUri scopes state nonce challenge : Str)
    (idpHint : Option Str) :
    (beginFields clientId redirectUri scopes state nonce challenge idpHint).filter
      (·.1 = hintKey) = [(hintKey, idpHint.getD [])] := rfl

theorem parFields_hint (env : GrantEnv) (request : AuthorizationRequest)
    (clientId redirectUri scopes challenge : Str) (dpopJkt idpHint : Option Str) :
    (parFields env request clientId redirectUri scopes challenge dpopJkt idpHint).filter
      (·.1 = hintKey) = [(hintKey, idpHint.getD [])] := by
  unfold parFields clientAuth
  rw [List.filter_append]
  cases env.oidcClientSecret <;> rfl

theorem checkIdpHint_ok {idpHint : Option Str} {operation : Str}
    (h : checkIdpHint idpHint operation = .ok ()) : idpHint ≠ some [] := by
  rintro rfl
  cases h

section

variable (env : GrantEnv) (crypto : Crypto)

/-- The URL of a begin call is its endpoint with its parameters. -/
theorem oidcBegin_url {config : OidcConfiguration} {redirectUri : Str}
    {scope idpHint : Option Str} {request : AuthorizationRequest}
    (h : oidcBegin env crypto config redirectUri scope idpHint = .ok request) :
    idpHint ≠ some [] ∧ ∃ clientId scopes challenge,
      request.url = appendQuery config.authorizationEndpoint (Form.str (beginFields clientId
        redirectUri scopes request.state request.nonce challenge idpHint)) := by
  unfold oidcBegin at h
  obtain ⟨_, hcheck, h⟩ := except_bind_eq_ok.mp h
  refine ⟨checkIdpHint_ok hcheck, ?_⟩
  by_cases hgiven : config.authorizationEndpoint = [] ∨ redirectUri = []
  · rw [if_pos hgiven] at h
    cases h
  · rw [if_neg hgiven] at h
    obtain ⟨clientId, -, h⟩ := except_bind_eq_ok.mp h
    obtain ⟨state, -, h⟩ := except_bind_eq_ok.mp h
    obtain ⟨nonce, -, h⟩ := except_bind_eq_ok.mp h
    obtain ⟨verifier, -, h⟩ := except_bind_eq_ok.mp h
    obtain ⟨challenge, -, h⟩ := except_bind_eq_ok.mp h
    cases h
    exact ⟨clientId, _, challenge, rfl⟩

/-- What is read back is the endpoint's own hint, and after it the one that was passed unless a
fragment took it in. -/
theorem beginUrlIdpHint_oidcBegin {config : OidcConfiguration} {redirectUri : Str}
    {scope idpHint : Option Str} {request : AuthorizationRequest}
    (h : oidcBegin env crypto config redirectUri scope idpHint = .ok request) :
    beginUrlIdpHint request.url = (beginUrlIdpHint config.authorizationEndpoint).or
      (if (reference config.authorizationEndpoint).fragment = none then idpHint else none) := by
  obtain ⟨hne, clientId, scopes, challenge, hurl⟩ := oidcBegin_url env crypto h
  rw [beginUrlIdpHint_eq, beginUrlIdpHint_eq, hurl, parameters_appendQuery, firstHint_append]
  congr 1
  by_cases hfragment : (reference config.authorizationEndpoint).fragment = none
  · rw [if_pos hfragment, if_pos hfragment, ← parameters_str, firstHint_form, ← List.head?_filter,
      ← List.head?_map, hints_present (beginFields_hint ..) hne]
    cases idpHint <;> rfl
  · rw [if_neg hfragment, if_neg hfragment]
    rfl

/-- What a push sends is its own request, for the hint it came to; a push that returns has sent
it, and sent it once. -/
theorem oidcPar_sent (config : OidcConfiguration) (request : AuthorizationRequest)
    (redirectUri : Str) (scope tenantId dpopJkt idpHint : Option Str) (s : DeviceClient) :
    ∃ reqs, (oidcPar env crypto config request redirectUri scope tenantId dpopJkt idpHint
        s).2.client.impl.sent = s.client.impl.sent ++ reqs ∧ reqs.length ≤ 1 ∧
      (∀ pushed, (oidcPar env crypto config request redirectUri scope tenantId dpopJkt idpHint
        s).1 = .ok pushed → reqs.length = 1) ∧
      ∀ r ∈ reqs, checkIdpHint (pushedHint request idpHint) "oidc_par" = .ok () ∧
        ∃ clientId tenant, parRequest env crypto config request redirectUri scope tenantId dpopJkt
          (pushedHint request idpHint) = .ok (clientId, tenant, r) := by
  have hnothing : ∀ {P : HttpRequest → Prop} {e : Exc},
      ∃ reqs, s.client.impl.sent = s.client.impl.sent ++ reqs ∧ reqs.length ≤ 1 ∧
        (∀ pushed, (.error e : Except Exc PushedAuthorizationRequest) = .ok pushed →
          reqs.length = 1) ∧ ∀ r ∈ reqs, P r :=
    ⟨[], (List.append_nil _).symm, Nat.zero_le _, by simp, by simp⟩
  unfold oidcPar
  rw [Prog.bind_run, Prog.lift_run]
  cases hcheck : checkIdpHint (pushedHint request idpHint) "oidc_par" with
  | error e => exact hnothing
  | ok checked =>
      simp only
      by_cases hopen : s.client.impl.closed = true
      · have hrun : onClient (onImpl ensureOpen) s = (.error closedError, s) := by
          rw [onClient, onImpl, Prog.zoom, Prog.zoom, ensureOpen_run_closed hopen]
        rw [Prog.bind_run_error hrun]
        exact hnothing
      · rw [Bool.not_eq_true] at hopen
        have hrun : onClient (onImpl ensureOpen) s = (.ok (), s) := by
          rw [onClient, onImpl, Prog.zoom, Prog.zoom, ensureOpen_run_open hopen]
        rw [Prog.bind_run_ok hrun, Prog.bind_run, Prog.lift_run]
        cases hbuilt : parRequest env crypto config request redirectUri scope tenantId dpopJkt
            (pushedHint request idpHint) with
        | error e => exact hnothing
        | ok built =>
            obtain ⟨clientId, tenant, req⟩ := built
            -- reading the answer sends nothing more
            have hafter : ∀ resp, Prog.Keeps (fun c : DeviceClient => c.client)
                (if resp.status < 200 ∨ 300 ≤ resp.status then
                  raiseGrantError env "pushed authorization request failed" resp
                else Prog.lift (readPushed env config request clientId tenant resp.body)) :=
              fun resp => .ite (keeps_raiseGrantError (fun _ _ => rfl) _ resp) (.lift _)
            have hsent : (onClient (onImpl (sendRaw env.client req)) s).2.client.impl.sent =
                s.client.impl.sent ++ [req] := sendRaw_sent env.client req s.client.impl
            refine ⟨[req], ?_, le_rfl, fun _ _ => rfl, fun r hr => ?_⟩
            · simp only
              rw [Prog.bind_run]
              rcases hrun : onClient (onImpl (sendRaw env.client req)) s with ⟨e | resp, t⟩
              · rwa [hrun] at hsent
              · rw [hrun] at hsent
                have hkept := hafter resp t
                simp only at hkept ⊢
                rw [hkept]
                exact hsent
            · rw [List.mem_singleton.mp hr]
              exact ⟨trivial, clientId, tenant, rfl⟩

/-- The hints of a push's body are the hint it came to. -/
theorem pushedHints_parRequest {config : OidcConfiguration} {request : AuthorizationRequest}
    {redirectUri clientId tenant : Str} {scope tenantId dpopJkt idpHint : Option Str}
    {r : HttpRequest} (hne : idpHint ≠ some [])
    (h : parRequest env crypto config request redirectUri scope tenantId dpopJkt idpHint =
      .ok (clientId, tenant, r)) : pushedHints r.body = idpHint.toList := by
  unfold parRequest at h
  by_cases hredirect : redirectUri = []
  · rw [if_pos hredirect] at h
    cases h
  · rw [if_neg hredirect] at h
    obtain ⟨endpoint, -, h⟩ := except_bind_eq_ok.mp h
    by_cases hendpoint : endpoint.getD [] = []
    · rw [if_pos hendpoint] at h
      cases h
    · rw [if_neg hendpoint] at h
      obtain ⟨_, -, h⟩ := except_bind_eq_ok.mp h
      obtain ⟨_, -, h⟩ := except_bind_eq_ok.mp h
      by_cases hverifier : request.codeVerifier = []
      · rw [if_pos hverifier] at h
        cases h
      · rw [if_neg hverifier] at h
        obtain ⟨challenge, -, h⟩ := except_bind_eq_ok.mp h
        cases h
        rw [pushedHints_form, hints_present (parFields_hint ..) hne]

/-- The hint of a begin call is read back from its URL, and is the hint of every push that is
given none: of its one request. -/
structure HintKept (request : AuthorizationRequest) (idpHint : Option Str) : Prop where
  read : beginUrlIdpHint request.url = idpHint
  pushed : ∀ config redirectUri scope tenantId dpopJkt s, ∃ reqs,
    (oidcPar env crypto config request redirectUri scope tenantId dpopJkt none
        s).2.client.impl.sent = s.client.impl.sent ++ reqs ∧ reqs.length ≤ 1 ∧
      (∀ pushed, (oidcPar env crypto config request redirectUri scope tenantId dpopJkt none
        s).1 = .ok pushed → reqs.length = 1) ∧
      ∀ r ∈ reqs, pushedHints r.body = idpHint.toList

/-- An endpoint whose query names no hint, and is not over before the endpoint is. -/
def TakesHint (endpoint : Str) : Prop :=
  (reference endpoint).fragment = none ∧
    ∀ p ∈ parameters (reference endpoint).query, ¬hintPrefix <+: p

/-- A hint survives in an endpoint that takes it, and in one that has it already. -/
theorem oidcBegin_keeps_hint_iff {config : OidcConfiguration} {redirectUri : Str}
    {scope idpHint : Option Str} {request : AuthorizationRequest}
    (h : oidcBegin env crypto config redirectUri scope idpHint = .ok request) :
    HintKept env crypto request idpHint ↔
      TakesHint config.authorizationEndpoint ∨
        beginUrlIdpHint config.authorizationEndpoint = idpHint := by
  have hread := beginUrlIdpHint_oidcBegin env crypto h
  obtain ⟨hne, -⟩ := oidcBegin_url env crypto h
  have hnone : beginUrlIdpHint config.authorizationEndpoint = none ↔
      ∀ p ∈ parameters (reference config.authorizationEndpoint).query, ¬hintPrefix <+: p := by
    rw [beginUrlIdpHint_eq, firstHint_eq_none]
  constructor
  · rintro ⟨hkept, -⟩
    rw [hread] at hkept
    unfold TakesHint
    rw [← hnone]
    cases hown : beginUrlIdpHint config.authorizationEndpoint with
    | some own =>
        rw [hown] at hkept
        exact .inr hkept
    | none =>
        rw [hown, Option.none_or] at hkept
        by_cases hfragment : (reference config.authorizationEndpoint).fragment = none
        · exact .inl ⟨hfragment, rfl⟩
        · rw [if_neg hfragment] at hkept
          exact .inr hkept
  · intro hendpoint
    have hkept : beginUrlIdpHint request.url = idpHint := by
      rw [hread]
      rcases hendpoint with ⟨hfragment, hown⟩ | hown
      · rw [if_pos hfragment, hnone.mpr hown, Option.none_or]
      · rw [hown]
        cases idpHint <;> simp
    refine ⟨hkept, fun config redirectUri scope tenantId dpopJkt s => ?_⟩
    obtain ⟨reqs, hsent, hone, hreturned, hreqs⟩ :=
      oidcPar_sent env crypto config request redirectUri scope tenantId dpopJkt none s
    refine ⟨reqs, hsent, hone, hreturned, fun r hr => ?_⟩
    obtain ⟨-, clientId, tenant, hbuilt⟩ := hreqs r hr
    rw [pushedHint, hkept] at hbuilt
    exact pushedHints_parRequest env crypto hne hbuilt

end

/-- A login for `google` at an endpoint, every random byte of which is zero. -/
def googleLogin (endpoint : Str) : Except Exc AuthorizationRequest :=
  oidcBegin (rpEnv rpParse)
    ⟨fun _ => some (List.replicate 32 0), fun _ => some (List.replicate 32 0)⟩
    { issuerConfig with authorizationEndpoint := endpoint } (str "https://rp.example/cb") none
    (some (str "google"))

theorem google_kept_beside_query : ∃ request crypto,
    googleLogin (str "https://idp.example/authorize?realm=a") = .ok request ∧
      HintKept (rpEnv rpParse) crypto request (some (str "google")) := by
  have hok : (googleLogin (str "https://idp.example/authorize?realm=a")).isOk = true := by
    decide
  cases hbegun : googleLogin (str "https://idp.example/authorize?realm=a") with
  | error e =>
      rw [hbegun] at hok
      cases hok
  | ok request =>
      refine ⟨request, _, rfl, (oidcBegin_keeps_hint_iff (rpEnv rpParse) _ hbegun).mpr (.inl ?_)⟩
      exact ⟨by decide, by decide⟩

/-- A fragment swallows the parameters, and with them the hint. -/
theorem google_lost_in_fragment : ∃ request,
    googleLogin (str "https://idp.example/authorize#top") = .ok request ∧
      beginUrlIdpHint request.url = none ∧
        ∀ env crypto, ¬HintKept env crypto request (some (str "google")) := by
  have hread : ((googleLogin (str "https://idp.example/authorize#top")).toOption.map fun request =>
      beginUrlIdpHint request.url) = some none := by decide
  cases hbegun : googleLogin (str "https://idp.example/authorize#top") with
  | error e =>
      rw [hbegun] at hread
      cases hread
  | ok request =>
      rw [hbegun] at hread
      have hnone : beginUrlIdpHint request.url = none := Option.some.inj hread
      refine ⟨request, rfl, hnone, fun env crypto hkept => ?_⟩
      have hsome := hkept.read
      rw [hnone] at hsome
      cases hsome

end Axiam.Oidc
