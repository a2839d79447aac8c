import Axiam.Oidc.Grants

/-!
# The code flow

`oidc_begin` puts the challenge of a verifier in a URL, and `oidc_exchange` presents the verifier with
the code that comes back.  Between the two stands an authorization server: it registers the request
it reads in the URL, and redeems a code for whoever presents the verifier of the challenge.
-/

namespace Axiam.Oidc

open Axiam.Lib Axiam.Lib.Prog Axiam.Client Uri

/-! ## The server -/

/-- The first value under a name. -/
def valueOf (name : Str) (query : Option Str) : Option Str :=
  ((parameters query).find? (parameterName · = name)).map parameterValue

/-- What a server keeps of a request. -/
structure AuthorizationRecord where
  clientId : Str
  redirectUri : Str
  challenge : Str
  nonce : Str
  deriving DecidableEq

/-- The request a server reads in a URL: for a code, with the challenge of a hashed verifier. -/
def register (url : Str) : Option AuthorizationRecord :=
  let query := (reference url).query
  if valueOf "response_type" query = some (str "code") ∧
      valueOf "code_challenge_method" query = some (str "S256") then
    match valueOf "client_id" query, valueOf "redirect_uri" query, valueOf "code_challenge" query,
        valueOf "nonce" query with
    | some clientId, some redirectUri, some challenge, some nonce =>
        some ⟨clientId, redirectUri, challenge, nonce⟩
    | _, _, _, _ => none
  else none

/-- A form that redeems a code: for the client and the URI of the request, with its verifier. -/
structure Redeems (crypto : Crypto) (r : AuthorizationRecord) (code body : Str) : Prop where
  grantType : valueOf "grant_type" (some body) = some (str "authorization_code")
  code : valueOf "code" (some body) = some code
  clientId : valueOf "client_id" (some body) = some r.clientId
  redirectUri : valueOf "redirect_uri" (some body) = some r.redirectUri
  verifier : ∃ v, valueOf "code_verifier" (some body) = some v ∧
    s256Challenge crypto v = .ok r.challenge

/-! ## Reading a form -/

theorem find?_present {fields : List (Str × Str)} {name v : Str}
    (hfind : fields.find? (·.1 = name) = some (name, v)) (hv : v ≠ []) :
    (present fields).find? (·.1 = name) = some (name, v) := by
  induction fields with
  | nil => cases hfind
  | cons field rest ih =>
      by_cases hname : field.1 = name
      · rw [List.find?_cons_of_pos (by simpa using hname)] at hfind
        cases hfind
        unfold present
        rw [List.filter_cons_of_pos (by simpa using hv), List.find?_cons_of_pos (by simp)]
      · rw [List.find?_cons_of_neg (by simpa using hname)] at hfind
        have hrest := ih hfind
        unfold present at hrest ⊢
        by_cases hempty : field.2 = []
        · rw [List.filter_cons_of_neg (by simpa using hempty)]
          exact hrest
        · rw [List.filter_cons_of_pos (by simpa using hempty),
            List.find?_cons_of_neg (by simpa using hname)]
          exact hrest

theorem valueOf_formPairs {fields : List (Str × Str)} {name v : Str} {own : List Str}
    (hown : ∀ p ∈ own, parameterName p ≠ name)
    (hfind : (present fields).find? (·.1 = name) = some (name, v)) :
    ((own ++ (present fields).map formPair).find? (parameterName · = name)).map parameterValue =
      some v := by
  have hnone : own.find? (parameterName · = name) = none :=
    List.find?_eq_none.mpr fun p hp => by simpa using hown p hp
  have hname : (fun p => decide (parameterName p = name)) ∘ formPair =
      fun field : Str × Str => decide (field.1 = name) :=
    funext fun field => by simp [parameterName_formPair]
  rw [List.find?_append, hnone, Option.none_or, List.find?_map, hname, hfind]
  exact congrArg some (parameterValue_formPair (name, v))

theorem valueOf_form {fields : List (Str × Str)} {body name v : Str}
    (hread : (parameters (some body)).map (fun q => (parameterName q, parameterValue q)) =
      present fields) (hfind : (present fields).find? (·.1 = name) = some (name, v)) :
    valueOf name (some body) = some v := by
  rw [← hread, List.find?_map] at hfind
  unfold valueOf
  obtain ⟨q, hq, hpair⟩ := Option.map_eq_some_iff.mp hfind
  have hsame : (fun p => decide (parameterName p = name)) =
      ((fun field : Str × Str => decide (field.1 = name)) ∘ fun q =>
        (parameterName q, parameterValue q)) := rfl
  rw [hsame, hq]
  exact congrArg some (Prod.mk.inj hpair).2

/-! ## The flow -/

section

variable {env : GrantEnv} {crypto : Crypto}

/-- What a begin call drew and put in its URL. -/
theorem oidcBegin_parts {config : OidcConfiguration} {redirectUri : Str}
    {scope idpHint : Option Str} {request : AuthorizationRequest}
    (h : oidcBegin env crypto config redirectUri scope idpHint = .ok request) :
    ∃ clientId challenge, env.oidcClientId = some clientId ∧ clientId ≠ [] ∧ redirectUri ≠ [] ∧
      randomB64url crypto 1 = .ok request.nonce ∧
      s256Challenge crypto request.codeVerifier = .ok challenge ∧
      request.url = appendQuery config.authorizationEndpoint (Form.str (beginFields clientId
        redirectUri (normalizeScope scope) request.state request.nonce challenge idpHint)) := by
  unfold oidcBegin at h
  obtain ⟨_, hcheck, h⟩ := except_bind_eq_ok.mp h
  by_cases hgiven : config.authorizationEndpoint = [] ∨ redirectUri = []
  · rw [if_pos hgiven] at h
    cases h
  rw [if_neg hgiven] at h
  obtain ⟨clientId, hid, h⟩ := except_bind_eq_ok.mp h
  obtain ⟨state, hstate, h⟩ := except_bind_eq_ok.mp h
  obtain ⟨nonce, hnonce, h⟩ := except_bind_eq_ok.mp h
  obtain ⟨verifier, hverifier, h⟩ := except_bind_eq_ok.mp h
  obtain ⟨challenge, hchallenge, h⟩ := except_bind_eq_ok.mp h
  cases h
  obtain ⟨hknown, hne⟩ := requireClientId_ok hid
  exact ⟨clientId, challenge, hknown, hne, fun hempty => hgiven (.inr hempty), hnonce, hchallenge, rfl⟩

theorem b64url_ne_nil {s : Str} (h : s ≠ []) : Jose.b64url s s.length ≠ [] := by
  rw [Jose.b64url_eq]
  match s with
  | [] => exact absurd rfl h
  | [_] => exact List.cons_ne_nil _ _
  | [_, _] => exact List.cons_ne_nil _ _
  | _ :: _ :: _ :: _ => exact List.cons_ne_nil _ _

/-- The names a server reads in a URL. -/
def registeredNames : List Str :=
  [str "response_type", str "client_id", str "redirect_uri", str "nonce", str "code_challenge",
    str "code_challenge_method"]

/-- An endpoint that takes a request: without a fragment, and with no parameter of a request's. -/
structure TakesRequest (endpoint : Str) : Prop where
  fragment : (reference endpoint).fragment = none
  parameters : ∀ p ∈ parameters (reference endpoint).query, parameterName p ∉ registeredNames

/-- The library draws and digests texts that are not empty. -/
structure Fills (crypto : Crypto) : Prop where
  randBytes : ∀ draw raw, crypto.randBytes draw = some raw → raw ≠ []
  sha256 : ∀ text digest, crypto.sha256 text = some digest → digest ≠ []

theorem randomB64url_ne_nil (hcrypto : Fills crypto) {draw : Nat} {text : Str}
    (h : randomB64url crypto draw = .ok text) : text ≠ [] := by
  unfold randomB64url at h
  split at h
  · next raw hraw =>
      cases h
      exact b64url_ne_nil (hcrypto.randBytes draw raw hraw)
  · cases h

theorem s256Challenge_ne_nil (hcrypto : Fills crypto) {verifier challenge : Str}
    (h : s256Challenge crypto verifier = .ok challenge) : challenge ≠ [] := by
  unfold s256Challenge at h
  split at h
  · next digest hdigest =>
      cases h
      exact b64url_ne_nil (hcrypto.sha256 verifier digest hdigest)
  · cases h

/-- A server registers what the begin call has put in its URL. -/
theorem register_oidcBegin (hcrypto : Fills crypto) {config : OidcConfiguration} {redirectUri : Str}
    {scope idpHint : Option Str} {request : AuthorizationRequest}
    (h : oidcBegin env crypto config redirectUri scope idpHint = .ok request)
    (hendpoint : TakesRequest config.authorizationEndpoint) :
    ∃ clientId challenge, env.oidcClientId = some clientId ∧
      s256Challenge crypto request.codeVerifier = .ok challenge ∧
      register request.url = some ⟨clientId, redirectUri, challenge, request.nonce⟩ := by
  obtain ⟨clientId, challenge, hid, hclient, hredirect, hnonce, hchallenge, hurl⟩ := oidcBegin_parts h
  refine ⟨clientId, challenge, hid, hchallenge, ?_⟩
  let fields := beginFields clientId redirectUri (normalizeScope scope) request.state request.nonce
    challenge idpHint
  have hread : ∀ name v, name ∈ registeredNames → fields.find? (·.1 = name) = some (name, v) →
      v ≠ [] → valueOf name (reference request.url).query = some v := by
    intro name v hname hfind hv
    unfold valueOf
    rw [hurl, parameters_appendQuery, if_pos hendpoint.fragment]
    refine valueOf_formPairs (fun p hp heq => ?_) (find?_present hfind hv)
    exact hendpoint.parameters p hp (heq ▸ hname)
  have htype := hread "response_type" "code" (by decide) rfl (by decide)
  have hmethod := hread "code_challenge_method" "S256" (by decide) rfl (by decide)
  have hclient := hread "client_id" clientId (by decide) rfl hclient
  have huri := hread "redirect_uri" redirectUri (by decide) rfl hredirect
  have hhash := hread "code_challenge" challenge (by decide) rfl
    (s256Challenge_ne_nil hcrypto hchallenge)
  have hnonce := hread "nonce" request.nonce (by decide) rfl (randomB64url_ne_nil hcrypto hnonce)
  unfold register
  simp only [htype, hmethod, hclient, huri, hhash, hnonce, and_self, if_true]

/-- The form of an exchange, at a server that registered the request of the same client. -/
theorem redeems_iff {params : OidcExchangeParams} {req : HttpRequest} {clientId redirectUri : Str}
    {challenge nonce : Str} (hown : (SpentGrant.code params).Own env req)
    (hid : env.oidcClientId = some clientId) :
    Redeems crypto ⟨clientId, redirectUri, challenge, nonce⟩ params.code req.body ↔
      params.redirectUri = redirectUri ∧ s256Challenge crypto params.codeVerifier = .ok challenge := by
  obtain ⟨hcheck, clientId', tenant, hid', hclient, -, hposts⟩ := hown
  cases hid.symm.trans hid'
  obtain ⟨hcode, huri, hverifier⟩ :
      params.code ≠ [] ∧ params.redirectUri ≠ [] ∧ params.codeVerifier ≠ [] := by
    have hgiven : checkCode params = .ok () := hcheck
    unfold checkCode at hgiven
    split_ifs at hgiven with hmissing
    exact ⟨fun h => hmissing (.inl h), fun h => hmissing (.inr (.inl h)),
      fun h => hmissing (.inr (.inr h))⟩
  have hread : ∀ name v, (codeFields env params clientId).find? (·.1 = name) = some (name, v) →
      v ≠ [] → valueOf name (some req.body) = some v := fun name v hfind hv =>
    valueOf_form hposts.form (find?_present hfind hv)
  have hgrantType := hread "grant_type" "authorization_code" rfl (by decide)
  have hcode := hread "code" params.code rfl hcode
  have huri := hread "redirect_uri" params.redirectUri rfl huri
  have hverifier := hread "code_verifier" params.codeVerifier rfl hverifier
  have hclient := hread "client_id" clientId rfl hclient
  constructor
  · rintro ⟨-, -, -, huri', v, hv, hhash⟩
    rw [huri] at huri'
    rw [hverifier] at hv
    cases hv
    exact ⟨Option.some.inj huri', hhash⟩
  · rintro ⟨rfl, hhash⟩
    exact ⟨hgrantType, hcode, hclient, huri, _, hverifier, hhash⟩

end

/-- The library of `googleLogin`. -/
def zeroCrypto : Crypto :=
  ⟨fun _ => some (List.replicate 32 0), fun _ => some (List.replicate 32 0)⟩

theorem zeroCrypto_fills : Fills zeroCrypto where
  randBytes _ _ h := by
    cases h
    decide
  sha256 _ _ h := by
    cases h
    decide

theorem realm_takesRequest : TakesRequest "https://idp.example/authorize?realm=a" where
  fragment := by decide
  parameters := by decide

end Axiam.Oidc
