import Axiam.Client.Account

/-!
# Discovery

`oidc_discover` (`src/oidc.cpp`): the provider's configuration document, fetched at most once in
the lifetime of the copy the client keeps.
-/

namespace Axiam.Oidc

open Axiam.Lib Axiam.Client

/-- `MtlsEndpointAliases`: the endpoints a second host serves. -/
structure MtlsEndpointAliases where
  tokenEndpoint : Option Str
  userinfoEndpoint : Option Str
  revocationEndpoint : Option Str
  introspectionEndpoint : Option Str
  deviceAuthorizationEndpoint : Option Str
  pushedAuthorizationRequestEndpoint : Option Str
  backchannelAuthenticationEndpoint : Option Str
  deriving DecidableEq

/-- `OidcConfiguration`. -/
structure OidcConfiguration where
  issuer : Str
  authorizationEndpoint : Str
  tokenEndpoint : Str
  jwksUri : Str
  userinfoEndpoint : Option Str
  introspectionEndpoint : Option Str
  revocationEndpoint : Option Str
  endSessionEndpoint : Option Str
  deviceAuthorizationEndpoint : Option Str
  pushedAuthorizationRequestEndpoint : Option Str
  backchannelAuthenticationEndpoint : Option Str
  backchannelTokenDeliveryModesSupported : List Str
  backchannelAuthenticationRequestSigningAlgValuesSupported : List Str
  backchannelUserCodeParameterSupported : Option Bool
  scopesSupported : List Str
  responseTypesSupported : List Str
  idTokenSigningAlgValuesSupported : List Str
  codeChallengeMethodsSupported : List Str
  tokenEndpointAuthSigningAlgValuesSupported : List Str
  revocationEndpointAuthMethodsSupported : List Str
  revocationEndpointAuthSigningAlgValuesSupported : List Str
  introspectionEndpointAuthMethodsSupported : List Str
  introspectionEndpointAuthSigningAlgValuesSupported : List Str
  mtlsEndpointAliases : Option MtlsEndpointAliases
  deriving DecidableEq

/-- A client with the document it holds. -/
structure Discovering where
  impl : Impl := {}
  oidcConfig : Option OidcConfiguration := none
  oidcConfigExpiresAt : Int := 0

/-- A program of the client alone. -/
def onImpl {α : Type} : Prog Impl Exc α → Prog Discovering Exc α :=
  Prog.zoom Discovering.impl fun s t => { t with impl := s }

/-! ## Reading the document -/

/-- `string_array`: a bare string counts as one, and what is no string is skipped. -/
def stringArray (j : Json) (key : Str) : List Str :=
  match j.find? key with
  | some (.string s) => [s]
  | some (.array items) => items.filterMap Json.string?
  | _ => []

theorem mem_audiences {j : Json} {aud : Str} : aud ∈ stringArray j "aud" ↔ j.NamesAudience aud := by
  unfold stringArray Json.NamesAudience
  rcases j.find? "aud" with _ | member
  · simp
  · cases member with
    | string s => simp [eq_comm]
    | array items =>
        simp only [List.mem_filterMap, Option.some.injEq, reduceCtorEq, false_or, Json.array.injEq,
          exists_eq_left']
        constructor
        · rintro ⟨item, hmem, hread⟩
          cases item with
          | string s =>
              cases hread
              exact hmem
          | _ => cases hread
        · intro hmem
          exact ⟨_, hmem, rfl⟩
    | _ => simp

theorem several_audiences {j : Json} :
    1 < (stringArray j "aud").length ↔ j.SeveralAudiences := by
  have htexts : ∀ items : List Json,
      (items.filterMap Json.string?).length = items.countP Json.isString := by
    intro items
    rw [List.length_filterMap_eq_countP]
    refine List.countP_congr fun item _ => ?_
    cases item <;> simp [Json.string?, Json.isString]
  unfold stringArray Json.SeveralAudiences
  rcases j.find? "aud" with _ | member
  · simp
  · cases member <;> simp [htexts]

/-- A member that is a boolean. -/
def optBool (j : Json) (key : Str) : Option Bool :=
  match j.find? key with
  | some (.boolean b) => some b
  | _ => none

def readAliases (j : Json) : Option MtlsEndpointAliases :=
  match j.find? "mtls_endpoint_aliases" with
  | some (.object members) =>
      let a := Json.object members
      some {
        tokenEndpoint := optString a "token_endpoint"
        userinfoEndpoint := optString a "userinfo_endpoint"
        revocationEndpoint := optString a "revocation_endpoint"
        introspectionEndpoint := optString a "introspection_endpoint"
        deviceAuthorizationEndpoint := optString a "device_authorization_endpoint"
        pushedAuthorizationRequestEndpoint := optString a "pushed_authorization_request_endpoint"
        backchannelAuthenticationEndpoint := optString a "backchannel_authentication_endpoint" }
  | _ => none

/-- The four endpoints nothing works without, and beside them what is optional. -/
def readConfiguration (j : Json) : Except Exc OidcConfiguration := do
  let issuer ← liftJson (j.valueString "issuer" [])
  let authorizationEndpoint ← liftJson (j.valueString "authorization_endpoint" [])
  let tokenEndpoint ← liftJson (j.valueString "token_endpoint" [])
  let jwksUri ← liftJson (j.valueString "jwks_uri" [])
  if issuer = [] ∨ authorizationEndpoint = [] ∨ tokenEndpoint = [] ∨ jwksUri = [] then
    .error (.network ("oidc discovery: missing issuer / authorization_endpoint / token_endpoint " ++
      "/ jwks_uri") "malformed_body")
  else
    pure {
      issuer := issuer
      authorizationEndpoint := authorizationEndpoint
      tokenEndpoint := tokenEndpoint
      jwksUri := jwksUri
      userinfoEndpoint := optString j "userinfo_endpoint"
      introspectionEndpoint := optString j "introspection_endpoint"
      revocationEndpoint := optString j "revocation_endpoint"
      endSessionEndpoint := optString j "end_session_endpoint"
      deviceAuthorizationEndpoint := optString j "device_authorization_endpoint"
      pushedAuthorizationRequestEndpoint := optString j "pushed_authorization_request_endpoint"
      backchannelAuthenticationEndpoint := optString j "backchannel_authentication_endpoint"
      backchannelTokenDeliveryModesSupported :=
        stringArray j "backchannel_token_delivery_modes_supported"
      backchannelAuthenticationRequestSigningAlgValuesSupported :=
        stringArray j "backchannel_authentication_request_signing_alg_values_supported"
      backchannelUserCodeParameterSupported := optBool j "backchannel_user_code_parameter_supported"
      scopesSupported := stringArray j "scopes_supported"
      responseTypesSupported := stringArray j "response_types_supported"
      idTokenSigningAlgValuesSupported := stringArray j "id_token_signing_alg_values_supported"
      codeChallengeMethodsSupported := stringArray j "code_challenge_methods_supported"
      tokenEndpointAuthSigningAlgValuesSupported :=
        stringArray j "token_endpoint_auth_signing_alg_values_supported"
      revocationEndpointAuthMethodsSupported :=
        stringArray j "revocation_endpoint_auth_methods_supported"
      revocationEndpointAuthSigningAlgValuesSupported :=
        stringArray j "revocation_endpoint_auth_signing_alg_values_supported"
      introspectionEndpointAuthMethodsSupported :=
        stringArray j "introspection_endpoint_auth_methods_supported"
      introspectionEndpointAuthSigningAlgValuesSupported :=
        stringArray j "introspection_endpoint_auth_signing_alg_values_supported"
      mtlsEndpointAliases := readAliases j }

section

variable (env : Env)

/-- The request of a discovery: no session, no body. -/
def discoveryRequest : HttpRequest where
  method := "GET"
  url := env.baseUrl ++ "/.well-known/openid-configuration"
  headers := [(str "Accept", str "application/json"), (str "X-Tenant-ID", env.tenantHeader)]

/-- What a discovery makes of its answer. -/
def readDiscovery (resp : HttpResponse) : Except Exc OidcConfiguration :=
  if resp.isSuccess then readConfiguration (parseOrObject env resp.body)
  else .error (.network (str "oidc discovery failed (HTTP " ++ toStr resp.status ++ ")")
    (httpCause resp.status))

/-- The document from the provider, kept for `ttl`. -/
def fetchConfiguration (ttl : Int) : Prog Discovering Exc OidcConfiguration := do
  let resp ← onImpl (sendRaw env (discoveryRequest env))
  let cfg ← Prog.lift (readDiscovery env resp)
  let t ← onImpl (now env)
  Prog.modify fun d => { d with oidcConfig := some cfg, oidcConfigExpiresAt := t + ttl }
  pure cfg

/-- `oidc_discover`: the clock is read only when there is a document to be too old. -/
def oidcDiscover (ttl : Int) : Prog Discovering Exc OidcConfiguration := do
  onImpl ensureOpen
  let d ← Prog.read
  match d.oidcConfig with
  | none => fetchConfiguration env ttl
  | some cfg => do
      let t ← onImpl (now env)
      if t < d.oidcConfigExpiresAt then pure cfg else fetchConfiguration env ttl

end

/-! ## The issuer of a document -/

/-- The document the client keeps has an issuer. -/
def Discovering.IssuerKnown (d : Discovering) : Prop :=
  ∀ cfg, d.oidcConfig = some cfg → cfg.issuer ≠ []

theorem readConfiguration_issuer {j : Json} {cfg : OidcConfiguration}
    (h : readConfiguration j = .ok cfg) : cfg.issuer ≠ [] := by
  unfold readConfiguration at h
  obtain ⟨issuer, -, h⟩ := except_bind_eq_ok.mp h
  obtain ⟨authorization, -, h⟩ := except_bind_eq_ok.mp h
  obtain ⟨token, -, h⟩ := except_bind_eq_ok.mp h
  obtain ⟨jwks, -, h⟩ := except_bind_eq_ok.mp h
  split_ifs at h with hempty
  cases h
  exact fun hissuer => hempty (.inl hissuer)

theorem onImpl_issuerKnown {α : Type} (m : Prog Impl Exc α) :
    Prog.Triple Discovering.IssuerKnown (onImpl m) (fun _ d => d.IssuerKnown)
      fun _ d => d.IssuerKnown := by
  intro d hd
  unfold onImpl Prog.zoom
  rcases m d.impl with ⟨e | a, s⟩ <;> exact hd

variable (env : Env) in
/-- Every document a caller is handed has an issuer. -/
theorem oidcDiscover_issuer (ttl : Int) :
    Prog.Triple Discovering.IssuerKnown (oidcDiscover env ttl)
      (fun cfg d => cfg.issuer ≠ [] ∧ d.IssuerKnown) fun _ d => d.IssuerKnown := by
  have hfetch : Prog.Triple Discovering.IssuerKnown (fetchConfiguration env ttl)
      (fun cfg d => cfg.issuer ≠ [] ∧ d.IssuerKnown) fun _ d => d.IssuerKnown := by
    unfold fetchConfiguration
    refine (onImpl_issuerKnown _).bind fun resp => ?_
    have hread : Prog.Triple Discovering.IssuerKnown (Prog.lift (readDiscovery env resp))
        (fun cfg d => cfg.issuer ≠ [] ∧ d.IssuerKnown) fun _ d => d.IssuerKnown := by
      refine Prog.Triple.lift (fun cfg d hok hd => ⟨?_, hd⟩) fun _ _ _ hd => hd
      unfold readDiscovery at hok
      split_ifs at hok
      exact readConfiguration_issuer hok
    refine hread.bind fun cfg => ?_
    intro d ⟨hissuer, hd⟩
    have hstore := (onImpl_issuerKnown (now env)).bind fun t =>
      (Prog.Triple.modify (Q := fun _ d => Discovering.IssuerKnown d)
        (f := fun d => { d with oidcConfig := some cfg, oidcConfigExpiresAt := t + ttl })
        fun d _ cfg' h => Option.some.inj h ▸ hissuer).bind fun _ =>
      (Prog.Triple.ret fun d hd => ⟨hissuer, hd⟩ : Prog.Triple Discovering.IssuerKnown (pure cfg)
        (fun cfg d => cfg.issuer ≠ [] ∧ d.IssuerKnown) fun _ d => d.IssuerKnown)
    exact hstore d hd
  unfold oidcDiscover
  refine (onImpl_issuerKnown _).bind fun _ => ?_
  refine (Prog.Triple.read (Q := fun seen d => seen = d ∧ Discovering.IssuerKnown d)
    fun d hd => ⟨rfl, hd⟩).bind fun seen => ?_
  rcases hconfig : seen.oidcConfig with _ | cfg
  · exact hfetch.weaken (fun d hd => hd.2) (fun _ _ h => h) fun _ _ h => h
  · intro d ⟨hseen, hd⟩
    have hissuer : cfg.issuer ≠ [] := by
      subst hseen
      exact hd cfg hconfig
    have hread := (onImpl_issuerKnown (now env)).bind fun t =>
      Prog.Triple.ite (c := t < seen.oidcConfigExpiresAt)
        (fun _ => .ret fun d hd => ⟨hissuer, hd⟩) fun _ => hfetch
    exact hread d hd

end Axiam.Oidc
