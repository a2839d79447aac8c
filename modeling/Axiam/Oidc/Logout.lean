import Axiam.Oidc.IdToken

/-!
# Logout tokens

`verify_logout_token` (`src/oidc.cpp`) shares its keys, its issuer and its audience with the ID
tokens of the same client.  What tells the two apart is the `nonce`: an ID token that is expected to
have one has it, and a logout token that has one is refused.
-/

namespace Axiam.Oidc

open Axiam.Lib Axiam.Client

/-- `VerifiedLogoutToken`. -/
structure VerifiedLogoutToken where
  issuer : Str
  sid : Option Str
  subject : Option Str
  jwtId : Option Str
  issuedAt : Int
  deriving DecidableEq

/-- `kBackchannelLogoutEvent`. -/
def kBackchannelLogoutEvent : Str := "http://schemas.openid.net/event/backchannel-logout"

/-- The payload has an event of a back-channel logout. -/
def hasLogoutEvent (j : Json) : Bool :=
  match j.find? "events" with
  | some (.object events) =>
      match (Json.object events).find? kBackchannelLogoutEvent with
      | some event => event.isObject
      | none => false
  | _ => false

/-- The checks before the clock is read. -/
def checkLogoutClaims (j : Json) (config : OidcConfiguration) (clientId : Str) : Except Exc Unit :=
  if optString j "iss" ≠ some config.issuer then
    .error (.auth "logout token iss does not match the discovered issuer")
  else if (stringArray j "aud").contains clientId = false then
    .error (.auth "logout token aud does not name this client")
  else if hasLogoutEvent j = false then
    .error (.auth ("logout token has no backchannel-logout events member " ++
      "(CONTRACT.md §12.7.3 rule 3)"))
  else if j.contains "nonce" then
    .error (.auth ("logout token carries a nonce, which Back-Channel Logout 1.0 §2.4 forbids " ++
      "(CONTRACT.md §12.7.3 rule 4)"))
  else .ok ()

/-- What a logout token names: a session, a subject, or both. -/
def readLogoutClaims (j : Json) (config : OidcConfiguration) : Except Exc VerifiedLogoutToken :=
  if optString j "sid" = none ∧ optString j "sub" = none then
    .error (.auth "logout token names neither sid nor sub")
  else .ok {
    issuer := config.issuer
    sid := optString j "sid"
    subject := optString j "sub"
    jwtId := optString j "jti"
    issuedAt := (optInt j "iat").getD 0 }

section

variable (env : GrantEnv)

def logoutExpired : Exc := .auth "logout token has expired or carries no usable exp"

/-- A logout token once its signature is verified. -/
def readLogoutToken (clientId : Str) (j : Json) : Prog DeviceClient Exc VerifiedLogoutToken :=
  if j.isObject = false then throw (.auth "logout token payload is not a JSON object")
  else do
    let config ← onClient (oidcDiscover env.client env.discoveryTtl)
    Prog.lift (checkLogoutClaims j config clientId)
    match optInt j "exp" with
    | none => throw logoutExpired
    | some exp => do
        let now ← nowSeconds env
        if exp + env.oidcClockSkew < now then throw logoutExpired
        else Prog.lift (readLogoutClaims j config)

/-- `verify_logout_token`. -/
def verifyLogoutToken (logoutToken : Str) : Prog DeviceClient Exc VerifiedLogoutToken := do
  onClient (onImpl ensureOpen)
  if logoutToken = [] then throw (.auth "verify_logout_token requires a token")
  else do
    let clientId ← Prog.lift (requireClientId env "verify_logout_token")
    let v ← onVerifier (Jwks.verifyWithReason env.jwks logoutToken)
    match v with
    | .error reason =>
        throw (.axiam (.oidcValidation "logout token signature verification failed" reason))
    | .ok payload => readLogoutToken env clientId (parseOrObject env.client payload)

end

/-! ## The rules -/

/-- The rules on the claims of a logout token. -/
structure LogoutHolds (env : GrantEnv) (config : OidcConfiguration) (now : Int) (j : Json) :
    Prop where
  object : j.isObject = true
  issuer : j.stringMember? "iss" = some config.issuer
  audience : ∃ clientId, env.oidcClientId = some clientId ∧ clientId ≠ [] ∧
    j.NamesAudience clientId
  event : ∃ events event, j.find? "events" = some events ∧
    events.find? kBackchannelLogoutEvent = some event ∧ event.isObject = true
  noNonce : j.find? "nonce" = none
  expires : ∃ exp, j.StatesTime "exp" exp ∧ now ≤ exp + env.oidcClockSkew
  names : ∃ name, name ≠ [] ∧
    (j.stringMember? "sid" = some name ∨ j.stringMember? "sub" = some name)

/-- The token is signed, and its claims hold against the issuer the client discovers. -/
def LogoutTokenHolds (env : GrantEnv) (c : DeviceClient) (logoutToken : Str) : Prop :=
  ∃ payload j config, Jwks.Authentic env.jwks c.verifier logoutToken payload ∧
    env.client.parse payload = some j ∧
    (oidcDiscover env.client env.discoveryTtl c.client).1 = .ok config ∧
    LogoutHolds env config (env.nowSeconds c.ticks) j

section

variable {env : GrantEnv} {config : OidcConfiguration} {c : DeviceClient} {j : Json}

theorem hasLogoutEvent_iff : hasLogoutEvent j = true ↔
    ∃ events event, j.find? "events" = some events ∧
      events.find? kBackchannelLogoutEvent = some event ∧ event.isObject = true := by
  unfold hasLogoutEvent
  rcases j.find? "events" with _ | events
  · simp
  · cases events with
    | object members =>
        rcases hevent : (Json.object members).find? kBackchannelLogoutEvent with _ | event <;>
          simp [hevent]
    | _ => simp [Json.find?]

theorem contains_eq_false {key : Str} : j.contains key = false ↔ j.find? key = none := by
  unfold Json.contains
  rcases j.find? key with _ | member <;> simp

theorem checkLogoutClaims_ok_iff (hissuer : config.issuer ≠ []) {clientId : Str} :
    checkLogoutClaims j config clientId = .ok () ↔
      j.stringMember? "iss" = some config.issuer ∧ j.NamesAudience clientId ∧
        hasLogoutEvent j = true ∧ j.find? "nonce" = none := by
  unfold checkLogoutClaims
  rw [← mem_audiences, ← List.contains_iff_mem, ← contains_eq_false]
  constructor
  · intro h
    split_ifs at h with hiss haud hevent hnonce
    rw [ne_eq, not_not] at hiss
    exact ⟨(optString_eq_some.mp hiss).2, by simpa using haud, by simpa using hevent,
      by simpa using hnonce⟩
  · rintro ⟨hiss, haud, hevent, hnonce⟩
    have hread : optString j "iss" = some config.issuer := optString_eq_some.mpr ⟨hissuer, hiss⟩
    rw [if_neg (not_not.mpr hread), if_neg (by rw [haud]; simp), if_neg (by rw [hevent]; simp),
      if_neg (by rw [hnonce]; simp)]

theorem readLogoutClaims_ok_iff : (∃ out, readLogoutClaims j config = .ok out) ↔
    ∃ name, name ≠ [] ∧
      (j.stringMember? "sid" = some name ∨ j.stringMember? "sub" = some name) := by
  unfold readLogoutClaims
  constructor
  · rintro ⟨out, h⟩
    split_ifs at h with hnone
    by_contra hnames
    refine hnone ⟨optString_eq_none.mpr fun s hs hsid => hnames ⟨s, hs, .inl hsid⟩,
      optString_eq_none.mpr fun s hs hsub => hnames ⟨s, hs, .inr hsub⟩⟩
  · rintro ⟨name, hname, hmember⟩
    rw [if_neg]
    · exact ⟨_, rfl⟩
    · rintro ⟨hsid, hsub⟩
      exact hmember.elim (optString_eq_none.mp hsid name hname) (optString_eq_none.mp hsub name hname)

theorem onClient_run {α : Type} (m : Prog Discovering Exc α) (c : DeviceClient) :
    onClient m c = ((m c.client).1, { c with client := (m c.client).2 }) := rfl

/-- A verified payload is accepted exactly when the discovery answers and the claims hold. -/
theorem readLogoutToken_ok_iff (hknown : c.client.IssuerKnown) {clientId : Str}
    (hclient : env.oidcClientId = some clientId) (hempty : clientId ≠ []) (j : Json) :
    (∃ out, (readLogoutToken env clientId j c).1 = .ok out) ↔
      ∃ config, (oidcDiscover env.client env.discoveryTtl c.client).1 = .ok config ∧
        LogoutHolds env config (env.nowSeconds c.ticks) j := by
  unfold readLogoutToken
  by_cases hobject : j.isObject = true
  swap
  · rw [if_pos (by simpa using hobject)]
    refine ⟨fun ⟨_, h⟩ => (nomatch h), fun ⟨_, _, hold⟩ => absurd hold.object hobject⟩
  rw [if_neg (by rw [hobject]; simp), Prog.bind_run, onClient_run]
  have hissuer := oidcDiscover_issuer env.client env.discoveryTtl c.client hknown
  rcases hdiscover : oidcDiscover env.client env.discoveryTtl c.client with ⟨e | config, d⟩
  · refine ⟨fun ⟨_, h⟩ => (nomatch h), fun ⟨_, h, _⟩ => nomatch h⟩
  rw [hdiscover] at hissuer
  simp only [Except.ok.injEq, existsAndEq, true_and]
  rw [Prog.bind_run, Prog.lift_run]
  rcases hcheck : checkLogoutClaims j config clientId with e | _
  · refine ⟨fun ⟨_, h⟩ => (nomatch h), fun hold => ?_⟩
    obtain ⟨clientId', hclient', -, hmem⟩ := hold.audience
    rw [hclient] at hclient'
    cases hclient'
    have hok := (checkLogoutClaims_ok_iff hissuer.1).mpr
      ⟨hold.issuer, hmem, hasLogoutEvent_iff.mpr hold.event, hold.noNonce⟩
    rw [hcheck] at hok
    cases hok
  obtain ⟨hiss, haud, hevent, hnonce⟩ := (checkLogoutClaims_ok_iff hissuer.1).mp hcheck
  rcases hexp : optInt j "exp" with _ | exp
  · refine ⟨fun ⟨_, h⟩ => (nomatch h), fun hold => ?_⟩
    obtain ⟨_, hsome, -⟩ := hold.expires
    rw [← optInt_eq_some, hexp] at hsome
    cases hsome
  show (∃ out, ((if exp + env.oidcClockSkew < env.nowSeconds c.ticks then throw logoutExpired
    else Prog.lift (readLogoutClaims j config) : Prog _ _ _) _).1 = .ok out) ↔ _
  by_cases hpast : exp + env.oidcClockSkew < env.nowSeconds c.ticks
  · rw [if_pos hpast]
    refine ⟨fun ⟨_, h⟩ => (nomatch h), fun hold => ?_⟩
    obtain ⟨_, hsome, hle⟩ := hold.expires
    rw [← optInt_eq_some, hexp] at hsome
    cases hsome
    omega
  · rw [if_neg hpast]
    simp only [Prog.lift_run, readLogoutClaims_ok_iff]
    exact ⟨fun hnames => ⟨hobject, hiss, ⟨clientId, hclient, hempty, haud⟩,
      hasLogoutEvent_iff.mp hevent, hnonce, ⟨exp, optInt_eq_some.mp hexp, by omega⟩, hnames⟩,
      fun hold => hold.names⟩

/-- A logout token is accepted exactly when it holds. -/
theorem verifyLogoutToken_ok_iff (hopen : c.client.impl.closed = false)
    (hknown : c.client.IssuerKnown) {logoutToken : Str} :
    (∃ out, (verifyLogoutToken env logoutToken c).1 = .ok out) ↔
      LogoutTokenHolds env c logoutToken := by
  have hstart : onClient (onImpl ensureOpen) c = (.ok (), c) := by
    show ((ensureOpen c.client.impl).1, { c with client := { c.client with
      impl := (ensureOpen c.client.impl).2 } }) = _
    rw [ensureOpen_run_open hopen]
  unfold verifyLogoutToken LogoutTokenHolds
  simp only [← Jwks.verifyWithReason_ok_iff]
  rw [Prog.bind_run_ok hstart]
  by_cases hnil : logoutToken = []
  · -- no token: it has no header either
    subst hnil
    rw [if_pos rfl]
    refine ⟨fun ⟨_, h⟩ => (nomatch h), ?_⟩
    rintro ⟨payload, _, _, hauth, -⟩
    cases hauth
  rw [if_neg hnil, Prog.bind_run, Prog.lift_run]
  rcases hclient : requireClientId env "verify_logout_token" with e | clientId
  · refine ⟨fun ⟨_, h⟩ => (nomatch h), ?_⟩
    rintro ⟨_, _, _, -, -, -, hold⟩
    obtain ⟨clientId, hsome, hempty, -⟩ := hold.audience
    have hok : requireClientId env "verify_logout_token" = .ok clientId :=
      requireClientId_ok_iff.mpr ⟨hsome, hempty⟩
    rw [hclient] at hok
    cases hok
  obtain ⟨hclient, hempty⟩ := requireClientId_ok_iff.mp hclient
  simp only
  rw [Prog.bind_run, onVerifier_run]
  rcases (Jwks.verifyWithReason env.jwks logoutToken c.verifier).1 with e | reason | payload
  · simp
  · simp
  · simp only [Except.ok.injEq]
    have hread := readLogoutToken_ok_iff (c := { c with
      verifier := (Jwks.verifyWithReason env.jwks logoutToken c.verifier).2 }) hknown hclient hempty
    refine (hread _).trans ?_
    unfold parseOrObject
    constructor
    · rintro ⟨config, hdiscover, hold⟩
      rcases hparse : env.client.parse payload with _ | j <;> rw [hparse] at hold
      · exact nomatch hold.issuer
      · exact ⟨payload, j, config, rfl, hparse, hdiscover, hold⟩
    · rintro ⟨_, j, config, rfl, hparse, hdiscover, hold⟩
      rw [hparse]
      exact ⟨config, hdiscover, hold⟩

/-- An ID token that is read with an expected nonce has that nonce. -/
theorem readIdToken_nonce {env : GrantEnv} {idToken nonce : Str} {claims : IdTokenClaims}
    (h : (readIdToken env config (some nonce) idToken c).1 = .ok claims) :
    ∃ payload, Jwks.Authentic env.jwks c.verifier idToken payload ∧
      (parseOrObject env.client payload).find? "nonce" ≠ none := by
  obtain ⟨payload, hauth, -, hcheck⟩ := readIdToken_checks.mp h
  refine ⟨payload, hauth, fun hnone => ?_⟩
  unfold checkIdClaims refuseClaims at hcheck
  obtain ⟨clientId, -, hcheck⟩ := except_bind_eq_ok.mp hcheck
  split_ifs at hcheck with hiss haud hnonce
  · obtain ⟨_, -, hcheck⟩ := except_bind_eq_ok.mp hcheck
    cases hcheck
  · refine hnonce ⟨rfl, fun heq => ?_⟩
    obtain ⟨-, hmember⟩ := optString_eq_some.mp heq
    unfold Json.stringMember? at hmember
    rw [hnone] at hmember
    cases hmember

/-- A logout token is accepted exactly when it holds; and no token is both: accepted for a logout,
and returned as the ID token of a response that was to have a nonce, by whatever keys, document
and clock the two were judged. -/
theorem verify_logout_token_iff (hopen : c.client.impl.closed = false)
    (hknown : c.client.IssuerKnown) (logoutToken : Str) :
    ((∃ out, (verifyLogoutToken env logoutToken c).1 = .ok out) ↔
      LogoutTokenHolds env c logoutToken) ∧
    ∀ (env' : GrantEnv) (c' : DeviceClient) (config : OidcConfiguration) (body nonce : Str)
      (set : OidcTokenSet), env'.client.parse = env.client.parse →
      (parseTokenSet env' body config (some nonce) c').1 = .ok set →
      set.idToken = some logoutToken →
      ¬∃ out, (verifyLogoutToken env logoutToken c).1 = .ok out := by
  refine ⟨verifyLogoutToken_ok_iff hopen hknown, ?_⟩
  intro env' c' config body nonce set hparser hset hid
  rw [verifyLogoutToken_ok_iff hopen hknown]
  rintro ⟨payload, j, config', hauth, hparse, -, hold⟩
  obtain ⟨access, claims, -, hclaims, -, rfl⟩ := parseTokenSet_ok_iff.mp hset
  obtain ⟨read, hread, -⟩ := hclaims logoutToken hid
  obtain ⟨payload', hauth', hnonce⟩ := readIdToken_nonce hread
  -- both read the payload of the one token
  have hsame := hauth.payload_eq hauth'
  subst hsame
  unfold parseOrObject at hnonce
  rw [hparser, hparse] at hnonce
  exact hnonce hold.noNonce

end

/-! ## One token of each kind -/

def logoutClaims : Json :=
  .object [("iss", .string "issuer"), ("aud", .string "rp"), ("exp", .integer 220),
    ("events", .object [(kBackchannelLogoutEvent, .object [])]), ("sid", .string "s")]

def logoutParse : Parser := tableParser [(str "h", Jwks.headerOfKey), (str "i", logoutClaims)]

theorem logoutClaims_hold : LogoutHolds (rpEnv logoutParse) issuerConfig 100 logoutClaims where
  object := rfl
  issuer := by decide
  audience := ⟨str "rp", rfl, by decide, .inl rfl⟩
  event := ⟨.object [(kBackchannelLogoutEvent, .object [])], .object [], rfl, rfl, rfl⟩
  noNonce := rfl
  expires := ⟨_, .integer rfl, by decide⟩
  names := ⟨str "s", by decide, .inl (by decide)⟩

theorem rpClient_knows : rpClient.client.IssuerKnown := by
  intro cfg h
  cases h
  decide

/-- A logout token is accepted, and the ID token of the same client is not accepted as one. -/
theorem logout_tokens_told_apart :
    (∃ out, (verifyLogoutToken (rpEnv logoutParse) Jwks.tokenOfKey rpClient).1 = .ok out) ∧
      ¬∃ out, (verifyLogoutToken (rpEnv rpParse) Jwks.tokenOfKey rpClient).1 = .ok out := by
  constructor
  · refine (verify_logout_token_iff rfl rpClient_knows Jwks.tokenOfKey).1.mpr ?_
    exact ⟨str "i", logoutClaims, issuerConfig, Jwks.tokenOfKey_authentic rfl, rfl, rfl,
      logoutClaims_hold⟩
  · refine (verify_logout_token_iff rfl rpClient_knows Jwks.tokenOfKey).2 (rpEnv rpParse) rpClient
      issuerConfig (str "body") (str "n")
      (OidcTokenSet.read rpResponse (str "a") (some (IdTokenClaims.read rpClaims (str "i")))) rfl ?_ rfl
    refine parseTokenSet_ok_iff.mpr ⟨str "a", _, rfl, fun idToken hid => ⟨_, ?_, rfl⟩,
      fun h => (nomatch h), rfl⟩
    cases hid
    exact (readIdToken_ok_iff (by decide) (by decide)).mpr
      ⟨str "i", rpClaims, Jwks.tokenOfKey_authentic rfl, rfl, rpClaims_hold, rfl⟩

end Axiam.Oidc
