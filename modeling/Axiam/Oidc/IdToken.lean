import Axiam.Core.Int64
import Axiam.Jwks.Signature
import Axiam.Oidc.DeviceGrant

/-!
# What a token response must be

`parse_token_set` (`src/oidc.cpp`) as a predicate on the response: an access token, and beside it
either no ID token or one whose signature and claims all hold.  The times of a token are whole
seconds, as `get<std::int64_t>` reads them.
-/

namespace Axiam.Oidc

open Axiam.Lib Axiam.Client

/-! ## Readers -/

theorem optString_eq_some {j : Json} {key s : Str} :
    optString j key = some s ↔ s ≠ [] ∧ j.stringMember? key = some s := by
  unfold optString
  rcases j.stringMember? key with _ | _ | ⟨c, rest⟩
  · simp
  · simp only [reduceCtorEq, Option.some.injEq, false_iff, not_and]
    intro hs h
    exact hs h.symm
  · simp only [Option.some.injEq, iff_and_self]
    rintro rfl
    simp

theorem optString_eq_none {j : Json} {key : Str} :
    optString j key = none ↔ ∀ s, s ≠ [] → j.stringMember? key ≠ some s := by
  rw [Option.eq_none_iff_forall_ne_some]
  simp only [ne_eq, optString_eq_some, not_and]

theorem contains_of_optInt {j : Json} {key : Str} {n : Int} (h : optInt j key = some n) :
    j.contains key = true := by
  unfold optInt at h
  unfold Json.contains
  rcases hfind : j.find? key with _ | member <;> rw [hfind] at h
  · cases h
  · rfl

theorem optInt_eq_some {j : Json} {key : Str} {time : Int} :
    optInt j key = some time ↔ j.StatesTime key time := Json.statesTime_iff.symm

theorem requireClientId_ok_iff {env : GrantEnv} {operation clientId : Str} :
    requireClientId env operation = .ok clientId ↔
      env.oidcClientId = some clientId ∧ clientId ≠ [] := by
  unfold requireClientId
  rcases env.oidcClientId with _ | _ | ⟨c, rest⟩
  · simp
  · simp only [reduceCtorEq, Option.some.injEq, false_iff, not_and, not_not]
    exact fun h => h.symm
  · simp only [Except.ok.injEq, Option.some.injEq, iff_self_and]
    rintro rfl
    simp

/-! ## The rules -/

/-- The claims the caller is handed of a verified payload. -/
def IdTokenClaims.read (j : Json) (payload : Str) : IdTokenClaims where
  subject := (j.stringMember? "sub").getD []
  issuer := (j.stringMember? "iss").getD []
  audience := stringArray j "aud"
  expiresAt := (optInt j "exp").getD 0
  issuedAt := (optInt j "iat").getD 0
  nonce := optString j "nonce"
  authorizedParty := optString j "azp"
  email := optString j "email"
  preferredUsername := optString j "preferred_username"
  tenantId := optString j "tenant_id"
  roles := stringArray j "roles"
  rawClaimsJson := payload

/-- The token set of a response: its members, and the claims of its ID token. -/
def OidcTokenSet.read (j : Json) (access : Str) (claims : Option IdTokenClaims) : OidcTokenSet where
  accessToken := access
  tokenType := (optString j "token_type").getD "Bearer"
  expiresIn := (optInt j "expires_in").getD 0
  scope := optString j "scope"
  refreshToken := optString j "refresh_token"
  idToken := optString j "id_token"
  idClaims := claims

/-- `aud` names the client, and `azp` is the client where there are several audiences. -/
def NamesClient (env : GrantEnv) (j : Json) : Prop :=
  ∃ clientId, env.oidcClientId = some clientId ∧ clientId ≠ [] ∧ j.NamesAudience clientId ∧
    (j.SeveralAudiences → j.stringMember? "azp" = some clientId)

/-- The rules on the times of a token, with the skew granted. -/
structure TimesHold (j : Json) (now skew : Int) : Prop where
  expires : ∃ exp, j.StatesTime "exp" exp ∧ now ≤ exp + skew
  issued : ∃ iat, j.StatesTime "iat" iat ∧ iat ≤ now + skew
  begun : j.contains "nbf" = true → ∃ nbf, j.StatesTime "nbf" nbf ∧ nbf ≤ now + skew

/-- The rules on the claims of an ID token. -/
structure ClaimsHold (env : GrantEnv) (config : OidcConfiguration) (expectedNonce : Option Str)
    (now : Int) (j : Json) : Prop where
  object : j.isObject = true
  subject : j.StringOrAbsent "sub"
  issuer : j.stringMember? "iss" = some config.issuer
  audience : NamesClient env j
  times : TimesHold j now env.oidcClockSkew
  nonce : ∀ nonce, expectedNonce = some nonce → j.stringMember? "nonce" = some nonce

/-- The token is signed, and its claims hold. -/
def TokenHolds (env : GrantEnv) (config : OidcConfiguration) (expectedNonce : Option Str)
    (c : DeviceClient) (idToken : Str) : Prop :=
  ∃ payload j, Jwks.Authentic env.jwks c.verifier idToken payload ∧
    env.client.parse payload = some j ∧
    ClaimsHold env config expectedNonce (env.nowSeconds c.ticks) j

/-- A response with an access token, and with no ID token but one that holds. -/
def ResponseHolds (env : GrantEnv) (config : OidcConfiguration) (expectedNonce : Option Str)
    (c : DeviceClient) (body : Str) : Prop :=
  ∃ j, env.client.parse body = some j ∧ j.isObject = true ∧
    (∃ access, access ≠ [] ∧ j.stringMember? "access_token" = some access) ∧
    ∀ idToken, idToken ≠ [] → j.stringMember? "id_token" = some idToken →
      TokenHolds env config expectedNonce c idToken

/-! ## The claims -/

section

variable {env : GrantEnv} {config : OidcConfiguration} {expectedNonce : Option Str}
  {c d : DeviceClient} {j : Json}

theorem audienceOk_iff {aud : List Str} {azp : Option Str} {clientId : Str} :
    audienceOk aud azp clientId = true ↔
      clientId ∈ aud ∧ (1 < aud.length → azp = some clientId) := by
  unfold audienceOk
  rw [Bool.and_eq_true, Bool.or_eq_true, List.contains_iff_mem, decide_eq_true_eq, beq_iff_eq]
  constructor
  · rintro ⟨hmem, hrest⟩
    exact ⟨hmem, fun hmany => hrest.resolve_left (by omega)⟩
  · rintro ⟨hmem, hrest⟩
    exact ⟨hmem, (Nat.lt_or_ge 1 aud.length).symm.imp_right hrest⟩

theorem checkTimes_ok_iff {now skew : Int} {times : Int × Int} :
    checkTimes j now skew = .ok times ↔
      TimesHold j now skew ∧ times = ((optInt j "exp").getD 0, (optInt j "iat").getD 0) := by
  constructor
  · intro h
    unfold checkTimes refuseClaims at h
    rcases hexp : optInt j "exp" with _ | exp <;> simp only [hexp] at h
    · cases h
    rcases hiat : optInt j "iat" with _ | iat <;> simp only [hiat] at h
    · split_ifs at h
    split_ifs at h with hpast hfuture hearly
    cases h
    refine ⟨⟨⟨exp, optInt_eq_some.mp hexp, by omega⟩, ⟨iat, optInt_eq_some.mp hiat, by omega⟩,
      fun hthere => ?_⟩, rfl⟩
    rcases hnbf : optInt j "nbf" with _ | nbf <;> simp only [hnbf] at hearly
    · exact absurd hthere hearly
    · exact ⟨nbf, optInt_eq_some.mp hnbf, by simpa using hearly⟩
  · rintro ⟨⟨⟨exp, hexp, hpast⟩, ⟨iat, hiat, hfuture⟩, hbegun⟩, rfl⟩
    rw [← optInt_eq_some] at hexp hiat
    simp only [← optInt_eq_some] at hbegun
    unfold checkTimes
    simp only [hexp, hiat]
    rw [if_neg (by omega), if_neg (by omega), if_neg]
    · rfl
    rcases hnbf : optInt j "nbf" with _ | nbf
    · intro hthere
      obtain ⟨_, hsome, -⟩ := hbegun hthere
      rw [hnbf] at hsome
      cases hsome
    · obtain ⟨_, hsome, hle⟩ := hbegun (contains_of_optInt hnbf)
      rw [hnbf] at hsome
      cases hsome
      simpa using hle

/-- The claims are returned exactly when they hold, and they are those of the payload. -/
theorem checkIdClaims_ok_iff (hissuer : config.issuer ≠ []) (hnonce : expectedNonce ≠ some [])
    {payload : Str} {now : Int} {claims : IdTokenClaims} (hobject : j.isObject = true) :
    checkIdClaims env j config expectedNonce payload now = .ok claims ↔
      ClaimsHold env config expectedNonce now j ∧ claims = IdTokenClaims.read j payload := by
  unfold checkIdClaims refuseClaims
  constructor
  -- each check of the code, in its order, gives one of the rules
  · intro h
    obtain ⟨clientId, hclient, h⟩ := except_bind_eq_ok.mp h
    obtain ⟨hclient, hempty⟩ := requireClientId_ok_iff.mp hclient
    split_ifs at h with hiss haud hmismatch
    · obtain ⟨_, -, h⟩ := except_bind_eq_ok.mp h
      cases h
    rw [ne_eq, not_not] at hiss
    rw [Bool.not_eq_false, audienceOk_iff] at haud
    obtain ⟨⟨exp, iat⟩, htimes, h⟩ := except_bind_eq_ok.mp h
    obtain ⟨hold, hpair⟩ := checkTimes_ok_iff.mp htimes
    cases hpair
    obtain ⟨subject, hsubject, h⟩ := except_bind_eq_ok.mp h
    have hsub : j.valueString "sub" [] = .ok subject := by
      rcases hvalue : j.valueString "sub" [] with e | s <;> rw [hvalue] at hsubject <;> cases hsubject
      rfl
    have hstring := ((Json.valueString_ok_iff j "sub" []).mp ⟨_, hsub⟩).2
    obtain ⟨-, hissMember⟩ := optString_eq_some.mp hiss
    refine ⟨⟨hobject, hstring, hissMember,
      ⟨clientId, hclient, hempty, mem_audiences.mp haud.1, fun hmany => ?_⟩, hold, ?_⟩, ?_⟩
    · exact (optString_eq_some.mp (haud.2 (several_audiences.mpr hmany))).2
    · rintro nonce rfl
      by_contra hother
      refine hmismatch ⟨rfl, fun heq => hother ?_⟩
      exact (optString_eq_some.mp heq).2
    · cases h
      unfold IdTokenClaims.read
      rw [hissMember]
      have hread : (j.stringMember? "sub").getD [] = subject := by
        rcases Json.valueString_eq_ok hsub with hmember | ⟨hnone, rfl⟩
        · rw [hmember]
          rfl
        · unfold Json.stringMember?
          rw [hnone]
          rfl
      rw [hread]
      rfl
  · rintro ⟨hold, rfl⟩
    -- and from the rules each check is passed
    obtain ⟨clientId, hclient, hempty, hmem, hazp⟩ := hold.audience
    rw [requireClientId_ok_iff.mpr ⟨hclient, hempty⟩]
    have hiss : optString j "iss" = some config.issuer := optString_eq_some.mpr ⟨hissuer, hold.issuer⟩
    have haud : audienceOk (stringArray j "aud") (optString j "azp") clientId = true :=
      audienceOk_iff.mpr ⟨mem_audiences.mpr hmem, fun hmany =>
        optString_eq_some.mpr ⟨hempty, hazp (several_audiences.mp hmany)⟩⟩
    have hmatch : ¬(expectedNonce.isSome ∧ optString j "nonce" ≠ expectedNonce) := by
      rintro ⟨hsome, hother⟩
      obtain ⟨nonce, rfl⟩ := Option.isSome_iff_exists.mp hsome
      exact hother (optString_eq_some.mpr
        ⟨fun h => hnonce (congrArg some h), hold.nonce nonce rfl⟩)
    have hsubject : liftJson (j.valueString "sub" []) = .ok ((j.stringMember? "sub").getD []) := by
      rw [show j.valueString "sub" [] = .ok (Jwks.memberText j "sub") from
        Jwks.valueString_of_readable hobject hold.subject]
      rfl
    simp only [bind, Except.bind]
    rw [if_neg (not_not.mpr hiss), if_neg (by rw [haud]; simp),
      checkTimes_ok_iff.mpr ⟨hold.times, rfl⟩]
    simp only
    rw [if_neg hmatch, hsubject]
    unfold IdTokenClaims.read
    rw [hold.issuer]
    rfl

/-- An object of no members holds none of the claims. -/
theorem not_claimsHold_empty {now : Int} :
    ¬ClaimsHold env config expectedNonce now (.object []) := fun h => nomatch h.issuer

theorem onVerifier_run {α : Type} (m : Prog Jwks.Verifier Exc α) (c : DeviceClient) :
    onVerifier m c = ((m c.verifier).1, { c with verifier := (m c.verifier).2 }) := rfl

/-- An ID token is read when it is authentic and its claims are accepted. -/
theorem readIdToken_checks {idToken : Str} {claims : IdTokenClaims} :
    (readIdToken env config expectedNonce idToken c).1 = .ok claims ↔
      ∃ payload, Jwks.Authentic env.jwks c.verifier idToken payload ∧
        (parseOrObject env.client payload).isObject = true ∧
        checkIdClaims env (parseOrObject env.client payload) config expectedNonce payload
          (env.nowSeconds c.ticks) = .ok claims := by
  unfold readIdToken
  simp only [← Jwks.verifyWithReason_ok_iff]
  rw [Prog.bind_run, onVerifier_run]
  rcases (Jwks.verifyWithReason env.jwks idToken c.verifier).1 with e | reason | payload
  · simp
  · simp
  · simp only [Except.ok.injEq, existsAndEq, true_and]
    by_cases hobject : (parseOrObject env.client payload).isObject = true
    · rw [if_neg (by rw [hobject]; simp)]
      refine ⟨fun h => ⟨hobject, h⟩, fun h => h.2⟩
    · rw [if_pos (by simpa using hobject)]
      exact ⟨fun h => (nomatch h), fun h => absurd h.1 hobject⟩

/-- An ID token is read exactly when it holds. -/
theorem readIdToken_ok_iff (hissuer : config.issuer ≠ []) (hnonce : expectedNonce ≠ some [])
    {idToken : Str} {claims : IdTokenClaims} :
    (readIdToken env config expectedNonce idToken c).1 = .ok claims ↔
      ∃ payload j, Jwks.Authentic env.jwks c.verifier idToken payload ∧
        env.client.parse payload = some j ∧
        ClaimsHold env config expectedNonce (env.nowSeconds c.ticks) j ∧
        claims = IdTokenClaims.read j payload := by
  rw [readIdToken_checks]
  constructor
  · rintro ⟨payload, hauth, hobject, hcheck⟩
    obtain ⟨hold, rfl⟩ := (checkIdClaims_ok_iff hissuer hnonce hobject).mp hcheck
    unfold parseOrObject at hold ⊢
    rcases hparse : env.client.parse payload with _ | j <;> rw [hparse] at hold
    · exact absurd hold not_claimsHold_empty
    · exact ⟨payload, j, hauth, hparse, hold, rfl⟩
  · rintro ⟨payload, j, hauth, hparse, hold, rfl⟩
    have hread : parseOrObject env.client payload = j := by
      unfold parseOrObject
      rw [hparse]
      rfl
    refine ⟨payload, hauth, ?_, ?_⟩ <;> rw [hread]
    · exact hold.object
    · exact (checkIdClaims_ok_iff hissuer hnonce hold.object).mpr ⟨hold, rfl⟩

/-! ## The response -/

/-- The outcome of `parse_token_set` for a response with an access token and an ID token. -/
theorem parseTokenSet_of_idToken {body access idToken : Str}
    (haccess : optString (parseOrObject env.client body) "access_token" = some access)
    (hid : optString (parseOrObject env.client body) "id_token" = some idToken) :
    (parseTokenSet env body config expectedNonce c).1 =
      (readIdToken env config expectedNonce idToken c).1.map fun claims =>
        OidcTokenSet.read (parseOrObject env.client body) access (some claims) := by
  unfold parseTokenSet OidcTokenSet.read
  rw [hid, haccess]
  show ((readIdToken env config expectedNonce idToken >>= fun claims => pure _ : Prog _ _ _) c).1 = _
  rw [Prog.bind_run]
  rcases readIdToken env config expectedNonce idToken c with ⟨e | claims, d⟩ <;> rfl

/-- A token set is returned for an access token, and for an ID token that is read. -/
theorem parseTokenSet_ok_iff {body : Str} {set : OidcTokenSet} :
    (parseTokenSet env body config expectedNonce c).1 = .ok set ↔
      ∃ access claims, optString (parseOrObject env.client body) "access_token" = some access ∧
        (∀ idToken, optString (parseOrObject env.client body) "id_token" = some idToken →
          ∃ read, (readIdToken env config expectedNonce idToken c).1 = .ok read ∧
            claims = some read) ∧
        (optString (parseOrObject env.client body) "id_token" = none → claims = none) ∧
        set = OidcTokenSet.read (parseOrObject env.client body) access claims := by
  rcases haccess : optString (parseOrObject env.client body) "access_token" with _ | access
  · unfold parseTokenSet
    rw [haccess]
    refine ⟨fun h => (nomatch h), ?_⟩
    rintro ⟨_, _, hsome, -⟩
    cases hsome
  rcases hid : optString (parseOrObject env.client body) "id_token" with _ | idToken
  · have hrun : (parseTokenSet env body config expectedNonce c).1 =
        .ok (OidcTokenSet.read (parseOrObject env.client body) access none) := by
      unfold parseTokenSet OidcTokenSet.read
      rw [haccess, hid]
      rfl
    rw [hrun]
    constructor
    · intro h
      exact ⟨access, none, rfl, fun _ h => (nomatch h), fun _ => rfl, (Except.ok.inj h).symm⟩
    · rintro ⟨_, claims, hsome, -, hnone, rfl⟩
      cases hsome
      rw [hnone rfl]
  · rw [parseTokenSet_of_idToken haccess hid]
    rcases hread : (readIdToken env config expectedNonce idToken c).1 with e | read
    · refine ⟨fun h => (nomatch h), ?_⟩
      rintro ⟨_, _, -, hclaims, -⟩
      obtain ⟨_, hok, -⟩ := hclaims idToken rfl
      rw [hread] at hok
      cases hok
    · constructor
      · intro h
        refine ⟨access, some read, rfl, fun _ h => ?_, fun h => (nomatch h), (Except.ok.inj h).symm⟩
        cases h
        exact ⟨read, hread, rfl⟩
      · rintro ⟨_, claims, hsome, hclaims, -, rfl⟩
        cases hsome
        obtain ⟨_, hok, rfl⟩ := hclaims idToken rfl
        rw [hread] at hok
        cases hok
        rfl

/-- A token set is returned exactly for a response that holds; otherwise the call throws, and its
caller has nothing of the response.  The claims returned are those of the verified token. -/
theorem parse_token_set_iff (body : Str) (hissuer : config.issuer ≠ [])
    (hnonce : expectedNonce ≠ some []) :
    ((∃ set, (parseTokenSet env body config expectedNonce c).1 = .ok set) ↔
      ResponseHolds env config expectedNonce c body) ∧
    (¬ResponseHolds env config expectedNonce c body →
      ∃ e, (parseTokenSet env body config expectedNonce c).1 = .error e) ∧
    ∀ set claims, (parseTokenSet env body config expectedNonce c).1 = .ok set →
      set.idClaims = some claims →
      ∃ idToken payload j, set.idToken = some idToken ∧
        Jwks.Authentic env.jwks c.verifier idToken payload ∧
        env.client.parse payload = some j ∧ claims = IdTokenClaims.read j payload := by
  have hreturns : (∃ set, (parseTokenSet env body config expectedNonce c).1 = .ok set) ↔
      ResponseHolds env config expectedNonce c body := by
    simp only [parseTokenSet_ok_iff]
    unfold ResponseHolds
    rcases hparse : env.client.parse body with _ | j
    · -- what is no JSON is read as an object of no members
      have hempty : parseOrObject env.client body = .object [] := by
        unfold parseOrObject
        rw [hparse]
        rfl
      rw [hempty]
      refine ⟨?_, fun ⟨_, h, _⟩ => nomatch h⟩
      rintro ⟨_, _, _, haccess, -⟩
      cases haccess
    have hread : parseOrObject env.client body = j := by
      unfold parseOrObject
      rw [hparse]
      rfl
    rw [hread]
    constructor
    · rintro ⟨set, access, claims, haccess, hclaims, -, -⟩
      obtain ⟨hempty, hmember⟩ := optString_eq_some.mp haccess
      refine ⟨j, rfl, Json.isObject_of_stringMember hmember, ⟨access, hempty, hmember⟩, ?_⟩
      intro idToken hne hid
      obtain ⟨claims, hok, -⟩ := hclaims idToken (optString_eq_some.mpr ⟨hne, hid⟩)
      obtain ⟨payload, j', hauth, hpayload, hold, -⟩ := (readIdToken_ok_iff hissuer hnonce).mp hok
      exact ⟨payload, j', hauth, hpayload, hold⟩
    · rintro ⟨_, hsome, -, ⟨access, hempty, hmember⟩, htoken⟩
      cases hsome
      have haccess : optString j "access_token" = some access :=
        optString_eq_some.mpr ⟨hempty, hmember⟩
      rcases hid : optString j "id_token" with _ | idToken
      · exact ⟨_, access, none, haccess, fun _ h => (nomatch h), fun _ => rfl, rfl⟩
      · obtain ⟨hne, hmemberId⟩ := optString_eq_some.mp hid
        obtain ⟨payload, j', hauth, hpayload, hold⟩ := htoken idToken hne hmemberId
        have hok := (readIdToken_ok_iff hissuer hnonce).mpr ⟨payload, j', hauth, hpayload, hold, rfl⟩
        refine ⟨_, access, some (IdTokenClaims.read j' payload), haccess, fun _ h => ?_,
          fun h => (nomatch h), rfl⟩
        cases h
        exact ⟨_, hok, rfl⟩
  refine ⟨hreturns, fun hnot => ?_, fun set claims hok hsome => ?_⟩
  · rcases hrun : (parseTokenSet env body config expectedNonce c).1 with e | set
    · exact ⟨e, rfl⟩
    · exact absurd (hreturns.mp ⟨set, hrun⟩) hnot
  · obtain ⟨access, read, -, hclaims, hnone, rfl⟩ := parseTokenSet_ok_iff.mp hok
    rcases hid : optString (parseOrObject env.client body) "id_token" with _ | idToken
    · cases (hnone hid).symm.trans hsome
    · obtain ⟨claims', hread, rfl⟩ := hclaims idToken hid
      cases hsome
      obtain ⟨payload, j, hauth, hpayload, -, heq⟩ := (readIdToken_ok_iff hissuer hnonce).mp hread
      exact ⟨idToken, payload, j, hid, hauth, hpayload, heq⟩

end

/-! ## A response with an ID token -/

/-- The claims of an ID token for the client `rp`, with the nonce `n`. -/
def rpClaims : Json :=
  .object [("iss", .string "issuer"), ("aud", .array [.string "rp", .integer 5]),
    ("exp", .integer 400), ("iat", .float (201 / 2)), ("nonce", .string "n")]

def rpResponse : Json :=
  .object [("access_token", .string "a"), ("id_token", .string Jwks.tokenOfKey)]

def rpParse : Parser := tableParser [(str "h", Jwks.headerOfKey), (str "i", rpClaims),
  (str "body", rpResponse)]

/-- The client `rp`, a hundred seconds after the epoch. -/
def rpEnv (parse : Parser) : GrantEnv where
  client := {
    baseUrl := "https://axiam.example"
    tenantHeader := "acme"
    parse := parse
    dump := fun _ => []
    transport := fun _ _ => .ok {}
    clock := fun _ => 0
    opaqueStart := fun _ _ => .ok []
    opaqueFinish := fun _ _ _ _ => .ok [] }
  jwks := Jwks.trustingEnv parse
  oidcClientId := some "rp"
  nowMs := fun _ => 100000
  nowSeconds := fun _ => 100
  jittered := fun _ _ => 0
  httpDate := fun _ => none

/-- A document of the provider `issuer`. -/
def issuerConfig : OidcConfiguration where
  issuer := "issuer"
  authorizationEndpoint := "a"
  tokenEndpoint := "t"
  jwksUri := "j"
  userinfoEndpoint := none
  introspectionEndpoint := none
  revocationEndpoint := none
  endSessionEndpoint := none
  deviceAuthorizationEndpoint := none
  pushedAuthorizationRequestEndpoint := none
  backchannelAuthenticationEndpoint := none
  backchannelTokenDeliveryModesSupported := []
  backchannelAuthenticationRequestSigningAlgValuesSupported := []
  backchannelUserCodeParameterSupported := none
  scopesSupported := []
  responseTypesSupported := []
  idTokenSigningAlgValuesSupported := []
  codeChallengeMethodsSupported := []
  tokenEndpointAuthSigningAlgValuesSupported := []
  revocationEndpointAuthMethodsSupported := []
  revocationEndpointAuthSigningAlgValuesSupported := []
  introspectionEndpointAuthMethodsSupported := []
  introspectionEndpointAuthSigningAlgValuesSupported := []
  mtlsEndpointAliases := none

/-- The client with the key of the provider. -/
def rpClient : DeviceClient where
  client := { oidcConfig := some issuerConfig, oidcConfigExpiresAt := 300 }
  verifier := Jwks.oneKey

theorem rpClaims_hold : ClaimsHold (rpEnv rpParse) issuerConfig (some (str "n")) 100 rpClaims where
  object := rfl
  subject := fun _ h => nomatch h
  issuer := by decide
  audience := by
    refine ⟨str "rp", rfl, by decide, .inr ⟨_, rfl, List.mem_cons_self⟩, ?_⟩
    rintro ⟨items, hitems, hmany⟩
    cases hitems
    exact absurd hmany (by decide)
  times := ⟨⟨_, .integer rfl, by decide⟩, ⟨_, .float rfl, by decide +kernel⟩, fun h => nomatch h⟩
  nonce := by
    rintro _ ⟨⟩
    decide

theorem rp_response_returned : ∃ set,
    (parseTokenSet (rpEnv rpParse) (str "body") issuerConfig (some (str "n")) rpClient).1 = .ok set := by
  refine (parse_token_set_iff (str "body") (by decide) (by decide)).1.mpr
    ⟨_, rfl, rfl, ⟨str "a", by decide, by decide⟩, fun idToken _ hid => ?_⟩
  have htoken : idToken = Jwks.tokenOfKey := by
    have hmember : rpResponse.stringMember? "id_token" = some Jwks.tokenOfKey := rfl
    exact Option.some.inj (hid.symm.trans hmember)
  subst htoken
  exact ⟨_, rpClaims, Jwks.tokenOfKey_authentic rfl, rfl, rpClaims_hold⟩

end Axiam.Oidc
