import Axiam.Auth.Revocation
import Axiam.Core.Int64
import Axiam.Jwks.Signature
import Axiam.Oidc.Discovery

/-!
# The token authenticator

`TokenAuthenticator` (`src/authenticator.cpp`) turns an access token into a user: a signature, the
claims, the revocation feed, and last the sender constraint (`verify_certificate_binding`,
`src/jwks.cpp`).
-/

namespace Axiam.Auth

open Axiam.Lib

/-- `kMaxClockSkew`. -/
def kMaxClockSkew : Int := 60

/-- `AuthenticatorOptions`, less what no check reads. -/
structure AuthenticatorOptions where
  clockSkew : Int := 30
  expectedIssuer : Option Str := none
  expectedAudience : Option Str := none
  /-- A revocation feed is attached. -/
  watchesFeed : Bool := false

/-- An authenticator serves a named tenant, within a bounded leeway. -/
structure TokenAuthenticator where
  tenantId : Str
  options : AuthenticatorOptions
  named : tenantId ≠ []
  leeway : 0 ≤ options.clockSkew ∧ options.clockSkew ≤ kMaxClockSkew

/-- The constructor. -/
def TokenAuthenticator.make (tenantId : Str) (options : AuthenticatorOptions) :
    Except Exc TokenAuthenticator :=
  if hnamed : tenantId = [] then
    .error (.invalidArgument ("TokenAuthenticator: expected_tenant_id must not be empty (an empty " ++
      "expectation would disable the cross-tenant check)"))
  else if hnegative : options.clockSkew < 0 then
    .error (.invalidArgument "TokenAuthenticator: clock_skew must not be negative")
  else if hlarge : kMaxClockSkew < options.clockSkew then
    .error (.invalidArgument ("TokenAuthenticator: clock_skew exceeds the maximum permitted leeway " ++
      "(kMaxClockSkew, 60s) — a larger window would keep expired tokens valid"))
  else .ok ⟨tenantId, options, hnamed, by omega⟩

/-- `AxiamUser`. -/
structure AxiamUser where
  userId : Str
  tenantId : Str
  roles : List Str
  deriving DecidableEq

/-- What an authenticator runs in. -/
structure AuthEnv where
  jwks : Jwks.Env
  feed : FeedEnv
  /-- The wall clock, in seconds. -/
  now : Nat → Int

/-- The key cache and the feed, which other authenticators may share. -/
structure Authenticating where
  verifier : Jwks.Verifier := {}
  feed : RevocationFeed := {}
  /-- How often the wall clock was read. -/
  ticks : Nat := 0

def onVerifier {α : Type} : Prog Jwks.Verifier Exc α → Prog Authenticating Exc α :=
  Prog.zoom Authenticating.verifier fun s t => { t with verifier := s }

def onFeed {α : Type} : Prog RevocationFeed Exc α → Prog Authenticating Exc α :=
  Prog.zoom Authenticating.feed fun s t => { t with feed := s }

/-! ## The claims -/

def failed {α : Type} (why : Str) : Except Exc α :=
  .error (.auth (str "authentication_failed: " ++ why))

/-- `ClaimRead`, with the number that was read. -/
inductive ClaimRead where
  | ok (value : Int)
  | absent
  | malformed

/-- `read_numeric_claim`. -/
def readNumericClaim (payload : Json) (name : Str) : ClaimRead :=
  match payload.find? name with
  | none => .absent
  | some member =>
      match member.int64? with
      | some value => .ok value
      | none => .malformed

/-- `audience_contains`. -/
def audienceContains (payload : Json) (expected : Str) : Bool :=
  match payload.find? "aud" with
  | some (.string aud) => aud == expected
  | some (.array entries) => entries.any fun entry => entry.string? == some expected
  | _ => false

/-- Step 3: `exp` is required. -/
def checkExp (payload : Json) (now skew : Int) : Except Exc Unit :=
  match readNumericClaim payload "exp" with
  | .absent => failed "token has no exp claim"
  | .malformed => failed "token exp claim is not a number"
  | .ok exp => if exp + skew < now then failed "token has expired" else .ok ()

/-- Step 4: `nbf` is optional. -/
def checkNbf (payload : Json) (now skew : Int) : Except Exc Unit :=
  match readNumericClaim payload "nbf" with
  | .absent => .ok ()
  | .malformed => failed "token nbf claim is not a number"
  | .ok nbf => if now + skew < nbf then failed "token is not yet valid" else .ok ()

/-- Step 5: the tenant. -/
def checkTenant (payload : Json) (tenantId : Str) : Except Exc Unit :=
  match payload.stringMember? "tenant_id" with
  | none => failed "token has no tenant_id claim"
  | some tenant =>
      if tenant = [] ∨ tenant ≠ tenantId then
        failed "token tenant_id does not match the configured tenant"
      else .ok ()

/-- Step 6: what the options pin. -/
def checkPinned (payload : Json) (options : AuthenticatorOptions) : Except Exc Unit :=
  if options.expectedIssuer.isSome ∧ payload.stringMember? "iss" ≠ options.expectedIssuer then
    failed "token iss claim does not match the expected issuer"
  else if options.expectedAudience.any fun aud => audienceContains payload aud = false then
    failed "token aud claim does not include the expected audience"
  else .ok ()

/-- Steps 3 to 6, at a reading of the clock. -/
def checkClaims (auth : TokenAuthenticator) (payload : Json) (now : Int) : Except Exc Unit := do
  checkExp payload now auth.options.clockSkew
  checkNbf payload now auth.options.clockSkew
  checkTenant payload auth.tenantId
  checkPinned payload auth.options

/-- A confirmation that is there names a certificate, nothing else, and the one presented. -/
def certificateMatches (cnf : Json) (presented : Option Str) : Bool :=
  if cnf.isObject = false then false
  else match cnf.stringMember? "x5t#S256" with
    | none | some [] => false
    | some expected =>
        -- a certificate and a DPoP key: only one half can be checked here
        if (cnf.stringMember? "jkt").any (· ≠ []) then false
        else match presented with
          | none | some [] => false
          | some thumbprint => expected == thumbprint

/-- `verify_certificate_binding`. -/
def verifyCertificateBinding (parse : Parser) (claimsJson : Str) (presented : Option Str) : Bool :=
  match parse claimsJson with
  | none => false
  | some claims =>
      if claims.isObject = false then false
      else match claims.find? "cnf" with
        | none | some .null => true
        | some cnf => certificateMatches cnf presented

/-- The user a token names. -/
def AxiamUser.read (payload : Json) : AxiamUser where
  userId := (payload.stringMember? "sub").getD []
  tenantId := (payload.stringMember? "tenant_id").getD []
  roles := match payload.find? "roles" with
    | some (.array roles) => roles.filterMap Json.string?
    | _ => []

/-! ## Authentication -/

section

variable (env : AuthEnv)

def nowSeconds : Prog Authenticating Exc Int := fun s =>
  (.ok (env.now s.ticks), { s with ticks := s.ticks + 1 })

/-- The feed is asked about a `sid` that is a string, where one is attached. -/
def sessionRevoked (options : AuthenticatorOptions) (payload : Json) : Prog Authenticating Exc Bool :=
  match payload.stringMember? "sid" with
  | none => pure false
  | some sid => if options.watchesFeed then onFeed (isRevoked env.feed sid) else pure false

/-- What is checked of a payload that is an object. -/
def authenticatePayload (auth : TokenAuthenticator) (claimsJson : Str) (payload : Json)
    (presented : Option Str) : Prog Authenticating Exc AxiamUser := do
  let now ← nowSeconds env
  Prog.lift (checkClaims auth payload now)
  let revoked ← sessionRevoked env auth.options payload
  if revoked then Prog.lift (failed "the session behind this token has been revoked")
  else if verifyCertificateBinding env.jwks.parse claimsJson presented = false then
    Prog.lift (failed ("token sender constraint (cnf) not satisfied — " ++
      "this is a certificate- or DPoP-bound token and was not accepted " ++
      "as a bearer token (CONTRACT.md §10.1 rule 9); a resource server " ++
      "that intends to accept it must call " ++
      "authenticate_sender_constrained() with the peer certificate's " ++ "thumbprint"))
  else pure (AxiamUser.read payload)

/-- `authenticate_checked`. -/
def authenticateChecked (auth : TokenAuthenticator) (token : Str) (presented : Option Str) :
    Prog Authenticating Exc AxiamUser :=
  if token = [] then Prog.lift (failed "no token presented")
  else do
    let verified ← onVerifier (Jwks.verifySignatureOnlyUnchecked env.jwks token)
    match verified with
    | none => Prog.lift (failed "token signature is not valid")
    | some claimsJson =>
        match (env.jwks.parse claimsJson).filter Json.isObject with
        | none => Prog.lift (failed "token payload is not a JSON object")
        | some payload => authenticatePayload env auth claimsJson payload presented

/-- `authenticate`. -/
def authenticate (auth : TokenAuthenticator) (token : Str) : Prog Authenticating Exc AxiamUser :=
  authenticateChecked env auth token none

/-- `authenticate_sender_constrained`. -/
def authenticateSenderConstrained (auth : TokenAuthenticator) (token : Str)
    (presented : Option Str) : Prog Authenticating Exc AxiamUser :=
  authenticateChecked env auth token presented

end

/-! ## The rules -/

/-- The number of a claim, where it has one, is an integer within `2^62` of the epoch. -/
def TimeInRange (payload : Json) (name : Str) : Prop :=
  ∀ member, payload.find? name = some member → member.int64? = none ∨
    ∃ time : Int, member = .integer time ∧ -2 ^ 62 ≤ time ∧ time ≤ 2 ^ 62

/-- The rules on the claims of an access token whose times are in range. -/
structure ClaimsAccepted (auth : TokenAuthenticator) (payload : Json) (now : Int) : Prop where
  expires : ∃ exp, payload.find? "exp" = some (.integer exp) ∧ now ≤ exp + auth.options.clockSkew
  begun : payload.find? "nbf" = none ∨
    ∃ nbf, payload.find? "nbf" = some (.integer nbf) ∧ nbf ≤ now + auth.options.clockSkew
  tenant : payload.stringMember? "tenant_id" = some auth.tenantId
  issuer : ∀ iss, auth.options.expectedIssuer = some iss → payload.stringMember? "iss" = some iss
  audience : ∀ aud, auth.options.expectedAudience = some aud → payload.NamesAudience aud

/-- The session of the token is listed by the feed attached. -/
def SessionListed (env : AuthEnv) (auth : TokenAuthenticator) (s : Authenticating)
    (payload : Json) : Prop :=
  auth.options.watchesFeed = true ∧
    ∃ sid, payload.stringMember? "sid" = some sid ∧ Listed env.feed s.feed sid

/-- The table of the sender constraint: a token without one is a bearer token, and one that is bound
to a certificate alone needs its thumbprint. -/
inductive BindingHolds (payload : Json) (presented : Option Str) : Prop
  | bearer : payload.find? "cnf" = none ∨ payload.find? "cnf" = some .null →
      BindingHolds payload presented
  | bound {cnf : Json} {thumbprint : Str} : payload.find? "cnf" = some cnf →
      cnf.stringMember? "x5t#S256" = some thumbprint → thumbprint ≠ [] →
      (∀ jkt, cnf.stringMember? "jkt" = some jkt → jkt = []) → presented = some thumbprint →
      BindingHolds payload presented

/-- What `authenticate_checked` accepts. -/
def Accepted (env : AuthEnv) (auth : TokenAuthenticator) (s : Authenticating) (token : Str)
    (presented : Option Str) (user : AxiamUser) : Prop :=
  ∃ claimsJson payload, Jwks.Authentic env.jwks s.verifier token claimsJson ∧
    env.jwks.parse claimsJson = some payload ∧ payload.isObject = true ∧
    ClaimsAccepted auth payload (env.now s.ticks) ∧ ¬SessionListed env auth s payload ∧
    BindingHolds payload presented ∧ user = AxiamUser.read payload

section

variable {env : AuthEnv} {auth : TokenAuthenticator} {s : Authenticating} {payload : Json}

theorem readNumericClaim_ok_iff {name : Str} {value : Int} :
    readNumericClaim payload name = .ok value ↔ payload.StatesTime name value := by
  rw [Json.statesTime_iff]
  unfold readNumericClaim
  rcases payload.find? name with _ | member
  · simp
  · rcases hread : member.int64? with _ | time <;> simp [hread]

theorem readNumericClaim_absent_iff {name : Str} :
    readNumericClaim payload name = .absent ↔ payload.find? name = none := by
  unfold readNumericClaim
  rcases payload.find? name with _ | member
  · simp
  · rcases hread : member.int64? with _ | time <;> simp [hread]

/-- A time in range is stated by an integer, and is that integer. -/
theorem TimeInRange.states_iff {name : Str} (h : TimeInRange payload name) {time : Int} :
    payload.StatesTime name time ↔ payload.find? name = some (.integer time) := by
  rw [Json.statesTime_iff]
  rcases hfind : payload.find? name with _ | member
  · simp
  · rcases h member hfind with hnone | ⟨stated, rfl, hlow, hhigh⟩
    · rw [Option.bind_some, hnone]
      refine iff_of_false nofun fun heq => ?_
      cases heq
      cases hnone
    · have hfits : IsInt64 stated := by
        unfold IsInt64
        omega
      rw [Option.bind_some, Json.int64?, wrapInt64_of_isInt64 hfits]
      simp

theorem audienceContains_iff {expected : Str} :
    audienceContains payload expected = true ↔ payload.NamesAudience expected := by
  rw [← Oidc.mem_audiences]
  unfold audienceContains Oidc.stringArray
  rcases payload.find? "aud" with _ | member
  · simp
  · cases member with
    | string aud =>
        simp only [beq_iff_eq, List.mem_singleton]
        exact eq_comm
    | array entries => simp [List.any_eq_true]
    | _ => simp

theorem checkExp_ok_iff {now skew : Int} : checkExp payload now skew = .ok () ↔
    ∃ exp, payload.StatesTime "exp" exp ∧ now ≤ exp + skew := by
  unfold checkExp failed
  simp only [← readNumericClaim_ok_iff]
  rcases readNumericClaim payload "exp" with exp | _ | _
  · by_cases hpast : exp + skew < now
    · simp only [if_pos hpast]
      refine ⟨fun h => (nomatch h), fun ⟨_, heq, hle⟩ => ?_⟩
      cases heq
      omega
    · simp only [if_neg hpast]
      exact ⟨fun _ => ⟨exp, rfl, by omega⟩, fun _ => trivial⟩
  · simp
  · simp

theorem checkNbf_ok_iff {now skew : Int} : checkNbf payload now skew = .ok () ↔
    payload.find? "nbf" = none ∨ ∃ nbf, payload.StatesTime "nbf" nbf ∧ nbf ≤ now + skew := by
  unfold checkNbf failed
  simp only [← readNumericClaim_ok_iff, ← readNumericClaim_absent_iff]
  rcases readNumericClaim payload "nbf" with nbf | _ | _
  · by_cases hearly : now + skew < nbf
    · simp only [if_pos hearly]
      refine ⟨fun h => (nomatch h), ?_⟩
      rintro (h | ⟨_, heq, hle⟩)
      · cases h
      · cases heq
        omega
    · simp only [if_neg hearly]
      exact ⟨fun _ => .inr ⟨nbf, rfl, by omega⟩, fun _ => trivial⟩
  · simp
  · simp

theorem checkTenant_ok_iff : checkTenant payload auth.tenantId = .ok () ↔
    payload.stringMember? "tenant_id" = some auth.tenantId := by
  unfold checkTenant failed
  rcases payload.stringMember? "tenant_id" with _ | tenant
  · simp
  · by_cases hother : tenant = [] ∨ tenant ≠ auth.tenantId
    · simp only [if_pos hother]
      refine ⟨fun h => (nomatch h), fun h => ?_⟩
      cases h
      exact hother.elim (fun h => absurd h auth.named) fun h => absurd rfl h
    · simp only [if_neg hother]
      rw [not_or, not_not] at hother
      exact ⟨fun _ => congrArg some hother.2, fun _ => trivial⟩

theorem checkPinned_ok_iff {options : AuthenticatorOptions} :
    checkPinned payload options = .ok () ↔
      (∀ iss, options.expectedIssuer = some iss → payload.stringMember? "iss" = some iss) ∧
      ∀ aud, options.expectedAudience = some aud → payload.NamesAudience aud := by
  unfold checkPinned failed
  have hissuer : ¬(options.expectedIssuer.isSome ∧
      payload.stringMember? "iss" ≠ options.expectedIssuer) ↔
      ∀ iss, options.expectedIssuer = some iss → payload.stringMember? "iss" = some iss := by
    rcases options.expectedIssuer with _ | iss <;> simp
  have haudience : ¬(options.expectedAudience.any fun aud => audienceContains payload aud = false) ↔
      ∀ aud, options.expectedAudience = some aud → payload.NamesAudience aud := by
    rcases options.expectedAudience with _ | aud
    · simp
    · simp [← audienceContains_iff]
  rw [← hissuer, ← haudience]
  by_cases hiss : options.expectedIssuer.isSome ∧ payload.stringMember? "iss" ≠ options.expectedIssuer
  · rw [if_pos hiss]
    exact ⟨fun h => (nomatch h), fun h => absurd hiss h.1⟩
  · rw [if_neg hiss]
    split_ifs with haud
    · exact ⟨fun h => (nomatch h), fun h => absurd haud h.2⟩
    · exact ⟨fun _ => ⟨hiss, haud⟩, fun _ => rfl⟩

/-- In range, the claims pass the checks when they are accepted. -/
theorem checkClaims_ok_iff {now : Int} (hexp : TimeInRange payload "exp")
    (hnbf : TimeInRange payload "nbf") :
    checkClaims auth payload now = .ok () ↔ ClaimsAccepted auth payload now := by
  have hexpires {skew : Int} : checkExp payload now skew = .ok () ↔
      ∃ exp, payload.find? "exp" = some (.integer exp) ∧ now ≤ exp + skew := by
    simp only [checkExp_ok_iff, hexp.states_iff]
  have hbegun {skew : Int} : checkNbf payload now skew = .ok () ↔ payload.find? "nbf" = none ∨
      ∃ nbf, payload.find? "nbf" = some (.integer nbf) ∧ nbf ≤ now + skew := by
    simp only [checkNbf_ok_iff, hnbf.states_iff]
  unfold checkClaims
  constructor
  · intro h
    obtain ⟨_, hexp, h⟩ := except_bind_eq_ok.mp h
    obtain ⟨_, hnbf, h⟩ := except_bind_eq_ok.mp h
    obtain ⟨_, htenant, hpinned⟩ := except_bind_eq_ok.mp h
    obtain ⟨hissuer, haudience⟩ := checkPinned_ok_iff.mp hpinned
    exact ⟨hexpires.mp hexp, hbegun.mp hnbf, checkTenant_ok_iff.mp htenant, hissuer, haudience⟩
  · intro h
    exact except_bind_eq_ok.mpr ⟨(), hexpires.mpr h.expires,
      except_bind_eq_ok.mpr ⟨(), hbegun.mpr h.begun,
        except_bind_eq_ok.mpr ⟨(), checkTenant_ok_iff.mpr h.tenant,
          checkPinned_ok_iff.mpr ⟨h.issuer, h.audience⟩⟩⟩⟩

theorem certificateMatches_iff {cnf : Json} {presented : Option Str} :
    certificateMatches cnf presented = true ↔ ∃ thumbprint, thumbprint ≠ [] ∧
      cnf.stringMember? "x5t#S256" = some thumbprint ∧
      (∀ jkt, cnf.stringMember? "jkt" = some jkt → jkt = []) ∧ presented = some thumbprint := by
  unfold certificateMatches
  by_cases hobject : cnf.isObject = false
  · rw [if_pos hobject]
    refine ⟨fun h => (nomatch h), ?_⟩
    rintro ⟨_, -, hx5t, -⟩
    rw [Json.isObject_of_stringMember hx5t] at hobject
    cases hobject
  rw [if_neg hobject]
  have hjkt : (cnf.stringMember? "jkt").any (· ≠ []) = true ↔
      ¬∀ jkt, cnf.stringMember? "jkt" = some jkt → jkt = [] := by
    rcases cnf.stringMember? "jkt" with _ | jkt <;> simp
  rcases cnf.stringMember? "x5t#S256" with _ | _ | ⟨c, rest⟩
  · simp
  · simp
  · simp only [hjkt]
    by_cases hfree : ∀ jkt, cnf.stringMember? "jkt" = some jkt → jkt = []
    · rw [if_neg (not_not.mpr hfree)]
      rcases presented with _ | _ | ⟨c', rest'⟩
      · simp
      · simp
      · constructor
        · intro h
          exact ⟨c :: rest, by simp, rfl, hfree, congrArg some (eq_of_beq h).symm⟩
        · rintro ⟨_, -, heq, -, hpresented⟩
          cases heq
          cases hpresented
          exact beq_self_eq_true _
    · rw [if_pos hfree]
      exact ⟨fun h => (nomatch h), fun ⟨_, _, _, h, _⟩ => absurd h hfree⟩

theorem verifyCertificateBinding_iff {claimsJson : Str} {presented : Option Str}
    (hparse : env.jwks.parse claimsJson = some payload) (hobject : payload.isObject = true) :
    verifyCertificateBinding env.jwks.parse claimsJson presented = true ↔
      BindingHolds payload presented := by
  unfold verifyCertificateBinding
  rw [hparse]
  simp only
  rw [if_neg (by simp [hobject])]
  rcases hcnf : payload.find? "cnf" with _ | cnf
  · exact ⟨fun _ => .bearer (.inl hcnf), fun _ => rfl⟩
  by_cases hnull : cnf = .null
  · subst hnull
    exact ⟨fun _ => .bearer (.inr hcnf), fun _ => rfl⟩
  have hmatch : (match some cnf with
      | none | some .null => true
      | some cnf => certificateMatches cnf presented) = certificateMatches cnf presented := by
    cases cnf <;> first | rfl | exact absurd rfl hnull
  rw [hmatch, certificateMatches_iff]
  constructor
  · rintro ⟨thumbprint, hne, hx5t, hfree, hpresented⟩
    exact .bound hcnf hx5t hne hfree hpresented
  · intro h
    cases h with
    | bearer hnone =>
        rcases hnone with hnone | hnone
        · rw [hcnf] at hnone
          cases hnone
        · rw [hcnf] at hnone
          exact absurd (Option.some.inj hnone) hnull
    | bound hsome hx5t hne hfree hpresented =>
        rw [hcnf] at hsome
        cases hsome
        exact ⟨_, hne, hx5t, hfree, hpresented⟩

theorem sessionRevoked_returns (env : AuthEnv) (options : AuthenticatorOptions) (payload : Json)
    (s : Authenticating) :
    ∃ revoked t, sessionRevoked env options payload s = (.ok revoked, t) ∧
      (revoked = true ↔ options.watchesFeed = true ∧
        ∃ sid, payload.stringMember? "sid" = some sid ∧ Listed env.feed s.feed sid) := by
  unfold sessionRevoked
  rcases payload.stringMember? "sid" with _ | sid
  · exact ⟨false, s, rfl, by simp⟩
  · rcases hwatch : options.watchesFeed with _ | _
    · exact ⟨false, s, rfl, by simp⟩
    · obtain ⟨revoked, t, hrun, hiff⟩ := isRevoked_returns env.feed s.feed sid
      refine ⟨revoked, { s with feed := t }, ?_, by simp [hiff]⟩
      show ((isRevoked env.feed sid s.feed).1, { s with feed := (isRevoked env.feed sid s.feed).2 }) = _
      rw [hrun]

/-- A payload is let through when its claims, its session and its binding are. -/
theorem authenticatePayload_ok_iff {claimsJson : Str} {presented : Option Str} {user : AxiamUser}
    (hparse : env.jwks.parse claimsJson = some payload) (hobject : payload.isObject = true) :
    (authenticatePayload env auth claimsJson payload presented s).1 = .ok user ↔
      checkClaims auth payload (env.now s.ticks) = .ok () ∧ ¬SessionListed env auth s payload ∧
        BindingHolds payload presented ∧ user = AxiamUser.read payload := by
  unfold authenticatePayload SessionListed
  have hnow : nowSeconds env s = (.ok (env.now s.ticks), { s with ticks := s.ticks + 1 }) := rfl
  rw [Prog.bind_run_ok hnow, Prog.bind_run, Prog.lift_run,
    ← verifyCertificateBinding_iff hparse hobject]
  rcases checkClaims auth payload (env.now s.ticks) with e | _
  · simp
  obtain ⟨revoked, t, hrun, hiff⟩ := sessionRevoked_returns env auth.options payload
    { s with ticks := s.ticks + 1 }
  simp only
  rw [Prog.bind_run_ok hrun]
  simp only at hiff
  rw [← hiff]
  rcases revoked with _ | _
  · rcases verifyCertificateBinding env.jwks.parse claimsJson presented with _ | _
    · simp [failed]
    · simp [eq_comm]
  · simp [failed]

/-- A token is let through, and as whom. -/
theorem authenticateChecked_ok_iff {token : Str} {presented : Option Str} {user : AxiamUser} :
    (authenticateChecked env auth token presented s).1 = .ok user ↔
      ∃ claimsJson payload, Jwks.Authentic env.jwks s.verifier token claimsJson ∧
        env.jwks.parse claimsJson = some payload ∧ payload.isObject = true ∧
        checkClaims auth payload (env.now s.ticks) = .ok () ∧ ¬SessionListed env auth s payload ∧
        BindingHolds payload presented ∧ user = AxiamUser.read payload := by
  unfold authenticateChecked
  simp only [← Jwks.verifyWithReason_ok_iff]
  by_cases hnil : token = []
  · subst hnil
    rw [if_pos rfl]
    refine ⟨fun h => (nomatch h), ?_⟩
    rintro ⟨_, _, hverify, -⟩
    cases hverify
  rw [if_neg hnil, Prog.bind_run]
  have hverified : onVerifier (Jwks.verifySignatureOnlyUnchecked env.jwks token) s =
      ((Jwks.verifyWithReason env.jwks token s.verifier).1.map Except.toOption,
        { s with verifier := (Jwks.verifyWithReason env.jwks token s.verifier).2 }) := by
    show ((Jwks.verifySignatureOnlyUnchecked env.jwks token s.verifier).1, { s with
      verifier := (Jwks.verifySignatureOnlyUnchecked env.jwks token s.verifier).2 }) = _
    unfold Jwks.verifySignatureOnlyUnchecked
    rw [Prog.bind_run]
    rcases Jwks.verifyWithReason env.jwks token s.verifier with ⟨e | reason | claimsJson, v⟩ <;> rfl
  rw [hverified]
  have ht : ∃ t : Authenticating, t = { s with
      verifier := (Jwks.verifyWithReason env.jwks token s.verifier).2 } := ⟨_, rfl⟩
  obtain ⟨t, ht⟩ := ht
  rw [← ht]
  rcases (Jwks.verifyWithReason env.jwks token s.verifier).1 with e | reason | claimsJson
  · simp [Except.map]
  · simp [Except.map, Except.toOption, failed]
  · simp only [Except.map, Except.toOption, Except.ok.injEq]
    constructor
    · intro h
      rcases hread : (env.jwks.parse claimsJson).filter Json.isObject with _ | payload <;>
        rw [hread] at h
      · cases h
      · obtain ⟨hparse, hobject⟩ := Option.filter_eq_some_iff.mp hread
        have hrest := (authenticatePayload_ok_iff hparse hobject).mp h
        subst ht
        exact ⟨claimsJson, payload, rfl, hparse, hobject, hrest⟩
    · rintro ⟨_, payload, rfl, hparse, hobject, hrest⟩
      rw [Option.filter_eq_some_iff.mpr ⟨hparse, hobject⟩]
      subst ht
      exact (authenticatePayload_ok_iff hparse hobject).mpr hrest

/-- The times of what the token carries are in range. -/
def TimesInRange (env : AuthEnv) (s : Authenticating) (token : Str) : Prop :=
  ∀ claimsJson payload, Jwks.Authentic env.jwks s.verifier token claimsJson →
    env.jwks.parse claimsJson = some payload →
      TimeInRange payload "exp" ∧ TimeInRange payload "nbf"

/-- A token whose times are in range is let through when it is accepted. -/
theorem authenticateChecked_accepted {token : Str} (hrange : TimesInRange env s token)
    {presented : Option Str} {user : AxiamUser} :
    (authenticateChecked env auth token presented s).1 = .ok user ↔
      Accepted env auth s token presented user := by
  rw [authenticateChecked_ok_iff]
  constructor
  · rintro ⟨claimsJson, payload, hauth, hparse, hobject, hclaims, hrest⟩
    obtain ⟨hexp, hnbf⟩ := hrange claimsJson payload hauth hparse
    exact ⟨claimsJson, payload, hauth, hparse, hobject, (checkClaims_ok_iff hexp hnbf).mp hclaims,
      hrest⟩
  · rintro ⟨claimsJson, payload, hauth, hparse, hobject, hclaims, hrest⟩
    obtain ⟨hexp, hnbf⟩ := hrange claimsJson payload hauth hparse
    exact ⟨claimsJson, payload, hauth, hparse, hobject, (checkClaims_ok_iff hexp hnbf).mpr hclaims,
      hrest⟩

/-- A token without a sender constraint is accepted whatever is presented. -/
theorem BindingHolds.of_none {presented : Option Str} (h : BindingHolds payload none) :
    BindingHolds payload presented := by
  cases h with
  | bearer hnone => exact .bearer hnone
  | bound _ _ _ _ hpresented => cases hpresented

end

/-- A token whose times are in range is accepted exactly by its signature, its claims, its session
and its binding; what `authenticate` accepts, `authenticate_sender_constrained` accepts with any
thumbprint and as the same user; and with more entries in the feed nothing more is accepted. -/
theorem token_authentication (env : AuthEnv) (auth : TokenAuthenticator) (token : Str)
    (s : Authenticating) :
    (TimesInRange env s token → ∀ presented user,
      (authenticateChecked env auth token presented s).1 = .ok user ↔
        Accepted env auth s token presented user) ∧
    (∀ user presented, (authenticate env auth token s).1 = .ok user →
      (authenticateSenderConstrained env auth token presented s).1 = .ok user) ∧
    ∀ (feed' : FeedEnv) (f' : RevocationFeed), Grown env.feed s.feed feed' f' →
      ∀ presented user,
        (authenticateChecked { env with feed := feed' } auth token presented
          { s with feed := f' }).1 = .ok user →
        (authenticateChecked env auth token presented s).1 = .ok user := by
  refine ⟨fun hrange presented user => authenticateChecked_accepted hrange,
    fun user presented h => ?_,
    fun feed' f' hgrown presented user h => ?_⟩
  · obtain ⟨claimsJson, payload, hauth, hparse, hobject, hclaims, hlisted, hbinding, huser⟩ :=
      authenticateChecked_ok_iff.mp h
    exact authenticateChecked_ok_iff.mpr
      ⟨claimsJson, payload, hauth, hparse, hobject, hclaims, hlisted, hbinding.of_none, huser⟩
  · obtain ⟨claimsJson, payload, hauth, hparse, hobject, hclaims, hlisted, hrest⟩ :=
      authenticateChecked_ok_iff.mp h
    refine authenticateChecked_ok_iff.mpr
      ⟨claimsJson, payload, hauth, hparse, hobject, hclaims, fun hbefore => hlisted ?_, hrest⟩
    obtain ⟨hwatches, sid, hsid, hlists⟩ := hbefore
    exact ⟨hwatches, sid, hsid, hgrown.listed hlists⟩

/-! ## A server that watches a feed -/

def sessionClaims : Json :=
  .object [("exp", .integer 400), ("tenant_id", .string "t"), ("sid", .string "s"),
    ("sub", .string "u")]

/-- A server of the tenant `t` that watches a feed. -/
def watchingEnv (feed : FeedEnv) : AuthEnv where
  jwks := Jwks.trustingEnv (tableParser [(str "h", Jwks.headerOfKey), (str "i", sessionClaims)])
  feed := feed
  now := fun _ => 100

def watching : TokenAuthenticator := ⟨"t", { watchesFeed := true }, by decide, by decide⟩

def watchingState (feed : RevocationFeed) : Authenticating := { verifier := Jwks.oneKey, feed := feed }

theorem sessionClaims_accepted : ClaimsAccepted watching sessionClaims 100 where
  expires := ⟨400, rfl, by decide⟩
  begun := .inl rfl
  tenant := by decide
  issuer := fun _ h => nomatch h
  audience := fun _ h => nomatch h

theorem watching_inRange (feed : FeedEnv) (f : RevocationFeed) :
    TimesInRange (watchingEnv feed) (watchingState f) Jwks.tokenOfKey := by
  intro claimsJson payload hauth hparse
  have hown : Jwks.Authentic (watchingEnv feed).jwks (watchingState f).verifier Jwks.tokenOfKey
      (str "i") := Jwks.tokenOfKey_authentic rfl
  have hsame := hown.payload_eq hauth
  subst hsame
  cases hparse
  constructor
  · intro member hfind
    cases hfind
    exact .inr ⟨400, rfl, by decide, by decide⟩
  · intro member hfind
    cases hfind

/-- The token is accepted there unless its session is listed. -/
theorem watching_accepted (feed : FeedEnv) (f : RevocationFeed) (presented : Option Str)
    (user : AxiamUser) :
    Accepted (watchingEnv feed) watching (watchingState f) Jwks.tokenOfKey presented user ↔
      ¬Listed feed f (str "s") ∧ user = AxiamUser.read sessionClaims := by
  have hauth : Jwks.Authentic (watchingEnv feed).jwks (watchingState f).verifier Jwks.tokenOfKey
      (str "i") := Jwks.tokenOfKey_authentic rfl
  have hsid : sessionClaims.stringMember? "sid" = some (str "s") := by decide
  constructor
  · rintro ⟨claimsJson, payload, hauth', hparse, -, -, hlisted, -, huser⟩
    have hsame := hauth.payload_eq hauth'
    subst hsame
    cases hparse
    exact ⟨fun h => hlisted ⟨rfl, str "s", hsid, h⟩, huser⟩
  · rintro ⟨hlisted, rfl⟩
    refine ⟨str "i", sessionClaims, hauth, rfl, rfl, sessionClaims_accepted, ?_,
      .bearer (.inl (by decide)), rfl⟩
    rintro ⟨-, sid, hsome, h⟩
    rw [hsid] at hsome
    cases hsome
    exact hlisted h

/-- A deployment whose feed nobody reaches. -/
def unreachableFeed : FeedEnv where
  baseUrl := "https://axiam.example"
  parse := fun _ => none
  sha256 := fun _ => some (List.replicate 32 0)
  transport := fun _ _ => .error (.foreign "unreachable")
  clock := fun _ => 0

/-- A token accepted beside the session of another is accepted where no session is listed, and
with a certificate presented too. -/
theorem watching_accepts :
    (authenticate (watchingEnv unreachableFeed) watching Jwks.tokenOfKey (watchingState {})).1 =
        .ok (AxiamUser.read sessionClaims) ∧
      (authenticateSenderConstrained (watchingEnv unreachableFeed) watching Jwks.tokenOfKey
        (some (str "thumbprint")) (watchingState {})).1 = .ok (AxiamUser.read sessionClaims) ∧
      Accepted (watchingEnv unreachableFeed) watching (watchingState {}) Jwks.tokenOfKey none
        (AxiamUser.read sessionClaims) := by
  have hgrown : Grown unreachableFeed {} unreachableFeed { entries := some [str "other"] } :=
    ⟨rfl, rfl, rfl, rfl, fun _ h => (nomatch h), .inl ⟨rfl, rfl⟩⟩
  obtain ⟨hiff, hbound, hmore⟩ :=
    token_authentication (watchingEnv unreachableFeed) watching Jwks.tokenOfKey (watchingState {})
  have hother : (authenticateChecked (watchingEnv unreachableFeed) watching Jwks.tokenOfKey none
      (watchingState { entries := some [str "other"] })).1 = .ok (AxiamUser.read sessionClaims) := by
    refine (authenticateChecked_accepted (watching_inRange _ _)).mpr
      ((watching_accepted _ _ none _).mpr ⟨?_, rfl⟩)
    rintro ⟨-, entries, hheld, hmem⟩
    cases hheld
    exact absurd hmem (by decide)
  have haccepted := hmore unreachableFeed { entries := some [str "other"] } hgrown none _ hother
  have hrules := (hiff (watching_inRange _ _) none _).mp haccepted
  exact ⟨haccepted, hbound _ _ haccepted, hrules⟩

/-! ## A feed that overflows -/

/-- The entry of every session, where the digest of every text is the same. -/
def sessionEntry : Str := base64urlEncode (List.replicate 32 0)

/-- The entries of the session and of `n` others. -/
def crowd (n : Nat) : List Json :=
  .string sessionEntry :: (List.range n).map fun i => .string (toStr i)

def crowdedFeed (n : Nat) : FeedEnv where
  baseUrl := "https://axiam.example"
  parse := fun text =>
    if text = str "feed" then
      some (.object [("alg", .string "SHA-256"), ("revoked", .array (crowd n))])
    else none
  sha256 := fun _ => some (List.replicate 32 0)
  transport := fun _ _ => .ok ⟨200, [], [], "feed", []⟩
  clock := fun _ => 0

theorem crowd_length (n : Nat) : (crowd n).length = n + 1 := by simp [crowd]

theorem crowd_serves (n : Nat) : Serves (crowdedFeed n) {} (crowd n) :=
  ⟨_, _, rfl, rfl, rfl, rfl, rfl, rfl⟩

theorem crowd_grows (n : Nat) : crowd (n + 1) = crowd n ++ [.string (toStr n)] := by
  simp [crowd, List.range_succ]

/-- The session is listed as long as the document can be used. -/
theorem crowded_listed (n : Nat) :
    Listed (crowdedFeed n) {} (str "s") ↔ n < kMaxRevocationEntries := by
  have hfetched := fetched_of_serves (crowd_serves n)
  rw [crowd_length] at hfetched
  unfold Listed honoured due
  simp only [if_true, hfetched]
  by_cases hfit : n < kMaxRevocationEntries
  · rw [if_neg (by omega)]
    refine ⟨fun _ => hfit, fun _ => ⟨by decide, _, rfl, ?_⟩⟩
    exact List.mem_filterMap.mpr ⟨_, List.mem_cons_self, rfl⟩
  · rw [if_pos (by omega)]
    refine ⟨fun h => ?_, fun h => absurd h hfit⟩
    obtain ⟨-, _, hnone, -⟩ := h
    cases hnone

/-- A token whose session a full document lists is refused, and accepted once one more entry
makes that document one too long to be used. -/
theorem overflowing_feed_admits :
    Serves (crowdedFeed 99999) {} (crowd 99999) ∧
      Serves (crowdedFeed 100000) {} (crowd 99999 ++ [.string (toStr (99999 : Nat))]) ∧
      (∀ user, (authenticate (watchingEnv (crowdedFeed 99999)) watching Jwks.tokenOfKey
        (watchingState {})).1 ≠ .ok user) ∧
      ∃ user, (authenticate (watchingEnv (crowdedFeed 100000)) watching Jwks.tokenOfKey
        (watchingState {})).1 = .ok user := by
  refine ⟨crowd_serves 99999, ?_, fun user h => ?_, ⟨AxiamUser.read sessionClaims, ?_⟩⟩
  · rw [← crowd_grows]
    exact crowd_serves 100000
  · have haccepted := (watching_accepted _ _ none user).mp
      ((authenticateChecked_accepted (watching_inRange _ _)).mp h)
    exact haccepted.1 ((crowded_listed 99999).mpr (by decide))
  · refine (authenticateChecked_accepted (watching_inRange _ _)).mpr
      ((watching_accepted _ _ none _).mpr ⟨fun h => ?_, rfl⟩)
    exact absurd ((crowded_listed 100000).mp h) (by decide)

end Axiam.Auth
