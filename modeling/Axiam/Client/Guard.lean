import Axiam.Client.Decisions
import Axiam.Mcp.Metadata
import Axiam.Oidc.Uma
import Axiam.Oidc.UmaChallenge

/-!
# Route guards

The guards of a resource server (`axiam/guard.hpp`).  A guard stands before a handler: it passes, or
it throws, and what it throws is what the request is refused with.  The plain guard asks the client
for a decision; one overload mints a ticket on a denial, another names the scope that is missing.
-/

namespace Axiam.Guard

open Axiam.Lib Axiam.Lib.Prog Axiam.Client Axiam.Memo

/-- `AxiamUser`: the identity a request was verified to have. -/
structure AxiamUser where
  userId : Str
  tenantId : Str
  roles : List Str
  deriving DecidableEq

def AxiamUser.hasRole (u : AxiamUser) (role : Str) : Bool := u.roles.any (· == role)

/-- What leaves a guard: an exception of the client's, or one of those with a challenge in it. -/
inductive GuardExc where
  | sdk (e : Exc)
  /-- `AuthzChallengeError`, a kind of `AuthzError`. -/
  | authzChallenge (what challenge : Str) (action resourceId : Option Str)
  /-- `AuthChallengeError`, a kind of `AuthError`. -/
  | authChallenge (what challenge : Str)

/-- `catch (const AuthzError&)` takes it, and what it says of the action and the resource. -/
def denies : Exc → Option (Option Str × Option Str)
  | .axiam (.authz _ action resourceId) => some (action, resourceId)
  | .axiam (.notFound _) | .axiam (.conflict _ _) => some (none, none)
  | _ => none

/-- A denial of the guard's own. -/
def denied (what : Str) : Exc := .axiam (.authz what none none)

/-- `require_auth`. -/
def requireAuth (user : Option AxiamUser) : Except Exc AxiamUser :=
  match user with
  | some u => .ok u
  | none => .error (.auth "authentication_failed")

/-- `require_role`. -/
def requireRole (user : Option AxiamUser) (anyOf : List Str) : Except Exc Unit := do
  let u ← requireAuth user
  if anyOf.any u.hasRole then pure ()
  else .error (denied "authorization_denied: missing required role")

section

variable (env : Env)

/-- A decision asked for: where none can be had, the answer is a denial. -/
def failClosed (u : AxiamUser) (action resourceId : Str) (scope : Option Str) :
    Prog Impl Exc AccessDecision :=
  tryCatch (checkAccess env action resourceId scope (some u.userId)) fun e =>
    if (denies e).isSome then throw e
    else if e.isNetwork then throw (denied "authz_unavailable")
    else throw e

/-- What both guards ask for before they decide. -/
def ask (user : Option AxiamUser) (action resourceId : Str) (scope : Option Str) :
    Prog Impl Exc AccessDecision := do
  let u ← Prog.lift (requireAuth user)
  if resourceId = [] then throw (.invalidArgument "invalid_request: unresolved resource id")
  else failClosed env u action resourceId scope

/-- `require_access`. -/
def requireAccess (user : Option AxiamUser) (action resourceId : Str) (scope : Option Str) :
    Prog Impl Exc Unit := do
  let decision ← ask env user action resourceId scope
  if decision.allowed then pure () else throw (denied "authorization_denied")

/-- What a program came to, as a value. -/
def outcome {σ ε ε' α : Type} (m : Prog σ ε α) : Prog σ ε' (Except ε α) := fun s =>
  (.ok (m s).1, (m s).2)

/-- `UmaChallenger`. -/
structure UmaChallenger where
  realm : Str
  asUri : Str
  pat : Str

/-- The header of a ticket that was minted for what was denied. -/
def mintHeader (challenger : UmaChallenger) (action resourceId : Str) :
    Prog Uma.UmaClient Exc Str := do
  let ticket ← Uma.umaRequestTicket env challenger.pat [⟨resourceId, [action]⟩]
  pure (Oidc.umaChallengeHeader challenger.realm challenger.asUri ticket)

/-- `require_access`, with a ticket for whoever is denied. -/
def requireAccessUma (user : Option AxiamUser) (action resourceId : Str)
    (challenger : UmaChallenger) (scope : Option Str) : Prog Uma.UmaClient GuardExc Unit := do
  let plain ← outcome (Uma.onImpl (requireAccess env user action resourceId scope))
  match plain with
  | .ok () => pure ()
  | .error denial =>
      match denies denial with
      | none => throw (.sdk denial)
      | some (deniedAction, deniedResource) => do
          let minted ← outcome (mintHeader env challenger action resourceId)
          match minted with
          | .ok header =>
              throw (.authzChallenge denial.what header deniedAction deniedResource)
          -- a failure to mint that is an `AxiamError` is swallowed, and the denial stands
          | .error e => throw (.sdk (if e.isAxiam then denial else e))

/-- What a decision that was had comes to, where a scope may be named that is missing. -/
def judge (action resourceId : Str) (challenges : Option Mcp.McpChallenges) (scope : Option Str)
    (decision : AccessDecision) : Except GuardExc Unit :=
  if decision.allowed then .ok ()
  else
    match challenges, scope with
    | some challenges, some scope =>
        if decision.reasonCode = some (str "no_grant") then
          match Mcp.mcpInsufficientScopeChallenge challenges scope with
          | .ok header => .error
              (.authzChallenge "authorization_denied" header (some action) (some resourceId))
          | .error what => .error (.sdk (.invalidArgument what))
        else .error (.sdk (denied "authorization_denied"))
    | _, _ => .error (.sdk (denied "authorization_denied"))

/-- `require_access`, with a challenge where a grant is missing. -/
def requireAccessMcp (user : Option AxiamUser) (action resourceId : Str)
    (challenges : Option Mcp.McpChallenges) (scope : Option Str) : Prog Impl GuardExc Unit := do
  let asked ← outcome (ask env user action resourceId scope)
  match asked with
  | .ok decision => Prog.lift (judge action resourceId challenges scope decision)
  | .error e => throw (.sdk e)

end

/-- `AxiamGuard`: an authenticator, and the challenges a refusal carries. -/
structure AxiamGuard (ρ : Type) where
  auth : ρ → Except Exc (Option AxiamUser)
  challenges : Option Mcp.McpChallenges := none
  hasCredential : ρ → Bool := fun _ => false

/-- The call of a guard. -/
def AxiamGuard.call {ρ : Type} (g : AxiamGuard ρ) (request : ρ) : Except GuardExc AxiamUser :=
  match g.auth request with
  | .error e => .error (.sdk e)
  | .ok (some u) => .ok u
  | .ok none =>
      match g.challenges with
      | none => .error (.sdk (.auth "authentication_failed"))
      | some challenges => .error (.authChallenge "authentication_failed"
          (if g.hasCredential request then challenges.invalidToken else challenges.noCredential))

/-! ## Who passes -/

/-- One of the roles asked for is among those of the user. -/
theorem requireRole_ok_iff {user : Option AxiamUser} {anyOf : List Str} :
    requireRole user anyOf = .ok () ↔ ∃ u, user = some u ∧ ∃ role ∈ anyOf, role ∈ u.roles := by
  cases user with
  | none => exact ⟨nofun, fun ⟨_, h, _⟩ => nomatch h⟩
  | some u =>
      have hany : anyOf.any u.hasRole = true ↔ ∃ role ∈ anyOf, role ∈ u.roles := by
        simp [AxiamUser.hasRole, List.any_eq_true]
      have hrole : requireRole (some u) anyOf = if anyOf.any u.hasRole then .ok ()
          else .error (denied "authorization_denied: missing required role") := rfl
      rw [hrole]
      by_cases h : anyOf.any u.hasRole = true
      · rw [if_pos h]
        exact ⟨fun _ => ⟨u, rfl, hany.mp h⟩, fun _ => rfl⟩
      · rw [if_neg h]
        refine ⟨nofun, fun ⟨u', hu, hroles⟩ => ?_⟩
        cases hu
        exact absurd (hany.mpr hroles) h

/-- A guard lets pass whom its authenticator knows, with or without challenges. -/
theorem AxiamGuard.call_eq_ok {ρ : Type} {g : AxiamGuard ρ} {request : ρ} {u : AxiamUser} :
    g.call request = .ok u ↔ g.auth request = .ok (some u) := by
  unfold AxiamGuard.call
  rcases g.auth request with e | _ | u'
  · simp
  · cases g.challenges <;> simp
  · simp

/-! ## What a pass rests on -/

section

variable {env : Env} {user : Option AxiamUser} {action resourceId : Str} {scope : Option Str}

theorem failClosed_eq_ok {u : AxiamUser} {s t : Impl} {d : AccessDecision}
    (h : failClosed env u action resourceId scope s = (.ok d, t)) :
    checkAccess env action resourceId scope (some u.userId) s = (.ok d, t) := by
  unfold failClosed at h
  rw [tryCatch_run] at h
  rcases hcheck : checkAccess env action resourceId scope (some u.userId) s with ⟨e | d', t'⟩
  · rw [hcheck] at h
    simp only at h
    split_ifs at h <;> cases h
  · rw [hcheck] at h
    exact h

/-- What is thrown for a decision is no failure of the network. -/
theorem failClosed_eq_error {u : AxiamUser} {s t : Impl} {e : Exc}
    (h : failClosed env u action resourceId scope s = (.error e, t)) : e.isNetwork = false := by
  unfold failClosed at h
  rw [tryCatch_run] at h
  rcases hcheck : checkAccess env action resourceId scope (some u.userId) s with ⟨e' | d, t'⟩
  · rw [hcheck] at h
    simp only at h
    split_ifs at h with hdenies hnetwork
    · cases h
      unfold denies at hdenies
      split at hdenies
      · rfl
      · rfl
      · rfl
      · cases hdenies
    · cases h
      rfl
    · cases h
      exact Bool.eq_false_iff.mpr hnetwork
  · rw [hcheck] at h
    cases h

theorem ask_eq_ok {s t : Impl} {d : AccessDecision}
    (h : ask env user action resourceId scope s = (.ok d, t)) :
    ∃ u, user = some u ∧ resourceId ≠ [] ∧
      checkAccess env action resourceId scope (some u.userId) s = (.ok d, t) := by
  unfold ask at h
  obtain ⟨u, s', huser, hask⟩ := bind_eq_ok.mp h
  rw [lift_run, Prod.mk.injEq] at huser
  obtain ⟨huser, rfl⟩ := huser
  by_cases hempty : resourceId = []
  · rw [if_pos hempty] at hask
    cases hask
  rw [if_neg hempty] at hask
  cases user with
  | none => cases huser
  | some u' =>
      cases huser
      exact ⟨u, rfl, hempty, failClosed_eq_ok hask⟩

theorem ask_eq_error {s t : Impl} {e : Exc}
    (h : ask env user action resourceId scope s = (.error e, t)) : e.isNetwork = false := by
  unfold ask at h
  rcases bind_eq_error.mp h with huser | ⟨u, s', huser, hask⟩
  · rw [lift_run, Prod.mk.injEq] at huser
    cases user with
    | none =>
        cases huser.1
        rfl
    | some u => cases huser.1
  · by_cases hempty : resourceId = []
    · rw [if_pos hempty] at hask
      cases hask
      rfl
    · rw [if_neg hempty] at hask
      exact failClosed_eq_error hask

/-- What a guard asks of the server. -/
def AxiamUser.asks (u : AxiamUser) (action resourceId : Str) (scope actingTenant : Option Str) :
    Question := ⟨some u.userId, resourceId, action, scope, actingTenant⟩

end

/-! ### A client that is allowed -/

/-- A server that allows everything. -/
def exampleEnv : Env where
  baseUrl := "https://rs.example"
  tenantHeader := "acme"
  parse := tableParser [(str "A", .object [(str "allowed", .boolean true)])]
  dump := Json.dumpWith fun _ => []
  transport _ _ := .ok { status := 200, body := "A" }
  clock _ := 0
  opaqueStart _ _ := .ok []
  opaqueFinish _ _ _ _ := .ok []

/-- What the overload with a challenger makes of the plain guard, of a client in `c`. -/
inductive Escalates (env : Env) (challenger : UmaChallenger) (action resourceId : Str)
    (c : Uma.UmaClient) : Except Exc Unit × Impl → Except GuardExc Unit × Uma.UmaClient → Prop
  | passes (s : Impl) : Escalates env challenger action resourceId c (.ok (), s)
      (.ok (), { c with impl := s })
  /-- What is no denial is passed on, and nothing is minted. -/
  | other {e : Exc} (s : Impl) (h : denies e = none) :
      Escalates env challenger action resourceId c (.error e, s)
        (.error (.sdk e), { c with impl := s })
  /-- A denial with a ticket, minted for what was denied and nothing else. -/
  | challenged {e : Exc} {s : Impl} {c' : Uma.UmaClient} {a r : Option Str} {ticket : Str}
      (h : denies e = some (a, r))
      (hminted : Uma.Minted env challenger.pat [⟨resourceId, [action]⟩] { c with impl := s } c' ticket) :
      Escalates env challenger action resourceId c (.error e, s) (.error (.authzChallenge e.what
        (Oidc.umaChallengeHeader challenger.realm challenger.asUri ticket) a r), c')
  /-- No ticket could be had: the denial stands, or what is no `AxiamError` takes its place. -/
  | refused {e x : Exc} {s : Impl} {c' : Uma.UmaClient} {t : Except Exc Uma.Answered}
      (h : (denies e).isSome = true) (hx : x = e ∨ x.isAxiam = false)
      (hsent : Uma.Performs env (.requestTicket challenger.pat [⟨resourceId, [action]⟩])
        { c with impl := s } c' t) :
      Escalates env challenger action resourceId c (.error e, s) (.error (.sdk x), c')

section

variable {env : Env} {user : Option AxiamUser} {action resourceId : Str} {scope : Option Str}

theorem requireAccess_sent (env : Env) (user : Option AxiamUser) (action resourceId : Str)
    (scope : Option Str) (s : Impl) :
    s.sent <+: (requireAccess env user action resourceId scope s).2.sent := by
  have hclosed : ∀ u : AxiamUser, (failClosed env u action resourceId scope s).2 =
      (checkAccess env action resourceId scope (some u.userId) s).2 := by
    intro u
    unfold failClosed
    rw [tryCatch_run]
    rcases checkAccess env action resourceId scope (some u.userId) s with ⟨e | d, t⟩
    · simp only
      split_ifs <;> rfl
    · rfl
  have hask : s.sent <+: (ask env user action resourceId scope s).2.sent := by
    unfold ask
    rw [bind_run, lift_run]
    cases user with
    | none => exact List.prefix_rfl
    | some u =>
        show s.sent <+: ((if resourceId = [] then throw _ else failClosed env u action resourceId
          scope : Prog Impl Exc AccessDecision) s).2.sent
        split_ifs
        · exact List.prefix_rfl
        · rw [hclosed]
          exact checkAccess_sent env action resourceId scope (some u.userId) s
  unfold requireAccess
  rw [bind_run_state s fun d t => by split_ifs <;> rfl]
  exact hask

theorem outcome_run {σ ε ε' α : Type} (m : Prog σ ε α) (s : σ) :
    (outcome m : Prog σ ε' (Except ε α)) s = (.ok (m s).1, (m s).2) := rfl

variable (challenger : UmaChallenger)

theorem requireAccessUma_escalates {c : Uma.UmaClient} (hc : Uma.Kept env c) :
    Escalates env challenger action resourceId c
      (requireAccess env user action resourceId scope c.impl)
      (requireAccessUma env user action resourceId challenger scope c) := by
  have hplain : (outcome (Uma.onImpl (requireAccess env user action resourceId scope)) :
      Prog Uma.UmaClient GuardExc _) c =
      (.ok (requireAccess env user action resourceId scope c.impl).1,
        { c with impl := (requireAccess env user action resourceId scope c.impl).2 }) := rfl
  unfold requireAccessUma
  rw [bind_run_ok hplain]
  rcases hrun : requireAccess env user action resourceId scope c.impl with ⟨denial | _, s⟩
  swap
  · exact .passes s
  cases hdenies : denies denial with
  | none =>
      simp only [hdenies]
      exact .other s hdenies
  | some what =>
      simp only [hdenies]
      have hkept : Uma.Kept env { c with impl := s } := by
        have hsent := requireAccess_sent env user action resourceId scope c.impl
        rw [hrun] at hsent
        exact hc.grow hsent
      rw [bind_run_ok (outcome_run (mintHeader env challenger action resourceId) _)]
      have hstate : (mintHeader env challenger action resourceId { c with impl := s }).2 =
          (Uma.umaRequestTicket env challenger.pat [⟨resourceId, [action]⟩]
            { c with impl := s }).2 := bind_run_state _ fun _ _ => rfl
      rcases hmint : mintHeader env challenger action resourceId { c with impl := s } with
        ⟨x | header, c'⟩
      · rw [hmint] at hstate
        let call := Uma.Call.requestTicket challenger.pat [⟨resourceId, [action]⟩]
        have hcall : ∀ op, call ≠ .other op := nofun
        have hperforms := Uma.Call.perform_performs hcall hkept
        have hsame : (call.perform env { c with impl := s }).2 = c' :=
          (bind_run_state _ fun _ _ => rfl).trans hstate.symm
        rw [hsame] at hperforms
        refine .refused (Option.isSome_iff_exists.mpr ⟨what, hdenies⟩) ?_ hperforms
        by_cases haxiam : x.isAxiam = true
        · exact .inl (if_pos haxiam)
        · rw [if_neg haxiam]
          exact .inr (Bool.eq_false_iff.mpr haxiam)
      · obtain ⟨ticket, d, hticket, hheader⟩ := bind_eq_ok.mp hmint
        cases hheader
        exact .challenged hdenies (Uma.umaRequestTicket_minted hkept hticket)

end

/-- The ticket of a challenge was minted. -/
theorem Escalates.minted {env : Env} {challenger : UmaChallenger} {action resourceId : Str}
    {c c' : Uma.UmaClient} {e : Exc} {s : Impl} {what header : Str} {a r : Option Str}
    (h : Escalates env challenger action resourceId c (.error e, s)
      (.error (.authzChallenge what header a r), c')) :
    ∃ ticket, header = Oidc.umaChallengeHeader challenger.realm challenger.asUri ticket ∧
      Uma.Minted env challenger.pat [⟨resourceId, [action]⟩] { c with impl := s } c' ticket := by
  cases h with
  | challenged _ hminted => exact ⟨_, rfl, hminted⟩

section

variable (env : Env) (user : Option AxiamUser) (action resourceId : Str)
  (challenges : Option Mcp.McpChallenges) (scope : Option Str)

/-- A decision was had, it denies, and the reason the server gives is that there is no grant; and
there is a scope to name and a configuration to name it by. -/
def LacksGrant (s : Impl) (named : Mcp.McpChallenges) (missing : Str) : Prop :=
  challenges = some named ∧ scope = some missing ∧ ∃ u d t, user = some u ∧ resourceId ≠ [] ∧
    checkAccess env action resourceId scope (some u.userId) s = (.ok d, t) ∧ d.allowed = false ∧
    d.reasonCode = some (str "no_grant")

/-- The challenge that names a scope. -/
def naming (named : Mcp.McpChallenges) (missing : Str) : Mcp.BearerChallengeOptions where
  resourceMetadataUrl := named.resourceMetadataUrl
  error := some .insufficientScope
  scope := some missing

end

section

variable {env : Env} {user : Option AxiamUser} {action resourceId : Str} {scope : Option Str}
  {challenges : Option Mcp.McpChallenges}

theorem failClosed_of_ok {u : AxiamUser} {s t : Impl} {d : AccessDecision}
    (h : checkAccess env action resourceId scope (some u.userId) s = (.ok d, t)) :
    failClosed env u action resourceId scope s = (.ok d, t) := by
  unfold failClosed
  rw [tryCatch_run, h]

theorem ask_of_ok {u : AxiamUser} {s t : Impl} {d : AccessDecision} (huser : user = some u)
    (hresource : resourceId ≠ [])
    (h : checkAccess env action resourceId scope (some u.userId) s = (.ok d, t)) :
    ask env user action resourceId scope s = (.ok d, t) := by
  subst huser
  have hauth : (Prog.lift (requireAuth (some u)) : Prog Impl Exc AxiamUser) s = (.ok u, s) := rfl
  unfold ask
  rw [bind_run_ok hauth, if_neg hresource]
  exact failClosed_of_ok h

section

variable {s t : Impl} {d : AccessDecision}

theorem requireAccess_of_error {e : Exc}
    (hask : ask env user action resourceId scope s = (.error e, t)) :
    requireAccess env user action resourceId scope s = (.error e, t) := bind_run_error hask _

theorem requireAccess_of_ok (hask : ask env user action resourceId scope s = (.ok d, t)) :
    requireAccess env user action resourceId scope s =
      (if d.allowed then .ok () else .error (denied "authorization_denied"), t) := by
  unfold requireAccess
  rw [bind_run_ok hask]
  split_ifs <;> rfl

theorem requireAccessMcp_of_error {e : Exc}
    (hask : ask env user action resourceId scope s = (.error e, t)) :
    requireAccessMcp env user action resourceId challenges scope s = (.error (.sdk e), t) := by
  unfold requireAccessMcp
  rw [bind_run, outcome_run, hask]
  rfl

theorem requireAccessMcp_of_ok (hask : ask env user action resourceId scope s = (.ok d, t)) :
    requireAccessMcp env user action resourceId challenges scope s =
      (judge action resourceId challenges scope d, t) := by
  unfold requireAccessMcp
  rw [bind_run, outcome_run, hask]
  rfl

end

/-- A decision that denies is judged to be a denial, and where a grant is lacking one with a name. -/
theorem judge_of_denied (action resourceId : Str) (challenges : Option Mcp.McpChallenges)
    (scope : Option Str) {d : AccessDecision} (hdenied : d.allowed = false) :
    judge action resourceId challenges scope d ≠ .ok () ∧
      ((∀ named missing, challenges = some named → scope = some missing →
          d.reasonCode ≠ some (str "no_grant")) →
        judge action resourceId challenges scope d =
          .error (.sdk (denied "authorization_denied"))) ∧
      ∀ named missing, challenges = some named → scope = some missing →
        d.reasonCode = some (str "no_grant") →
          judge action resourceId challenges scope d =
            match Mcp.bearerChallenge (naming named missing) with
            | .ok header => .error
                (.authzChallenge "authorization_denied" header (some action) (some resourceId))
            | .error what => .error (.sdk (.invalidArgument what)) := by
  have hallowed : ¬d.allowed = true := Bool.eq_false_iff.mp hdenied
  unfold judge
  rw [if_neg hallowed]
  refine ⟨fun hok => ?_, fun hnone => ?_, ?_⟩
  · split at hok
    · split_ifs at hok
      · split at hok <;> cases hok
    · cases hok
  · split
    · next named missing => rw [if_neg (hnone named missing rfl rfl)]
    · rfl
  · rintro named missing rfl rfl hreason
    simp only [hreason]
    rfl

/-- The overload ends in the state of the plain guard and lets pass what it lets pass.  It throws
what the plain guard throws, but where a grant is lacking: there it names the scope as it was given,
in a challenge, and where no challenge can name that scope it throws that instead. -/
theorem requireAccessMcp_refines (s : Impl) :
    (requireAccessMcp env user action resourceId challenges scope s).2 =
        (requireAccess env user action resourceId scope s).2 ∧
      ((requireAccessMcp env user action resourceId challenges scope s).1 = .ok () ↔
        (requireAccess env user action resourceId scope s).1 = .ok ()) ∧
      (∀ e, (requireAccess env user action resourceId scope s).1 = .error e →
        (∀ named missing,
          ¬LacksGrant env user action resourceId challenges scope s named missing) →
        (requireAccessMcp env user action resourceId challenges scope s).1 = .error (.sdk e)) ∧
      ∀ named missing, LacksGrant env user action resourceId challenges scope s named missing →
        ((naming named missing).Representable ∧
          (requireAccessMcp env user action resourceId challenges scope s).1 = .error
            (.authzChallenge "authorization_denied"
              (str "Bearer " ++ AuthParam.writeParams [(str "error", str "insufficient_scope"),
                (str "scope", missing), (str "resource_metadata", named.resourceMetadataUrl)])
              (some action) (some resourceId))) ∨
        (¬(naming named missing).Representable ∧ ∃ what,
          (requireAccessMcp env user action resourceId challenges scope s).1 =
            .error (.sdk (.invalidArgument what))) := by
  rcases hask : ask env user action resourceId scope s with ⟨e | d, t⟩
  · rw [requireAccessMcp_of_error hask, requireAccess_of_error hask]
    refine ⟨rfl, ⟨nofun, nofun⟩, fun e' he' _ => by cases he'; rfl, ?_⟩
    rintro named missing ⟨-, -, u, d, t', huser, hresource, hcheck, -⟩
    rw [ask_of_ok huser hresource hcheck] at hask
    cases hask
  obtain ⟨u, huser, hresource, hcheck⟩ := ask_eq_ok hask
  -- the decision of the check is the one that was had
  have hsame : ∀ u' d' t', user = some u' →
      checkAccess env action resourceId scope (some u'.userId) s = (.ok d', t') → d' = d := by
    intro u' d' t' huser' hcheck'
    cases huser.symm.trans huser'
    rw [hcheck] at hcheck'
    cases hcheck'
    rfl
  rw [requireAccessMcp_of_ok hask, requireAccess_of_ok hask]
  cases hallowed : d.allowed with
  | true =>
      have hjudge : judge action resourceId challenges scope d = .ok () := if_pos hallowed
      rw [hjudge, if_pos rfl]
      refine ⟨rfl, ⟨fun _ => rfl, fun _ => rfl⟩, nofun, ?_⟩
      rintro named missing ⟨-, -, u', d', t', huser', -, hcheck', hdenied, -⟩
      rw [hsame u' d' t' huser' hcheck', hallowed] at hdenied
      cases hdenied
  | false =>
      obtain ⟨hrefuses, hplain, hnamed⟩ :=
        judge_of_denied action resourceId challenges scope hallowed
      rw [if_neg Bool.false_ne_true]
      refine ⟨rfl, ⟨fun hok => absurd hok hrefuses, nofun⟩, ?_, ?_⟩
      · intro e he hnone
        cases he
        refine hplain fun named missing hchallenges hscope hreason => ?_
        exact hnone named missing
          ⟨hchallenges, hscope, u, d, t, huser, hresource, hcheck, hallowed, hreason⟩
      · rintro named missing ⟨hchallenges, hscope, u', d', t', huser', -, hcheck', -, hreason⟩
        rw [hsame u' d' t' huser' hcheck'] at hreason
        have hchallenge : ∀ out, Mcp.bearerChallenge (naming named missing) = .ok out ↔
            (naming named missing).Representable ∧
              out = str "Bearer " ++ AuthParam.writeParams (naming named missing).params :=
          fun _ => Mcp.bearerChallenge_eq_ok
        show (_ ∧ judge action resourceId challenges scope d = _) ∨
          (_ ∧ ∃ what, judge action resourceId challenges scope d = _)
        rw [hnamed named missing hchallenges hscope hreason]
        cases hbearer : Mcp.bearerChallenge (naming named missing) with
        | ok header =>
            obtain ⟨hrepresentable, rfl⟩ := (hchallenge header).mp hbearer
            exact .inl ⟨hrepresentable, rfl⟩
        | error what =>
            refine .inr ⟨fun hrepresentable => ?_, what, rfl⟩
            rw [(hchallenge _).mpr ⟨hrepresentable, rfl⟩] at hbearer
            cases hbearer

end

end Axiam.Guard
