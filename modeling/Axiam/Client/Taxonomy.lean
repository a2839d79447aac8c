import Axiam.Client.Exclusivity
import Axiam.Oidc.Discovery

/-!
# What leaves a call

Eight entry points, and every response a server may give them.  Each response is read with
guarded tests in some places and with `value(key, fallback)` in others, so what leaves the call
is an `AxiamError` exactly when the members of the second kind have the types they are read as.
-/

namespace Axiam.Client

open Axiam.Lib Axiam.Lib.Prog Axiam.Memo Axiam.Oidc

/-- A value, or an `AxiamError`. -/
def Mapped {α : Type} : Except Exc α → Prop
  | .ok _ => True
  | .error e => e.isAxiam = true

instance {α : Type} : (x : Except Exc α) → Decidable (Mapped x)
  | .ok _ => isTrue trivial
  | .error e => inferInstanceAs (Decidable (e.isAxiam = true))

/-! ## The shapes that are read -/

/-- The `user` of a session, when it is an object. -/
def UserShaped (j : Json) : Prop :=
  j.StringOrAbsent "id" ∧ j.StringOrAbsent "username" ∧ j.StringOrAbsent "email" ∧
    j.StringOrAbsent "tenant_id"

/-- A session, as far as it is read by type. -/
def SessionShaped (j : Json) : Prop :=
  j.isObject = true ∧ j.StringOrAbsent "session_id" ∧ j.NumberOrAbsent "expires_in" ∧
    ∀ members, j.find? "user" = some (.object members) → UserShaped (.object members)

/-- A member that is `true`. -/
def flagged (j : Json) (key : Str) : Bool :=
  match j.find? key with
  | some (.boolean b) => b
  | _ => false

/-- A login: a session, or under `202` or with `mfa_required` a challenge. -/
def LoginShaped (status : Int) (j : Json) : Prop :=
  j.isObject = true ∧
    if status = 202 ∨ flagged j "mfa_required" = true then j.StringOrAbsent "challenge_token"
    else j.BoolOrAbsent "mfa_required" ∧ SessionShaped j

def DecisionShaped (j : Json) : Prop := j.isObject = true ∧ j.BoolOrAbsent "allowed"

/-- Only the rows of an array `results` are read. -/
def BatchShaped (j : Json) : Prop :=
  ∀ rows, j.find? "results" = some (.array rows) → ∀ row ∈ rows, DecisionShaped row

def ConfirmationShaped (j : Json) : Prop := j.isObject = true ∧ j.BoolOrAbsent "mfa_enabled"

def DiscoveryShaped (j : Json) : Prop :=
  j.isObject = true ∧ j.StringOrAbsent "issuer" ∧ j.StringOrAbsent "authorization_endpoint" ∧
    j.StringOrAbsent "token_endpoint" ∧ j.StringOrAbsent "jwks_uri"

section Reading

/-- A read whose success does not depend on what was read before it. -/
theorem bind_ok_iff {ε α β : Type} {x : Except ε α} {f : α → Except ε β} {P : Prop}
    (hf : ∀ a, x = .ok a → ((∃ b, f a = .ok b) ↔ P)) :
    (∃ b, (x >>= f) = .ok b) ↔ (∃ a, x = .ok a) ∧ P := by
  cases x with
  | error e =>
      constructor
      · rintro ⟨b, h⟩
        cases h
      · rintro ⟨⟨a, h⟩, -⟩
        cases h
  | ok a =>
      show (∃ b, f a = .ok b) ↔ _
      rw [hf a rfl, and_iff_right ⟨a, rfl⟩]

theorem pure_ok_iff {ε α : Type} (a : α) : (∃ b, (pure a : Except ε α) = .ok b) ↔ True :=
  iff_of_true ⟨a, rfl⟩ trivial

theorem parseUser_ok_iff (members : List (Str × Json)) :
    (∃ u, parseUser (.object members) = .ok u) ↔ UserShaped (.object members) := by
  have hread (key : Str) : (∃ v, (Json.object members).valueString key [] = .ok v) ↔
      (Json.object members).StringOrAbsent key := by
    rw [Json.valueString_ok_iff]
    exact and_iff_right rfl
  unfold parseUser UserShaped
  rw [bind_ok_iff fun _ _ => bind_ok_iff fun _ _ => bind_ok_iff fun _ _ => bind_ok_iff fun _ _ =>
    pure_ok_iff _, hread, hread, hread, hread, and_true]

theorem readSession_ok_iff (j : Json) : (∃ r, readSession j = .ok r) ↔ SessionShaped j := by
  unfold readSession SessionShaped
  cases huser : j.find? "user" with
  | none =>
      rw [bind_ok_iff fun _ _ => bind_ok_iff fun _ _ => pure_ok_iff _, Json.valueString_ok_iff,
        Json.valueInt_ok_iff]
      simp only [reduceCtorEq, false_implies, implies_true]
      tauto
  | some user =>
      cases user with
      | object members =>
          have hmap : (∃ u, (parseUser (.object members)).map some = .ok u) ↔
              UserShaped (.object members) := by
            rw [← parseUser_ok_iff]
            cases parseUser (.object members) <;> simp [Except.map]
          rw [bind_ok_iff fun _ _ => bind_ok_iff fun _ _ => bind_ok_iff fun _ _ => pure_ok_iff _,
            Json.valueString_ok_iff, Json.valueInt_ok_iff, hmap]
          simp only [Option.some.injEq, Json.object.injEq, forall_eq']
          tauto
      | _ =>
          rw [bind_ok_iff fun _ _ => bind_ok_iff fun _ _ => pure_ok_iff _, Json.valueString_ok_iff,
            Json.valueInt_ok_iff]
          simp only [Option.some.injEq, reduceCtorEq, false_implies, implies_true]
          tauto

/-- What `value(key, false)` reads is whether the member is set. -/
theorem valueBool_eq_flagged {j : Json} {key : Str} {b : Bool}
    (h : j.valueBool key false = .ok b) : flagged j key = b := by
  unfold flagged
  cases j with
  | object members =>
      unfold Json.valueBool Json.valueWith at h
      unfold Json.find?
      simp only at h ⊢
      cases hfound : members.lookup key with
      | none =>
          rw [hfound] at h
          exact Except.ok.inj h
      | some member =>
          rw [hfound] at h
          cases member <;> first | exact Except.ok.inj h | cases h
  | _ => cases h

theorem boolOrAbsent_of_flagged {j : Json} {key : Str} (h : flagged j key = true) :
    j.BoolOrAbsent key := by
  intro member hmember
  unfold flagged at h
  rw [hmember] at h
  cases member with
  | boolean b => exact ⟨b, rfl⟩
  | _ => cases h

theorem readLogin_ok_iff (status : Int) (j : Json) :
    (∃ r, readLogin status (some j) = .ok r) ↔ LoginShaped status j := by
  have hchallenge : (∃ r, readChallenge (some j) = .ok r) ↔
      j.isObject = true ∧ j.StringOrAbsent "challenge_token" := by
    unfold readChallenge
    rw [bind_ok_iff fun _ _ => pure_ok_iff _, Json.valueString_ok_iff, and_true]
  unfold readLogin mfaRequired LoginShaped
  by_cases hstatus : status = 202
  · rw [if_pos hstatus, if_pos (.inl hstatus), ← hchallenge]
    rfl
  rw [if_neg hstatus]
  have hread := j.valueBool_ok_iff "mfa_required" false
  cases hvalue : j.valueBool "mfa_required" false with
  | error e =>
      rw [hvalue] at hread
      have hno : ¬(j.isObject = true ∧ j.BoolOrAbsent "mfa_required") := by
        rw [← hread]
        nofun
      refine iff_of_false ?_ ?_
      · rintro ⟨r, hr⟩
        simp only [hvalue] at hr
        cases hr
      · rintro ⟨hobject, hshape⟩
        split at hshape
        · rename_i hor
          exact hno ⟨hobject, boolOrAbsent_of_flagged (hor.resolve_left hstatus)⟩
        · exact hno ⟨hobject, hshape.1⟩
  | ok required =>
      have hflagged := valueBool_eq_flagged hvalue
      rw [hvalue] at hread
      obtain ⟨hobject, hbool⟩ := hread.mp ⟨required, rfl⟩
      rw [hflagged]
      simp only [hvalue]
      show (∃ r, (if required = true then readChallenge (some j) else readSession j) = .ok r) ↔ _
      by_cases htrue : required = true
      · rw [if_pos htrue, if_pos (.inr htrue), hchallenge]
      · rw [if_neg htrue, if_neg (not_or.mpr ⟨hstatus, htrue⟩), readSession_ok_iff,
          and_iff_right hobject, and_iff_right hbool]

theorem parseDecision_ok_iff (j : Json) : (∃ d, parseDecision j = .ok d) ↔ DecisionShaped j := by
  unfold parseDecision DecisionShaped
  rw [bind_ok_iff fun _ _ => pure_ok_iff _, Json.valueBool_ok_iff, and_true]

theorem mapM_ok_iff (rows : List Json) :
    (∃ ds, rows.mapM parseDecision = .ok ds) ↔ ∀ row ∈ rows, DecisionShaped row := by
  induction rows with
  | nil => exact iff_of_true ⟨[], rfl⟩ fun _ h => (List.not_mem_nil h).elim
  | cons row rest ih =>
      rw [List.mapM_cons, bind_ok_iff fun _ _ => bind_ok_iff fun _ _ => pure_ok_iff _,
        parseDecision_ok_iff, ih, and_true, List.forall_mem_cons]

theorem readResults_ok_iff (j : Json) : (∃ ds, readResults (some j) = .ok ds) ↔ BatchShaped j := by
  unfold readResults BatchShaped
  rw [Option.bind_some]
  split
  · rename_i rows hfound
    rw [mapM_ok_iff]
    constructor
    · intro h rows' hfound'
      cases hfound.symm.trans hfound'
      exact h
    · intro h
      exact h rows hfound
  · rename_i hnone
    exact iff_of_true ⟨[], rfl⟩ fun rows hfound => absurd hfound (hnone rows)

end Reading

theorem mapped_liftJson_iff {α : Type} (x : Except JsonError α) :
    Mapped (liftJson x) ↔ ∃ a, x = .ok a := by
  cases x <;> simp [Mapped, liftJson, Exc.isAxiam]

/-! ## The calls, and what fits them -/

/-- The entry points. -/
inductive Call where
  | login (usernameOrEmail password : Str)
  | loginOpaque (usernameOrEmail password : Str)
  | verifyMfa (challengeToken totpCode : Str)
  | checkAccess (action resourceId : Str) (scope subjectId : Option Str)
  | batchCheck (checks : List AccessCheck)
  | mfaConfirm (totpCode : Str)
  | oidcDiscover (ttl : Int)
  | raiseForStatus (resp : HttpResponse)

/-- A program of which only the way it ends is looked at. -/
def ending {α : Type} (m : Prog Impl Exc α) : Prog Discovering Exc Unit :=
  onImpl (silently m)

def Call.perform (env : Env) : Call → Prog Discovering Exc Unit
  | .login u p => ending (Client.login env u p)
  | .loginOpaque u p => ending (Client.loginOpaque env u p)
  | .verifyMfa c t => ending (Client.verifyMfa env c t)
  | .checkAccess a r s u => ending (Client.checkAccess env a r s u)
  | .batchCheck cs => ending (Client.batchCheck env cs)
  | .mfaConfirm t => ending (Client.mfaConfirm env t)
  | .oidcDiscover ttl => do
      let _ ← Oidc.oidcDiscover env ttl
      pure ()
  | .raiseForStatus resp => throw (Axiam.raiseForStatus env.parse resp)

/-- Where the calls send their requests. -/
inductive Endpoint where
  | login | opaqueStart | opaqueFinish | mfaVerify | check | batch | refresh | mfaConfirm
  | discovery
  deriving DecidableEq

def Endpoint.path : Endpoint → Str
  | .login => "/api/v1/auth/login"
  | .opaqueStart => "/api/v1/auth/opaque/login/start"
  | .opaqueFinish => "/api/v1/auth/opaque/login/finish"
  | .mfaVerify => "/api/v1/auth/mfa/verify"
  | .check => "/api/v1/authz/check"
  | .batch => "/api/v1/authz/check/batch"
  | .refresh => "/api/v1/auth/refresh"
  | .mfaConfirm => "/api/v1/auth/mfa/confirm"
  | .discovery => "/.well-known/openid-configuration"

theorem Endpoint.path_injective {e e' : Endpoint} (h : e.path = e'.path) : e = e' := by
  cases e <;> cases e' <;> first | rfl | (exfalso; revert h; decide)

section

variable (env : Env)

/-- A status that can be raised, and a `2xx` whose JSON, if it is any, has the shape. -/
def Answers (shape : Json → Prop) (resp : HttpResponse) : Prop :=
  ¬unreadableDenial env.parse resp ∧
    (resp.isSuccess = true → ∀ j, env.parse resp.body = some j → shape j)

/-- A `403` of the login endpoint may be the demand to set a factor up. -/
def DemandReadable (resp : HttpResponse) : Prop :=
  let j := objectOf env.parse resp.body
  j.BoolOrAbsent "mfa_setup_required" ∧
    if flagged j "mfa_setup_required" = true then j.StringOrAbsent "setup_token"
    else ¬unreadableDenial env.parse resp

/-- The native library refuses the `KE2` of a tenant that still takes passwords. -/
def FallsBack (password : Str) (history : List HttpRequest) (resp : HttpResponse) : Prop :=
  ∃ j e, env.parse resp.body = some j ∧ (readLoginStart j).ke2 ≠ [] ∧
    env.opaqueFinish history password (readLoginStart j).ke2 (readLoginStart j).ksf = .error e ∧
    e.isAuth = true ∧ (readLoginStart j).mode = some (str "optional")

/-- A `401` that is refreshed on needs a refresh the client can write. -/
def RefreshWritable (s : Impl) (resp : HttpResponse) : Prop :=
  resp.status = 401 → s.refreshable = true → (refreshBody env s).dumpable = true

/-- What the answers of an endpoint have to be like, for a call from `s`. -/
def Endpoint.Accepts (s : Impl) (call : Call) (history : List HttpRequest) (resp : HttpResponse) :
    Endpoint → Prop
  | .login =>
      if resp.status = 403 then DemandReadable env resp else Answers env (LoginShaped resp.status) resp
  | .opaqueStart =>
      ¬unreadableDenial env.parse resp ∧ ∀ u p, call = .loginOpaque u p → resp.isSuccess = true →
        FallsBack env p history resp → (loginBody env u p).dumpable = true
  | .opaqueFinish => Answers env (LoginShaped resp.status) resp
  | .mfaVerify => Answers env SessionShaped resp
  | .check => Answers env DecisionShaped resp ∧ RefreshWritable env s resp
  | .batch => Answers env BatchShaped resp ∧ RefreshWritable env s resp
  | .refresh => True
  | .mfaConfirm => Answers env ConfirmationShaped resp
  | .discovery => resp.isSuccess = true → DiscoveryShaped (parseOrObject env resp.body)

/-- An exchange of a call: it did not complete, or its answer is one the endpoint's reader
takes. -/
def Fits (s : Impl) (call : Call) (before : List HttpRequest) (req : HttpRequest)
    (resp : HttpResponse) : Prop :=
  resp.transportError = [] → ∀ e : Endpoint, req.url = env.baseUrl ++ e.path →
    e.Accepts env s call (before ++ [req]) resp

/-- The client can write the request the call starts with. -/
def Call.Writable (s : Impl) : Call → Prop
  | .login u p => (loginBody env u p).dumpable = true
  | .loginOpaque u p => ∀ ke1, env.opaqueStart s.sent p = .ok ke1 →
      (opaqueBody env u ke1).dumpable = true
  | .verifyMfa c t => validUtf8 c = true ∧ validUtf8 t = true
  | .checkAccess a r sc u =>
      (s.memo.enabled = true ∧ (s.memo.get (DecisionMemo.key u r a sc s.actingTenantId)
        (env.clock s.ticks)).1.isSome = true) ∨ (checkBody a r sc u).dumpable = true
  | .batchCheck cs => (Json.object [(str "checks", .array (cs.map fun c =>
      checkBody c.action c.resourceId c.scope c.subjectId))]).dumpable = true
  | .mfaConfirm t => validUtf8 t = true
  | .oidcDiscover _ => True
  | .raiseForStatus resp => ¬unreadableDenial env.parse resp

/-- What the development relies on of the JSON parser and of the native OPAQUE library. -/
structure Sound : Prop where
  /-- A parsed document is UTF-8 throughout. -/
  parsed : ∀ text j, env.parse text = some j → j.dumpable = true
  opaqueStart : ∀ sent password e, env.opaqueStart sent password = .error e → e.isAxiam = true
  opaqueFinish : ∀ sent password ke2 ksf e,
    env.opaqueFinish sent password ke2 ksf = .error e → e.isAxiam = true
  ke3 : ∀ sent password ke2 ksf text,
    env.opaqueFinish sent password ke2 ksf = .ok text → validUtf8 text = true

end

/-! ## Programs judged by their exchanges -/

/-- The environment with a transport that always answers. -/
def Env.answering (env : Env) (web : List HttpRequest → HttpRequest → HttpResponse) : Env :=
  { env with transport := fun sent req => .ok (web sent req) }

/-- The part of the state that decides whether a refresh can be written, or anything sent. -/
def Impl.core (s : Impl) : (Bool × Bool) × Option Str × Option Str × Bool :=
  (s.flags, s.resolvedTenantId, s.resolvedOrgId, s.closed)

theorem core_untouched : Untouched Impl.core :=
  ⟨fun _ _ => rfl, fun _ _ => rfl, fun _ _ => rfl, fun _ _ => rfl, fun _ _ => rfl⟩

section Judging

variable (web : List HttpRequest → HttpRequest → HttpResponse)
  (F : List HttpRequest → HttpRequest → HttpResponse → Prop)

/-- Every request of `new`, sent after `before`, was answered as `F` wants. -/
def Throughout (before new : List HttpRequest) : Prop :=
  ∀ past req rest, new = past ++ req :: rest →
    F (before ++ past) req (web (before ++ past) req)

theorem throughout_nil (before : List HttpRequest) : Throughout web F before [] := by
  intro past req rest h
  cases List.append_ne_nil_of_right_ne_nil past (List.cons_ne_nil req rest) h.symm

theorem throughout_cons (before : List HttpRequest) (req : HttpRequest) (new : List HttpRequest) :
    Throughout web F before (req :: new) ↔
      F before req (web before req) ∧ Throughout web F (before ++ [req]) new := by
  constructor
  · intro h
    constructor
    · have hfirst := h [] req new rfl
      rwa [List.append_nil] at hfirst
    · intro past r rest hsplit
      have hlater := h (req :: past) r rest (congrArg (req :: ·) hsplit)
      rwa [List.append_cons] at hlater
  · rintro ⟨hfirst, hlater⟩ past r rest hsplit
    cases past with
    | nil =>
        cases hsplit
        rwa [List.append_nil]
    | cons x past =>
        cases hsplit
        rw [List.append_cons]
        exact hlater past r rest rfl

/-- From `s`, `p` ends with a value or an `AxiamError` exactly when `c` holds and each of its
exchanges is as `F` wants. -/
def Judged {α : Type} (c : Prop) (p : Prog Impl Exc α) (s : Impl) : Prop :=
  ∃ new, (p s).2.sent = s.sent ++ new ∧ (Mapped (p s).1 ↔ c ∧ Throughout web F s.sent new)

variable {web F} {α β : Type} {c c' : Prop} {s t : Impl}

namespace Judged

theorem of_run {p q : Prog Impl Exc α} (hrun : p s = q s) (h : Judged web F c q s) :
    Judged web F c p s := by
  unfold Judged
  rw [hrun]
  exact h

theorem congr {p : Prog Impl Exc α} (hc : c ↔ c') (h : Judged web F c' p s) : Judged web F c p s := by
  obtain ⟨new, hsent, hiff⟩ := h
  exact ⟨new, hsent, by rw [hc]; exact hiff⟩

/-- Nothing is sent. -/
theorem silent {p : Prog Impl Exc α} (hsent : (p s).2.sent = s.sent) (h : Mapped (p s).1 ↔ c) :
    Judged web F c p s :=
  ⟨[], by rw [hsent, List.append_nil], h.trans (and_iff_left (throughout_nil web F _)).symm⟩

theorem ret (a : α) (hc : c) : Judged web F c (pure a) s := silent rfl (iff_of_true trivial hc)

theorem raise {e : Exc} (h : e.isAxiam = true ↔ c) : Judged web F c (throw e : Prog Impl Exc α) s :=
  silent rfl h

theorem lift {x : Except Exc α} (h : Mapped x ↔ c) : Judged web F c (Prog.lift x) s := silent rfl h

/-- After a step that sent nothing. -/
theorem after {p : Prog Impl Exc α} {k : α → Prog Impl Exc β} {a : α} (hrun : p s = (.ok a, t))
    (hsent : t.sent = s.sent) (h : Judged web F c (k a) t) : Judged web F c (p >>= k) s := by
  obtain ⟨new, hnew, hiff⟩ := h
  refine ⟨new, ?_, ?_⟩
  · rw [bind_run_ok hrun, hnew, hsent]
  · rw [bind_run_ok hrun, hiff, hsent]

/-- After something looked at that may throw. -/
theorem lift_bind {x : Except Exc α} {k : α → Prog Impl Exc β}
    (herror : ∀ e, x = .error e → (e.isAxiam = true ↔ c))
    (hok : ∀ a, x = .ok a → Judged web F c (k a) s) : Judged web F c (Prog.lift x >>= k) s := by
  cases x with
  | error e => exact silent rfl (herror e rfl)
  | ok a => exact after rfl rfl (hok a rfl)

theorem ite {g : Prop} [Decidable g] {p q : Prog Impl Exc α} (hp : g → Judged web F c p s)
    (hq : ¬g → Judged web F c q s) : Judged web F c (if g then p else q) s := by
  by_cases hg : g
  · rw [if_pos hg]
    exact hp hg
  · rw [if_neg hg]
    exact hq hg

/-- What follows changes neither the outcome's kind nor what was sent. -/
theorem last {p : Prog Impl Exc α} {k : α → Prog Impl Exc β} (h : Judged web F c p s)
    (hk : ∀ a t, Mapped (k a t).1 ∧ (k a t).2.sent = t.sent) : Judged web F c (p >>= k) s := by
  obtain ⟨new, hnew, hiff⟩ := h
  refine ⟨new, ?_, ?_⟩
  all_goals rw [bind_run]; rcases hrun : p s with ⟨e | a, t⟩ <;> rw [hrun] at hnew hiff
  · exact hnew
  · exact (hk a t).2.trans hnew
  · exact hiff
  · exact (iff_of_true (hk a t).1 trivial).trans hiff

/-- A step that was one exchange: its answer is judged together with what follows. -/
theorem exchange {p : Prog Impl Exc α} {k : α → Prog Impl Exc β} {req : HttpRequest} {a : α}
    (hrun : p s = (.ok a, t)) (hsent : t.sent = s.sent ++ [req]) (hc : c)
    (h : Judged web F (F s.sent req (web s.sent req)) (k a) t) : Judged web F c (p >>= k) s := by
  obtain ⟨new, hnew, hiff⟩ := h
  refine ⟨req :: new, ?_, ?_⟩
  · rw [bind_run_ok hrun, hnew, hsent, List.append_assoc, List.singleton_append]
  · rw [bind_run_ok hrun, hiff, throughout_cons, hsent]
    exact (and_iff_right hc).symm

/-- An exchange that ended the program. -/
theorem failed {p : Prog Impl Exc α} {k : α → Prog Impl Exc β} {req : HttpRequest} {e : Exc}
    (hrun : p s = (.error e, t)) (hsent : t.sent = s.sent ++ [req]) (hc : c)
    (he : e.isAxiam = true) (hF : F s.sent req (web s.sent req)) :
    Judged web F c (p >>= k) s := by
  refine ⟨[req], ?_, ?_⟩
  · rw [bind_run_error hrun, hsent]
  · rw [bind_run_error hrun, throughout_cons]
    exact iff_of_true he ⟨hc, hF, throughout_nil web F _⟩

end Judged

variable (env : Env)

variable (web) in
/-- One request under a transport that answers. -/
theorem sendRaw_answering (req : HttpRequest) (s : Impl) : ∃ t,
    sendRaw (env.answering web) req s = (delivered (web s.sent req), t) ∧
      t.sent = s.sent ++ [req] ∧ t.core = s.core := by
  have hanswer : (env.answering web).transport s.sent req = .ok (web s.sent req) := rfl
  have hsent := sendRaw_sent (env.answering web) req s
  have hcore := sendRaw_keeps (env.answering web) core_untouched req s
  refine ⟨(sendRaw (env.answering web) req s).2, Prod.ext ?_ rfl, hsent, hcore⟩
  unfold sendRaw delivered
  rw [bind_run_ok (transport_run hanswer)]
  split <;> rfl

/-- A request and what is made of its answer. -/
theorem judged_send {req : HttpRequest} {k : HttpResponse → Prog Impl Exc α} {s : Impl} (hc : c)
    (hfailed : (web s.sent req).transportError ≠ [] → F s.sent req (web s.sent req))
    (hk : ∀ t, (web s.sent req).transportError = [] → t.sent = s.sent ++ [req] → t.core = s.core →
      Judged web F (F s.sent req (web s.sent req)) (k (web s.sent req)) t) :
    Judged web F c (sendRaw (env.answering web) req >>= k) s := by
  obtain ⟨t, hrun, hsent, hcore⟩ := sendRaw_answering web env req s
  unfold delivered at hrun
  by_cases hdone : (web s.sent req).transportError = []
  · rw [if_pos hdone] at hrun
    exact .exchange hrun hsent hc (hk t hdone hsent hcore)
  · rw [if_neg hdone] at hrun
    exact .failed hrun hsent hc rfl (hfailed hdone)

end Judging

/-! ## The answers, read -/

section

variable (env : Env)

theorem mapped_pure_bind {α β : Type} {x : Except Exc α} {f : α → β} :
    Mapped (x >>= fun a => pure (f a)) ↔ Mapped x := by
  cases x <;> exact Iff.rfl

/-- A `2xx` that is read, and any other status that is raised. -/
theorem mapped_answer_iff {α : Type} {shape : Json → Prop} {resp : HttpResponse}
    {read : Except Exc α} (hread : resp.isSuccess = true →
      (Mapped read ↔ ∀ j, env.parse resp.body = some j → shape j)) :
    Mapped (requireSuccess env resp >>= fun _ => read) ↔ Answers env shape resp := by
  unfold requireSuccess Answers
  cases hsuccess : resp.isSuccess with
  | true =>
      have hreadable : ¬unreadableDenial env.parse resp := fun h => by
        rw [isSuccess_of_unreadableDenial h] at hsuccess
        cases hsuccess
      rw [if_pos rfl, and_iff_right hreadable]
      exact (hread hsuccess).trans ⟨fun h _ => h, fun h => h rfl⟩
  | false =>
      rw [if_neg Bool.false_ne_true]
      refine (isAxiam_raiseForStatus_iff env.parse resp).trans ⟨fun h => ⟨h, nofun⟩, fun h => h.1⟩

theorem mapped_read_iff {α : Type} {shape : Json → Prop} {read : Option Json → Except JsonError α}
    (hnone : ∃ a, read none = .ok a) (hsome : ∀ j, (∃ a, read (some j) = .ok a) ↔ shape j)
    (parsed : Option Json) :
    Mapped (liftJson (read parsed)) ↔ ∀ j, parsed = some j → shape j := by
  rw [mapped_liftJson_iff]
  cases parsed with
  | none => exact iff_of_true hnone nofun
  | some j =>
      rw [hsome j]
      exact ⟨fun h k hk => by cases hk; exact h, fun h => h j rfl⟩

theorem readLogin_none (status : Int) : ∃ r, readLogin status none = .ok r := by
  unfold readLogin mfaRequired
  by_cases hstatus : status = 202
  · rw [if_pos hstatus]
    exact ⟨{ mfaRequired := true }, rfl⟩
  · rw [if_neg hstatus]
    exact ⟨{}, rfl⟩

theorem mapped_readLoginAnswer_iff (resp : HttpResponse) :
    Mapped (readLoginAnswer env resp) ↔
      if resp.status = 403 then DemandReadable env resp
      else Answers env (LoginShaped resp.status) resp := by
  have hordinary : Mapped (requireSuccess env resp >>= fun _ =>
      liftJson (readLogin resp.status (env.parse resp.body))) ↔
        Answers env (LoginShaped resp.status) resp :=
    mapped_answer_iff env fun _ => mapped_read_iff (readLogin_none _) (readLogin_ok_iff _) _
  unfold readLoginAnswer
  by_cases hstatus : resp.status = 403
  · rw [if_pos hstatus]
    -- a 403 that demands no MFA setup is raised as the denial it is
    have hdenied : ∀ x : Except Exc LoginResult,
        Mapped (requireSuccess env resp >>= fun _ => x) ↔ ¬unreadableDenial env.parse resp := by
      intro x
      have hsuccess : resp.isSuccess = false := by
        unfold HttpResponse.isSuccess
        rw [hstatus]
        rfl
      unfold requireSuccess
      rw [hsuccess, if_neg Bool.false_ne_true]
      exact isAxiam_raiseForStatus_iff env.parse resp
    unfold DemandReadable objectOf
    cases hparse : env.parse resp.body with
    | none =>
        refine (hdenied _).trans ⟨fun h => ⟨nofun, h⟩, fun h => h.2⟩
    | some j =>
        cases j with
        | object members =>
            simp only [hstatus, if_true]
            have hread := (Json.object members).valueBool_ok_iff "mfa_setup_required" false
            cases hvalue : (Json.object members).valueBool "mfa_setup_required" false with
            | error e =>
                rw [hvalue] at hread
                refine iff_of_false nofun fun h => ?_
                obtain ⟨b, hb⟩ := hread.mpr ⟨rfl, h.1⟩
                cases hb
            | ok b =>
                rw [hvalue] at hread
                rw [valueBool_eq_flagged hvalue, and_iff_right (hread.mp ⟨b, rfl⟩).2]
                cases b with
                | true =>
                    rw [if_pos rfl]
                    show Mapped ((liftJson ((Json.object members).valueString "setup_token" []))
                      >>= fun token => pure ({ mfaSetupRequired := true, setupToken := token } :
                        LoginResult)) ↔ _
                    rw [mapped_pure_bind, mapped_liftJson_iff, Json.valueString_ok_iff]
                    exact and_iff_right rfl
                | false =>
                    rw [if_neg Bool.false_ne_true]
                    exact hdenied _
        | _ => exact (hdenied _).trans ⟨fun h => ⟨nofun, h⟩, fun h => h.2⟩
  · rw [if_neg hstatus, ← hordinary]
    cases hparse : env.parse resp.body with
    | none => rfl
    | some j =>
        cases j with
        | object members =>
            simp only [hstatus, if_false]
            rfl
        | _ => rfl

/-- What the first round trip of an OPAQUE login reads: a document, or the status raised, or a
`NetworkError` of its own. -/
theorem readOpaqueStart_cases (resp : HttpResponse) :
    (∃ j, readOpaqueStart env "login/start" resp = .ok j ∧ resp.isSuccess = true ∧
      env.parse resp.body = some j ∧ ¬unreadableDenial env.parse resp) ∨
    ∃ e, readOpaqueStart env "login/start" resp = .error e ∧
      (e.isAxiam = true ↔ ¬unreadableDenial env.parse resp) ∧
        (resp.isSuccess = true → env.parse resp.body = none) := by
  unfold readOpaqueStart
  by_cases hmissing : resp.status = 404
  · rw [if_pos hmissing]
    refine .inr ⟨_, rfl, iff_of_true rfl fun h => ?_, fun hsuccess => ?_⟩
    · rcases h.1 with hstatus | hstatus <;> cases hmissing.symm.trans hstatus
    · unfold HttpResponse.isSuccess at hsuccess
      rw [hmissing] at hsuccess
      cases hsuccess
  · rw [if_neg hmissing]
    unfold requireSuccess
    cases hsuccess : resp.isSuccess with
    | true =>
        have hreadable : ¬unreadableDenial env.parse resp := fun h => by
          rw [isSuccess_of_unreadableDenial h] at hsuccess
          cases hsuccess
        rw [if_pos rfl]
        cases hparse : env.parse resp.body with
        | some j => exact .inl ⟨j, rfl, rfl, rfl, hreadable⟩
        | none => exact .inr ⟨_, rfl, iff_of_true rfl hreadable, fun _ => rfl⟩
    | false =>
        rw [if_neg Bool.false_ne_true]
        exact .inr ⟨_, rfl, isAxiam_raiseForStatus_iff env.parse resp, nofun⟩

theorem mapped_readConfirmed_iff (body : Str) : Mapped (liftJson (readConfirmed env body)) ↔
    ∀ j, env.parse body = some j → ConfirmationShaped j := by
  unfold readConfirmed
  rw [mapped_liftJson_iff]
  cases env.parse body with
  | none => exact iff_of_true ⟨false, rfl⟩ nofun
  | some j =>
      refine (j.valueBool_ok_iff "mfa_enabled" false).trans ?_
      exact ⟨fun h k hk => by cases hk; exact h, fun h => h j rfl⟩

theorem mapped_readDiscovery_iff (resp : HttpResponse) : Mapped (readDiscovery env resp) ↔
    (resp.isSuccess = true → DiscoveryShaped (parseOrObject env resp.body)) := by
  unfold readDiscovery
  cases hsuccess : resp.isSuccess with
  | false =>
      rw [if_neg Bool.false_ne_true]
      exact iff_of_true rfl nofun
  | true =>
      rw [if_pos rfl]
      refine Iff.trans ?_ ⟨fun h _ => h, fun h => h rfl⟩
      generalize parseOrObject env resp.body = j
      -- each member in turn, and after the last an `AxiamError` or the document
      have hread {key : Str} {f : Str → Except Exc OidcConfiguration} {P : Prop}
          (hf : ∀ v, Mapped (f v) ↔ P) : Mapped (liftJson (j.valueString key []) >>= f) ↔
            (j.isObject = true ∧ j.StringOrAbsent key) ∧ P := by
        rw [← Json.valueString_ok_iff j key []]
        cases j.valueString key [] with
        | error e => exact iff_of_false nofun fun h => by obtain ⟨⟨_, h⟩, -⟩ := h; cases h
        | ok v => exact (hf v).trans (and_iff_right ⟨v, rfl⟩).symm
      unfold readConfiguration
      have hend {g : Prop} [Decidable g] {what cause : Str} {cfg : OidcConfiguration} :
          Mapped (if g then .error (.network what cause) else pure cfg) ↔ True := by
        split
        · exact iff_of_true rfl trivial
        · exact iff_of_true trivial trivial
      refine (hread fun _ => hread fun _ => hread fun _ => hread fun _ => hend).trans ?_
      unfold DiscoveryShaped
      tauto

end

/-! ## The calls, exchange by exchange -/

section

variable {env : Env} {web : List HttpRequest → HttpRequest → HttpResponse} {s₀ : Impl} {call : Call}
  {α β : Type} {c : Prop}

theorem fits_iff {e : Endpoint} {before : List HttpRequest} {req : HttpRequest} {resp : HttpResponse}
    (hurl : req.url = env.baseUrl ++ e.path) (hdone : resp.transportError = []) :
    Fits env s₀ call before req resp ↔ e.Accepts env s₀ call (before ++ [req]) resp := by
  constructor
  · intro h
    exact h hdone e hurl
  · intro h _ e' hurl'
    have hpath := List.append_cancel_left (hurl.symm.trans hurl')
    rw [← Endpoint.path_injective hpath]
    exact h

theorem fits_of_failed {before : List HttpRequest} {req : HttpRequest} {resp : HttpResponse}
    (hfailed : resp.transportError ≠ []) : Fits env s₀ call before req resp :=
  fun hdone => absurd hdone hfailed

/-- A request built from the state and what is made of its answer. -/
theorem judged_built (e : Endpoint) {method path body : Str} {k : HttpResponse → Prog Impl Exc α}
    {s : Impl} (hpath : path = e.path) (hc : c)
    (hk : ∀ resp t, t.core = s.core →
      Judged web (Fits env s₀ call) (e.Accepts env s₀ call t.sent resp) (k resp) t) :
    Judged web (Fits env s₀ call) c (sendBuilt (env.answering web) method path body >>= k) s := by
  have hurl : (buildRequest (env.answering web) s method path body).url = env.baseUrl ++ e.path :=
    congrArg (env.baseUrl ++ ·) hpath
  refine .of_run (q := sendRaw (env.answering web)
    (buildRequest (env.answering web) s method path body) >>= k) rfl ?_
  refine judged_send env hc fits_of_failed fun t hdone hsent hcore => .congr ?_ (hk _ t hcore)
  rw [fits_iff hurl hdone, hsent]

/-- A body the client may fail to write. -/
theorem judged_dump {j : Json} {k : Str → Prog Impl Exc α} {s : Impl}
    {F : List HttpRequest → HttpRequest → HttpResponse → Prop}
    (hk : ∀ text, Judged web F True (k text) s) :
    Judged web F (j.dumpable = true) (Prog.lift (dumpText env j) >>= k) s := by
  unfold dumpText
  by_cases hdump : j.dumpable = true
  · rw [if_pos hdump]
    exact .after rfl rfl (.congr (iff_of_true hdump trivial) (hk _))
  · rw [if_neg hdump]
    exact .lift_bind (fun e he => by cases he; exact iff_of_false nofun hdump) nofun

theorem answers_of_success {shape : Json → Prop} {resp : HttpResponse}
    (hsuccess : resp.isSuccess = true) :
    Answers env shape resp ↔ ∀ j, env.parse resp.body = some j → shape j := by
  constructor
  · intro h
    exact h.2 hsuccess
  · intro h
    refine ⟨fun hdenied => ?_, fun _ => h⟩
    rw [isSuccess_of_unreadableDenial hdenied] at hsuccess
    cases hsuccess

theorem answers_of_refused {shape : Json → Prop} {resp : HttpResponse}
    (hrefused : ¬resp.isSuccess = true) :
    Answers env shape resp ↔ ¬unreadableDenial env.parse resp :=
  ⟨fun h => h.1, fun h => ⟨h, fun hsuccess => absurd hsuccess hrefused⟩⟩

/-- A `2xx` goes on, any other status is raised. -/
theorem judged_settled (settle : HttpResponse → Prog Impl Exc HttpResponse) {shape : Json → Prop}
    {k : HttpResponse → Prog Impl Exc α} {resp : HttpResponse} {t : Impl}
    (hsuccess : resp.isSuccess = true → settle resp t = (.ok resp, t))
    (hrefused : ¬resp.isSuccess = true →
      settle resp t = (.error (raiseForStatus env.parse resp), t))
    (hk : Judged web (Fits env s₀ call) (∀ j, env.parse resp.body = some j → shape j) (k resp) t) :
    Judged web (Fits env s₀ call) (Answers env shape resp) (settle resp >>= k) t := by
  by_cases hdone : resp.isSuccess = true
  · refine .after (hsuccess hdone) rfl ?_
    exact .congr (answers_of_success hdone) hk
  · refine .silent ?_ ?_
    · rw [bind_run_error (hrefused hdone)]
    · rw [bind_run_error (hrefused hdone), answers_of_refused hdone]
      exact isAxiam_raiseForStatus_iff env.parse resp

/-- `post`, and what is made of its `2xx`. -/
theorem judged_post (e : Endpoint) (shape : HttpResponse → Json → Prop) {path body : Str}
    {k : HttpResponse → Prog Impl Exc α} {s : Impl} (hpath : path = e.path) (hc : c)
    (haccepts : ∀ history resp, e.Accepts env s₀ call history resp ↔ Answers env (shape resp) resp)
    (hk : ∀ resp t, Judged web (Fits env s₀ call)
      (∀ j, env.parse resp.body = some j → shape resp j) (k resp) t) :
    Judged web (Fits env s₀ call) c (post (env.answering web) path body >>= k) s := by
  refine .of_run (bind_assoc_run _ _ _ _) (judged_built e hpath hc fun resp t _ => ?_)
  refine .congr (haccepts _ resp) (judged_settled _ (fun h => ?_) (fun h => ?_) (hk resp t))
  · unfold orRaise
    rw [if_pos h, pure_run]
  · unfold orRaise
    rw [if_neg h, throw_run]
    rfl

/-- `execute` without a refresh likewise. -/
theorem judged_execute (e : Endpoint) (shape : HttpResponse → Json → Prop) {path body : Str}
    {k : HttpResponse → Prog Impl Exc α} {s : Impl} (hpath : path = e.path) (hc : c)
    (haccepts : ∀ history resp, e.Accepts env s₀ call history resp ↔ Answers env (shape resp) resp)
    (hk : ∀ resp t, Judged web (Fits env s₀ call)
      (∀ j, env.parse resp.body = some j → shape resp j) (k resp) t) :
    Judged web (Fits env s₀ call) c (execute (env.answering web) "POST" path body false >>= k) s := by
  refine .of_run (bind_assoc_run _ _ _ _) (judged_built e hpath hc fun resp t _ => ?_)
  refine .congr (haccepts _ resp) (judged_settled (fun resp =>
    if resp.isSuccess then pure resp else do
      let s ← Prog.read
      if resp.status = 401 ∧ false = true ∧ s.refreshable = true then
        refreshAndRetry (env.answering web) "POST" path body
      else throw (raiseForStatus env.parse resp)) (fun h => ?_) (fun h => ?_) (hk resp t))
  · rw [if_pos h, pure_run]
  · rw [if_neg h, bind_run, read_run]
    simp only
    rw [if_neg (fun h => Bool.false_ne_true h.2.1), throw_run]

/-! ### Requests that are sent again -/

theorem refreshable_of_core {s t : Impl} (h : t.core = s.core) : t.refreshable = s.refreshable := by
  have hflags : t.flags = s.flags := congrArg Prod.fst h
  unfold Impl.refreshable
  rw [show t.session = s.session from congrArg Prod.fst hflags,
    show t.deviceSession = s.deviceSession from congrArg Prod.snd hflags]

theorem refreshBody_of_core {s t : Impl} (h : t.core = s.core) :
    refreshBody env t = refreshBody env s := by
  unfold refreshBody
  rw [show t.resolvedTenantId = s.resolvedTenantId from congrArg (·.2.1) h,
    show t.resolvedOrgId = s.resolvedOrgId from congrArg (·.2.2.1) h]

/-- A `NetworkError` of the exchange is kept. -/
theorem keepNetworkError_delivered {m : Prog Impl Exc HttpResponse} {resp : HttpResponse} {s t : Impl}
    (hrun : m s = (delivered resp, t)) : keepNetworkError m s = (.ok (delivered resp), t) := by
  unfold keepNetworkError
  rw [tryCatch_run]
  unfold delivered at hrun ⊢
  by_cases hdone : resp.transportError = []
  · rw [if_pos hdone] at hrun ⊢
    rw [bind_run_ok hrun, pure_run]
  · rw [if_neg hdone] at hrun ⊢
    rw [bind_run_error hrun]
    rfl

variable (env web) in
/-- One attempt: the exchange, kept. -/
theorem attempt_answering (path body : Str) (s : Impl) : ∃ req t,
    attempt (env.answering web) "POST" path body s = (.ok (delivered (web s.sent req)), t) ∧
      req.url = env.baseUrl ++ path ∧ t.sent = s.sent ++ [req] ∧ t.core = s.core := by
  obtain ⟨t, hrun, hsent, hcore⟩ := sendRaw_answering web env
    { buildRequest (env.answering web) s "POST" path body with replayable := true } s
  exact ⟨_, t, keepNetworkError_delivered hrun, rfl, hsent, hcore⟩

variable (env web) in
/-- The exchange of a refresh: the body cannot be written, or one request is sent, and what
comes of it is a pair or an `AuthError`. -/
theorem refresh_answering (s : Impl) :
    (¬(refreshBody env s).dumpable = true → ∃ e t,
      doSingleFlightRefresh (env.answering web) s = (.error e, t) ∧ e.isAxiam = false ∧
        t.sent = s.sent) ∧
    ((refreshBody env s).dumpable = true → ∃ req t,
      req.url = env.baseUrl ++ Endpoint.refresh.path ∧ t.sent = s.sent ++ [req] ∧
        t.core = s.core ∧ ((∃ n, doSingleFlightRefresh (env.answering web) s = (.ok n, t)) ∨
          ∃ e, doSingleFlightRefresh (env.answering web) s = (.error e, t) ∧ e.isAxiam = true)) := by
  let s' : Impl := { s with refreshCount := s.refreshCount + 1 }
  -- the counter moves before the body is dumped
  have hstart {γ : Type} (k : Str → Prog Impl Exc γ) :
      (do
        Prog.modify fun s : Impl => { s with refreshCount := s.refreshCount + 1 }
        let s ← Prog.read
        let body ← Prog.lift (dumpText (env.answering web) (refreshBody (env.answering web) s))
        k body) s = (Prog.lift (dumpText env (refreshBody env s)) >>= k) s' := rfl
  constructor
  · intro hdump
    refine ⟨.json .invalidUtf8, s', ?_, rfl, rfl⟩
    unfold doSingleFlightRefresh
    apply bind_run_error
    unfold performRefresh
    rw [hstart]
    unfold dumpText
    rw [if_neg hdump]
    rfl
  · intro hdump
    let req := buildRequest (env.answering web) s' "POST" "/api/v1/auth/refresh"
      (env.dump (refreshBody env s))
    obtain ⟨t, hrun, hsent, hcore⟩ := sendRaw_answering web env req s'
    have hperform {γ : Type} (k : HttpResponse → Prog Impl Exc γ) :
        (Prog.lift (dumpText env (refreshBody env s)) >>= fun body =>
          sendBuilt (env.answering web) "POST" "/api/v1/auth/refresh" body >>= k) s' =
            (sendRaw (env.answering web) req >>= k) s' := by
      unfold dumpText
      rw [if_pos hdump]
      rfl
    unfold doSingleFlightRefresh performRefresh
    rcases hdelivered : delivered (web s'.sent req) with e | resp
    · rw [hdelivered] at hrun
      refine ⟨req, t, rfl, hsent, hcore, .inr ⟨e, ?_, ?_⟩⟩
      · apply bind_run_error
        rw [hstart, hperform, bind_run_error hrun]
      · unfold delivered at hdelivered
        split at hdelivered
        · cases hdelivered
        · cases hdelivered
          rfl
    · rw [hdelivered] at hrun
      cases hsuccess : resp.isSuccess with
      | true =>
          refine ⟨req, { t with memo := t.memo.clear }, rfl, hsent, hcore, .inl ?_⟩
          rw [bind_run, hstart, hperform, bind_run_ok hrun]
          simp only [hsuccess, if_true]
          exact ⟨_, rfl⟩
      | false =>
          refine ⟨req, t, rfl, hsent, hcore, .inr ?_⟩
          rw [bind_run, hstart, hperform, bind_run_ok hrun]
          simp only [hsuccess, Bool.false_eq_true, if_false]
          exact ⟨_, rfl, rfl⟩

/-- The refresh on a `401`, and the request once more. -/
theorem judged_refreshAndRetry (e : Endpoint) {shape : Json → Prop} {path body : Str}
    {k : HttpResponse → Prog Impl Exc α} {s : Impl} (hpath : path = e.path) (hcore : s.core = s₀.core)
    (haccepts : ∀ history resp, e.Accepts env s₀ call history resp ↔
      Answers env shape resp ∧ RefreshWritable env s₀ resp)
    (hk : ∀ resp t, Judged web (Fits env s₀ call) (∀ j, env.parse resp.body = some j → shape j)
      (k resp) t) :
    Judged web (Fits env s₀ call) ((refreshBody env s₀).dumpable = true)
      (refreshAndRetry (env.answering web) "POST" path body >>= k) s := by
  obtain ⟨hbroken, hwritten⟩ := refresh_answering env web s
  rw [refreshBody_of_core hcore] at hbroken hwritten
  refine .of_run (bind_assoc_run _ _ _ _) ?_
  by_cases hdump : (refreshBody env s₀).dumpable = true
  · obtain ⟨req, t, hurl, hsent, hcore', hrun | ⟨x, hrun, haxiam⟩⟩ := hwritten hdump
    · obtain ⟨n, hrun⟩ := hrun
      have hfits : Fits env s₀ call s.sent req (web s.sent req) := fun hdone =>
        (fits_iff hurl hdone).mpr trivial hdone
      refine .exchange hrun hsent hdump (.congr (iff_of_true hfits trivial) ?_)
      refine .of_run (bind_assoc_run _ _ _ _) (judged_built e hpath trivial fun resp u _ => ?_)
      have hanswers := (haccepts u.sent resp).trans (and_iff_left fun _ _ => hdump)
      refine .congr hanswers (judged_settled _ (fun h => ?_) (fun h => ?_) (hk resp u))
      · unfold orRaise
        rw [if_pos h, pure_run]
      · unfold orRaise
        rw [if_neg h, throw_run]
        rfl
    · have hfits : Fits env s₀ call s.sent req (web s.sent req) := fun hdone =>
        (fits_iff hurl hdone).mpr trivial hdone
      exact .failed hrun hsent hdump haxiam hfits
  · obtain ⟨x, t, hrun, haxiam, hsent⟩ := hbroken hdump
    refine .silent ?_ ?_
    · rw [bind_run_error hrun, hsent]
    · rw [bind_run_error hrun]
      exact iff_of_false (fun h => Bool.false_ne_true (haxiam.symm.trans h)) hdump

/-- What the last attempt comes to. -/
theorem judged_settle (e : Endpoint) {shape : Json → Prop} {path body : Str}
    {k : HttpResponse → Prog Impl Exc α} {t : Impl} {resp : HttpResponse} (hpath : path = e.path)
    (hcore : t.core = s₀.core)
    (haccepts : ∀ history resp, e.Accepts env s₀ call history resp ↔
      Answers env shape resp ∧ RefreshWritable env s₀ resp)
    (hk : ∀ resp t, Judged web (Fits env s₀ call) (∀ j, env.parse resp.body = some j → shape j)
      (k resp) t) :
    Judged web (Fits env s₀ call) (Answers env shape resp ∧ RefreshWritable env s₀ resp)
      (executeRetrying.settle (env.answering web) path body (.ok resp) >>= k) t := by
  unfold executeRetrying.settle
  by_cases hsuccess : resp.isSuccess = true
  · have hother : RefreshWritable env s₀ resp := by
      intro hstatus
      unfold HttpResponse.isSuccess at hsuccess
      rw [hstatus] at hsuccess
      cases hsuccess
    simp only [if_pos hsuccess]
    refine .after (pure_run _ _) rfl (.congr ?_ (hk resp t))
    rw [answers_of_success hsuccess, and_iff_left hother]
  · simp only [if_neg hsuccess]
    by_cases hrefresh : resp.status = 401 ∧ t.refreshable = true
    · have hreadable : ¬unreadableDenial env.parse resp := by
        rintro ⟨h | h, -⟩ <;> cases hrefresh.1.symm.trans h
      have hsame : t.refreshable = s₀.refreshable := refreshable_of_core hcore
      refine .of_run (q := refreshAndRetry (env.answering web) "POST" path body >>= k) ?_
        (.congr ?_ (judged_refreshAndRetry e hpath hcore haccepts hk))
      · rw [bind_run, bind_run, read_run]
        simp only
        rw [if_pos hrefresh]
        rfl
      · rw [answers_of_refused hsuccess, and_iff_right hreadable]
        exact ⟨fun h => h hrefresh.1 (hsame.symm.trans hrefresh.2), fun h _ _ => h⟩
    · have hwritable : RefreshWritable env s₀ resp := fun h h' =>
        absurd ⟨h, (refreshable_of_core hcore).trans h'⟩ hrefresh
      have hrun : ((do
          let s ← Prog.read
          if resp.status = 401 ∧ s.refreshable = true then
            refreshAndRetry (env.answering web) "POST" path body
          else throw (raiseForStatus (env.answering web).parse resp)) >>= k) t =
            (.error (raiseForStatus env.parse resp), t) := by
        rw [bind_run, bind_run, read_run]
        simp only
        rw [if_neg hrefresh]
        rfl
      refine .silent ?_ ?_
      · rw [hrun]
      · rw [hrun, and_iff_left hwritable, answers_of_refused hsuccess]
        exact isAxiam_raiseForStatus_iff env.parse resp

/-- The outcome of an attempt, settled. -/
theorem judged_outcome (e : Endpoint) {shape : Json → Prop} {path body : Str}
    {k : HttpResponse → Prog Impl Exc α} {t : Impl} {resp : HttpResponse} {req : HttpRequest}
    {before : List HttpRequest} (hpath : path = e.path) (hcore : t.core = s₀.core)
    (hurl : req.url = env.baseUrl ++ e.path)
    (haccepts : ∀ history resp, e.Accepts env s₀ call history resp ↔
      Answers env shape resp ∧ RefreshWritable env s₀ resp)
    (hk : ∀ resp t, Judged web (Fits env s₀ call) (∀ j, env.parse resp.body = some j → shape j)
      (k resp) t) :
    Judged web (Fits env s₀ call) (Fits env s₀ call before req resp)
      (executeRetrying.settle (env.answering web) path body (delivered resp) >>= k) t := by
  unfold delivered
  by_cases hdone : resp.transportError = []
  · rw [if_pos hdone]
    refine .congr ?_ (judged_settle e hpath hcore haccepts hk)
    rw [fits_iff hurl hdone, haccepts]
  · rw [if_neg hdone]
    exact .silent rfl (iff_of_true rfl (fits_of_failed hdone))

/-- A status that is worth another attempt is one that any endpoint may answer. -/
theorem accepted_of_retry {shape : Json → Prop} {resp : HttpResponse}
    (h : retryShouldRetry (some resp.status) = true) :
    Answers env shape resp ∧ RefreshWritable env s₀ resp := by
  have hstatus : resp.status = 408 ∨ resp.status = 429 ∨ 500 ≤ resp.status := by
    unfold retryShouldRetry at h
    simp only [Bool.or_eq_true, Bool.and_eq_true, beq_iff_eq, decide_eq_true_eq] at h
    omega
  have hrefused : ¬resp.isSuccess = true := by
    unfold HttpResponse.isSuccess
    rw [Bool.and_eq_true, decide_eq_true_eq, decide_eq_true_eq]
    omega
  refine ⟨(answers_of_refused hrefused).mpr ?_, fun h401 => ?_⟩
  · rintro ⟨h | h, -⟩ <;> omega
  · omega

/-- A request that is sent again while it may help. -/
theorem judged_retrying (e : Endpoint) {shape : Json → Prop} {path body : Str}
    {k : HttpResponse → Prog Impl Exc α} {s : Impl} (hpath : path = e.path)
    (haccepts : ∀ history resp, e.Accepts env s₀ call history resp ↔
      Answers env shape resp ∧ RefreshWritable env s₀ resp)
    (hk : ∀ resp t, Judged web (Fits env s₀ call) (∀ j, env.parse resp.body = some j → shape j)
      (k resp) t) (retries : Nat) (hcore : s.core = s₀.core) (hc : c) :
    Judged web (Fits env s₀ call) c
      (executeRetrying (env.answering web) path body retries >>= k) s := by
  induction retries generalizing s c with
  | zero =>
      obtain ⟨req, t, hrun, hurl, hsent, hcore'⟩ :=
        attempt_answering env web path body s
      refine .of_run (bind_assoc_run _ _ _ _) (.exchange hrun hsent hc ?_)
      exact judged_outcome e hpath (hcore'.trans hcore) (hpath ▸ hurl) haccepts hk
  | succ retries ih =>
      obtain ⟨req, t, hrun, hurl, hsent, hcore'⟩ :=
        attempt_answering env web path body s
      refine .of_run (bind_assoc_run _ _ _ _) (.exchange hrun hsent hc ?_)
      by_cases hretry : retryShouldRetry (statusOf (delivered (web s.sent req))) = true
      · have hfits : Fits env s₀ call s.sent req (web s.sent req) := by
          by_cases hdone : (web s.sent req).transportError = []
          · rw [delivered, if_pos hdone] at hretry
            rw [fits_iff (hpath ▸ hurl) hdone, haccepts]
            exact accepted_of_retry hretry
          · exact fits_of_failed hdone
        rw [if_pos hretry]
        exact ih (hcore'.trans hcore) hfits
      · rw [if_neg hretry]
        exact judged_outcome e hpath (hcore'.trans hcore) (hpath ▸ hurl) haccepts hk

/-! ### One call after the other -/

theorem adoptLogin_mapped (resp : HttpResponse) (result : LoginResult) (t : Impl) :
    Mapped (adoptLogin env resp result t).1 ∧ (adoptLogin env resp result t).2.sent = t.sent := by
  refine ⟨?_, adoptLogin_sent env resp result t⟩
  unfold adoptLogin
  split <;> exact trivial

theorem login_judged {s : Impl} (hopen : s.closed = false) (u p : Str) :
    Judged web (Fits env s₀ call) ((loginBody env u p).dumpable = true)
      (login (env.answering web) u p) s := by
  refine .after (ensureOpen_run_open hopen) rfl (.after (clearMemo_run s) rfl ?_)
  refine judged_dump (j := loginBody env u p) fun body => ?_
  refine judged_built .login rfl trivial fun resp t _ => ?_
  exact .last (.lift (mapped_readLoginAnswer_iff env resp)) (adoptLogin_mapped resp)

theorem dumpable_stringMember {j : Json} {key v : Str} (hj : j.dumpable = true)
    (hfound : j.stringMember? key = some v) : validUtf8 v = true := by
  have hmembers : ∀ members : List (Str × Json), Json.dumpableMembers members = true →
      ∀ member, members.lookup key = some member → member.dumpable = true := by
    intro members
    induction members with
    | nil => intro _ member h; cases h
    | cons pair rest ih =>
        obtain ⟨name, value⟩ := pair
        intro hall member h
        unfold Json.dumpableMembers at hall
        rw [Bool.and_eq_true, Bool.and_eq_true] at hall
        rw [List.lookup_cons] at h
        split at h
        · cases h
          exact hall.1.2
        · exact ih hall.2 member h
  unfold Json.stringMember? Json.find? at hfound
  cases j with
  | object members =>
      rcases hlookup : members.lookup key with _ | member
      · simp only [hlookup] at hfound
        cases hfound
      · simp only [hlookup] at hfound
        unfold Json.dumpable at hj
        have hmember := hmembers members hj member hlookup
        cases member with
        | string text =>
            cases hfound
            unfold Json.dumpable at hmember
            exact hmember
        | _ => cases hfound
  | _ => cases hfound

theorem dumpable_jsonStr {j : Json} (hj : j.dumpable = true) (name : Str) :
    validUtf8 (jsonStr j name) = true := by
  unfold jsonStr
  cases hfound : j.stringMember? name with
  | none => rfl
  | some v => exact dumpable_stringMember hj hfound

theorem finishOpaque_judged {s : Impl} {started : OpaqueLoginStart} {ke3 : Str}
    (hke3 : validUtf8 ke3 = true) (hsession : validUtf8 started.opaqueSession = true) :
    Judged web (Fits env s₀ call) True (finishOpaque (env.answering web) started ke3) s := by
  have hdump : (Json.object [(str "ke3", .string ke3),
      (str "opaque_session", .string started.opaqueSession)]).dumpable = true := by
    simp only [Json.dumpable, Json.dumpableMembers, hke3, hsession, show validUtf8 "ke3" = true by decide,
      show validUtf8 "opaque_session" = true by decide, Bool.and_self]
  refine .congr (iff_of_true trivial hdump) (judged_dump fun body => ?_)
  refine judged_execute .opaqueFinish (fun resp => LoginShaped resp.status) rfl trivial
    (fun _ _ => Iff.rfl) fun resp t => ?_
  exact .last (.lift (mapped_read_iff (readLogin_none _) (readLogin_ok_iff _) _))
    (adoptLogin_mapped resp)

section

variable (sound : Sound env)
include sound

/-- With the `KE2` in hand: finished, or the tenant's password login, or final. -/
theorem openKe2_judged {s : Impl} {resp : HttpResponse} {j : Json} {u p : Str}
    (hopen : s.closed = false) (hparse : env.parse resp.body = some j)
    (hke2 : (readLoginStart j).ke2 ≠ []) :
    Judged web (Fits env s₀ call) (FallsBack env p s.sent resp → (loginBody env u p).dumpable = true)
      (openKe2 (env.answering web) u p (readLoginStart j)) s := by
  refine .after (read_run s) rfl ?_
  rw [show (env.answering web).opaqueFinish = env.opaqueFinish from rfl]
  cases hfinish : env.opaqueFinish s.sent p (readLoginStart j).ke2 (readLoginStart j).ksf with
  | ok ke3 =>
      refine .congr (iff_of_true (fun hback => ?_) trivial) (finishOpaque_judged
        (sound.ke3 _ _ _ _ _ hfinish) (dumpable_jsonStr (sound.parsed _ _ hparse) _))
      obtain ⟨j', e, hparse', -, hrefused, -⟩ := hback
      cases hparse.symm.trans hparse'
      cases hfinish.symm.trans hrefused
  | error e =>
      refine .ite (fun hback => ?_) fun hfinal => ?_
      · refine .congr ?_ (login_judged hopen u p)
        exact ⟨fun h => h ⟨j, e, hparse, hke2, hfinish, hback.1, hback.2⟩, fun h _ => h⟩
      · refine .raise (iff_of_true (sound.opaqueFinish _ _ _ _ _ hfinish) fun hback => ?_)
        obtain ⟨j', e', hparse', -, hrefused, hauth, hmode⟩ := hback
        cases hparse.symm.trans hparse'
        cases hfinish.symm.trans hrefused
        exact absurd ⟨hauth, hmode⟩ hfinal

theorem loginOpaque_judged {s : Impl} (hopen : s.closed = false) (u p : Str) :
    Judged web (Fits env s₀ (.loginOpaque u p)) (∀ ke1, env.opaqueStart s.sent p = .ok ke1 →
      (opaqueBody env u ke1).dumpable = true) (loginOpaque (env.answering web) u p) s := by
  refine .after (ensureOpen_run_open hopen) rfl (.after (clearMemo_run s) rfl ?_)
  refine .after (read_run _) rfl (.lift_bind (fun e he => ?_) fun ke1 hke1 => ?_)
  · refine iff_of_true (sound.opaqueStart _ _ _ he) fun ke1 hke1 => ?_
    cases he.symm.trans hke1
  refine .congr ⟨fun h => h ke1 hke1, fun h ke1' hke1' => ?_⟩
    (judged_dump (j := opaqueBody env u ke1) fun body => ?_)
  · cases hke1.symm.trans hke1'
    exact h
  refine judged_built .opaqueStart rfl trivial fun resp t hcore => ?_
  have haccepts : Endpoint.opaqueStart.Accepts env s₀ (.loginOpaque u p) t.sent resp ↔
      ¬unreadableDenial env.parse resp ∧ (resp.isSuccess = true → FallsBack env p t.sent resp →
        (loginBody env u p).dumpable = true) :=
    and_congr_right fun _ => ⟨fun h => h u p rfl, fun h u' p' heq => by cases heq; exact h⟩
  refine .congr haccepts ?_
  rcases readOpaqueStart_cases env resp with
    ⟨j, hread, hsuccess, hparse, hreadable⟩ | ⟨e, hread, haxiam, hnone⟩
  · refine .congr ((and_iff_right hreadable).trans ⟨fun h => h hsuccess, fun h _ => h⟩) ?_
    refine .after (a := j) (congrArg (Prod.mk · t) hread) rfl ?_
    refine .ite (fun hempty => .raise (iff_of_true rfl fun hback => ?_)) fun hke2 => ?_
    · obtain ⟨j', e, hparse', hke2, -⟩ := hback
      cases hparse.symm.trans hparse'
      exact absurd hempty hke2
    · exact openKe2_judged sound ((congrArg (·.2.2.2) hcore).trans hopen) hparse hke2
  · have hrun {γ : Type} (k : Json → Prog Impl Exc γ) :
        (Prog.lift (readOpaqueStart (env.answering web) "login/start" resp) >>= k) t = (.error e, t) :=
      bind_run_error (congrArg (Prod.mk · t) hread) k
    refine .silent ?_ ?_
    · rw [hrun]
    · rw [hrun]
      refine haxiam.trans (and_iff_left fun hsuccess hback => ?_).symm
      obtain ⟨j, e', hparse, -⟩ := hback
      cases (hnone hsuccess).symm.trans hparse

omit sound

theorem verifyMfa_judged {s : Impl} (hopen : s.closed = false) (ct tc : Str) :
    Judged web (Fits env s₀ call) (validUtf8 ct = true ∧ validUtf8 tc = true)
      (verifyMfa (env.answering web) ct tc) s := by
  have hdump : (Json.object [(str "challenge_token", .string ct), (str "totp_code", .string tc)]).dumpable
      = true ↔ validUtf8 ct = true ∧ validUtf8 tc = true := by
    simp only [Json.dumpable, Json.dumpableMembers, show validUtf8 "challenge_token" = true by decide,
      show validUtf8 "totp_code" = true by decide, Bool.true_and, Bool.and_true, Bool.and_eq_true]
  refine .after (ensureOpen_run_open hopen) rfl (.after (clearMemo_run s) rfl ?_)
  refine .congr hdump.symm (judged_dump fun body => ?_)
  refine judged_execute .mfaVerify (fun _ => SessionShaped) rfl trivial
    (fun _ _ => Iff.rfl) fun resp t => ?_
  refine .last (.lift ?_) fun result t => ⟨trivial, ?_⟩
  · cases hparse : env.parse resp.body with
    | none =>
        rw [show (env.answering web).parse = env.parse from rfl, hparse]
        exact iff_of_true trivial fun k hk => by cases hk
    | some j =>
        rw [show (env.answering web).parse = env.parse from rfl, hparse]
        refine (mapped_liftJson_iff _).trans ((readSession_ok_iff j).trans ?_)
        exact ⟨fun h k hk => by cases hk; exact h, fun h => h j rfl⟩
  · show ((t.adoptUser result.user).adoptOrg _).sent = t.sent
    rw [adoptOrg_sent, adoptUser_sent]

theorem mfaConfirm_judged {s : Impl} (hopen : s.closed = false) (tc : Str) :
    Judged web (Fits env s₀ call) (validUtf8 tc = true) (mfaConfirm (env.answering web) tc) s := by
  refine .after (ensureOpen_run_open hopen) rfl ?_
  refine .congr ?_ (judged_dump (j := .object [("totp_code", .string tc)]) fun body => ?_)
  · rw [dumpable_pair (by decide)]
  · refine judged_post .mfaConfirm (fun _ => ConfirmationShaped) rfl trivial
      (fun _ _ => Iff.rfl) fun resp t => ?_
    exact .lift (mapped_readConfirmed_iff env resp.body)

theorem batchCheck_judged {s : Impl} (hopen : s.closed = false) (hcore : s.core = s₀.core)
    (checks : List AccessCheck) :
    Judged web (Fits env s₀ call) ((Json.object [(str "checks", .array (checks.map fun c =>
      checkBody c.action c.resourceId c.scope c.subjectId))]).dumpable = true)
      (batchCheck (env.answering web) checks) s := by
  refine .after (ensureOpen_run_open hopen) rfl (judged_dump fun body => ?_)
  refine judged_retrying .batch rfl (fun _ _ => Iff.rfl) (fun resp t => ?_) _ hcore trivial
  exact .lift (mapped_read_iff ⟨[], rfl⟩ readResults_ok_iff _)

theorem askDecision_judged {s : Impl} (hcore : s.core = s₀.core) (body : Json) (key : Option Str) :
    Judged web (Fits env s₀ call) (body.dumpable = true)
      (askDecision (env.answering web) body key) s := by
  refine judged_dump fun text => ?_
  refine judged_retrying .check rfl (fun _ _ => Iff.rfl) (fun resp t => ?_) _ hcore trivial
  rw [show (env.answering web).parse = env.parse from rfl]
  cases hparse : env.parse resp.body with
  | none => exact .ret _ fun k hk => by cases hk
  | some j =>
      have hshape : Mapped (liftJson (parseDecision j)) ↔
          ∀ j', some j = some j' → DecisionShaped j' := by
        rw [mapped_liftJson_iff, parseDecision_ok_iff]
        exact ⟨fun h k hk => by cases hk; exact h, fun h => h j rfl⟩
      refine .last (.lift hshape) fun decision t => ?_
      cases key with
      | none => exact ⟨trivial, rfl⟩
      | some key => exact ⟨trivial, rfl⟩

theorem checkAccess_judged {s : Impl} (hopen : s.closed = false) (hcore : s.core = s₀.core)
    (a r : Str) (sc u : Option Str) :
    Judged web (Fits env s₀ call)
      ((s.memo.enabled = true ∧ (s.memo.get (DecisionMemo.key u r a sc s.actingTenantId)
        (env.clock s.ticks)).1.isSome = true) ∨ (checkBody a r sc u).dumpable = true)
      (checkAccess (env.answering web) a r sc u) s := by
  refine .after (ensureOpen_run_open hopen) rfl (.after (read_run s) rfl ?_)
  refine .ite (fun henabled => ?_) fun hdisabled => ?_
  · rcases hfound : s.memo.get (DecisionMemo.key u r a sc s.actingTenantId) (env.clock s.ticks)
      with ⟨cached, memo⟩
    have hconsult : consult (env.answering web) (DecisionMemo.key u r a sc s.actingTenantId) s =
        (.ok cached, { s with ticks := s.ticks + 1, memo := memo }) := by
      show (Except.ok (s.memo.get _ (env.clock s.ticks)).1, { s with
        ticks := s.ticks + 1, memo := (s.memo.get _ (env.clock s.ticks)).2 }) = _
      rw [hfound]
    refine .after hconsult rfl ?_
    cases cached with
    | some decision => exact .ret _ (.inl ⟨henabled, rfl⟩)
    | none =>
        exact .congr (or_iff_right fun h => Bool.false_ne_true h.2)
          (askDecision_judged (s := { s with ticks := s.ticks + 1, memo := memo }) hcore _ _)
  · exact .congr (or_iff_right fun h => hdisabled h.1) (askDecision_judged hcore _ _)

/-- A discovery, which is at most one exchange. -/
theorem oidcDiscover_judged {d : Discovering} (hopen : d.impl.closed = false) (ttl : Int) :
    ∃ new, (oidcDiscover (env.answering web) ttl d).2.impl.sent = d.impl.sent ++ new ∧
      (Mapped (oidcDiscover (env.answering web) ttl d).1 ↔
        Throughout web (Fits env s₀ call) d.impl.sent new) := by
  -- a fetch is one exchange, and its failures are those of reading the answer
  have hfetch : ∀ d : Discovering,
      ∃ new, (fetchConfiguration (env.answering web) ttl d).2.impl.sent = d.impl.sent ++ new ∧
        (Mapped (fetchConfiguration (env.answering web) ttl d).1 ↔
          Throughout web (Fits env s₀ call) d.impl.sent new) := by
    intro d
    let req := discoveryRequest (env.answering web)
    obtain ⟨t, hrun, hsent, -⟩ := sendRaw_answering web env req d.impl
    have hone : Throughout web (Fits env s₀ call) d.impl.sent [req] ↔
        Fits env s₀ call d.impl.sent req (web d.impl.sent req) := by
      rw [throughout_cons]
      exact and_iff_left (throughout_nil web _ _)
    have hstep : onImpl (sendRaw (env.answering web) req) d =
        (delivered (web d.impl.sent req), { d with impl := t }) := by
      show ((sendRaw (env.answering web) req d.impl).1,
        { d with impl := (sendRaw (env.answering web) req d.impl).2 }) = _
      rw [hrun]
    refine ⟨[req], ?_⟩
    rw [hone]
    unfold fetchConfiguration
    unfold delivered at hstep
    by_cases hdone : (web d.impl.sent req).transportError = []
    · rw [if_pos hdone] at hstep
      rw [bind_run_ok hstep, fits_iff (e := .discovery) rfl hdone]
      have hread := mapped_readDiscovery_iff env (web d.impl.sent req)
      cases hcfg : readDiscovery env (web d.impl.sent req) with
      | error e =>
          have hlift : (Prog.lift (readDiscovery (env.answering web) (web d.impl.sent req)) :
              Prog Discovering Exc _) { d with impl := t } = (.error e, { d with impl := t }) :=
            congrArg (Prod.mk · { d with impl := t }) hcfg
          rw [hcfg] at hread
          rw [bind_run_error hlift]
          exact ⟨hsent, hread⟩
      | ok cfg =>
          have hlift : (Prog.lift (readDiscovery (env.answering web) (web d.impl.sent req)) :
              Prog Discovering Exc _) { d with impl := t } = (.ok cfg, { d with impl := t }) :=
            congrArg (Prod.mk · { d with impl := t }) hcfg
          rw [hcfg] at hread
          rw [bind_run_ok hlift]
          exact ⟨hsent, hread⟩
    · rw [if_neg hdone] at hstep
      rw [bind_run_error hstep]
      exact ⟨hsent, iff_of_true rfl (fits_of_failed hdone)⟩
  have hopened : onImpl ensureOpen d = (.ok (), d) := by
    show ((ensureOpen d.impl).1, { d with impl := (ensureOpen d.impl).2 }) = _
    rw [ensureOpen_run_open hopen]
  unfold oidcDiscover
  rw [bind_run_ok hopened, bind_run, read_run]
  simp only
  cases d.oidcConfig with
  | none => exact hfetch d
  | some cfg =>
      have hclock : onImpl (now (env.answering web)) d = (.ok (env.clock d.impl.ticks),
          { d with impl := { d.impl with ticks := d.impl.ticks + 1 } }) := rfl
      simp only
      rw [bind_run_ok hclock]
      by_cases hfresh : env.clock d.impl.ticks < d.oidcConfigExpiresAt
      · rw [if_pos hfresh]
        exact ⟨[], (List.append_nil _).symm, iff_of_true trivial (throughout_nil web _ _)⟩
      · rw [if_neg hfresh]
        exact hfetch { d with impl := { d.impl with ticks := d.impl.ticks + 1 } }

end

end

/-! ## Every call -/

/-- A closed client refuses every call but the shared mapping, which is a function of the
response alone. -/
def Call.Ready (env : Env) (s : Impl) : Call → Prop
  | .raiseForStatus resp => ¬unreadableDenial env.parse resp
  | call => s.closed = true ∨ call.Writable env s

/-- Every exchange of the call was answered as its endpoint is read. -/
def FitsThroughout (env : Env) (web : List HttpRequest → HttpRequest → HttpResponse) (s : Impl)
    (call : Call) (post : Impl) : Prop :=
  ∀ past req rest, post.sent = s.sent ++ (past ++ req :: rest) →
    Fits env s call (s.sent ++ past) req (web (s.sent ++ past) req)

section

variable {env : Env} {web : List HttpRequest → HttpRequest → HttpResponse} {call : Call}

theorem fitsThroughout_iff {s post : Impl} {new : List HttpRequest}
    (hsent : post.sent = s.sent ++ new) :
    FitsThroughout env web s call post ↔ Throughout web (Fits env s call) s.sent new := by
  unfold FitsThroughout Throughout
  rw [hsent]
  simp only [List.append_cancel_left_eq]

/-- A call of the client alone, by what it is judged by. -/
theorem ending_mapped_iff {α : Type} {m : Unit → Prog Impl Exc α} {d : Discovering} {c : Prop}
    (h : d.impl.closed = false →
      Judged web (Fits env d.impl call) c (ensureOpen >>= m) d.impl) :
    Mapped (ending (ensureOpen >>= m) d).1 ↔ (d.impl.closed = true ∨ c) ∧
      FitsThroughout env web d.impl call (ending (ensureOpen >>= m) d).2.impl := by
  have hsilent {p : Prog Impl Exc α} (s : Impl) : (silently p s).2 = (p s).2 ∧
      (Mapped (silently p s).1 ↔ Mapped (p s).1) := by
    unfold silently
    rw [bind_run]
    rcases p s with ⟨_ | a, t⟩ <;> exact ⟨rfl, Iff.rfl⟩
  obtain ⟨hpost, hmapped⟩ := hsilent (p := ensureOpen >>= m) d.impl
  show Mapped (silently (ensureOpen >>= m) d.impl).1 ↔ _ ∧
    FitsThroughout env web d.impl call (silently (ensureOpen >>= m) d.impl).2
  rw [hpost, hmapped]
  cases hclosed : d.impl.closed with
  | true =>
      rw [ensureOpen_guarded.bind m d.impl hclosed]
      refine iff_of_true rfl ⟨.inl rfl, ?_⟩
      rw [fitsThroughout_iff (List.append_nil _).symm]
      exact throughout_nil web _ _
  | false =>
      obtain ⟨new, hsent, hiff⟩ := h hclosed
      rw [hiff, fitsThroughout_iff hsent, or_iff_right Bool.false_ne_true]

/-- For every response a server may give: a call returns a value or throws an `AxiamError` exactly
when the client can write its request and each answer has the members it is read by. -/
theorem call_mapped_iff (sound : Sound env) (web : List HttpRequest → HttpRequest → HttpResponse)
    (call : Call) (d : Discovering) :
    Mapped (call.perform (env.answering web) d).1 ↔ call.Ready env d.impl ∧
      FitsThroughout env web d.impl call (call.perform (env.answering web) d).2.impl := by
  cases call with
  | login u p => exact ending_mapped_iff fun hopen => login_judged hopen u p
  | loginOpaque u p => exact ending_mapped_iff fun hopen => loginOpaque_judged sound hopen u p
  | verifyMfa c t => exact ending_mapped_iff fun hopen => verifyMfa_judged hopen c t
  | checkAccess a r s u =>
      exact ending_mapped_iff fun hopen => checkAccess_judged hopen rfl a r s u
  | batchCheck cs => exact ending_mapped_iff fun hopen => batchCheck_judged hopen rfl cs
  | mfaConfirm t => exact ending_mapped_iff fun hopen => mfaConfirm_judged hopen t
  | oidcDiscover ttl =>
      have hlast : ∀ p : Prog Discovering Exc OidcConfiguration,
          ((do let _ ← p; pure ()) d : Except Exc Unit × Discovering).2 = (p d).2 ∧
            (Mapped ((do let _ ← p; pure ()) d : Except Exc Unit × Discovering).1 ↔
              Mapped (p d).1) := by
        intro p
        rw [bind_run]
        rcases p d with ⟨_ | cfg, t⟩ <;> exact ⟨rfl, Iff.rfl⟩
      obtain ⟨hpost, hmapped⟩ := hlast (oidcDiscover (env.answering web) ttl)
      unfold Call.perform
      rw [hpost, hmapped]
      cases hclosed : d.impl.closed with
      | true =>
          have hrun : oidcDiscover (env.answering web) ttl d = (.error closedError, d) := by
            apply bind_run_error
            show ((ensureOpen d.impl).1, { d with impl := (ensureOpen d.impl).2 }) = _
            rw [ensureOpen_run_closed hclosed]
          rw [hrun]
          refine iff_of_true rfl ⟨.inl hclosed, ?_⟩
          rw [fitsThroughout_iff (List.append_nil _).symm]
          exact throughout_nil web _ _
      | false =>
          obtain ⟨new, hsent, hiff⟩ : ∃ new,
              (oidcDiscover (env.answering web) ttl d).2.impl.sent = d.impl.sent ++ new ∧
                (Mapped (oidcDiscover (env.answering web) ttl d).1 ↔
                  Throughout web (Fits env d.impl (.oidcDiscover ttl)) d.impl.sent new) :=
            oidcDiscover_judged hclosed ttl
          rw [hiff, fitsThroughout_iff hsent]
          exact (and_iff_right (.inr trivial)).symm
  | raiseForStatus resp =>
      have hnone : FitsThroughout env web d.impl (.raiseForStatus resp) d.impl := by
        rw [fitsThroughout_iff (List.append_nil _).symm]
        exact throughout_nil web _ _
      exact (isAxiam_raiseForStatus_iff env.parse resp).trans (and_iff_left hnone).symm

end

/-! ## An answer that is an array -/

/-- A server that answers every request with an empty array. -/
def arrayEnv : Env where
  baseUrl := "https://iam.example"
  tenantHeader := "acme"
  parse := tableParser [(str "[]", .array [])]
  dump := fun _ => "{}"
  transport := fun _ _ => .ok { status := 200, body := "[]" }
  clock := fun n => n
  opaqueStart := fun _ _ => .error (.network "no library" "opaque_unavailable")
  opaqueFinish := fun _ _ _ _ => .error (.network "no library" "opaque_unavailable")

def arrayWeb (_ : List HttpRequest) (_ : HttpRequest) : HttpResponse :=
  { status := 200, body := "[]" }

theorem arrayEnv_sound : Sound arrayEnv where
  parsed := by
    intro text j h
    replace h : List.lookup text [(str "[]", Json.array [])] = some j := h
    rw [List.lookup_cons] at h
    split at h
    · cases h
      rfl
    · cases h
  opaqueStart := by
    intro sent password e h
    cases h
    rfl
  opaqueFinish := by
    intro sent password ke2 ksf e h
    cases h
    rfl
  ke3 := by
    intro sent password ke2 ksf text h
    cases h

theorem arrayEnv_mapped_iff : Mapped ((Call.login "alice" "pw").perform
    (arrayEnv.answering arrayWeb) {}).1 ↔ (Call.login "alice" "pw").Ready arrayEnv {} ∧
      FitsThroughout arrayEnv arrayWeb {} (.login "alice" "pw")
        ((Call.login "alice" "pw").perform (arrayEnv.answering arrayWeb) {}).2.impl :=
  call_mapped_iff arrayEnv_sound arrayWeb (.login "alice" "pw") {}

/-- The login of a server that answers `[]` throws the JSON library's own exception. -/
theorem array_login_escapes :
    ¬∀ (env : Env) (web : List HttpRequest → HttpRequest → HttpResponse) (call : Call)
      (d : Discovering), Sound env → Mapped (call.perform (env.answering web) d).1 := by
  intro hclaim
  have hescapes : ¬Mapped ((Call.login "alice" "pw").perform (arrayEnv.answering arrayWeb) {}).1 := by
    decide
  exact hescapes (hclaim arrayEnv arrayWeb (.login "alice" "pw") {} arrayEnv_sound)

end Axiam.Client
