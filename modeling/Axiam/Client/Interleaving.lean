import Axiam.Client.Access
import Axiam.Client.Login
import Axiam.Lib.Run

/-!
# The sections of concurrent calls

Any number of threads on one client, each inside one call.  A step is one lock-protected
section of one thread, or one exchange; what a section only prepares for the exchange after
it, without a look at the memo or the acting tenant, is part of that exchange.  The memo
keeps with each decision what its request was sent under, which nothing here reads.
-/

namespace Axiam.Client

open Axiam.Memo

/-- What a request is sent under: a device's bearer, or else the cookies of the jar. -/
inductive Credential (κ : Type) where
  | bearer (value : Str)
  | cookies (jar : κ)
  deriving DecidableEq

/-- A decision, and what its request was sent under. -/
structure Sent (κ : Type) where
  decision : AccessDecision
  credential : Credential κ
  acting : Option Str

/-- What the threads share: the client, and the cookie jar of its transport. -/
structure Shared (κ : Type) where
  client : Impl (Sent κ)
  jar : κ

/-- A memo key, and the acting tenant it was made under. -/
structure MemoKey where
  key : Str
  acting : Option Str

/-- Where a thread stands.  A check carries its key, when the memo is on, the retries left,
and whether it has refreshed. -/
inductive Thread (κ : Type) where
  | checkStart (q : AccessCheck)
  | checkKeyed (q : AccessCheck) (memo : MemoKey)
  | checkReady (q : AccessCheck) (memo : Option MemoKey) (left : Nat) (refreshed : Bool)
  | checkBuilt (q : AccessCheck) (memo : Option MemoKey) (left : Nat) (refreshed : Bool)
      (req : HttpRequest)
  | checkUnauthorized (q : AccessCheck) (memo : Option MemoKey)
  | checkRefreshing (q : AccessCheck) (memo : Option MemoKey)
  | checkRefreshed (q : AccessCheck) (memo : Option MemoKey)
  | checkAnswered (memo : MemoKey) (sent : Sent κ)
  | returned (decision : AccessDecision)
  | loginStart (usernameOrEmail password : Str)
  | loginCleared (usernameOrEmail password : Str)
  | loginAnswered (user : Option UserInfo) (orgId : Option Str)
  | refreshStart
  | refreshExchanged
  | logoutStart
  | logoutCleared
  | logoutAnswered
  | actingTenant (tenantId : Str)
  | clearActingTenant
  | done

/-- What a step takes from outside: whose turn it is, the answer and the jar of an exchange,
the memo's clock, and whether a refresh follows another one in flight. -/
structure Input (κ : Type) where
  thread : Nat
  answer : Answer := .ok {}
  jar : Option κ := none
  now : Int := 0
  follows : Bool := false

section

variable {κ : Type} (env : Env) (input : Input κ)

def credentialOf (jar : κ) : Option Str → Credential κ
  | some value => .bearer value
  | none => .cookies jar

/-- The credential the client holds. -/
def Shared.held (s : Shared κ) : Credential κ := credentialOf s.jar s.client.bearer

def Shared.setMemo (s : Shared κ) (memo : DecisionMemo (Sent κ)) : Shared κ :=
  { s with client := { s.client with memo := memo } }

def Shared.clearMemo (s : Shared κ) : Shared κ := s.setMemo s.client.memo.clear

def AccessCheck.memoKey (q : AccessCheck) (acting : Option Str) : MemoKey :=
  ⟨DecisionMemo.key q.subjectId q.resourceId q.action q.scope acting, acting⟩

/-- One exchange: the response delivered, and the token it carries captured. -/
def exchange (s : Shared κ) : Except Exc HttpResponse × Shared κ :=
  match input.answer.bind delivered with
  | .ok resp => (.ok resp, { s with client := s.client.capture resp })
  | .error e => (.error e, s)

/-- One exchange that may leave other cookies in the jar. -/
def exchangeCookies (s : Shared κ) : Except Exc HttpResponse × Shared κ :=
  exchange input { s with jar := input.jar.getD s.jar }

/-- The exchange of a refresh, or the outcome of the one in flight. -/
def exchangeRefresh (s : Shared κ) : Bool × Shared κ :=
  let succeeded : Except Exc HttpResponse → Bool
    | .ok resp => resp.isSuccess
    | .error _ => false
  if input.follows then (succeeded (input.answer.bind delivered), s)
  else match dumpText env (refreshBody env s.client) with
    | .error _ => (false, s)
    | .ok _ => (succeeded (exchangeCookies input s).1, (exchangeCookies input s).2)

/-- What a check does with a decision. -/
def decided (memo : Option MemoKey) (tag : AccessDecision → Sent κ) (body : Str) : Thread κ :=
  match env.parse body with
  | none => .returned {}
  | some j =>
      match parseDecision j with
      | .error _ => .done
      | .ok decision =>
          match memo with
          | some m => .checkAnswered m (tag decision)
          | none => .returned decision

/-- What a check does with the outcome of an attempt. -/
def afterExchange (q : AccessCheck) (memo : Option MemoKey) (left : Nat)
    (refreshed : Bool) (tag : AccessDecision → Sent κ) :
    Except Exc HttpResponse → Thread κ
  | .error e =>
      if 0 < left ∧ e.isNetwork = true then .checkReady q memo (left - 1) refreshed else .done
  | .ok resp =>
      if 0 < left ∧ retryShouldRetry (some resp.status) = true then
        .checkReady q memo (left - 1) refreshed
      else if resp.isSuccess then decided env memo tag resp.body
      else if resp.status = 401 ∧ refreshed = false then .checkUnauthorized q memo
      else .done

/-- What a login does with its answer. -/
def afterLogin : Except Exc HttpResponse → Thread κ
  | .error _ => .done
  | .ok resp =>
      match readLoginAnswer env resp with
      | .error _ => .done
      | .ok result =>
          if result.complete then
            .loginAnswered result.user (orgIdFromCookies env.parse resp.setCookies)
          else .done

/-- What a logout does with its answer. -/
def afterLogout : Except Exc HttpResponse → Thread κ
  | .error e => if e.isAxiam then .logoutAnswered else .done
  | .ok resp =>
      if resp.isSuccess || (raiseForStatus env.parse resp).isAxiam then .logoutAnswered else .done

/-- The next section of a thread. -/
def advance (s : Shared κ) : Thread κ → Shared κ × Thread κ
  | .checkStart q =>
      if s.client.memo.enabled then (s, .checkKeyed q (q.memoKey s.client.actingTenantId))
      else (s, .checkReady q none (readRetries env) false)
  | .checkKeyed q m =>
      let found := s.client.memo.get m.key input.now
      (s.setMemo found.2,
        match found.1 with
        | some sent => .returned sent.decision
        | none => .checkReady q (some m) (readRetries env) false)
  | .checkReady q memo left refreshed =>
      match dumpText env (checkBody q.action q.resourceId q.scope q.subjectId) with
      | .error _ => (s, .done)
      | .ok body =>
          (s, .checkBuilt q memo left refreshed
            { buildRequest env s.client "POST" "/api/v1/authz/check" body with
              replayable := !refreshed })
  | .checkBuilt q memo left refreshed req =>
      let tag := fun decision =>
        ⟨decision, credentialOf s.jar (req.headers.find? "Authorization"),
          req.headers.find? "X-Axiam-Tenant"⟩
      ((exchange input s).2,
        afterExchange env q memo left refreshed tag (exchange input s).1)
  | .checkUnauthorized q memo =>
      (s, if s.client.refreshable then .checkRefreshing q memo else .done)
  | .checkRefreshing q memo =>
      let out := exchangeRefresh env input s
      (out.2, if out.1 then .checkRefreshed q memo else .done)
  | .checkRefreshed q memo => (s.clearMemo, .checkReady q memo 0 true)
  | .checkAnswered m sent =>
      (s.setMemo (s.client.memo.put m.key sent input.now), .returned sent.decision)
  | .returned decision => (s, .returned decision)
  | .loginStart u p => (s.clearMemo, .loginCleared u p)
  | .loginCleared u p =>
      match dumpText env (loginBody env u p) with
      | .error _ => (s, .done)
      | .ok _ => ((exchangeCookies input s).2, afterLogin env (exchangeCookies input s).1)
  | .loginAnswered user orgId =>
      ({ s with client := (s.client.adoptUser user).adoptOrg orgId }, .done)
  | .refreshStart =>
      let out := exchangeRefresh env input s
      (out.2, if out.1 then .refreshExchanged else .done)
  | .refreshExchanged => (s.clearMemo, .done)
  | .logoutStart => (s.clearMemo, .logoutCleared)
  | .logoutCleared => ((exchangeCookies input s).2, afterLogout env (exchangeCookies input s).1)
  | .logoutAnswered => ({ s with client := s.client.signOut }, .done)
  | .actingTenant t =>
      if looksLikeUuid t = true ∧ actingGate s.client.loginUserInfo t = .ok () then
        ({ s with client := { s.client with actingTenantId := some t } }, .done)
      else (s, .done)
  | .clearActingTenant => ({ s with client := { s.client with actingTenantId := none } }, .done)
  | .done => (s, .done)

end

/-- The client and its threads. -/
structure World (κ : Type) where
  shared : Shared κ
  threads : Nat → Thread κ

/-- One section of the thread whose turn it is. -/
def World.turn {κ : Type} (env : Env) (w : World κ) (input : Input κ) : World κ :=
  let next := advance env input w.shared (w.threads input.thread)
  ⟨next.1, Function.update w.threads input.thread next.2⟩

def Interleave {κ : Type} (env : Env) (w : World κ) (input : Input κ) (v : World κ) : Prop :=
  v = w.turn env input

/-- The start of a call. -/
def Thread.atStart {κ : Type} : Thread κ → Bool
  | .checkStart _ | .loginStart _ _ | .refreshStart | .logoutStart | .actingTenant _
  | .clearActingTenant => true
  | _ => false

/-- Every thread at the start of a call, and nothing memoized yet. -/
structure World.Initial {κ : Type} (w : World κ) : Prop where
  threads : ∀ j, (w.threads j).atStart = true
  memo : ∀ k, w.shared.client.memo.entries k = none
  acting : ActingOk w.shared.client.actingTenantId

end Axiam.Client
