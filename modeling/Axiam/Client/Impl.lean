import Axiam.Core.Base64
import Axiam.Core.Status
import Axiam.Lib.Prog
import Axiam.Memo.DecisionMemo

/-!
# The client's state and its requests

`Client::Impl` (`src/client_impl.hpp`): what a client holds of its session, how it builds a
request from that, and the four ways it sends one.  A client talks to a transport that may
look at everything it was handed before, and answers or throws.
-/

namespace Axiam.Client

open Axiam.Lib Axiam.Memo

/-- What the login response says about the principal. -/
structure UserInfo where
  id : Str
  username : Str
  email : Str
  tenantId : Str
  orgSlug : Option Str
  tenantSlug : Option Str
  organizationLevel : Bool
  principalTenantId : Str
  principalTenantSlug : Option Str
  orgId : Option Str
  reachableTenantIds : Option (List Str)
  deriving DecidableEq

/-- The key-stretching function and cost a server named. -/
structure OpaqueKsfParams where
  ksf : Str
  memoryKib : Option Nat
  iterations : Option Nat
  parallelism : Option Nat
  logN : Option Nat
  r : Option Nat
  p : Option Nat
  deriving DecidableEq

/-- What the client was built with, and the functions it calls that are not its own. -/
structure Env where
  baseUrl : Str
  tenantSlug : Option Str := none
  tenantId : Option Str := none
  orgSlug : Option Str := none
  orgId : Option Str := none
  tenantHeader : Str
  presentsClientCertificate : Bool := false
  retryEnabled : Bool := true
  parse : Parser
  /-- `dump` of a value whose strings are UTF-8. -/
  dump : Json → Str
  transport : List HttpRequest → HttpRequest → Answer
  clock : Nat → Int
  /-- The native OPAQUE library: `KE1` for a password, or what it throws. -/
  opaqueStart : List HttpRequest → Str → Except Exc Str
  /-- `KE3` for a password, a `KE2` and the cost named, or what it throws. -/
  opaqueFinish : List HttpRequest → Str → Str → OpaqueKsfParams → Except Exc Str

/-- The mutable part of `Client::Impl`; `δ` is what its memo holds. -/
structure Impl (δ : Type := AccessDecision) where
  csrf : Str := []
  session : Bool := false
  resolvedTenantId : Option Str := none
  resolvedOrgId : Option Str := none
  actingTenantId : Option Str := none
  loginUserInfo : Option UserInfo := none
  deviceAccessToken : Str := []
  deviceSession : Bool := false
  principalTenantId : Option Str := none
  refreshCount : Nat := 0
  memo : DecisionMemo δ := .build 0
  closed : Bool := false
  /-- What the transport was handed, oldest first. -/
  sent : List HttpRequest := []
  /-- How often the clock was read. -/
  ticks : Nat := 0

section

variable {δ : Type}

/-- `has_session`. -/
def Impl.hasSession (s : Impl δ) : Bool := s.session || s.deviceSession

/-- What gates the refresh on a `401`. -/
def Impl.refreshable (s : Impl δ) : Bool := s.session && !s.deviceSession

/-- `release_device_credential_locked`. -/
def Impl.releaseDeviceCredential (s : Impl δ) : Impl δ :=
  { s with deviceAccessToken := [], deviceSession := false }

/-- The bearer a device credential is presented as. -/
def Impl.bearer (s : Impl δ) : Option Str :=
  if s.deviceAccessToken = [] then none else some (str "Bearer " ++ s.deviceAccessToken)

end

def isStateChanging (method : Str) : Bool :=
  method == str "POST" || method == str "PUT" || method == str "PATCH" || method == str "DELETE"

section

variable (env : Env)

/-- `dump()`, which throws on a string that is not UTF-8. -/
def dumpText (j : Json) : Except Exc Str :=
  if j.dumpable then .ok (env.dump j) else .error (.json .invalidUtf8)

/-- A header that is sent only when there is something to send. -/
def header (name : Str) (value : Option Str) : HeaderMap :=
  match value with
  | some v => [(name, v)]
  | none => []

/-- `build_request`. -/
def buildRequest {δ : Type} (s : Impl δ) (method path body : Str) : HttpRequest where
  method := method
  url := env.baseUrl ++ path
  headers :=
    header "Accept" (some "application/json") ++
      header "Authorization" s.bearer ++
      header "Content-Type" (if body = [] then none else some (str "application/json")) ++
      header "X-Axiam-Tenant" s.actingTenantId ++
      header "X-CSRF-Token"
        (if isStateChanging method ∧ s.csrf ≠ [] then some s.csrf else none) ++
      [(str "X-Tenant-ID", env.tenantHeader)]
  body := body
  noStoredCookies := s.deviceAccessToken ≠ []

theorem find?_header_ne {name other : Str} (value : Option Str) (rest : HeaderMap)
    (hne : (lower other == lower name) = false) :
    HeaderMap.find? (header other value ++ rest) name = rest.find? name := by
  cases value with
  | none => rfl
  | some v =>
      unfold HeaderMap.find? header
      rw [List.singleton_append, List.find?_cons, hne]

theorem find?_header {name : Str} (value : Option Str) {rest : HeaderMap}
    (hrest : rest.find? name = none) :
    HeaderMap.find? (header name value ++ rest) name = value := by
  cases value with
  | none => exact hrest
  | some v =>
      unfold HeaderMap.find? header
      rw [List.singleton_append, List.find?_cons, beq_self_eq_true]
      rfl

section

variable {δ : Type} (s : Impl δ) (method path body : Str)

/-- A request carries the bearer the client had when it was built. -/
theorem buildRequest_authorization :
    (buildRequest env s method path body).headers.find? "Authorization" = s.bearer := by
  unfold buildRequest
  simp only [List.append_assoc]
  rw [find?_header_ne _ _ (by decide)]
  apply find?_header
  rw [find?_header_ne _ _ (by decide), find?_header_ne _ _ (by decide),
    find?_header_ne _ _ (by decide)]
  rfl

/-- And its acting tenant. -/
theorem buildRequest_acting :
    (buildRequest env s method path body).headers.find? "X-Axiam-Tenant" = s.actingTenantId := by
  unfold buildRequest
  simp only [List.append_assoc]
  rw [find?_header_ne _ _ (by decide), find?_header_ne _ _ (by decide),
    find?_header_ne _ _ (by decide)]
  apply find?_header
  rw [find?_header_ne _ _ (by decide)]
  rfl

end

/-- Hand a request to the transport. -/
def transport (req : HttpRequest) : Prog Impl Exc HttpResponse := fun s =>
  (env.transport s.sent req, { s with sent := s.sent ++ [req] })

def now : Prog Impl Exc Int := fun s =>
  (.ok (env.clock s.ticks), { s with ticks := s.ticks + 1 })

def closedError : Exc := .network "client is closed (CONTRACT.md §18.1 rule 4)" "closed"

/-- `ensure_open`. -/
def ensureOpen : Prog Impl Exc Unit := do
  let s ← Prog.read
  if s.closed then throw closedError else pure ()

/-- `capture_csrf`: a token that is empty is no token. -/
def Impl.capture {δ : Type} (s : Impl δ) (resp : HttpResponse) : Impl δ :=
  match resp.headers.find? "X-CSRF-Token" with
  | some token => if token = [] then s else { s with csrf := token }
  | none => s

def captureCsrf (resp : HttpResponse) : Prog Impl Exc Unit := Prog.modify fun s => s.capture resp

/-- A response, or the `NetworkError` of an exchange that did not complete. -/
def delivered (resp : HttpResponse) : Except Exc HttpResponse :=
  if resp.transportError = [] then .ok resp
  else .error (.network (str "transport failure: " ++ resp.transportError) resp.transportError)

/-- `send_raw`. -/
def sendRaw (req : HttpRequest) : Prog Impl Exc HttpResponse := do
  let resp ← transport env req
  let resp ← Prog.lift (delivered resp)
  captureCsrf resp
  pure resp

/-- A request built from the state and sent. -/
def sendBuilt (method path body : Str) : Prog Impl Exc HttpResponse := do
  let s ← Prog.read
  sendRaw env (buildRequest env s method path body)

/-- A response that is no `2xx` raises its status. -/
def orRaise (resp : HttpResponse) : Prog Impl Exc HttpResponse :=
  if resp.isSuccess then pure resp else throw (raiseForStatus env.parse resp)

def clearMemo : Prog Impl Exc Unit := Prog.modify fun s => { s with memo := s.memo.clear }

/-- The body of a refresh. -/
def refreshBody {δ : Type} (s : Impl δ) : Json :=
  .object [("org_id", .string (s.resolvedOrgId.getD (env.orgId.getD []))),
    ("tenant_id", .string (s.resolvedTenantId.getD (env.tenantId.getD [])))]

/-- `perform_refresh`: the `expires_in` of the new pair. -/
def performRefresh : Prog Impl Exc Int := do
  Prog.modify fun s => { s with refreshCount := s.refreshCount + 1 }
  let s ← Prog.read
  let body ← Prog.lift (dumpText env (refreshBody env s))
  let resp ← sendBuilt env "POST" "/api/v1/auth/refresh" body
  if resp.isSuccess then
    pure (((env.parse resp.body).bind fun j => (j.find? "expires_in").bind Json.int64?).getD 0)
  else throw (.auth (str "token refresh failed (" ++ toStr resp.status ++ ")"))

/-- `do_single_flight_refresh`, alone: the memo is cleared once the exchange returned. -/
def doSingleFlightRefresh : Prog Impl Exc Int := do
  let expiresIn ← performRefresh env
  clearMemo
  pure expiresIn

/-- The refresh on a `401`, and the request once more. -/
def refreshAndRetry (method path body : Str) : Prog Impl Exc HttpResponse := do
  let _ ← doSingleFlightRefresh env
  let retried ← sendBuilt env method path body
  orRaise env retried

/-- `execute`. -/
def execute (method path body : Str) (allowRefresh : Bool) : Prog Impl Exc HttpResponse := do
  let resp ← sendBuilt env method path body
  if resp.isSuccess then pure resp
  else do
    let s ← Prog.read
    if resp.status = 401 ∧ allowRefresh = true ∧ s.refreshable = true then
      refreshAndRetry env method path body
    else throw (raiseForStatus env.parse resp)

/-- `catch (const NetworkError&)` around one attempt: the error is kept and not thrown. -/
def keepNetworkError (m : Prog Impl Exc HttpResponse) : Prog Impl Exc (Except Exc HttpResponse) :=
  tryCatch
    (do
      let resp ← m
      pure (.ok resp))
    fun e => if e.isNetwork then pure (.error e) else throw e

/-- One attempt of a retried request. -/
def attempt (method path body : Str) : Prog Impl Exc (Except Exc HttpResponse) :=
  keepNetworkError (do
    let s ← Prog.read
    sendRaw env { buildRequest env s method path body with replayable := true })

/-- The status of an attempt, none when no response arrived. -/
def statusOf : Except Exc HttpResponse → Option Int
  | .ok resp => some resp.status
  | .error _ => none

/-- `execute_retrying`, with as many retries as are left. -/
def executeRetrying (path body : Str) : Nat → Prog Impl Exc HttpResponse
  | 0 => do
      let outcome ← attempt env "POST" path body
      settle outcome
  | retries + 1 => do
      let outcome ← attempt env "POST" path body
      if retryShouldRetry (statusOf outcome) then executeRetrying path body retries
      else settle outcome
where
  /-- What the last attempt comes to. -/
  settle : Except Exc HttpResponse → Prog Impl Exc HttpResponse
    | .error e => throw e
    | .ok resp =>
        if resp.isSuccess then pure resp
        else do
          let s ← Prog.read
          if resp.status = 401 ∧ s.refreshable = true then refreshAndRetry env "POST" path body
          else throw (raiseForStatus env.parse resp)

/-- The retries of a read, after the first attempt. -/
def readRetries : Nat := if env.retryEnabled then kRetryMaxAttempts - 1 else 0

end

/-! ## How sending comes out -/

theorem ensureOpen_run_closed {s : Impl} (h : s.closed = true) :
    ensureOpen s = (.error closedError, s) := by
  unfold ensureOpen
  rw [Prog.bind_run, Prog.read_run]
  simp only
  rw [if_pos h, Prog.throw_run]

theorem ensureOpen_run_open {s : Impl} (h : s.closed = false) : ensureOpen s = (.ok (), s) := by
  unfold ensureOpen
  rw [Prog.bind_run, Prog.read_run]
  simp only
  rw [h, if_neg Bool.false_ne_true, Prog.pure_run]

theorem clearMemo_run (s : Impl) : clearMemo s = (.ok (), { s with memo := s.memo.clear }) := rfl

section

variable {env : Env} {req : HttpRequest} {s : Impl}

theorem transport_run {answer : Answer} (h : env.transport s.sent req = answer) :
    transport env req s = (answer, { s with sent := s.sent ++ [req] }) := by
  unfold transport
  rw [h]

/-- An exception of the transport passes through. -/
theorem sendRaw_run_error {e : Exc} (h : env.transport s.sent req = .error e) :
    ∃ t, sendRaw env req s = (.error e, t) :=
  ⟨_, Prog.bind_run_error (transport_run h) _⟩

/-- A failed exchange is a `NetworkError`. -/
theorem sendRaw_run_failed {resp : HttpResponse} (h : env.transport s.sent req = .ok resp)
    (hfailed : resp.transportError ≠ []) : ∃ t, sendRaw env req s =
      (.error (.network (str "transport failure: " ++ resp.transportError) resp.transportError),
        t) := by
  refine ⟨{ s with sent := s.sent ++ [req] }, ?_⟩
  unfold sendRaw delivered
  rw [Prog.bind_run_ok (transport_run h), if_neg hfailed, Prog.bind_run, Prog.lift_run]

/-- A completed exchange is its response. -/
theorem sendRaw_run_ok {resp : HttpResponse} (h : env.transport s.sent req = .ok resp)
    (hok : resp.transportError = []) : ∃ t, sendRaw env req s = (.ok resp, t) := by
  refine ⟨Impl.capture { s with sent := s.sent ++ [req] } resp, ?_⟩
  unfold sendRaw delivered
  rw [Prog.bind_run_ok (transport_run h), if_pos hok, Prog.bind_run, Prog.lift_run]
  rfl

section

variable {method path body : Str} {resp : HttpResponse} {t : Impl}
  (hsent : sendBuilt env method path body s = (.ok resp, t))
include hsent

theorem execute_run_success (hsuccess : resp.isSuccess = true) (allowRefresh : Bool) :
    execute env method path body allowRefresh s = (.ok resp, t) := by
  unfold execute
  rw [Prog.bind_run_ok hsent, if_pos hsuccess, Prog.pure_run]

/-- Without a refresh, any other status is raised. -/
theorem execute_run_refused (hrefused : resp.isSuccess = false) :
    execute env method path body false s = (.error (raiseForStatus env.parse resp), t) := by
  unfold execute
  rw [Prog.bind_run_ok hsent, hrefused, if_neg Bool.false_ne_true, Prog.bind_run, Prog.read_run]
  simp only
  rw [if_neg (fun h => Bool.false_ne_true h.2.1), Prog.throw_run]

end

end

/-! ## What sending leaves alone -/

/-- What a client holds of its session. -/
def Impl.flags (s : Impl) : Bool × Bool := (s.session, s.deviceSession)

section

variable (env : Env) {τ : Type} {f : Impl → τ}

/-- A part of the state that no exchange writes. -/
structure Untouched (f : Impl → τ) : Prop where
  sent : ∀ s sent, f { s with sent := sent } = f s
  csrf : ∀ s csrf, f { s with csrf := csrf } = f s
  memo : ∀ s memo, f { s with memo := memo } = f s
  refreshCount : ∀ s n, f { s with refreshCount := n } = f s
  ticks : ∀ s n, f { s with ticks := n } = f s

theorem flags_untouched : Untouched Impl.flags :=
  ⟨fun _ _ => rfl, fun _ _ => rfl, fun _ _ => rfl, fun _ _ => rfl, fun _ _ => rfl⟩

variable (hf : Untouched f)
include hf

open Prog

theorem transport_keeps (req : HttpRequest) : Keeps f (transport env req) := fun s => hf.sent s _

theorem now_keeps : Keeps f (now env) := fun s => hf.ticks s _

theorem clearMemo_keeps : Keeps f clearMemo := Keeps.modify fun s => hf.memo s _

omit hf in
theorem ensureOpen_keeps : Keeps f ensureOpen :=
  Keeps.bind Keeps.read fun _ => Keeps.ite (Keeps.raise _) (Keeps.ret _)

theorem captureCsrf_keeps (resp : HttpResponse) : Keeps f (captureCsrf resp) := by
  refine Keeps.modify fun s => ?_
  unfold Impl.capture
  split
  · split
    · rfl
    · exact hf.csrf s _
  · rfl

theorem sendRaw_keeps (req : HttpRequest) : Keeps f (sendRaw env req) :=
  Keeps.bind (transport_keeps env hf req) fun _ => Keeps.bind (Keeps.lift _) fun resp =>
    Keeps.bind (captureCsrf_keeps hf resp) fun _ => Keeps.ret _

theorem sendBuilt_keeps (method path body : Str) : Keeps f (sendBuilt env method path body) :=
  Keeps.bind Keeps.read fun _ => sendRaw_keeps env hf _

omit hf in
theorem orRaise_keeps (resp : HttpResponse) : Keeps f (orRaise env resp) :=
  Keeps.ite (Keeps.ret _) (Keeps.raise _)

theorem performRefresh_keeps : Keeps f (performRefresh env) := by
  refine Keeps.bind (Keeps.modify fun s => hf.refreshCount s _) fun _ => ?_
  refine Keeps.bind Keeps.read fun s => Keeps.bind (Keeps.lift _) fun body => ?_
  exact Keeps.bind (sendBuilt_keeps env hf _ _ _) fun _ => Keeps.ite (Keeps.ret _) (Keeps.raise _)

theorem doSingleFlightRefresh_keeps : Keeps f (doSingleFlightRefresh env) :=
  Keeps.bind (performRefresh_keeps env hf) fun _ =>
    Keeps.bind (clearMemo_keeps hf) fun _ => Keeps.ret _

theorem refreshAndRetry_keeps (method path body : Str) :
    Keeps f (refreshAndRetry env method path body) :=
  Keeps.bind (doSingleFlightRefresh_keeps env hf) fun _ =>
    Keeps.bind (sendBuilt_keeps env hf _ _ _) fun _ => orRaise_keeps env _

theorem execute_keeps (method path body : Str) (allowRefresh : Bool) :
    Keeps f (execute env method path body allowRefresh) := by
  refine Keeps.bind (sendBuilt_keeps env hf _ _ _) fun resp => Keeps.ite (Keeps.ret _) ?_
  refine Keeps.bind Keeps.read fun s => Keeps.ite ?_ (Keeps.raise _)
  exact refreshAndRetry_keeps env hf method path body

omit hf in
theorem keepNetworkError_keeps {m : Prog Impl Exc HttpResponse} (hm : Keeps f m) :
    Keeps f (keepNetworkError m) := by
  exact Keeps.tryCatch (Keeps.bind hm fun _ => Keeps.ret _) fun e =>
    Keeps.ite (Keeps.ret _) (Keeps.raise _)

theorem attempt_keeps (method path body : Str) : Keeps f (attempt env method path body) :=
  keepNetworkError_keeps (Keeps.bind Keeps.read fun _ => sendRaw_keeps env hf _)

theorem settle_keeps (path body : Str) (outcome : Except Exc HttpResponse) :
    Keeps f (executeRetrying.settle env path body outcome) := by
  unfold executeRetrying.settle
  split
  · exact Keeps.raise _
  · refine Keeps.ite (Keeps.ret _) (Keeps.bind Keeps.read fun s => Keeps.ite ?_ (Keeps.raise _))
    exact refreshAndRetry_keeps env hf _ path body

theorem executeRetrying_keeps (path body : Str) (retries : Nat) :
    Keeps f (executeRetrying env path body retries) := by
  induction retries with
  | zero =>
      exact Keeps.bind (attempt_keeps env hf _ path body) fun outcome =>
        settle_keeps env hf path body outcome
  | succ retries ih =>
      refine Keeps.bind (attempt_keeps env hf _ path body) fun outcome => Keeps.ite ih ?_
      exact settle_keeps env hf path body outcome

end

end Axiam.Client
