import Axiam.Client.Impl

/-!
# The management transport

`management::Transport::send` (`src/management_transport.cpp`), the one path every management
operation takes: a local session check, the request, and its answer as JSON.
-/

namespace Axiam.Management

open Axiam.Lib Axiam.Client

/-- `substitute`: each value at the first placeholder of its name. -/
def substitute (template : Str) (values : List (Str × Str)) : Str :=
  values.foldl (fun path v =>
    match cutAt (str "\x7b" ++ v.1 ++ "\x7d") path with
    | some (before, after) => before ++ urlEncode v.2 ++ after
    | none => path) template

/-- `with_query`: an unset parameter is omitted. -/
def withQuery (path : Str) (query : List (Str × Option Str)) : Str :=
  match query.filterMap fun q => q.2.map fun v => q.1 ++ "=" ++ urlEncode v with
  | [] => path
  | first :: rest => path ++ "?" ++ first ++ rest.flatMap fun q => str "&" ++ q

section

variable (env : Env)

/-- The session check: a cookie session or a device credential. -/
def sessionCheck (operation : Str) : Prog Impl Exc Unit := do
  let s ← Prog.read
  if s.hasSession then pure ()
  else throw (.auth (operation ++ str ": no active session -- management operations require an " ++
    "authenticated caller (CONTRACT.md §27.4 rule 1)"))

/-- The JSON of a `2xx`. -/
def readBody (operation : Str) (resp : HttpResponse) : Except Exc Json :=
  if resp.status = 204 ∨ resp.body = [] then .ok .null
  else match env.parse resp.body with
    | some j => .ok j
    | none =>
        let what := operation ++ str ": expected a JSON object or array in the response body"
        .error (.network what what)

/-- What the last attempt comes to. -/
def settle (operation : Str) : Except Exc HttpResponse → Except Exc Json
  | .error e => .error e
  | .ok resp =>
      if resp.isSuccess then readBody env operation resp
      else .error (raiseManagementStatus env.parse operation resp)

/-- The attempts of `send`, with as many retries as are left. -/
def sendAttempts (operation method path payload : Str) : Nat → Prog Impl Exc Json
  | 0 => do
      let outcome ← keepNetworkError (sendBuilt env method path payload)
      Prog.lift (settle env operation outcome)
  | retries + 1 => do
      let outcome ← keepNetworkError (sendBuilt env method path payload)
      if retryShouldRetry (statusOf outcome) then
        sendAttempts operation method path payload retries
      else Prog.lift (settle env operation outcome)

/-- Only a `GET` is ever sent again. -/
def retriesOf (method : Str) : Nat := if method = "GET" then readRetries env else 0

def payloadOf (body : Option Json) : Except Exc Str :=
  match body with
  | some j => dumpText env j
  | none => .ok []

/-- `Transport::send`. -/
def send (operation method template : Str) (values : List (Str × Str))
    (query : List (Str × Option Str)) (body : Option Json) : Prog Impl Exc Json := do
  ensureOpen
  sessionCheck operation
  let payload ← Prog.lift (payloadOf env body)
  sendAttempts env operation method (withQuery (substitute template values) query) payload
    (retriesOf env method)

end

/-- A caller who holds a session or a device credential passes the check, and nobody else. -/
theorem sessionCheck_ok_iff (operation : Str) (s : Impl) :
    (sessionCheck operation s).1 = .ok () ↔ s.hasSession = true := by
  unfold sessionCheck
  rw [Prog.bind_run, Prog.read_run]
  simp only
  by_cases h : s.hasSession = true
  · rw [if_pos h]
    exact ⟨fun _ => h, fun _ => rfl⟩
  · rw [if_neg h]
    exact ⟨fun hrun => (nomatch hrun), fun hs => absurd hs h⟩

section

variable (env : Env) {τ : Type} {f : Impl → τ} (hf : Untouched f)

open Prog

theorem sessionCheck_keeps (operation : Str) : Keeps f (sessionCheck operation) :=
  Keeps.bind Keeps.read fun _ => Keeps.ite (Keeps.ret _) (Keeps.raise _)

include hf

theorem sendAttempts_keeps (operation method path payload : Str) (retries : Nat) :
    Keeps f (sendAttempts env operation method path payload retries) := by
  have hattempt := keepNetworkError_keeps (sendBuilt_keeps env hf method path payload)
  induction retries with
  | zero => exact Keeps.bind hattempt fun _ => Keeps.lift _
  | succ retries ih => exact Keeps.bind hattempt fun _ => Keeps.ite ih (Keeps.lift _)

theorem send_keeps (operation method template : Str) (values : List (Str × Str))
    (query : List (Str × Option Str)) (body : Option Json) :
    Keeps f (send env operation method template values query body) :=
  Keeps.bind ensureOpen_keeps fun _ => Keeps.bind (sessionCheck_keeps operation) fun _ =>
    Keeps.bind (Keeps.lift _) fun _ => sendAttempts_keeps env hf _ _ _ _ _

end

end Axiam.Management
