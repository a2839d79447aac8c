import Axiam.Core.Backoff
import Axiam.Lib.Record
import Axiam.Lib.Retry
import Axiam.Management.Answers

/-!
# The retried requests, as they are told

`execute_retrying` (`src/client_impl.hpp`) and `management::Transport::send`
(`src/management_transport.cpp`) with their waits and the telemetry around each attempt.  Both run
over the client's state with a log beside it; taking the log away leaves the two programs the rest
of the development is about.
-/

namespace Axiam.Retry

open Axiam.Lib Axiam.Lib.Prog Axiam.Client Axiam.Management

/-- `Outcome`. -/
inductive Outcome where
  | success
  | failure
  deriving DecidableEq

/-- `RefreshRole`. -/
inductive RefreshRole where
  | leader
  | follower
  deriving DecidableEq

/-- `TelemetryEvent`: what an operation that sends requests may emit. -/
inductive TelemetryEvent where
  | requestStart (operation method pathTemplate : Str) (attempt : Nat)
  | requestEnd (operation method pathTemplate : Str) (attempt : Nat) (status : Option Int)
      (durationMs : Int) (outcome : Outcome)
  | retry (operation : Str) (attempt : Nat) (delayMs : Int) (reason : Str)
  | refresh (role : RefreshRole) (durationMs : Int)
  deriving DecidableEq

/-- What an operation does that is told: it waits, it sends, it emits an event. -/
inductive Entry where
  | moment (m : Moment Answer)
  | event (e : TelemetryEvent)
  deriving DecidableEq

/-- The clocks and the jitter of the retries, and the telemetry hook, which may throw. -/
structure RetryEnv where
  client : Env
  telemetry : Option (TelemetryEvent → Except Exc Unit) := none
  /-- What the jitter leaves of a backoff. -/
  jittered : Nat → Int → Int
  /-- The wall clock, in seconds. -/
  nowSeconds : Nat → Int
  /-- The steady clock, in milliseconds. -/
  steadyMs : Nat → Int
  /-- An HTTP date, in seconds: `strptime` and `timegm`. -/
  httpDate : Str → Option Int

/-- A program of a client whose doings are logged. -/
abbrev Told (α : Type) : Type := Prog (Recorded Impl Entry) Exc α

section

variable (env : RetryEnv)

/-- `emit`: what the hook throws is swallowed. -/
def emit (event : TelemetryEvent) : Told Unit :=
  match env.telemetry with
  | none => pure ()
  | some hook => do
      record (.event event)
      tryCatch (Prog.lift (hook event)) fun _ => pure ()

/-- `send_raw`. -/
def sendTold (req : HttpRequest) : Told HttpResponse := do
  let r ← Prog.read
  record (.moment (.sent (env.client.transport r.state.sent req)))
  recorded (sendRaw env.client req)

/-- `sleeper`. -/
def sleepTold (ms : Int) : Told Unit := record (.moment (.slept ms))

/-- `catch (const NetworkError&)`: the error is kept and not thrown. -/
def keepTold (m : Told HttpResponse) : Told (Except Exc HttpResponse) :=
  tryCatch
    (do
      let resp ← m
      pure (.ok resp))
    fun e => if e.isNetwork then pure (.error e) else throw e

/-- Whether an attempt returned a usable response. -/
def outcomeOf (outcome : Except Exc HttpResponse) : Outcome :=
  match outcome with
  | .ok resp => if resp.isSuccess then .success else .failure
  | .error _ => .failure

/-- The reason a retry gives. -/
def reasonOf (outcome : Except Exc HttpResponse) : Str :=
  match statusOf outcome with
  | some status => str "HTTP " ++ toStr status
  | none => "transport failure"

/-- The `Retry-After` of an attempt; the wall clock is read only when there is one. -/
def hintAfter (outcome : Except Exc HttpResponse) : Told (Option Int) :=
  match outcome with
  | .error _ => pure none
  | .ok resp =>
      match resp.headers.find? "Retry-After" with
      | none => pure none
      | some hint => do
          let now ← tick env.nowSeconds
          pure (retryAfterFromHeader env.httpDate hint now)

/-- The wait before the next attempt. -/
def waitAfter (attempt : Nat) (outcome : Except Exc HttpResponse) : Told Int := do
  let hint ← hintAfter env outcome
  let jittered ← tick env.jittered
  pure (retryDelay (jittered (retryBackoff attempt)) hint)

/-- One attempt between its two events. -/
def attemptTold (operation method template : Str) (sendOnce : Told HttpResponse) (attempt : Nat) :
    Told (Except Exc HttpResponse) := do
  emit env (.requestStart operation method template attempt)
  let started ← tick env.steadyMs
  let outcome ← keepTold sendOnce
  let ended ← tick env.steadyMs
  emit env (.requestEnd operation method template attempt (statusOf outcome) (ended - started)
    (outcomeOf outcome))
  pure outcome

/-- The loop the two functions share: attempts with as many retries as are left, and what the last
attempt is settled to. -/
def attempting {α : Type} (operation method template : Str) (sendOnce : Told HttpResponse)
    (settle : Nat → Except Exc HttpResponse → Told α) : Nat → Nat → Told α
  | 0, attempt => do
      let outcome ← attemptTold env operation method template sendOnce attempt
      settle attempt outcome
  | retries + 1, attempt => do
      let outcome ← attemptTold env operation method template sendOnce attempt
      if retryShouldRetry (statusOf outcome) then do
        let wait ← waitAfter env attempt outcome
        emit env (.retry operation attempt wait (reasonOf outcome))
        sleepTold wait
        attempting operation method template sendOnce settle retries (attempt + 1)
      else settle attempt outcome

/-! ## `execute_retrying` -/

/-- `do_single_flight_refresh`, alone. -/
def refreshTold : Told Unit := do
  let started ← tick env.steadyMs
  let before ← Prog.read
  let _ ← recorded (doSingleFlightRefresh env.client)
  let after ← Prog.read
  let ended ← tick env.steadyMs
  emit env (.refresh
    (if before.state.refreshCount < after.state.refreshCount then .leader else .follower)
    (ended - started))

/-- The request once more, after a refresh: outside any `try`. -/
def resendTold (operation path body : Str) (attempt : Nat) : Told HttpResponse := do
  emit env (.requestStart operation "POST" path attempt)
  let started ← tick env.steadyMs
  let r ← Prog.read
  let retried ← sendTold env (buildRequest env.client r.state "POST" path body)
  let ended ← tick env.steadyMs
  emit env (.requestEnd operation "POST" path attempt (some retried.status) (ended - started)
    (outcomeOf (.ok retried)))
  recorded (orRaise env.client retried)

/-- What the last attempt comes to. -/
def settleAccess (operation path body : Str) (attempt : Nat) :
    Except Exc HttpResponse → Told HttpResponse
  | .error e => throw e
  | .ok resp =>
      if resp.isSuccess then pure resp
      else do
        let r ← Prog.read
        if resp.status = 401 ∧ r.state.refreshable = true then do
          refreshTold env
          resendTold env operation path body (attempt + 1)
        else throw (raiseForStatus env.client.parse resp)

/-- The request of one attempt. -/
def sendAccess (path body : Str) : Told HttpResponse := do
  let r ← Prog.read
  sendTold env { buildRequest env.client r.state "POST" path body with replayable := true }

/-- `execute_retrying`. -/
def executeRetrying (operation path body : Str) : Told HttpResponse :=
  attempting env operation "POST" path (sendAccess env path body)
    (settleAccess env operation path body) (readRetries env.client) 1

/-! ## `Transport::send` -/

/-- The request of one attempt. -/
def sendManaged (method path payload : Str) : Told HttpResponse := do
  let r ← Prog.read
  sendTold env (buildRequest env.client r.state method path payload)

/-- The attempts of `send`. -/
def sendAttempts (operation method template path payload : Str) : Told Json :=
  attempting env operation method template (sendManaged env method path payload)
    (fun _ outcome => Prog.lift (settle env.client operation outcome)) (retriesOf env.client method) 1

/-- `Transport::send`: the events carry the template, never the path. -/
def send (operation method template : Str) (values : List (Str × Str))
    (query : List (Str × Option Str)) (body : Option Json) : Told Json := do
  recorded ensureOpen
  recorded (sessionCheck operation)
  let payload ← Prog.lift (payloadOf env.client body)
  sendAttempts env operation method template (withQuery (substitute template values) query) payload

end

/-! ## What is left without the log -/

section

variable (env : RetryEnv)

theorem emit_silent (event : TelemetryEvent) : Silent (emit env event) := by
  unfold emit
  split
  · exact Silent.ret ()
  · rename_i hook _
    refine (record_silent _).bind fun _ => ?_
    intro r
    cases h : hook event with
    | ok _ => exact ⟨(), r, rfl, rfl⟩
    | error _ => exact ⟨(), r, rfl, rfl⟩

theorem waitAfter_silent (attempt : Nat) (outcome : Except Exc HttpResponse) :
    Silent (waitAfter env attempt outcome) := by
  have hhint : Silent (hintAfter env outcome) := by
    unfold hintAfter
    split
    · exact Silent.ret _
    · split
      · exact Silent.ret _
      · exact (tick_silent _).bind fun _ => Silent.ret _
  exact hhint.bind fun _ => (tick_silent _).bind fun _ => Silent.ret _

theorem sendTold_erases (req : HttpRequest) :
    Erases (sendTold env req) (sendRaw env.client req) := by
  refine Erases.bind_silent read_silent fun r => ?_
  exact Erases.bind_silent (record_silent _) fun _ => Erases.recorded _

theorem keepTold_erases {m : Told HttpResponse} {n : Prog Impl Exc HttpResponse}
    (h : Erases m n) : Erases (keepTold m) (keepNetworkError n) :=
  Erases.tryCatch (h.bind fun _ => Erases.ret _) fun _ =>
    Erases.ite (Erases.ret _) (Erases.raise _)

theorem attemptTold_erases (operation method template : Str) {sendOnce : Told HttpResponse}
    {n : Prog Impl Exc HttpResponse} (h : Erases sendOnce n) (attempt : Nat) :
    Erases (attemptTold env operation method template sendOnce attempt) (keepNetworkError n) := by
  have hbare : keepNetworkError n = keepNetworkError n >>= pure := by
    funext s
    rw [bind_run]
    rcases keepNetworkError n s with ⟨_ | _, _⟩ <;> rfl
  rw [hbare]
  refine Erases.bind_silent (emit_silent env _) fun _ => Erases.bind_silent (tick_silent _) fun _ => ?_
  refine (keepTold_erases h).bind fun outcome => ?_
  exact Erases.bind_silent (tick_silent _) fun _ =>
    Erases.bind_silent (emit_silent env _) fun _ => Erases.ret _

theorem refreshTold_erases : Erases (refreshTold env)
    (doSingleFlightRefresh env.client >>= fun _ => pure ()) := by
  refine Erases.bind_silent (tick_silent _) fun _ => Erases.bind_silent read_silent fun before => ?_
  refine (Erases.recorded _).bind fun _ => Erases.of_silent ?_
  exact read_silent.bind fun after => (tick_silent _).bind fun ended => emit_silent env _

theorem resendTold_erases (operation path body : Str) (attempt : Nat) :
    Erases (resendTold env operation path body attempt)
      (sendBuilt env.client "POST" path body >>= orRaise env.client) := by
  unfold resendTold sendBuilt
  refine Erases.congr (n := Prog.read >>= fun s =>
    sendRaw env.client (buildRequest env.client s "POST" path body) >>= orRaise env.client) ?_
    fun s => (bind_assoc_run s _ _ _).symm
  refine Erases.bind_silent (emit_silent env _) fun _ => Erases.bind_silent (tick_silent _) fun _ => ?_
  refine Erases.bind_read fun r => (sendTold_erases env _).bind fun retried => ?_
  exact Erases.bind_silent (tick_silent _) fun _ =>
    Erases.bind_silent (emit_silent env _) fun _ => Erases.recorded _

theorem settleAccess_erases (operation path body : Str) (attempt : Nat)
    (outcome : Except Exc HttpResponse) :
    Erases (settleAccess env operation path body attempt outcome)
      (Client.executeRetrying.settle env.client path body outcome) := by
  cases outcome with
  | error e => exact Erases.raise e
  | ok resp =>
      refine Erases.ite (Erases.ret _) (Erases.bind_read fun r => Erases.ite ?_ (Erases.raise _))
      refine Erases.congr ((refreshTold_erases env).bind fun _ =>
        resendTold_erases env operation path body (attempt + 1)) fun s => ?_
      rw [bind_assoc_run]
      rfl

/-- The shared loop, without its log: attempts that are tried again, and their settlement. -/
theorem attempting_erases {α : Type} {operation method template : Str}
    {sendOnce : Told HttpResponse} {n : Prog Impl Exc HttpResponse} (hsend : Erases sendOnce n)
    {settle : Nat → Except Exc HttpResponse → Told α} {l : Except Exc HttpResponse → Prog Impl Exc α}
    (hsettle : ∀ attempt outcome, Erases (settle attempt outcome) (l outcome))
    (loop : Nat → Prog Impl Exc α) (hzero : loop 0 = keepNetworkError n >>= l)
    (hsucc : ∀ retries, loop (retries + 1) = keepNetworkError n >>= fun outcome =>
      if retryShouldRetry (statusOf outcome) then loop retries else l outcome)
    (retries attempt : Nat) :
    Erases (attempting env operation method template sendOnce settle retries attempt)
      (loop retries) := by
  have hattempt := attemptTold_erases env operation method template hsend
  induction retries generalizing attempt with
  | zero =>
      rw [hzero]
      exact (hattempt attempt).bind (hsettle attempt)
  | succ retries ih =>
      rw [hsucc]
      refine (hattempt attempt).bind fun outcome => Erases.ite ?_ (hsettle attempt outcome)
      refine Erases.bind_silent (waitAfter_silent env attempt outcome) fun wait => ?_
      exact Erases.bind_silent (emit_silent env _) fun _ =>
        Erases.bind_silent (record_silent _) fun _ => ih (attempt + 1)

/-- Without its log, `execute_retrying` is the program of the client's model. -/
theorem executeRetrying_erases (operation path body : Str) :
    Erases (executeRetrying env operation path body)
      (Client.executeRetrying env.client path body (readRetries env.client)) := by
  have hsend : Erases (sendAccess env path body) (do
      let s ← Prog.read
      sendRaw env.client { buildRequest env.client s "POST" path body with replayable := true }) :=
    Erases.bind_read fun r => sendTold_erases env _
  exact attempting_erases env hsend (settleAccess_erases env operation path body)
    (Client.executeRetrying env.client path body) rfl (fun _ => rfl) _ 1

/-- And so is `Transport::send`. -/
theorem send_erases (operation method template : Str) (values : List (Str × Str))
    (query : List (Str × Option Str)) (body : Option Json) :
    Erases (send env operation method template values query body)
      (Management.send env.client operation method template values query body) := by
  refine (Erases.recorded _).bind fun _ => (Erases.recorded _).bind fun _ =>
    (Erases.lift _).bind fun payload => ?_
  generalize hpath : withQuery (substitute template values) query = path
  have hsend : Erases (sendManaged env method path payload)
      (sendBuilt env.client method path payload) :=
    Erases.bind_read fun r => sendTold_erases env _
  have hsettle : ∀ (attempt : Nat) outcome,
      Erases (Prog.lift (settle env.client operation outcome) : Told Json)
        (Prog.lift (settle env.client operation outcome)) := fun _ _ => Erases.lift _
  exact attempting_erases env hsend hsettle
    (Management.sendAttempts env.client operation method path payload) rfl (fun _ => rfl) _ 1

end

end Axiam.Retry
