import Axiam.Retry.Telemetry

/-!
# The log of the retried requests

What `execute_retrying` and `Transport::send` write beside the client: each attempt between its two
events, a retry event and a wait between two attempts, and what the last attempt is settled to.
Two things leave an attempt without its second event: an exception of the transport, which no
`catch` of the loops takes, and a failed request after a refresh, which is sent outside any `try`.
-/

namespace Axiam.Retry

open Axiam.Lib Axiam.Lib.Prog Axiam.Client Axiam.Management

/-- What `send_raw` makes of an answer. -/
def received (a : Answer) : Except Exc HttpResponse := a.bind delivered

/-- The moments among some entries. -/
def moments (log : List Entry) : List (Moment Answer) := log.filterMap fun
  | .moment m => some m
  | .event _ => none

/-- The answers to the requests among some entries. -/
def answers (log : List Entry) : List Answer := sends (moments log)

@[simp] theorem moments_nil : moments [] = [] := rfl

@[simp] theorem moments_moment (m : Moment Answer) (rest : List Entry) :
    moments (.moment m :: rest) = m :: moments rest := rfl

@[simp] theorem moments_event (e : TelemetryEvent) (rest : List Entry) :
    moments (.event e :: rest) = moments rest := rfl

@[simp] theorem moments_append (first second : List Entry) :
    moments (first ++ second) = moments first ++ moments second := List.filterMap_append

section

variable (operation method template : Str)

/-- An attempt between its two events. -/
def pair (attempt : Nat) (a : Answer) (outcome : Except Exc HttpResponse) (duration : Int) :
    List Entry :=
  [.event (.requestStart operation method template attempt), .moment (.sent a),
    .event (.requestEnd operation method template attempt (statusOf outcome) duration
      (outcomeOf outcome))]

variable (env : RetryEnv)

/-- The usable `Retry-After` of an attempt at a reading of the wall clock. -/
def usableHint (outcome : Except Exc HttpResponse) (now : Int) : Option Int :=
  match outcome with
  | .ok resp => (resp.headers.find? "Retry-After").bind fun hint =>
      retryAfterFromHeader env.httpDate hint now
  | .error _ => none

/-- A wait `retry_delay` may ask for after an attempt. -/
def WaitAfter (attempt : Nat) (outcome : Except Exc HttpResponse) (w : Int) : Prop :=
  ∃ now tick, w = retryDelay (env.jittered tick (retryBackoff attempt))
    (usableHint env outcome (env.nowSeconds now))

/-- The log of the loop, with `S` what the settlement of the last attempt writes. -/
inductive Attempted {α : Type}
    (S : Nat → Except Exc HttpResponse → List Entry → Except Exc α → Prop) :
    Nat → Nat → List Entry → Except Exc α → Prop
  | thrown {retries attempt : Nat} {a : Answer} {e : Exc} : kept a = .error e →
      Attempted S retries attempt
        [.event (.requestStart operation method template attempt), .moment (.sent a)] (.error e)
  | settled {retries attempt : Nat} {a : Answer} {outcome : Except Exc HttpResponse} {d : Int}
      {more : List Entry} {r : Except Exc α} : kept a = .ok outcome →
      retries = 0 ∨ retryShouldRetry (statusOf outcome) = false → S attempt outcome more r →
      Attempted S retries attempt (pair operation method template attempt a outcome d ++ more) r
  | again {retries attempt : Nat} {a : Answer} {outcome : Except Exc HttpResponse} {d w : Int}
      {rest : List Entry} {r : Except Exc α} : kept a = .ok outcome →
      retryShouldRetry (statusOf outcome) = true → WaitAfter env attempt outcome w →
      Attempted S retries (attempt + 1) rest r →
      Attempted S (retries + 1) attempt (pair operation method template attempt a outcome d ++
        .event (.retry operation attempt w (reasonOf outcome)) :: .moment (.slept w) :: rest) r

end

/-! ## One attempt -/

section

variable {env : RetryEnv} {hook : TelemetryEvent → Except Exc Unit}

theorem emit_writes (htelemetry : env.telemetry = some hook) (event : TelemetryEvent) :
    Writes Recorded.log (emit env event) fun new r => new = [.event event] ∧ r = .ok () := by
  unfold emit
  rw [htelemetry]
  refine (record_writes _).bind (fun _ _ h => nomatch h.2) ?_
  rintro _ _ ⟨rfl, -⟩
  refine .keeps (Keeps.tryCatch (Keeps.lift _) fun _ => Keeps.ret _) fun r => ⟨rfl, ?_⟩
  cases h : hook event with
  | ok _ => rfl
  | error _ => rfl

variable (env) in
theorem sendTold_writes (req : HttpRequest) :
    Writes Recorded.log (sendTold env req) fun new r =>
      ∃ a, new = [.moment (.sent a)] ∧ r = received a := by
  have hraw : ∀ s : Impl, (sendRaw env.client req s).1 = received (env.client.transport s.sent req) := by
    intro s
    cases hanswer : env.client.transport s.sent req with
    | error e =>
        obtain ⟨t, hrun⟩ := sendRaw_run_error hanswer
        rw [hrun]
        rfl
    | ok resp =>
        show _ = delivered resp
        unfold delivered
        by_cases hdelivered : resp.transportError = []
        · obtain ⟨t, hrun⟩ := sendRaw_run_ok hanswer hdelivered
          rw [hrun, if_pos hdelivered]
        · obtain ⟨t, hrun⟩ := sendRaw_run_failed hanswer hdelivered
          rw [hrun, if_neg hdelivered]
  intro r
  exact ⟨[.moment (.sent (env.client.transport r.state.sent req))], rfl, _, rfl, hraw r.state⟩

/-- What an attempt keeps of what it received. -/
theorem kept_eq (a : Answer) : kept a = match received a with
    | .ok resp => .ok (.ok resp)
    | .error e => if e.isNetwork then .ok (.error e) else .error e := by
  cases a with
  | error e => rfl
  | ok resp =>
      show Except.ok (delivered resp) = match delivered resp with
        | .ok resp => .ok (.ok resp)
        | .error e => if e.isNetwork then .ok (.error e) else .error e
      unfold delivered
      by_cases h : resp.transportError = []
      · rw [if_pos h]
      · rw [if_neg h]
        rfl

theorem keepTold_writes {m : Told HttpResponse} (h : Writes Recorded.log m fun new r =>
    ∃ a, new = [.moment (.sent a)] ∧ r = received a) :
    Writes Recorded.log (keepTold m) fun new r =>
      ∃ a, new = [.moment (.sent a)] ∧ r = kept a := by
  have hreturned : Writes Recorded.log (m >>= fun resp => pure (.ok resp)) fun new
      (r : Except Exc (Except Exc HttpResponse)) =>
        ∃ a, new = [.moment (.sent a)] ∧ r = (received a).map .ok := by
    refine h.bind ?_ ?_
    · rintro _ e ⟨a, rfl, he⟩
      exact ⟨a, rfl, by rw [← he]; rfl⟩
    · rintro _ resp ⟨a, rfl, hresp⟩
      exact .ret ⟨a, rfl, by rw [← hresp]; rfl⟩
  refine hreturned.tryCatch ?_ ?_
  · rintro _ outcome ⟨a, rfl, ha⟩
    refine ⟨a, rfl, ?_⟩
    rw [kept_eq]
    cases hreceived : received a with
    | ok resp =>
        rw [hreceived] at ha
        exact ha
    | error e =>
        rw [hreceived] at ha
        cases ha
  · rintro _ e ⟨a, rfl, ha⟩
    cases hreceived : received a with
    | ok resp =>
        rw [hreceived] at ha
        cases ha
    | error e' =>
        rw [hreceived] at ha
        cases ha
        have hkept := kept_eq a
        rw [hreceived] at hkept
        refine Writes.ite (fun hnet => .ret ⟨a, rfl, ?_⟩) fun hnet => .raise ⟨a, rfl, ?_⟩
        · rw [hkept]
          exact (if_pos hnet).symm
        · rw [hkept]
          exact (if_neg hnet).symm

/-- One attempt: its first event and its request, and, unless an exception passes, its second. -/
theorem attemptTold_writes (htelemetry : env.telemetry = some hook) (operation method template : Str)
    {sendOnce : Told HttpResponse} (hsend : Writes Recorded.log sendOnce fun new r =>
      ∃ a, new = [.moment (.sent a)] ∧ r = received a) (attempt : Nat) :
    Writes Recorded.log (attemptTold env operation method template sendOnce attempt) fun new r =>
      ∃ a, (∃ e, kept a = .error e ∧ r = .error e ∧ new =
          [.event (.requestStart operation method template attempt), .moment (.sent a)]) ∨
        ∃ outcome d, kept a = .ok outcome ∧ r = .ok outcome ∧
          new = pair operation method template attempt a outcome d := by
  have hemit := emit_writes htelemetry
  refine (hemit _).bind (fun _ _ h => nomatch h.2) ?_
  rintro _ _ ⟨rfl, -⟩
  refine .bind_keeps (tick_keeps _) (fun _ _ h => nomatch h) fun _ started _ => ?_
  refine (keepTold_writes hsend).bind ?_ ?_
  · rintro _ e ⟨a, rfl, he⟩
    exact ⟨a, .inl ⟨e, he.symm, rfl, rfl⟩⟩
  rintro _ outcome ⟨a, rfl, ha⟩
  refine .bind_keeps (tick_keeps _) (fun _ _ h => nomatch h) fun _ ended _ => ?_
  refine (hemit _).bind (fun _ _ h => nomatch h.2) ?_
  rintro _ _ ⟨rfl, -⟩
  exact .ret ⟨a, .inr ⟨outcome, ended - started, ha.symm, rfl, rfl⟩⟩

variable (env) in
/-- Reading the `Retry-After` and the jitter comes to a wait. -/
theorem waitAfter_run (attempt : Nat) (outcome : Except Exc HttpResponse) (r : Recorded Impl Entry) :
    ∃ w t, waitAfter env attempt outcome r = (.ok w, { r with ticks := t }) ∧
      WaitAfter env attempt outcome w := by
  have hhint : ∃ now t, hintAfter env outcome r =
      (.ok (usableHint env outcome (env.nowSeconds now)), { r with ticks := t }) := by
    cases outcome with
    | error e => exact ⟨0, r.ticks, rfl⟩
    | ok resp =>
        unfold hintAfter usableHint
        dsimp only
        cases resp.headers.find? "Retry-After" with
        | none => exact ⟨0, r.ticks, rfl⟩
        | some hint => exact ⟨r.ticks, r.ticks + 1, rfl⟩
  obtain ⟨now, t, hnow⟩ := hhint
  refine ⟨_, t + 1, ?_, now, t, rfl⟩
  unfold waitAfter
  rw [bind_run_ok hnow]
  rfl

variable (env) in
theorem waitAfter_writes {ι α : Type} {f : Recorded Impl Entry → List ι}
    (hf : ∀ (r : Recorded Impl Entry) t, f { r with ticks := t } = f r)
    {attempt : Nat} {outcome : Except Exc HttpResponse}
    {k : Int → Told α} {R : List ι → Except Exc α → Prop}
    (hk : ∀ w, WaitAfter env attempt outcome w → Writes f (k w) R) :
    Writes f (waitAfter env attempt outcome >>= k) R := by
  refine .bind_keeps ?_ ?_ fun r w hw => ?_
  · intro r
    obtain ⟨w, t, hrun, -⟩ := waitAfter_run env attempt outcome r
    rw [hrun]
    exact hf r t
  · intro r e he
    obtain ⟨w, t, hrun, -⟩ := waitAfter_run env attempt outcome r
    rw [hrun] at he
    cases he
  · obtain ⟨w', t, hrun, hallowed⟩ := waitAfter_run env attempt outcome r
    rw [hrun] at hw
    cases hw
    exact hk _ hallowed

/-- The loop writes its attempts, and what the settlement writes after the last. -/
theorem attempting_writes {α : Type} (htelemetry : env.telemetry = some hook)
    {operation method template : Str} {sendOnce : Told HttpResponse}
    (hsend : Writes Recorded.log sendOnce fun new r =>
      ∃ a, new = [.moment (.sent a)] ∧ r = received a)
    {settle : Nat → Except Exc HttpResponse → Told α}
    {S : Nat → Except Exc HttpResponse → List Entry → Except Exc α → Prop}
    (hsettle : ∀ attempt outcome, Writes Recorded.log (settle attempt outcome) (S attempt outcome))
    (retries attempt : Nat) :
    Writes Recorded.log (attempting env operation method template sendOnce settle retries attempt)
      (Attempted operation method template env S retries attempt) := by
  have hattempt := attemptTold_writes htelemetry operation method template hsend
  induction retries generalizing attempt with
  | zero =>
      refine (hattempt attempt).bind ?_ ?_
      · rintro _ e ⟨a, ⟨_, hkept, ⟨⟩, rfl⟩ | ⟨_, _, _, ⟨⟩, _⟩⟩
        exact .thrown hkept
      · rintro _ outcome ⟨a, ⟨_, _, ⟨⟩, _⟩ | ⟨_, d, hkept, ⟨⟩, rfl⟩⟩
        exact (hsettle attempt outcome).weaken fun _ _ h => .settled hkept (.inl rfl) h
  | succ retries ih =>
      refine (hattempt attempt).bind ?_ ?_
      · rintro _ e ⟨a, ⟨_, hkept, ⟨⟩, rfl⟩ | ⟨_, _, _, ⟨⟩, _⟩⟩
        exact .thrown hkept
      rintro _ outcome ⟨a, ⟨_, _, ⟨⟩, _⟩ | ⟨_, d, hkept, ⟨⟩, rfl⟩⟩
      refine Writes.ite (fun hretry => ?_) fun hdecided => ?_
      · refine waitAfter_writes env (fun _ _ => rfl) fun w hw => ?_
        refine (emit_writes htelemetry _).bind (fun _ _ h => nomatch h.2) ?_
        rintro _ _ ⟨rfl, -⟩
        refine (record_writes _).bind (fun _ _ h => nomatch h.2) ?_
        rintro _ _ ⟨rfl, -⟩
        exact (ih (attempt + 1)).weaken fun _ _ h => .again hkept hretry hw h
      · exact (hsettle attempt outcome).weaken fun _ _ h =>
          .settled hkept (.inr (by simpa using hdecided)) h

end

/-! ## What the last attempt is settled to -/

section

variable (env : RetryEnv)

/-- What `execute_retrying` reports of an outcome: its error, its response when that is a `2xx`,
and what its status raises. -/
def reportedAccess : Except Exc HttpResponse → Except Exc HttpResponse
  | .error e => .error e
  | .ok resp => if resp.isSuccess then .ok resp else .error (raiseForStatus env.client.parse resp)

theorem reported_success {resp : HttpResponse} (h : resp.isSuccess = true) :
    reportedAccess env (.ok resp) = .ok resp := if_pos h

theorem reported_refused {resp : HttpResponse} (h : ¬resp.isSuccess = true) :
    reportedAccess env (.ok resp) = .error (raiseForStatus env.client.parse resp) := if_neg h

theorem orRaise_reports (resp : HttpResponse) (s : Impl) :
    (orRaise env.client resp s).1 = reportedAccess env (.ok resp) := by
  unfold orRaise
  by_cases hsuccess : resp.isSuccess = true
  · rw [if_pos hsuccess, reported_success env hsuccess]
    rfl
  · rw [if_neg hsuccess, reported_refused env hsuccess]
    rfl

/-- The settlement of `execute_retrying`: the outcome is reported, or a `401` is refreshed and the
request sent once more. -/
inductive SettledAccess (operation path : Str) (attempt : Nat) (outcome : Except Exc HttpResponse) :
    List Entry → Except Exc HttpResponse → Prop
  | reported : SettledAccess operation path attempt outcome [] (reportedAccess env outcome)
  | unrefreshed {e : Exc} : statusOf outcome = some 401 →
      SettledAccess operation path attempt outcome [] (.error e)
  | lost {role : RefreshRole} {d : Int} {a : Answer} {e : Exc} : statusOf outcome = some 401 →
      received a = .error e → SettledAccess operation path attempt outcome
        [.event (.refresh role d), .event (.requestStart operation "POST" path (attempt + 1)),
          .moment (.sent a)] (.error e)
  | resent {role : RefreshRole} {d d' : Int} {a : Answer} {resp : HttpResponse} :
      statusOf outcome = some 401 → received a = .ok resp →
      SettledAccess operation path attempt outcome (.event (.refresh role d) ::
        pair operation "POST" path (attempt + 1) a (.ok resp) d') (reportedAccess env (.ok resp))

variable {env} {hook : TelemetryEvent → Except Exc Unit}

theorem refreshTold_writes (htelemetry : env.telemetry = some hook) :
    Writes Recorded.log (refreshTold env) fun new r => (new = [] ∧ ∃ e, r = .error e) ∨
      (r = .ok () ∧ ∃ role d, new = [.event (.refresh role d)]) := by
  refine .bind_keeps (tick_keeps _) (fun _ _ h => nomatch h) fun _ started _ => ?_
  refine .bind_keeps Keeps.read (fun _ _ h => nomatch h) fun _ before _ => ?_
  refine .bind_keeps (recorded_keeps _) (fun _ e _ => .inl ⟨rfl, e, rfl⟩) fun _ _ _ => ?_
  refine .bind_keeps Keeps.read (fun _ _ h => nomatch h) fun _ after _ => ?_
  refine .bind_keeps (tick_keeps _) (fun _ _ h => nomatch h) fun _ ended _ => ?_
  exact (emit_writes htelemetry _).weaken fun _ _ h => .inr ⟨h.2, _, _, h.1⟩

theorem resendTold_writes (htelemetry : env.telemetry = some hook) (operation path body : Str)
    (attempt : Nat) :
    Writes Recorded.log (resendTold env operation path body attempt) fun new r =>
      ∃ a, (∃ e, received a = .error e ∧ r = .error e ∧ new =
          [.event (.requestStart operation "POST" path attempt), .moment (.sent a)]) ∨
        ∃ resp d, received a = .ok resp ∧ r = reportedAccess env (.ok resp) ∧
          new = pair operation "POST" path attempt a (.ok resp) d := by
  refine (emit_writes htelemetry _).bind (fun _ _ h => nomatch h.2) ?_
  rintro _ _ ⟨rfl, -⟩
  refine .bind_keeps (tick_keeps _) (fun _ _ h => nomatch h) fun _ started _ => ?_
  refine .bind_keeps Keeps.read (fun _ _ h => nomatch h) fun _ r _ => ?_
  refine (sendTold_writes env _).bind ?_ ?_
  · rintro _ e ⟨a, rfl, ha⟩
    exact ⟨a, .inl ⟨e, ha.symm, rfl, rfl⟩⟩
  rintro _ resp ⟨a, rfl, ha⟩
  refine .bind_keeps (tick_keeps _) (fun _ _ h => nomatch h) fun _ ended _ => ?_
  refine (emit_writes htelemetry _).bind (fun _ _ h => nomatch h.2) ?_
  rintro _ _ ⟨rfl, -⟩
  refine .keeps (recorded_keeps _) fun r => ⟨a, .inr ⟨resp, ended - started, ha.symm, ?_, rfl⟩⟩
  exact orRaise_reports env resp r.state

theorem settleAccess_writes (htelemetry : env.telemetry = some hook) (operation path body : Str)
    (attempt : Nat) (outcome : Except Exc HttpResponse) :
    Writes Recorded.log (settleAccess env operation path body attempt outcome)
      (SettledAccess env operation path attempt outcome) := by
  cases outcome with
  | error e => exact .raise .reported
  | ok resp =>
      have hreport : SettledAccess env operation path attempt (.ok resp) []
          (reportedAccess env (.ok resp)) := .reported
      unfold settleAccess
      refine Writes.ite (fun hsuccess => .ret ?_) fun hfail => ?_
      · rwa [reported_success env hsuccess] at hreport
      rw [reported_refused env hfail] at hreport
      refine .bind_keeps Keeps.read (fun _ _ h => nomatch h) fun _ r _ => ?_
      refine Writes.ite (fun hrefresh => ?_) fun _ => .raise hreport
      have hstatus : statusOf (.ok resp) = some 401 := congrArg some hrefresh.1
      refine (refreshTold_writes htelemetry).bind ?_ ?_
      · rintro _ e (⟨rfl, -⟩ | ⟨⟨⟩, -⟩)
        exact .unrefreshed hstatus
      rintro _ _ (⟨-, e, ⟨⟩⟩ | ⟨-, role, d, rfl⟩)
      refine (resendTold_writes htelemetry operation path body (attempt + 1)).weaken ?_
      rintro _ _ ⟨a, ⟨e, ha, rfl, rfl⟩ | ⟨retried, d', ha, rfl, rfl⟩⟩
      · exact .lost hstatus ha
      · exact .resent hstatus ha

/-- The log of `execute_retrying`. -/
theorem executeRetrying_writes (htelemetry : env.telemetry = some hook) (operation path body : Str) :
    Writes Recorded.log (executeRetrying env operation path body)
      (Attempted operation "POST" path env (SettledAccess env operation path)
        (readRetries env.client) 1) := by
  have hsend : Writes Recorded.log (sendAccess env path body) fun new r =>
      ∃ a, new = [.moment (.sent a)] ∧ r = received a :=
    .bind_keeps Keeps.read (fun _ _ h => nomatch h) fun _ r _ => sendTold_writes env _
  exact attempting_writes htelemetry hsend (settleAccess_writes htelemetry operation path body) _ 1

/-- The log of the attempts of `Transport::send`. -/
theorem sendAttempts_writes (htelemetry : env.telemetry = some hook)
    (operation method template path payload : Str) :
    Writes Recorded.log (sendAttempts env operation method template path payload)
      (Attempted operation method template env
        (fun _ outcome more r => more = [] ∧ r = settle env.client operation outcome)
        (retriesOf env.client method) 1) := by
  have hsend : Writes Recorded.log (sendManaged env method path payload) fun new r =>
      ∃ a, new = [.moment (.sent a)] ∧ r = received a :=
    .bind_keeps Keeps.read (fun _ _ h => nomatch h) fun _ r _ => sendTold_writes env _
  exact attempting_writes htelemetry hsend (fun _ _ => .lift ⟨rfl, rfl⟩) _ 1

end

end Axiam.Retry
