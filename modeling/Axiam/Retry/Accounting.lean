import Axiam.Client.Requests
import Axiam.Lib.Motion
import Axiam.Management.Refresh
import Axiam.Retry.Attempts

/-!
# Telemetry accounts for every send

A caller counts real requests from the events, so each request of an operation must stand between
a start and an end that carry the same attempt number.  The loops keep a `NetworkError` until the
pair is closed.  What they do not keep leaves a start without its end: an exception of the
transport itself, and a transport failure of the request that follows a refresh.
-/

namespace Axiam.Retry

open Axiam.Lib Axiam.Lib.Prog Axiam.Client Axiam.Management

section

variable (operation method template : Str)

/-- An attempt number `n` between its two events. -/
def Closed (n : Nat) (log : List Entry) : Prop :=
  ∃ a status d outcome, log = [.event (.requestStart operation method template n),
    .moment (.sent a), .event (.requestEnd operation method template n status d outcome)]

/-- The events account for the requests: a start, one request and the end of the same attempt; one
retry event between two budgeted attempts, and none after the last; and the request after a
refresh has a pair of its own. -/
inductive Accounted : Nat → List Entry → Prop
  | last {n : Nat} {log : List Entry} : Closed operation method template n log → Accounted n log
  | resent {n : Nat} {first again : List Entry} {role : RefreshRole} {d : Int} :
      Closed operation method template n first → Closed operation method template (n + 1) again →
      Accounted n (first ++ .event (.refresh role d) :: again)
  | retried {n : Nat} {first rest : List Entry} {w : Int} {reason : Str} :
      Closed operation method template n first → Accounted (n + 1) rest →
      Accounted n (first ++ .event (.retry operation n w reason) :: .moment (.slept w) :: rest)

end

/-- An answer `401`. -/
def Unauthorized (a : Answer) : Prop :=
  ∃ resp, a = .ok resp ∧ resp.transportError = [] ∧ resp.status = 401

/-- No exception escapes from between a start and its end: the transport throws nothing but what
the loops keep, and a request after a `401` gets a response. -/
structure Closes (answers : List Answer) : Prop where
  kept : ∀ a ∈ answers, ∃ outcome, kept a = .ok outcome
  resent : ∀ before first again after, answers = before ++ first :: again :: after →
    Unauthorized first → ∃ resp, received again = .ok resp

section

variable {operation method template : Str}

variable (operation method template) in
theorem closed_pair (n : Nat) (a : Answer) (outcome : Except Exc HttpResponse) (d : Int) :
    Closed operation method template n (pair operation method template n a outcome d) :=
  ⟨a, _, _, _, rfl⟩

/-- A log that begins with a closed attempt and a retry: the rest is accounted for on its own. -/
theorem accounted_retried_iff {n : Nat} {a : Answer} {outcome : Except Exc HttpResponse} {d w : Int}
    {reason : Str} {rest : List Entry} :
    Accounted operation method template n (pair operation method template n a outcome d ++
        .event (.retry operation n w reason) :: .moment (.slept w) :: rest) ↔
      Accounted operation method template (n + 1) rest := by
  constructor
  · generalize hlog : pair operation method template n a outcome d ++ _ = log
    intro h
    cases h with
    | last hclosed =>
        obtain ⟨_, _, _, _, rfl⟩ := hclosed
        cases hlog
    | resent hfirst _ =>
        obtain ⟨_, _, _, _, rfl⟩ := hfirst
        cases hlog
    | retried hfirst hrest =>
        obtain ⟨_, _, _, _, rfl⟩ := hfirst
        cases hlog
        exact hrest
  · exact .retried (closed_pair operation method template n a outcome d)

/-- A start whose end is missing is not accounted for. -/
theorem not_accounted_open {n m : Nat} {a : Answer} :
    ¬Accounted operation method template n
      [.event (.requestStart operation method template m), .moment (.sent a)] := by
  generalize hlog : [Entry.event _, Entry.moment _] = log
  intro h
  cases h with
  | last hclosed =>
      obtain ⟨_, _, _, _, rfl⟩ := hclosed
      cases hlog
  | resent hfirst _ =>
      obtain ⟨_, _, _, _, rfl⟩ := hfirst
      cases hlog
  | retried hfirst _ =>
      obtain ⟨_, _, _, _, rfl⟩ := hfirst
      cases hlog

theorem not_accounted_lost {n m : Nat} {a a' : Answer} {outcome : Except Exc HttpResponse} {d d' : Int}
    {role : RefreshRole} :
    ¬Accounted operation method template n (pair operation method template n a outcome d ++
      [.event (.refresh role d'), .event (.requestStart operation method template m),
        .moment (.sent a')]) := by
  generalize hlog : pair operation method template n a outcome d ++ _ = log
  intro h
  cases h with
  | last hclosed =>
      obtain ⟨_, _, _, _, rfl⟩ := hclosed
      cases hlog
  | resent hfirst hagain =>
      obtain ⟨_, _, _, _, rfl⟩ := hfirst
      obtain ⟨_, _, _, _, rfl⟩ := hagain
      cases hlog
  | retried hfirst _ =>
      obtain ⟨_, _, _, _, rfl⟩ := hfirst
      cases hlog

end

/-! ## When nothing escapes -/

theorem closes_one {a : Answer} : Closes [a] ↔ ∃ outcome, kept a = .ok outcome := by
  constructor
  · intro h
    exact h.kept a List.mem_cons_self
  · intro h
    refine ⟨fun b hb => ?_, fun before first again after hsplit => ?_⟩
    · cases List.mem_singleton.mp hb
      exact h
    · have hlength := congrArg List.length hsplit
      simp at hlength
      omega

/-- An answer that is tried again is no `401`. -/
theorem closes_cons_retried {a : Answer} {outcome : Except Exc HttpResponse} {rest : List Answer}
    (hkept : kept a = .ok outcome) (hretry : retryShouldRetry (statusOf outcome) = true) :
    Closes (a :: rest) ↔ Closes rest := by
  constructor
  · intro h
    refine ⟨fun b hb => h.kept b (List.mem_cons_of_mem a hb), ?_⟩
    intro before first again after hsplit
    exact h.resent (a :: before) first again after (by rw [hsplit]; rfl)
  · intro h
    refine ⟨fun b hb => ?_, fun before first again after hsplit hfirst => ?_⟩
    · rcases List.mem_cons.mp hb with rfl | hb
      · exact ⟨outcome, hkept⟩
      · exact h.kept b hb
    · cases before with
      | nil =>
          cases hsplit
          rw [(kept_unauthorized_iff hkept).mpr hfirst] at hretry
          cases hretry
      | cons b before =>
          cases hsplit
          exact h.resent before first again after rfl hfirst

theorem kept_of_received {a : Answer} {resp : HttpResponse} (h : received a = .ok resp) :
    kept a = .ok (.ok resp) := by
  rw [kept_eq, h]

theorem received_unauthorized {a : Answer} (h : Unauthorized a) : ∃ resp, received a = .ok resp := by
  obtain ⟨resp, rfl, hdelivered, -⟩ := h
  exact ⟨resp, if_pos hdelivered⟩

theorem closes_resent {a a' : Answer} (hunauthorized : Unauthorized a) :
    Closes [a, a'] ↔ ∃ resp, received a' = .ok resp := by
  constructor
  · intro h
    exact h.resent [] a a' [] rfl hunauthorized
  · rintro ⟨resp, hresp⟩
    obtain ⟨first, hfirst⟩ := received_unauthorized hunauthorized
    refine ⟨fun b hb => ?_, fun before x y after hsplit _ => ?_⟩
    · rcases List.mem_cons.mp hb with rfl | hb
      · exact ⟨_, kept_of_received hfirst⟩
      · cases List.mem_singleton.mp hb
        exact ⟨_, kept_of_received hresp⟩
    · rcases before with _ | ⟨b, before⟩
      · cases hsplit
        exact ⟨resp, hresp⟩
      · have hlength := congrArg List.length hsplit
        simp at hlength
        omega

/-! ## The two loops -/

section

variable {env : RetryEnv} {operation method template : Str}

/-- The attempts of a loop are accounted for exactly when nothing escapes, if its last attempt is
with what it is settled to. -/
theorem attempted_accounted_iff {α : Type}
    {S : Nat → Except Exc HttpResponse → List Entry → Except Exc α → Prop}
    (hS : ∀ n a outcome d more r, kept a = .ok outcome → S n outcome more r →
      (Accounted operation method template n (pair operation method template n a outcome d ++ more) ↔
        Closes (a :: answers more)))
    {retries attempt : Nat} {log : List Entry} {r : Except Exc α}
    (h : Attempted operation method template env S retries attempt log r) :
    Accounted operation method template attempt log ↔ Closes (answers log) := by
  induction h with
  | @thrown retries attempt a e hthrown =>
      refine iff_of_false not_accounted_open fun hcloses => ?_
      obtain ⟨outcome, hkept⟩ := closes_one.mp (show Closes [a] from hcloses)
      rw [hthrown] at hkept
      cases hkept
  | settled hkept _ hsettled => exact hS _ _ _ _ _ _ hkept hsettled
  | @again retries attempt a outcome d w rest r hkept hretry _ _ ih =>
      rw [accounted_retried_iff, ih]
      exact (closes_cons_retried hkept hretry).symm

/-- Every run of a loop sends. -/
theorem attempted_ne_nil {α : Type} {S : Nat → Except Exc HttpResponse → List Entry → Except Exc α → Prop}
    {retries attempt : Nat} {log : List Entry} {r : Except Exc α}
    (h : Attempted operation method template env S retries attempt log r) : log ≠ [] := by
  cases h with
  | thrown _ => exact List.cons_ne_nil _ _
  | settled _ _ _ => exact List.cons_ne_nil _ _
  | again _ _ _ _ => exact List.cons_ne_nil _ _

/-- The last attempt of `execute_retrying`. -/
theorem settledAccess_accounted {path : Str} {n : Nat} {a : Answer}
    {outcome : Except Exc HttpResponse} {d : Int} {more : List Entry} {r : Except Exc HttpResponse}
    (hkept : kept a = .ok outcome) (h : SettledAccess env operation path n outcome more r) :
    Accounted operation "POST" path n (pair operation "POST" path n a outcome d ++ more) ↔
      Closes (a :: answers more) := by
  have hclosed := closed_pair operation "POST" path n a outcome d
  have hlast : Accounted operation "POST" path n (pair operation "POST" path n a outcome d ++ []) := by
    rw [List.append_nil]
    exact .last hclosed
  have hone : Closes [a] := closes_one.mpr ⟨outcome, hkept⟩
  cases h with
  | reported => exact iff_of_true hlast hone
  | unrefreshed _ => exact iff_of_true hlast hone
  | @lost role d' a' e hstatus hlost =>
      have hunauthorized : Unauthorized a := (kept_unauthorized_iff hkept).mp hstatus
      refine iff_of_false not_accounted_lost fun hcloses => ?_
      obtain ⟨resp, hresp⟩ := (closes_resent hunauthorized).mp hcloses
      rw [hlost] at hresp
      cases hresp
  | @resent role d' d'' a' resp hstatus hresp =>
      have hunauthorized : Unauthorized a := (kept_unauthorized_iff hkept).mp hstatus
      exact iff_of_true (.resent hclosed (closed_pair operation "POST" path (n + 1) a' (.ok resp) d''))
        ((closes_resent hunauthorized).mpr ⟨resp, hresp⟩)

end

/-! ## What is sent -/

/-- The requests between two states of a client: those that were answered so, and at most one for
each refresh. -/
structure Tallied (s t : Impl) (answered : List Answer) : Prop where
  told : s.sent.length + answered.length ≤ t.sent.length
  untold : t.sent.length + s.refreshCount ≤ s.sent.length + answered.length + t.refreshCount

/-- A change of a client and its log: the answer of each request is told; a refresh, where there may
be one, is counted and sends one request at most. -/
inductive Counted (refreshes : Prop) (r t : Recorded Impl Entry) : Prop
  | told : t.state.sent.length + (answers r.log).length =
        r.state.sent.length + (answers t.log).length →
      t.state.refreshCount = r.state.refreshCount → Counted refreshes r t
  | refreshed : refreshes → answers t.log = answers r.log →
      r.state.sent.length ≤ t.state.sent.length → t.state.sent.length ≤ r.state.sent.length + 1 →
      t.state.refreshCount = r.state.refreshCount + 1 → Counted refreshes r t

section

variable {env : RetryEnv} {operation method template : Str} {refreshes : Prop}

theorem answers_append (first second : List Entry) :
    answers (first ++ second) = answers first ++ answers second := by
  unfold answers
  rw [moments_append, sends_append]

/-- An entry that is no request. -/
theorem record_moves {entry : Entry} (h : answers [entry] = []) :
    Moves (Counted refreshes) (record entry : Told Unit) := by
  refine .modify fun r => .told ?_ rfl
  rw [answers_append, h, List.append_nil]

theorem tick_moves {β : Type} (f : Nat → β) : Moves (Counted refreshes) (tick f : Told β) :=
  .step fun _ => .told rfl rfl

theorem emit_moves (event : TelemetryEvent) : Moves (Counted refreshes) (emit env event) := by
  unfold emit
  split
  · exact .ret _
  · exact (record_moves rfl).bind fun _ => .tryCatch (.lift _) fun _ => .ret _

theorem sendTold_moves (req : HttpRequest) : Moves (Counted refreshes) (sendTold env req) := by
  refine .step fun r => .told ?_ (sendRaw_refreshCount req r.state)
  show (sendRaw env.client req r.state).2.sent.length + _ =
    r.state.sent.length + (answers (r.log ++ [_])).length
  have htold : ∀ a, (answers [Entry.moment (.sent a)]).length = 1 := fun _ => rfl
  rw [sendRaw_sent, answers_append, List.length_append, List.length_append, htold]
  show _ + 1 + _ = _
  omega

theorem attempting_moves {α : Type} {sendOnce : Told HttpResponse}
    (hsend : Moves (Counted refreshes) sendOnce) {settle : Nat → Except Exc HttpResponse → Told α}
    (hsettle : ∀ attempt outcome, Moves (Counted refreshes) (settle attempt outcome))
    (retries attempt : Nat) : Moves (Counted refreshes)
      (attempting env operation method template sendOnce settle retries attempt) := by
  have hattempt : ∀ attempt, Moves (Counted refreshes)
      (attemptTold env operation method template sendOnce attempt) := by
    intro attempt
    refine (emit_moves _).bind fun _ => (tick_moves _).bind fun _ => ?_
    refine Moves.bind ?_ fun _ => (tick_moves _).bind fun _ => (emit_moves _).bind fun _ => .ret _
    exact .tryCatch (hsend.bind fun _ => .ret _) fun _ => .ite (.ret _) (.raise _)
  induction retries generalizing attempt with
  | zero => exact (hattempt attempt).bind fun outcome => hsettle attempt outcome
  | succ retries ih =>
      refine (hattempt attempt).bind fun outcome => .ite ?_ (hsettle attempt outcome)
      have hhint : Moves (Counted refreshes) (hintAfter env outcome) := by
        unfold hintAfter
        split
        · exact .ret _
        · split
          · exact .ret _
          · exact (tick_moves _).bind fun _ => .ret _
      refine Moves.bind (hhint.bind fun _ => (tick_moves _).bind fun _ => .ret _) fun _ => ?_
      exact (emit_moves _).bind fun _ => (record_moves rfl).bind fun _ => ih (attempt + 1)

variable (env) in
/-- A refresh sends one request at most. -/
theorem refreshTold_moves (hrefreshes : refreshes) : Moves (Counted refreshes) (refreshTold env) := by
  have hsent : Writes Impl.sent (doSingleFlightRefresh env.client) (Once fun _ => True) := by
    have hbuilt : ∀ method path body, Writes Impl.sent (sendBuilt env.client method path body)
        (Once fun _ => True) := fun method path body s =>
      ⟨[_], sendRaw_sent env.client _ s, .inr ⟨_, rfl, trivial⟩⟩
    refine .once_after ?_ fun _ => Keeps.bind (Keeps.modify fun _ => rfl) fun _ => Keeps.ret _
    refine .once_before (Keeps.modify fun _ => rfl) fun _ _ _ => ?_
    refine .once_before Keeps.read fun _ _ _ => .once_before (Keeps.lift _) fun _ _ _ => ?_
    exact .once_after (hbuilt _ _ _) fun _ => Keeps.ite (Keeps.ret _) (Keeps.raise _)
  refine (tick_moves _).bind fun _ => .bind .read fun _ => Moves.bind (.step fun r => ?_) fun _ =>
    .bind .read fun _ => (tick_moves _).bind fun _ => emit_moves _
  obtain ⟨new, hnew, honce⟩ := hsent r.state
  have hlength : (doSingleFlightRefresh env.client r.state).2.sent.length =
      r.state.sent.length + new.length := by
    rw [hnew, List.length_append]
  have hone : new.length ≤ 1 := by
    rcases honce with ⟨rfl, -⟩ | ⟨_, rfl, -⟩
    · exact Nat.zero_le 1
    · exact le_rfl
  refine .refreshed hrefreshes rfl ?_ ?_ (doSingleFlightRefresh_counts env.client r.state)
  · show _ ≤ (doSingleFlightRefresh env.client r.state).2.sent.length
    omega
  · show (doSingleFlightRefresh env.client r.state).2.sent.length ≤ _
    omega

theorem executeRetrying_moves (operation path body : Str) :
    Moves (Counted True) (executeRetrying env operation path body) := by
  refine attempting_moves (.bind .read fun _ => sendTold_moves _) (fun attempt outcome => ?_) _ _
  cases outcome with
  | error e => exact .raise e
  | ok resp =>
      refine .ite (.ret _) (.bind .read fun _ => .ite ?_ (.raise _))
      refine (refreshTold_moves env trivial).bind fun _ => (emit_moves _).bind fun _ => ?_
      refine (tick_moves _).bind fun _ => .bind .read fun _ => (sendTold_moves _).bind fun _ => ?_
      refine (tick_moves _).bind fun _ => (emit_moves _).bind fun _ => .step fun r => ?_
      rw [recorded_check (orRaise_keeps (f := id) env.client _)]
      exact .told rfl rfl

theorem send_moves (values : List (Str × Str)) (query : List (Str × Option Str))
    (body : Option Json) :
    Moves (Counted False) (send env operation method template values query body) := by
  have hstays : ∀ {α : Type} {m : Prog Impl Exc α}, (∀ s, (m s).2 = s) →
      Moves (Counted False) (recorded m : Told α) := by
    intro α m h
    refine .step fun r => ?_
    rw [recorded_check h]
    exact .told rfl rfl
  refine (hstays (ensureOpen_keeps (f := id))).bind fun _ => ?_
  refine (hstays (sessionCheck_keeps (f := id) operation)).bind fun _ => (Moves.lift _).bind fun _ => ?_
  exact attempting_moves (.bind .read fun _ => sendTold_moves _) (fun _ _ => .lift _) _ _

theorem moves_tallied {α : Type} {m : Told α} (h : Moves (Counted refreshes) m)
    {r : Recorded Impl Entry} {new : List Entry} (hnew : (m r).2.log = r.log ++ new) :
    Tallied r.state (m r).2.state (answers new) := by
  have hsteps := h.keep (s := r) (P := fun t =>
    r.state.sent.length + (answers t.log).length ≤ t.state.sent.length + (answers r.log).length ∧
      t.state.sent.length + (answers r.log).length + r.state.refreshCount ≤
        r.state.sent.length + (answers t.log).length + t.state.refreshCount)
    (fun t u hstep hkept => by
      cases hstep with
      | told hsent hcount => omega
      | refreshed _ htold hleast hmost hcount =>
          rw [htold]
          omega) ⟨le_rfl, le_rfl⟩
  rw [hnew, answers_append, List.length_append] at hsteps
  exact ⟨by omega, by omega⟩

/-- Where there is no refresh, an answer is told of every request. -/
theorem moves_sent {α : Type} {m : Told α} (h : Moves (Counted False) m)
    {r : Recorded Impl Entry} {new : List Entry} (hnew : (m r).2.log = r.log ++ new) :
    (m r).2.state.sent.length = r.state.sent.length + (answers new).length := by
  have hsteps := h.keep (s := r) (P := fun t =>
    t.state.sent.length + (answers r.log).length = r.state.sent.length + (answers t.log).length)
    (fun t u hstep hsent => by
      cases hstep with
      | told hsent' _ => omega
      | refreshed hnever _ _ _ _ => exact hnever.elim) rfl
  rw [hnew, answers_append, List.length_append] at hsteps
  omega

/-- **Telemetry accounts for every send** of `execute_retrying` and of `Transport::send`, whatever
the transport answers and whatever the hook throws, exactly when no exception escapes from between
a start and its end.  The answers told are those of the requests the client sends. -/
theorem telemetry_accounts_iff {hook : TelemetryEvent → Except Exc Unit}
    (htelemetry : env.telemetry = some hook) :
    (∀ operation path body r, ∃ new, (executeRetrying env operation path body r).2.log = r.log ++ new ∧
      Tallied r.state (Client.executeRetrying env.client path body (readRetries env.client) r.state).2
        (answers new) ∧
      (Accounted operation "POST" path 1 new ↔ Closes (answers new))) ∧
    ∀ operation method template values query body r, ∃ new,
      (send env operation method template values query body r).2.log = r.log ++ new ∧
      (Management.send env.client operation method template values query body r.state).2.sent.length =
        r.state.sent.length + (answers new).length ∧
      ((new = [] ∨ Accounted operation method template 1 new) ↔ Closes (answers new)) := by
  constructor
  · intro operation path body r
    obtain ⟨new, hnew, hlog⟩ := executeRetrying_writes htelemetry operation path body r
    refine ⟨new, hnew, ?_, attempted_accounted_iff
      (fun _ _ _ _ _ _ hkept hsettled => settledAccess_accounted hkept hsettled) hlog⟩
    rw [← (executeRetrying_erases env operation path body r).2]
    exact moves_tallied (executeRetrying_moves operation path body) hnew
  · intro operation method template values query body r
    have hnothing : Closes (answers []) := ⟨nofun, fun before _ _ _ h => by cases before <;> cases h⟩
    have hrefused : ∀ e : Exc, (([] : List Entry) = [] ∨ Accounted operation method template 1 []) ↔
        Closes (answers []) := fun _ => iff_of_true (.inl rfl) hnothing
    have hwrites : Writes Recorded.log (send env operation method template values query body)
        fun new _ => (new = [] ∨ Accounted operation method template 1 new) ↔
          Closes (answers new) := by
      refine .bind_keeps (recorded_keeps _) (fun _ e _ => hrefused e) fun _ _ _ => ?_
      refine .bind_keeps (recorded_keeps _) (fun _ e _ => hrefused e) fun _ _ _ => ?_
      refine .bind_keeps (Keeps.lift _) (fun _ e _ => hrefused e) fun _ payload _ => ?_
      refine (sendAttempts_writes htelemetry operation method template _ payload).weaken ?_
      intro new r hlog
      have hsome : new ≠ [] := attempted_ne_nil hlog
      have hiff := attempted_accounted_iff (fun n a outcome d more r hkept h => ?_) hlog
      · exact (or_iff_right hsome).trans hiff
      · obtain ⟨rfl, -⟩ := h
        rw [List.append_nil]
        exact iff_of_true (.last (closed_pair operation method template n a outcome d))
          (closes_one.mpr ⟨outcome, hkept⟩)
    obtain ⟨new, hnew, hiff⟩ := hwrites r
    refine ⟨new, hnew, ?_, hiff⟩
    rw [← (send_erases env operation method template values query body r).2]
    exact moves_sent (send_moves values query body) hnew

end

/-- A session that has expired and is refreshed; `again` is what the request then gets.  The hook
throws on every event. -/
def expired (again : Answer) : RetryEnv where
  client := {
    baseUrl := "https://iam.example"
    tenantHeader := "acme"
    parse := tableParser [(str "refreshed", .object [("expires_in", .integer 900)])]
    dump := fun _ => "\x7b\x7d"
    transport := fun before req =>
      if req.url = "https://iam.example/api/v1/auth/refresh" then
        .ok { status := 200, body := "refreshed" }
      else if before = [] then .ok { status := 401 } else again
    clock := fun n => n
    opaqueStart := fun _ _ => .error (.foreign "no library")
    opaqueFinish := fun _ _ _ _ => .error (.foreign "no library") }
  telemetry := some fun _ => .error (.foreign "the hook throws")
  jittered := fun _ backoff => backoff
  nowSeconds := fun n => n
  steadyMs := fun n => n
  httpDate := fun _ => none

/-- The events of a check that is refused, refreshed and let through. -/
theorem refreshed_accounted :
    ∃ new, (executeRetrying (expired (.ok { status := 204 })) "authz.check" "/api/v1/authz/check"
        "\x7b\x7d" { state := { session := true } }).2.log = new ∧
      Tallied { session := true } (Client.executeRetrying (expired (.ok { status := 204 })).client
        "/api/v1/authz/check" "\x7b\x7d" (readRetries (expired (.ok { status := 204 })).client)
        { session := true }).2 (answers new) ∧
      (Accounted "authz.check" "POST" "/api/v1/authz/check" 1 new ↔ Closes (answers new)) ∧
      answers new = [.ok { status := 401 }, .ok { status := 204 }] := by
  have htelemetry : (expired (.ok { status := 204 })).telemetry =
      some fun _ => .error (.foreign "the hook throws") := rfl
  obtain ⟨new, hnew, htallied, hiff⟩ :=
    (telemetry_accounts_iff htelemetry).1 "authz.check" "/api/v1/authz/check" "\x7b\x7d"
      { state := { session := true } }
  refine ⟨new, hnew, htallied, hiff, ?_⟩
  rw [List.nil_append] at hnew
  rw [← hnew]
  decide

/-- The connection fails on the request after the refresh, and a transport throws something of its
own: in both runs the last start has no end. -/
theorem lost_unaccounted :
    let lost := executeRetrying (expired (.ok { status := 0, transportError := "connection reset" }))
      "authz.check" "/api/v1/authz/check" "\x7b\x7d" { state := { session := true } }
    let thrown := send (expired (.error (.foreign "bad_alloc"))) "roles.list" "GET" "/api/v1/roles"
      [] [] none { state := { session := true, sent := [{ method := "GET", url := "/" }] } }
    ¬Accounted "authz.check" "POST" "/api/v1/authz/check" 1 lost.2.log ∧
      ¬Accounted "roles.list" "GET" "/api/v1/roles" 1 thrown.2.log := by
  intro lost thrown
  have hlost : lost.2.log = pair "authz.check" "POST" "/api/v1/authz/check" 1
      (.ok { status := 401 }) (.ok { status := 401 }) 1 ++
      [.event (.refresh .leader 1),
        .event (.requestStart "authz.check" "POST" "/api/v1/authz/check" 2),
        .moment (.sent (.ok { status := 0, transportError := "connection reset" }))] := by decide
  have hthrown : thrown.2.log = [.event (.requestStart "roles.list" "GET" "/api/v1/roles" 1),
      .moment (.sent (.error (.foreign "bad_alloc")))] := by decide
  rw [hlost, hthrown]
  exact ⟨not_accounted_lost, not_accounted_open⟩

end Axiam.Retry
