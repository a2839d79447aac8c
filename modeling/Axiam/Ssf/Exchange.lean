import Axiam.Core.Backoff
import Axiam.Lib.Record
import Axiam.Lib.Retry
import Axiam.Ssf.Poll

/-!
# The exchange of a poll, as it is timed

`SsfReceiver::poll` with the waits between its attempts, and a log of what it sends and how long it
sleeps.  Taking the log away leaves the poll the rest of the development is about.
-/

namespace Axiam.Ssf

open Axiam.Lib Axiam.Lib.Prog

/-- What the waits of a poll read: the jitter and the wall clock. -/
structure PollEnv where
  receiver : Env
  /-- What the jitter leaves of a backoff. -/
  jittered : Nat → Int → Int
  /-- The wall clock, in seconds. -/
  nowSeconds : Nat → Int
  /-- An HTTP date, in seconds: `strptime` and `timegm`. -/
  httpDate : Str → Option Int

/-- A program of a receiver whose doings are logged. -/
abbrev Logged (α : Type) : Type := Prog (Recorded Receiver (Moment Answer)) Exc α

section

variable (env : PollEnv)

/-- `impl.transport`. -/
def sendTimed (req : HttpRequest) : Logged HttpResponse := do
  let r ← Prog.read
  record (.sent (env.receiver.transport r.state.sent req))
  recorded (transport env.receiver req)

/-- The `Retry-After` of a response; the wall clock is read only when there is one. -/
def hintTimed (resp : HttpResponse) : Logged (Option Int) :=
  match resp.headers.find? "Retry-After" with
  | none => pure none
  | some hint => do
      let now ← tick env.nowSeconds
      pure (retryAfterFromHeader env.httpDate hint now)

/-- The wait before the next attempt. -/
def delayTimed (attempt : Nat) (resp : HttpResponse) : Logged Int := do
  let hint ← hintTimed env resp
  let jittered ← tick env.jittered
  pure (retryDelay (jittered (retryBackoff attempt)) hint)

/-- The exchange, with as many retries as are left. -/
def exchangeTimed (req : HttpRequest) : Nat → Nat → Logged HttpResponse
  | 0, _ => do
      let resp ← sendTimed env req
      if (HttpResponse.completed? resp).isSome && resp.isSuccess then pure resp
      else throw (exchange.refused env.receiver resp)
  | retries + 1, attempt => do
      let resp ← sendTimed env req
      if (HttpResponse.completed? resp).isSome && resp.isSuccess then pure resp
      else if retryShouldRetry (HttpResponse.completed? resp) then do
        let wait ← delayTimed env attempt resp
        record (.slept wait)
        exchangeTimed req retries (attempt + 1)
      else throw (exchange.refused env.receiver resp)

/-- The retries of a poll, after the first attempt. -/
def pollRetries : Nat := if env.receiver.retryEnabled then kRetryMaxAttempts - 1 else 0

/-- Everything of a poll before the first SET is looked at. -/
def replyTimed (streamId : Str) (options : SsfPollOptions) : Logged Json := do
  let r ← Prog.read
  if r.state.closed then throw (.network "client is closed (CONTRACT.md §18.1 rule 4)" "closed")
  else match env.receiver.config.accessTokenProvider with
    | none => throw (.auth
        "ssf.poll needs an access_token_provider: a client-credentials token carrying ssf.manage (CONTRACT.md §32.7)")
    | some (.error e) => throw e
    | some (.ok token) =>
        if options.body.dumpable = false then throw (.json .invalidUtf8)
        else do
          let resp ← exchangeTimed env
            (pollRequest env.receiver streamId (env.receiver.dump options.body) token)
            (pollRetries env) 1
          Prog.lift (replyOf env.receiver resp)

/-- The SETs of a reply, judged. -/
def judgeReply (reply : Json) : Prog Receiver Exc Batch := fun r =>
  let (b, r') := judgeAll env.receiver (setsOf reply) (.open reply) r
  (.ok b, r')

/-- `poll`. -/
def pollTimed (streamId : Str) (options : SsfPollOptions) : Logged SsfPollResult := do
  let reply ← replyTimed env streamId options
  let b ← recorded (judgeReply env reply)
  pure b.result

/-! ## What is left without the log -/

theorem sendTimed_erases (req : HttpRequest) :
    Erases (sendTimed env req) (transport env.receiver req) :=
  Erases.bind_silent read_silent fun _ => Erases.bind_silent (record_silent _) fun _ =>
    Erases.recorded _

theorem delayTimed_silent (attempt : Nat) (resp : HttpResponse) :
    Silent (delayTimed env attempt resp) := by
  have hhint : Silent (hintTimed env resp) := by
    unfold hintTimed
    split
    · exact Silent.ret _
    · exact (tick_silent _).bind fun _ => Silent.ret _
  exact hhint.bind fun _ => (tick_silent _).bind fun _ => Silent.ret _

theorem exchangeTimed_erases (req : HttpRequest) (retries attempt : Nat) :
    Erases (exchangeTimed env req retries attempt) (exchange env.receiver req retries) := by
  induction retries generalizing attempt with
  | zero =>
      exact (sendTimed_erases env req).bind fun _ => Erases.ite (Erases.ret _) (Erases.raise _)
  | succ retries ih =>
      refine (sendTimed_erases env req).bind fun resp => Erases.ite (Erases.ret _) ?_
      refine Erases.ite ?_ (Erases.raise _)
      exact Erases.bind_silent (delayTimed_silent env attempt resp) fun wait =>
        Erases.bind_silent (record_silent _) fun _ => ih (attempt + 1)

/-- Without its log, the poll is the one of the receiver's model. -/
theorem pollTimed_erases (streamId : Str) (options : SsfPollOptions) :
    Erases (pollTimed env streamId options) (poll env.receiver streamId options) := by
  have hreply : Erases (replyTimed env streamId options)
      (pollReply env.receiver streamId options) := by
    refine Erases.bind_read fun r => Erases.ite (Erases.raise _) ?_
    rcases env.receiver.config.accessTokenProvider with _ | _ | token
    · exact Erases.raise _
    · exact Erases.raise _
    refine Erases.ite (Erases.raise _) ?_
    exact (exchangeTimed_erases env _ _ 1).bind fun resp => Erases.lift _
  rw [poll_eq]
  exact hreply.bind fun reply => (Erases.recorded _).bind fun b => Erases.ret _

end

/-! ## What a poll writes -/

section

variable (env : PollEnv)

/-- The usable `Retry-After` of a response at a reading of the wall clock. -/
def usableHint (resp : HttpResponse) (now : Int) : Option Int :=
  (resp.headers.find? "Retry-After").bind fun hint => retryAfterFromHeader env.httpDate hint now

/-- A wait `retry_delay` may ask for after an attempt. -/
def PollWait (attempt : Nat) (resp : HttpResponse) (w : Int) : Prop :=
  ∃ now tick, w = retryDelay (env.jittered tick (retryBackoff attempt))
    (usableHint env resp (env.nowSeconds now))

/-- The policy of the exchange. -/
def pollPolicy : RetryPolicy Answer where
  again answer := ∃ resp, answer = .ok resp ∧ retryShouldRetry (HttpResponse.completed? resp) = true
  wait attempt answer w := ∃ resp, answer = .ok resp ∧ PollWait env attempt resp w

/-- What the exchange makes of its last answer. -/
def exchanged : Answer → Except Exc HttpResponse
  | .error e => .error e
  | .ok resp => if (HttpResponse.completed? resp).isSome && resp.isSuccess then .ok resp
      else .error (exchange.refused env.receiver resp)

variable {env}

theorem sendTimed_writes (req : HttpRequest) :
    Writes Recorded.log (sendTimed env req) fun new r => new = [.sent r] :=
  fun _ => ⟨_, rfl, rfl⟩

variable (env) in
theorem delayTimed_run (attempt : Nat) (resp : HttpResponse)
    (r : Recorded Receiver (Moment Answer)) :
    ∃ w, (delayTimed env attempt resp r).1 = .ok w ∧ PollWait env attempt resp w := by
  have hhint : ∃ now t, hintTimed env resp r = (.ok (usableHint env resp (env.nowSeconds now)), t) := by
    unfold hintTimed usableHint
    cases resp.headers.find? "Retry-After" with
    | none => exact ⟨0, r, rfl⟩
    | some hint => exact ⟨r.ticks, _, rfl⟩
  obtain ⟨now, t, hnow⟩ := hhint
  refine ⟨_, ?_, now, t.ticks, rfl⟩
  unfold delayTimed
  rw [bind_run_ok hnow]
  rfl

theorem delayTimed_keeps (attempt : Nat) (resp : HttpResponse) :
    Keeps Recorded.log (delayTimed env attempt resp) := by
  have hhint : Keeps Recorded.log (hintTimed env resp) := by
    unfold hintTimed
    split
    · exact Keeps.ret _
    · exact (tick_keeps _).bind fun _ => Keeps.ret _
  exact hhint.bind fun _ => (tick_keeps _).bind fun _ => Keeps.ret _

/-- A `2xx` is decisive. -/
theorem decisive_of_success {resp : HttpResponse}
    (h : ((HttpResponse.completed? resp).isSome && resp.isSuccess) = true) :
    retryShouldRetry (HttpResponse.completed? resp) = false := by
  unfold HttpResponse.completed? HttpResponse.isSuccess at *
  by_cases hdelivered : resp.transportError = []
  · rw [if_pos hdelivered] at h ⊢
    simp only [Option.isSome_some, Bool.true_and, Bool.and_eq_true, decide_eq_true_eq] at h
    simp only [retryShouldRetry, Bool.or_eq_false_iff, beq_eq_false_iff_ne, Bool.and_eq_false_iff,
      decide_eq_false_iff_not]
    omega
  · rw [if_neg hdelivered] at h
    cases h

/-- The exchange follows the policy, and comes to its last answer. -/
theorem exchangeTimed_follows (req : HttpRequest) (retries attempt : Nat) :
    Writes Recorded.log (exchangeTimed env req retries attempt) fun new r =>
      ∃ a, Follows (pollPolicy env) none retries attempt new (some a) ∧ r = exchanged env a := by
  have hthrew : ∀ {retries attempt new} {e : Exc}, new = [Moment.sent (.error e : Answer)] →
      ∃ a, Follows (pollPolicy env) none retries attempt new (some a) ∧ .error e = exchanged env a := by
    rintro retries attempt _ e rfl
    refine ⟨_, .done (.inr ?_), rfl⟩
    rintro ⟨resp, hresp, -⟩
    cases hresp
  have hdone : ∀ {retries attempt} {resp : HttpResponse} {r : Except Exc HttpResponse},
      retries = 0 ∨ retryShouldRetry (HttpResponse.completed? resp) = false →
      r = exchanged env (.ok resp) → ∃ a, Follows (pollPolicy env) none retries attempt
        ([.sent (.ok resp)] ++ []) (some a) ∧ r = exchanged env a := by
    intro retries attempt resp r hlast hr
    refine ⟨_, .done (hlast.imp_right fun h => ?_), hr⟩
    rintro ⟨_, ⟨⟩, hagain⟩
    rw [h] at hagain
    cases hagain
  induction retries generalizing attempt with
  | zero =>
      refine (sendTimed_writes req).bind (fun _ e => hthrew) ?_
      rintro _ resp rfl
      refine Writes.ite (fun hok => .ret (hdone (.inl rfl) ?_)) fun hfail => .raise (hdone (.inl rfl) ?_)
      · exact (if_pos hok).symm
      · exact (if_neg hfail).symm
  | succ retries ih =>
      refine (sendTimed_writes req).bind (fun _ e => hthrew) ?_
      rintro _ resp rfl
      refine Writes.ite (fun hok => .ret (hdone (.inr (decisive_of_success hok)) ?_)) fun hfail => ?_
      · exact (if_pos hok).symm
      refine Writes.ite (fun hretry => ?_) fun hdecided => .raise (hdone (.inr ?_) ?_)
      · refine .bind_keeps (delayTimed_keeps attempt resp) ?_ fun s w hw => ?_
        · intro s e he
          obtain ⟨w, hw, -⟩ := delayTimed_run env attempt resp s
          rw [hw] at he
          cases he
        obtain ⟨w', hw', hallowed⟩ := delayTimed_run env attempt resp s
        rw [hw'] at hw
        cases hw
        refine (record_writes _).bind (fun _ _ h => nomatch h.2) ?_
        rintro _ _ ⟨rfl, -⟩
        refine (ih (attempt + 1)).weaken ?_
        rintro more r ⟨a, hrest, hr⟩
        have hagain : (pollPolicy env).again (.ok resp) := ⟨resp, rfl, hretry⟩
        have hwait : (pollPolicy env).wait attempt (.ok resp) w := ⟨resp, rfl, hallowed⟩
        have hwaited : Waited w none [(.slept w : Moment Answer)] := .free
        exact ⟨a, by simpa using Follows.again hagain hwait hwaited hrest, hr⟩
      · simpa using hdecided
      · exact (if_neg hfail).symm

/-- What `poll` reports of the last answer of its exchange: its error, a reply that is no object,
or the verdicts on the reply's SETs. -/
inductive PollReports (env : PollEnv) (a : Answer) : Except Exc SsfPollResult → Prop
  | refused {e : Exc} : exchanged env a = .error e → PollReports env a (.error e)
  | unread {resp : HttpResponse} {e : Exc} : exchanged env a = .ok resp →
      replyOf env.receiver resp = .error e → PollReports env a (.error e)
  | judged {resp : HttpResponse} {reply : Json} (r : Receiver) : exchanged env a = .ok resp →
      replyOf env.receiver resp = .ok reply →
      PollReports env a (.ok (judgeAll env.receiver (setsOf reply) (.open reply) r).1.result)

/-- A poll that sends: the receiver is open, there is a token, and the body can be written. -/
structure PollReady (env : PollEnv) (options : SsfPollOptions) (r : Receiver) : Prop where
  opened : r.closed = false
  token : ∃ token, env.receiver.config.accessTokenProvider = some (.ok token)
  dumpable : options.body.dumpable = true

/-- `poll` writes nothing where it is refused before its request; else its exchange follows the
policy, and the last answer is reported. -/
theorem pollTimed_writes (streamId : Str) (options : SsfPollOptions) :
    WritesIf Recorded.log (pollTimed env streamId options)
      (fun r => PollReady env options r.state) fun new r =>
        ∃ a, Follows (pollPolicy env) none (pollRetries env) 1 new (some a) ∧ PollReports env a r := by
  have hexchange : ∀ token, Writes Recorded.log
      (do
        let resp ← exchangeTimed env
          (pollRequest env.receiver streamId (env.receiver.dump options.body) token) (pollRetries env) 1
        Prog.lift (replyOf env.receiver resp)) fun new r =>
          ∃ a, Follows (pollPolicy env) none (pollRetries env) 1 new (some a) ∧
            r = (exchanged env a).bind (replyOf env.receiver) := by
    intro token
    refine (exchangeTimed_follows _ _ 1).bind ?_ ?_
    · rintro new e ⟨a, hfollows, he⟩
      exact ⟨a, hfollows, by rw [← he]; rfl⟩
    · rintro new resp ⟨a, hfollows, hresp⟩
      refine .lift ⟨a, ?_, by rw [← hresp]; rfl⟩
      rwa [List.append_nil]
  -- a closed client, a provider that fails and a body without a text are refused before the first
  -- request
  have hreply : WritesIf Recorded.log (replyTimed env streamId options)
      (fun r => PollReady env options r.state) fun new r =>
        ∃ a, Follows (pollPolicy env) none (pollRetries env) 1 new (some a) ∧
          r = (exchanged env a).bind (replyOf env.receiver) := by
    refine .read fun r => .ite (fun hclosed => ?_) fun hopen => ?_
    · refine (WritesIf.refused _).congr fun _ => ⟨False.elim, fun h => ?_⟩
      rw [h.opened] at hclosed
      cases hclosed
    rcases htoken : env.receiver.config.accessTokenProvider with _ | e | token
    · refine (WritesIf.refused _).congr fun _ => ⟨False.elim, fun h => ?_⟩
      obtain ⟨token, hsome⟩ := h.token
      rw [htoken] at hsome
      cases hsome
    · refine (WritesIf.refused _).congr fun _ => ⟨False.elim, fun h => ?_⟩
      obtain ⟨token, hsome⟩ := h.token
      rw [htoken] at hsome
      cases hsome
    refine .ite (fun hbad => ?_) fun hdumpable => ?_
    · refine (WritesIf.refused _).congr fun _ => ⟨False.elim, fun h => ?_⟩
      rw [h.dumpable] at hbad
      cases hbad
    · have hready : PollReady env options r.state :=
        ⟨by simpa using hopen, ⟨token, htoken⟩, by simpa using hdumpable⟩
      exact (WritesIf.of_writes (hexchange token)).congr fun _ => ⟨fun _ => hready, fun _ => trivial⟩
  refine hreply.bind ?_ ?_
  · rintro new e ⟨a, hfollows, he⟩
    refine ⟨a, hfollows, ?_⟩
    rcases hexchanged : exchanged env a with e' | resp
    · rw [hexchanged] at he
      cases he
      exact .refused hexchanged
    · rw [hexchanged] at he
      exact .unread hexchanged he.symm
  · rintro new reply ⟨a, hfollows, hreply⟩
    refine .keeps ?_ fun r => ⟨a, ?_, ?_⟩
    · exact (recorded_keeps _).bind fun b => Keeps.ret _
    · rwa [List.append_nil]
    · rcases hexchanged : exchanged env a with e' | resp
      · rw [hexchanged] at hreply
        cases hreply
      · rw [hexchanged] at hreply
        exact .judged r.state hexchanged hreply.symm

end

end Axiam.Ssf
