import Axiam.Oidc.Ciba
import Axiam.Oidc.Pacing

/-!
# How a backchannel decision is awaited

Each turn of `ciba_await` waits its interval out and polls.  What the loop goes on with after a
poll is a function of the poll's last answer: an unanswered request, a `5xx`, and a `408` or `429`
that names no error are polled again at the interval; so are `authorization_pending` and
`rate_limit_exceeded`; `slow_down` adds five seconds; and every other answer is the last one.
-/

namespace Axiam.Oidc

open Axiam.Lib Axiam.Client

variable (env : GrantEnv)

/-- An answer that says nothing about the request: a transport failure, a `5xx` whatever its body,
and a `408` or a `429` that names no error. -/
def Unheard (resp : HttpResponse) : Prop :=
  resp.transportError ≠ [] ∨ (500 ≤ resp.status ∧ resp.status ≤ 599) ∨
    ((resp.status = 408 ∨ resp.status = 429) ∧ errorCode env resp = none)

/-- The `error` of a refusal that is read: below `500`, and neither a `2xx` nor a redirect. -/
def refusal (resp : HttpResponse) : Option Str :=
  if resp.transportError = [] ∧ resp.isSuccess = false ∧
      ¬(300 ≤ resp.status ∧ resp.status < 400) ∧ resp.status < 500 then errorCode env resp
  else none

instance (resp : HttpResponse) : Decidable (Unheard env resp) := inferInstanceAs (Decidable (_ ∨ _))

/-- A response the loop polls again after. -/
def AsksAgain (resp : HttpResponse) : Prop :=
  Unheard env resp ∨ refusal env resp = some (str "authorization_pending") ∨
    refusal env resp = some (str "rate_limit_exceeded") ∨ refusal env resp = some (str "slow_down")

/-- An answer the loop polls again after; what a transport throws is none. -/
def Again : Answer → Prop
  | .ok resp => AsksAgain env resp
  | .error _ => False

/-- What an answer adds to the interval, in seconds. -/
def awaitSlowDown : Answer → Int
  | .ok resp => if refusal env resp = some (str "slow_down") then 5 else 0
  | .error _ => 0

/-- The interval after a refusal, or none where it is the last answer. -/
def awaitNext (interval : Int) (resp : HttpResponse) : Option Int :=
  if refusal env resp = some (str "authorization_pending") ∨
      refusal env resp = some (str "rate_limit_exceeded") ∨
      refusal env resp = some (str "slow_down") then
    some (interval + awaitSlowDown env (.ok resp))
  else none

/-- The policy of `ciba_poll_once`. -/
def cibaPolicy : RetryPolicy Answer where
  again answer := ∃ resp, answer = .ok resp ∧ Unheard env resp
  wait attempt answer w := ∃ resp, answer = .ok resp ∧ RetryWait env attempt resp w

/-- The deadline of a poll: none without a clock to keep it by. -/
def cibaDeadline : Option CibaClock → Option Int → Option Deadline
  | some _, some instant => some ⟨instant, nsPerMs⟩
  | _, _ => none

variable {env}

theorem cibaTransient_iff (resp : HttpResponse) : cibaTransient env resp = true ↔ Unheard env resp := by
  unfold cibaTransient protocolAnswer exchangeStatus Unheard
  by_cases hdelivered : resp.transportError = []
  · rw [if_pos hdelivered]
    simp only [retryShouldRetry, errorCode, hdelivered]
    cases optString (parseOrObject env.client resp.body) "error" <;> simp <;> omega
  · rw [if_neg hdelivered]
    simp [retryShouldRetry, hdelivered]

/-- An answer that says nothing adds nothing. -/
theorem refusal_of_unheard {resp : HttpResponse} (h : Unheard env resp) : refusal env resp = none := by
  unfold refusal
  rcases h with hlost | hserver | ⟨-, hnone⟩
  · exact if_neg fun h => hlost h.1
  · exact if_neg fun h => absurd h.2.2.2 (by omega)
  · rw [hnone]
    exact ite_self _

theorem awaitNext_none {resp : HttpResponse} (h : refusal env resp = none) (interval : Int) :
    awaitNext env interval resp = none := by
  unfold awaitNext
  rw [h]
  exact if_neg (by rintro (h | h | h) <;> cases h)

theorem refusal_of_unnamed {resp : HttpResponse} (h : errorCode env resp = none) :
    refusal env resp = none := by
  unfold refusal
  rw [h]
  exact ite_self _

/-! ## The waits -/

theorem passesDeadline_writes (clock : CibaClock) (instant ms : Int) :
    Prog.Writes DeviceClient.journal (passesDeadline (some clock) (some instant) ms) fun new r =>
      ∃ now, new = [.clock now] ∧ r = .ok (decide (instant ≤ now + ms * nsPerMs)) :=
  fun c => ⟨_, rfl, (clock.now c.ticks).ns, rfl, rfl⟩

/-- A wait that is given up when it would pass the deadline or has passed it. -/
theorem wait_writes {α : Type} {clock : Option CibaClock} {deadline : Option Int} {ms : Int}
    {stop go : Prog DeviceClient Exc α} {R : List (Moment Answer) → Except Exc α → Prop}
    (hstop : ∀ late, Overdue ms (cibaDeadline clock deadline) late →
      Prog.Writes DeviceClient.journal stop fun more r => R (late ++ more) r)
    (hgo : ∀ wait, Waited ms (cibaDeadline clock deadline) wait →
      Prog.Writes DeviceClient.journal go fun more r => R (wait ++ more) r) :
    Prog.Writes DeviceClient.journal
      (do
        let late ← passesDeadline clock deadline ms
        if late = true then stop
        else do
          sleep ms
          let overslept ← passesDeadline clock deadline 0
          if overslept = true then stop else go) R := by
  have hsleep : Prog.Writes DeviceClient.journal (sleep ms) fun new r =>
      new = [.slept ms] ∧ r = .ok () := fun c => ⟨_, rfl, rfl, rfl⟩
  by_cases htimed : ∃ c i, clock = some c ∧ deadline = some i
  · obtain ⟨clock, instant, rfl, rfl⟩ := htimed
    refine (passesDeadline_writes clock instant ms).bind (fun _ _ h => nomatch h.choose_spec.2) ?_
    rintro _ late ⟨before, rfl, hlate⟩
    cases hlate
    refine Prog.Writes.ite (fun hlate => hstop _ (.foreseen (by simpa using hlate))) fun hahead => ?_
    have hahead : before + ms * nsPerMs < instant := by simpa using hahead
    refine hsleep.bind (fun _ _ h => nomatch h.2) ?_
    rintro _ _ ⟨rfl, -⟩
    refine (passesDeadline_writes clock instant 0).bind (fun _ _ h => nomatch h.choose_spec.2) ?_
    rintro _ overslept ⟨after, rfl, hoverslept⟩
    cases hoverslept
    refine Prog.Writes.ite (fun hlate => ?_) fun hawake => ?_
    · exact (hstop _ (.overslept hahead (by simpa using hlate))).weaken fun _ _ h => by simpa using h
    · exact (hgo _ (.watched hahead (by simpa using hawake))).weaken fun _ _ h => by simpa using h
  · have hnone : ∀ ms, passesDeadline clock deadline ms = pure false := by
      intro ms
      unfold passesDeadline
      split
      · exact absurd ⟨_, _, rfl, rfl⟩ htimed
      · rfl
    have hfree : cibaDeadline clock deadline = none := by
      unfold cibaDeadline
      split
      · exact absurd ⟨_, _, rfl, rfl⟩ htimed
      · rfl
    rw [hnone, hnone]
    show Prog.Writes _ (sleep ms >>= fun _ => go) R
    refine hsleep.bind (fun _ _ h => nomatch h.2) ?_
    rintro _ _ ⟨rfl, -⟩
    rw [hfree] at hgo
    exact hgo _ .free

/-! ## One poll -/

/-- An error of a poll that is not an OAuth error the response names. -/
def CibaError (env : GrantEnv) (resp : HttpResponse) (e : Exc) : Prop :=
  (∃ what cause, e = .network what cause ∧ (resp.transportError ≠ [] ∨ 500 ≤ resp.status)) ∨
    (resp.transportError = [] ∧ resp.status < 500 ∧ GrantError env resp e)

/-- What `ciba_poll_once` reports of its last answer: the tokens a `2xx` holds, or how reading them
failed; for any other response its error; none when the deadline came first. -/
def CibaReports (env : GrantEnv) (config : OidcConfiguration) :
    Option Answer → Except Exc CibaPollOutcome → Prop
  | none, r => r = .ok (.failed cibaRetryExpired false)
  | some (.error e), r => r = .error e
  | some (.ok resp), r =>
      if resp.transportError = [] ∧ resp.isSuccess = true then
        ∃ c, r = ((parseTokenSet env resp.body config none c).1.map CibaPollOutcome.tokens)
      else ∃ e, r = .ok (.failed e (cibaTransient env resp)) ∧ CibaError env resp e

variable (env) in
theorem cibaFailure_error (resp : HttpResponse) (c : DeviceClient) :
    ∃ e, (cibaFailure env resp c).1 = .ok e ∧ CibaError env resp e := by
  unfold cibaFailure exchangeStatus
  by_cases hdelivered : resp.transportError = []
  · rw [if_pos hdelivered]
    dsimp only
    by_cases hserver : 500 ≤ resp.status
    · rw [if_pos hserver]
      exact ⟨_, rfl, .inl ⟨_, _, rfl, .inr hserver⟩⟩
    · rw [if_neg hserver, Prog.tryCatch_run]
      have hthrows := raiseGrantError_throws (α := Exc) env "ciba poll failed" resp c trivial
      rcases hrun : raiseGrantError env "ciba poll failed" resp c with ⟨e | a, c'⟩
      · rw [hrun] at hthrows
        exact ⟨e, rfl, .inr ⟨hdelivered, by omega, hthrows⟩⟩
      · rw [hrun] at hthrows
        exact hthrows.elim
  · rw [if_neg hdelivered]
    exact ⟨_, rfl, .inl ⟨_, _, rfl, .inl hdelivered⟩⟩

theorem keeps_cibaFailure (resp : HttpResponse) :
    Prog.Keeps DeviceClient.journal (cibaFailure env resp) := by
  unfold cibaFailure
  refine Prog.Keeps.tryCatch ?_ fun e => Prog.Keeps.ret e
  split
  · exact Prog.Keeps.raise _
  · exact Prog.Keeps.ite (Prog.Keeps.raise _) (keeps_raiseGrantError journal_inert.ticks _ _)

/-- The last answer is reported, and nothing is written on the way. -/
theorem cibaConclude_reports (config : OidcConfiguration) (resp : HttpResponse) :
    Prog.Writes DeviceClient.journal (cibaConclude env config resp) fun new r =>
      new = [] ∧ CibaReports env config (some (.ok resp)) r := by
  unfold cibaConclude
  refine Prog.Writes.ite (fun hsuccess => ?_) fun hfail => ?_
  · refine .keeps ?_ fun c => ⟨rfl, ?_⟩
    · exact (keeps_parseTokenSet journal_inert.toBeside _ _ _).bind fun set => Prog.Keeps.ret _
    · show if _ then _ else _
      rw [if_pos hsuccess]
      refine ⟨c, ?_⟩
      rw [Prog.bind_run]
      rcases parseTokenSet env resp.body config none c with ⟨e | set, c'⟩ <;> rfl
  · refine .keeps ?_ fun c => ⟨rfl, ?_⟩
    · exact (keeps_cibaFailure resp).bind fun e => Prog.Keeps.ret _
    · show if _ then _ else _
      rw [if_neg hfail]
      obtain ⟨e, he, herror⟩ := cibaFailure_error env resp c
      refine ⟨e, ?_, herror⟩
      rw [Prog.bind_run_ok (Prod.ext he rfl)]
      rfl

/-- The attempts of a poll follow the policy, and the last answer is reported. -/
theorem cibaAttempts_follows (config : OidcConfiguration) (req : HttpRequest)
    (clock : Option CibaClock) (deadline : Option Int) (left attempt : Nat) :
    Prog.Writes DeviceClient.journal (cibaAttempts env config req clock deadline left attempt)
      fun new r => ∃ last, Follows (cibaPolicy env) (cibaDeadline clock deadline) left attempt new
        last ∧ CibaReports env config last r := by
  have hthrew : ∀ {left attempt new} {e : Exc}, new = [Moment.sent (.error e : Answer)] →
      ∃ last, Follows (cibaPolicy env) (cibaDeadline clock deadline) left attempt new last ∧
        CibaReports env config last (.error e) := by
    rintro left attempt _ e rfl
    refine ⟨_, .done (.inr ?_), rfl⟩
    rintro ⟨resp, hresp, -⟩
    cases hresp
  have hdone : ∀ {left attempt resp}, left = 0 ∨ ¬Unheard env resp →
      Prog.Writes DeviceClient.journal (cibaConclude env config resp) fun more r =>
        ∃ last, Follows (cibaPolicy env) (cibaDeadline clock deadline) left attempt
          ([.sent (.ok resp)] ++ more) last ∧ CibaReports env config last r := by
    intro left attempt resp h
    refine (cibaConclude_reports config resp).weaken ?_
    rintro _ r ⟨rfl, hreports⟩
    refine ⟨_, .done (h.imp_right fun h => ?_), hreports⟩
    rintro ⟨_, ⟨⟩, hagain⟩
    exact h hagain
  induction left generalizing attempt with
  | zero =>
      refine (exchangeToken_writes req).bind (fun _ e => hthrew) ?_
      rintro _ resp rfl
      exact hdone (.inl rfl)
  | succ left ih =>
      refine (exchangeToken_writes req).bind (fun _ e => hthrew) ?_
      rintro _ resp rfl
      refine Prog.Writes.ite (fun hdecided => hdone (.inr ?_)) fun htransient => ?_
      · rw [← cibaTransient_iff, hdecided]
        exact Bool.false_ne_true
      have hagain : (cibaPolicy env).again (.ok resp) :=
        ⟨resp, rfl, (cibaTransient_iff resp).mp (by simpa using htransient)⟩
      refine delay_writes fun w hw => ?_
      have hwait : (cibaPolicy env).wait attempt (.ok resp) w := ⟨resp, rfl, hw⟩
      refine wait_writes (fun late hlate => ?_) fun wait hwaited => ?_
      · refine .ret ⟨none, ?_, rfl⟩
        rw [List.append_nil]
        exact .expired hagain hwait hlate
      · refine (ih (attempt + 1)).weaken ?_
        rintro more r ⟨last, hrest, hreports⟩
        exact ⟨last, by simpa using Follows.again hagain hwait hwaited hrest, hreports⟩

/-- The `catch` arm of the loop sorts the errors of a poll as their responses ask. -/
theorem awaitAfter_error {resp : HttpResponse} {e : Exc} (hheard : ¬Unheard env resp)
    (hfail : ¬(resp.transportError = [] ∧ resp.isSuccess = true)) (h : CibaError env resp e)
    (interval : Int) : awaitAfter interval e = awaitNext env interval resp := by
  rcases h with ⟨what, cause, rfl, hlost | hserver⟩ | ⟨hdelivered, hbelow, hgrant⟩
  · exact absurd (.inl hlost) hheard
  · exact (awaitNext_none (if_neg fun h => absurd h.2.2.2 (by omega)) interval).symm
  have hfail : resp.isSuccess = false := by simpa using fun h => hfail ⟨hdelivered, h⟩
  cases hgrant with
  | unread hunread =>
      refine (awaitNext_none ?_ interval).symm
      rcases hunread with hredirect | hnone
      · exact if_neg fun h => h.2.2.1 hredirect
      · exact refusal_of_unnamed hnone
  | unauthenticated hnone => exact (awaitNext_none (refusal_of_unnamed hnone) interval).symm
  | denied hnone => exact (awaitNext_none (refusal_of_unnamed hnone) interval).symm
  | @read code message description hint hread hcode =>
      have hrefusal : refusal env resp = some code := by
        unfold refusal
        rw [if_pos ⟨hdelivered, hfail, hread, hbelow⟩, hcode]
      show (if _ then _ else _) = (if _ then some (interval + if _ then _ else _) else _)
      rw [hrefusal]
      by_cases hpending : code = str "authorization_pending"
      · subst hpending
        rw [if_pos (.inl rfl), if_pos (.inl rfl), if_neg (by decide), Int.add_zero]
      by_cases hlimit : code = str "rate_limit_exceeded"
      · subst hlimit
        rw [if_pos (.inr rfl), if_pos (.inr (.inl rfl)), if_neg (by decide), Int.add_zero]
      by_cases hslow : code = str "slow_down"
      · subst hslow
        rfl
      · rw [if_neg (not_or.mpr ⟨hpending, hlimit⟩), if_neg hslow, if_neg]
        rintro (h | h | h)
        · exact hpending (Option.some.inj h)
        · exact hlimit (Option.some.inj h)
        · exact hslow (Option.some.inj h)

/-! ## One turn -/

/-- The interval a turn goes on with. -/
def awaitGoesOn : Except Exc (OidcTokenSet ⊕ Int) → Option Int
  | .ok (.inr next) => some next
  | _ => none

/-- The wait of a turn: its end came before the deadline as the code reckoned it, and was found
to. -/
def AwaitWaited (deadline interval : Int) (wait : List (Moment Answer)) : Prop :=
  ∃ (now : Instant) (awake : Int),
    wait = [.clock now.ns, .slept (interval * 1000), .clock awake] ∧
      awaitDue now interval < deadline ∧ awake < deadline

/-- What a turn at `interval` writes, and how it ends: it waits before it sends anything, only an
answer that says nothing is sent again within its poll, and the last answer says how the loop goes
on, unless the deadline comes first. -/
structure AwaitWritten (env : GrantEnv) (deadline interval : Int) (new : List (Moment Answer))
    (r : Except Exc (OidcTokenSet ⊕ Int)) : Prop where
  timed : Timed deadline new
  waits : sends new ≠ [] → ∃ wait answer rest, AwaitWaited deadline interval wait ∧
    new = wait ++ .sent answer :: rest
  resent : ∀ answer ∈ (sends new).dropLast, ∃ resp, answer = .ok resp ∧ Unheard env resp
  goesOn : ∀ next, awaitGoesOn r = some next → ∃ answer, (sends new).getLast? = some answer ∧
    Again env answer ∧ next = Json.wrapInt64 (interval + awaitSlowDown env answer)
  again : ∀ answer, (sends new).getLast? = some answer → Again env answer →
    (∃ next, r = .ok (.inr next)) ∨ r = .error cibaRetryExpired

/-- A turn that sends nothing ends the loop. -/
theorem awaitWritten_silent {deadline interval : Int} {new : List (Moment Answer)} {e : Exc}
    (htimed : Timed deadline new) (hsilent : sends new = []) :
    AwaitWritten env deadline interval new (.error e) where
  timed := htimed
  waits := fun h => absurd hsilent h
  resent := by
    intro answer h
    rw [hsilent] at h
    cases h
  goesOn := nofun
  again := by
    intro answer h
    rw [hsilent] at h
    cases h

/-- A turn that waited and polled. -/
theorem awaitWritten_polled {deadline interval : Int} {wait new : List (Moment Answer)}
    {last : Option Answer} {r : Except Exc (OidcTokenSet ⊕ Int)}
    (hwait : AwaitWaited deadline interval wait)
    (hfollows : Follows (cibaPolicy env) (some ⟨deadline, nsPerMs⟩) (grantRetries env true) 1 new last)
    (hnone : last = none → r = .error cibaRetryExpired)
    (hnext : ∀ answer, last = some answer →
      (∀ next, awaitGoesOn r = some next →
        Again env answer ∧ next = Json.wrapInt64 (interval + awaitSlowDown env answer)) ∧
      (Again env answer → ∃ next, r = .ok (.inr next))) :
    AwaitWritten env deadline interval (wait ++ new) r := by
  have hwaited := hwait
  obtain ⟨now, awake, rfl, -, hawake⟩ := hwait
  have hsends : sends ([.clock now.ns, .slept (interval * 1000), .clock awake] ++ new) = sends new :=
    rfl
  refine ⟨timed_wait hawake hfollows.onTime, fun _ => ?_, fun answer h => ?_, fun next h => ?_, ?_⟩
  · obtain ⟨answer, rest, rfl⟩ := hfollows.head
    exact ⟨_, answer, rest, hwaited, rfl⟩
  · rw [hsends] at h
    exact hfollows.resent answer h
  · cases last with
    | none =>
        rw [hnone rfl] at h
        cases h
    | some answer =>
        obtain ⟨hagain, hinterval⟩ := (hnext answer rfl).1 next h
        exact ⟨answer, by rw [hsends]; exact hfollows.getLast, hagain, hinterval⟩
  · intro answer h hagain
    cases last with
    | none => exact .inr (hnone rfl)
    | some answer' =>
        rw [hsends, hfollows.getLast] at h
        cases h
        exact .inl ((hnext answer rfl).2 hagain)

/-- A poll that cannot be built writes nothing; any other is its attempts. -/
theorem cibaPollOnce_writes (config : OidcConfiguration) (authReqId tenant : Str)
    (clock : Option CibaClock) (deadline : Option Int) :
    Prog.Writes DeviceClient.journal (cibaPollOnce env config authReqId tenant clock deadline)
      fun new r => (new = [] ∧ ∃ e, r = .error e) ∨
        ∃ last, Follows (cibaPolicy env) (cibaDeadline clock deadline) (grantRetries env true) 1 new
          last ∧ CibaReports env config last r := by
  unfold cibaPollOnce
  refine .bind_keeps (Prog.Keeps.lift _) (fun _ e _ => .inl ⟨rfl, e, rfl⟩) fun _ auth _ => ?_
  refine .bind_keeps (Prog.Keeps.lift _) (fun _ e _ => .inl ⟨rfl, e, rfl⟩) fun _ endpoint _ => ?_
  exact (cibaAttempts_follows config _ clock deadline _ 1).weaken fun _ _ h => .inr h

variable (env) in
theorem not_asksAgain_of_success {resp : HttpResponse} (hdelivered : resp.transportError = [])
    (hsuccess : resp.isSuccess = true) : ¬AsksAgain env resp := by
  have hstatus := status_of_success hsuccess
  have hrefusal : refusal env resp = none := if_neg fun h => by
    rw [hsuccess] at h
    cases h.2.1
  rintro (hunheard | hrefused)
  · rcases hunheard with hlost | hserver | ⟨hlimit, -⟩
    · exact hlost hdelivered
    · omega
    · omega
  · rw [hrefusal] at hrefused
    rcases hrefused with h | h | h <;> cases h

theorem reports_success {config : OidcConfiguration} {resp : HttpResponse}
    {r : Except Exc CibaPollOutcome} (hsuccess : resp.transportError = [] ∧ resp.isSuccess = true)
    (h : CibaReports env config (some (.ok resp)) r) :
    ∃ c, r = (parseTokenSet env resp.body config none c).1.map CibaPollOutcome.tokens := by
  change if _ then _ else _ at h
  rwa [if_pos hsuccess] at h

theorem reports_failure {config : OidcConfiguration} {resp : HttpResponse}
    {r : Except Exc CibaPollOutcome} (hfail : ¬(resp.transportError = [] ∧ resp.isSuccess = true))
    (h : CibaReports env config (some (.ok resp)) r) :
    ∃ e, r = .ok (.failed e (cibaTransient env resp)) ∧ CibaError env resp e := by
  change if _ then _ else _ at h
  rwa [if_neg hfail] at h

/-- The loop goes on exactly when the last answer asks for another poll. -/
theorem awaitSettle_next {config : OidcConfiguration} {answer : Answer} (interval : Int)
    {outcome : CibaPollOutcome} (h : CibaReports env config (some answer) (.ok outcome)) :
    (∀ next, awaitGoesOn (awaitSettle interval outcome) = some next →
      Again env answer ∧ next = interval + awaitSlowDown env answer) ∧
    (Again env answer → ∃ next, awaitSettle interval outcome = .ok (.inr next)) := by
  cases answer with
  | error e => cases h
  | ok resp =>
      by_cases hsuccess : resp.transportError = [] ∧ resp.isSuccess = true
      · have hlast := not_asksAgain_of_success env hsuccess.1 hsuccess.2
        obtain ⟨c, hc⟩ := reports_success hsuccess h
        rcases hread : (parseTokenSet env resp.body config none c).1 with e | set
        · rw [hread] at hc
          cases hc
        · rw [hread] at hc
          cases hc
          exact ⟨fun _ h => (by cases h), fun hagain => absurd hagain hlast⟩
      · obtain ⟨e, he, herror⟩ := reports_failure hsuccess h
        cases he
        by_cases hunheard : Unheard env resp
        · have hsettle : awaitSettle interval (.failed e (cibaTransient env resp)) =
              .ok (.inr interval) := if_pos ((cibaTransient_iff resp).mpr hunheard)
          rw [hsettle]
          refine ⟨?_, fun _ => ⟨interval, rfl⟩⟩
          rintro _ ⟨⟩
          refine ⟨.inl hunheard, ?_⟩
          show interval = interval + if _ then _ else _
          rw [refusal_of_unheard hunheard, if_neg nofun, Int.add_zero]
        · have hdecided : cibaTransient env resp ≠ true := fun h =>
            hunheard ((cibaTransient_iff resp).mp h)
          have hafter := awaitAfter_error hunheard hsuccess herror interval
          by_cases hasks : refusal env resp = some (str "authorization_pending") ∨
              refusal env resp = some (str "rate_limit_exceeded") ∨
              refusal env resp = some (str "slow_down")
          · have hsettle : awaitSettle interval (.failed e (cibaTransient env resp)) =
                .ok (.inr (interval + awaitSlowDown env (.ok resp))) := by
              simp only [awaitSettle]
              rw [if_neg hdecided, hafter.trans (if_pos hasks)]
            rw [hsettle]
            refine ⟨?_, fun _ => ⟨_, rfl⟩⟩
            rintro _ ⟨⟩
            exact ⟨.inr hasks, rfl⟩
          · have hsettle : awaitSettle interval (.failed e (cibaTransient env resp)) = .error e := by
              simp only [awaitSettle]
              rw [if_neg hdecided, hafter.trans (if_neg hasks)]
            rw [hsettle]
            refine ⟨fun _ h => (by cases h), ?_⟩
            rintro (h | h)
            · exact absurd h hunheard
            · exact absurd h hasks

/-- So it does with the interval as it is kept. -/
theorem awaitSettle_kept {config : OidcConfiguration} {answer : Answer} {interval : Int}
    {outcome : CibaPollOutcome} (h : CibaReports env config (some answer) (.ok outcome)) :
    (∀ next, awaitGoesOn ((awaitSettle interval outcome).map (Sum.map id Json.wrapInt64)) = some next →
      Again env answer ∧ next = Json.wrapInt64 (interval + awaitSlowDown env answer)) ∧
    (Again env answer →
      ∃ next, (awaitSettle interval outcome).map (Sum.map id Json.wrapInt64) = .ok (.inr next)) := by
  obtain ⟨hgoes, hagain⟩ := awaitSettle_next interval h
  refine ⟨fun next hnext => ?_, fun hasks => ?_⟩
  · rcases hsettle : awaitSettle interval outcome with e | set | exact <;> rw [hsettle] at hnext hgoes
    · cases hnext
    · cases hnext
    · obtain ⟨hasks, hexact⟩ := hgoes exact rfl
      cases hnext
      exact ⟨hasks, congrArg Json.wrapInt64 hexact⟩
  · obtain ⟨next, hnext⟩ := hagain hasks
    rw [hnext]
    exact ⟨_, rfl⟩

variable (env) in
/-- The poll of a turn that waited. -/
theorem awaitPoll_writes {grant : CibaGrant} {interval : Int} {wait : List (Moment Answer)}
    (hwait : AwaitWaited grant.deadline interval wait) :
    Prog.Writes DeviceClient.journal
      (do
        let outcome ← cibaPollOnce env grant.config grant.authReqId grant.tenant (some grant.clock)
          (some grant.deadline)
        Prog.lift ((awaitSettle interval outcome).map (Sum.map id Json.wrapInt64)))
      fun more r => AwaitWritten env grant.deadline interval (wait ++ more) r := by
  refine (cibaPollOnce_writes grant.config grant.authReqId grant.tenant (some grant.clock)
    (some grant.deadline)).bind ?_ ?_
  · rintro new e (⟨rfl, -⟩ | ⟨last, hfollows, hreports⟩)
    · -- a poll that cannot be built sends nothing
      obtain ⟨now, awake, rfl, -, hawake⟩ := hwait
      exact awaitWritten_silent (timed_wait hawake (onTime_nil _)) rfl
    · refine awaitWritten_polled hwait hfollows ?_ ?_
      · rintro rfl
        cases hreports
      · rintro answer rfl
        refine ⟨nofun, fun hagain => ?_⟩
        cases answer with
        | error _ => exact hagain.elim
        | ok resp =>
            by_cases hsuccess : resp.transportError = [] ∧ resp.isSuccess = true
            · exact absurd hagain (not_asksAgain_of_success env hsuccess.1 hsuccess.2)
            · obtain ⟨_, he, -⟩ := reports_failure hsuccess hreports
              cases he
  rintro new outcome (⟨-, e, he⟩ | ⟨last, hfollows, hreports⟩)
  · cases he
  refine .lift ?_
  rw [List.append_nil]
  refine awaitWritten_polled hwait hfollows ?_ ?_
  · rintro rfl
    cases hreports
    rfl
  · rintro answer rfl
    exact awaitSettle_kept hreports

variable (env) in
theorem awaitOnce_writes (grant : CibaGrant) (interval : Int) :
    Prog.Writes DeviceClient.journal (awaitOnce env grant interval)
      (AwaitWritten env grant.deadline interval) := by
  have hlook : Prog.Writes DeviceClient.journal grant.clock.read fun new r =>
      ∃ now : Instant, new = [.clock now.ns] ∧ r = .ok now :=
    fun c => ⟨_, rfl, grant.clock.now c.ticks, rfl, rfl⟩
  have hsleep : Prog.Writes DeviceClient.journal (sleep (interval * 1000)) fun new r =>
      new = [.slept (interval * 1000)] ∧ r = .ok () := fun c => ⟨_, rfl, rfl, rfl⟩
  unfold awaitOnce
  refine hlook.bind (fun _ _ h => nomatch h.choose_spec.2) ?_
  rintro _ now ⟨_, rfl, ⟨⟩⟩
  refine Prog.Writes.ite (fun _ => .raise ?_) fun hahead => ?_
  · exact awaitWritten_silent (timed_look _ _) rfl
  refine hsleep.bind (fun _ _ h => nomatch h.2) ?_
  rintro _ _ ⟨rfl, -⟩
  refine (passesDeadline_writes grant.clock grant.deadline 0).bind
    (fun _ _ h => nomatch h.choose_spec.2) ?_
  rintro _ overslept ⟨awake, rfl, ⟨⟩⟩
  refine Prog.Writes.ite (fun _ => .raise ?_) fun hawake => ?_
  · exact awaitWritten_silent (timed_overslept _ _ _ _) rfl
  exact awaitPoll_writes env ⟨now, awake, rfl, by omega, by simpa using hawake⟩

/-! ## What fits in 64 bits -/

/-- An interval that a turn computes with exactly. -/
def IntervalFits (interval : Int) : Prop := 1 ≤ interval ∧ interval ≤ 3400000000

theorem IntervalFits.kept {interval : Int} (h : IntervalFits interval) :
    Json.wrapInt64 interval = interval := by
  unfold IntervalFits at h
  exact wrapInt64_of_isInt64 (by unfold IsInt64; omega)

theorem IntervalFits.due {interval : Int} (h : IntervalFits interval) (now : Instant) :
    awaitDue now interval = now.ns + interval * nsPerSecond := by
  have hrange := now.inRange
  unfold IntervalFits at h
  unfold awaitDue nsPerSecond
  rw [wrapInt64_of_isInt64 (i := interval * 1000000000) (by unfold IsInt64; omega)]
  exact wrapInt64_of_isInt64 (by unfold IsInt64; omega)

/-- A wait that ends before the deadline has an interval that can grow. -/
theorem IntervalFits.next {interval deadline : Int} {now : Instant} {answer : Answer}
    (h : IntervalFits interval) (hdeadline : deadline ≤ 3305843009213693952)
    (hahead : awaitDue now interval < deadline) :
    IntervalFits (interval + awaitSlowDown env answer) := by
  have hrange := now.inRange
  have hslow : awaitSlowDown env answer = 0 ∨ awaitSlowDown env answer = 5 := by
    cases answer with
    | error _ => exact .inl rfl
    | ok resp =>
        exact (ite_eq_or_eq (refusal env resp = some (str "slow_down")) (5 : Int) 0).symm
  rw [h.due] at hahead
  unfold IntervalFits nsPerSecond at *
  omega

/-! ## The loop -/

/-- The answers of the token endpoint so far. -/
def CibaAwait.answers (s : CibaAwait) : List Answer := sends s.client.journal

/-- Where the loop stands after a turn. -/
def awaitProgress : Except Exc (OidcTokenSet ⊕ Int) → AwaitProgress
  | .ok (.inl set) => .ended (.ok set)
  | .ok (.inr next) => .polling next
  | .error e => .ended (.error e)

variable (env) in
theorem awaitTurn_written (grant : CibaGrant) (interval : Int) (c : DeviceClient) :
    ∃ new r, (CibaAwait.turn env grant interval c).client.journal = c.journal ++ new ∧
      (CibaAwait.turn env grant interval c).progress = awaitProgress r ∧
      AwaitWritten env grant.deadline interval new r := by
  obtain ⟨new, hnew, hturn⟩ := awaitOnce_writes env grant interval c
  have hrun : CibaAwait.turn env grant interval c =
      ⟨(awaitOnce env grant interval c).2, awaitProgress (awaitOnce env grant interval c).1⟩ := by
    unfold CibaAwait.turn
    rcases awaitOnce env grant interval c with ⟨e | set | next, c'⟩ <;> rfl
  rw [hrun]
  exact ⟨new, _, hnew, rfl, hturn⟩

/-- An answer that is not polled past is the last one, and the loop has ended. -/
def AwaitTerminal (env : GrantEnv) (s : CibaAwait) : Prop :=
  ∀ earlier answer later, s.answers = earlier ++ answer :: later → ¬Again env answer →
    later = [] ∧ ∃ outcome, s.progress = .ended outcome

/-- What a state of the loop owes to the answers before it. -/
structure AwaitPaced (env : GrantEnv) (deadline start : Int) (s : CibaAwait) : Prop where
  fits : ∀ i, s.progress = .polling i → IntervalFits i
  timed : Timed deadline s.client.journal
  interval : ∀ i, s.progress = .polling i → i = start + (s.answers.map (awaitSlowDown env)).sum
  terminal : AwaitTerminal env s

theorem again_of_unheard {answer : Answer} (h : ∃ resp, answer = .ok resp ∧ Unheard env resp) :
    Again env answer := by
  obtain ⟨resp, rfl, hunheard⟩ := h
  exact .inl hunheard

theorem slowDown_of_unheard {answer : Answer} (h : ∃ resp, answer = .ok resp ∧ Unheard env resp) :
    awaitSlowDown env answer = 0 := by
  obtain ⟨resp, rfl, hunheard⟩ := h
  refine if_neg ?_
  rw [refusal_of_unheard hunheard]
  nofun

/-- Answers that say nothing add nothing together. -/
theorem sum_slowDown_zero {answers : List Answer}
    (h : ∀ answer ∈ answers, ∃ resp, answer = .ok resp ∧ Unheard env resp) :
    (answers.map (awaitSlowDown env)).sum = 0 := by
  induction answers with
  | nil => rfl
  | cons answer rest ih =>
      rw [List.map_cons, List.sum_cons, slowDown_of_unheard (h answer List.mem_cons_self),
        ih fun a ha => h a (List.mem_cons_of_mem answer ha)]
      rfl

/-- While the loop goes on, it has polled past every answer. -/
theorem AwaitPaced.past {deadline start interval : Int} {s : CibaAwait}
    (h : AwaitPaced env deadline start s) (hpolling : s.progress = .polling interval) :
    ∀ answer ∈ s.answers, Again env answer := by
  intro answer hmem
  by_contra hlast
  obtain ⟨earlier, later, hsplit⟩ := List.append_of_mem hmem
  obtain ⟨-, outcome, hended⟩ := h.terminal earlier answer later hsplit hlast
  rw [hpolling] at hended
  cases hended

/-- An entry that stands apart from all but the last is the last. -/
theorem last_of_dropLast {ι : Type} {P : ι → Prop} {l earlier later : List ι} {x : ι}
    (h : ∀ y ∈ l.dropLast, P y) (hsplit : l = earlier ++ x :: later) (hx : ¬P x) : later = [] := by
  by_contra hne
  refine hx (h x ?_)
  rw [hsplit, List.dropLast_append_of_ne_nil (List.cons_ne_nil _ _),
    List.dropLast_cons_of_ne_nil hne]
  exact List.mem_append_right _ List.mem_cons_self

theorem AwaitPaced.turn {grant : CibaGrant} (hdeadline : grant.deadline ≤ 3305843009213693952)
    {start : Int} (s : CibaAwait) (u : Unit) (t : CibaAwait)
    (h : AwaitPaced env grant.deadline start s) (hstep : CibaAwait.Turns env grant s u t) :
    AwaitPaced env grant.deadline start t := by
  obtain ⟨interval, hpolling, rfl⟩ := hstep
  have hpast := h.past hpolling
  obtain ⟨new, r, hnew, hprogress, hturn⟩ := awaitTurn_written env grant interval s.client
  generalize CibaAwait.turn env grant interval s.client = t at *
  have hanswers : t.answers = s.answers ++ sends new := by
    show sends t.client.journal = _
    rw [hnew, sends_append]
    rfl
  have hgoes : ∀ next, t.progress = .polling next → awaitGoesOn r = some next := by
    intro next hnext
    rw [hprogress] at hnext
    rcases r with e | set | n
    · cases hnext
    · cases hnext
    · cases hnext
      rfl
  -- what the loop keeps has not wrapped
  have hexact : ∀ next, t.progress = .polling next → ∃ answer, (sends new).getLast? = some answer ∧
      next = interval + awaitSlowDown env answer ∧ IntervalFits next := by
    intro next hnext
    obtain ⟨answer, hlast, -, rfl⟩ := hturn.goesOn next (hgoes next hnext)
    have hsent : sends new ≠ [] := by
      rintro hnone
      rw [hnone] at hlast
      cases hlast
    obtain ⟨_, _, _, ⟨now, _, -, hahead, -⟩, -⟩ := hturn.waits hsent
    have hfits : IntervalFits (interval + awaitSlowDown env answer) :=
      (h.fits interval hpolling).next hdeadline hahead
    rw [hfits.kept]
    exact ⟨answer, hlast, rfl, hfits⟩
  refine ⟨fun next hnext => ?_, ?_, fun next hnext => ?_, fun earlier answer later hsplit hlast => ?_⟩
  · obtain ⟨-, -, -, hfits⟩ := hexact next hnext
    exact hfits
  · rw [hnew]
    exact h.timed.append hturn.timed
  · obtain ⟨answer, hlast, rfl, -⟩ := hexact next hnext
    -- the answers sent again within the poll add nothing
    have hsplit : sends new = (sends new).dropLast ++ [answer] :=
      (List.dropLast_append_getLast? answer hlast).symm
    have hresent := sum_slowDown_zero hturn.resent
    have hfirst := h.interval interval hpolling
    rw [hanswers, hsplit]
    simp only [List.map_append, List.sum_append, List.map_cons, List.map_nil, List.sum_cons,
      List.sum_nil, hresent]
    omega
  · have hothers : ∀ a ∈ (s.answers ++ sends new).dropLast, Again env a := by
      intro a ha
      by_cases hsilent : sends new = []
      · rw [hsilent, List.append_nil] at ha
        exact hpast a (List.dropLast_subset _ ha)
      · rw [List.dropLast_append_of_ne_nil hsilent] at ha
        rcases List.mem_append.mp ha with ha | ha
        · exact hpast a ha
        · exact again_of_unheard (hturn.resent a ha)
    rw [hanswers] at hsplit
    obtain rfl := last_of_dropLast hothers hsplit hlast
    refine ⟨rfl, ?_⟩
    -- had the loop gone on, its last answer would have asked for it
    cases hended : t.progress with
    | ended outcome => exact ⟨outcome, rfl⟩
    | polling next =>
        obtain ⟨a, ha, hagain, -⟩ := hturn.goesOn next (hgoes next hended)
        have hsame : (s.answers ++ sends new).getLast? = some a := by
          rw [List.getLast?_append, ha]
          rfl
        rw [hsplit, List.getLast?_concat] at hsame
        cases hsame
        exact absurd hagain hlast

/-- The start of a wait: the deadline of the request, and its interval or five seconds. -/
theorem startAwait_started {initiated : CibaInitiateResponse} {options : CibaAwaitOptions}
    {c₀ c : DeviceClient} {grant : CibaGrant} {start : Int}
    (hstart : startAwait env initiated options c₀ = (.ok (grant, start), c)) :
    grant.deadline =
        initiated.receivedAt.ns + max 0 (min initiated.expiresIn 1000000000) * 1000 * nsPerMs ∧
      start = (if 0 < initiated.interval then initiated.interval else kCibaDefaultIntervalSeconds) ∧
      c.journal = c₀.journal := by
  have hkeeps : Prog.Keeps DeviceClient.journal (startAwait env initiated options) := by
    have hf := journal_inert
    unfold startAwait
    exact (keeps_onClient hf _).bind fun _ => Prog.Keeps.ite (Prog.Keeps.raise _)
      ((Prog.Keeps.lift _).bind fun _ => (Prog.Keeps.lift _).bind fun tenant =>
        (keeps_onClient hf _).bind fun config => Prog.Keeps.ret _)
  have hreturns : Prog.Returns (startAwait env initiated options) fun started _ =>
      started.1.deadline =
          initiated.receivedAt.ns + max 0 (min initiated.expiresIn 1000000000) * 1000 * nsPerMs ∧
        started.2 = if 0 < initiated.interval then initiated.interval
          else kCibaDefaultIntervalSeconds := by
    unfold startAwait
    exact Prog.Returns.seq fun _ => Prog.Returns.ite (fun _ => Prog.Returns.raise _) fun _ =>
      Prog.Returns.seq fun _ => Prog.Returns.seq fun _ => Prog.Returns.seq fun _ =>
        Prog.Returns.ret fun _ => ⟨rfl, rfl⟩
  have hkeep := hkeeps c₀
  rw [hstart] at hkeep
  obtain ⟨hdeadline, hinterval⟩ := hreturns.elim hstart
  exact ⟨hdeadline, hinterval, hkeep⟩

def AwaitProgress.polling? : AwaitProgress → Option Int
  | .polling interval => some interval
  | .ended _ => none

/-- The turn the loop takes next. -/
def CibaAwait.next (env : GrantEnv) (grant : CibaGrant) (s : CibaAwait) : Option CibaAwait :=
  s.progress.polling?.map fun interval => CibaAwait.turn env grant interval s.client

theorem CibaAwait.turns_next {env : GrantEnv} {grant : CibaGrant} (s t : CibaAwait)
    (h : s.next env grant = some t) : CibaAwait.Turns env grant s () t := by
  obtain ⟨interval, hpolling, rfl⟩ := Option.map_eq_some_iff.mp h
  refine ⟨interval, ?_, rfl⟩
  cases hprogress : s.progress with
  | polling i =>
      rw [hprogress] at hpolling
      cases hpolling
      rfl
  | ended _ =>
      rw [hprogress] at hpolling
      cases hpolling

/-- A provider that answers the polls from a script. -/
def cibaEnv (script : List HttpResponse) : GrantEnv :=
  { deviceEnv script with
    oidcClientSecret := some "secret"
    client := { (deviceEnv script).client with
      parse := fun text =>
        if text = str "unnamed" then some (.object [("error", .string [])]) else pacedParse text
      transport := fun sent _ =>
        .ok ((⟨200, [], [], "discovery", []⟩ :: script).getD sent.length {}) } }

/-- A `429` whose error member is empty, three times, and a redirect that names `slow_down`. -/
def unreadScript : List HttpResponse :=
  [⟨429, [], [], "unnamed", []⟩, ⟨429, [], [], "unnamed", []⟩, ⟨429, [], [], "unnamed", []⟩,
    ⟨302, [], [], "slow", []⟩, ⟨200, [], [], "tokens", []⟩]

def unreadStart : Except Exc (CibaGrant × Int) × DeviceClient :=
  startAwait (cibaEnv unreadScript) ⟨"request", 600, 5, 0⟩ { clock := ⟨fun _ => 0⟩ } {}

theorem unread_starts : unreadStart.1.toOption.isSome = true := by decide +kernel

def unreadGrant : CibaGrant := (unreadStart.1.toOption.get unread_starts).1

def unreadInterval : Int := (unreadStart.1.toOption.get unread_starts).2

def unreadAwait (turns : Nat) : List (Transition CibaAwait Unit) × CibaAwait :=
  Run.play (CibaAwait.next (cibaEnv unreadScript) unreadGrant) turns ⟨unreadStart.2, .polling unreadInterval⟩

theorem unread_started :
    startAwait (cibaEnv unreadScript) ⟨"request", 600, 5, 0⟩ { clock := ⟨fun _ => 0⟩ } {} =
      (.ok (unreadGrant, unreadInterval), unreadStart.2) :=
  Prod.ext (ok_of_isSome unread_starts) rfl

theorem unreadAwait_run (turns : Nat) :
    Run (CibaAwait.Turns (cibaEnv unreadScript) unreadGrant)
      ⟨unreadStart.2, .polling unreadInterval⟩ (unreadAwait turns).1 (unreadAwait turns).2 :=
  Run.run_play CibaAwait.turns_next _ _

end Axiam.Oidc
