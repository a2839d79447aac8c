import Axiam.Oidc.CibaAwait
import Axiam.Oidc.IdToken
import Axiam.Retry.Accounting
import Axiam.Ssf.Bound
import Axiam.Ssf.Exchange

/-!
# One policy for five loops

The SDK writes its retry out five times: `execute_retrying`, `Transport::send`, `token_grant`,
`ciba_poll_once` and `SsfReceiver::poll`.  Here is the policy they share, and that each of them
refines it.  They differ in what they leave alone (a poll of the device grant its `429`, a CIBA
poll a protocol answer), in what a transport that throws does to them, and in one thing more: the
headers describe a response only where one arrived, and the first two read a `Retry-After` only
there, while the last three read it among the headers of an exchange that failed.
-/

namespace Axiam.Retry

open Axiam.Lib Axiam.Lib.Prog Axiam.Client Axiam.Management

/-- The wall clock, and how it reads an HTTP date. -/
structure WallClock where
  nowSeconds : Nat → Int
  httpDate : Str → Option Int

/-- The usable `Retry-After` of a response at a reading of the clock, in milliseconds. -/
def WallClock.hint (wall : WallClock) (resp : HttpResponse) (reading : Nat) : Option Int :=
  (resp.headers.find? "Retry-After").bind fun value =>
    retryAfterFromHeader wall.httpDate value (wall.nowSeconds reading)

/-- An answer that decides nothing: a transport failure, a `408`, a `429` and a `5xx`. -/
def Transient : Answer → Prop
  | .ok resp => resp.transportError ≠ [] ∨ resp.status = 408 ∨ resp.status = 429 ∨
      (500 ≤ resp.status ∧ resp.status ≤ 599)
  | .error e => e.isNetwork = true

/-- What the transport threw. -/
def Thrown (a : Answer) : Prop := ∃ e, a = .error e

/-- A response that arrived. -/
def Arrived (resp : HttpResponse) : Prop := resp.transportError = []

/-- The wait `w` after an attempt is what `retry_delay` says: a jittered backoff, or the hint of a
response that counts where that is longer. -/
structure WaitsAt (wall : WallClock) (counts : HttpResponse → Prop) (reading attempt : Nat)
    (a : Answer) (w : Int) : Prop where
  floor : ∀ resp hint, a = .ok resp → counts resp → wall.hint resp reading = some hint → hint ≤ w
  backoff : (∀ resp, a = .ok resp → counts resp → wall.hint resp reading = none) →
    0 ≤ w ∧ w ≤ retryBackoff attempt
  delay : ∃ jittered hint, 0 ≤ jittered ∧ jittered ≤ retryBackoff attempt ∧
    w = retryDelay jittered hint ∧
      (hint = none ∨ ∃ resp, a = .ok resp ∧ counts resp ∧ hint = wall.hint resp reading)

/-- The policy: a transient answer is tried again, unless the loop leaves it alone. -/
def retryPolicy (wall : WallClock) (exempt : Answer → Prop) (counts : HttpResponse → Prop) :
    RetryPolicy Answer where
  again a := Transient a ∧ ¬exempt a
  wait attempt a w := ∃ reading, WaitsAt wall counts reading attempt a w

/-- A jitter is a fraction of the backoff. -/
def Jitters (jittered : Nat → Int → Int) : Prop :=
  ∃ round, Rounding round ∧ ∃ fraction : Nat → ℚ, jittered = fun tick => jitterOf round (fraction tick)

/-- A loop refines a policy: what it sends and how it waits is the policy's, it sends at most three
times and once where it has no retry, and it reports its last answer, or that the deadline came. -/
structure Refines (P : RetryPolicy Answer) (deadline : Option Deadline) (retries : Nat)
    (Reports : Option Answer → Prop) (moments : List (Moment Answer)) : Prop where
  follows : ∃ last, Follows P deadline retries 1 moments last ∧ Reports last
  bounded : (sends moments).length ≤ 3
  once : retries = 0 → (sends moments).length = 1

/-- No exchange that failed and that a loop did not stop at has a usable `Retry-After` longer than
the backoff of its attempt. -/
def Unmisled (wall : WallClock) (moments : List (Moment Answer)) : Prop :=
  ∀ before resp after, moments = before ++ .sent (.ok resp) :: after → after ≠ [] → ¬Arrived resp →
    ∀ reading hint, wall.hint resp reading = some hint →
      hint ≤ retryBackoff ((sends before).length + 1)

/-- An exchange that failed and was sent again has one, whenever the clock is read. -/
def Misled (wall : WallClock) (moments : List (Moment Answer)) : Prop :=
  ∃ before resp after, moments = before ++ .sent (.ok resp) :: after ∧ sends after ≠ [] ∧
    ¬Arrived resp ∧ ∀ reading, ∃ hint, wall.hint resp reading = some hint ∧
      retryBackoff ((sends before).length + 1) < hint

/-- A loop that reads the headers of a failed exchange refines the policy that lets them count, and
the one that does not where they do not mislead it. -/
structure RefinesUnmisled (wall : WallClock) (exempt : Answer → Prop) (deadline : Option Deadline)
    (retries : Nat) (Reports : Option Answer → Prop) (moments : List (Moment Answer)) : Prop where
  reading : Refines (retryPolicy wall exempt fun _ => True) deadline retries Reports moments
  unmisled : Unmisled wall moments →
    Refines (retryPolicy wall exempt Arrived) deadline retries Reports moments
  misled : Misled wall moments →
    ¬Refines (retryPolicy wall exempt Arrived) deadline retries Reports moments

section

variable {wall : WallClock} {exempt : Answer → Prop} {counts : HttpResponse → Prop}
  {P Q : RetryPolicy Answer}

theorem transient_ok_iff {resp : HttpResponse} : Transient (.ok resp) ↔
    retryShouldRetry (if resp.transportError = [] then some resp.status else none) = true := by
  by_cases hdelivered : resp.transportError = []
  · simp [Transient, retryShouldRetry, hdelivered, or_assoc]
  · simp [Transient, retryShouldRetry, hdelivered]

theorem Jitters.bounds {jittered : Nat → Int → Int} (h : Jitters jittered) (tick attempt : Nat) :
    0 ≤ jittered tick (retryBackoff attempt) ∧
      jittered tick (retryBackoff attempt) ≤ retryBackoff attempt := by
  obtain ⟨round, hround, fraction, rfl⟩ := h
  exact jitterOf_bounds hround (fraction tick) attempt

theorem le_retryDelay (jittered floor : Int) : floor ≤ retryDelay jittered (some floor) :=
  le_max_right _ _

/-- A wait that reads the hint of its response. -/
theorem waitsAt_hinted {reading attempt : Nat} {resp : HttpResponse} {jittered : Int}
    (hcounts : counts resp) (hlow : 0 ≤ jittered) (hhigh : jittered ≤ retryBackoff attempt) :
    WaitsAt wall counts reading attempt (.ok resp) (retryDelay jittered (wall.hint resp reading)) where
  floor := by
    rintro _ hint ⟨⟩ - hhint
    rw [hhint]
    exact le_retryDelay jittered hint
  backoff hnone := by
    rw [hnone resp rfl hcounts]
    exact ⟨hlow, hhigh⟩
  delay := ⟨jittered, _, hlow, hhigh, rfl, .inr ⟨resp, rfl, hcounts, rfl⟩⟩

/-- A wait within the backoff, where no response counts. -/
theorem waitsAt_unhinted {reading attempt : Nat} {a : Answer} {jittered : Int}
    (hnone : ∀ resp, a = .ok resp → ¬counts resp)
    (hlow : 0 ≤ jittered) (hhigh : jittered ≤ retryBackoff attempt) :
    WaitsAt wall counts reading attempt a jittered where
  floor resp _ ha hcounts := absurd hcounts (hnone resp ha)
  backoff _ := ⟨hlow, hhigh⟩
  delay := ⟨jittered, none, hlow, hhigh, rfl, .inl rfl⟩

/-- A loop that follows a policy with at most two retries refines another that tries the same
again and allows its waits. -/
theorem refines_of_follows {deadline : Option Deadline} {retries : Nat}
    {Reports : Option Answer → Prop} {moments : List (Moment Answer)} {last : Option Answer}
    (hretries : retries ≤ kRetryMaxAttempts - 1) (hagain : ∀ a, P.again a ↔ Q.again a)
    (hwait : ∀ n a w, P.again a → P.wait n a w → Q.wait n a w)
    (h : Follows P deadline retries 1 moments last) (hreports : Reports last) :
    Refines Q deadline retries Reports moments where
  follows := ⟨last, h.weaken hagain hwait, hreports⟩
  bounded := by
    have hlength := h.length_sends
    have : kRetryMaxAttempts - 1 = 2 := rfl
    omega
  once := by
    rintro rfl
    exact h.once

end

/-! ## Headers that mislead -/

section

variable {wall : WallClock} {exempt : Answer → Prop} {attempt : Nat} {w : Int}

theorem retryPolicy_again {counts counts' : HttpResponse → Prop} (a : Answer) :
    (retryPolicy wall exempt counts).again a ↔ (retryPolicy wall exempt counts').again a := Iff.rfl

/-- A wait that heeds every response is one that heeds those that arrived, unless the headers of an
exchange that failed made it longer than the backoff. -/
theorem waitsAt_arrived {a : Answer} {reading : Nat}
    (h : WaitsAt wall (fun _ => True) reading attempt a w)
    (hshort : ∀ resp, a = .ok resp → ¬Arrived resp →
      ∀ hint, wall.hint resp reading = some hint → hint ≤ retryBackoff attempt) :
    WaitsAt wall Arrived reading attempt a w := by
  obtain ⟨jittered, hint, hlow, hhigh, rfl, hread⟩ := h.delay
  rcases hread with rfl | ⟨resp, rfl, -, rfl⟩
  · exact ⟨fun resp hint ha _ => h.floor resp hint ha trivial, fun _ => ⟨hlow, hhigh⟩,
      jittered, none, hlow, hhigh, rfl, .inl rfl⟩
  by_cases harrived : Arrived resp
  · exact waitsAt_hinted harrived hlow hhigh
  refine waitsAt_unhinted (by rintro _ ⟨⟩; exact harrived) ?_ ?_
  · rcases wall.hint resp reading with _ | hint
    · exact hlow
    · exact le_trans hlow (le_max_left _ _)
  · rcases hhint : wall.hint resp reading with _ | hint
    · exact hhigh
    · exact max_le hhigh (hshort resp rfl harrived hint hhint)

/-- After an exchange that failed, the policy waits within the backoff. -/
theorem WaitsAt.failed {reading : Nat} {resp : HttpResponse}
    (h : WaitsAt wall Arrived reading attempt (.ok resp) w) (hfailed : ¬Arrived resp) :
    w ≤ retryBackoff attempt :=
  (h.backoff (by rintro _ ⟨⟩ harrived; exact absurd harrived hfailed)).2

/-- A loop that reads every header it is given. -/
theorem refinesUnmisled {deadline : Option Deadline} {retries : Nat}
    {Reports : Option Answer → Prop} {moments : List (Moment Answer)}
    (h : Refines (retryPolicy wall exempt fun _ => True) deadline retries Reports moments) :
    RefinesUnmisled wall exempt deadline retries Reports moments := by
  obtain ⟨last, hfollows, hreports⟩ := h.follows
  refine ⟨h, fun hunmisled => ⟨⟨last, ?_, hreports⟩, h.bounded, h.once⟩, ?_⟩
  · refine hfollows.transfer retryPolicy_again ?_
    rintro before o after w hsplit hafter - ⟨reading, hwaits⟩
    refine ⟨reading, waitsAt_arrived hwaits ?_⟩
    rintro resp rfl hfailed hint hhint
    have hshort := hunmisled before resp after hsplit hafter hfailed reading hint hhint
    rwa [Nat.add_comm] at hshort
  · rintro ⟨before, resp, after, hsplit, hlater, hfailed, hlong⟩ hstrict
    obtain ⟨_, hstrict, -⟩ := hstrict.follows
    -- the wait there is one wait, too long for the one policy and as the other asks
    obtain ⟨w, wait, rest, ⟨reading, hwaits⟩, hwaited, hafter⟩ := hfollows.waited hsplit hlater
    obtain ⟨w', wait', rest', ⟨_, hwaits'⟩, hwaited', hafter'⟩ := hstrict.waited hsplit hlater
    obtain rfl := hwaited.unique hwaited' (hafter.symm.trans hafter')
    obtain ⟨hint, hhint, hover⟩ := hlong reading
    have hfloor := hwaits.floor resp hint rfl trivial hhint
    have hceiling := hwaits'.failed hfailed
    rw [Nat.add_comm] at hceiling
    omega

end

/-! ## `execute_retrying` and `Transport::send` -/

section

variable (env : RetryEnv)

def RetryEnv.wall : WallClock := ⟨env.nowSeconds, env.httpDate⟩

/-- The moments of a log. -/
def momentsOf (r : Recorded Impl Entry) : List (Moment Answer) := moments r.log

/-- The policy of the two loops: a `NetworkError` of the transport is held. -/
def attemptPolicy : RetryPolicy Answer where
  again a := ∃ outcome, kept a = .ok outcome ∧ retryShouldRetry (statusOf outcome) = true
  wait attempt a w := ∃ outcome, kept a = .ok outcome ∧ WaitAfter env attempt outcome w

/-- What `execute_retrying` reports of one answer. -/
def accessReport (a : Answer) : Except Exc HttpResponse := (received a).bind fun resp =>
  reportedAccess env (.ok resp)

/-- What `execute_retrying` reports, and what it sends besides, of the last answer of its attempts:
the answer; or, after a `401`, that the refresh failed, or the answer to the request once more. -/
inductive AccessReports (last : Answer) : List (Moment Answer) → Except Exc HttpResponse → Prop
  | reported : AccessReports last [] (accessReport env last)
  | unrefreshed {resp : HttpResponse} {e : Exc} : received last = .ok resp → resp.status = 401 →
      AccessReports last [] (.error e)
  | resent {resp : HttpResponse} {again : Answer} : received last = .ok resp → resp.status = 401 →
      AccessReports last [.sent again] (accessReport env again)

/-- What `Transport::send` reports of its last answer. -/
def managedReport (operation : Str) (a : Answer) : Except Exc Json := (received a).bind fun resp =>
  settle env.client operation (.ok resp)

variable {env}

theorem emit_momentsOf (event : TelemetryEvent) : Keeps momentsOf (emit env event) := by
  unfold emit
  split
  · exact Keeps.ret _
  · refine Keeps.bind (fun r => ?_) fun _ => Keeps.tryCatch (Keeps.lift _) fun _ => Keeps.ret _
    show moments (r.log ++ [.event event]) = moments r.log
    rw [moments_append, moments_event, moments_nil, List.append_nil]

theorem emit_sends (event : TelemetryEvent) :
    Writes momentsOf (emit env event) fun new r => new = [] ∧ r = .ok () :=
  .keeps (emit_momentsOf event) fun r => ⟨rfl, by
    obtain ⟨_, t, hrun, -⟩ := emit_silent env event r
    rw [hrun]⟩

theorem sendTold_sends (req : HttpRequest) : Writes momentsOf (sendTold env req) fun new r =>
    ∃ a, new = [.sent a] ∧ r = received a := by
  refine ((sendTold_writes env req).along moments_append).weaken ?_
  rintro _ r ⟨_, rfl, a, rfl, hr⟩
  exact ⟨a, rfl, hr⟩

theorem keepTold_sends {m : Told HttpResponse} (h : Writes Recorded.log m fun new r =>
    ∃ a, new = [.moment (.sent a)] ∧ r = received a) :
    Writes momentsOf (keepTold m) fun new r => ∃ a, new = [.sent a] ∧ r = kept a := by
  refine ((keepTold_writes h).along moments_append).weaken ?_
  rintro _ r ⟨_, rfl, a, rfl, hr⟩
  exact ⟨a, rfl, hr⟩

variable (env) in
/-- One attempt is one request. -/
theorem attemptTold_sends (operation method template : Str) {sendOnce : Told HttpResponse}
    (hsend : Writes Recorded.log sendOnce fun new r =>
      ∃ a, new = [.moment (.sent a)] ∧ r = received a) (attempt : Nat) :
    Writes momentsOf (attemptTold env operation method template sendOnce attempt) fun new r =>
      ∃ a, new = [.sent a] ∧ r = kept a := by
  refine (emit_sends _).bind (fun _ _ h => nomatch h.2) ?_
  rintro _ _ ⟨rfl, -⟩
  refine .bind_keeps (fun _ => rfl) (fun _ _ h => nomatch h) fun _ started _ => ?_
  refine (keepTold_sends hsend).bind (fun _ _ h => h) ?_
  rintro _ outcome ⟨a, rfl, ha⟩
  refine .bind_keeps (fun _ => rfl) (fun _ _ h => nomatch h) fun _ ended _ => ?_
  refine (emit_sends _).bind (fun _ _ h => nomatch h.2) ?_
  rintro _ _ ⟨rfl, -⟩
  exact .ret ⟨a, rfl, ha⟩

/-- The attempts follow the policy, and what comes after them is the settlement of the last. -/
theorem attempting_follows {α : Type} {operation method template : Str}
    {sendOnce : Told HttpResponse} (hsend : Writes Recorded.log sendOnce fun new r =>
      ∃ a, new = [.moment (.sent a)] ∧ r = received a)
    {settle : Nat → Except Exc HttpResponse → Told α}
    {S : Except Exc HttpResponse → List (Moment Answer) → Except Exc α → Prop}
    (hsettle : ∀ attempt outcome, Writes momentsOf (settle attempt outcome) (S outcome))
    (retries attempt : Nat) :
    Writes momentsOf (attempting env operation method template sendOnce settle retries attempt)
      fun new r => ∃ first more last, new = first ++ more ∧
        Follows (attemptPolicy env) none retries attempt first (some last) ∧
          ((∃ e, kept last = .error e ∧ more = [] ∧ r = .error e) ∨
            ∃ outcome, kept last = .ok outcome ∧ S outcome more r) := by
  have hattempt := attemptTold_sends env operation method template hsend
  have hthrown : ∀ {retries attempt} {e : Exc} {a : Answer}, kept a = .error e →
      Follows (attemptPolicy env) none retries attempt [.sent a] (some a) := by
    intro retries attempt e a ha
    refine .done (.inr ?_)
    rintro ⟨outcome, hkept, -⟩
    rw [ha] at hkept
    cases hkept
  induction retries generalizing attempt with
  | zero =>
      refine (hattempt attempt).bind ?_ ?_
      · rintro _ e ⟨a, rfl, ha⟩
        exact ⟨_, [], a, rfl, hthrown ha.symm, .inl ⟨e, ha.symm, rfl, rfl⟩⟩
      · rintro _ outcome ⟨a, rfl, ha⟩
        exact (hsettle attempt outcome).weaken fun more r h =>
          ⟨_, more, a, rfl, .done (.inl rfl), .inr ⟨outcome, ha.symm, h⟩⟩
  | succ retries ih =>
      refine (hattempt attempt).bind ?_ ?_
      · rintro _ e ⟨a, rfl, ha⟩
        exact ⟨_, [], a, rfl, hthrown ha.symm, .inl ⟨e, ha.symm, rfl, rfl⟩⟩
      rintro _ outcome ⟨a, rfl, ha⟩
      refine Writes.ite (fun hretry => ?_) fun hdecided => ?_
      · refine waitAfter_writes env (fun _ _ => rfl) fun w hw => ?_
        refine (emit_sends _).bind (fun _ _ h => nomatch h.2) ?_
        rintro _ _ ⟨rfl, -⟩
        have hslept : Writes momentsOf (sleepTold w) fun new r => new = [.slept w] ∧ r = .ok () := by
          refine ((record_writes _).along moments_append).weaken ?_
          rintro _ r ⟨_, rfl, rfl, hr⟩
          exact ⟨rfl, hr⟩
        refine hslept.bind (fun _ _ h => nomatch h.2) ?_
        rintro _ _ ⟨rfl, -⟩
        refine (ih (attempt + 1)).weaken ?_
        rintro _ r ⟨first, more, last, rfl, hrest, hreport⟩
        have hagain : (attemptPolicy env).again a := ⟨outcome, ha.symm, hretry⟩
        have hwait : (attemptPolicy env).wait attempt a w := ⟨outcome, ha.symm, hw⟩
        have hwaited : Waited w none [(.slept w : Moment Answer)] := .free
        exact ⟨_, more, last, by simp, Follows.again hagain hwait hwaited hrest, hreport⟩
      · refine (hsettle attempt outcome).weaken fun more r h => ?_
        refine ⟨_, more, a, rfl, .done (.inr ?_), .inr ⟨outcome, ha.symm, h⟩⟩
        rintro ⟨outcome', hkept, hretry⟩
        rw [← ha] at hkept
        cases hkept
        exact hdecided hretry

theorem kept_error (e : Exc) :
    kept (.error e) = if e.isNetwork then .ok (.error e) else .error e := rfl

/-- What is received of an answer that is kept. -/
theorem received_of_kept {a : Answer} {outcome : Except Exc HttpResponse}
    (h : kept a = .ok outcome) : received a = outcome := by
  cases a with
  | ok resp => exact Except.ok.inj h
  | error e =>
      rw [kept_error] at h
      by_cases hnet : e.isNetwork = true
      · rw [if_pos hnet] at h
        exact Except.ok.inj h
      · rw [if_neg hnet] at h
        cases h

theorem received_of_thrown {a : Answer} {e : Exc} (h : kept a = .error e) :
    received a = .error e := by
  cases a with
  | ok resp => cases h
  | error e' =>
      rw [kept_error] at h
      by_cases hnet : e'.isNetwork = true
      · rw [if_pos hnet] at h
        cases h
      · rw [if_neg hnet] at h
        cases h
        rfl

theorem status_of_received {a : Answer} {resp : HttpResponse} (h : received a = .ok resp) :
    a = .ok resp ∧ resp.transportError = [] := by
  cases a with
  | error e => cases h
  | ok resp' =>
      change (if _ then _ else _) = _ at h
      by_cases hdelivered : resp'.transportError = []
      · rw [if_pos hdelivered] at h
        cases h
        exact ⟨rfl, hdelivered⟩
      · rw [if_neg hdelivered] at h
        cases h

/-- What the two loops try again is what is transient. -/
theorem attemptPolicy_again (a : Answer) :
    (attemptPolicy env).again a ↔ (retryPolicy env.wall (fun _ => False) Arrived).again a := by
  show (∃ outcome, kept a = .ok outcome ∧ retryShouldRetry (statusOf outcome) = true) ↔
    Transient a ∧ ¬False
  rw [not_false_eq_true, and_true]
  cases a with
  | error e =>
      show _ ↔ e.isNetwork = true
      rw [kept_error]
      by_cases hnet : e.isNetwork = true
      · rw [if_pos hnet]
        exact iff_of_true ⟨_, rfl, rfl⟩ hnet
      · rw [if_neg hnet]
        exact iff_of_false (fun ⟨_, h, _⟩ => nomatch h) hnet
  | ok resp =>
      rw [transient_ok_iff]
      have hstatus : statusOf (delivered resp) =
          if resp.transportError = [] then some resp.status else none := by
        unfold delivered
        by_cases hdelivered : resp.transportError = []
        · rw [if_pos hdelivered, if_pos hdelivered]
          rfl
        · rw [if_neg hdelivered, if_neg hdelivered]
          rfl
      rw [← hstatus]
      constructor
      · rintro ⟨_, ⟨⟩, hretry⟩
        exact hretry
      · exact fun hretry => ⟨_, rfl, hretry⟩

theorem attemptPolicy_wait (hjitter : Jitters env.jittered) {attempt : Nat} {a : Answer} {w : Int}
    (h : (attemptPolicy env).wait attempt a w) :
    (retryPolicy env.wall (fun _ => False) Arrived).wait attempt a w := by
  obtain ⟨outcome, hkept, now, tick, rfl⟩ := h
  obtain ⟨hlow, hhigh⟩ := hjitter.bounds tick attempt
  refine ⟨now, ?_⟩
  have hreceived := received_of_kept hkept
  cases outcome with
  | ok resp =>
      obtain ⟨rfl, harrived⟩ := status_of_received hreceived
      exact waitsAt_hinted harrived hlow hhigh
  | error e =>
      refine waitsAt_unhinted ?_ hlow hhigh
      rintro resp rfl harrived
      have hdelivered : received (.ok resp) = .ok resp := if_pos harrived
      rw [hdelivered] at hreceived
      cases hreceived

/-- The request after a refresh. -/
theorem resendTold_sends (operation path body : Str) (attempt : Nat) :
    Writes momentsOf (resendTold env operation path body attempt) fun new r =>
      ∃ a, new = [.sent a] ∧ r = accessReport env a := by
  refine (emit_sends _).bind (fun _ _ h => nomatch h.2) ?_
  rintro _ _ ⟨rfl, -⟩
  refine .bind_keeps (fun _ => rfl) (fun _ _ h => nomatch h) fun _ started _ => ?_
  refine .bind_keeps (fun _ => rfl) (fun _ _ h => nomatch h) fun _ r _ => ?_
  refine (sendTold_sends _).bind ?_ ?_
  · rintro _ e ⟨a, rfl, ha⟩
    exact ⟨a, rfl, by rw [accessReport, ← ha]; rfl⟩
  rintro _ resp ⟨a, rfl, ha⟩
  refine .bind_keeps (fun _ => rfl) (fun _ _ h => nomatch h) fun _ ended _ => ?_
  refine (emit_sends _).bind (fun _ _ h => nomatch h.2) ?_
  rintro _ _ ⟨rfl, -⟩
  refine .keeps (fun _ => rfl) fun r => ⟨a, rfl, ?_⟩
  rw [accessReport, ← ha]
  exact orRaise_reports env resp r.state

theorem readRetries_le (client : Env) : readRetries client ≤ kRetryMaxAttempts - 1 := by
  unfold readRetries
  split <;> omega

/-- **`execute_retrying` refines the policy**, with one request more after a `401`. -/
theorem executeRetrying_refines (hjitter : Jitters env.jittered) (operation path body : Str) :
    Writes momentsOf (executeRetrying env operation path body) fun new r => ∃ first more,
      new = first ++ more ∧ Refines (retryPolicy env.wall (fun _ => False) Arrived) none
        (readRetries env.client)
        (fun last => ∃ a, last = some a ∧ AccessReports env a more r) first := by
  have hsend : Writes Recorded.log (sendAccess env path body) fun new r =>
      ∃ a, new = [.moment (.sent a)] ∧ r = received a :=
    .bind_keeps Keeps.read (fun _ _ h => nomatch h) fun _ r _ => sendTold_writes env _
  have hsettle : ∀ attempt outcome,
      Writes momentsOf (settleAccess env operation path body attempt outcome)
        fun more r => ∀ a, received a = outcome → AccessReports env a more r := by
    intro attempt outcome
    have hreport : ∀ a, received a = outcome →
        AccessReports env a [] (outcome.bind fun resp => reportedAccess env (.ok resp)) := by
      rintro a rfl
      exact .reported
    cases outcome with
    | error e => exact .raise hreport
    | ok resp =>
        have hreport : ∀ a, received a = .ok resp →
            AccessReports env a [] (reportedAccess env (.ok resp)) := hreport
        refine Writes.ite (fun hsuccess => .ret ?_) fun hfail => ?_
        · rwa [reported_success env hsuccess] at hreport
        rw [reported_refused env hfail] at hreport
        refine .bind_keeps Keeps.read (fun _ _ h => nomatch h) fun _ r _ => ?_
        refine Writes.ite (fun hrefresh => ?_) fun _ => .raise hreport
        have hrefreshed : Keeps momentsOf (refreshTold env) := by
          refine Keeps.bind (fun _ => rfl) fun _ => Keeps.read.bind fun _ => ?_
          refine Keeps.bind (fun _ => rfl) fun _ => Keeps.read.bind fun _ => ?_
          exact Keeps.bind (fun _ => rfl) fun _ => emit_momentsOf _
        refine .bind_keeps hrefreshed (fun _ e _ a ha => .unrefreshed ha hrefresh.1) fun _ _ _ => ?_
        refine (resendTold_sends operation path body (attempt + 1)).weaken ?_
        rintro _ _ ⟨again, rfl, rfl⟩ a ha
        exact .resent ha hrefresh.1
  refine (attempting_follows hsend hsettle _ 1).weaken ?_
  rintro _ r ⟨first, more, last, rfl, hfollows, hreport⟩
  refine ⟨first, more, rfl, ?_⟩
  refine refines_of_follows (readRetries_le env.client) attemptPolicy_again
    (fun _ _ _ _ => attemptPolicy_wait hjitter) hfollows ⟨last, rfl, ?_⟩
  rcases hreport with ⟨e, hthrown, rfl, rfl⟩ | ⟨outcome, hkept, hsettled⟩
  · have hreport : AccessReports env last [] (accessReport env last) := .reported
    rwa [accessReport, received_of_thrown hthrown] at hreport
  · exact hsettled last (received_of_kept hkept)

/-- An operation that sends: the client is open, a caller is signed in, and the body can be
written. -/
structure SendReady (client : Env) (body : Option Json) (s : Impl) : Prop where
  opened : s.closed = false
  session : s.hasSession = true
  payload : ∃ payload, payloadOf client body = .ok payload

/-- **`Transport::send` refines the policy.** -/
theorem send_refines (hjitter : Jitters env.jittered) (operation method template : Str)
    (values : List (Str × Str)) (query : List (Str × Option Str)) (body : Option Json) :
    WritesIf momentsOf (send env operation method template values query body)
      (fun r => SendReady env.client body r.state) fun new r =>
        Refines (retryPolicy env.wall (fun _ => False) Arrived) none (retriesOf env.client method)
          (fun last => ∃ a, last = some a ∧ r = managedReport env operation a) new := by
  have hretries : retriesOf env.client method ≤ kRetryMaxAttempts - 1 := by
    unfold retriesOf
    split
    · exact readRetries_le env.client
    · exact Nat.zero_le _
  have hopen : ∀ s : Impl, s.closed = false ↔ ∃ a, (ensureOpen s).1 = .ok a := by
    intro s
    cases hclosed : s.closed with
    | false => exact iff_of_true rfl ⟨(), by rw [ensureOpen_run_open hclosed]⟩
    | true =>
        rw [ensureOpen_run_closed hclosed]
        exact iff_of_false nofun nofun
  have hsession : ∀ s : Impl, s.hasSession = true ↔ ∃ a, (sessionCheck operation s).1 = .ok a :=
    fun s => (sessionCheck_ok_iff operation s).symm.trans ⟨fun h => ⟨(), h⟩, fun ⟨_, h⟩ => h⟩
  suffices h : WritesIf momentsOf (send env operation method template values query body)
      (fun r => r.state.closed = false ∧ r.state.hasSession = true ∧
        (∃ payload, payloadOf env.client body = .ok payload) ∧ True) _ from
    h.congr fun r => ⟨fun h => ⟨h.1, h.2.1, h.2.2.1⟩,
      fun h => ⟨h.opened, h.session, h.payload, trivial⟩⟩
  refine .check (recorded_check fun s => ?_) (fun r => hopen r.state) fun _ => ?_
  · exact ensureOpen_keeps (f := id) s
  refine .check (recorded_check fun s => ?_) (fun r => hsession r.state) fun _ => ?_
  · exact sessionCheck_keeps (f := id) operation s
  refine .check_lift fun payload _ => .of_writes ?_
  have hsend : ∀ path, Writes Recorded.log (sendManaged env method path payload) fun new r =>
      ∃ a, new = [.moment (.sent a)] ∧ r = received a := fun path =>
    .bind_keeps Keeps.read (fun _ _ h => nomatch h) fun _ r _ => sendTold_writes env _
  have hsettle : ∀ (attempt : Nat) outcome,
      Writes momentsOf (Prog.lift (settle env.client operation outcome) : Told Json) fun more r =>
        more = [] ∧ r = settle env.client operation outcome := fun _ _ => .lift ⟨rfl, rfl⟩
  refine (attempting_follows (hsend _) hsettle _ 1).weaken ?_
  rintro _ r ⟨first, more, last, rfl, hfollows, hreport⟩
  have hlast : more = [] ∧ r = managedReport env operation last := by
    unfold managedReport
    rcases hreport with ⟨e, hthrown, rfl, rfl⟩ | ⟨outcome, hkept, rfl, rfl⟩
    · rw [received_of_thrown hthrown]
      exact ⟨rfl, rfl⟩
    · rw [received_of_kept hkept]
      cases outcome <;> exact ⟨rfl, rfl⟩
  obtain ⟨rfl, hr⟩ := hlast
  rw [List.append_nil]
  exact refines_of_follows hretries attemptPolicy_again (fun _ _ _ _ => attemptPolicy_wait hjitter)
    hfollows ⟨last, rfl, hr⟩

end

/-! ## `token_grant` and `ciba_poll_once` -/

section

open Axiam.Oidc

variable (env : GrantEnv)

def grantWall : WallClock := ⟨env.nowSeconds, env.httpDate⟩

/-- What `token_grant` leaves alone: what the transport throws, and a poll's `429`. -/
def GrantExempt (retryable : Bool) (a : Answer) : Prop :=
  Thrown a ∨ retryable = true ∧ ∃ resp, a = .ok resp ∧ resp.transportError = [] ∧ resp.status = 429

/-- What `ciba_poll_once` leaves alone: what the transport throws, and a protocol answer. -/
def CibaExempt (a : Answer) : Prop :=
  Thrown a ∨ ∃ resp, a = .ok resp ∧ protocolAnswer env resp = true

/-- What `token_grant` reports of its last answer, or that the deadline came first. -/
inductive GrantReports (retryable : Bool) (context : Str) : Option Answer → Except Exc Str → Prop
  | expired : GrantReports retryable context none (.error grantExpired)
  | thrown {e : Exc} : GrantReports retryable context (some (.error e)) (.error e)
  | failed {resp : HttpResponse} : resp.transportError ≠ [] →
      GrantReports retryable context (some (.ok resp))
        (.error (.network (context ++ str ": " ++ resp.transportError) resp.transportError))
  | granted {resp : HttpResponse} : resp.transportError = [] → resp.isSuccess = true →
      GrantReports retryable context (some (.ok resp)) (.ok resp.body)
  | server {resp : HttpResponse} {what : Str} : resp.transportError = [] → retryable = true →
      500 ≤ resp.status →
      GrantReports retryable context (some (.ok resp)) (.error (.network what (httpCause resp.status)))
  | limited {resp : HttpResponse} {what : Str} (reading : Nat) : resp.transportError = [] →
      retryable = true → resp.status = 429 → GrantReports retryable context (some (.ok resp))
        (.error (.axiam (.oauthProtocol what "rate_limit_exceeded" none
          ((grantWall env).hint resp reading) (some 429))))
  | refused {resp : HttpResponse} {e : Exc} : resp.transportError = [] → resp.isSuccess = false →
      GrantError env resp e → GrantReports retryable context (some (.ok resp)) (.error e)

variable {env}

theorem readGrant_outcome (retryable : Bool) (context : Str) (resp : HttpResponse)
    (c : DeviceClient) :
    GrantReports env retryable context (some (.ok resp)) (readGrant env retryable context resp c).1 := by
  unfold readGrant
  by_cases hdelivered : resp.transportError = []
  · rw [if_neg (not_not.mpr hdelivered)]
    by_cases hsuccess : resp.isSuccess = true
    · rw [if_pos hsuccess]
      exact .granted hdelivered hsuccess
    rw [if_neg hsuccess]
    by_cases hserver : retryable = true ∧ 500 ≤ resp.status
    · rw [if_pos hserver]
      exact .server hdelivered hserver.1 hserver.2
    rw [if_neg hserver]
    by_cases hlimit : retryable = true ∧ resp.status = 429
    · rw [if_pos hlimit]
      obtain ⟨now, hnow⟩ := retryAfter_fst env resp c
      rw [Prog.bind_run_ok (Prod.ext hnow rfl)]
      exact .limited now hdelivered hlimit.1 hlimit.2
    rw [if_neg hlimit]
    have hthrows := raiseGrantError_throws (α := Str) env context resp c trivial
    rcases hrun : raiseGrantError env context resp c with ⟨e | a, c'⟩
    · rw [hrun] at hthrows
      exact .refused hdelivered (by simpa using hsuccess) hthrows
    · rw [hrun] at hthrows
      exact hthrows.elim
  · rw [if_pos hdelivered]
    exact .failed hdelivered

theorem retryWait_waits (hjitter : Jitters env.jittered) {attempt : Nat} {a : Answer} {w : Int}
    (h : ∃ resp, a = .ok resp ∧ RetryWait env attempt resp w) :
    ∃ reading, WaitsAt (grantWall env) (fun _ => True) reading attempt a w := by
  obtain ⟨resp, rfl, now, tick, rfl⟩ := h
  obtain ⟨hlow, hhigh⟩ := hjitter.bounds tick attempt
  exact ⟨now, waitsAt_hinted trivial hlow hhigh⟩

theorem grantPolicy_again (retryable : Bool) (a : Answer) : (grantPolicy env retryable).again a ↔
    (retryPolicy (grantWall env) (GrantExempt retryable) fun _ => True).again a := by
  show (∃ resp, a = .ok resp ∧ _ ∧ _) ↔ Transient a ∧ ¬GrantExempt retryable a
  cases a with
  | error e => exact iff_of_false (fun ⟨_, h, _⟩ => nomatch h) fun h => h.2 (.inl ⟨e, rfl⟩)
  | ok resp =>
      rw [transient_ok_iff]
      have hlimit : GrantExempt retryable (.ok resp) ↔
          retryable = true ∧ exchangeStatus resp = some 429 := by
        unfold GrantExempt Thrown exchangeStatus
        by_cases hdelivered : resp.transportError = [] <;> simp [hdelivered]
      rw [hlimit]
      constructor
      · rintro ⟨_, ⟨⟩, hretry, hother⟩
        exact ⟨hretry, hother⟩
      · rintro ⟨hretry, hother⟩
        exact ⟨resp, rfl, hretry, hother⟩

theorem grantRetries_le (retryable : Bool) : grantRetries env retryable ≤ kRetryMaxAttempts - 1 := by
  unfold grantRetries
  split <;> omega

/-- A document that names a token endpoint the client may use. -/
def TokenEndpointReady (env : GrantEnv) (config : OidcConfiguration) : Prop :=
  ∃ endpoint, preferredEndpoint env config MtlsEndpointAliases.tokenEndpoint
    (some config.tokenEndpoint) = .ok endpoint

/-- **`token_grant` refines the policy**, a poll's `429` apart. -/
theorem tokenGrant_refines (hjitter : Jitters env.jittered) (config : OidcConfiguration)
    (tenant form : Str) (retryable : Bool) (context : Str) (deadline : Option Int) :
    WritesIf DeviceClient.journal (tokenGrant env config tenant form retryable context deadline)
      (fun _ => TokenEndpointReady env config) fun new r =>
        RefinesUnmisled (grantWall env) (GrantExempt retryable) (inMs deadline)
          (grantRetries env retryable) (fun last => GrantReports env retryable context last r) new := by
  refine WritesIf.congr (.check_lift fun endpoint _ => .of_writes ?_) fun _ => and_iff_left trivial
  have hrefines : ∀ {last : Option Answer} {new : List (Moment Answer)} {r : Except Exc Str},
      Follows (grantPolicy env retryable) (inMs deadline) (grantRetries env retryable) 1 new last →
      GrantReports env retryable context last r →
      RefinesUnmisled (grantWall env) (GrantExempt retryable) (inMs deadline)
        (grantRetries env retryable) (fun last => GrantReports env retryable context last r) new :=
    fun hfollows hreports => refinesUnmisled (refines_of_follows (grantRetries_le retryable)
      (grantPolicy_again retryable) (fun _ _ _ _ => retryWait_waits hjitter) hfollows hreports)
  refine (attemptGrant_follows _ retryable deadline _ 1).bind ?_ ?_
  · rintro new e ⟨last, hfollows, he⟩
    refine hrefines hfollows ?_
    cases last with
    | none =>
        cases he
        exact .expired
    | some a =>
        obtain rfl : Except.error e = a := he
        exact .thrown
  · rintro new resp ⟨last, hfollows, hresp⟩
    cases last with
    | none => cases hresp
    | some a =>
        obtain rfl : Except.ok resp = a := hresp
        refine .keeps (keeps_readGrant journal_inert.toBeside retryable context resp) fun c => ?_
        rw [List.append_nil]
        exact hrefines hfollows (readGrant_outcome retryable context resp c)

theorem cibaPolicy_again (a : Answer) :
    (cibaPolicy env).again a ↔
      (retryPolicy (grantWall env) (CibaExempt env) fun _ => True).again a := by
  show (∃ resp, a = .ok resp ∧ Unheard env resp) ↔ Transient a ∧ ¬CibaExempt env a
  cases a with
  | error e => exact iff_of_false (fun ⟨_, h, _⟩ => nomatch h) fun h => h.2 (.inl ⟨e, rfl⟩)
  | ok resp =>
      have hexempt : CibaExempt env (.ok resp) ↔ protocolAnswer env resp = true := by
        simp [CibaExempt, Thrown]
      rw [transient_ok_iff, hexempt]
      have htransient : cibaTransient env resp = true ↔
          protocolAnswer env resp = false ∧ retryShouldRetry (exchangeStatus resp) = true := by
        simp [cibaTransient]
      constructor
      · rintro ⟨_, ⟨⟩, hunheard⟩
        obtain ⟨hother, hretry⟩ := htransient.mp ((cibaTransient_iff resp).mpr hunheard)
        exact ⟨hretry, by simp [hother]⟩
      · rintro ⟨hretry, hother⟩
        exact ⟨resp, rfl, (cibaTransient_iff resp).mp (htransient.mpr ⟨by simpa using hother, hretry⟩)⟩

/-- **`ciba_poll_once` refines the policy**, protocol answers apart. -/
theorem cibaPollOnce_refines (hjitter : Jitters env.jittered) (config : OidcConfiguration)
    (authReqId tenant : Str) (clock : Option CibaClock) (deadline : Option Int) :
    WritesIf DeviceClient.journal (cibaPollOnce env config authReqId tenant clock deadline)
      (fun _ => (∃ auth, cibaClientAuth env "ciba_poll" = .ok auth) ∧ TokenEndpointReady env config)
      fun new r => RefinesUnmisled (grantWall env) (CibaExempt env) (cibaDeadline clock deadline)
        (grantRetries env true) (fun last => CibaReports env config last r) new := by
  refine WritesIf.congr (.check_lift fun auth _ => .check_lift fun endpoint _ => .of_writes ?_)
    fun _ => and_congr_right fun _ => and_iff_left trivial
  refine (cibaAttempts_follows config _ clock deadline _ 1).weaken ?_
  rintro new r ⟨last, hfollows, hreports⟩
  exact refinesUnmisled (refines_of_follows (grantRetries_le true) cibaPolicy_again
    (fun _ _ _ _ => retryWait_waits hjitter) hfollows hreports)

end

/-! ## `SsfReceiver::poll` -/

section

open Axiam.Ssf

variable {env : PollEnv}

def pollWall (env : PollEnv) : WallClock := ⟨env.nowSeconds, env.httpDate⟩

theorem pollPolicy_again (a : Answer) :
    (pollPolicy env).again a ↔ (retryPolicy (pollWall env) Thrown fun _ => True).again a := by
  show (∃ resp, a = .ok resp ∧ _) ↔ Transient a ∧ ¬Thrown a
  cases a with
  | error e => exact iff_of_false (fun ⟨_, h, _⟩ => nomatch h) fun h => h.2 ⟨e, rfl⟩
  | ok resp =>
      rw [transient_ok_iff]
      constructor
      · rintro ⟨_, ⟨⟩, hretry⟩
        exact ⟨hretry, nofun⟩
      · rintro ⟨hretry, -⟩
        exact ⟨resp, rfl, hretry⟩

theorem pollPolicy_wait (hjitter : Jitters env.jittered) {attempt : Nat} {a : Answer} {w : Int}
    (h : (pollPolicy env).wait attempt a w) :
    (retryPolicy (pollWall env) Thrown fun _ => True).wait attempt a w := by
  obtain ⟨resp, rfl, now, tick, rfl⟩ := h
  obtain ⟨hlow, hhigh⟩ := hjitter.bounds tick attempt
  exact ⟨now, waitsAt_hinted trivial hlow hhigh⟩

theorem pollRetries_le : pollRetries env ≤ kRetryMaxAttempts - 1 := by
  unfold pollRetries
  split <;> omega

/-- **`SsfReceiver::poll` refines the policy.** -/
theorem poll_refines (hjitter : Jitters env.jittered) (streamId : Str) (options : SsfPollOptions) :
    WritesIf Recorded.log (pollTimed env streamId options)
      (fun r => PollReady env options r.state) fun new r =>
        RefinesUnmisled (pollWall env) Thrown none (pollRetries env)
          (fun last => ∃ a, last = some a ∧ PollReports env a r) new := by
  refine (pollTimed_writes streamId options).weaken ?_
  rintro new r ⟨a, hfollows, hreports⟩
  exact refinesUnmisled (refines_of_follows pollRetries_le pollPolicy_again
    (fun _ _ _ _ => pollPolicy_wait hjitter) hfollows ⟨a, rfl, hreports⟩)

end

/-! ## All five -/

/-- **The five loops refine one policy.**  Each begins with its first attempt, whatever script of
answers and whatever jitter it meets; and what is refused before it sends nothing.  The last three
do where no exchange that failed misleads them. -/
theorem retry_loops_refine (env : RetryEnv) (grant : Oidc.GrantEnv) (poll : Ssf.PollEnv)
    (henv : Jitters env.jittered) (hgrant : Jitters grant.jittered) (hpoll : Jitters poll.jittered) :
    (∀ operation path body, Writes momentsOf (executeRetrying env operation path body) fun new r =>
      ∃ first more, new = first ++ more ∧ Refines (retryPolicy env.wall (fun _ => False) Arrived) none
        (readRetries env.client)
        (fun last => ∃ a, last = some a ∧ AccessReports env a more r) first) ∧
    (∀ operation method template values query body,
      WritesIf momentsOf (send env operation method template values query body)
        (fun r => SendReady env.client body r.state) fun new r =>
          Refines (retryPolicy env.wall (fun _ => False) Arrived) none (retriesOf env.client method)
            (fun last => ∃ a, last = some a ∧ r = managedReport env operation a) new) ∧
    (∀ config tenant form retryable context deadline, WritesIf Oidc.DeviceClient.journal
      (Oidc.tokenGrant grant config tenant form retryable context deadline)
      (fun _ => TokenEndpointReady grant config) fun new r =>
        RefinesUnmisled (grantWall grant) (GrantExempt retryable) (Oidc.inMs deadline)
          (Oidc.grantRetries grant retryable)
          (fun last => GrantReports grant retryable context last r) new) ∧
    (∀ config authReqId tenant clock deadline, WritesIf Oidc.DeviceClient.journal
      (Oidc.cibaPollOnce grant config authReqId tenant clock deadline)
      (fun _ => (∃ auth, Oidc.cibaClientAuth grant "ciba_poll" = .ok auth) ∧
        TokenEndpointReady grant config) fun new r =>
          RefinesUnmisled (grantWall grant) (CibaExempt grant) (Oidc.cibaDeadline clock deadline)
            (Oidc.grantRetries grant true) (fun last => Oidc.CibaReports grant config last r) new) ∧
    (∀ streamId options, WritesIf Recorded.log (Ssf.pollTimed poll streamId options)
      (fun r => Ssf.PollReady poll options r.state) fun new r =>
        RefinesUnmisled (pollWall poll) Thrown none (Ssf.pollRetries poll)
          (fun last => ∃ a, last = some a ∧ Ssf.PollReports poll a r) new) ∧
    -- what is not eligible has no retry
    (∀ method, method ≠ str "GET" → retriesOf env.client method = 0) ∧
    Oidc.grantRetries grant false = 0 ∧
    -- without their logs, the loops that have one are the programs of the client and the receiver
    (∀ operation path body, Erases (executeRetrying env operation path body)
      (Client.executeRetrying env.client path body (readRetries env.client))) ∧
    (∀ operation method template values query body,
      Erases (send env operation method template values query body)
        (Management.send env.client operation method template values query body)) ∧
    ∀ streamId options, Erases (Ssf.pollTimed poll streamId options)
      (Ssf.poll poll.receiver streamId options) :=
  ⟨executeRetrying_refines henv, send_refines henv, tokenGrant_refines hgrant,
    cibaPollOnce_refines hgrant, poll_refines hpoll, fun _ h => if_neg h, rfl,
    executeRetrying_erases env, send_erases env, Ssf.pollTimed_erases poll⟩

/-! ## The headers of an exchange that failed -/

theorem jitters_whole : Jitters fun _ backoff => backoff := by
  refine ⟨id, ⟨fun _ _ h => h, fun _ _ _ => rfl⟩, fun _ => 1, ?_⟩
  funext _ backoff
  simp [jitterOf]

/-- A client whose first request is answered as `first` says. -/
def stumbling (first : HttpResponse) : RetryEnv :=
  let env := expired (.ok { status := 204 })
  { env with client := { env.client with
      transport := fun before _ => .ok (if before = [] then first else { status := 204 }) } }

/-- And a receiver. -/
def stumblingPoll (first : HttpResponse) : Ssf.PollEnv where
  receiver := { Ssf.outageEnv with
    config := { Ssf.outageEnv.config with accessTokenProvider := some (.ok (str "token")) }
    transport := fun sent _ =>
      .ok (if sent = [] then first else { status := 200, body := "\x7b\x7d" }) }
  jittered := fun _ backoff => backoff
  nowSeconds := fun _ => 0
  httpDate := fun _ => none

/-- And a client that polls the token endpoint. -/
def stumblingGrant (first : HttpResponse) : Oidc.GrantEnv :=
  { Oidc.cibaEnv [] with
    jittered := fun _ backoff => backoff
    client := { (Oidc.cibaEnv []).client with
      transport := fun sent _ =>
        .ok (if sent = [] then first else { status := 200, body := "tokens" }) } }

/-- An answer, a wait, and the answer after it. -/
def afterWait (first : HttpResponse) (ms : Int) (second : HttpResponse) : List (Moment Answer) :=
  [.sent (.ok first), .slept ms, .sent (.ok second)]

/-- Five loops at a server that is busy for two seconds: each waits them, and refines the policy. -/
theorem busyLoops_refine :
    let busy : HttpResponse := { status := 503, headers := [("Retry-After", str "2")] }
    let env := stumbling busy
    let grant := stumblingGrant busy
    let poll := stumblingPoll busy
    let signedIn : Recorded Impl Entry := { state := { session := true } }
    let check := executeRetrying env "authz.check" "/api/v1/authz/check" "\x7b\x7d" signedIn
    let list := send env "roles.list" "GET" "/api/v1/roles" [] [] none signedIn
    let granted := Oidc.tokenGrant grant Oidc.issuerConfig "acme" [] true "device poll failed" none {}
    let ciba := Oidc.cibaPollOnce grant Oidc.issuerConfig "request" "acme" none none {}
    let polled := Ssf.pollTimed poll "stream" {} { state := {} }
    (∃ first more, momentsOf check.2 = [] ++ (first ++ more) ∧
      Refines (retryPolicy env.wall (fun _ => False) Arrived) none (readRetries env.client)
        (fun last => ∃ a, last = some a ∧ AccessReports env a more check.1) first) ∧
    (∃ new, momentsOf list.2 = [] ++ new ∧
      Refines (retryPolicy env.wall (fun _ => False) Arrived) none (retriesOf env.client "GET")
        (fun last => ∃ a, last = some a ∧ list.1 = managedReport env "roles.list" a) new) ∧
    (∃ new, granted.2.journal = [] ++ new ∧
      RefinesUnmisled (grantWall grant) (GrantExempt true) none (Oidc.grantRetries grant true)
        (fun last => GrantReports grant true "device poll failed" last granted.1) new) ∧
    (∃ new, ciba.2.journal = [] ++ new ∧
      RefinesUnmisled (grantWall grant) (CibaExempt grant) none (Oidc.grantRetries grant true)
        (fun last => Oidc.CibaReports grant Oidc.issuerConfig last ciba.1) new) ∧
    (∃ new, polled.2.log = [] ++ new ∧
      RefinesUnmisled (pollWall poll) Thrown none (Ssf.pollRetries poll)
        (fun last => ∃ a, last = some a ∧ Ssf.PollReports poll a polled.1) new) ∧
    momentsOf check.2 = afterWait busy 2000 { status := 204 } ∧
    momentsOf list.2 = afterWait busy 2000 { status := 204 } ∧
    granted.2.journal = afterWait busy 2000 { status := 200, body := "tokens" } ∧
    ciba.2.journal = afterWait busy 2000 { status := 200, body := "tokens" } ∧
    polled.2.log = afterWait busy 2000 { status := 200, body := "\x7b\x7d" } := by
  intro busy env grant poll signedIn check list granted ciba polled
  obtain ⟨hcheck, hsend, hgrant, hciba, hpoll, -⟩ := retry_loops_refine env grant poll
    jitters_whole jitters_whole jitters_whole
  refine ⟨?_, ?_, ?_, ?_, ?_, by decide, by decide, by decide, by decide, by decide⟩
  · obtain ⟨_, hnew, first, more, rfl, hrefines⟩ :=
      hcheck "authz.check" "/api/v1/authz/check" "\x7b\x7d" signedIn
    exact ⟨first, more, hnew, hrefines⟩
  · obtain ⟨new, hnew, hready, -⟩ := hsend "roles.list" "GET" "/api/v1/roles" [] [] none signedIn
    exact ⟨new, hnew, hready ⟨rfl, rfl, _, rfl⟩⟩
  · obtain ⟨new, hnew, hready, -⟩ := hgrant Oidc.issuerConfig "acme" [] true "device poll failed" none {}
    exact ⟨new, hnew, hready ⟨_, rfl⟩⟩
  · obtain ⟨new, hnew, hready, -⟩ := hciba Oidc.issuerConfig "request" "acme" none none {}
    exact ⟨new, hnew, hready ⟨⟨_, rfl⟩, _, rfl⟩⟩
  · obtain ⟨new, hnew, hready, -⟩ := hpoll "stream" {} { state := {} }
    exact ⟨new, hnew, hready ⟨rfl, ⟨_, rfl⟩, rfl⟩⟩

/-- An exchange that fails after it has received a `Retry-After` of a minute: a check waits no
longer than its backoff, and the three polls wait the minute, which is not the policy's. -/
theorem failed_exchange_waits :
    let cut : HttpResponse :=
      { transportError := "timeout", headers := [("Retry-After", str "60")] }
    let check := (executeRetrying (stumbling cut) "authz.check" "/api/v1/authz/check" "\x7b\x7d"
      { state := { session := true } }).2
    let granted := Oidc.tokenGrant (stumblingGrant cut) Oidc.issuerConfig "acme" [] true
      "device poll failed" none {}
    let ciba := Oidc.cibaPollOnce (stumblingGrant cut) Oidc.issuerConfig "request" "acme" none none {}
    let polled := (Ssf.pollTimed (stumblingPoll cut) "stream" {} { state := {} }).2.log
    momentsOf check = afterWait cut 200 { status := 204 } ∧
      granted.2.journal = afterWait cut 60000 { status := 200, body := "tokens" } ∧
      ciba.2.journal = afterWait cut 60000 { status := 200, body := "tokens" } ∧
      polled = afterWait cut 60000 { status := 200, body := "\x7b\x7d" } ∧
      ∀ Reports, ¬Refines (retryPolicy (pollWall (stumblingPoll cut)) Thrown Arrived) none
        (Ssf.pollRetries (stumblingPoll cut)) Reports polled := by
  intro cut check granted ciba polled
  have hpolled : polled = afterWait cut 60000 { status := 200, body := "\x7b\x7d" } := by decide
  refine ⟨by decide, by decide, by decide, hpolled, fun Reports hrefines => ?_⟩
  -- the policy waits the backoff after the cut, and the poll has waited a minute
  obtain ⟨_, hfollows, -⟩ := hrefines.follows
  have hsplit : polled = [] ++ .sent (.ok cut) ::
      [.slept 60000, .sent (.ok { status := 200, body := "\x7b\x7d" })] := hpolled
  obtain ⟨w, wait, rest, ⟨_, hwaits⟩, hwaited, hafter⟩ := hfollows.waited hsplit (List.cons_ne_nil _ _)
  have hbackoff : w ≤ 200 := hwaits.failed (List.cons_ne_nil _ _)
  cases hwaited
  cases hafter
  omega

end Axiam.Retry
