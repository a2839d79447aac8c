import Axiam.Core.Int64
import Axiam.Lib.Journal
import Axiam.Oidc.Polling

/-!
# How the device grant is paced

What a login does in its polling loop and when: the waits before its polls, the looks at the
clock, and the requests.  The interval grows by five seconds for each poll whose last answer asks
to slow down, and a `429` puts its `Retry-After` under the next wait.  An answer that is never
read asks for nothing: a redirect, and a request timeout that is sent again inside its poll.
-/

namespace Axiam.Oidc

open Axiam.Lib Axiam.Client

variable (env : GrantEnv)

/-! ## The waits of a poll -/

/-- The usable `Retry-After` of a response at a reading of the wall clock. -/
def usableHint (resp : HttpResponse) (now : Int) : Option Int :=
  (resp.headers.find? "Retry-After").bind fun hint => retryAfterFromHeader env hint now

/-- A wait `retry_delay` may ask for after an attempt. -/
def RetryWait (attempt : Nat) (resp : HttpResponse) (w : Int) : Prop :=
  ∃ now tick, w = Axiam.retryDelay (env.jittered tick (retryBackoff attempt))
    (usableHint env resp (env.nowSeconds now))

/-- The policy of `token_grant`: the polling loop waits a `429` out. -/
def grantPolicy (retryable : Bool) : RetryPolicy Answer where
  again answer := ∃ resp, answer = .ok resp ∧ retryShouldRetry (exchangeStatus resp) = true ∧
    ¬(retryable = true ∧ exchangeStatus resp = some 429)
  wait attempt answer w := ∃ resp, answer = .ok resp ∧ RetryWait env attempt resp w

/-- A response that asks to slow down: a refusal below `500` that is read and names `slow_down`.
A redirect is never read, and a `429` asks for a wait and not for a longer interval. -/
def AsksToSlowDown (resp : HttpResponse) : Prop :=
  resp.transportError = [] ∧ resp.isSuccess = false ∧ ¬(300 ≤ resp.status ∧ resp.status < 400) ∧
    resp.status < 500 ∧ resp.status ≠ 429 ∧ errorCode env resp = some (str "slow_down")

instance (resp : HttpResponse) : Decidable (AsksToSlowDown env resp) :=
  inferInstanceAs (Decidable (_ ∧ _))

/-- What an answer adds to the interval, in seconds. -/
def slowDown : Answer → Int
  | .ok resp => if AsksToSlowDown env resp then 5 else 0
  | .error _ => 0

/-- A floor of the next wait that a `429` accounts for: its usable `Retry-After`. -/
def FloorAfter (answer : Answer) (floor : Int) : Prop :=
  ∀ resp, answer = .ok resp → resp.transportError = [] → resp.status = 429 →
    ∃ now, floor = (usableHint env resp (env.nowSeconds now)).getD 0

/-- How the loop goes on, if it does, after a poll whose last answer is `answer`. -/
structure PacedBy (answer : Answer) (p next : Polling) : Prop where
  interval : next.interval = p.interval + slowDown env answer
  floor : FloorAfter env answer next.retryFloorMs
  hour : 0 ≤ next.retryFloorMs ∧ next.retryFloorMs ≤ 3600000

/-- An exception the loop goes on from as its answer asks. -/
def Reports (answer : Answer) (e : Exc) : Prop := ∀ p next, p.after e = some next →
  PacedBy env answer p next

/-- A deadline of the client's own clock. -/
def inMs (deadline : Option Int) : Option Deadline := deadline.map fun instant => ⟨instant, 1⟩

variable {env}

variable (env) in
theorem retryAfter_fst (resp : HttpResponse) (c : DeviceClient) :
    ∃ now, (retryAfter env resp c).1 = .ok (usableHint env resp (env.nowSeconds now)) := by
  unfold retryAfter usableHint
  cases resp.headers.find? "Retry-After" with
  | none => exact ⟨0, rfl⟩
  | some hint => exact ⟨c.ticks, rfl⟩

/-- A hint that is used is an hour at most. -/
theorem usableHint_hour (env : GrantEnv) (resp : HttpResponse) (now : Int) :
    0 ≤ (usableHint env resp now).getD 0 ∧ (usableHint env resp now).getD 0 ≤ 3600000 := by
  rcases husable : usableHint env resp now with _ | hint
  · simp
  · obtain ⟨_, -, hread⟩ := Option.bind_eq_some_iff.mp husable
    exact retryAfterFromHeader_bounds hread

variable (env) in
theorem retryAfter_hint (resp : HttpResponse) (E : Exc → DeviceClient → Prop) :
    Prog.Triple (fun _ => True) (retryAfter env resp)
      (fun hint _ => ∃ now, hint = usableHint env resp (env.nowSeconds now)) E := by
  intro c _
  obtain ⟨now, hnow⟩ := retryAfter_fst env resp c
  rcases hrun : retryAfter env resp c with ⟨r, t⟩
  rw [hrun] at hnow
  cases hnow
  exact ⟨now, rfl⟩

variable (env) in
theorem retryDelay_fst (attempt : Nat) (hint : Option Int) (c : DeviceClient) :
    ∃ tick, (retryDelay env attempt hint c).1 =
      .ok (Axiam.retryDelay (env.jittered tick (retryBackoff attempt)) hint) := by
  refine ⟨c.ticks, ?_⟩
  cases hint <;> rfl

/-- Reading the `Retry-After` and the jitter writes nothing, and comes to a wait. -/
theorem delay_writes {α : Type} {attempt : Nat} {resp : HttpResponse}
    {k : Int → Prog DeviceClient Exc α} {R : List (Moment Answer) → Except Exc α → Prop}
    (hk : ∀ w, RetryWait env attempt resp w → Prog.Writes DeviceClient.journal (k w) R) :
    Prog.Writes DeviceClient.journal
      (do
        let hint ← retryAfter env resp
        let delay ← retryDelay env attempt hint
        k delay) R := by
  refine .bind_keeps (keeps_retryAfter journal_inert.ticks resp) ?_ ?_
  · intro c e he
    obtain ⟨now, hnow⟩ := retryAfter_fst env resp c
    rw [hnow] at he
    cases he
  intro c hint hhint
  obtain ⟨now, hnow⟩ := retryAfter_fst env resp c
  rw [hnow] at hhint
  cases hhint
  refine .bind_keeps (keeps_retryDelay journal_inert.ticks attempt _) (fun c e he => nomatch he) ?_
  intro c w hw
  obtain ⟨tick, htick⟩ := retryDelay_fst env attempt (usableHint env resp (env.nowSeconds now)) c
  rw [htick] at hw
  cases hw
  exact hk _ ⟨now, tick, rfl⟩

variable (env) in
/-- One look at the clock. -/
theorem withinDeadline_writes (expired : Exc) (instant w : Int) :
    Prog.Writes DeviceClient.journal (withinDeadline env expired (some instant) w) fun new r =>
      ∃ now, new = [.clock now] ∧
        ((instant ≤ now + w ∧ r = .error expired) ∨ (now + w < instant ∧ r = .ok ())) := by
  have hlook : Prog.Writes DeviceClient.journal (nowMs env) fun new r =>
      ∃ now, new = [.clock now] ∧ r = .ok now := fun c => ⟨_, rfl, _, rfl, rfl⟩
  unfold withinDeadline
  refine hlook.bind ?_ ?_
  · rintro _ e ⟨now, -, hr⟩
    cases hr
  rintro _ now ⟨_, rfl, ⟨⟩⟩
  refine Prog.Writes.ite (fun hlate => .raise ⟨now, rfl, .inl ⟨hlate, rfl⟩⟩) fun hahead => ?_
  exact .ret ⟨now, rfl, .inr ⟨by omega, rfl⟩⟩

variable (env) in
theorem pause_writes (expired : Exc) (deadline : Option Int) (w : Int) :
    Prog.Writes DeviceClient.journal (pause env expired deadline w) fun new r =>
      (r = .ok () ∧ Waited w (inMs deadline) new) ∨
        (r = .error expired ∧ Overdue w (inMs deadline) new) := by
  cases deadline with
  | none => exact fun c => ⟨_, rfl, .inl ⟨rfl, .free⟩⟩
  | some instant =>
      have hsleep : Prog.Writes DeviceClient.journal (sleep w) fun new r =>
          new = [.slept w] ∧ r = .ok () := fun c => ⟨_, rfl, rfl, rfl⟩
      refine (withinDeadline_writes env expired instant w).bind ?_ ?_
      · rintro new e ⟨now, rfl, ⟨hahead, hr⟩ | ⟨_, hr⟩⟩
        · exact .inr ⟨hr, .foreseen (by simpa using hahead)⟩
        · cases hr
      rintro new _ ⟨before, rfl, ⟨_, hr⟩ | ⟨hbefore, _⟩⟩
      · cases hr
      refine hsleep.bind (fun _ _ h => nomatch h.2) ?_
      rintro _ _ ⟨rfl, _⟩
      refine (withinDeadline_writes env expired instant 0).weaken ?_
      rintro _ r ⟨after, rfl, ⟨hafter, hr⟩ | ⟨hafter, hr⟩⟩
      · exact .inr ⟨hr, .overslept (by simpa using hbefore) (by simpa using hafter)⟩
      · exact .inl ⟨hr, .watched (by simpa using hbefore) (by simpa using hafter)⟩

/-- What `token_grant` has of the attempts of a poll, or `expired_token` where the deadline came
first. -/
def lastOr (expired : Exc) : Option Answer → Answer
  | some answer => answer
  | none => .error expired

theorem exchangeToken_writes (req : HttpRequest) :
    Prog.Writes DeviceClient.journal (exchangeToken env req) fun new r => new = [.sent r] :=
  fun _ => ⟨_, rfl, rfl⟩

/-- The attempts of a poll follow the policy, with every wait inside the deadline. -/
theorem attemptGrant_follows (req : HttpRequest) (retryable : Bool) (deadline : Option Int)
    (left attempt : Nat) :
    Prog.Writes DeviceClient.journal (attemptGrant env req retryable deadline left attempt)
      fun new r => ∃ last, Follows (grantPolicy env retryable) (inMs deadline) left attempt new last ∧
        r = lastOr grantExpired last := by
  have hthrew : ∀ {left attempt new} {e : Exc}, new = [Moment.sent (.error e : Answer)] →
      ∃ last, Follows (grantPolicy env retryable) (inMs deadline) left attempt new last ∧
        Except.error e = lastOr grantExpired last := by
    rintro left attempt _ e rfl
    refine ⟨_, .done (.inr ?_), rfl⟩
    rintro ⟨resp, hresp, -⟩
    cases hresp
  induction left generalizing attempt with
  | zero =>
      refine (exchangeToken_writes req).weaken ?_
      rintro _ r rfl
      exact ⟨some r, .done (.inl rfl), rfl⟩
  | succ left ih =>
      refine (exchangeToken_writes req).bind (fun _ e => hthrew) ?_
      rintro _ resp rfl
      have hdone : ¬(grantPolicy env retryable).again (.ok resp) →
          Prog.Writes DeviceClient.journal (pure resp : Prog DeviceClient Exc HttpResponse)
            fun more r => ∃ last, Follows (grantPolicy env retryable) (inMs deadline) (left + 1)
              attempt ([.sent (.ok resp)] ++ more) last ∧ r = lastOr grantExpired last :=
        fun h => .ret ⟨some (.ok resp), .done (.inr h), rfl⟩
      dsimp only
      refine Prog.Writes.ite (fun hretry => hdone ?_) fun hretry => ?_
      · rintro ⟨_, ⟨⟩, hagain, -⟩
        rw [hretry] at hagain
        cases hagain
      refine Prog.Writes.ite (fun hlimit => hdone ?_) fun hlimit => ?_
      · rintro ⟨_, ⟨⟩, -, hagain⟩
        exact hagain hlimit
      have hagain : (grantPolicy env retryable).again (.ok resp) :=
        ⟨resp, rfl, by simpa using hretry, hlimit⟩
      refine delay_writes fun w hw => ?_
      have hwait : (grantPolicy env retryable).wait attempt (.ok resp) w := ⟨resp, rfl, hw⟩
      refine (pause_writes env grantExpired deadline _).bind ?_ ?_
      · rintro new e (⟨hr, -⟩ | ⟨hr, hlate⟩)
        · cases hr
        · cases hr
          exact ⟨none, .expired hagain hwait hlate, rfl⟩
      rintro new _ (⟨-, hwaited⟩ | ⟨hr, -⟩)
      · refine (ih (attempt + 1)).weaken ?_
        rintro more r ⟨last, hrest, hr⟩
        exact ⟨last, by simpa using Follows.again hagain hwait hwaited hrest, hr⟩
      · cases hr

/-! ## What the loop makes of a poll -/

theorem reports_stops {answer : Answer} {e : Exc} (h : Stops e) : Reports env answer e := by
  intro p next hnext
  rw [h p] at hnext
  cases hnext

theorem slowDown_of_not {resp : HttpResponse} (h : ¬AsksToSlowDown env resp) :
    slowDown env (.ok resp) = 0 := if_neg h

theorem not_asks_of_success {resp : HttpResponse} (h : resp.isSuccess = true) :
    ¬AsksToSlowDown env resp := by
  rintro ⟨-, hfail, -⟩
  rw [h] at hfail
  cases hfail

theorem status_of_success {resp : HttpResponse} (h : resp.isSuccess = true) :
    200 ≤ resp.status ∧ resp.status < 300 := by
  simpa [HttpResponse.isSuccess] using h

/-- A transient failure leaves the interval as it is. -/
theorem reports_network {resp : HttpResponse} (hslow : ¬AsksToSlowDown env resp)
    (hlimit : resp.transportError = [] → resp.status ≠ 429) (what cause : Str) :
    Reports env (.ok resp) (.network what cause) := by
  rintro p _ ⟨⟩
  refine ⟨?_, ?_, by simp⟩
  · show p.interval = p.interval + slowDown env (.ok resp)
    rw [slowDown_of_not hslow]
    omega
  · rintro _ ⟨⟩ hdelivered hstatus
    exact absurd hstatus (hlimit hdelivered)

/-- A refusal that is read is taken at its word. -/
theorem reports_protocol {resp : HttpResponse} {code : Str} (hdelivered : resp.transportError = [])
    (hfail : resp.isSuccess = false) (hredirect : ¬(300 ≤ resp.status ∧ resp.status < 400))
    (hserver : resp.status < 500) (hlimit : resp.status ≠ 429) (hcode : errorCode env resp = some code)
    (message : Str) (description : Option Str) (now : Nat) :
    Reports env (.ok resp) (.axiam (.oauthProtocol message code description
      (usableHint env resp (env.nowSeconds now)) (some resp.status))) := by
  have hslow : AsksToSlowDown env resp ↔ code = str "slow_down" := by
    unfold AsksToSlowDown
    rw [hcode]
    simp [hdelivered, hfail, hredirect, hserver, hlimit]
  have hnot429 : some resp.status ≠ some 429 := fun h => hlimit (Option.some.inj h)
  have hfloor : ∀ floor, FloorAfter env (.ok resp) floor := by
    rintro floor _ ⟨⟩ _ hstatus
    exact absurd hstatus hlimit
  intro p next hnext
  change (if _ then _ else _) = some next at hnext
  by_cases hrate : code = str "rate_limit_exceeded" ∨ some resp.status = some 429
  · rw [if_pos hrate] at hnext
    cases hnext
    refine ⟨?_, hfloor _, usableHint_hour env resp _⟩
    have hother : code ≠ str "slow_down" := by
      rcases hrate with rfl | h
      · decide
      · exact absurd h hnot429
    show p.interval = p.interval + slowDown env (.ok resp)
    rw [slowDown_of_not (mt hslow.mp hother)]
    omega
  rw [if_neg hrate] at hnext
  by_cases hpending : code = str "authorization_pending"
  · rw [if_pos hpending] at hnext
    cases hnext
    refine ⟨?_, hfloor _, by simp⟩
    have hother : code ≠ str "slow_down" := by
      rw [hpending]
      decide
    show p.interval = p.interval + slowDown env (.ok resp)
    rw [slowDown_of_not (mt hslow.mp hother)]
    omega
  rw [if_neg hpending] at hnext
  by_cases hasks : code = str "slow_down"
  · rw [if_pos hasks] at hnext
    cases hnext
    refine ⟨?_, hfloor _, by simp⟩
    show p.interval + 5 = p.interval + if AsksToSlowDown env resp then 5 else 0
    rw [if_pos (hslow.mpr hasks)]
  · rw [if_neg hasks] at hnext
    cases hnext

/-- What `raise_grant_error` throws: for an answer it reads the `error` named there, else what the
status says. -/
inductive GrantError (env : GrantEnv) (resp : HttpResponse) : Exc → Prop
  | read {code message : Str} {description : Option Str} {now : Nat} :
      ¬(300 ≤ resp.status ∧ resp.status < 400) → errorCode env resp = some code →
      GrantError env resp (.axiam (.oauthProtocol message code description
        (usableHint env resp (env.nowSeconds now)) (some resp.status)))
  | unread {what cause : Str} : (300 ≤ resp.status ∧ resp.status < 400) ∨ errorCode env resp = none →
      GrantError env resp (.network what cause)
  | unauthenticated {context : Str} : errorCode env resp = none → GrantError env resp (.auth context)
  | denied {context : Str} : errorCode env resp = none →
      GrantError env resp (.axiam (.authz context none none))

variable (env) in
theorem raiseGrantError_throws {α : Type} (context : Str) (resp : HttpResponse) :
    Prog.Triple (fun _ => True) (raiseGrantError env context resp : Prog DeviceClient Exc α)
      (fun _ _ => False) fun e _ => GrantError env resp e := by
  unfold raiseGrantError
  refine Prog.Triple.ite (fun hredirect => Prog.Triple.raise fun _ _ => .unread (.inl hredirect))
    fun hredirect => ?_
  dsimp only
  cases hcode : optString (parseOrObject env.client resp.body) "error" with
  | some code =>
      refine (retryAfter_hint env resp _).bind fun hint => Prog.Triple.raise fun _ hhint => ?_
      obtain ⟨now, rfl⟩ := hhint
      exact .read hredirect hcode
  | none =>
      exact Prog.Triple.ite (fun _ => Prog.Triple.raise fun _ _ => .unauthenticated hcode) fun _ =>
        Prog.Triple.ite (fun _ => Prog.Triple.raise fun _ _ => .denied hcode) fun _ =>
          Prog.Triple.raise fun _ _ => .unread (.inr hcode)

/-- `raise_grant_error` on a refusal that is neither a `5xx` nor a `429`. -/
theorem raiseGrantError_reports {resp : HttpResponse} (hdelivered : resp.transportError = [])
    (hfail : resp.isSuccess = false) (hserver : resp.status < 500) (hlimit : resp.status ≠ 429)
    {e : Exc} (h : GrantError env resp e) : Reports env (.ok resp) e := by
  cases h with
  | read hredirect hcode =>
      exact reports_protocol hdelivered hfail hredirect hserver hlimit hcode _ _ _
  | unread hunread =>
      refine reports_network (fun hslow => ?_) (fun _ => hlimit) _ _
      obtain ⟨-, -, hread, -, -, hcode⟩ := hslow
      rcases hunread with hredirect | hnone
      · exact hread hredirect
      · rw [hnone] at hcode
        cases hcode
  | unauthenticated _ => exact reports_stops fun _ => rfl
  | denied _ => exact reports_stops fun _ => rfl

variable (env) in
/-- What `token_grant` makes of the last response of a poll. -/
theorem readGrant_reports (context : Str) (resp : HttpResponse) :
    Prog.Triple (fun _ => True) (readGrant env true context resp)
      (fun body _ => resp.isSuccess = true ∧ body = resp.body)
      fun e _ => Reports env (.ok resp) e := by
  unfold readGrant
  refine Prog.Triple.ite (fun hfailed => Prog.Triple.raise fun _ _ => ?_) fun hdelivered => ?_
  · exact reports_network (fun h => hfailed h.1) (fun h => absurd h hfailed) _ _
  have hdelivered : resp.transportError = [] := not_not.mp hdelivered
  refine Prog.Triple.ite (fun hsuccess => Prog.Triple.ret fun _ _ => ⟨hsuccess, rfl⟩) fun hfail => ?_
  have hfail : resp.isSuccess = false := by simpa using hfail
  refine Prog.Triple.ite (fun hserver => Prog.Triple.raise fun _ _ => ?_) fun hserver => ?_
  · refine reports_network ?_ (fun _ => by omega) _ _
    rintro ⟨-, -, -, hbelow, -⟩
    omega
  refine Prog.Triple.ite (fun hlimit => ?_) fun hlimit => ?_
  · refine (retryAfter_hint env resp _).bind fun hint => Prog.Triple.raise fun _ hhint => ?_
    obtain ⟨now, rfl⟩ := hhint
    rintro p _ ⟨⟩
    refine ⟨?_, ?_, usableHint_hour env resp _⟩
    · have hslow : ¬AsksToSlowDown env resp := fun h => h.2.2.2.2.1 hlimit.2
      show p.interval = p.interval + slowDown env (.ok resp)
      rw [slowDown_of_not hslow]
      omega
    · rintro _ ⟨⟩ _ _
      exact ⟨now, rfl⟩
  · exact (raiseGrantError_throws env context resp).weaken (fun _ h => h) (fun _ _ h => h.elim)
      fun e _ h => raiseGrantError_reports hdelivered hfail (by simpa using hserver)
        (fun h => hlimit ⟨rfl, h⟩) h

/-- Reading the tokens of a `2xx` changes no interval. -/
theorem parseTokenSet_reports (hkeys : ThrowsForeign env.jwks.transport) {resp : HttpResponse}
    (hsuccess : resp.isSuccess = true) (config : OidcConfiguration) :
    Prog.Triple (fun _ => True) (parseTokenSet env resp.body config none) (fun _ _ => True)
      fun e _ => Reports env (.ok resp) e := by
  unfold parseTokenSet
  dsimp only
  split
  · refine Prog.Triple.raise fun _ _ => reports_network (not_asks_of_success hsuccess) (fun _ => ?_) _ _
    have := status_of_success hsuccess
    omega
  · split
    · exact Prog.Triple.ret fun _ _ => trivial
    · refine Prog.Triple.bind ((stops_readIdToken hkeys config none _).weaken (fun _ h => h)
        (fun _ _ h => h) fun e _ h => reports_stops h) fun claims => ?_
      exact Prog.Triple.ret fun _ _ => trivial

/-! ## One poll and one turn -/

/-- What a poll writes: nothing, where it fails before its request, or attempts that follow the
policy, the last of which the exception reports. -/
def PollWritten {α : Type} (env : GrantEnv) (deadline : Int) (new : List (Moment Answer))
    (r : Except Exc α) (last : Option Answer) : Prop :=
  (new = [] ∧ ∃ e, r = .error e ∧ Stops e) ∨
    (Follows (grantPolicy env true) (inMs (some deadline)) (grantRetries env true) 1 new last ∧
      ∀ e, r = .error e → match last with
        | some answer => Reports env answer e
        | none => Stops e)

section

variable {α β : Type} {deadline : Int} {new : List (Moment Answer)} {last : Option Answer}

theorem PollWritten.moments {r : Except Exc α} (h : PollWritten env deadline new r last) :
    new = [] ∨ Follows (grantPolicy env true) (inMs (some deadline)) (grantRetries env true) 1 new
      last := by
  rcases h with ⟨hnew, -⟩ | ⟨hfollows, -⟩
  · exact .inl hnew
  · exact .inr hfollows

/-- A poll that returned has sent its request. -/
theorem PollWritten.returned {a : α} (h : PollWritten env deadline new (.ok a) last) :
    Follows (grantPolicy env true) (inMs (some deadline)) (grantRetries env true) 1 new last := by
  rcases h with ⟨-, e, he, -⟩ | ⟨hfollows, -⟩
  · cases he
  · exact hfollows

/-- A poll that threw says no more in whatever it is part of. -/
theorem PollWritten.threw {e : Exc} (h : PollWritten env deadline new (.error e : Except Exc α) last) :
    PollWritten env deadline new (.error e : Except Exc β) last := by
  rcases h with ⟨hnew, e', he, hstops⟩ | ⟨hfollows, hreports⟩
  · cases he
    exact .inl ⟨hnew, e, rfl, hstops⟩
  · refine .inr ⟨hfollows, ?_⟩
    rintro _ ⟨⟩
    exact hreports e rfl

end

theorem refuses_preferredEndpoint (config : OidcConfiguration)
    (pick : MtlsEndpointAliases → Option Str) (topLevel : Option Str) :
    Refuses (preferredEndpoint env config pick topLevel) := by
  have halias : ∀ aliasUrl replaces, Refuses (assertUsableMtlsAlias aliasUrl replaces) := by
    intro aliasUrl replaces e h
    unfold assertUsableMtlsAlias at h
    dsimp only at h
    split_ifs at h <;> cases h <;> exact fun _ => rfl
  unfold preferredEndpoint
  split
  · exact refuses_ok _
  · exact refuses_ok _
  · exact refuses_bind (halias _ _) fun _ => refuses_ok _

/-- What ends the attempts of a poll with an exception ends the loop. -/
theorem stops_attemptGrant (hclient : ThrowsForeign env.client.transport) (req : HttpRequest)
    (deadline : Option Int) (left attempt : Nat) :
    Prog.Triple (fun _ => True) (attemptGrant env req true deadline left attempt) (fun _ _ => True)
      fun e _ => Stops e := by
  have hexchange : Prog.Triple (fun _ => True) (exchangeToken env req) (fun _ _ => True)
      fun e _ => Stops e := by
    intro c _
    unfold exchangeToken
    dsimp only
    cases hanswer : env.client.transport c.client.impl.sent req with
    | ok _ => trivial
    | error e => exact stops_of_not_axiam (hclient _ req e hanswer)
  have hpause : ∀ w, Prog.Triple (fun _ => True) (pause env grantExpired deadline w)
      (fun _ _ => True) fun e _ => Stops e := by
    intro w c _
    obtain ⟨new, -, ⟨hr, -⟩ | ⟨hr, -⟩⟩ := pause_writes env grantExpired deadline w c
    · rcases hrun : pause env grantExpired deadline w c with ⟨r, t⟩
      rw [hrun] at hr
      cases hr
      trivial
    · rcases hrun : pause env grantExpired deadline w c with ⟨r, t⟩
      rw [hrun] at hr
      cases hr
      exact fun _ => rfl
  induction left generalizing attempt with
  | zero => exact hexchange
  | succ left ih =>
      refine hexchange.bind fun resp => ?_
      dsimp only
      refine Prog.Triple.ite (fun _ => Prog.Triple.ret fun _ _ => trivial) fun _ =>
        Prog.Triple.ite (fun _ => Prog.Triple.ret fun _ _ => trivial) fun _ => ?_
      refine (retryAfter_hint env resp _).bind fun hint => Prog.Triple.weaken (P := fun _ => True)
        ?_ (fun _ _ => trivial) (fun _ _ h => h) fun _ _ h => h
      refine Prog.Triple.bind (Q := fun _ _ => True) (fun _ _ => trivial) ?_
      intro delay
      exact (hpause delay).bind fun _ => ih (attempt + 1)

theorem tokenGrant_writes (hclient : ThrowsForeign env.client.transport)
    (config : OidcConfiguration) (tenant form context : Str) (deadline : Int) :
    Prog.Writes DeviceClient.journal
      (tokenGrant env config tenant form true context (some deadline)) fun new r =>
        ∃ last, PollWritten env deadline new r last ∧ ∀ body, r = .ok body →
          ∃ resp, last = some (.ok resp) ∧ resp.isSuccess = true ∧ body = resp.body := by
  unfold tokenGrant
  refine .bind_keeps (Prog.Keeps.lift _) ?_ ?_
  · intro c e he
    refine ⟨none, .inl ⟨rfl, e, rfl, ?_⟩, nofun⟩
    exact refuses_preferredEndpoint config _ _ e he
  intro c endpoint _
  refine ((attemptGrant_follows _ true (some deadline) _ 1).and
    (C := fun r => ∀ e, r = .error e → Stops e) fun c e he => ?_).bind ?_ ?_
  · exact (stops_attemptGrant hclient _ (some deadline) _ 1).error trivial (Prod.ext he rfl)
  · rintro new e ⟨⟨last, hfollows, -⟩, hstops⟩
    have he := hstops e rfl
    refine ⟨last, .inr ⟨hfollows, ?_⟩, nofun⟩
    rintro _ ⟨⟩
    cases last with
    | some answer => exact reports_stops he
    | none => exact he
  rintro new resp ⟨⟨last, hfollows, hlast⟩, -⟩
  have hlast : last = some (.ok resp) := by
    cases last with
    | some answer => exact congrArg some hlast.symm
    | none => cases hlast
  subst hlast
  refine .keeps (keeps_readGrant journal_inert.toBeside true context resp) fun c => ⟨some (.ok resp), ?_⟩
  have hread := readGrant_reports env context resp
  rw [List.append_nil]
  refine ⟨.inr ⟨hfollows, fun e he => hread.error trivial (Prod.ext he rfl)⟩, fun body hbody => ?_⟩
  exact ⟨resp, rfl, hread.ok trivial (Prod.ext hbody rfl)⟩

theorem devicePollWith_writes (hclient : ThrowsForeign env.client.transport)
    (hkeys : ThrowsForeign env.jwks.transport) (grant : Grant) :
    Prog.Writes DeviceClient.journal (devicePollWith env grant) fun new r =>
      ∃ last, PollWritten env grant.deadline new r last := by
  unfold devicePollWith
  refine (tokenGrant_writes hclient grant.config grant.tenant _ "device poll failed"
    grant.deadline).bind ?_ ?_
  · rintro new e ⟨last, hwritten, -⟩
    exact ⟨last, hwritten.threw⟩
  rintro new body ⟨last, hwritten, hbody⟩
  obtain ⟨resp, rfl, hsuccess, rfl⟩ := hbody body rfl
  refine .keeps (keeps_parseTokenSet journal_inert.toBeside _ _ _) fun c => ⟨some (.ok resp), ?_⟩
  rw [List.append_nil]
  have hread := parseTokenSet_reports hkeys hsuccess grant.config
  exact .inr ⟨hwritten.returned, fun e he => hread.error trivial (Prod.ext he rfl)⟩

/-- The wait of a turn: its end came before the deadline as the code reckoned it, and was found
to. -/
def TurnWaited (env : GrantEnv) (deadline : Int) (p : Polling) (wait : List (Moment Answer)) : Prop :=
  ∃ tick awake, wait = [.clock (env.nowMs tick), .slept p.wait, .clock awake] ∧
    Json.wrapInt64 (env.nowMs tick + p.wait) < deadline ∧ awake < deadline

variable (env) in
theorem waitTurn_writes (grant : Grant) (p : Polling) :
    Prog.Writes DeviceClient.journal (waitTurn env grant p) fun new r =>
      (r = .ok () ∧ TurnWaited env grant.deadline p new) ∨
        (r = .error grantExpired ∧ Timed grant.deadline new ∧ sends new = []) := by
  have hlook : Prog.Writes DeviceClient.journal (nowMs env) fun new r =>
      ∃ tick, new = [.clock (env.nowMs tick)] ∧ r = .ok (env.nowMs tick) :=
    fun c => ⟨_, rfl, c.ticks, rfl, rfl⟩
  have hsleep : Prog.Writes DeviceClient.journal (sleep p.wait) fun new r =>
      new = [.slept p.wait] ∧ r = .ok () := fun c => ⟨_, rfl, rfl, rfl⟩
  unfold waitTurn
  refine hlook.bind (fun _ _ h => nomatch h.choose_spec.2) ?_
  rintro _ _ ⟨tick, rfl, ⟨⟩⟩
  refine Prog.Writes.ite (fun _ => .raise (.inr ⟨rfl, timed_look _ _, rfl⟩)) fun hahead => ?_
  refine hsleep.bind (fun _ _ h => nomatch h.2) ?_
  rintro _ _ ⟨rfl, -⟩
  refine (withinDeadline_writes env grantExpired grant.deadline 0).weaken ?_
  rintro _ r ⟨awake, rfl, ⟨-, hr⟩ | ⟨hawake, hr⟩⟩
  · exact .inr ⟨hr, timed_overslept _ _ _ _, rfl⟩
  · exact .inl ⟨hr, tick, awake, rfl, by omega, by omega⟩

/-- What a turn from `p` writes: a wait, then nothing or a poll.  Whatever is sent comes after the
whole wait, and a turn the loop goes on from is paced by its last answer. -/
structure TurnWritten (env : GrantEnv) (deadline : Int) (p : Polling) (new : List (Moment Answer))
    (next : Option Polling) : Prop where
  timed : Timed deadline new
  waits : sends new ≠ [] → ∃ wait answer rest, TurnWaited env deadline p wait ∧
    new = wait ++ .sent answer :: rest
  next : ∀ q, next = some q → ∃ answer exact, (sends new).getLast? = some answer ∧
    PacedBy env answer p exact ∧ q = exact.kept

/-- How the loop goes on after what a turn came to. -/
def goesOnWith : Except Exc (OidcTokenSet ⊕ Polling) → Option Polling
  | .ok (.inr next) => some next
  | _ => none

/-- A wait the deadline came before is the whole turn. -/
theorem turnWritten_overdue {p : Polling} {deadline : Int} {late : List (Moment Answer)}
    (htimed : Timed deadline late) (hsilent : sends late = []) :
    TurnWritten env deadline p late none where
  timed := htimed
  waits := fun hsends => absurd hsilent hsends
  next := nofun

theorem turnWritten_waited {p : Polling} {deadline : Int} {wait new : List (Moment Answer)}
    {next : Option Polling} {last : Option Answer} (hwait : TurnWaited env deadline p wait)
    (hpoll : (new = [] ∧ next = none) ∨
      Follows (grantPolicy env true) (inMs (some deadline)) (grantRetries env true) 1 new last)
    (hnext : ∀ q, next = some q → ∃ answer exact, last = some answer ∧ PacedBy env answer p exact ∧
      q = exact.kept) : TurnWritten env deadline p (wait ++ new) next := by
  have hwaited := hwait
  obtain ⟨tick, awake, rfl, -, hawake⟩ := hwait
  have honTime : OnTime deadline new := by
    rcases hpoll with ⟨rfl, -⟩ | hfollows
    · exact onTime_nil deadline
    · exact hfollows.onTime
  refine ⟨timed_wait hawake honTime, fun hsends => ?_, fun q hq => ?_⟩
  · rcases hpoll with ⟨rfl, -⟩ | hfollows
    · exact absurd rfl hsends
    · obtain ⟨answer, rest, rfl⟩ := hfollows.head
      exact ⟨_, answer, rest, hwaited, rfl⟩
  · obtain ⟨answer, exact, rfl, hpaced, hkept⟩ := hnext q hq
    rcases hpoll with ⟨-, hnone⟩ | hfollows
    · rw [hnone] at hq
      cases hq
    · exact ⟨answer, exact, hfollows.getLast, hpaced, hkept⟩

theorem pollOnce_writes (hclient : ThrowsForeign env.client.transport)
    (hkeys : ThrowsForeign env.jwks.transport) (grant : Grant) (p : Polling) :
    Prog.Writes DeviceClient.journal (pollOnce env grant p) fun new r =>
      TurnWritten env grant.deadline p new (goesOnWith r) := by
  unfold pollOnce
  refine (waitTurn_writes env grant p).bind ?_ ?_
  · rintro new e (⟨hr, -⟩ | ⟨-, htimed, hsilent⟩)
    · cases hr
    · exact turnWritten_overdue htimed hsilent
  rintro wait _ (⟨-, hwait⟩ | ⟨hr, -⟩)
  swap
  · cases hr
  -- the tokens end the loop, and an exception goes on as it reports
  have htokens : Prog.Writes DeviceClient.journal
      (do
        let set ← devicePollWith env grant
        pure (.inl set) : Prog DeviceClient Exc (OidcTokenSet ⊕ Polling))
      fun new r => ∃ last, PollWritten env grant.deadline new r last ∧ goesOnWith r = none := by
    refine (devicePollWith_writes hclient hkeys grant).bind ?_ ?_
    · rintro new e ⟨last, hwritten⟩
      exact ⟨last, hwritten.threw, rfl⟩
    · rintro new set ⟨last, hwritten⟩
      refine .ret ⟨last, ?_, rfl⟩
      rw [List.append_nil]
      exact .inr ⟨hwritten.returned, nofun⟩
  refine htokens.tryCatch ?_ ?_
  · rintro new set ⟨last, hwritten, hnone⟩
    rw [hnone]
    exact turnWritten_waited hwait (.inr hwritten.returned) nofun
  rintro new e ⟨last, hwritten, -⟩
  cases hafter : p.after e with
  | none =>
      refine .raise ?_
      rw [List.append_nil]
      exact turnWritten_waited hwait (hwritten.moments.imp_left fun hnew => ⟨hnew, rfl⟩) nofun
  | some next =>
      refine .ret ?_
      rw [List.append_nil]
      rcases hwritten with ⟨-, e', he, hstops⟩ | ⟨hfollows, hreports⟩
      · cases he
        rw [hstops p] at hafter
        cases hafter
      refine turnWritten_waited hwait (.inr hfollows) ?_
      rintro _ ⟨⟩
      have hreport := hreports e rfl
      cases last with
      | none =>
          rw [hreport p] at hafter
          cases hafter
      | some answer => exact ⟨answer, next, rfl, hreport p next hafter, rfl⟩

theorem turn_written (hclient : ThrowsForeign env.client.transport)
    (hkeys : ThrowsForeign env.jwks.transport) (grant : Grant) (p : Polling) (c : DeviceClient) :
    ∃ new, (DeviceLogin.turn env grant p c).client.journal = c.journal ++ new ∧
      TurnWritten env grant.deadline p new (DeviceLogin.turn env grant p c).progress.polling? := by
  obtain ⟨new, hnew, hturn⟩ := pollOnce_writes hclient hkeys grant p c
  refine ⟨new, ?_⟩
  unfold DeviceLogin.turn
  rcases hrun : pollOnce env grant p c with ⟨e | set | next, c'⟩ <;> rw [hrun] at hnew hturn <;>
    exact ⟨hnew, hturn⟩

/-! ## What fits in 64 bits -/

/-- A reading of a steady clock, which counts its nanoseconds in 64 bits. -/
def SteadyMs (now : Int) : Prop := -9223372036854 ≤ now ∧ now ≤ 9223372036854

/-- Numbers that a turn computes with exactly. -/
structure Polling.Fits (p : Polling) : Prop where
  interval : 1 ≤ p.interval ∧ p.interval ≤ 20000000000
  hour : 0 ≤ p.retryFloorMs ∧ p.retryFloorMs ≤ 3600000

theorem Polling.Fits.wait {p : Polling} (h : p.Fits) :
    p.wait = max (p.interval * 1000) p.retryFloorMs := by
  have hinterval := h.interval
  unfold Polling.wait
  rw [wrapInt64_of_isInt64 (by unfold IsInt64; omega)]

theorem Polling.Fits.kept {p : Polling} (h : p.Fits) : p.kept = p := by
  have hinterval := h.interval
  unfold Polling.kept
  rw [wrapInt64_of_isInt64 (by unfold IsInt64; omega)]

/-- A wait that ends before the deadline has an interval that can grow: what the loop goes on with
fits again. -/
theorem Polling.Fits.next {p next : Polling} {answer : Answer} {deadline now : Int} (h : p.Fits)
    (hnow : SteadyMs now) (hdeadline : deadline ≤ 10223372036854)
    (hahead : Json.wrapInt64 (now + p.wait) < deadline) (hpaced : PacedBy env answer p next) :
    next.Fits := by
  have hinterval := h.interval
  have hhour := h.hour
  have hexact := h.wait
  have hslow : slowDown env answer = 0 ∨ slowDown env answer = 5 := by
    cases answer with
    | error _ => exact .inl rfl
    | ok resp => exact (ite_eq_or_eq (AsksToSlowDown env resp) (5 : Int) 0).symm
  unfold SteadyMs at hnow
  rw [wrapInt64_of_isInt64 (by unfold IsInt64; omega)] at hahead
  have hnext := hpaced.interval
  exact ⟨by omega, hpaced.hour⟩

/-! ## The loop -/

/-- The last answer a state of the loop has. -/
def DeviceLogin.lastAnswer (s : DeviceLogin) : Option Answer := (sends s.client.journal).getLast?

/-- What the polls of some turns add to the interval. -/
def slowDowns (env : GrantEnv) (turns : List (Transition DeviceLogin Unit)) : Int :=
  (turns.map fun t => (t.post.lastAnswer.map (slowDown env)).getD 0).sum

/-- What the turns taken so far owe to the state they led to. -/
structure PacedSince (env : GrantEnv) (deadline : Int) (start : Polling)
    (past : List (Transition DeviceLogin Unit)) (s : DeviceLogin) : Prop where
  fits : ∀ p, s.progress = .polling p → p.Fits
  timed : Timed deadline s.client.journal
  interval : ∀ p, s.progress = .polling p → p.interval = start.interval + slowDowns env past
  floor : ∀ p answer, s.progress = .polling p → s.lastAnswer = some answer →
    FloorAfter env answer p.retryFloorMs

theorem PacedSince.turn (hclient : ThrowsForeign env.client.transport)
    (hkeys : ThrowsForeign env.jwks.transport) (hclock : ∀ tick, SteadyMs (env.nowMs tick))
    {grant : Grant} (hdeadline : grant.deadline ≤ 10223372036854) {start : Polling}
    (past : List (Transition DeviceLogin Unit)) (s : DeviceLogin) (u : Unit) (t : DeviceLogin)
    (h : PacedSince env grant.deadline start past s) (hstep : DeviceLogin.Turns env grant s u t) :
    PacedSince env grant.deadline start (past ++ [⟨s, u, t⟩]) t := by
  obtain ⟨p, hpolling, rfl⟩ := hstep
  obtain ⟨new, hnew, hturn⟩ := turn_written hclient hkeys grant p s.client
  generalize hpost : DeviceLogin.turn env grant p s.client = post at *
  -- a turn the loop goes on from ends in its own last answer, and what it keeps has not wrapped
  have hgoes : ∀ q, post.progress = .polling q → ∃ answer, post.lastAnswer = some answer ∧
      PacedBy env answer p q ∧ q.Fits := by
    intro q hq
    obtain ⟨answer, exact, hlast, hpaced, rfl⟩ := hturn.next q (by rw [hq]; rfl)
    have hsent : sends new ≠ [] := by
      rintro hnone
      rw [hnone] at hlast
      cases hlast
    obtain ⟨_, _, _, ⟨tick, _, -, hahead, -⟩, -⟩ := hturn.waits hsent
    have hfits := (h.fits p hpolling).next (hclock tick) hdeadline hahead hpaced
    rw [hfits.kept]
    refine ⟨answer, ?_, hpaced, hfits⟩
    show (sends post.client.journal).getLast? = _
    rw [hnew, sends_append, List.getLast?_append, hlast]
    rfl
  refine ⟨fun q hq => ?_, ?_, fun q hq => ?_, fun q answer hq hanswer => ?_⟩
  · obtain ⟨-, -, -, hfits⟩ := hgoes q hq
    exact hfits
  · rw [hnew]
    exact h.timed.append hturn.timed
  · obtain ⟨answer, hlast, hpaced, -⟩ := hgoes q hq
    unfold slowDowns
    rw [List.map_append, List.sum_append, hpaced.interval, h.interval p hpolling]
    show _ = start.interval + (slowDowns env past + _)
    simp [hlast]
    omega
  · obtain ⟨answer', hlast, hpaced, -⟩ := hgoes q hq
    rw [hlast] at hanswer
    cases hanswer
    exact hpaced.floor

/-- How a login gets to its loop: it asks for the codes, shows them, and looks at the clock once,
from where the lifetime of the response runs. -/
def LoginStarted (env : GrantEnv) (display : DeviceAuthorization → Except Exc Unit)
    (scope tenantId : Option Str) (c₀ c : DeviceClient) (grant : Grant) (start : Polling) : Prop :=
  ∃ authorization c₁ c₂ c₃,
    onClient (onImpl ensureOpen) c₀ = (.ok (), c₁) ∧
    deviceAuthorize env scope tenantId c₁ = (.ok authorization, c₂) ∧
    display authorization = .ok () ∧
    onClient (oidcDiscover env.client env.discoveryTtl) c₂ = (.ok grant.config, c₃) ∧
    start = ⟨authorization.interval, 0⟩ ∧ 1 ≤ start.interval ∧
    grant.deadline = env.nowMs c₃.ticks + max 0 (min authorization.expiresIn 1000000000) * 1000 ∧
    c.journal = c₀.journal ++ [.clock (env.nowMs c₃.ticks)]

/-- An interval that is not positive is five seconds. -/
theorem deviceAuthorize_interval (scope tenantId : Option Str) :
    Prog.Returns (deviceAuthorize env scope tenantId) fun authorization _ =>
      1 ≤ authorization.interval := by
  have hread : ∀ body authorization, readAuthorization env body = .ok authorization →
      1 ≤ authorization.interval := by
    intro body authorization h
    unfold readAuthorization at h
    extract_lets j at h
    split at h
    next =>
      cases h
      dsimp only
      split
      · split_ifs <;> omega
      · decide
    next => cases h
  unfold deviceAuthorize
  refine Prog.Returns.seq fun _ => Prog.Returns.seq fun clientId => Prog.Returns.seq fun tenant =>
    Prog.Returns.seq fun config => Prog.Returns.seq fun endpoint => ?_
  cases endpoint with
  | none => exact Prog.Returns.raise _
  | some endpoint =>
      refine Prog.Returns.seq fun resp => Prog.Returns.ite (fun _ => ?_) fun _ =>
        returns_raiseGrantError _ resp
      exact Prog.Returns.lift fun authorization _ h => hread resp.body authorization h

theorem startLogin_started {display : DeviceAuthorization → Except Exc Unit} {scope tenantId : Option Str}
    {c₀ c : DeviceClient} {grant : Grant} {start : Polling}
    (hstart : startLogin env display scope tenantId c₀ = (.ok (grant, start), c)) :
    LoginStarted env display scope tenantId c₀ c grant start := by
  have hf := journal_inert
  unfold startLogin at hstart
  obtain ⟨_, c₁, hopen, hstart⟩ := Prog.bind_eq_ok.mp hstart
  obtain ⟨authorization, c₂, hauthorize, hstart⟩ := Prog.bind_eq_ok.mp hstart
  obtain ⟨_, c₃, hdisplay, hstart⟩ := Prog.bind_eq_ok.mp hstart
  obtain ⟨clientId, c₄, hclientId, hstart⟩ := Prog.bind_eq_ok.mp hstart
  obtain ⟨tenant, c₅, htenant, hstart⟩ := Prog.bind_eq_ok.mp hstart
  obtain ⟨config, c₆, hconfig, hstart⟩ := Prog.bind_eq_ok.mp hstart
  cases hstart
  obtain rfl : c₂ = c₃ := congrArg Prod.snd hdisplay
  obtain rfl : c₂ = c₄ := congrArg Prod.snd hclientId
  obtain rfl : c₂ = c₅ := congrArg Prod.snd htenant
  refine ⟨authorization, c₁, c₂, c₆, hopen, hauthorize, congrArg Prod.fst hdisplay, hconfig, rfl,
    (deviceAuthorize_interval scope tenantId).elim hauthorize, rfl, ?_⟩
  have hkept : c₆.journal = c₀.journal := by
    have hfirst := keeps_onClient hf (onImpl ensureOpen) c₀
    have hsecond := keeps_deviceAuthorize env hf scope tenantId c₁
    have hthird := keeps_onClient hf (oidcDiscover env.client env.discoveryTtl) c₂
    rw [hopen] at hfirst
    rw [hauthorize] at hsecond
    rw [hconfig] at hthird
    exact hthird.trans (hsecond.trans hfirst)
  exact congrArg (· ++ _) hkept

/-- **Pacing of the device grant.**  For every script of answers and every clock, from every start
with an interval below `2^31` seconds: each request is sent right after a look at the clock that
found the deadline ahead; each turn waits the interval out, and the `Retry-After` of a `429` before
it, before it sends anything; and the interval is the first one and five seconds for each turn that
ended in an answer asking to slow down. -/
theorem device_login_paced (hclient : ThrowsForeign env.client.transport)
    (hkeys : ThrowsForeign env.jwks.transport) (hclock : ∀ tick, SteadyMs (env.nowMs tick))
    {display : DeviceAuthorization → Except Exc Unit} {scope tenantId : Option Str}
    {c₀ c : DeviceClient} {grant : Grant} {start : Polling} (hfresh : c₀.journal = [])
    (hstart : startLogin env display scope tenantId c₀ = (.ok (grant, start), c))
    (hinterval : start.interval < 2147483648)
    {trace : List (Transition DeviceLogin Unit)} {last : DeviceLogin}
    (hrun : Run (DeviceLogin.Turns env grant) ⟨c, .polling start⟩ trace last) :
    LoginStarted env display scope tenantId c₀ c grant start ∧
    SentBefore grant.deadline last.client.journal ∧
    ∀ before t after, trace = before ++ t :: after → ∃ p, t.pre.progress = .polling p ∧
      p.interval = start.interval + slowDowns env before ∧
      (∀ answer, t.pre.lastAnswer = some answer → FloorAfter env answer p.retryFloorMs) ∧
      ∃ new, t.post.client.journal = t.pre.client.journal ++ new ∧
        (sends new ≠ [] → ∃ looked awake answer rest, new = .clock looked ::
          .slept (max (p.interval * 1000) p.retryFloorMs) :: .clock awake :: .sent answer :: rest) := by
  obtain ⟨_, _, _, c₃, -, -, -, -, hfloor, hpositive, hdeadline, hjournal⟩ :=
    startLogin_started hstart
  rw [hfresh, List.nil_append] at hjournal
  have hlimit : grant.deadline ≤ 10223372036854 := by
    have hnow := hclock c₃.ticks
    unfold SteadyMs at hnow
    omega
  have hfirst : PacedSince env grant.deadline start [] ⟨c, .polling start⟩ := by
    refine ⟨?_, ?_, ?_, ?_⟩
    · rintro p ⟨⟩
      refine ⟨⟨hpositive, by omega⟩, ?_⟩
      rw [hfloor]
      simp
    · show Timed _ c.journal
      rw [hjournal]
      exact ⟨nofun, .singleton _⟩
    · rintro p ⟨⟩
      exact (Int.add_zero _).symm
    · intro p answer _ hanswer
      rw [show (DeviceLogin.mk c (.polling start)).lastAnswer = none by
        show (sends c.journal).getLast? = none
        rw [hjournal]
        rfl] at hanswer
      cases hanswer
  obtain ⟨hlast, hbefore⟩ := hrun.history (I := PacedSince env grant.deadline start)
    (PacedSince.turn hclient hkeys hclock hlimit) hfirst
  refine ⟨startLogin_started hstart, hlast.timed.sentBefore, ?_⟩
  intro before t after hsplit
  have hpaced : PacedSince env grant.deadline start before t.pre := hbefore before t after hsplit
  have hmem : t ∈ trace := by
    rw [hsplit]
    exact List.mem_append_right _ List.mem_cons_self
  obtain ⟨p, hpolling, hpost⟩ := hrun.steps t hmem
  obtain ⟨new, hnew, hturn⟩ := turn_written hclient hkeys grant p t.pre.client
  refine ⟨p, hpolling, hpaced.interval p hpolling, fun answer => hpaced.floor p answer hpolling,
    new, by rw [hpost]; exact hnew, fun hsent => ?_⟩
  obtain ⟨_, answer, rest, ⟨tick, awake, rfl, -⟩, hsplit⟩ := hturn.waits hsent
  rw [(hpaced.fits p hpolling).wait] at hsplit
  exact ⟨env.nowMs tick, awake, answer, rest, hsplit⟩

/-! ## Two scripts -/

/-- The turn the loop takes next. -/
def DeviceLogin.next (env : GrantEnv) (grant : Grant) (s : DeviceLogin) : Option DeviceLogin :=
  s.progress.polling?.map fun p => DeviceLogin.turn env grant p s.client

theorem DeviceLogin.turns_next {env : GrantEnv} {grant : Grant} (s t : DeviceLogin)
    (h : s.next env grant = some t) : DeviceLogin.Turns env grant s () t := by
  obtain ⟨p, hpolling, rfl⟩ := Option.map_eq_some_iff.mp h
  exact ⟨p, Progress.polling_of hpolling, rfl⟩

/-- A grant that lives for a day. -/
def pacedParse : Parser := fun text =>
  if text = str "authorization" then
    some (.object [("device_code", .string "dc"), ("user_code", .string "uc"),
      ("verification_uri", .string "v"), ("expires_in", .integer 86400), ("interval", .integer 7)])
  else if text = str "slow" then some (.object [("error", .string "slow_down")])
  else deviceParse text

def pacedEnv (script : List HttpResponse) : GrantEnv :=
  { deviceEnv script with client := { (deviceEnv script).client with parse := pacedParse } }

/-- A login there, after some turns. -/
def pacedStart (script : List HttpResponse) : Except Exc (Grant × Polling) × DeviceClient :=
  startLogin (pacedEnv script) (fun _ => .ok ()) none none {}

/-- Two answers that ask to slow down, the second a redirect, and a `429` with a wait of two
hours. -/
def slowScript : List HttpResponse :=
  [⟨400, [], [], "slow", []⟩, ⟨302, [], [], "slow", []⟩,
    ⟨429, [("Retry-After", str "7200")], [], [], []⟩, ⟨200, [], [], "tokens", []⟩]

theorem slow_starts : (pacedStart slowScript).1.toOption.isSome = true := by decide

def slowGrant : Grant := ((pacedStart slowScript).1.toOption.get slow_starts).1

def slowStart : Polling := ((pacedStart slowScript).1.toOption.get slow_starts).2

def slowLogin (turns : Nat) : List (Transition DeviceLogin Unit) × DeviceLogin :=
  Run.play (DeviceLogin.next (pacedEnv slowScript) slowGrant) turns
    ⟨(pacedStart slowScript).2, .polling slowStart⟩

theorem slow_started : startLogin (pacedEnv slowScript) (fun _ => .ok ()) none none {} =
    (.ok (slowGrant, slowStart), (pacedStart slowScript).2) :=
  Prod.ext (ok_of_isSome slow_starts) rfl

theorem slowLogin_run (turns : Nat) :
    Run (DeviceLogin.Turns (pacedEnv slowScript) slowGrant)
      ⟨(pacedStart slowScript).2, .polling slowStart⟩ (slowLogin turns).1 (slowLogin turns).2 :=
  Run.run_play DeviceLogin.turns_next _ _

/-- Every request of this login is sent before its deadline. -/
theorem slowLogin_onTime : SentBefore slowGrant.deadline (slowLogin 4).2.client.journal := by
  have hclient : ThrowsForeign (pacedEnv slowScript).client.transport := by
    intro _ _ _ h
    cases h
  have hclock : ∀ tick, SteadyMs ((pacedEnv slowScript).nowMs tick) := fun _ => by
    show SteadyMs 0
    unfold SteadyMs
    omega
  exact (device_login_paced hclient (deviceEnv_keys slowScript) hclock rfl slow_started (by decide)
    (slowLogin_run 4)).2.1

/-- After two answers below `500` that name `slow_down`, the interval is five seconds longer and not
ten; and after a `429` that asks for two hours the next poll comes after one. -/
theorem slowLogin_unread_and_capped :
    startLogin (pacedEnv slowScript) (fun _ => .ok ()) none none {} =
        (.ok (slowGrant, slowStart), (pacedStart slowScript).2) ∧
      Run (DeviceLogin.Turns (pacedEnv slowScript) slowGrant)
        ⟨(pacedStart slowScript).2, .polling slowStart⟩ (slowLogin 4).1 (slowLogin 4).2 ∧
      ((slowLogin 4).1.map fun t => t.pre.progress.polling?) =
        [some ⟨7, 0⟩, some ⟨12, 0⟩, some ⟨12, 0⟩, some ⟨12, 3600000⟩] ∧
      sends (slowLogin 4).2.client.journal = slowScript.map .ok ∧
      (∀ resp ∈ slowScript.take 2, resp.status < 500 ∧ resp.status ≠ 429 ∧
        errorCode (pacedEnv slowScript) resp = some (str "slow_down")) ∧
      (slowScript[2].status = 429 ∧ slowScript[2].headers.find? "Retry-After" = some (str "7200")) ∧
      ∃ earlier, (slowLogin 4).2.client.journal = earlier ++ [.sent (.ok slowScript[2]), .clock 0,
        .slept 3600000, .clock 0, .sent (.ok slowScript[3])] :=
  ⟨slow_started, slowLogin_run 4, by decide, by decide, by decide,
    by decide, (slowLogin 4).2.client.journal.take 12, by decide⟩

end Axiam.Oidc
