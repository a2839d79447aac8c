import Axiam.Management.Answers

/-!
# A refresh on the management path

`CONTRACT.md` §27.8 has the management operations inherit the single-flight refresh of the
client's own.  `Transport::send` has a send loop of its own; here it is compared with the one that
refreshes as `execute` does.
-/

namespace Axiam.Management

open Axiam.Lib Axiam.Lib.Prog Axiam.Client

section

variable (env : Env)

/-- The attempts of one request, and the outcome of the last. -/
def lastAttempt (method path payload : Str) : Nat → Prog Impl Exc (Except Exc HttpResponse)
  | 0 => keepNetworkError (sendBuilt env method path payload)
  | retries + 1 => do
      let outcome ← keepNetworkError (sendBuilt env method path payload)
      if retryShouldRetry (statusOf outcome) then lastAttempt method path payload retries
      else pure outcome

/-- One refresh, and the operation once more: what that is answered decides. -/
def refreshAndResend (operation method path payload : Str) : Prog Impl Exc Json := do
  let _ ← doSingleFlightRefresh env
  let retried ← sendBuilt env method path payload
  Prog.lift (settle env operation (.ok retried))

/-- An outcome, settled the way `execute` settles its own. -/
def settleRefreshing (operation method path payload : Str) (outcome : Except Exc HttpResponse) :
    Prog Impl Exc Json := do
  let s ← Prog.read
  if statusOf outcome = some 401 ∧ s.refreshable = true then
    refreshAndResend env operation method path payload
  else Prog.lift (settle env operation outcome)

/-- `Transport::send` as the contract has it: on a `401` a refreshable session is refreshed. -/
def sendRefreshing (operation method template : Str) (values : List (Str × Str))
    (query : List (Str × Option Str)) (body : Option Json) : Prog Impl Exc Json := do
  ensureOpen
  sessionCheck operation
  let payload ← Prog.lift (payloadOf env body)
  let path := withQuery (substitute template values) query
  let outcome ← lastAttempt env method path payload (retriesOf env method)
  settleRefreshing env operation method path payload outcome

/-- Between two states a request was answered `401`. -/
def Unauthorized (s t : Impl) : Prop :=
  ∃ resp, .ok resp ∈ (answered env t).drop (answered env s).length ∧ resp.transportError = [] ∧
    resp.status = 401

end

section

variable {env : Env}

/-- The loop of `send` is its attempts, settled. -/
theorem sendAttempts_run (operation method path payload : Str) (retries : Nat) (s : Impl) :
    sendAttempts env operation method path payload retries s =
      (lastAttempt env method path payload retries >>= fun outcome =>
        Prog.lift (settle env operation outcome)) s := by
  induction retries generalizing s with
  | zero => rfl
  | succ retries ih =>
      unfold sendAttempts lastAttempt
      rw [Prog.bind_assoc_run, bind_run, bind_run]
      rcases keepNetworkError (sendBuilt env method path payload) s with ⟨e | outcome, t⟩
      · rfl
      · simp only
        by_cases hretry : retryShouldRetry (statusOf outcome) = true
        · rw [if_pos hretry, if_pos hretry, ih]
        · rw [if_neg hretry, if_neg hretry]
          rfl

theorem kept_unauthorized_iff {answer : Answer} {outcome : Except Exc HttpResponse}
    (h : kept answer = .ok outcome) : statusOf outcome = some 401 ↔
      ∃ resp, answer = .ok resp ∧ resp.transportError = [] ∧ resp.status = 401 := by
  rcases answer with e | resp
  · obtain ⟨-, rfl⟩ := kept_ok_error h
    simp [statusOf]
  · cases h
    unfold delivered
    by_cases hdelivered : resp.transportError = []
    · simp [hdelivered, statusOf]
    · simp [hdelivered, statusOf]

theorem unauthorized_singleton (answer : Answer) :
    (∃ resp, .ok resp ∈ [answer] ∧ resp.transportError = [] ∧ resp.status = 401) ↔
      ∃ outcome, kept answer = .ok outcome ∧ statusOf outcome = some 401 := by
  constructor
  · rintro ⟨resp, hresp, h⟩
    cases List.mem_singleton.mp hresp
    exact ⟨_, rfl, (kept_unauthorized_iff rfl).mpr ⟨resp, rfl, h⟩⟩
  · rintro ⟨outcome, hkept, hstatus⟩
    obtain ⟨resp, rfl, h⟩ := (kept_unauthorized_iff hkept).mp hstatus
    exact ⟨resp, List.mem_singleton_self _, h⟩

variable (env) in
/-- A `401` is never tried again, so it is the outcome of the last attempt. -/
theorem lastAttempt_answers (method path payload : Str) (retries : Nat) (s : Impl) :
    ∃ new, answered env (lastAttempt env method path payload retries s).2 = answered env s ++ new ∧
      ((∃ resp, .ok resp ∈ new ∧ resp.transportError = [] ∧ resp.status = 401) ↔
        ∃ outcome, (lastAttempt env method path payload retries s).1 = .ok outcome ∧
          statusOf outcome = some 401) := by
  induction retries generalizing s with
  | zero =>
      obtain ⟨answer, hout, hanswered⟩ := attempt_answered env method path payload s
      refine ⟨[answer], hanswered, ?_⟩
      show _ ↔ ∃ outcome, (keepNetworkError (sendBuilt env method path payload) s).1 = _ ∧ _
      rw [hout]
      exact unauthorized_singleton answer
  | succ retries ih =>
      obtain ⟨answer, hout, hanswered⟩ := attempt_answered env method path payload s
      rcases hrun : keepNetworkError (sendBuilt env method path payload) s with ⟨r, t⟩
      rw [hrun] at hout hanswered
      simp only at hout hanswered
      unfold lastAttempt
      rw [bind_run, hrun]
      rcases r with e | outcome
      · refine ⟨[answer], hanswered, ?_⟩
        show _ ↔ ∃ o, Except.error e = Except.ok o ∧ _
        rw [hout]
        exact unauthorized_singleton answer
      · simp only
        by_cases hretry : retryShouldRetry (statusOf outcome) = true
        · rw [if_pos hretry]
          obtain ⟨new, hnew, hiff⟩ := ih t
          refine ⟨answer :: new, by rw [hnew, hanswered, List.append_assoc]; rfl, ?_⟩
          rw [← hiff]
          have hother : ¬∃ resp, answer = .ok resp ∧ resp.transportError = [] ∧
              resp.status = 401 := by
            rw [← kept_unauthorized_iff hout.symm]
            intro h
            rw [h] at hretry
            cases hretry
          constructor
          · rintro ⟨resp, hresp, hdelivered, hstatus⟩
            rcases List.mem_cons.mp hresp with rfl | hresp
            · exact absurd ⟨resp, rfl, hdelivered, hstatus⟩ hother
            · exact ⟨resp, hresp, hdelivered, hstatus⟩
          · rintro ⟨resp, hresp, h⟩
            exact ⟨resp, List.mem_cons_of_mem _ hresp, h⟩
        · rw [if_neg hretry]
          refine ⟨[answer], hanswered, ?_⟩
          show _ ↔ ∃ o, Except.ok outcome = Except.ok o ∧ _
          rw [hout]
          exact unauthorized_singleton answer

section

variable {τ : Type} {f : Impl → τ} (hf : Untouched f)
include hf

variable (env) in
theorem lastAttempt_keeps (method path payload : Str) (retries : Nat) :
    Keeps f (lastAttempt env method path payload retries) := by
  have hattempt := keepNetworkError_keeps (sendBuilt_keeps env hf method path payload)
  induction retries with
  | zero => exact hattempt
  | succ retries ih => exact Keeps.bind hattempt fun _ => Keeps.ite ih (Keeps.ret _)

end

/-- A program that counts one refresh. -/
def Counts {α : Type} (p : Prog Impl Exc α) : Prop :=
  ∀ s, (p s).2.refreshCount = s.refreshCount + 1

theorem Counts.bind {α β : Type} {p : Prog Impl Exc α} {k : α → Prog Impl Exc β} (hp : Counts p)
    (hk : ∀ a, Keeps Impl.refreshCount (k a)) : Counts (p >>= k) := by
  intro s
  have hfirst := hp s
  rw [bind_run]
  rcases hrun : p s with ⟨e | a, t⟩ <;> rw [hrun] at hfirst
  · exact hfirst
  · exact (hk a t).trans hfirst

theorem sendRaw_refreshCount (req : HttpRequest) :
    Keeps Impl.refreshCount (sendRaw env req) := by
  have hcapture : ∀ (resp : HttpResponse) (s : Impl), (s.capture resp).refreshCount =
      s.refreshCount := by
    intro resp s
    unfold Impl.capture
    split
    · split <;> rfl
    · rfl
  exact Keeps.bind (fun _ => rfl) fun _ => Keeps.bind (Keeps.lift _) fun resp =>
    Keeps.bind (Keeps.modify (hcapture resp)) fun _ => Keeps.ret _

theorem sendBuilt_refreshCount (method path body : Str) :
    Keeps Impl.refreshCount (sendBuilt env method path body) :=
  Keeps.bind Keeps.read fun _ => sendRaw_refreshCount _

variable (env) in
/-- A refresh is counted, whatever becomes of it. -/
theorem doSingleFlightRefresh_counts : Counts (doSingleFlightRefresh env) := by
  have hperform : Counts (performRefresh env) := by
    refine Counts.bind (fun _ => rfl) fun _ => Keeps.bind Keeps.read fun _ => ?_
    refine Keeps.bind (Keeps.lift _) fun _ => Keeps.bind (sendBuilt_refreshCount _ _ _) fun _ => ?_
    exact Keeps.ite (Keeps.ret _) (Keeps.raise _)
  exact hperform.bind fun _ => Keeps.bind (Keeps.modify fun _ => rfl) fun _ => Keeps.ret _

variable (env) in
theorem refreshAndResend_counts (operation method path payload : Str) :
    Counts (refreshAndResend env operation method path payload) :=
  (doSingleFlightRefresh_counts env).bind fun _ =>
    Keeps.bind (sendBuilt_refreshCount _ _ _) fun _ => Keeps.lift _

variable (env) in
/-- Both sends refuse the same calls locally, and otherwise settle the same attempts. -/
theorem send_run (operation method template : Str) (values : List (Str × Str))
    (query : List (Str × Option Str)) (body : Option Json) (s : Impl) :
    (∃ e, send env operation method template values query body s = (.error e, s) ∧
      sendRefreshing env operation method template values query body s = (.error e, s)) ∨
    ∃ path payload, send env operation method template values query body s =
        (lastAttempt env method path payload (retriesOf env method) >>= fun outcome =>
          Prog.lift (settle env operation outcome)) s ∧
      sendRefreshing env operation method template values query body s =
        (lastAttempt env method path payload (retriesOf env method) >>= fun outcome =>
          settleRefreshing env operation method path payload outcome) s := by
  unfold send sendRefreshing
  by_cases hclosed : s.closed = true
  · have hopen := ensureOpen_run_closed hclosed
    exact .inl ⟨closedError, bind_run_error hopen _, bind_run_error hopen _⟩
  have hopen : ensureOpen s = (.ok (), s) := ensureOpen_run_open (by simpa using hclosed)
  rw [bind_run_ok hopen, bind_run_ok hopen]
  have hsession : (sessionCheck operation s).2 = s := sessionCheck_keeps (f := id) operation s
  rcases hcheck : sessionCheck operation s with ⟨e | u, t⟩ <;> rw [hcheck] at hsession
  · obtain rfl : t = s := hsession
    rw [bind_run_error hcheck, bind_run_error hcheck]
    exact .inl ⟨e, rfl, rfl⟩
  · obtain rfl : t = s := hsession
    rw [bind_run_ok hcheck, bind_run_ok hcheck]
    rcases payloadOf env body with e | payload
    · exact .inl ⟨e, rfl, rfl⟩
    · exact .inr ⟨withQuery (substitute template values) query, payload,
        sendAttempts_run operation method _ payload _ _, rfl⟩

end

/-- A management operation refreshes as `execute` does exactly when there is nothing to refresh:
the session cannot be refreshed, or no request was answered `401`. -/
theorem send_eq_sendRefreshing_iff (env : Env) (operation method template : Str)
    (values : List (Str × Str)) (query : List (Str × Option Str)) (body : Option Json) (s : Impl) :
    send env operation method template values query body s =
        sendRefreshing env operation method template values query body s ↔
      ¬(s.refreshable = true ∧
        Unauthorized env s (send env operation method template values query body s).2) := by
  rcases send_run env operation method template values query body s with
    ⟨e, hsend, hrefreshing⟩ | ⟨path, payload, hsend, hrefreshing⟩
  · rw [hsend, hrefreshing]
    simp [Unauthorized]
  · obtain ⟨new, hnew, hiff⟩ := lastAttempt_answers env method path payload
      (retriesOf env method) s
    have hkeeps := lastAttempt_keeps env flags_untouched method path payload
      (retriesOf env method) s
    have hflags : (lastAttempt env method path payload (retriesOf env method) s).2.refreshable =
        s.refreshable :=
      congrArg (fun flags : Bool × Bool => flags.1 && !flags.2) hkeeps
    have hunauthorized : Unauthorized env s (send env operation method template values query
        body s).2 ↔ ∃ outcome, (lastAttempt env method path payload (retriesOf env method) s).1 =
          .ok outcome ∧ statusOf outcome = some 401 := by
      rw [hsend, bind_lift_run, ← hiff]
      unfold Unauthorized
      rw [hnew, List.drop_left]
    rw [hunauthorized, hsend, hrefreshing, bind_lift_run, bind_run]
    rcases hrun : lastAttempt env method path payload (retriesOf env method) s with ⟨e | outcome, t⟩
    · simp
      rfl
    · rw [hrun] at hflags
      simp only at hflags ⊢
      unfold settleRefreshing
      rw [bind_run, read_run]
      simp only
      by_cases hdenied : statusOf outcome = some 401 ∧ t.refreshable = true
      · rw [if_pos hdenied]
        -- one side counts a refresh, the other none
        have hcounts := refreshAndResend_counts env operation method path payload t
        constructor
        · intro heq
          rw [← heq] at hcounts
          simp at hcounts
        · intro h
          exact absurd ⟨by rw [← hflags]; exact hdenied.2, outcome, rfl, hdenied.1⟩ h
      · rw [if_neg hdenied]
        refine ⟨fun _ => ?_, fun _ => rfl⟩
        rintro ⟨hrefreshable, o, ho, hstatus⟩
        cases ho
        exact hdenied ⟨hstatus, by rw [hflags]; exact hrefreshable⟩

/-- A server that knows the session again once it has been refreshed. -/
def expiredTenant : Env where
  baseUrl := "https://iam.example"
  tenantHeader := "acme"
  parse := tableParser [(str "refreshed", .object [("expires_in", .integer 900)])]
  dump := fun _ => "\x7b\x7d"
  transport := fun before req => .ok <|
    if req.url = "https://iam.example/api/v1/auth/refresh" then { status := 200, body := "refreshed" }
    else if before = [] then { status := 401 } else { status := 204 }
  clock := fun n => n
  opaqueStart := fun _ _ => .error (.foreign "no library")
  opaqueFinish := fun _ _ _ _ => .error (.foreign "no library")

/-- The roles listed on a session that has expired: refreshed it would succeed, and `send` gives
it up. -/
theorem expired_not_refreshed :
    let send := send expiredTenant "roles.list" "GET" "/api/v1/roles" [] [] none { session := true }
    let promised :=
      sendRefreshing expiredTenant "roles.list" "GET" "/api/v1/roles" [] [] none { session := true }
    send.1.isOk = false ∧ promised.1.isOk = true ∧ send ≠ promised := by
  intro send promised
  have hsend : send.1.isOk = false := by decide
  have hpromised : promised.1.isOk = true := by decide
  refine ⟨hsend, hpromised, fun heq => ?_⟩
  rw [heq, hpromised] at hsend
  cases hsend

end Axiam.Management
