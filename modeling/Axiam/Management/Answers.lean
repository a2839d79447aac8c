import Axiam.Lib.Log
import Axiam.Management.Send

/-!
# What a management request is answered

The answers of the transport, as a client's record of what it sent determines them, and what
`Transport::send` makes of them: all but two kinds end in an exception of the taxonomy.
-/

namespace Axiam.Management

open Axiam.Lib Axiam.Lib.Prog Axiam.Client

section

variable (env : Env)

/-- What the transport answered to requests, after others. -/
def answersFrom : List HttpRequest → List HttpRequest → List Answer
  | _, [] => []
  | before, req :: rest => env.transport before req :: answersFrom (before ++ [req]) rest

theorem answersFrom_append (before l l' : List HttpRequest) :
    answersFrom env before (l ++ l') = answersFrom env before l ++ answersFrom env (before ++ l) l' := by
  induction l generalizing before with
  | nil => simp [answersFrom]
  | cons req rest ih => simp [answersFrom, ih, List.append_assoc]

/-- An answer whose exception no `catch` of the engine takes. -/
def Unreported : Answer → Prop
  | .error e => e.reported = false
  | .ok resp => resp.transportError = [] ∧ resp.status = 403 ∧
      ¬(objectOf env.parse resp.body).StringOrAbsent "message"

/-- What a client was answered so far. -/
def answered (s : Impl) : List Answer := answersFrom env [] s.sent

/-- The answers, of which the unreported ones are fatal. -/
def answerLog : Log Impl Exc Answer where
  entries := answered env
  bad := Unreported env
  fatal e := e.reported = false

/-- One attempt of `Transport::send`, by what was answered. -/
def kept : Answer → Except Exc (Except Exc HttpResponse)
  | .error e => if e.isNetwork then .ok (.error e) else .error e
  | .ok resp => .ok (delivered resp)

end

section

variable {env : Env}

theorem Exc.reported_of_isNetwork {e : Exc} (h : e.isNetwork = true) : e.reported = true := by
  cases e with
  | axiam e => rfl
  | _ => cases h

theorem network_isNetwork (what cause : Str) : (Exc.network what cause).isNetwork = true := rfl

/-- What is kept was answered, and is no exception that passes. -/
theorem kept_error {answer : Answer} {e : Exc} (h : kept answer = .error e) :
    answer = .error e := by
  rcases answer with e' | resp
  · simp only [kept] at h
    split at h
    · cases h
    · cases h
      rfl
  · cases h

theorem kept_ok_error {e : Exc} {outcome : Except Exc HttpResponse}
    (h : kept (.error e) = .ok outcome) : e.isNetwork = true ∧ outcome = .error e := by
  simp only [kept] at h
  split at h
  next hnet =>
    cases h
    exact ⟨hnet, rfl⟩
  · cases h

variable (env) in
/-- An attempt is one request, and comes to what it was answered. -/
theorem keepNetworkError_sendBuilt_run (method path body : Str) (s : Impl) :
    (keepNetworkError (sendBuilt env method path body) s).1 =
        kept (env.transport s.sent (buildRequest env s method path body)) ∧
      (keepNetworkError (sendBuilt env method path body) s).2.sent =
        s.sent ++ [buildRequest env s method path body] := by
  have hcapture : ∀ (t : Impl) resp, (t.capture resp).sent = t.sent := by
    intro t resp
    unfold Impl.capture
    split
    · split <;> rfl
    · rfl
  unfold keepNetworkError sendBuilt sendRaw
  rw [tryCatch_run, bind_run, bind_run, read_run]
  simp only
  rw [bind_run, transport_run rfl]
  rcases env.transport s.sent (buildRequest env s method path body) with e | resp
  · simp only [kept]
    by_cases hnet : e.isNetwork = true
    · simp [hnet]
    · simp [hnet]
  · simp only [bind_run, lift_run, kept]
    unfold delivered
    by_cases hdelivered : resp.transportError = []
    · simp only [if_pos hdelivered, captureCsrf, modify_run, pure_run, hcapture, true_and]
    · simp only [if_neg hdelivered, network_isNetwork]
      exact ⟨rfl, rfl⟩

variable (env) in
/-- So it adds one answer, and comes to that. -/
theorem attempt_answered (method path body : Str) (s : Impl) :
    ∃ answer, (keepNetworkError (sendBuilt env method path body) s).1 = kept answer ∧
      answered env (keepNetworkError (sendBuilt env method path body) s).2 =
        answered env s ++ [answer] := by
  obtain ⟨hout, hsent⟩ := keepNetworkError_sendBuilt_run env method path body s
  refine ⟨_, hout, ?_⟩
  unfold answered
  rw [hsent, answersFrom_append]
  rfl

/-- A response's JSON, or a `NetworkError`. -/
theorem readBody_error {operation : Str} {resp : HttpResponse} {e : Exc}
    (h : readBody env operation resp = .error e) : e.reported = true := by
  unfold readBody at h
  split at h
  · cases h
  · split at h
    · cases h
    · cases h
      rfl

/-- A status is raised as something unreported only by a `403` that cannot be read. -/
theorem raiseManagementStatus_unreported_iff (operation : Str) (resp : HttpResponse) :
    (raiseManagementStatus env.parse operation resp).reported = false ↔
      resp.status = 403 ∧ ¬(objectOf env.parse resp.body).StringOrAbsent "message" := by
  have hgeneral : (raiseForStatus env.parse resp).reported = false ↔
      unreadableDenial env.parse resp := by
    have hiff := isAxiam_raiseForStatus_iff env.parse resp
    have hsame : (raiseForStatus env.parse resp).reported =
        (raiseForStatus env.parse resp).isAxiam := by
      unfold raiseForStatus
      simp only
      split_ifs
      · rfl
      · split <;> rfl
      all_goals rfl
    rw [hsame, ← Bool.not_eq_true, hiff, not_not]
  unfold raiseManagementStatus
  simp only
  by_cases h404 : resp.status = 404
  · simp [h404, Exc.reported]
  · by_cases h409 : resp.status = 409
    · simp [h409, Exc.reported]
    · by_cases h400 : resp.status = 400 ∨ resp.status = 422
      · rw [if_neg h404, if_neg h409, if_pos h400]
        rcases h400 with h | h <;> simp [h, Exc.reported]
      · rw [if_neg h404, if_neg h409, if_neg h400, hgeneral]
        unfold unreadableDenial
        simp [h409]

/-- What an answer comes to once it is settled. -/
theorem settle_dies_iff (operation : Str) {answer : Answer} {outcome : Except Exc HttpResponse}
    (h : kept answer = .ok outcome) :
    (answerLog env).Dies (settle env operation outcome) ↔ Unreported env answer := by
  rcases answer with e | resp
  · obtain ⟨-, rfl⟩ := kept_ok_error h
    rw [show settle env operation (.error e) = .error e from rfl, Log.dies_error]
    exact Iff.rfl
  · cases h
    unfold delivered
    by_cases hdelivered : resp.transportError = []
    · rw [if_pos hdelivered]
      show (answerLog env).Dies (if resp.isSuccess then _ else _) ↔ _
      by_cases hsuccess : resp.isSuccess = true
      · have hstatus : ¬resp.status = 403 := by
          intro h403
          unfold HttpResponse.isSuccess at hsuccess
          rw [h403] at hsuccess
          cases hsuccess
        rw [if_pos hsuccess]
        simp only [Unreported, hstatus, false_and, and_false, iff_false]
        rintro ⟨e, he, hfatal⟩
        exact Bool.false_ne_true (hfatal.symm.trans (readBody_error he))
      · rw [if_neg hsuccess, Log.dies_error]
        show (raiseManagementStatus env.parse operation resp).reported = false ↔ _
        rw [raiseManagementStatus_unreported_iff]
        simp [Unreported, hdelivered]
    · rw [if_neg hdelivered, show settle env operation (.error _) = .error _ from rfl,
        Log.dies_error]
      simp [Unreported, hdelivered, answerLog, Exc.network, Exc.reported]

/-- Nothing unreported is tried again. -/
theorem not_unreported_of_retry {answer : Answer} {outcome : Except Exc HttpResponse}
    (h : kept answer = .ok outcome) (hretry : retryShouldRetry (statusOf outcome) = true) :
    ¬Unreported env answer := by
  rcases answer with e | resp
  · intro hbad
    exact Bool.false_ne_true (hbad.symm.trans (Exc.reported_of_isNetwork (kept_ok_error h).1))
  · cases h
    rintro ⟨hdelivered, hstatus, -⟩
    unfold delivered at hretry
    rw [if_pos hdelivered] at hretry
    simp only [statusOf, hstatus] at hretry
    cases hretry

/-- One attempt, and what is made of it. -/
theorem attempt_added {k : Except Exc HttpResponse → Prog Impl Exc Json}
    (method path payload : Str) (s : Impl)
    (hk : ∀ outcome answer, kept answer = .ok outcome → ∀ u : Impl,
      Added (answerLog env) (fun _ => True) u (k outcome u).1 (k outcome u).2 ∧
        ¬Unreported env answer ∨
      (k outcome u).2 = u ∧ ((answerLog env).Dies (k outcome u).1 ↔ Unreported env answer)) :
    Added (answerLog env) (fun _ => True) s
      ((keepNetworkError (sendBuilt env method path payload) >>= k) s).1
      ((keepNetworkError (sendBuilt env method path payload) >>= k) s).2 := by
  obtain ⟨answer, hout, hentries⟩ := attempt_answered env method path payload s
  rcases hrun : keepNetworkError (sendBuilt env method path payload) s with ⟨r, t⟩
  rw [hrun] at hout hentries
  rw [bind_run, hrun]
  rcases r with e | outcome
  · refine ⟨_, hentries, fun _ _ => trivial, ?_⟩
    rw [Log.dies_error]
    simp [answerLog, kept_error hout.symm, Unreported]
  · rcases hk outcome answer hout.symm t with ⟨hadded, halive⟩ | ⟨hsame, hdies⟩
    · obtain ⟨new, hlog, -, hbad⟩ := hadded
      refine ⟨answer :: new, ?_, fun _ _ => trivial, ?_⟩
      · rw [hlog, show (answerLog env).entries t = _ from hentries, List.append_assoc]
        rfl
      · rw [hbad]
        simp [answerLog, halive]
    · refine ⟨_, by rw [hsame]; exact hentries, fun _ _ => trivial, ?_⟩
      rw [hdies]
      simp [answerLog]

/-- The attempts of one request die exactly when an answer is unreported. -/
theorem sendAttempts_logged (operation method path payload : Str) (retries : Nat) :
    Logged (answerLog env) (fun _ => True)
      (sendAttempts env operation method path payload retries) := by
  induction retries with
  | zero =>
      intro s
      exact attempt_added method path payload s fun outcome req hkept u =>
        .inr ⟨rfl, settle_dies_iff operation hkept⟩
  | succ retries ih =>
      intro s
      refine attempt_added method path payload s fun outcome req hkept u => ?_
      by_cases hretry : retryShouldRetry (statusOf outcome) = true
      · rw [if_pos hretry]
        exact .inl ⟨ih u, not_unreported_of_retry hkept hretry⟩
      · rw [if_neg hretry]
        exact .inr ⟨rfl, settle_dies_iff operation hkept⟩

end

end Axiam.Management
