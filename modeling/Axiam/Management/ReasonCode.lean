import Axiam.Management.ApplyReport
import Axiam.Management.Rebinding

/-!
# Conflict reason codes

A `409` may name its conflict in `reason_code`.  The code travels on the exception the request
comes to, and `apply` takes it from the exception it catches.  A rebind whose re-assign failed
throws another exception than that one, and the code is not on it.
-/

namespace Axiam.Management

open Axiam.Lib Axiam.Lib.Prog Axiam.Client

/-! ## The request an action fails on -/

section

variable {σ : Type} (api : Api σ)

/-- A call that came to an exception. -/
def callFailed (x : Call × σ) : Bool := !(api.call x.1 x.2).1.isOk

/-- The request an action failed on: the first of its calls that came to an exception. -/
def failedRequest (calls : List (Call × σ)) : Option (Call × σ) := calls.find? (callFailed api)

variable {api}

/-- The calls of a rebind whose re-assign failed: a role of a subject is taken back, assigned in
another form, and assigned as it was. -/
def Restoring (u x z : Call) : Prop :=
  ∃ kind subject role resource body previous, u = unassignCall kind subject role resource ∧
    x = assignCall kind subject role body ∧ z = assignCall kind subject role previous

/-- A call of an action is the re-assign of such a rebind. -/
def Reassign (calls : List (Call × σ)) (x : Call × σ) : Prop :=
  ∃ before u z, calls = before ++ [u, x, z] ∧ Restoring u.1 x.1 z.1

variable (api) in
/-- How the calls of an action end, by what they came to. -/
inductive Ended {α : Type} : List (Call × σ) → Except Exc α → Prop
  | fine {calls : List (Call × σ)} {a : α} (hfine : ∀ x ∈ calls, callFailed api x = false) :
      Ended calls (.ok a)
  /-- Refused before a request. -/
  | refused {calls : List (Call × σ)} {e : Exc} (hfine : ∀ x ∈ calls, callFailed api x = false)
      (hreason : reasonIn e = none) : Ended calls (.error e)
  | failed {before : List (Call × σ)} {x : Call × σ} {e : Exc}
      (hfine : ∀ y ∈ before, callFailed api y = false)
      (hfailed : (api.call x.1 x.2).1 = .error e) : Ended (before ++ [x]) (.error e)
  | lost {before : List (Call × σ)} {u x z : Call × σ} {e : Exc}
      (hfine : ∀ y ∈ before, callFailed api y = false) (hunassign : callFailed api u = false)
      (hfailed : callFailed api x = true) (hrestoring : Restoring u.1 x.1 z.1)
      (hreason : reasonIn e = none) :
      Ended (before ++ [u, x, z]) (.error e)

variable (api) in
/-- The calls of a program, from whatever state, end as they should. -/
def Ends {α : Type} (p : Prog (Work σ) Exc α) : Prop :=
  ∀ w, ∃ new, (p w).2.calls = w.calls ++ new ∧ Ended api new (p w).1

theorem callFailed_of_error {x : Call × σ} {e : Exc} (h : (api.call x.1 x.2).1 = .error e) :
    callFailed api x = true := by
  rw [callFailed, h]
  rfl

theorem callFailed_of_ok {x : Call × σ} {a : x.1.Reply} (h : (api.call x.1 x.2).1 = .ok a) :
    callFailed api x = false := by
  rw [callFailed, h]
  rfl

namespace Ended

variable {α β : Type}

theorem ok_fine {calls : List (Call × σ)} {a : α} (h : Ended api calls (.ok a : Except Exc α)) :
    ∀ x ∈ calls, callFailed api x = false := by
  cases h with
  | fine hfine => exact hfine

/-- An exception is the same whatever would have been returned. -/
theorem retype {calls : List (Call × σ)} {e : Exc} (h : Ended api calls (.error e : Except Exc α)) :
    Ended api calls (.error e : Except Exc β) := by
  cases h with
  | refused hfine hreason => exact .refused hfine hreason
  | failed hfine hfailed => exact .failed hfine hfailed
  | lost hfine hunassign hfailed hrestoring hreason =>
      exact .lost hfine hunassign hfailed hrestoring hreason


theorem only {x : Call × σ} {e : Exc} (h : (api.call x.1 x.2).1 = .error e) :
    Ended api [x] (.error e : Except Exc α) :=
  List.nil_append [x] ▸ .failed (List.forall_mem_nil _) h

/-- After calls that all came to something. -/
theorem prepend {calls before : List (Call × σ)} {r : Except Exc α}
    (hbefore : ∀ x ∈ before, callFailed api x = false) (h : Ended api calls r) :
    Ended api (before ++ calls) r := by
  have hboth : ∀ {l : List (Call × σ)}, (∀ x ∈ l, callFailed api x = false) →
      ∀ x ∈ before ++ l, callFailed api x = false := fun hl =>
    List.forall_mem_append.mpr ⟨hbefore, hl⟩
  cases h with
  | fine hfine => exact .fine (hboth hfine)
  | refused hfine hreason => exact .refused (hboth hfine) hreason
  | failed hfine hfailed =>
      rw [← List.append_assoc]
      exact .failed (hboth hfine) hfailed
  | lost hfine hunassign hfailed hrestoring hreason =>
      rw [← List.append_assoc]
      exact .lost (hboth hfine) hunassign hfailed hrestoring hreason

/-- What the outcome of an action says of a conflict: what its failing request was answered, unless
that is a re-assign. -/
theorem reason {calls : List (Call × σ)} {r : Except Exc α} (h : Ended api calls r) :
    (failedRequest api calls = none → reasonOf r = none) ∧
    ∀ x, failedRequest api calls = some x →
      (Reassign calls x → reasonOf r = none) ∧
      (¬Reassign calls x → reasonOf r = reasonOf (api.call x.1 x.2).1) := by
  have hnone : ∀ {l : List (Call × σ)}, (∀ y ∈ l, callFailed api y = false) →
      l.find? (callFailed api) = none := fun hl =>
    List.find?_eq_none.mpr fun y hy => by rw [hl y hy]; exact Bool.false_ne_true
  unfold failedRequest
  cases h with
  | fine hfine =>
      rw [hnone hfine]
      exact ⟨fun _ => rfl, fun x hx => absurd hx (Option.some_ne_none x).symm⟩
  | refused hfine hreason =>
      rw [hnone hfine]
      exact ⟨fun _ => hreason, fun x hx => absurd hx (Option.some_ne_none x).symm⟩
  | @failed before x e hfine hfailed =>
      have hx : callFailed api x = true := callFailed_of_error hfailed
      rw [List.find?_append, hnone hfine, List.find?_cons_of_pos hx]
      refine ⟨fun h => absurd h (Option.some_ne_none _), fun y hy => ?_⟩
      cases hy
      refine ⟨fun hreassign => ?_, fun _ => by rw [hfailed]; rfl⟩
      -- the failing request is the last, and no call before it failed
      obtain ⟨before', u, z, hsplit, -⟩ := hreassign
      have hmem : x ∈ before := by
        have hlast : before = before' ++ [u, x] := by
          have : before ++ [x] = (before' ++ [u, x]) ++ [z] := by rw [hsplit]; simp
          exact (List.append_inj' this rfl).1
        rw [hlast]
        simp
      rw [hfine x hmem] at hx
      cases hx
  | @lost before u x z e hfine hunassign hfailed hrestoring hreason =>
      have hu : ¬callFailed api u = true := by rw [hunassign]; exact Bool.false_ne_true
      rw [List.find?_append, hnone hfine, List.find?_cons_of_neg hu, List.find?_cons_of_pos hfailed]
      refine ⟨fun h => absurd h (Option.some_ne_none _), fun y hy => ?_⟩
      cases hy
      exact ⟨fun _ => hreason, fun h => absurd ⟨before, u, z, rfl, hrestoring⟩ h⟩

end Ended

/-! ## What a change is performed with -/

theorem Ends.ret {α : Type} (a : α) : Ends api (pure a) := fun w =>
  ⟨[], (List.append_nil _).symm, .fine (by simp)⟩

theorem Ends.raise {α : Type} {e : Exc} (h : reasonIn e = none) :
    Ends api (throw e : Prog (Work σ) Exc α) := fun w =>
  ⟨[], (List.append_nil _).symm, .refused (by simp) h⟩

theorem Ends.bind {α β : Type} {p : Prog (Work σ) Exc α} {k : α → Prog (Work σ) Exc β}
    (hp : Ends api p) (hk : ∀ a, Ends api (k a)) : Ends api (p >>= k) := by
  intro w
  obtain ⟨new, hnew, hend⟩ := hp w
  rcases hrun : p w with ⟨e | a, t⟩ <;> rw [hrun] at hnew hend
  · rw [bind_run_error hrun]
    exact ⟨new, hnew, hend.retype⟩
  · rw [bind_run_ok hrun]
    obtain ⟨more, hmore, hend'⟩ := hk a t
    refine ⟨new ++ more, ?_, hend'.prepend hend.ok_fine⟩
    rw [hmore, hnew, List.append_assoc]

theorem Ends.ask (c : Call) : Ends api (ask api c) := by
  intro w
  refine ⟨[(c, w.world)], rfl, ?_⟩
  rw [ask_run]
  cases hcall : (api.call c w.world).1 with
  | ok a => exact .fine (List.forall_mem_singleton.mpr (callFailed_of_ok hcall))
  | error e => exact .only hcall

/-- How one request of a rebind goes. -/
structure Requested (api : Api σ) (w : Work σ) (c : Call) (out : Except Exc Unit × Work σ) : Prop where
  calls : out.2.calls = w.calls ++ [(c, w.world)]
  fine : out.1 = .ok () → callFailed api (c, w.world) = false
  failed : ∀ e, out.1 = .error e → (api.call c w.world).1 = .error e

variable (api) in
theorem assign_requested (kind : ManifestKind) (subject role : Str) (body : AssignRoleRequest)
    (w : Work σ) : Requested api w (assignCall kind subject role body)
      (assign api kind subject role body w) := by
  cases kind with
  | group => exact ⟨rfl, fun h => callFailed_of_ok h, fun _ h => h⟩
  | _ => exact ⟨rfl, fun h => callFailed_of_ok h, fun _ h => h⟩

variable (api) in
theorem unassign_requested (kind : ManifestKind) (subject role : Str) (resource : Option Str)
    (w : Work σ) : Requested api w (unassignCall kind subject role resource)
      (unassign api kind subject role resource w) := by
  cases kind with
  | group => exact ⟨rfl, fun h => callFailed_of_ok h, fun _ h => h⟩
  | _ => exact ⟨rfl, fun h => callFailed_of_ok h, fun _ h => h⟩

variable (api) in
/-- A restore is one request, and throws nothing that names a conflict. -/
theorem restore_ends (kind : ManifestKind) (subject role : Str) (existing : RoleAssignment)
    (w : Work σ) : ∃ body, (restore api kind subject role existing w).2.calls =
        w.calls ++ [(assignCall kind subject role body, w.world)] ∧
      ∀ e, (restore api kind subject role existing w).1 = .error e → reasonIn e = none := by
  let body : AssignRoleRequest :=
    ⟨existing.resourceId, wireInherit existing.narrowed, existing.tenantScope⟩
  have hrequest := assign_requested api kind subject role body w
  refine ⟨body, ?_⟩
  unfold restore
  rcases hrun : assign api kind subject role body w with ⟨e | u, t⟩ <;> rw [hrun] at hrequest
  · have hinner : (do assign api kind subject role body; pure none : Prog (Work σ) Exc (Option Str)) w =
        (.error e, t) := bind_run_error hrun _
    cases e with
    | axiam e =>
        rw [catchAxiam_run_error hinner]
        exact ⟨hrequest.calls, fun _ h => by cases h⟩
    | _ =>
        rw [catchAxiam_run_other rfl hinner]
        refine ⟨hrequest.calls, fun _ h => ?_⟩
        cases h
        rfl
  · have hinner : (do assign api kind subject role body; pure none : Prog (Work σ) Exc (Option Str)) w =
        (.ok none, t) := bind_run_ok hrun _
    rw [catchAxiam_run_ok hinner]
    exact ⟨hrequest.calls, fun _ h => by cases h⟩

/-- The three ways a rebind ends. -/
theorem rebind_ends (kind : ManifestKind) (subject role : Str) (existing : RoleAssignment)
    (resource : Option Str) (narrowed : Bool) :
    Ends api (rebind api kind subject role existing resource narrowed) := by
  intro w
  have hun := unassign_requested api kind subject role existing.resourceId w
  unfold rebind
  rcases hrun : unassign api kind subject role existing.resourceId w with ⟨e | _, t⟩ <;>
    rw [hrun] at hun
  · rw [bind_run_error hrun]
    exact ⟨_, hun.calls, .only (hun.failed e rfl)⟩
  rw [bind_run_ok hrun]
  let body : AssignRoleRequest := ⟨resource, wireInherit narrowed, existing.tenantScope⟩
  have has := assign_requested api kind subject role body t
  have hfirst : ∀ y ∈ [(unassignCall kind subject role existing.resourceId, w.world)],
      callFailed api y = false := List.forall_mem_singleton.mpr (hun.fine rfl)
  rcases hrun' : assign api kind subject role body t with ⟨e | _, u⟩ <;> rw [hrun'] at has
  · have hcalls : u.calls = w.calls ++
        ([(unassignCall kind subject role existing.resourceId, w.world)] ++
          [(assignCall kind subject role body, t.world)]) := by
      rw [has.calls, hun.calls, List.append_assoc]
    cases e with
    | axiam e =>
        rw [catchAxiam_run_error hrun']
        obtain ⟨previous, hrestore, hquiet⟩ := restore_ends api kind subject role existing u
        have hlost : ∀ {e' : Exc}, reasonIn e' = none → Ended api
            ([] ++ [(unassignCall kind subject role existing.resourceId, w.world),
              (assignCall kind subject role body, t.world),
              (assignCall kind subject role previous, u.world)]) (.error e' : Except Exc Unit) :=
          fun hreason => .lost (List.forall_mem_nil _) (hun.fine rfl)
            (callFailed_of_error (has.failed _ rfl))
            ⟨kind, subject, role, _, body, previous, rfl, rfl, rfl⟩ hreason
        rcases hrun'' : restore api kind subject role existing u with ⟨e' | failure, v⟩ <;>
          rw [hrun''] at hrestore hquiet
        · rw [bind_run_error hrun'']
          refine ⟨_, ?_, hlost (hquiet e' rfl)⟩
          rw [hrestore, hcalls, List.append_assoc]
          rfl
        · rw [bind_run_ok hrun'']
          refine ⟨_, ?_, hlost rfl⟩
          rw [throw_run, hrestore, hcalls, List.append_assoc]
          rfl
    | _ =>
        rw [catchAxiam_run_other rfl hrun']
        exact ⟨_, hcalls, .failed hfirst (has.failed _ rfl)⟩
  · rw [catchAxiam_run_ok hrun']
    refine ⟨_, ?_, .fine (List.forall_mem_append.mpr
      ⟨hfirst, List.forall_mem_singleton.mpr (has.fine rfl)⟩)⟩
    rw [has.calls, hun.calls, List.append_assoc]

variable (api) in
/-- The calls of a change end so. -/
theorem endsRules : ChangeRules api Needs.all fun _ p => Ends api p where
  ret := Ends.ret
  bind := Ends.bind
  ask c _ := Ends.ask c
  requireResolved _ := by
    refine Ends.bind (fun w => ⟨[], (List.append_nil _).symm, .fine (by simp)⟩) fun w => ?_
    split
    · exact Ends.ret _
    · exact Ends.raise rfl
  requireVersion _ := by
    refine Ends.bind (fun w => ⟨[], (List.append_nil _).symm, .fine (by simp)⟩) fun w => ?_
    split
    · exact Ends.ret _
    · exact Ends.raise rfl
  rebind kind subject role existing resource narrowed _ :=
    rebind_ends kind subject role existing resource narrowed
  edit hg := fun w => ⟨[], by cases hg <;> exact (List.append_nil _).symm, .fine (by simp)⟩

/-- The calls of an attempt, and what it came to. -/
theorem attempt_ended {m : Manifest} {changes : List PlannedChange} {w : Work σ} {a : Attempt σ}
    (ha : a ∈ attempts api m changes w) : Ended api a.post.calls a.outcome := by
  obtain ⟨v, hv, -, houtcome, hpost⟩ := attempts_start a ha
  obtain ⟨new, hnew, hended⟩ := (endsRules api).perform (Needs.all_cover a.change) (m := m) v
  rw [houtcome, hpost, hnew, hv]
  exact hended

end

/-! ## What a request was answered -/

/-- What a `409` names. -/
def namedIn (env : Env) (resp : HttpResponse) : Option Str :=
  if resp.transportError = [] ∧ resp.status = 409 then
    (env.parse resp.body).bind fun j => j.stringMember? "reason_code"
  else none

/-- The reason an answer carries: a transport may throw an exception that names one. -/
def answerReason (env : Env) : Answer → Option Str
  | .error e => reasonIn e
  | .ok resp => namedIn env resp

section

variable {env : Env}

theorem reasonIn_of_isNetwork {e : Exc} (h : e.isNetwork = true) : reasonIn e = none := by
  cases e with
  | axiam e => cases e <;> first | rfl | cases h
  | _ => rfl

theorem raiseForStatus_reason (parse : Parser) (resp : HttpResponse) :
    reasonIn (raiseForStatus parse resp) = none := by
  unfold raiseForStatus
  simp only
  split_ifs
  · rfl
  · split <;> rfl
  all_goals rfl

/-- Only a `409` is raised as a conflict. -/
theorem raiseManagementStatus_reason (operation : Str) (resp : HttpResponse) :
    reasonIn (raiseManagementStatus env.parse operation resp) =
      if resp.status = 409 then (env.parse resp.body).bind fun j => j.stringMember? "reason_code"
      else none := by
  unfold raiseManagementStatus
  simp only
  by_cases h404 : resp.status = 404
  · simp [h404, reasonIn, conflictReason]
  by_cases h409 : resp.status = 409
  · simp [h409, reasonIn, conflictReason]
  rw [if_neg h404, if_neg h409, if_neg h409]
  split
  · rfl
  · exact raiseForStatus_reason _ _

theorem readBody_reason (operation : Str) (resp : HttpResponse) :
    reasonOf (readBody env operation resp) = none := by
  unfold readBody
  split
  · rfl
  · split <;> rfl

/-- What an answer comes to once it is settled. -/
theorem settle_reason (operation : Str) {answer : Answer} {outcome : Except Exc HttpResponse}
    (h : kept answer = .ok outcome) :
    reasonOf (settle env operation outcome) = answerReason env answer := by
  rcases answer with e | resp
  · obtain ⟨-, rfl⟩ := kept_ok_error h
    rfl
  cases h
  show reasonOf (settle env operation (delivered resp)) = namedIn env resp
  unfold delivered namedIn
  by_cases hdelivered : resp.transportError = []
  · rw [if_pos hdelivered]
    show reasonOf (if resp.isSuccess then _ else _) = _
    by_cases hsuccess : resp.isSuccess = true
    · have hstatus : resp.status ≠ 409 := by
        intro h409
        unfold HttpResponse.isSuccess at hsuccess
        rw [h409] at hsuccess
        cases hsuccess
      rw [if_pos hsuccess, if_neg fun h => hstatus h.2]
      exact readBody_reason operation resp
    · rw [if_neg hsuccess]
      simp only [hdelivered, true_and]
      exact raiseManagementStatus_reason operation resp
  · rw [if_neg hdelivered, if_neg fun h => hdelivered h.1]
    rfl

/-- What a run says of a conflict is what its last answer says. -/
def LastAnswer (env : Env) {α : Type} (s : Impl) (out : Except Exc α × Impl) : Prop :=
  ∃ before answer, answered env out.2 = answered env s ++ (before ++ [answer]) ∧
    reasonOf out.1 = answerReason env answer

theorem attempt_last (operation : Str) {method path payload : Str} {s : Impl}
    {k : Except Exc HttpResponse → Prog Impl Exc Json}
    (hk : ∀ outcome answer, kept answer = .ok outcome → ∀ u : Impl,
      LastAnswer env u (k outcome u) ∨ k outcome u = (settle env operation outcome, u)) :
    LastAnswer env s ((keepNetworkError (sendBuilt env method path payload) >>= k) s) := by
  obtain ⟨answer, hout, hentries⟩ := attempt_answered env method path payload s
  rcases hrun : keepNetworkError (sendBuilt env method path payload) s with ⟨e | outcome, t⟩ <;>
    rw [hrun] at hout hentries
  · rw [bind_run_error hrun]
    refine ⟨[], answer, hentries, ?_⟩
    rw [kept_error hout.symm]
    rfl
  · rw [bind_run_ok hrun]
    rcases hk outcome answer hout.symm t with ⟨before, last, hlog, hreason⟩ | hsettled
    · refine ⟨answer :: before, last, ?_, hreason⟩
      rw [hlog, hentries, List.append_assoc]
      rfl
    · rw [hsettled]
      exact ⟨[], answer, hentries, settle_reason operation hout.symm⟩

theorem sendAttempts_last (operation method path payload : Str) (retries : Nat) (s : Impl) :
    LastAnswer env s (sendAttempts env operation method path payload retries s) := by
  induction retries generalizing s with
  | zero => exact attempt_last operation fun outcome answer _ u => .inr rfl
  | succ retries ih =>
      refine attempt_last operation fun outcome answer _ u => ?_
      by_cases hretry : retryShouldRetry (statusOf outcome) = true
      · rw [if_pos hretry]
        exact .inl (ih u)
      · rw [if_neg hretry]
        exact .inr rfl

/-- What a call says of a conflict is what it was answered last. -/
theorem call_reason (env : Env) (pages : Nat) (x : Call × Impl) :
    reasonOf ((wire env pages).call x.1 x.2).1 =
      (answersOf env pages x).getLast?.bind (answerReason env) := by
  obtain ⟨c, s⟩ := x
  unfold answersOf
  simp only
  rcases wire_call_run env pages c s with ⟨e, hrun, -, hreason⟩ | ⟨-, path, payload, hrun⟩
  · rw [hrun, List.drop_length]
    exact hreason
  · have hattempts : LastAnswer env s (sendAttempts env c.route.operation c.route.method path payload
        (retriesOf env c.route.method) s) := sendAttempts_last ..
    obtain ⟨before, answer, hlog, hlast⟩ := hattempts
    rw [hrun, bind_lift_run]
    simp only
    rw [hlog, List.drop_left, List.getLast?_append, List.getLast?_singleton]
    show _ = answerReason env answer
    rw [← hlast]
    cases hout : (sendAttempts env c.route.operation c.route.method path payload
        (retriesOf env c.route.method) s).1 with
    | error e => rfl
    | ok j =>
        show reasonOf (c.decode env.dump j) = none
        cases hdecode : c.decode env.dump j with
        | error e => exact reasonIn_of_isNetwork (decode_error hdecode)
        | ok _ => rfl

/-- The code a request was answered `409` with. -/
def namedReason (env : Env) (pages : Nat) (x : Call × Impl) : Option Str :=
  match (answersOf env pages x).getLast? with
  | some (.ok resp) => namedIn env resp
  | _ => none

/-- The code of a conflict that the transport itself throws. -/
def thrownReason (env : Env) (pages : Nat) (x : Call × Impl) : Option Str :=
  match (answersOf env pages x).getLast? with
  | some (.error e) => reasonIn e
  | _ => none

/-- A call says what it was answered, unless the transport throws a conflict of its own. -/
theorem call_reason_named_iff (pages : Nat) (x : Call × Impl) :
    reasonOf ((wire env pages).call x.1 x.2).1 = namedReason env pages x ↔
      thrownReason env pages x = none := by
  rw [call_reason]
  unfold namedReason thrownReason
  rcases (answersOf env pages x).getLast? with _ | e | resp
  · simp
  · rfl
  · simp [answerReason]

end

/-! ## The report -/

/-- The last action an apply attempted. -/
def finalAttempt (env : Env) (pages : Nat) (m : Manifest) (s : Impl) : Option (Attempt Impl) :=
  match plan (wire env pages) m s with
  | (.ok p, s₁) => (attempts (wire env pages) m p.pending (.start p s₁)).getLast?
  | _ => none

/-- The request the failed action failed on, and the calls of that action. -/
def failedOn (env : Env) (pages : Nat) (m : Manifest) (s : Impl) :
    Option (List (Call × Impl) × (Call × Impl)) :=
  (finalAttempt env pages m s).bind fun a =>
    (failedRequest (wire env pages) a.post.calls).map fun x => (a.post.calls, x)

/-- Whether the code of a failing request gets through: it is on no re-assign, and no transport
throws one in place of an answer. -/
structure GetsThrough (env : Env) (pages : Nat) (calls : List (Call × Impl)) (x : Call × Impl) :
    Prop where
  reassign : Reassign calls x → namedReason env pages x = none
  transport : ¬Reassign calls x → thrownReason env pages x = none

section

variable {env : Env} {pages : Nat} {m : Manifest} {s : Impl}

/-- A report takes its reason code from the last attempt. -/
theorem apply_reason {report : ApplyReport}
    (h : (apply (wire env pages) m s).1 = .ok report) :
    report.failedReasonCode = (finalAttempt env pages m s).bind fun a => reasonOf a.outcome := by
  unfold finalAttempt
  rcases hplan : plan (wire env pages) m s with ⟨e | p, s₁⟩
  · have hthrown : apply (wire env pages) m s = (.error e, s₁) := bind_run_error hplan _
    rw [hthrown] at h
    cases h
  · rw [apply_run hplan] at h
    exact applyPending_reason (Prod.ext h rfl)

theorem finalAttempt_ended {a : Attempt Impl} (ha : finalAttempt env pages m s = some a) :
    Ended (wire env pages) a.post.calls a.outcome := by
  unfold finalAttempt at ha
  split at ha
  · exact attempt_ended (List.mem_of_getLast? ha)
  · cases ha

end

/-- The reason code of a report is the one its failing request was answered with exactly when that
request is no re-assign of a rebind whose `409` names one. -/
theorem reason_code_iff (env : Env) (pages : Nat) (m : Manifest) (s : Impl) (report : ApplyReport)
    (h : (apply (wire env pages) m s).1 = .ok report) :
    report.failedReasonCode = ((failedOn env pages m s).bind fun f => namedReason env pages f.2) ↔
      ∀ f ∈ failedOn env pages m s, GetsThrough env pages f.1 f.2 := by
  rw [apply_reason h]
  unfold failedOn
  cases hlast : finalAttempt env pages m s with
  | none => simp
  | some a =>
      obtain ⟨hnone, hsome⟩ := (finalAttempt_ended hlast).reason
      simp only [Option.bind_some]
      cases hfailed : failedRequest (wire env pages) a.post.calls with
      | none => simpa using hnone hfailed
      | some x =>
          obtain ⟨hlost, hplain⟩ := hsome x hfailed
          simp only [Option.map_some, Option.bind_some, Option.mem_some, forall_eq']
          by_cases hreassign : Reassign a.post.calls x
          · rw [hlost hreassign]
            exact ⟨fun h => ⟨fun _ => h.symm, fun hnot => absurd hreassign hnot⟩,
              fun h => (h.reassign hreassign).symm⟩
          · rw [hplain hreassign, call_reason_named_iff]
            exact ⟨fun h => ⟨fun hyes => absurd hyes hreassign, fun _ => h⟩,
              fun h => h.transport hreassign⟩

/-! ## A code that is lost -/

/-- The members every object of the tenant has, before others. -/
def stamped (members : List (Str × Json)) : Json :=
  .object ([(str "created_at", .string "t"), (str "description", .string []),
    (str "tenant_id", .string "acme"), (str "updated_at", .string "t")] ++ members)

/-- What a tenant shows of a role, a group, and the group's hold on the role at a resource. -/
def heldRoleBodies : List (Str × Json) :=
  let role := stamped [("id", .string "r1"), ("is_global", .boolean false),
    ("name", .string "Auditor")]
  let group := stamped [("id", .string "g1"), ("metadata", .object []), ("name", .string "ops")]
  [("roles", .object [("items", .array [role]), ("total", .integer 1)]),
    ("groups", .object [("items", .array [group]), ("total", .integer 1)]),
    ("held", .array [.object [("resource_id", .string "attic"), ("role", role)]]),
    ("conflict", .object [("error", .string "conflict"),
      ("reason_code", .string "role_already_assigned")])]

/-- The tenant takes the role back and refuses to assign it. -/
def heldRole : Env where
  baseUrl := "https://iam.example"
  tenantHeader := "acme"
  parse := tableParser heldRoleBodies
  dump := fun _ => "\x7b\x7d"
  transport := fun _ req =>
    if req.method = "POST" then .ok { status := 409, body := "conflict" }
    else if req.url = "https://iam.example/api/v1/roles?offset=0&limit=200" then
      .ok { status := 200, body := "roles" }
    else if req.url = "https://iam.example/api/v1/groups?offset=0&limit=200" then
      .ok { status := 200, body := "groups" }
    else if req.url = "https://iam.example/api/v1/groups/g1/roles" then
      .ok { status := 200, body := "held" }
    else .ok { status := 204 }
  clock := fun n => n
  opaqueStart := fun _ _ => .error (.foreign "no library")
  opaqueFinish := fun _ _ _ _ => .error (.foreign "no library")

/-- The group is to hold the role at no resource. -/
def movedRole : Manifest where
  entities := [{ kind := .role, key := "audit", name := "Auditor" },
    { kind := .group, key := "ops", name := "ops", roles := [{ role := "audit" }] }]

/-- The re-assign is refused with a code, and the report has none. -/
theorem movedRole_code_lost :
    ¬∀ report, (apply (wire heldRole 1) movedRole admin).1 = .ok report →
      report.failedReasonCode =
        ((failedOn heldRole 1 movedRole admin).bind fun f => namedReason heldRole 1 f.2) := by
  intro h
  have hnamed : ((failedOn heldRole 1 movedRole admin).bind fun f => namedReason heldRole 1 f.2) =
      some (str "role_already_assigned") := by decide
  have hlost : (apply (wire heldRole 1) movedRole admin).1.toOption.map
      ApplyReport.failedReasonCode = some none := by decide
  rcases hrun : (apply (wire heldRole 1) movedRole admin).1 with e | report
  · rw [hrun] at hlost
    cases hlost
  · rw [hrun] at hlost
    have hreport := h report hrun
    rw [hnamed, Option.some.inj hlost] at hreport
    cases hreport

/-- A permission that the same tenant refuses to create. -/
def newPermission : Manifest where
  entities := [{ kind := .permission, key := "read", action := "docs:read" }]

def newPermissionReport : ApplyReport where
  applied := []
  failed := some { entity := { kind := .permission, key := "read", action := "docs:read" },
                   action := .create }
  failure := "permissions.create: conflict (HTTP 409)"
  failedReasonCode := some "role_already_assigned"

theorem newPermission_code_reported :
    (apply (wire heldRole 1) newPermission admin).1 = .ok newPermissionReport ∧
    (newPermissionReport.failedReasonCode =
        ((failedOn heldRole 1 newPermission admin).bind fun f => namedReason heldRole 1 f.2) ↔
      ∀ f ∈ failedOn heldRole 1 newPermission admin, GetsThrough heldRole 1 f.1 f.2) :=
  ⟨by decide, reason_code_iff heldRole 1 newPermission admin newPermissionReport
    (by decide)⟩

end Axiam.Management
