import Axiam.Lib.Log
import Axiam.Management.Logic

/-!
# What an apply reports

The actions an apply attempts, one after the other, and how its report accounts for them:
whatever the tenant does, the report names every pending action once and in order, as long as
no exception passes the `catch` list.
-/

namespace Axiam.Management

open Axiam.Lib Axiam.Lib.Prog

/-- One action of an apply: what it was, where it began, and what it came to. -/
structure Attempt (σ : Type) where
  change : PlannedChange
  outcome : Except Exc Unit
  post : Work σ

/-- The action succeeded. -/
def Attempt.landed {σ : Type} (a : Attempt σ) : Bool := a.outcome.isOk

/-- A planned change without what performing it fills in. -/
def PlannedChange.declared (c : PlannedChange) : PlannedChange :=
  { c with id := none, serviceAccountSecret := none }

section

variable {σ : Type} (api : Api σ) (m : Manifest)

/-- The actions that are attempted: up to the first that fails. -/
def attempts : List PlannedChange → Work σ → List (Attempt σ)
  | [], _ => []
  | c :: rest, w =>
      let out := perform api m c (w.take c)
      ⟨c, out.1, out.2⟩ ::
        match out.1 with
        | .ok _ => attempts rest out.2
        | .error _ => []

/-- The state the last action left. -/
def finalWork (w : Work σ) (as : List (Attempt σ)) : Work σ := (as.getLast?.map Attempt.post).getD w

/-- A call that ends in an exception no `catch` of the engine takes. -/
def Escapes (x : Call × σ) : Prop := ∃ e, (api.call x.1 x.2).1 = .error e ∧ e.reported = false

/-- The calls of a change, of which the bad ones escape. -/
def callLog : Log (Work σ) Exc (Call × σ) where
  entries := Work.calls
  bad := Escapes api
  fatal := fun e => e.reported = false

end

section

variable {σ : Type} {api : Api σ} {m : Manifest}

/-! ## One action -/

/-- Every call and every key. -/
def Needs.all : Needs where
  resolved _ _ := True
  version _ := True
  call _ := True

theorem Needs.all_cover (c : PlannedChange) : Needs.all.Cover m c where
  parent _ _ _ _ := trivial
  roles _ _ _ := ⟨trivial, fun _ _ => trivial⟩
  segment _ _ _ := ⟨trivial, trivial⟩
  call _ _ := trivial
  writes := trivial

/-- Every call but the one that creates an account. -/
def Needs.noAccount : Needs := { Needs.all with call := fun c => c.createsAccount = false }

/-- The work once a call has been made. -/
def Work.noted (w : Work σ) (c : Call) (world : σ) : Work σ :=
  { w with calls := w.calls ++ [(c, w.world)], world }

theorem ask_run (c : Call) (w : Work σ) :
    ask api c w = ((api.call c w.world).1, w.noted c (api.call c w.world).2) := rfl

variable (api) in
/-- A part of the work that no call and no lookup touches. -/
theorem keepsRules {τ : Type} {f : Work σ → τ} (N : Needs)
    (hworld : ∀ w s, f { w with world := s } = f w)
    (hcalls : ∀ w l, f { w with calls := l } = f w) :
    CallRules api N fun _ p => Keeps f p where
  ret := Keeps.ret
  bind := Keeps.bind
  ask c _ := fun w => (hworld { w with calls := w.calls ++ [(c, w.world)] } _).trans (hcalls w _)
  requireResolved _ := by
    refine Keeps.bind Keeps.read fun w => ?_
    split
    · exact Keeps.ret _
    · exact Keeps.raise _
  requireVersion _ := by
    refine Keeps.bind Keeps.read fun w => ?_
    split
    · exact Keeps.ret _
    · exact Keeps.raise _
  catchAxiam hp hk := by
    refine Keeps.tryCatch hp fun e => ?_
    split
    · exact hk _
    · exact Keeps.raise _
  raiseRebind _ _ _ _ := Keeps.raise _

variable (api m) in
/-- Performing a change leaves it the change that was declared. -/
theorem perform_declared (c : PlannedChange) :
    Keeps (fun w : Work σ => w.change.declared) (perform api m c) := by
  have hrules := keepsRules api (f := fun w => w.change.declared) Needs.all
    (fun _ _ => rfl) fun _ _ => rfl
  have hedit : ∀ {g : Work σ → Work σ}, Edit Needs.all g → ∀ w, (g w).change.declared = w.change.declared := by
    intro g hg w
    cases hg <;> rfl
  exact Rules.perform { hrules with edit := fun hg => Keeps.modify (hedit hg) } (Needs.all_cover c)

variable (api) in
/-- The log of the calls obeys every rule. -/
theorem loggedRules (N : Needs) :
    Rules api N fun _ p => Logged (callLog api) (fun x => N.call x.1) p where
  ret := Logged.ret
  bind := Logged.bind
  ask c hc := fun w => ⟨[(c, w.world)], rfl, by simpa using hc, by
    rw [ask_run]
    simp [Log.Dies, callLog, Escapes]⟩
  requireResolved _ := by
    refine Logged.bind Logged.read fun w => ?_
    split
    · exact Logged.ret _
    · exact Logged.raise (by simp [callLog, unresolved, Exc.reported])
  requireVersion _ := by
    refine Logged.bind Logged.read fun w => ?_
    split
    · exact Logged.ret _
    · exact Logged.raise (by simp [callLog, unversioned, Exc.reported])
  catchAxiam hp hk := by
    refine Logged.tryCatch hp (fun e he => ?_) fun e he => ?_
    · cases e with
      | axiam _ => cases he
      | _ => rfl
    · cases e with
      | axiam e => exact hk e
      | _ => exact Logged.raise he
  raiseRebind _ _ _ _ := Logged.raise (by simp [callLog, Exc.reported])
  edit hg := Logged.modify fun w => by cases hg <;> rfl

/-- Performing a change dies exactly when one of its calls escapes. -/
theorem perform_dies_iff (c : PlannedChange) {w : Work σ} (hw : w.calls = []) :
    (callLog api).Dies (perform api m c w).1 ↔
      ∃ x ∈ (perform api m c w).2.calls, Escapes api x := by
  obtain ⟨new, hlog, -, hdies⟩ := (loggedRules api Needs.all).perform (Needs.all_cover c) (m := m) w
  have hcalls : (perform api m c w).2.calls = new := by
    rw [← List.nil_append new, ← hw]
    exact hlog
  rw [hcalls]
  exact hdies

theorem Call.noAccount_of_binds {kind : ManifestKind} {c : Call} (h : c.binds kind = true) :
    c.createsAccount = false := by
  cases c <;> first | rfl | cases h

/-- Only the creation of a service account calls for one. -/
theorem perform_calls_noAccount {c : PlannedChange}
    (hc : ¬(c.entity.kind = .serviceAccount ∧ c.action = .create)) {w : Work σ} (hw : w.calls = []) :
    ∀ x ∈ (perform api m c w).2.calls, x.1.createsAccount = false := by
  have hcover : Needs.noAccount.Cover m c :=
    { Needs.all_cover c with
      call := fun call h => by
        cases h with
        | createServiceAccount hkind haction => exact absurd ⟨hkind, haction⟩ hc
        | binding _ _ hbinds => exact Call.noAccount_of_binds hbinds
        | _ => rfl }
  obtain ⟨new, hlog, hnew, -⟩ := (loggedRules api Needs.noAccount).perform hcover w
  have hcalls : (perform api m c w).2.calls = new := by
    rw [← List.nil_append new, ← hw]
    exact hlog
  rw [hcalls]
  exact hnew

variable (api m) in
/-- The bindings of a subject call for no account and leave the secret alone. -/
theorem performBindings_quiet (c : PlannedChange) (id : Str) (w : Work σ) :
    (∃ new, (performBindings api m c id w).2.calls = w.calls ++ new ∧
      ∀ x ∈ new, x.1.createsAccount = false) ∧
    (performBindings api m c id w).2.change.serviceAccountSecret =
      w.change.serviceAccountSecret := by
  have hroles : ∀ N : Needs, (∀ k n, N.resolved k n) → ∀ b ∈ c.entity.roles,
      N.resolved .role b.role ∧ ∀ key ∈ b.resource, N.resolved .resource key :=
    fun N h _ _ => ⟨h _ _, fun _ _ => h _ _⟩
  constructor
  · have hlogged : Logged (callLog api) (fun x => Needs.noAccount.call x.1)
        (performBindings api m c id) :=
      (loggedRules api Needs.noAccount).performBindings (fun _ _ h => Call.noAccount_of_binds h)
        (hroles _ fun _ _ => trivial)
    obtain ⟨new, hlog, hnew, -⟩ := hlogged w
    exact ⟨new, hlog, hnew⟩
  · exact (keepsRules api (f := fun w => w.change.serviceAccountSecret) Needs.all (fun _ _ => rfl)
      fun _ _ => rfl).performBindings (fun _ _ _ => trivial) (hroles _ fun _ _ => trivial) w

/-- How a service account is created: the secret is on the change before the bindings. -/
theorem performServiceAccount_run_create {c : PlannedChange} (haction : c.action = .create)
    (w : Work σ) :
    performServiceAccount api m c w =
      let out := api.call (.createServiceAccount (accountBody c.entity)) w.world
      let noted := w.noted (.createServiceAccount (accountBody c.entity)) out.2
      match out.1 with
      | .error e => (.error e, noted)
      | .ok created => performBindings api m c created.id
          ((noted.setSecret created.clientSecret).resolve .serviceAccount c.entity.key created.id) := by
  unfold performServiceAccount writeServiceAccount
  simp only [haction, if_true]
  rw [bind_run, bind_run, ask_run]
  rcases (api.call (.createServiceAccount (accountBody c.entity)) w.world).1 with e | created
  · rfl
  · rfl

/-- What became of the secret of an account a change created: it is on the change as soon as
the creation returned, and whatever is tried after. -/
theorem perform_secret (c : PlannedChange) {w : Work σ} (hw : w.calls = []) {body s}
    (hx : (.createServiceAccount body, s) ∈ (perform api m c w).2.calls) :
    (perform api m c w).2.change.serviceAccountSecret =
      match (api.call (.createServiceAccount body) s).1 with
      | .ok created => some created.clientSecret
      | .error _ => w.change.serviceAccountSecret := by
  by_cases hc : c.entity.kind = .serviceAccount ∧ c.action = .create
  · obtain ⟨hkind, haction⟩ := hc
    have hperform : perform api m c w = performServiceAccount api m c w := by
      unfold perform
      rw [hkind]
    rw [hperform, performServiceAccount_run_create haction] at hx ⊢
    rcases hcall : (api.call (.createServiceAccount (accountBody c.entity)) w.world).1
      with e | created
    · simp only [hcall, Work.noted, hw, List.nil_append, List.mem_singleton] at hx ⊢
      cases hx
      rw [hcall]
    · simp only [hcall] at hx ⊢
      obtain ⟨⟨new, hnew, hquiet⟩, hsecret⟩ := performBindings_quiet api m c
        created.id (((w.noted (.createServiceAccount (accountBody c.entity))
          (api.call (.createServiceAccount (accountBody c.entity)) w.world).2).setSecret
            created.clientSecret).resolve .serviceAccount c.entity.key created.id)
      rw [hsecret]
      rw [hnew, List.mem_append] at hx
      -- the bindings create no account, so the call is the first
      rcases hx with hx | hx
      · have hfirst : (Call.createServiceAccount body, s) ∈
            [(Call.createServiceAccount (accountBody c.entity), w.world)] := by
          simpa [Work.resolve, Work.setId, Work.setSecret, Work.noted, hw] using hx
        cases List.mem_singleton.mp hfirst
        rw [hcall]
        rfl
      · cases hquiet _ hx
  · have := perform_calls_noAccount hc hw _ hx
    cases this

/-! ## The whole apply -/

theorem reportedFailure_run (p : Prog (Work σ) Exc Unit) (w : Work σ) :
    reportedFailure p w = match p w with
      | (.ok _, t) => (.ok none, t)
      | (.error e, t) => if e.reported then (.ok (some e), t) else (.error e, t) := by
  unfold reportedFailure
  rw [tryCatch_run, bind_run]
  rcases p w with ⟨e | a, t⟩
  · simp only
    by_cases h : e.reported = true
    · rw [if_pos h, if_pos h]
      rfl
    · rw [if_neg h, if_neg h]
      rfl
  · rfl

/-- One turn of the loop of `apply`. -/
theorem applyPending_cons_run (applied : List PlannedChange) (c : PlannedChange)
    (rest : List PlannedChange) (w : Work σ) :
    applyPending api m applied (c :: rest) w = match perform api m c (w.take c) with
      | (.ok _, t) => applyPending api m (applied ++ [t.change]) rest t
      | (.error e, t) =>
          if e.reported then (.ok (failureReport applied t.change rest e), t) else (.error e, t) := by
  show (Prog.modify (fun w => w.take c) >>= fun _ => reportedFailure (perform api m c) >>= _) w = _
  rw [bind_run, modify_run]
  simp only
  rw [bind_run, reportedFailure_run]
  rcases hout : perform api m c (w.take c) with ⟨e | u, t⟩
  · simp only
    by_cases h : e.reported = true
    · rw [if_pos h, if_pos h]
      rfl
    · rw [if_neg h, if_neg h]
  · rfl

/-- How a report accounts for the pending changes and for what was attempted of them. -/
structure Account (applied changes : List PlannedChange) (as : List (Attempt σ))
    (report : ApplyReport) : Prop where
  actions : (report.applied ++ report.failed.toList ++ report.remaining).map
    PlannedChange.declared = (applied ++ changes).map PlannedChange.declared
  attempted : report.applied ++ report.failed.toList = applied ++ as.map fun a => a.post.change
  failed : report.failed.isSome = true → ∃ a, as.getLast? = some a ∧ a.landed = false

theorem failureReport_parts (applied : List PlannedChange) (failed : PlannedChange)
    (remaining : List PlannedChange) (e : Exc) :
    (failureReport applied failed remaining e).applied = applied ∧
    (failureReport applied failed remaining e).failed = some failed ∧
    (failureReport applied failed remaining e).remaining = remaining := by
  unfold failureReport
  split <;> exact ⟨rfl, rfl, rfl⟩

theorem getLast?_cons_getD {α : Type} (a : α) (l : List α) :
    (a :: l).getLast? = some (l.getLast?.getD a) := by
  rw [List.getLast?_cons]

/-- An apply that returns accounts for every pending change, and has done nothing after the
last attempt. -/
theorem applyPending_account {applied changes : List PlannedChange} {w w' : Work σ}
    {report : ApplyReport} (h : applyPending api m applied changes w = (.ok report, w')) :
    Account applied changes (attempts api m changes w) report ∧
      w' = finalWork w (attempts api m changes w) := by
  induction changes generalizing applied w with
  | nil =>
      cases h
      exact ⟨⟨by simp, by simp [attempts], by simp⟩, rfl⟩
  | cons c rest ih =>
      rw [applyPending_cons_run] at h
      have hdeclared : (perform api m c (w.take c)).2.change.declared = c.declared :=
        perform_declared api m c (w.take c)
      unfold attempts
      rcases hout : perform api m c (w.take c) with ⟨e | u, t⟩
      all_goals rw [hout] at h hdeclared; simp only at h hdeclared ⊢
      · by_cases he : e.reported = true
        · rw [if_pos he] at h
          cases h
          obtain ⟨happlied, hfailed, hremaining⟩ := failureReport_parts applied w'.change rest e
          refine ⟨⟨?_, ?_, fun _ => ⟨_, rfl, rfl⟩⟩, rfl⟩
          · rw [happlied, hfailed, hremaining]
            simp [hdeclared]
          · rw [happlied, hfailed]
            rfl
        · rw [if_neg he] at h
          cases h
      · obtain ⟨haccount, hfinal⟩ := ih h
        refine ⟨⟨?_, ?_, ?_⟩, ?_⟩
        · rw [haccount.actions]
          simp [hdeclared]
        · rw [haccount.attempted]
          simp
        · intro hsome
          obtain ⟨a, hlast, hlanded⟩ := haccount.failed hsome
          exact ⟨a, by rw [getLast?_cons_getD, hlast]; rfl, hlanded⟩
        · rw [hfinal]
          unfold finalWork
          rw [getLast?_cons_getD]
          cases (attempts api m rest t).getLast? with
          | none => rfl
          | some a => rfl

/-- An apply returns a report exactly when no exception of an attempt passes its `catch` list. -/
theorem applyPending_returns_iff (applied changes : List PlannedChange) (w : Work σ) :
    (∃ report, (applyPending api m applied changes w).1 = .ok report) ↔
      ∀ a ∈ attempts api m changes w, ¬(callLog api).Dies a.outcome := by
  induction changes generalizing applied w with
  | nil => exact ⟨fun _ a ha => (List.not_mem_nil ha).elim, fun _ => ⟨_, rfl⟩⟩
  | cons c rest ih =>
      rw [applyPending_cons_run]
      unfold attempts
      rcases hout : perform api m c (w.take c) with ⟨e | u, t⟩
      · have hdies : (callLog api).Dies (.error e : Except Exc Unit) ↔ e.reported = false :=
          Log.dies_error e
        simp only [List.mem_singleton, forall_eq, hdies]
        by_cases he : e.reported = true
        · simp [he]
        · simp [he]
      · simp only [List.mem_cons, forall_eq_or_imp, ih (applied ++ [t.change]) t]
        exact ⟨fun h => ⟨Log.not_dies_ok u, h⟩, fun h => h.2⟩

/-- Every attempt started from a clean record of its calls. -/
theorem attempts_start {changes : List PlannedChange} {w : Work σ} :
    ∀ a ∈ attempts api m changes w, ∃ v : Work σ, v.calls = [] ∧ v.change = a.change ∧
      a.outcome = (perform api m a.change v).1 ∧ a.post = (perform api m a.change v).2 := by
  induction changes generalizing w with
  | nil => exact fun a ha => (List.not_mem_nil ha).elim
  | cons c rest ih =>
      intro a ha
      unfold attempts at ha
      rcases List.mem_cons.mp ha with rfl | ha
      · exact ⟨w.take c, rfl, rfl, rfl, rfl⟩
      · split at ha
        · exact ih a ha
        · cases ha

/-- The attempted changes are pending ones, in their order. -/
theorem attempts_order (changes : List PlannedChange) (w : Work σ) :
    (attempts api m changes w).map Attempt.change <+: changes := by
  induction changes generalizing w with
  | nil => exact List.prefix_refl _
  | cons c rest ih =>
      unfold attempts
      rw [List.map_cons]
      refine List.cons_prefix_cons.mpr ⟨rfl, ?_⟩
      split
      · exact ih _
      · exact List.nil_prefix

/-- An attempt dies exactly when one of its calls escapes. -/
theorem attempt_dies_iff {changes : List PlannedChange} {w : Work σ} {a : Attempt σ}
    (ha : a ∈ attempts api m changes w) :
    (callLog api).Dies a.outcome ↔ ∃ x ∈ a.post.calls, Escapes api x := by
  obtain ⟨v, hv, -, houtcome, hpost⟩ := attempts_start a ha
  rw [houtcome, hpost]
  exact perform_dies_iff a.change hv

/-- What became of the secret an attempt was given. -/
theorem attempt_secret {changes : List PlannedChange} {w : Work σ} {a : Attempt σ}
    (ha : a ∈ attempts api m changes w) {body s}
    (hx : (.createServiceAccount body, s) ∈ a.post.calls) :
    a.post.change.serviceAccountSecret = match (api.call (.createServiceAccount body) s).1 with
      | .ok created => some created.clientSecret
      | .error _ => a.change.serviceAccountSecret := by
  obtain ⟨v, hv, hchange, -, hpost⟩ := attempts_start a ha
  rw [hpost] at hx ⊢
  rw [perform_secret a.change hv hx, hchange]

theorem attempt_declared {changes : List PlannedChange} {w : Work σ} {a : Attempt σ}
    (ha : a ∈ attempts api m changes w) : a.post.change.declared = a.change.declared := by
  obtain ⟨v, -, hchange, -, hpost⟩ := attempts_start a ha
  rw [hpost, ← hchange]
  exact perform_declared api m _ v

/-- What an exception says of a conflict. -/
def reasonIn : Exc → Option Str
  | .axiam e => conflictReason e
  | _ => none

/-- What an outcome says of one. -/
def reasonOf {α : Type} : Except Exc α → Option Str
  | .error e => reasonIn e
  | .ok _ => none

theorem failureReport_reason (applied : List PlannedChange) (failed : PlannedChange)
    (remaining : List PlannedChange) (e : Exc) :
    (failureReport applied failed remaining e).failedReasonCode = reasonIn e := by
  unfold failureReport
  split
  · rfl
  · rfl
  next hother =>
    cases e with
    | axiam e => exact absurd rfl (hother e)
    | _ => rfl

/-- The reason code of a report is that of the outcome of the last attempt. -/
theorem applyPending_reason {applied changes : List PlannedChange} {w w' : Work σ}
    {report : ApplyReport} (h : applyPending api m applied changes w = (.ok report, w')) :
    report.failedReasonCode =
      (attempts api m changes w).getLast?.bind fun a => reasonOf a.outcome := by
  induction changes generalizing applied w with
  | nil => cases h; rfl
  | cons c rest ih =>
      rw [applyPending_cons_run] at h
      unfold attempts
      rcases hout : perform api m c (w.take c) with ⟨e | u, t⟩
      all_goals rw [hout] at h; simp only at h ⊢
      · by_cases he : e.reported = true
        · rw [if_pos he] at h
          cases h
          exact failureReport_reason _ _ _ _
        · rw [if_neg he] at h
          cases h
      · rw [ih h, getLast?_cons_getD]
        cases (attempts api m rest t).getLast? <;> rfl

/-- An apply is its plan, then the writes. -/
theorem apply_run {s s₁ : σ} {p : Plan} (hplan : plan api m s = (.ok p, s₁)) :
    apply api m s = ((applyPending api m [] p.pending (.start p s₁)).1,
      (applyPending api m [] p.pending (.start p s₁)).2.world) := by
  unfold apply
  rw [bind_run_ok hplan]
  rfl

end

end Axiam.Management
