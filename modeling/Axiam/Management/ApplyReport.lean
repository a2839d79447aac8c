import Axiam.Management.Answers
import Axiam.Management.Dependency
import Axiam.Management.Wire

/-!
# The report of an apply over the wire

What a client's exchanges can do to an apply.  Of everything the transport answers only two things
pass the `catch` list of `apply`: an exception of its own, and a `403` whose body cannot be read.
One thing more passes it before anything is sent: a body that cannot be dumped.
-/

namespace Axiam.Management

open Axiam.Lib Axiam.Lib.Prog Axiam.Client

section

variable {env : Env}

/-! ## Calls -/

/-- What a call was answered, attempt by attempt. -/
def answersOf (env : Env) (pages : Nat) (x : Call × Impl) : List Answer :=
  (answered env ((wire env pages).call x.1 x.2).2).drop (answered env x.2).length

/-- The body of a call can be sent as text; nothing is asked of a client that sends nothing. -/
def Dumpable (env : Env) (x : Call × Impl) : Prop :=
  x.2.closed = false → x.2.hasSession = true →
    ∀ j, x.1.body env.parse = .ok (some j) → j.dumpable = true

/-- An undecodable answer is a `NetworkError`. -/
theorem decodeAs_error {α : Type} {g : Json → Except JsonError α} {operation : Str} {j : Json}
    {e : Exc} (h : decodeAs g operation j = .error e) : e.isNetwork = true := by
  unfold decodeAs at h
  split at h
  · cases h
  · cases h
    rfl

theorem mapM_error {α β : Type} {f : α → Except Exc β} (hf : ∀ a e, f a = .error e →
    e.isNetwork = true) {l : List α} {e : Exc} (h : l.mapM f = .error e) :
    e.isNetwork = true := by
  induction l generalizing e with
  | nil => cases h
  | cons a rest ih =>
      rw [List.mapM_cons] at h
      rcases hfa : f a with e' | b
      · rw [hfa] at h
        cases h
        exact hf a _ hfa
      · rw [hfa] at h
        rcases hrest : rest.mapM f with e' | bs
        · have heq : e' = e := by
            have : (Except.error e' : Except Exc (List β)) = .error e := by
              rw [← h, hrest]
              rfl
            exact Except.error.inj this
          exact heq ▸ ih hrest
        · rw [hrest] at h
          cases h

theorem toPage_error {α : Type} {get : Json → Except JsonError α} {operation : Str} {j : Json}
    {e : Exc} (h : toPage get operation j = .error e) : e.isNetwork = true := by
  unfold toPage at h
  split at h
  next items _ =>
    rcases hitems : items.mapM (decodeAs get operation) with e' | as
    · rw [hitems] at h
      cases h
      exact mapM_error (fun _ _ => decodeAs_error) hitems
    · rw [hitems] at h
      cases h
  · cases h

theorem decode_error {dump : Json → Str} {c : Call} {j : Json} {e : Exc}
    (h : c.decode dump j = .error e) : e.isNetwork = true := by
  cases c with
  | listResources | listPermissions | listRoles | listGroups | listServiceAccounts
  | listSegments | listProfiles => exact toPage_error h
  | assignToGroup | unassignFromGroup | assignToServiceAccount | unassignFromServiceAccount =>
      cases h
  | createResource | updateResource => exact decodeAs_error (g := (resourceOf · dump)) h
  | createGroup | updateGroup => exact decodeAs_error (g := (groupOf · dump)) h
  | _ => exact decodeAs_error h

theorem wire_call_eq (env : Env) (pages : Nat) (c : Call) {body : Option Json}
    (hbody : c.body env.parse = .ok body) (s : Impl) :
    (wire env pages).call c s = (send env c.route.operation c.route.method c.route.template
      c.route.values c.route.query body >>= fun j => Prog.lift (c.decode env.dump j)) s := by
  have hlift : (Prog.lift (c.body (wire env pages).parse) : Prog Impl Exc _) s = (.ok body, s) := by
    show (c.body env.parse, s) = _
    rw [hbody]
  unfold Api.call
  rw [bind_run_ok hlift]
  rfl

/-- A call on the wire is refused locally, with nothing sent, or is the attempts of one request. -/
theorem wire_call_run (env : Env) (pages : Nat) (c : Call) (s : Impl) :
    (∃ e, (wire env pages).call c s = (.error e, s) ∧
      (e.reported = false ↔ ¬Dumpable env (c, s)) ∧
      reasonIn e = none) ∨
    (Dumpable env (c, s) ∧ ∃ path payload, (wire env pages).call c s =
      (sendAttempts env c.route.operation c.route.method path payload
        (retriesOf env c.route.method) >>= fun j => Prog.lift (c.decode env.dump j)) s) := by
  -- the local refusals, in the order in which the code makes them
  rcases hbody : c.body env.parse with e | body
  · refine .inl ⟨e, ?_, ?_⟩
    · unfold Api.call
      refine bind_run_error ?_ _
      show (c.body env.parse, s) = _
      rw [hbody]
    · obtain ⟨what, rfl⟩ := Call.body_error hbody
      simp [Exc.reported, Dumpable, hbody, reasonIn]
  rw [wire_call_eq env pages c hbody]
  by_cases hclosed : s.closed = true
  · refine .inl ⟨closedError, bind_run_error (bind_run_error (ensureOpen_run_closed hclosed) _) _,
      ?_⟩
    simp [closedError, Exc.network, Exc.reported, Dumpable, hclosed, reasonIn, conflictReason]
  have hopen : s.closed = false := by simpa using hclosed
  by_cases hsession : s.hasSession = true
  · have hcheck : sessionCheck c.route.operation s = (.ok (), s) := by
      unfold sessionCheck
      rw [bind_run, read_run]
      simp only
      rw [if_pos hsession, pure_run]
    have hsend : ∀ r, payloadOf env body = r → ∀ k : Json → Prog Impl Exc c.Reply,
        (send env c.route.operation c.route.method c.route.template c.route.values c.route.query
          body >>= k) s = ((Prog.lift r >>= fun payload => sendAttempts env c.route.operation
            c.route.method (withQuery (substitute c.route.template c.route.values) c.route.query)
            payload (retriesOf env c.route.method)) >>= k) s := by
      rintro r rfl k
      rw [bind_run, bind_run]
      unfold send
      rw [bind_run_ok (ensureOpen_run_open hopen), bind_run_ok hcheck]
    rcases body with _ | j
    · refine .inr ⟨fun _ _ j hj => ?_, _, [], hsend _ rfl _⟩
      rw [hbody] at hj
      cases hj
    · by_cases hj : j.dumpable = true
      · have hpayload : payloadOf env (some j) = .ok (env.dump j) := by
          show dumpText env j = _
          unfold dumpText
          rw [if_pos hj]
        refine .inr ⟨fun _ _ j' hj' => ?_, _, env.dump j, (hsend _ hpayload _).trans rfl⟩
        rw [hbody] at hj'
        cases hj'
        exact hj
      · have hpayload : payloadOf env (some j) = .error (.json .invalidUtf8) := by
          show dumpText env j = _
          unfold dumpText
          rw [if_neg hj]
        refine .inl ⟨.json .invalidUtf8, ?_, ?_⟩
        · rw [hsend _ hpayload]
          rfl
        · have : ¬Dumpable env (c, s) := fun h => hj (h hopen hsession j hbody)
          simp [Exc.reported, this, reasonIn]
  · have hcheck : ∃ what, sessionCheck c.route.operation s = (.error (.auth what), s) := by
      unfold sessionCheck
      rw [bind_run, read_run]
      simp only
      rw [if_neg hsession, throw_run]
      exact ⟨_, rfl⟩
    obtain ⟨what, hcheck⟩ := hcheck
    refine .inl ⟨.auth what, ?_, ?_⟩
    · unfold send
      refine bind_run_error ?_ _
      rw [bind_run_ok (ensureOpen_run_open hopen), bind_run_error hcheck]
    · simp [Exc.auth, Exc.reported, Dumpable, hsession, reasonIn, conflictReason]

/-- A call escapes exactly when its body cannot be dumped or one of its answers is unreported. -/
theorem escapes_iff (env : Env) (pages : Nat) (x : Call × Impl) :
    Escapes (wire env pages) x ↔
      ¬Dumpable env x ∨ ∃ a ∈ answersOf env pages x, Unreported env a := by
  obtain ⟨c, s⟩ := x
  unfold Escapes answersOf
  simp only
  rcases wire_call_run env pages c s with ⟨e, hrun, hdump, -⟩ | ⟨hdump, path, payload, hrun⟩
  · rw [hrun]
    simp only [List.drop_length, List.not_mem_nil, false_and, exists_false, or_false,
      Except.error.injEq]
    constructor
    · rintro ⟨_, rfl, h⟩
      exact hdump.mp h
    · intro h
      exact ⟨e, rfl, hdump.mpr h⟩
  · have hlogged : Logged (answerLog env) (fun _ => True)
        (sendAttempts env c.route.operation c.route.method path payload
          (retriesOf env c.route.method) >>= fun j => Prog.lift (c.decode env.dump j)) :=
      Logged.bind (sendAttempts_logged _ _ _ _ _) fun j => Logged.silent (fun _ => rfl) fun _ => by
        rintro ⟨e, he, hfatal⟩
        exact Bool.false_ne_true (hfatal.symm.trans (Exc.reported_of_isNetwork (decode_error he)))
    obtain ⟨new, hlog, -, hdies⟩ := hlogged s
    rw [← hrun] at hlog hdies
    have hnew : (answered env ((wire env pages).call c s).2).drop (answered env s).length = new := by
      rw [show answered env ((wire env pages).call c s).2 = answered env s ++ new from hlog,
        List.drop_left]
    rw [hnew]
    simp only [hdump, not_true_eq_false, false_or]
    exact hdies

/-! ## The one-time secret -/

/-- The secret in an answer, if there is one to be read. -/
def secretOf (env : Env) (resp : HttpResponse) : Option Str :=
  match readBody env "service_accounts.create" resp with
  | .ok j => j.stringMember? "client_secret"
  | .error _ => none

/-- A creation was accepted, and this is the secret it came with. -/
def Issued (env : Env) (pages : Nat) (x : Call × Impl) (resp : HttpResponse) (secret : Str) :
    Prop :=
  x.1.createsAccount = true ∧ .ok resp ∈ answersOf env pages x ∧ resp.transportError = [] ∧
    resp.isSuccess = true ∧ secretOf env resp = some secret

/-- The answer to a creation, as `from_json` reads it. -/
def createdOf (env : Env) (resp : HttpResponse) : Except Exc ServiceAccountCreatedResponse := do
  let j ← readBody env "service_accounts.create" resp
  decodeAs createdAccountOf "service_accounts.create" j

/-- A member that is read as a string is that string. -/
theorem stringAt_ok {j : Json} {key text : Str} (h : stringAt j key = .ok text) :
    j.stringMember? key = some text := by
  unfold stringAt memberAt at h
  cases j with
  | object members =>
      simp only at h
      unfold Json.stringMember? Json.find?
      simp only
      cases hfound : members.lookup key with
      | none => rw [hfound] at h; cases h
      | some member =>
          rw [hfound] at h
          cases member <;> cases h
          rfl
  | _ => cases h

theorem createdAccountOf_secret {j : Json} {created : ServiceAccountCreatedResponse}
    (h : createdAccountOf j = .ok created) :
    j.stringMember? "client_secret" = some created.clientSecret := by
  unfold createdAccountOf at h
  obtain ⟨-, -, h⟩ := except_bind_eq_ok.mp h
  obtain ⟨secret, hsecret, h⟩ := except_bind_eq_ok.mp h
  obtain ⟨-, -, h⟩ := except_bind_eq_ok.mp h
  obtain ⟨-, -, h⟩ := except_bind_eq_ok.mp h
  obtain ⟨id, -, h⟩ := except_bind_eq_ok.mp h
  obtain ⟨-, -, h⟩ := except_bind_eq_ok.mp h
  obtain ⟨-, -, h⟩ := except_bind_eq_ok.mp h
  obtain ⟨-, -, h⟩ := except_bind_eq_ok.mp h
  obtain ⟨-, -, h⟩ := except_bind_eq_ok.mp h
  cases h
  exact stringAt_ok hsecret

/-- The secret a creation was read to come with is the one in its answer. -/
theorem createdOf_secret {resp : HttpResponse} {created : ServiceAccountCreatedResponse}
    (h : createdOf env resp = .ok created) : secretOf env resp = some created.clientSecret := by
  unfold createdOf at h
  unfold secretOf
  cases hread : readBody env "service_accounts.create" resp with
  | error e => rw [hread] at h; cases h
  | ok j =>
      rw [hread] at h
      have hdecode : decodeAs createdAccountOf "service_accounts.create" j = .ok created := h
      unfold decodeAs at hdecode
      split at hdecode
      next a ha =>
        cases hdecode
        exact createdAccountOf_secret ha
      · cases hdecode

/-- What a creation comes to whose answer was accepted. -/
theorem create_run_accepted {pages : Nat} {body : CreateServiceAccountRequest} {s : Impl}
    {resp : HttpResponse} (hresp : .ok resp ∈ answersOf env pages (.createServiceAccount body, s))
    (hdelivered : resp.transportError = []) (hsuccess : resp.isSuccess = true) :
    ((wire env pages).call (.createServiceAccount body) s).1 = createdOf env resp := by
  unfold answersOf at hresp
  rcases wire_call_run env pages (.createServiceAccount body) s with ⟨e, hrun, -⟩ |
    ⟨-, path, payload, hrun⟩
  · rw [hrun] at hresp
    simp at hresp
  · obtain ⟨hout, hsent⟩ := keepNetworkError_sendBuilt_run env "POST" path payload s
    generalize buildRequest env s "POST" path payload = req at hout hsent
    -- a creation is sent once, so its one answer is this one
    have hsend : (wire env pages).call (.createServiceAccount body) s =
        ((keepNetworkError (sendBuilt env "POST" path payload) >>= fun outcome =>
          Prog.lift (settle env "service_accounts.create" outcome)) >>= fun j =>
            Prog.lift (decodeAs createdAccountOf "service_accounts.create" j)) s := hrun
    rw [bind_lift_run, bind_lift_run] at hsend
    have hanswered : answered env ((wire env pages).call (.createServiceAccount body) s).2 =
        answered env s ++ [env.transport s.sent req] := by
      unfold answered
      rw [hsend, hsent, answersFrom_append]
      rfl
    rw [hanswered, List.drop_left, List.mem_singleton] at hresp
    have hkept : (keepNetworkError (sendBuilt env "POST" path payload) s).1 = .ok (.ok resp) := by
      rw [hout, ← hresp]
      show Except.ok (delivered resp) = _
      unfold delivered
      rw [if_pos hdelivered]
    have hsettle : settle env "service_accounts.create" (.ok resp) =
        readBody env "service_accounts.create" resp := if_pos hsuccess
    rw [hsend, hkept]
    show (settle env "service_accounts.create" (.ok resp)).bind _ = _
    rw [hsettle]
    rfl

end

/-! ## The report -/

/-- A call that passes the `catch` list of `apply` in no way, and loses no secret. -/
structure Contained (env : Env) (pages : Nat) (x : Call × Impl) : Prop where
  dumpable : Dumpable env x
  answered : ∀ a ∈ answersOf env pages x, ¬Unreported env a
  decoded : ∀ resp secret, Issued env pages x resp secret → ∃ created, createdOf env resp = .ok created

/-- How the report of an apply accounts for the pending changes of its plan. -/
structure Reported (env : Env) (pages : Nat) (m : Manifest) (p : Plan) (s₁ : Impl)
    (out : Except Exc ApplyReport × Impl) (report : ApplyReport) : Prop where
  returned : out.1 = .ok report
  /-- Every pending action, once and in order. -/
  actions : (report.applied ++ report.failed.toList ++ report.remaining).map
    PlannedChange.declared = p.pending.map PlannedChange.declared
  /-- The failed action is the last that was attempted, and nothing was sent after it. -/
  stopped : ∀ c ∈ report.failed, ∃ a,
    (attempts (wire env pages) m p.pending (.start p s₁)).getLast? = some a ∧ a.landed = false ∧
      a.post.change = c ∧ out.2 = a.post.world
  /-- Every secret that was issued. -/
  secrets : ∀ a ∈ attempts (wire env pages) m p.pending (.start p s₁), ∀ x ∈ a.post.calls,
    ∀ resp secret, Issued env pages x resp secret →
      ∃ c ∈ report.applied ++ report.failed.toList, c.entity = a.change.entity ∧
        c.serviceAccountSecret = some secret

section

variable {env : Env} {pages : Nat} {m : Manifest} {p : Plan} {s s₁ : Impl}

/-- No two planned changes are about one entity. -/
theorem plan_pending_nodup (h : plan (wire env pages) m s = (.ok p, s₁)) :
    (p.pending.map PlannedChange.entity).Nodup := by
  obtain ⟨l, hm, hsorted, -, hchanges⟩ := plan_returns _ m h
  have hnodup : (p.changes.map PlannedChange.entity).Nodup := by
    rw [plan_entities hchanges]
    exact hsorted.perm.nodup_iff.mpr hm.nodup
  exact hnodup.sublist (List.filter_sublist.map _)

/-- A planned change has no secret. -/
theorem plan_pending_secret (h : plan (wire env pages) m s = (.ok p, s₁)) :
    ∀ c ∈ p.pending, c.serviceAccountSecret = none := by
  obtain ⟨l, -, -, -, hchanges⟩ := plan_returns _ m h
  have hsecret : ∀ c ∈ p.changes, c.serviceAccountSecret = none := by
    generalize p.changes = changes at hchanges
    induction hchanges with
    | nil => exact fun c hc => (List.not_mem_nil hc).elim
    | cons hc _ ih => exact List.forall_mem_cons.mpr ⟨hc.secret, ih⟩
  exact fun c hc => hsecret c (List.mem_filter.mp hc).1

theorem createsAccount_iff {c : Call} :
    c.createsAccount = true ↔ ∃ body, c = .createServiceAccount body := by
  cases c with
  | createServiceAccount body => exact ⟨fun _ => ⟨body, rfl⟩, fun _ => rfl⟩
  | _ =>
      constructor
      · intro h
        cases h
      · rintro ⟨body, h⟩
        cases h

/-- The secret of an attempt that was issued one: the change has it exactly when the answer
decoded. -/
theorem attempt_issued {changes : List PlannedChange} {w : Work Impl} {a : Attempt Impl}
    (ha : a ∈ attempts (wire env pages) m changes w) {x : Call × Impl} (hx : x ∈ a.post.calls)
    {resp : HttpResponse} {secret : Str} (h : Issued env pages x resp secret) :
    a.post.change.serviceAccountSecret = match createdOf env resp with
      | .ok _ => some secret
      | .error _ => a.change.serviceAccountSecret := by
  obtain ⟨c, t⟩ := x
  obtain ⟨hcreates, hresp, hdelivered, hsuccess, hsecret⟩ := h
  obtain ⟨body, rfl⟩ := createsAccount_iff.mp hcreates
  rw [attempt_secret ha hx, create_run_accepted hresp hdelivered hsuccess]
  cases hcreated : createdOf env resp with
  | error e => rfl
  | ok created =>
      have := createdOf_secret hcreated
      rw [hsecret] at this
      exact this.symm

/-- A change keeps its entity when it is performed. -/
theorem attempt_entity {changes : List PlannedChange} {w : Work Impl} {a : Attempt Impl}
    (ha : a ∈ attempts (wire env pages) m changes w) :
    a.post.change.entity = a.change.entity := by
  show a.post.change.declared.entity = a.change.declared.entity
  rw [attempt_declared ha]

/-- What the attempts of an apply were given stays theirs. -/
theorem attempts_entities {changes : List PlannedChange} {w : Work Impl}
    (hnodup : (changes.map PlannedChange.entity).Nodup) {a b : Attempt Impl}
    (ha : a ∈ attempts (wire env pages) m changes w)
    (hb : b ∈ attempts (wire env pages) m changes w)
    (heq : a.change.entity = b.change.entity) : a = b := by
  have hstart : (attempts (wire env pages) m changes w).map Attempt.change <+: changes :=
    attempts_order changes w
  have hsub := (hstart.sublist.map PlannedChange.entity).nodup hnodup
  rw [List.map_map] at hsub
  exact List.inj_on_of_nodup_map hsub ha hb heq

/-- The report that a contained apply returns. -/
theorem reported_of_contained (h : plan (wire env pages) m s = (.ok p, s₁))
    (hcontained : ∀ a ∈ attempts (wire env pages) m p.pending (.start p s₁),
      ∀ x ∈ a.post.calls, Contained env pages x) :
    ∃ report, Reported env pages m p s₁ (apply (wire env pages) m s) report := by
  have halive : ∀ a ∈ attempts (wire env pages) m p.pending (.start p s₁),
      ¬(callLog (wire env pages)).Dies a.outcome := by
    intro a ha
    rw [attempt_dies_iff ha]
    rintro ⟨x, hx, hescapes⟩
    have hx := hcontained a ha x hx
    rcases (escapes_iff env pages x).mp hescapes with hdump | ⟨answer, hanswer, hbad⟩
    · exact hdump hx.dumpable
    · exact hx.answered answer hanswer hbad
  obtain ⟨report, hreport⟩ := (applyPending_returns_iff [] p.pending (.start p s₁)).mpr halive
  obtain ⟨haccount, hfinal⟩ := applyPending_account
    (show applyPending (wire env pages) m [] p.pending (.start p s₁) = (.ok report, _) from
      Prod.ext hreport rfl)
  have hattempted : report.applied ++ report.failed.toList =
      (attempts (wire env pages) m p.pending (.start p s₁)).map fun a => a.post.change := by
    rw [haccount.attempted, List.nil_append]
  refine ⟨report, ?_, haccount.actions, fun c hc => ?_, fun a ha x hx resp secret hissued => ?_⟩
  · rw [apply_run h]
    exact hreport
  · obtain ⟨a, hlast, hlanded⟩ := haccount.failed (by rw [Option.mem_def.mp hc]; rfl)
    refine ⟨a, hlast, hlanded, ?_, ?_⟩
    · have hlist := congrArg List.getLast? hattempted
      rw [Option.mem_def.mp hc, Option.toList_some, List.getLast?_append, List.getLast?_map,
        hlast] at hlist
      exact (Option.some.inj hlist).symm
    · rw [apply_run h]
      refine (congrArg Work.world hfinal).trans ?_
      unfold finalWork
      rw [hlast]
      rfl
  · obtain ⟨created, hcreated⟩ := (hcontained a ha x hx).decoded resp secret hissued
    refine ⟨a.post.change, ?_, ?_, ?_⟩
    · rw [hattempted]
      exact List.mem_map_of_mem ha
    · exact attempt_entity ha
    · rw [attempt_issued ha hx hissued, hcreated]

/-- What a report shows of the run it is about. -/
theorem contained_of_reported (h : plan (wire env pages) m s = (.ok p, s₁)) {report : ApplyReport}
    (hreport : Reported env pages m p s₁ (apply (wire env pages) m s) report) :
    ∀ a ∈ attempts (wire env pages) m p.pending (.start p s₁), ∀ x ∈ a.post.calls,
      Contained env pages x := by
  have hreturned : (applyPending (wire env pages) m [] p.pending (.start p s₁)).1 = .ok report := by
    have := hreport.returned
    rwa [apply_run h] at this
  have halive := (applyPending_returns_iff [] p.pending (.start p s₁)).mp ⟨report, hreturned⟩
  obtain ⟨haccount, -⟩ := applyPending_account
    (show applyPending (wire env pages) m [] p.pending (.start p s₁) = (.ok report, _) from
      Prod.ext hreturned rfl)
  intro a ha x hx
  have hcaught : ¬Escapes (wire env pages) x := fun hescapes =>
    halive a ha ((attempt_dies_iff ha).mpr ⟨x, hx, hescapes⟩)
  rw [escapes_iff, not_or, not_not] at hcaught
  refine ⟨hcaught.1, fun answer hanswer hbad => hcaught.2 ⟨answer, hanswer, hbad⟩,
    fun resp secret hissued => ?_⟩
  -- an answer that did not decode left no secret on its change, and no other change has it
  cases hcreated : createdOf env resp with
  | ok created => exact ⟨created, rfl⟩
  | error e =>
      exfalso
      obtain ⟨c, hc, hentity, hsecret⟩ := hreport.secrets a ha x hx resp secret hissued
      rw [haccount.attempted, List.nil_append] at hc
      obtain ⟨b, hb, rfl⟩ := List.mem_map.mp hc
      have hsame : b = a := by
        refine attempts_entities (plan_pending_nodup h) hb ha ?_
        rw [← hentity]
        exact (attempt_entity hb).symm
      have hnone : a.change.serviceAccountSecret = none :=
        plan_pending_secret h _ ((attempts_order _ _).subset (List.mem_map_of_mem ha))
      rw [hsame, attempt_issued ha hx hissued, hcreated, hnone] at hsecret
      cases hsecret

end

/-- The report of an apply accounts for its plan exactly when every call of its attempts is
contained. -/
theorem report_iff (env : Env) (pages : Nat) (m : Manifest) (s : Impl) (p : Plan)
    (h : (plan (wire env pages) m s).1 = .ok p) :
    (∃ report, Reported env pages m p (plan (wire env pages) m s).2
      (apply (wire env pages) m s) report) ↔
    ∀ a ∈ attempts (wire env pages) m p.pending (.start p (plan (wire env pages) m s).2),
      ∀ x ∈ a.post.calls, Contained env pages x := by
  have hplan : plan (wire env pages) m s = (.ok p, (plan (wire env pages) m s).2) := Prod.ext h rfl
  exact ⟨fun ⟨_, hreport⟩ => contained_of_reported hplan hreport, reported_of_contained hplan⟩

/-- A tenant that has nothing yet and creates one account. -/
def newTenant : Env where
  baseUrl := "https://iam.example"
  tenantHeader := "acme"
  parse := tableParser [(str "created", .object [("client_id", .string "c1"),
    ("client_secret", .string "s3cret"), ("created_at", .string "t"), ("id", .string "a1"),
    ("name", .string "ci"), ("status", .string "active"), ("tenant_id", .string "acme"),
    ("updated_at", .string "t")])]
  dump := fun _ => "\x7b\x7d"
  transport := fun _ req =>
    .ok { status := 200, body := if req.method = "POST" then str "created" else [] }
  clock := fun n => n
  opaqueStart := fun _ _ => .error (.foreign "no library")
  opaqueFinish := fun _ _ _ _ => .error (.foreign "no library")

def admin : Impl := { session := true }

/-- A permission whose action is no UTF-8. -/
def undumpable : Manifest where
  entities := [{ kind := .permission, key := "p", action := [255] }]

/-- The request body throws what `apply` does not catch, and the report is lost. -/
theorem undumpable_unreported :
    (plan (wire newTenant 1) undumpable admin).1 =
      .ok ⟨[{ entity := { kind := .permission, key := "p", action := [255] }, action := .create }]⟩ ∧
    ¬∃ report, Reported newTenant 1 undumpable
      ⟨[{ entity := { kind := .permission, key := "p", action := [255] }, action := .create }]⟩
      (plan (wire newTenant 1) undumpable admin).2 (apply (wire newTenant 1) undumpable admin)
      report := by
  refine ⟨by decide, ?_⟩
  rintro ⟨report, h⟩
  have hescapes : (apply (wire newTenant 1) undumpable admin).1 =
      .error (.json .invalidUtf8) := by decide
  have := h.returned
  rw [hescapes] at this
  cases this

/-- A manifest of one service account. -/
def oneAccount : Manifest where
  entities := [{ kind := .serviceAccount, key := "ci", name := "ci" }]

def onePlan : Plan :=
  ⟨[{ entity := { kind := .serviceAccount, key := "ci", name := "ci" }, action := .create }]⟩

theorem mem_answersFrom {env : Env} {before l : List HttpRequest} {a : Answer}
    (h : a ∈ answersFrom env before l) : ∃ b req, a = env.transport b req := by
  induction l generalizing before with
  | nil => cases h
  | cons req rest ih =>
      rcases List.mem_cons.mp h with rfl | h
      · exact ⟨before, req, rfl⟩
      · exact ih h

theorem oneAccount_reported : ∃ report, Reported newTenant 1 oneAccount onePlan
    (plan (wire newTenant 1) oneAccount admin).2 (apply (wire newTenant 1) oneAccount admin)
    report := by
  refine (report_iff newTenant 1 oneAccount admin onePlan (by decide)).mpr
    fun a ha x hx => ?_
  have hcalls : ((attempts (wire newTenant 1) oneAccount onePlan.pending
      (.start onePlan (plan (wire newTenant 1) oneAccount admin).2)).flatMap fun a =>
        a.post.calls.map Prod.fst) = [.createServiceAccount ⟨"ci", none⟩] := by decide
  have hcall : x.1 = .createServiceAccount ⟨"ci", none⟩ := by
    rw [← List.mem_singleton, ← hcalls]
    exact List.mem_flatMap.mpr ⟨a, ha, List.mem_map_of_mem hx⟩
  have hanswers : ∀ answer ∈ answersOf newTenant 1 x,
      answer = .ok { status := 200, body := str "created" } ∨ answer = .ok { status := 200 } := by
    intro answer hanswer
    obtain ⟨before, req, rfl⟩ := mem_answersFrom (List.mem_of_mem_drop hanswer)
    by_cases hpost : req.method = str "POST"
    · exact .inl (by simp [newTenant, hpost])
    · exact .inr (by simp [newTenant, hpost])
  constructor
  · intro _ _ j hj
    rw [hcall] at hj
    cases hj
    decide
  · intro answer hanswer hbad
    rcases hanswers answer hanswer with rfl | rfl
    · exact absurd hbad.2.1 (by decide)
    · exact absurd hbad.2.1 (by decide)
  · rintro resp secret ⟨-, hresp, -, -, hsecret⟩
    rcases hanswers _ hresp with heq | heq
    · cases heq
      exact ⟨⟨"a1", "s3cret"⟩, by decide⟩
    · cases heq
      cases hsecret

end Axiam.Management
