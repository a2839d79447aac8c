import Axiam.Client.Operations
import Axiam.Client.Requests
import Axiam.Client.Session
import Axiam.Lib.Motion
import Axiam.Memo.Keys
import Axiam.Memo.Upkeep

/-!
# What a decision rests on

A decision that `check_access` returns was read from an answer of the server to the same question: to
the request the call has just sent, or, through the memo, to one the client sent before.  The memo is
written by `check_access` alone; every other operation may send, read the clock, write the session and
clear the memo, and no more (`Touch`).
-/

namespace Axiam.Client

open Axiam.Lib Axiam.Lib.Prog Axiam.Memo

/-! ## Questions and answers -/

section

variable (env : Env)

/-- A request that puts a question to the server. -/
structure AsksFor (q : Question) (req : HttpRequest) : Prop where
  method : req.method = str "POST"
  url : req.url = env.baseUrl ++ str "/api/v1/authz/check"
  body : dumpText env (checkBody q.action q.resourceId q.scope q.subjectId) = .ok req.body
  acting : req.headers.find? "X-Axiam-Tenant" = q.actingTenant

/-- The server's answer to a request, after those before it, reads as a decision. -/
def DecidedAs (before : List HttpRequest) (req : HttpRequest) (d : AccessDecision) : Prop :=
  ∃ resp j, env.transport before req = .ok resp ∧ resp.transportError = [] ∧
    resp.isSuccess = true ∧ env.parse resp.body = some j ∧ parseDecision j = .ok d

/-- Among the requests is one that put the question and was answered so. -/
def Decided (sent : List HttpRequest) (q : Question) (d : AccessDecision) : Prop :=
  ∃ before req after, sent = before ++ req :: after ∧ AsksFor env q req ∧ DecidedAs env before req d

/-- What a call in `s` that ended in `t` had for its decision: the answer to the last request it
sent, or that to an earlier question of the same key, memoized less than five seconds before. -/
def Rests (s t : Impl) (q : Question) (d : AccessDecision) : Prop :=
  (∃ before req, t.sent = before ++ [req] ∧ s.sent <+: before ∧ AsksFor env q req ∧
      DecidedAs env before req d) ∨
    ∃ q', q'.key = q.key ∧ Decided env s.sent q' d ∧
      ∃ n, n < s.ticks ∧ env.clock s.ticks - env.clock n < milliseconds 5000

/-- What is known of an entry of the memo. -/
structure Memoized (s : Impl) (k : Str) (e : Entry AccessDecision) : Prop where
  decided : ∃ q : Question, q.key = k ∧ Decided env s.sent q e.decision
  stored : ∃ n, n < s.ticks ∧ env.clock n = e.storedAt

/-- What is known of the memo. -/
structure Known (s : Impl) : Prop where
  entries : ∀ k e, s.memo.entries k = some e → Memoized env s k e
  ttl : s.memo.ttl ≤ kMemoMaxTtl

end

/-! ## What an operation does to a client -/

/-- A change that stores nothing in the memo. -/
inductive Touch : Impl → Impl → Prop
  | send (s : Impl) (req : HttpRequest) : Touch s { s with sent := s.sent ++ [req] }
  | tick (s : Impl) : Touch s { s with ticks := s.ticks + 1 }
  | consult (s : Impl) (k : Str) (now : Int) : Touch s { s with memo := (s.memo.get k now).2 }
  | write {s t : Impl} (hsent : t.sent = s.sent) (hticks : t.ticks = s.ticks)
      (hmemo : t.memo = s.memo ∨ t.memo = s.memo.clear) : Touch s t

theorem Decided.mono {env : Env} {sent more : List HttpRequest} {q : Question} {d : AccessDecision}
    (h : Decided env sent q d) : Decided env (sent ++ more) q d := by
  obtain ⟨before, req, after, rfl, hasks, hanswers⟩ := h
  exact ⟨before, req, after ++ more, by rw [List.append_assoc, List.cons_append], hasks, hanswers⟩

theorem Memoized.mono {env : Env} {s t : Impl} {k : Str} {e : Entry AccessDecision}
    (h : Memoized env s k e) (hsent : s.sent <+: t.sent) (hticks : s.ticks ≤ t.ticks) :
    Memoized env t k e := by
  obtain ⟨more, hmore⟩ := hsent
  obtain ⟨q, hkey, hdecided⟩ := h.decided
  obtain ⟨n, hn, hclock⟩ := h.stored
  exact ⟨⟨q, hkey, hmore ▸ hdecided.mono⟩, n, Nat.lt_of_lt_of_le hn hticks, hclock⟩

theorem erase_ttl {δ : Type} (m : DecisionMemo δ) (k : Str) : (m.erase k).ttl = m.ttl := by
  unfold DecisionMemo.erase
  split <;> rfl

theorem get_ttl {δ : Type} (m : DecisionMemo δ) (k : Str) (now : Int) :
    (m.get k now).2.ttl = m.ttl := by
  unfold DecisionMemo.get
  split
  · rfl
  · split
    · rfl
    · split
      · exact erase_ttl m k
      · rfl

theorem evict_ttl {δ : Type} (ttl : Int) (entries : Str → Option (Entry δ)) (order : List Str) :
    (DecisionMemo.evict ttl entries order).ttl = ttl := by
  induction order generalizing entries with
  | nil => rfl
  | cons oldest rest ih =>
      unfold DecisionMemo.evict
      split
      · exact ih _
      · rfl

theorem put_ttl {δ : Type} (m : DecisionMemo δ) (k : Str) (d : δ) (now : Int) :
    (m.put k d now).ttl = m.ttl := by
  unfold DecisionMemo.put
  split
  · rfl
  · exact (evict_ttl _ _ _).trans (erase_ttl m k)

/-- After a `put`: what was put, at the reading it was put at, or an entry from before. -/
theorem put_entry {δ : Type} {m : DecisionMemo δ} {k j : Str} {d : δ} {now : Int} {e : Entry δ}
    (h : (m.put k d now).entries j = some e) : (j = k ∧ e = ⟨d, now⟩) ∨ m.entries j = some e := by
  unfold DecisionMemo.put at h
  split at h
  · exact .inr h
  have hupdated := DecisionMemo.evict_entries h
  rcases eq_or_ne j k with rfl | hne
  · rw [Function.update_self] at hupdated
    exact .inl ⟨rfl, (Option.some.inj hupdated).symm⟩
  · rw [Function.update_of_ne hne] at hupdated
    exact .inr (DecisionMemo.erase_entries hupdated)

/-- A hit is an entry that is not too old. -/
theorem get_hit {δ : Type} {m : DecisionMemo δ} {k : Str} {now : Int} {d : δ}
    (h : (m.get k now).1 = some d) :
    ∃ e, m.entries k = some e ∧ e.decision = d ∧ now - e.storedAt < m.ttl := by
  unfold DecisionMemo.get at h
  split at h
  · cases h
  split at h
  · cases h
  next e hfound =>
    split at h
    · cases h
    · next hfresh =>
        cases h
        exact ⟨e, hfound, rfl, by omega⟩

/-- What is known of a memo, a change leaves known. -/
theorem Known.touch {env : Env} {s t : Impl} (h : Touch s t) (hs : Known env s) : Known env t := by
  cases h with
  | send req =>
      exact ⟨fun k e he => (hs.entries k e he).mono (List.prefix_append _ _) (Nat.le_refl _), hs.ttl⟩
  | tick =>
      exact ⟨fun k e he => (hs.entries k e he).mono List.prefix_rfl (Nat.le_succ _), hs.ttl⟩
  | consult k now =>
      refine ⟨fun j e he => ?_, (get_ttl s.memo k now) ▸ hs.ttl⟩
      exact (hs.entries j e (DecisionMemo.get_entries he)).mono List.prefix_rfl (Nat.le_refl _)
  | write hsent hticks hmemo =>
      rcases hmemo with hmemo | hmemo
      · refine ⟨fun k e he => ?_, hmemo ▸ hs.ttl⟩
        rw [hmemo] at he
        exact (hs.entries k e he).mono (hsent ▸ List.prefix_rfl) (Nat.le_of_eq hticks.symm)
      · refine ⟨fun k e he => ?_, ?_⟩
        · rw [hmemo, DecisionMemo.clear_entries] at he
          cases he
        · rw [hmemo]
          exact hs.ttl

/-- A change takes nothing back that was sent. -/
theorem Touch.sent {s t : Impl} (h : Touch s t) : s.sent <+: t.sent := by
  cases h with
  | send req => exact List.prefix_append _ _
  | write hsent _ _ => exact hsent ▸ List.prefix_rfl
  | tick | consult _ _ => exact List.prefix_rfl

/-! ### Operation by operation -/

section

variable (env : Env)

theorem moves_sent {α : Type} {m : Prog Impl Exc α} (h : Moves Touch m) (s : Impl) :
    s.sent <+: (m s).2.sent :=
  h.keep (P := fun t => s.sent <+: t.sent) (fun _ _ htouch hsent => hsent.trans htouch.sent)
    List.prefix_rfl

/-- A write of the session. -/
theorem write_moves {g : Impl → Impl} (hsent : ∀ s, (g s).sent = s.sent)
    (hticks : ∀ s, (g s).ticks = s.ticks)
    (hmemo : ∀ s, (g s).memo = s.memo ∨ (g s).memo = s.memo.clear) :
    Moves Touch (Prog.modify g : Prog Impl Exc Unit) :=
  Moves.modify fun s => .write (hsent s) (hticks s) (hmemo s)

theorem clearMemo_moves : Moves Touch clearMemo :=
  write_moves (fun _ => rfl) (fun _ => rfl) fun _ => .inr rfl

theorem ensureOpen_moves : Moves Touch ensureOpen :=
  Moves.bind Moves.read fun _ => Moves.ite (Moves.raise _) (Moves.ret _)

theorem capture_memo (s : Impl) (resp : HttpResponse) :
    (s.capture resp).sent = s.sent ∧ (s.capture resp).ticks = s.ticks ∧
      (s.capture resp).memo = s.memo := by
  unfold Impl.capture
  split
  · split
    · exact ⟨rfl, rfl, rfl⟩
    · exact ⟨rfl, rfl, rfl⟩
  · exact ⟨rfl, rfl, rfl⟩

theorem sendRaw_moves (req : HttpRequest) : Moves Touch (sendRaw env req) := by
  refine Moves.bind (Moves.step fun s => .send s req) fun _ => Moves.bind (Moves.lift _) fun resp => ?_
  refine Moves.bind ?_ fun _ => Moves.ret _
  exact write_moves (fun s => (capture_memo s resp).1) (fun s => (capture_memo s resp).2.1)
    fun s => .inl (capture_memo s resp).2.2

theorem sendBuilt_moves (method path body : Str) : Moves Touch (sendBuilt env method path body) :=
  Moves.bind Moves.read fun _ => sendRaw_moves env _

theorem orRaise_moves (resp : HttpResponse) : Moves Touch (orRaise env resp) :=
  Moves.ite (Moves.ret _) (Moves.raise _)

theorem doSingleFlightRefresh_moves : Moves Touch (doSingleFlightRefresh env) := by
  have hperform : Moves Touch (performRefresh env) := by
    refine Moves.bind (write_moves (fun _ => rfl) (fun _ => rfl) fun _ => .inl rfl) fun _ => ?_
    refine Moves.bind Moves.read fun s => Moves.bind (Moves.lift _) fun body => ?_
    refine Moves.bind (sendBuilt_moves env _ _ _) fun resp => ?_
    exact Moves.ite (Moves.ret _) (Moves.raise _)
  exact Moves.bind hperform fun _ => Moves.bind clearMemo_moves fun _ => Moves.ret _

theorem refreshAndRetry_moves (method path body : Str) :
    Moves Touch (refreshAndRetry env method path body) :=
  Moves.bind (doSingleFlightRefresh_moves env) fun _ =>
    Moves.bind (sendBuilt_moves env _ _ _) fun _ => orRaise_moves env _

theorem execute_moves (method path body : Str) (allowRefresh : Bool) :
    Moves Touch (execute env method path body allowRefresh) := by
  refine Moves.bind (sendBuilt_moves env _ _ _) fun _ => Moves.ite (Moves.ret _) ?_
  refine Moves.bind Moves.read fun _ => Moves.ite ?_ (Moves.raise _)
  exact refreshAndRetry_moves env method path body

theorem keepNetworkError_moves {m : Prog Impl Exc HttpResponse} (hm : Moves Touch m) :
    Moves Touch (keepNetworkError m) :=
  Moves.tryCatch (Moves.bind hm fun _ => Moves.ret _) fun _ =>
    Moves.ite (Moves.ret _) (Moves.raise _)

theorem attempt_moves (method path body : Str) : Moves Touch (attempt env method path body) :=
  keepNetworkError_moves (Moves.bind Moves.read fun _ => sendRaw_moves env _)

theorem executeRetrying_moves (path body : Str) (retries : Nat) :
    Moves Touch (executeRetrying env path body retries) := by
  have hsettle : ∀ outcome, Moves Touch (executeRetrying.settle env path body outcome) := by
    intro outcome
    unfold executeRetrying.settle
    split
    · exact Moves.raise _
    · refine Moves.ite (Moves.ret _) (Moves.bind Moves.read fun _ => ?_)
      exact Moves.ite (refreshAndRetry_moves env _ path body) (Moves.raise _)
  induction retries with
  | zero => exact Moves.bind (attempt_moves env _ path body) hsettle
  | succ retries ih =>
      exact Moves.bind (attempt_moves env _ path body) fun outcome => Moves.ite ih (hsettle outcome)

theorem post_moves (path body : Str) : Moves Touch (post env path body) :=
  Moves.bind (sendBuilt_moves env _ _ _) fun _ => orRaise_moves env _

theorem adoptUser_touch (user : Option UserInfo) :
    Moves Touch (Prog.modify fun s => s.adoptUser user : Prog Impl Exc Unit) :=
  write_moves (fun _ => rfl) (fun _ => rfl) fun _ => .inl rfl

theorem adoptBoth_touch (user : Option UserInfo) (org : Option Str) :
    Moves Touch (Prog.modify fun s => (s.adoptUser user).adoptOrg org : Prog Impl Exc Unit) :=
  write_moves (fun _ => rfl) (fun _ => rfl) fun _ => .inl rfl

theorem adoptLogin_moves (resp : HttpResponse) (result : LoginResult) :
    Moves Touch (adoptLogin env resp result) :=
  Moves.ite (Moves.bind (adoptBoth_touch _ _) fun _ => Moves.ret _) (Moves.ret _)

theorem login_moves (u p : Str) : Moves Touch (login env u p) := by
  refine Moves.bind ensureOpen_moves fun _ => Moves.bind clearMemo_moves fun _ => ?_
  refine Moves.bind (Moves.lift _) fun _ => Moves.bind (sendBuilt_moves env _ _ _) fun resp => ?_
  exact Moves.bind (Moves.lift _) fun result => adoptLogin_moves env resp result

theorem openKe2_moves (u p : Str) (started : OpaqueLoginStart) :
    Moves Touch (openKe2 env u p started) := by
  refine Moves.bind Moves.read fun s => ?_
  split
  · refine Moves.bind (Moves.lift _) fun _ => Moves.bind (execute_moves env _ _ _ _) fun resp => ?_
    exact Moves.bind (Moves.lift _) fun result => adoptLogin_moves env resp result
  · exact Moves.ite (login_moves env u p) (Moves.raise _)

theorem loginOpaque_moves (u p : Str) : Moves Touch (loginOpaque env u p) := by
  refine Moves.bind ensureOpen_moves fun _ => Moves.bind clearMemo_moves fun _ => ?_
  refine Moves.bind Moves.read fun _ => Moves.bind (Moves.lift _) fun _ => ?_
  refine Moves.bind (Moves.lift _) fun _ => Moves.bind (sendBuilt_moves env _ _ _) fun _ => ?_
  exact Moves.bind (Moves.lift _) fun _ => Moves.ite (Moves.raise _) (openKe2_moves env u p _)

theorem verifyMfa_moves (c t : Str) : Moves Touch (verifyMfa env c t) := by
  refine Moves.bind ensureOpen_moves fun _ => Moves.bind clearMemo_moves fun _ => ?_
  refine Moves.bind (Moves.lift _) fun _ => Moves.bind (execute_moves env _ _ _ _) fun _ => ?_
  exact Moves.bind (Moves.lift _) fun _ =>
    Moves.bind (adoptBoth_touch _ _) fun _ => Moves.ret _

theorem mfaSetupConfirm_moves (s t : Str) : Moves Touch (mfaSetupConfirm env s t) := by
  refine Moves.bind ensureOpen_moves fun _ => Moves.bind clearMemo_moves fun _ => ?_
  refine Moves.bind (Moves.lift _) fun _ => Moves.bind (post_moves env _ _) fun _ => ?_
  exact Moves.bind (Moves.lift _) fun _ => Moves.bind (adoptUser_touch _) fun _ => Moves.ret _

theorem finishLogin_moves (path s r operation : Str) :
    Moves Touch (finishLogin env path s r operation) := by
  refine Moves.bind ensureOpen_moves fun _ => Moves.bind (Moves.lift _) fun _ => ?_
  refine Moves.bind clearMemo_moves fun _ => Moves.bind (post_moves env _ _) fun _ => ?_
  refine Moves.bind (Moves.lift _) fun _ => Moves.bind ?_ fun _ => Moves.ret _
  exact write_moves (fun _ => rfl) (fun _ => rfl) fun _ => .inl rfl

theorem webauthnSetupRegisterFinish_moves (a b c d : Str) :
    Moves Touch (webauthnSetupRegisterFinish env a b c d) := by
  refine Moves.bind ensureOpen_moves fun _ => Moves.ite (Moves.raise _) ?_
  refine Moves.bind clearMemo_moves fun _ => Moves.bind (Moves.lift _) fun _ => ?_
  refine Moves.bind Moves.read fun _ => Moves.bind (sendRaw_moves env _) fun _ => ?_
  refine Moves.bind (orRaise_moves env _) fun _ => Moves.bind (Moves.lift _) fun _ => ?_
  exact Moves.bind (adoptUser_touch _) fun _ => Moves.ret _

theorem completeFederation_moves (path context : Str) (request : Json) :
    Moves Touch (completeFederation env path context request) := by
  refine Moves.bind ensureOpen_moves fun _ => Moves.bind clearMemo_moves fun _ => ?_
  refine Moves.bind (Moves.lift _) fun _ => Moves.bind (execute_moves env _ _ _ _) fun _ => ?_
  refine Moves.bind (Moves.lift _) fun _ => Moves.bind ?_ fun _ => Moves.ret _
  exact write_moves (fun _ => rfl) (fun _ => rfl) fun _ => .inl rfl

theorem authenticateDevice_moves : Moves Touch (authenticateDevice env) := by
  refine Moves.bind ensureOpen_moves fun _ => Moves.ite (Moves.raise _) ?_
  refine Moves.bind clearMemo_moves fun _ => Moves.bind Moves.read fun _ => ?_
  refine Moves.bind (sendRaw_moves env _) fun _ => Moves.bind (orRaise_moves env _) fun _ => ?_
  refine Moves.bind (Moves.lift _) fun _ => Moves.bind ?_ fun _ => Moves.ret _
  exact write_moves (fun _ => rfl) (fun _ => rfl) fun _ => .inl rfl

theorem logout_moves : Moves Touch (logout env) := by
  refine Moves.bind ensureOpen_moves fun _ => Moves.bind clearMemo_moves fun _ => ?_
  refine Moves.bind (Moves.tryCatch (Moves.bind (execute_moves env _ _ _ _) fun _ => Moves.ret _)
    fun _ => Moves.ite (Moves.ret _) (Moves.raise _)) fun _ => ?_
  exact write_moves (fun _ => rfl) (fun _ => rfl) fun _ => .inl rfl

theorem close_moves : Moves Touch close :=
  Moves.bind Moves.read fun _ => Moves.ite (Moves.ret _)
    (write_moves (fun _ => rfl) (fun _ => rfl) fun _ => .inr rfl)

theorem actingTenant_moves (t : Str) : Moves Touch (actingTenant t) := by
  refine Moves.bind ensureOpen_moves fun _ => Moves.ite (Moves.raise _) ?_
  refine Moves.bind Moves.read fun _ => Moves.bind (Moves.lift _) fun _ => ?_
  exact write_moves (fun _ => rfl) (fun _ => rfl) fun _ => .inl rfl

theorem batchCheck_moves (checks : List AccessCheck) : Moves Touch (batchCheck env checks) :=
  Moves.bind ensureOpen_moves fun _ => Moves.bind (Moves.lift _) fun _ =>
    Moves.bind (executeRetrying_moves env _ _ _) fun _ => Moves.lift _

theorem manage_moves (operation method template : Str) (values : List (Str × Str))
    (query : List (Str × Option Str)) (body : Option Json) :
    Moves Touch (Management.send env operation method template values query body) := by
  have hattempts : ∀ path payload retries,
      Moves Touch (Management.sendAttempts env operation method path payload retries) := by
    intro path payload retries
    have hattempt := keepNetworkError_moves (sendBuilt_moves env method path payload)
    induction retries with
    | zero => exact Moves.bind hattempt fun _ => Moves.lift _
    | succ retries ih => exact Moves.bind hattempt fun _ => Moves.ite ih (Moves.lift _)
  refine Moves.bind ensureOpen_moves fun _ => Moves.bind ?_ fun _ => ?_
  · exact Moves.bind Moves.read fun _ => Moves.ite (Moves.ret _) (Moves.raise _)
  · exact Moves.bind (Moves.lift _) fun _ => hattempts _ _ _

/-- Everything but a check stores nothing in the memo. -/
theorem Op.perform_moves (op : Op) (hop : ∀ a r c u, op ≠ .checkAccess a r c u) :
    Moves Touch (op.perform env) := by
  have hwrap {α : Type} {wrap : α → Reply} {m : Prog Impl Exc α} (hm : Moves Touch m) :
      Moves Touch (replying wrap m) := Moves.bind hm fun _ => Moves.ret _
  cases op with
  | login u p => exact hwrap (login_moves env u p)
  | loginOpaque u p => exact hwrap (loginOpaque_moves env u p)
  | verifyMfa c t => exact hwrap (verifyMfa_moves env c t)
  | mfaSetupConfirm s t => exact hwrap (mfaSetupConfirm_moves env s t)
  | webauthnAuthenticateFinish s r | webauthnDiscoverableFinish s r =>
      exact hwrap (finishLogin_moves env _ s r _)
  | webauthnSetupRegisterFinish a b c d =>
      exact hwrap (webauthnSetupRegisterFinish_moves env a b c d)
  | ssoComplete _ _ | ssoCompleteOauth2 _ _ | ssoCompleteHandoff _ =>
      exact hwrap (completeFederation_moves env _ _ _)
  | authenticateDevice => exact hwrap (authenticateDevice_moves env)
  | refresh =>
      exact hwrap (Moves.bind ensureOpen_moves fun _ => doSingleFlightRefresh_moves env)
  | logout => exact hwrap (logout_moves env)
  | close => exact hwrap close_moves
  | actingTenant t => exact hwrap (actingTenant_moves t)
  | clearActingTenant =>
      exact hwrap (Moves.bind ensureOpen_moves fun _ =>
        write_moves (fun _ => rfl) (fun _ => rfl) fun _ => .inl rfl)
  | checkAccess a r c u => exact absurd rfl (hop a r c u)
  | batchCheck cs => exact hwrap (batchCheck_moves env cs)
  | manage o m t vs q b => exact hwrap (manage_moves env o m t vs q b)
  | call m p b r =>
      exact hwrap (Moves.bind ensureOpen_moves fun _ => execute_moves env m p b r)
  | exchange req =>
      exact hwrap (Moves.bind ensureOpen_moves fun _ => sendRaw_moves env req)

theorem checkAccess_sent (action resourceId : Str) (scope subjectId : Option Str) (s : Impl) :
    s.sent <+: (checkAccess env action resourceId scope subjectId s).2.sent := by
  have huntouched : Untouched fun _ : Impl => () :=
    ⟨fun _ _ => rfl, fun _ _ => rfl, fun _ _ => rfl, fun _ _ => rfl, fun _ _ => rfl⟩
  obtain ⟨new, hnew, -⟩ :=
    (checkAccess_asks env (huntouched.builds env) action resourceId scope subjectId).sends s
  exact ⟨new, hnew.symm⟩

/-- No operation takes back what was sent. -/
theorem Op.perform_sent (op : Op) (s : Impl) : s.sent <+: (op.perform env s).2.sent := by
  by_cases hcheck : ∃ a r c u, op = .checkAccess a r c u
  · obtain ⟨a, r, c, u, rfl⟩ := hcheck
    show s.sent <+: (replying _ (Client.checkAccess env a r c u) s).2.sent
    rw [replying_state]
    exact checkAccess_sent env a r c u s
  · exact moves_sent (op.perform_moves env fun a r c u hop => hcheck ⟨a, r, c, u, hop⟩) s

end

/-! ## The answer to a check -/

/-- A response that came back is the answer to the request that was sent last. -/
structure Replied (env : Env) (s t : Impl) (path body : Str) (resp : HttpResponse) : Prop where
  success : resp.isSuccess = true
  completed : resp.transportError = []
  last : ∃ before req, t.sent = before ++ [req] ∧ s.sent <+: before ∧
    env.transport before req = .ok resp ∧ req.method = str "POST" ∧ req.url = env.baseUrl ++ path ∧
      req.body = body ∧ req.headers.find? "X-Axiam-Tenant" = s.actingTenantId

section

variable {env : Env}

theorem sendRaw_eq_ok {req : HttpRequest} {s t : Impl} {resp : HttpResponse}
    (h : sendRaw env req s = (.ok resp, t)) :
    env.transport s.sent req = .ok resp ∧ resp.transportError = [] ∧ t.sent = s.sent ++ [req] := by
  have hsent := sendRaw_sent env req s
  rw [h] at hsent
  cases hanswer : env.transport s.sent req with
  | error e =>
      obtain ⟨u, hrun⟩ := sendRaw_run_error hanswer
      rw [hrun] at h
      cases h
  | ok resp' =>
      by_cases hok : resp'.transportError = []
      · obtain ⟨u, hrun⟩ := sendRaw_run_ok hanswer hok
        rw [hrun] at h
        cases h
        exact ⟨rfl, hok, hsent⟩
      · obtain ⟨u, hrun⟩ := sendRaw_run_failed hanswer hok
        rw [hrun] at h
        cases h

theorem actingTenantId_untouched : Untouched Impl.actingTenantId :=
  ⟨fun _ _ => rfl, fun _ _ => rfl, fun _ _ => rfl, fun _ _ => rfl, fun _ _ => rfl⟩

/-- What a request that was sent again after others has for an answer, the first has. -/
theorem Replied.after {s u t : Impl} {path body : Str} {resp : HttpResponse}
    (h : Replied env u t path body resp) (hsent : s.sent <+: u.sent)
    (hacting : u.actingTenantId = s.actingTenantId) : Replied env s t path body resp := by
  obtain ⟨before, req, hlast, hbefore, hanswer, hmethod, hurl, hbody, htenant⟩ := h.last
  exact ⟨h.success, h.completed, before, req, hlast, hsent.trans hbefore, hanswer, hmethod, hurl,
    hbody, htenant.trans hacting⟩

theorem keepNetworkError_eq_ok {m : Prog Impl Exc HttpResponse} {s t : Impl} {resp : HttpResponse}
    (h : keepNetworkError m s = (.ok (.ok resp), t)) : m s = (.ok resp, t) := by
  unfold keepNetworkError at h
  rw [tryCatch_run, bind_run] at h
  rcases hrun : m s with ⟨e | resp', u⟩
  · rw [hrun] at h
    simp only at h
    split at h
    · cases h
    · cases h
  · rw [hrun] at h
    cases h
    rfl

theorem attempt_eq_ok {path body : Str} {s t : Impl} {resp : HttpResponse}
    (h : attempt env "POST" path body s = (.ok (.ok resp), t)) (hsuccess : resp.isSuccess = true) :
    Replied env s t path body resp := by
  have h := keepNetworkError_eq_ok h
  rw [bind_run, read_run] at h
  obtain ⟨hanswer, hcompleted, hsent⟩ := sendRaw_eq_ok h
  exact ⟨hsuccess, hcompleted, s.sent, _, hsent, List.prefix_rfl, hanswer, rfl, rfl, rfl,
    buildRequest_acting env s "POST" path body⟩

theorem refreshAndRetry_eq_ok {path body : Str} {s t : Impl} {resp : HttpResponse}
    (h : refreshAndRetry env "POST" path body s = (.ok resp, t)) :
    Replied env s t path body resp := by
  unfold refreshAndRetry at h
  obtain ⟨expiresIn, u, hrefresh, h⟩ := bind_eq_ok.mp h
  obtain ⟨retried, v, hsend, h⟩ := bind_eq_ok.mp h
  have hsent := moves_sent (doSingleFlightRefresh_moves env) s
  have hacting := doSingleFlightRefresh_keeps env actingTenantId_untouched s
  rw [hrefresh] at hsent hacting
  unfold orRaise at h
  split at h
  · next hsuccess =>
      cases h
      unfold sendBuilt at hsend
      rw [bind_run, read_run] at hsend
      obtain ⟨hanswer, hcompleted, hlast⟩ := sendRaw_eq_ok hsend
      refine Replied.after ⟨hsuccess, hcompleted, u.sent, _, hlast, List.prefix_rfl, hanswer, rfl,
        rfl, rfl, buildRequest_acting env u "POST" path body⟩ hsent hacting
  · cases h

/-- A response that `execute_retrying` returns answers the last request it sent. -/
theorem executeRetrying_answered {path body : Str} {retries : Nat} {s t : Impl} {resp : HttpResponse}
    (h : executeRetrying env path body retries s = (.ok resp, t)) :
    Replied env s t path body resp := by
  have hsettle : ∀ {s u outcome}, attempt env "POST" path body s = (.ok outcome, u) →
      executeRetrying.settle env path body outcome u = (.ok resp, t) →
        Replied env s t path body resp := by
    intro s u outcome hattempt hs
    have hsent := moves_sent (attempt_moves env "POST" path body) s
    have hacting := attempt_keeps env actingTenantId_untouched "POST" path body s
    rw [hattempt] at hsent hacting
    unfold executeRetrying.settle at hs
    cases outcome with
    | error e => cases hs
    | ok resp' =>
        simp only at hs
        by_cases hsuccess : resp'.isSuccess = true
        · rw [if_pos hsuccess] at hs
          cases hs
          exact attempt_eq_ok hattempt hsuccess
        · rw [if_neg hsuccess, bind_run, read_run] at hs
          simp only at hs
          split at hs
          · exact (refreshAndRetry_eq_ok hs).after hsent hacting
          · cases hs
  induction retries generalizing s with
  | zero =>
      obtain ⟨outcome, u, hattempt, hs⟩ := bind_eq_ok.mp h
      exact hsettle hattempt hs
  | succ retries ih =>
      obtain ⟨outcome, u, hattempt, hs⟩ := bind_eq_ok.mp h
      split at hs
      · have hsent := moves_sent (attempt_moves env "POST" path body) s
        have hacting := attempt_keeps env actingTenantId_untouched "POST" path body s
        rw [hattempt] at hsent hacting
        exact (ih hs).after hsent hacting
      · exact hsettle hattempt hs

/-- The text of a check, sent and answered. -/
theorem Replied.decides {q : Question} {s t : Impl} {text : Str} {resp : HttpResponse} {j : Json}
    {d : AccessDecision} (h : Replied env s t "/api/v1/authz/check" text resp)
    (hacting : q.actingTenant = s.actingTenantId)
    (htext : dumpText env (checkBody q.action q.resourceId q.scope q.subjectId) = .ok text)
    (hparse : env.parse resp.body = some j) (hread : parseDecision j = .ok d) :
    ∃ before req, t.sent = before ++ [req] ∧ s.sent <+: before ∧ AsksFor env q req ∧
      DecidedAs env before req d := by
  obtain ⟨before, req, hlast, hbefore, hanswer, hmethod, hurl, hbody, htenant⟩ := h.last
  exact ⟨before, req, hlast, hbefore, ⟨hmethod, hurl, hbody ▸ htext, htenant.trans hacting.symm⟩,
    resp, j, hanswer, h.completed, h.success, hparse, hread⟩

section

variable {q : Question} {key : Option Str} {s : Impl} (hacting : q.actingTenant = s.actingTenantId)
include hacting

/-- A decision that was asked for is the answer to the question, or the one that allows nothing. -/
theorem askDecision_eq_ok {t : Impl} {d : AccessDecision}
    (h : askDecision env (checkBody q.action q.resourceId q.scope q.subjectId) key s = (.ok d, t)) :
    d = {} ∨ ∃ before req, t.sent = before ++ [req] ∧ s.sent <+: before ∧ AsksFor env q req ∧
      DecidedAs env before req d := by
  unfold askDecision at h
  obtain ⟨text, s', htext, h⟩ := bind_eq_ok.mp h
  cases htext' : dumpText env (checkBody q.action q.resourceId q.scope q.subjectId) with
  | error e =>
      rw [htext', lift_run] at htext
      cases htext
  | ok text' =>
      rw [htext', lift_run] at htext
      cases htext
      obtain ⟨resp, u, hsend, h⟩ := bind_eq_ok.mp h
      have hanswered := executeRetrying_answered hsend
      cases hparse : env.parse resp.body with
      | none =>
          rw [hparse] at h
          cases h
          exact .inl rfl
      | some j =>
          rw [hparse] at h
          obtain ⟨d', v, hread, h⟩ := bind_eq_ok.mp h
          obtain ⟨_, w, hremember, h⟩ := bind_eq_ok.mp h
          cases h
          cases hread' : parseDecision j with
          | error e =>
              rw [hread', lift_run] at hread
              cases hread
          | ok d'' =>
              rw [hread', lift_run] at hread
              cases hread
              obtain ⟨before, req, hlast, hrest⟩ := hanswered.decides hacting htext' hparse hread'
              refine .inr ⟨before, req, ?_, hrest⟩
              rw [← hlast]
              cases key with
              | none =>
                  cases hremember
                  rfl
              | some key =>
                  cases hremember
                  rfl

/-- And what is memoized of it is known. -/
theorem askDecision_known (hs : Known env s) (hkey : ∀ k ∈ key, k = q.key) :
    Known env (askDecision env (checkBody q.action q.resourceId q.scope q.subjectId) key s).2 := by
  unfold askDecision
  rw [bind_run, lift_run]
  cases htext : dumpText env (checkBody q.action q.resourceId q.scope q.subjectId) with
  | error e => exact hs
  | ok text =>
      simp only
      have hmoved := (executeRetrying_moves env "/api/v1/authz/check" text (readRetries env)).keep
        (fun _ _ htouch hknown => Known.touch htouch hknown) hs
      rw [bind_run]
      rcases hsend : executeRetrying env "/api/v1/authz/check" text (readRetries env) s with ⟨e | resp, u⟩
      · rw [hsend] at hmoved
        exact hmoved
      rw [hsend] at hmoved
      have hanswered := executeRetrying_answered hsend
      simp only
      cases hparse : env.parse resp.body with
      | none => exact hmoved
      | some j =>
          simp only
          rw [bind_run, lift_run]
          cases hread : parseDecision j with
          | error e => exact hmoved
          | ok d =>
              obtain ⟨before, req, hlast, -, hasks, hanswers⟩ :=
                hanswered.decides hacting htext hparse hread
              have hdecided : Decided env u.sent q d := ⟨before, req, [], hlast, hasks, hanswers⟩
              cases key with
              | none => exact hmoved
              | some k =>
                  obtain rfl := hkey k rfl
                  refine ⟨fun j e he => ?_, (put_ttl u.memo _ d _) ▸ hmoved.ttl⟩
                  rcases put_entry he with ⟨rfl, rfl⟩ | he
                  · exact ⟨⟨q, rfl, hdecided⟩, u.ticks, Nat.lt_succ_self _, rfl⟩
                  · exact (hmoved.entries j e he).mono List.prefix_rfl (Nat.le_succ _)

end

/-- The memo at a reading of the clock. -/
theorem consult_run (key : Str) (s : Impl) : consult env key s =
    (.ok (s.memo.get key (env.clock s.ticks)).1,
      { s with ticks := s.ticks + 1, memo := (s.memo.get key (env.clock s.ticks)).2 }) := rfl

theorem consult_known (key : Str) {s : Impl} (hs : Known env s) : Known env (consult env key s).2 :=
  Known.touch (.consult _ key (env.clock s.ticks)) (Known.touch (.tick s) hs)

section

variable {action resourceId : Str} {scope subjectId : Option Str} {s : Impl} (hs : Known env s)
include hs

/-- What `check_access` returns rests on an answer, or it is the decision that allows nothing. -/
theorem checkAccess_rests {t : Impl} {d : AccessDecision}
    (h : checkAccess env action resourceId scope subjectId s = (.ok d, t)) :
    d = {} ∨ Rests env s t ⟨subjectId, resourceId, action, scope, s.actingTenantId⟩ d := by
  let q : Question := ⟨subjectId, resourceId, action, scope, s.actingTenantId⟩
  unfold checkAccess at h
  obtain ⟨_, s', hopen, h⟩ := bind_eq_ok.mp h
  obtain rfl : s = s' := by
    have hkept := ensureOpen_keeps (f := id) s
    rw [hopen] at hkept
    exact hkept.symm
  rw [bind_run, read_run] at h
  simp only at h
  split at h
  · rw [bind_run, consult_run] at h
    simp only at h
    cases hhit : (s.memo.get (DecisionMemo.key subjectId resourceId action scope s.actingTenantId)
        (env.clock s.ticks)).1 with
    | some decision =>
        -- served from the memo
        rw [hhit] at h
        cases h
        obtain ⟨e, hentry, rfl, hfresh⟩ := get_hit hhit
        obtain ⟨⟨q', hkey, hdecided⟩, n, hn, hclock⟩ := hs.entries _ e hentry
        refine .inr (.inr ⟨q', hkey, hdecided, n, hn, ?_⟩)
        have httl := hs.ttl
        unfold kMemoMaxTtl at httl
        rw [hclock]
        omega
    | none =>
        rw [hhit] at h
        simp only at h
        rcases askDecision_eq_ok (q := q) (by rfl) h with hnone | hasked
        · exact .inl hnone
        · exact .inr (.inl hasked)
  · rcases askDecision_eq_ok (q := q) (by rfl) h with hnone | hasked
    · exact .inl hnone
    · exact .inr (.inl hasked)

/-- And what it memoizes is known. -/
theorem checkAccess_known :
    Known env (checkAccess env action resourceId scope subjectId s).2 := by
  let q : Question := ⟨subjectId, resourceId, action, scope, s.actingTenantId⟩
  unfold checkAccess
  rw [bind_run]
  have hkept := ensureOpen_keeps (f := id) s
  rcases hopen : ensureOpen s with ⟨e | _, s'⟩
  · rw [hopen] at hkept
    obtain rfl : s' = s := hkept
    exact hs
  rw [hopen] at hkept
  obtain rfl : s' = s := hkept
  simp only
  rw [bind_run, read_run]
  simp only
  split
  · have hconsulted := consult_known (DecisionMemo.key subjectId resourceId action scope
      s'.actingTenantId) hs
    rw [bind_run, consult_run]
    rw [consult_run] at hconsulted
    simp only
    cases (s'.memo.get (DecisionMemo.key subjectId resourceId action scope s'.actingTenantId)
        (env.clock s'.ticks)).1 with
    | some decision => exact hconsulted
    | none => exact askDecision_known (q := q) rfl hconsulted fun k hk => (Option.some.inj hk).symm
  · exact askDecision_known (q := q) rfl hs fun k hk => absurd hk (Option.not_mem_none k)

end

/-- Every operation leaves the memo known. -/
theorem step_known {s t : Impl} {e : Event} (hs : Known env s) (hstep : Step env s e t) :
    Known env t := by
  have hkept : Known env (e.op.perform env s).2 := by
    by_cases hcheck : ∃ a r c u, e.op = .checkAccess a r c u
    · obtain ⟨a, r, c, u, hop⟩ := hcheck
      rw [hop]
      show Known env (replying _ (checkAccess env a r c u) s).2
      rw [replying_state]
      exact checkAccess_known hs
    · have hmoves := Op.perform_moves env e.op fun a r c u hop => hcheck ⟨a, r, c, u, hop⟩
      exact hmoves.keep (fun _ _ htouch hknown => Known.touch htouch hknown) hs
  have hrun : e.op.perform env s = (e.outcome, t) := hstep
  rwa [hrun] at hkept

/-- After any run of a client, the memo is known. -/
theorem run_known {actingTenantId : Option Str} {memoTtl : Int}
    {trace : List (Transition Impl Event)} {last : Impl}
    (hrun : Run (Step env) (Impl.built actingTenantId memoTtl) trace last) : Known env last := by
  have hstart : Known env (Impl.built actingTenantId memoTtl) := ⟨nofun, build_ttl_le memoTtl⟩
  exact (hrun.invariant (fun s e t hs hstep => step_known hs hstep) hstart).1

end

end Axiam.Client
