import Axiam.Client.Account
import Axiam.Client.Operations
import Axiam.Lib.Run

/-!
# The requests of a client

What every request has of the state it was built in.  Nothing a client does writes the acting
tenant or the device token between the first request of an action and its last, so each of them
says the same of both.
-/

namespace Axiam.Client

open Axiam.Lib Axiam.Lib.Prog

/-! ## Everything a client does -/

/-- The operations of a client that build a request, and the others beside them. -/
inductive Action where
  | op (o : Op)
  | mfaEnroll
  | mfaConfirm (totpCode : Str)
  | mfaSetupEnroll (setupToken : Str)
  | webauthnRegisterStart
  | webauthnRegisterFinish (stateToken credentialName response : Str)
  | webauthnAuthenticateStart (challengeToken : Str)
  | webauthnDiscoverableStart (workspace : WebauthnWorkspace)
  | webauthnSetupRegisterStart (setupToken : Str)
  | opaqueEnrollment (password : Str)
  | opaqueEnrollmentForSelf (password : Str)
  /-- Password resets and the UMA configuration: a request, and its status. -/
  | request (method path body : Str)

/-- A program of which only the state is looked at. -/
def silently {α : Type} (m : Prog Impl Exc α) : Prog Impl Exc Unit := do
  let _ ← m
  pure ()

section

variable (env : Env) (exchange : RegistrationExchange)

def Action.perform : Action → Prog Impl Exc Unit
  | .op o => silently (o.perform env)
  | .mfaEnroll => silently (Client.mfaEnroll env)
  | .mfaConfirm c => silently (Client.mfaConfirm env c)
  | .mfaSetupEnroll t => silently (Client.mfaSetupEnroll env t)
  | .webauthnRegisterStart => silently (Client.webauthnRegisterStart env)
  | .webauthnRegisterFinish s n r => silently (Client.webauthnRegisterFinish env s n r)
  | .webauthnAuthenticateStart c => silently (Client.webauthnAuthenticateStart env c)
  | .webauthnDiscoverableStart w => silently (Client.webauthnDiscoverableStart env w)
  | .webauthnSetupRegisterStart t => silently (Client.webauthnSetupRegisterStart env t)
  | .opaqueEnrollment p => silently (Client.opaqueEnrollment env exchange p)
  | .opaqueEnrollmentForSelf p => silently (Client.opaqueEnrollmentForSelf env exchange p)
  | .request m p b => silently (do ensureOpen; let resp ← sendBuilt env m p b; orRaise env resp)

/-- One action of a client. -/
def Acts (s : Impl) (a : Action) (t : Impl) : Prop := (a.perform env exchange s).2 = t

end

/-- The request does not start from `build_request`, or is changed after it. -/
def Action.alters : Action → Bool
  | .webauthnRegisterStart | .webauthnAuthenticateStart _ | .webauthnDiscoverableStart _
  | .webauthnSetupRegisterStart _ | .op (.webauthnSetupRegisterFinish _ _ _ _)
  | .op .authenticateDevice | .op (.exchange _) => true
  | _ => false

/-! ## What is sent -/

/-- What `p` sends stands in `Q` to what `f` read of the state it started in. -/
def Sends {α τ : Type} (f : Impl → τ) (Q : τ → HttpRequest → Prop) (p : Prog Impl Exc α) : Prop :=
  ∀ s, ∃ new, (p s).2.sent = s.sent ++ new ∧ ∀ req ∈ new, Q (f s) req

/-- And `p` leaves that alone. -/
structure Asks {α τ : Type} (f : Impl → τ) (Q : τ → HttpRequest → Prop) (p : Prog Impl Exc α) :
    Prop where
  sends : Sends f Q p
  keeps : Keeps f p

section

variable {α β τ : Type} {f : Impl → τ} {Q : τ → HttpRequest → Prop} {p : Prog Impl Exc α}
  {k : α → Prog Impl Exc β}

namespace Sends

theorem silent (h : Keeps Impl.sent p) : Sends f Q p := fun s =>
  ⟨[], by rw [h s, List.append_nil], fun _ hreq => (List.not_mem_nil hreq).elim⟩

/-- What follows is sent with the same token. -/
theorem after (hp : Asks f Q p) (hk : ∀ a, Sends f Q (k a)) : Sends f Q (p >>= k) := by
  intro s
  obtain ⟨new, hsent, hnew⟩ := hp.sends s
  have htoken := hp.keeps s
  rw [bind_run]
  rcases hrun : p s with ⟨e | a, t⟩ <;> rw [hrun] at hsent htoken
  · exact ⟨new, hsent, hnew⟩
  · obtain ⟨new', hsent', hnew'⟩ := hk a t
    refine ⟨new ++ new', by rw [hsent', hsent, List.append_assoc], fun req hreq => ?_⟩
    rcases List.mem_append.mp hreq with hreq | hreq
    · exact hnew req hreq
    · rw [show f t = f s from htoken] at hnew'
      exact hnew' req hreq

/-- What follows sends nothing. -/
theorem last (hp : Sends f Q p) (hk : ∀ a, Keeps Impl.sent (k a)) : Sends f Q (p >>= k) := by
  intro s
  obtain ⟨new, hsent, hnew⟩ := hp s
  refine ⟨new, ?_, hnew⟩
  rw [← hsent, bind_run]
  rcases p s with ⟨e | a, t⟩
  · rfl
  · exact hk a t

theorem ite {c : Prop} [Decidable c] {q : Prog Impl Exc α} (hp : Sends f Q p) (hq : Sends f Q q) :
    Sends f Q (if c then p else q) := by
  by_cases hc : c
  · rw [if_pos hc]
    exact hp
  · rw [if_neg hc]
    exact hq

end Sends

namespace Asks

theorem silent (hsent : Keeps Impl.sent p) (htoken : Keeps f p) : Asks f Q p :=
  ⟨.silent hsent, htoken⟩

theorem ret (a : α) : Asks f Q (pure a) := silent (Keeps.ret a) (Keeps.ret a)

theorem raise (e : Exc) : Asks f Q (throw e : Prog Impl Exc α) := silent (Keeps.raise e) (Keeps.raise e)

theorem lift (x : Except Exc α) : Asks f Q (Prog.lift x) := silent (Keeps.lift x) (Keeps.lift x)

theorem modify {g : Impl → Impl} (hsent : ∀ s, (g s).sent = s.sent)
    (htoken : ∀ s, f (g s) = f s) : Asks f Q (Prog.modify g) :=
  silent (Keeps.modify hsent) (Keeps.modify htoken)

theorem bind (hp : Asks f Q p) (hk : ∀ a, Asks f Q (k a)) : Asks f Q (p >>= k) :=
  ⟨.after hp fun a => (hk a).sends, Keeps.bind hp.keeps fun a => (hk a).keeps⟩

theorem ite {c : Prop} [Decidable c] {q : Prog Impl Exc α} (hp : Asks f Q p) (hq : Asks f Q q) :
    Asks f Q (if c then p else q) := ⟨.ite hp.sends hq.sends, Keeps.ite hp.keeps hq.keeps⟩

theorem tryCatch {h : Exc → Prog Impl Exc α} (hp : Asks f Q p) (hh : ∀ e, Asks f Q (h e)) :
    Asks f Q (tryCatch p h) := by
  refine ⟨fun s => ?_, Keeps.tryCatch hp.keeps fun e => (hh e).keeps⟩
  obtain ⟨new, hsent, hnew⟩ := hp.sends s
  have htoken := hp.keeps s
  rw [tryCatch_run]
  rcases hrun : p s with ⟨e | a, t⟩ <;> rw [hrun] at hsent htoken
  · obtain ⟨new', hsent', hnew'⟩ := (hh e).sends t
    refine ⟨new ++ new', by rw [hsent', hsent, List.append_assoc], fun req hreq => ?_⟩
    rcases List.mem_append.mp hreq with hreq | hreq
    · exact hnew req hreq
    · rw [show f t = f s from htoken] at hnew'
      exact hnew' req hreq
  · exact ⟨new, hsent, hnew⟩

end Asks

end

section

variable (env : Env)

/-- The one place a request goes out. -/
theorem sendRaw_sent (req : HttpRequest) (s : Impl) : (sendRaw env req s).2.sent = s.sent ++ [req] := by
  have hcapture : ∀ (t : Impl) resp, (t.capture resp).sent = t.sent := by
    intro t resp
    unfold Impl.capture
    split
    · split <;> rfl
    · rfl
  unfold sendRaw
  rcases hanswer : env.transport s.sent req with e | resp
  · rw [bind_run_error (transport_run hanswer)]
  · rw [bind_run_ok (transport_run hanswer)]
    unfold delivered
    split
    · exact hcapture _ resp
    · rfl

/-- The write that ends a login sends nothing. -/
theorem adopted_sent {α : Type} {g : Impl → Impl} (h : ∀ s, (g s).sent = s.sent) (a : α) :
    Keeps Impl.sent (Prog.modify g >>= fun _ => pure a : Prog Impl Exc α) :=
  Keeps.bind (Keeps.modify h) fun _ => Keeps.ret a

theorem adoptUser_sent (s : Impl) (user : Option UserInfo) : (s.adoptUser user).sent = s.sent := by
  cases user <;> rfl

theorem adoptOrg_sent (s : Impl) (org : Option Str) : (s.adoptOrg org).sent = s.sent := by
  cases org <;> rfl

theorem adoptLogin_sent (resp : HttpResponse) (result : LoginResult) :
    Keeps Impl.sent (adoptLogin env resp result) := by
  refine Keeps.ite (adopted_sent (fun s => ?_) _) (Keeps.ret _)
  rw [adoptOrg_sent, adoptUser_sent]

theorem close_sent : Keeps Impl.sent close :=
  Keeps.bind Keeps.read fun _ => Keeps.ite (Keeps.ret _) (Keeps.modify fun _ => rfl)

theorem actingTenant_sent (tenantId : Str) : Keeps Impl.sent (actingTenant tenantId) :=
  Keeps.bind (ensureOpen_keeps) fun _ => Keeps.ite (Keeps.raise _) (Keeps.bind Keeps.read fun _ =>
    Keeps.bind (Keeps.lift _) fun _ => Keeps.modify fun _ => rfl)

variable {τ : Type} {f : Impl → τ} {Q : τ → HttpRequest → Prop}

/-- A request built from the state it is sent in. -/
theorem asks_built (hf : Untouched f) {g : Impl → HttpRequest} (hg : ∀ s, Q (f s) (g s)) :
    Asks f Q (Prog.read >>= fun s => sendRaw env (g s)) := by
  refine ⟨fun s => ⟨[g s], sendRaw_sent env (g s) s, ?_⟩, ?_⟩
  · intro req hreq
    rw [List.mem_singleton.mp hreq]
    exact hg s
  · exact Keeps.bind Keeps.read fun s => sendRaw_keeps env hf _

/-- And what is made of its answer sends no other. -/
theorem sends_built {α : Type} (hf : Untouched f) {g : Impl → HttpRequest}
    (hg : ∀ s, Q (f s) (g s)) {k : HttpResponse → Prog Impl Exc α}
    (hk : ∀ resp, Keeps Impl.sent (k resp)) :
    Sends f Q (Prog.read >>= fun s => sendRaw env (g s) >>= k) := fun s =>
  Sends.last (asks_built env hf hg).sends hk s

theorem orRaise_asks (resp : HttpResponse) : Asks f Q (orRaise env resp) :=
  .ite (.ret _) (.raise _)

theorem ensureOpen_asks : Asks f Q ensureOpen :=
  .silent (Keeps.bind Keeps.read fun _ => Keeps.ite (Keeps.raise _) (Keeps.ret _))
    ensureOpen_keeps

theorem read_asks {α : Type} {k : Impl → Prog Impl Exc α} (hk : ∀ s, Asks f Q (k s)) :
    Asks f Q (Prog.read >>= k) := .bind (.silent Keeps.read Keeps.read) hk

theorem keepNetworkError_asks {m : Prog Impl Exc HttpResponse} (h : Asks f Q m) :
    Asks f Q (keepNetworkError m) :=
  .tryCatch (.bind h fun _ => .ret _) fun _ => .ite (.ret _) (.raise _)

theorem requireSession_asks (operation : Str) : Asks f Q (requireSession operation) :=
  read_asks fun _ => .ite (.ret _) (.raise _)

/-- What `build_request` makes of a state, sent once or more. -/
structure Builds (f : Impl → τ) (Q : τ → HttpRequest → Prop) : Prop where
  untouched : Untouched f
  built : ∀ s method path body, Q (f s) (buildRequest env s method path body)
  replayable : ∀ s method path body,
    Q (f s) { buildRequest env s method path body with replayable := true }

variable (h : Builds env f Q)
include h

theorem sendBuilt_asks (method path body : Str) : Asks f Q (sendBuilt env method path body) :=
  asks_built env h.untouched fun s => h.built s method path body

theorem clearMemo_asks : Asks f Q clearMemo :=
  .modify (fun _ => rfl) fun s => h.untouched.memo s _

theorem performRefresh_asks : Asks f Q (performRefresh env) := by
  refine .bind (.modify (fun _ => rfl) fun s => h.untouched.refreshCount s _) fun _ => read_asks fun s => ?_
  refine .bind (.lift _) fun body => .bind (sendBuilt_asks env h _ _ _) fun resp => ?_
  exact .ite (.ret _) (.raise _)

theorem doSingleFlightRefresh_asks : Asks f Q (doSingleFlightRefresh env) :=
  .bind (performRefresh_asks env h) fun _ => .bind (clearMemo_asks env h) fun _ => .ret _

theorem refreshAndRetry_asks (method path body : Str) :
    Asks f Q (refreshAndRetry env method path body) :=
  .bind (doSingleFlightRefresh_asks env h) fun _ => .bind (sendBuilt_asks env h _ _ _) fun resp =>
    orRaise_asks env resp

theorem execute_asks (method path body : Str) (allowRefresh : Bool) :
    Asks f Q (execute env method path body allowRefresh) := by
  refine .bind (sendBuilt_asks env h _ _ _) fun resp => .ite (.ret _) (read_asks fun s => ?_)
  exact .ite (refreshAndRetry_asks env h _ _ _) (.raise _)

theorem executeRetrying_asks (path body : Str) (retries : Nat) :
    Asks f Q (executeRetrying env path body retries) := by
  have hattempt : Asks f Q (attempt env "POST" path body) :=
    keepNetworkError_asks (asks_built env h.untouched fun s => h.replayable s _ path body)
  have hsettle : ∀ outcome, Asks f Q (executeRetrying.settle env path body outcome) := by
    intro outcome
    unfold executeRetrying.settle
    split
    · exact .raise _
    · exact .ite (.ret _) (read_asks fun s => .ite (refreshAndRetry_asks env h _ _ _) (.raise _))
  induction retries with
  | zero => exact .bind hattempt hsettle
  | succ retries ih => exact .bind hattempt fun outcome => .ite ih (hsettle outcome)

theorem sendAttempts_asks (operation method path payload : Str) (retries : Nat) :
    Asks f Q (Management.sendAttempts env operation method path payload retries) := by
  have hattempt := keepNetworkError_asks (sendBuilt_asks env h method path payload)
  induction retries with
  | zero => exact .bind hattempt fun _ => .lift _
  | succ retries ih => exact .bind hattempt fun _ => .ite ih (.lift _)

theorem post_asks (path body : Str) : Asks f Q (post env path body) :=
  .bind (sendBuilt_asks env h _ _ _) fun resp => orRaise_asks env resp

/-! ### Signing in -/

theorem login_sends (u p : Str) : Sends f Q (login env u p) := by
  refine .after ensureOpen_asks fun _ => .after (clearMemo_asks env h) fun _ => ?_
  refine .after (.lift _) fun body => .last (sendBuilt_asks env h _ _ _).sends fun resp => ?_
  exact Keeps.bind (Keeps.lift _) fun result => adoptLogin_sent env resp result

theorem finishOpaque_sends (started : OpaqueLoginStart) (ke3 : Str) :
    Sends f Q (finishOpaque env started ke3) := by
  refine .after (.lift _) fun body => .last (execute_asks env h _ _ _ _).sends fun resp => ?_
  exact Keeps.bind (Keeps.lift _) fun result => adoptLogin_sent env resp result

theorem openKe2_sends (u p : Str) (started : OpaqueLoginStart) :
    Sends f Q (openKe2 env u p started) := by
  refine .after (.silent Keeps.read Keeps.read) fun s => ?_
  split
  · exact finishOpaque_sends env h started _
  · exact .ite (login_sends env h u p) (.silent (Keeps.raise _))

theorem loginOpaque_sends (u p : Str) : Sends f Q (loginOpaque env u p) := by
  refine .after ensureOpen_asks fun _ => .after (clearMemo_asks env h) fun _ => ?_
  refine .after (.silent Keeps.read Keeps.read) fun s => .after (.lift _) fun ke1 => ?_
  refine .after (.lift _) fun body => .after (sendBuilt_asks env h _ _ _) fun resp => ?_
  exact .after (.lift _) fun j => .ite (.silent (Keeps.raise _)) (openKe2_sends env h u p _)

theorem verifyMfa_sends (c t : Str) : Sends f Q (verifyMfa env c t) := by
  refine .after ensureOpen_asks fun _ => .after (clearMemo_asks env h) fun _ => ?_
  refine .after (.lift _) fun body => .last (execute_asks env h _ _ _ _).sends fun resp => ?_
  refine Keeps.bind (Keeps.lift _) fun result => adopted_sent (fun s => ?_) _
  rw [adoptOrg_sent, adoptUser_sent]

theorem finishLogin_sends (path s r operation : Str) :
    Sends f Q (finishLogin env path s r operation) := by
  refine .after ensureOpen_asks fun _ => .after (.lift _) fun body => ?_
  refine .after (clearMemo_asks env h) fun _ => .last (post_asks env h _ _).sends fun resp => ?_
  exact Keeps.bind (Keeps.lift _) fun result =>
    adopted_sent (g := Impl.adoptPasskey) (fun _ => rfl) result

theorem completeFederation_sends (path context : Str) (request : Json) :
    Sends f Q (completeFederation env path context request) := by
  refine .after ensureOpen_asks fun _ => .after (clearMemo_asks env h) fun _ => ?_
  refine .after (.lift _) fun body => .last (execute_asks env h _ _ _ _).sends fun resp => ?_
  exact Keeps.bind (Keeps.lift _) fun result =>
    adopted_sent (g := Impl.adoptFederation) (fun _ => rfl) result

/-! ### Signing out, and asking -/

theorem logout_sends : Sends f Q (logout env) := by
  refine .after ensureOpen_asks fun _ => .after (clearMemo_asks env h) fun _ => ?_
  refine .last (Asks.tryCatch ?_ fun e => .ite (.ret _) (.raise _)).sends fun _ =>
    Keeps.modify fun _ => rfl
  exact .bind (execute_asks env h _ _ _ _) fun _ => .ret _

theorem now_asks : Asks f Q (now env) := .silent (fun _ => rfl) fun s => h.untouched.ticks s _

theorem remember_asks (key : Option Str) (decision : AccessDecision) :
    Asks f Q (remember env key decision) := by
  cases key with
  | none => exact .ret _
  | some key => exact .bind (now_asks env h) fun _ => .modify (fun _ => rfl) fun s => h.untouched.memo s _

theorem askDecision_asks (body : Json) (key : Option Str) :
    Asks f Q (askDecision env body key) := by
  refine .bind (.lift _) fun _ => .bind (executeRetrying_asks env h _ _ _) fun resp => ?_
  cases env.parse resp.body with
  | none => exact .ret _
  | some j =>
      exact .bind (.lift _) fun decision => .bind (remember_asks env h key decision) fun _ => .ret _

theorem checkAccess_asks (action resourceId : Str) (scope subjectId : Option Str) :
    Asks f Q (checkAccess env action resourceId scope subjectId) := by
  refine .bind ensureOpen_asks fun _ => read_asks fun s => .ite ?_ (askDecision_asks env h _ _)
  refine .bind (.bind (now_asks env h) fun _ => read_asks fun s =>
    .bind (.modify (fun _ => rfl) fun s => h.untouched.memo s _) fun _ => .ret _) fun cached => ?_
  cases cached with
  | none => exact askDecision_asks env h _ _
  | some decision => exact .ret _

theorem batchCheck_asks (checks : List AccessCheck) : Asks f Q (batchCheck env checks) :=
  .bind ensureOpen_asks fun _ => .bind (.lift _) fun _ =>
    .bind (executeRetrying_asks env h _ _ _) fun _ => .lift _

theorem manage_asks (operation method template : Str) (values : List (Str × Str))
    (query : List (Str × Option Str)) (body : Option Json) :
    Asks f Q (Management.send env operation method template values query body) :=
  .bind ensureOpen_asks fun _ =>
    .bind (read_asks fun _ => .ite (.ret _) (.raise _)) fun _ =>
      .bind (.lift _) fun _ => sendAttempts_asks env h _ _ _ _ _

/-! ### The account -/

theorem mfaEnroll_asks : Asks f Q (mfaEnroll env) :=
  .bind ensureOpen_asks fun _ => .bind (post_asks env h _ _) fun _ => .lift _

theorem mfaConfirm_asks (c : Str) : Asks f Q (mfaConfirm env c) :=
  .bind ensureOpen_asks fun _ => .bind (.lift _) fun _ => .bind (post_asks env h _ _) fun _ => .lift _

theorem webauthnRegisterFinish_asks (s n r : Str) :
    Asks f Q (webauthnRegisterFinish env s n r) := by
  refine .bind ensureOpen_asks fun _ => .bind (requireSession_asks _) fun _ => ?_
  exact .ite (.raise _) (.bind (.lift _) fun _ => .bind (sendBuilt_asks env h _ _ _) fun _ => .lift _)

variable (exchange : RegistrationExchange)

theorem enroll_asks (password : Str) (principal : Option Str) :
    Asks f Q (enroll env exchange password principal) := by
  refine .bind ensureOpen_asks fun _ => read_asks fun _ => .bind (.lift _) fun _ => ?_
  refine .bind (.lift _) fun _ => .bind (sendBuilt_asks env h _ _ _) fun _ => .bind (.lift _) fun j => ?_
  exact .ite (.raise _) (read_asks fun _ => .bind (.lift _) fun _ => .ret _)

theorem opaqueEnrollmentForSelf_asks (password : Str) :
    Asks f Q (opaqueEnrollmentForSelf env exchange password) := by
  refine read_asks fun s => ?_
  cases s.principalTenantId with
  | none => exact .raise _
  | some tenant => exact enroll_asks env h exchange password _

theorem mfaSetupEnroll_asks (t : Str) : Asks f Q (mfaSetupEnroll env t) :=
  .bind ensureOpen_asks fun _ => .bind (.lift _) fun _ => .bind (post_asks env h _ _) fun _ => .lift _

theorem mfaSetupConfirm_sends (t c : Str) : Sends f Q (mfaSetupConfirm env t c) := by
  refine .after ensureOpen_asks fun _ => .after (clearMemo_asks env h) fun _ => ?_
  refine .after (.lift _) fun body => .last (post_asks env h _ _).sends fun resp => ?_
  exact Keeps.bind (Keeps.lift _) fun result =>
    adopted_sent (g := fun s => s.adoptUser result.user) (fun s => adoptUser_sent s _) result

/-- The actions that leave their requests as `build_request` made them. -/
theorem Action.perform_sends {a : Action} (ha : a.alters = false) :
    Sends f Q (a.perform env exchange) := by
  have hsilently {α : Type} {m : Prog Impl Exc α} (hm : Sends f Q m) : Sends f Q (silently m) :=
    .last hm fun _ => Keeps.ret _
  have hreplying {α : Type} {m : Prog Impl Exc α} {wrap : α → Reply} (hm : Sends f Q m) :
      Sends f Q (silently (replying wrap m)) := hsilently (.last hm fun _ => Keeps.ret _)
  cases a with
  | op o =>
      cases o with
      | login u p => exact hreplying (login_sends env h u p)
      | loginOpaque u p => exact hreplying (loginOpaque_sends env h u p)
      | verifyMfa c t => exact hreplying (verifyMfa_sends env h c t)
      | webauthnAuthenticateFinish s r | webauthnDiscoverableFinish s r =>
          exact hreplying (finishLogin_sends env h _ s r _)
      | ssoComplete _ _ | ssoCompleteOauth2 _ _ | ssoCompleteHandoff _ =>
          exact hreplying (completeFederation_sends env h _ _ _)
      | refresh =>
          exact hreplying (Asks.bind ensureOpen_asks fun _ => doSingleFlightRefresh_asks env h).sends
      | logout => exact hreplying (logout_sends env h)
      | close => exact hreplying (.silent close_sent)
      | actingTenant t => exact hreplying (.silent (actingTenant_sent t))
      | clearActingTenant =>
          exact hreplying (.silent (Keeps.bind ensureOpen_keeps fun _ => Keeps.modify fun _ => rfl))
      | checkAccess a r s u => exact hreplying (checkAccess_asks env h a r s u).sends
      | batchCheck cs => exact hreplying (batchCheck_asks env h cs).sends
      | manage o m t vs q b => exact hreplying (manage_asks env h o m t vs q b).sends
      | call m p b r =>
          exact hreplying (Asks.bind ensureOpen_asks fun _ => execute_asks env h m p b r).sends
      | webauthnSetupRegisterFinish _ _ _ _ | authenticateDevice | exchange _ => cases ha
      | mfaSetupConfirm t c => exact hreplying (mfaSetupConfirm_sends env h t c)
  | mfaEnroll => exact hsilently (mfaEnroll_asks env h).sends
  | mfaConfirm c => exact hsilently (mfaConfirm_asks env h c).sends
  | webauthnRegisterFinish s n r => exact hsilently (webauthnRegisterFinish_asks env h s n r).sends
  | opaqueEnrollment p => exact hsilently (enroll_asks env h exchange p none).sends
  | opaqueEnrollmentForSelf p => exact hsilently (opaqueEnrollmentForSelf_asks env h exchange p).sends
  | request m p b =>
      exact hsilently (Asks.bind ensureOpen_asks fun _ => .bind (sendBuilt_asks env h m p b) fun resp =>
        orRaise_asks env resp).sends
  | mfaSetupEnroll t => exact hsilently (mfaSetupEnroll_asks env h t).sends
  | _ => cases ha

end

section

variable (env : Env) (exchange : RegistrationExchange) {τ : Type} {f : Impl → τ} (hf : Untouched f)
include hf

theorem Untouched.builds : Builds env f fun _ _ => True where
  untouched := hf
  built _ _ _ _ := trivial
  replayable _ _ _ _ := trivial

theorem startCeremony_keeps (path body : Str) (noStoredCookies : Bool) :
    Keeps f (startCeremony env path body noStoredCookies) :=
  Keeps.bind Keeps.read fun _ => Keeps.bind (sendRaw_keeps env hf _) fun _ =>
    Keeps.bind (orRaise_keeps env _) fun _ => Keeps.lift _

/-- Beside the operations, a client does nothing to its state but send. -/
theorem Action.perform_keeps {a : Action} (ha : ∀ o, a ≠ .op o) :
    Keeps f (a.perform env exchange) := by
  have hbuilds := hf.builds env
  have hsilently {α : Type} {m : Prog Impl Exc α} (hm : Keeps f m) : Keeps f (silently m) :=
    Keeps.bind hm fun _ => Keeps.ret _
  have hstart (path body : Str) (flag : Bool) := startCeremony_keeps env hf path body flag
  cases a with
  | op o => exact absurd rfl (ha o)
  | mfaEnroll => exact hsilently (mfaEnroll_asks env hbuilds).keeps
  | mfaConfirm c => exact hsilently (mfaConfirm_asks env hbuilds c).keeps
  | mfaSetupEnroll t => exact hsilently (mfaSetupEnroll_asks env hbuilds t).keeps
  | webauthnRegisterStart =>
      apply hsilently
      refine Keeps.bind ensureOpen_keeps fun _ => Keeps.bind ?_ fun _ => hstart _ _ _
      exact Keeps.bind Keeps.read fun _ => Keeps.ite (Keeps.ret _) (Keeps.raise _)
  | webauthnRegisterFinish s n r =>
      exact hsilently (webauthnRegisterFinish_asks env hbuilds s n r).keeps
  | webauthnAuthenticateStart c =>
      apply hsilently
      refine Keeps.bind ensureOpen_keeps fun _ => Keeps.ite (Keeps.raise _) ?_
      exact Keeps.bind (Keeps.lift _) fun _ => hstart _ _ _
  | webauthnDiscoverableStart w =>
      apply hsilently
      refine Keeps.bind ensureOpen_keeps fun _ => Keeps.bind (Keeps.lift _) fun _ => ?_
      exact Keeps.bind (Keeps.lift _) fun _ => hstart _ _ _
  | webauthnSetupRegisterStart t =>
      apply hsilently
      exact Keeps.bind ensureOpen_keeps fun _ => Keeps.bind (Keeps.lift _) fun _ => hstart _ _ _
  | opaqueEnrollment p => exact hsilently (enroll_asks env hbuilds exchange p none).keeps
  | opaqueEnrollmentForSelf p =>
      exact hsilently (opaqueEnrollmentForSelf_asks env hbuilds exchange p).keeps
  | request m p b =>
      apply hsilently
      refine Keeps.bind ensureOpen_keeps fun _ => ?_
      exact Keeps.bind (sendBuilt_keeps env hf m p b) fun _ => orRaise_keeps env _

end

end Axiam.Client
