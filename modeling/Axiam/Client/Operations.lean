import Axiam.Client.Access
import Axiam.Client.Login
import Axiam.Management.Send

/-!
# The operations of a client

One type for what a caller can ask of a client, one step for each, and what all of them
share: on a closed client they are refused, and none but `close` closes it.
-/

namespace Axiam.Client

open Axiam.Lib Axiam.Lib.Prog

/-! ## Operations -/

/-- The operations of a client.  Those that neither complete nor end a session are the
decisions, the management calls and, for the rest, a request (`call`, `exchange`). -/
inductive Op where
  | login (usernameOrEmail password : Str)
  | loginOpaque (usernameOrEmail password : Str)
  | verifyMfa (challengeToken totpCode : Str)
  | mfaSetupConfirm (setupToken totpCode : Str)
  | webauthnAuthenticateFinish (stateToken response : Str)
  | webauthnDiscoverableFinish (stateToken response : Str)
  | webauthnSetupRegisterFinish (setupToken stateToken credentialName response : Str)
  | ssoComplete (code state : Str)
  | ssoCompleteOauth2 (code state : Str)
  | ssoCompleteHandoff (code : Str)
  | authenticateDevice
  | refresh
  | logout
  | close
  | actingTenant (tenantId : Str)
  | clearActingTenant
  | checkAccess (action resourceId : Str) (scope subjectId : Option Str)
  | batchCheck (checks : List AccessCheck)
  | manage (operation method template : Str) (values : List (Str × Str))
      (query : List (Str × Option Str)) (body : Option Json)
  | call (method path body : Str) (allowRefresh : Bool)
  | exchange (request : HttpRequest)

/-- What an operation returned. -/
inductive Reply where
  | login (result : LoginResult)
  | passkey (result : WebauthnLoginResult)
  | federation (result : SsoCompleteResult)
  | device (result : DeviceAuth)
  | tokens (expiresIn : Int)
  | decisions (results : List AccessDecision)
  | json (value : Json)
  | response (resp : HttpResponse)
  | done

/-- A program with its result as a reply. -/
def replying {α : Type} (wrap : α → Reply) (m : Prog Impl Exc α) : Prog Impl Exc Reply := do
  let a ← m
  pure (wrap a)

/-- The operation as the client performs it. -/
def Op.perform (env : Env) : Op → Prog Impl Exc Reply
  | .login u p => replying .login (Client.login env u p)
  | .loginOpaque u p => replying .login (Client.loginOpaque env u p)
  | .verifyMfa c t => replying .login (Client.verifyMfa env c t)
  | .mfaSetupConfirm s t => replying .login (Client.mfaSetupConfirm env s t)
  | .webauthnAuthenticateFinish s r =>
      replying .passkey (Client.webauthnAuthenticateFinish env s r)
  | .webauthnDiscoverableFinish s r =>
      replying .passkey (Client.webauthnDiscoverableFinish env s r)
  | .webauthnSetupRegisterFinish a b c d =>
      replying .login (Client.webauthnSetupRegisterFinish env a b c d)
  | .ssoComplete c s => replying .federation (Client.ssoComplete env c s)
  | .ssoCompleteOauth2 c s => replying .federation (Client.ssoCompleteOauth2 env c s)
  | .ssoCompleteHandoff c => replying .federation (Client.ssoCompleteHandoff env c)
  | .authenticateDevice => replying .device (Client.authenticateDevice env)
  | .refresh => replying .tokens (Client.refresh env)
  | .logout => replying (fun _ => .done) (Client.logout env)
  | .close => replying (fun _ => .done) Client.close
  | .actingTenant t => replying (fun _ => .done) (Client.actingTenant t)
  | .clearActingTenant => replying (fun _ => .done) Client.clearActingTenant
  | .checkAccess a r s u => replying (fun d => .decisions [d]) (Client.checkAccess env a r s u)
  | .batchCheck cs => replying .decisions (Client.batchCheck env cs)
  | .manage o m t vs q b => replying .json (Management.send env o m t vs q b)
  | .call m p b r => replying .response (do ensureOpen; execute env m p b r)
  | .exchange req => replying .response (do ensureOpen; sendRaw env req)

/-- The reply of an operation that completed a session. -/
def Reply.completes : Reply → Bool
  | .login result => result.complete
  | .passkey _ | .federation _ | .device _ => true
  | _ => false

/-- The reply of an operation that opened a cookie session. -/
def Reply.opensCookieSession : Reply → Bool
  | .device _ => false
  | reply => reply.completes

/-- `logout` and `close`. -/
def Op.ends : Op → Bool
  | .logout | .close => true
  | _ => false

/-- What is visible of one operation: which, and how it came out. -/
structure Event where
  op : Op
  outcome : Except Exc Reply

/-- One operation of a client. -/
def Step (env : Env) (s : Impl) (e : Event) (t : Impl) : Prop := e.op.perform env s = (e.outcome, t)

/-- A client fresh from its builder. -/
def Impl.built (actingTenantId : Option Str) (memoTtl : Int) : Impl :=
  { actingTenantId := actingTenantId, memo := .build memoTtl }

/-! ## A closed client -/

/-- Refused on a closed client, before anything else. -/
def Guarded {α : Type} (m : Prog Impl Exc α) : Prop :=
  ∀ s, s.closed = true → m s = (.error closedError, s)

theorem ensureOpen_guarded : Guarded ensureOpen := fun _ hclosed => ensureOpen_run_closed hclosed

theorem Guarded.bind {α β : Type} {m : Prog Impl Exc α} (h : Guarded m)
    (k : α → Prog Impl Exc β) : Guarded (m >>= k) :=
  fun s hclosed => bind_run_error (h s hclosed) k

section

variable (env : Env)

/-- Every operation but `close` checks first. -/
theorem Op.perform_guarded (op : Op) (hop : op ≠ .close) : Guarded (op.perform env) := by
  have hopen {α : Type} (wrap : α → Reply) (k : Unit → Prog Impl Exc α) :
      Guarded (replying wrap (ensureOpen >>= k)) := (ensureOpen_guarded.bind k).bind _
  cases op with
  | close => exact absurd rfl hop
  | _ => exact hopen _ _

/-! ## What the operations leave alone -/

theorem session_untouched : Untouched Impl.session :=
  ⟨fun _ _ => rfl, fun _ _ => rfl, fun _ _ => rfl, fun _ _ => rfl, fun _ _ => rfl⟩

section

variable {τ : Type}

/-- A part of the state that signing in and out does not write either. -/
structure Steady (f : Impl → τ) : Prop extends Untouched f where
  user : ∀ s user, f (s.adoptUser user) = f s
  org : ∀ s org, f (s.adoptOrg org) = f s
  passkey : ∀ s, f s.adoptPasskey = f s
  federation : ∀ s, f s.adoptFederation = f s
  device : ∀ s token, f (s.adoptDevice token) = f s
  signOut : ∀ s, f s.signOut = f s

theorem closed_steady : Steady Impl.closed where
  sent _ _ := rfl
  csrf _ _ := rfl
  memo _ _ := rfl
  refreshCount _ _ := rfl
  ticks _ _ := rfl
  user _ _ := rfl
  org _ _ := rfl
  passkey _ := rfl
  federation _ := rfl
  device _ _ := rfl
  signOut _ := rfl

variable {f : Impl → τ}

theorem requestLogout_keeps (hf : Untouched f) : Keeps f (requestLogout env) :=
  Keeps.tryCatch (Keeps.bind (execute_keeps env hf _ _ _ _) fun _ => Keeps.ret _)
    fun _ => Keeps.ite (Keeps.ret _) (Keeps.raise _)

theorem post_keeps (hf : Untouched f) (path body : Str) : Keeps f (post env path body) :=
  Keeps.bind (sendBuilt_keeps env hf _ _ _) fun _ => orRaise_keeps env _

variable (hf : Steady f)
include hf

/-- The write that ends a login, and its return. -/
theorem adopted_keeps {α : Type} (user : Option UserInfo) (org : Option Str) (a : α) :
    Keeps f (Prog.modify (fun s => (s.adoptUser user).adoptOrg org) >>= fun _ => pure a :
      Prog Impl Exc α) :=
  Keeps.bind (Keeps.modify fun _ => (hf.org _ _).trans (hf.user _ _)) fun _ => Keeps.ret _

theorem adoptLogin_keeps (resp : HttpResponse) (result : LoginResult) :
    Keeps f (adoptLogin env resp result) :=
  Keeps.ite (adopted_keeps hf _ _ _) (Keeps.ret _)

theorem login_keeps (u p : Str) : Keeps f (login env u p) := by
  refine Keeps.bind ensureOpen_keeps fun _ => Keeps.bind (clearMemo_keeps hf.toUntouched) fun _ => ?_
  refine Keeps.bind (Keeps.lift _) fun _ => ?_
  refine Keeps.bind (sendBuilt_keeps env hf.toUntouched _ _ _) fun resp => ?_
  exact Keeps.bind (Keeps.lift _) fun result => adoptLogin_keeps env hf resp result

theorem finishOpaque_keeps (started : OpaqueLoginStart) (ke3 : Str) :
    Keeps f (finishOpaque env started ke3) :=
  Keeps.bind (Keeps.lift _) fun _ => Keeps.bind (execute_keeps env hf.toUntouched _ _ _ _)
    fun resp => Keeps.bind (Keeps.lift _) fun result => adoptLogin_keeps env hf resp result

theorem openKe2_keeps (u p : Str) (started : OpaqueLoginStart) :
    Keeps f (openKe2 env u p started) := by
  refine Keeps.bind Keeps.read fun s => ?_
  split
  · exact finishOpaque_keeps env hf started _
  · exact Keeps.ite (login_keeps env hf u p) (Keeps.raise _)

theorem loginOpaque_keeps (u p : Str) : Keeps f (loginOpaque env u p) := by
  refine Keeps.bind ensureOpen_keeps fun _ => Keeps.bind (clearMemo_keeps hf.toUntouched) fun _ => ?_
  refine Keeps.bind Keeps.read fun _ => Keeps.bind (Keeps.lift _) fun _ => ?_
  refine Keeps.bind (Keeps.lift _) fun _ => ?_
  refine Keeps.bind (sendBuilt_keeps env hf.toUntouched _ _ _) fun _ => ?_
  exact Keeps.bind (Keeps.lift _) fun _ => Keeps.ite (Keeps.raise _) (openKe2_keeps env hf u p _)

theorem verifyMfa_keeps (c t : Str) : Keeps f (verifyMfa env c t) := by
  refine Keeps.bind ensureOpen_keeps fun _ => Keeps.bind (clearMemo_keeps hf.toUntouched) fun _ => ?_
  refine Keeps.bind (Keeps.lift _) fun _ => ?_
  refine Keeps.bind (execute_keeps env hf.toUntouched _ _ _ _) fun _ => ?_
  exact Keeps.bind (Keeps.lift _) fun _ => adopted_keeps hf _ _ _

theorem mfaSetupConfirm_keeps (s t : Str) : Keeps f (mfaSetupConfirm env s t) := by
  refine Keeps.bind ensureOpen_keeps fun _ => Keeps.bind (clearMemo_keeps hf.toUntouched) fun _ => ?_
  refine Keeps.bind (Keeps.lift _) fun _ => Keeps.bind (post_keeps env hf.toUntouched _ _) fun _ => ?_
  refine Keeps.bind (Keeps.lift _) fun _ => ?_
  exact Keeps.bind (Keeps.modify fun _ => hf.user _ _) fun _ => Keeps.ret _

theorem finishLogin_keeps (path s r operation : Str) :
    Keeps f (finishLogin env path s r operation) := by
  refine Keeps.bind ensureOpen_keeps fun _ => Keeps.bind (Keeps.lift _) fun _ => ?_
  refine Keeps.bind (clearMemo_keeps hf.toUntouched) fun _ => ?_
  refine Keeps.bind (post_keeps env hf.toUntouched _ _) fun _ => Keeps.bind (Keeps.lift _) fun _ => ?_
  exact Keeps.bind (Keeps.modify fun _ => hf.passkey _) fun _ => Keeps.ret _

theorem webauthnSetupRegisterFinish_keeps (a b c d : Str) :
    Keeps f (webauthnSetupRegisterFinish env a b c d) := by
  refine Keeps.bind ensureOpen_keeps fun _ => Keeps.ite (Keeps.raise _) ?_
  refine Keeps.bind (clearMemo_keeps hf.toUntouched) fun _ => Keeps.bind (Keeps.lift _) fun _ => ?_
  refine Keeps.bind Keeps.read fun _ => Keeps.bind (sendRaw_keeps env hf.toUntouched _) fun _ => ?_
  refine Keeps.bind (orRaise_keeps env _) fun _ => Keeps.bind (Keeps.lift _) fun _ => ?_
  exact Keeps.bind (Keeps.modify fun _ => hf.user _ _) fun _ => Keeps.ret _

theorem completeFederation_keeps (path context : Str) (request : Json) :
    Keeps f (completeFederation env path context request) := by
  refine Keeps.bind ensureOpen_keeps fun _ => Keeps.bind (clearMemo_keeps hf.toUntouched) fun _ => ?_
  refine Keeps.bind (Keeps.lift _) fun _ => ?_
  refine Keeps.bind (execute_keeps env hf.toUntouched _ _ _ _) fun _ => ?_
  refine Keeps.bind (Keeps.lift _) fun _ => ?_
  exact Keeps.bind (Keeps.modify fun _ => hf.federation _) fun _ => Keeps.ret _

theorem authenticateDevice_keeps : Keeps f (authenticateDevice env) := by
  refine Keeps.bind ensureOpen_keeps fun _ => Keeps.ite (Keeps.raise _) ?_
  refine Keeps.bind (clearMemo_keeps hf.toUntouched) fun _ => Keeps.bind Keeps.read fun _ => ?_
  refine Keeps.bind (sendRaw_keeps env hf.toUntouched _) fun _ => ?_
  refine Keeps.bind (orRaise_keeps env _) fun _ => Keeps.bind (Keeps.lift _) fun _ => ?_
  exact Keeps.bind (Keeps.modify fun _ => hf.device _ _) fun _ => Keeps.ret _

theorem logout_keeps : Keeps f (logout env) := by
  refine Keeps.bind ensureOpen_keeps fun _ => Keeps.bind (clearMemo_keeps hf.toUntouched) fun _ => ?_
  exact Keeps.bind (requestLogout_keeps env hf.toUntouched) fun _ => Keeps.modify fun _ => hf.signOut _

/-- The operations that write nothing but what a request, a login or a logout does. -/
theorem Op.perform_keeps (op : Op) (hclose : op ≠ .close) (hset : ∀ t, op ≠ .actingTenant t)
    (hclear : op ≠ .clearActingTenant) : Keeps f (op.perform env) := by
  have hwrap {α : Type} {wrap : α → Reply} {m : Prog Impl Exc α} (hm : Keeps f m) :
      Keeps f (replying wrap m) := Keeps.bind hm fun _ => Keeps.ret _
  cases op with
  | login u p => exact hwrap (login_keeps env hf u p)
  | loginOpaque u p => exact hwrap (loginOpaque_keeps env hf u p)
  | verifyMfa c t => exact hwrap (verifyMfa_keeps env hf c t)
  | mfaSetupConfirm s t => exact hwrap (mfaSetupConfirm_keeps env hf s t)
  | webauthnAuthenticateFinish s r | webauthnDiscoverableFinish s r =>
      exact hwrap (finishLogin_keeps env hf _ s r _)
  | webauthnSetupRegisterFinish a b c d =>
      exact hwrap (webauthnSetupRegisterFinish_keeps env hf a b c d)
  | ssoComplete _ _ | ssoCompleteOauth2 _ _ | ssoCompleteHandoff _ =>
      exact hwrap (completeFederation_keeps env hf _ _ _)
  | authenticateDevice => exact hwrap (authenticateDevice_keeps env hf)
  | refresh =>
      exact hwrap (Keeps.bind ensureOpen_keeps fun _ =>
        doSingleFlightRefresh_keeps env hf.toUntouched)
  | logout => exact hwrap (logout_keeps env hf)
  | close => exact absurd rfl hclose
  | actingTenant t => exact absurd rfl (hset t)
  | clearActingTenant => exact absurd rfl hclear
  | checkAccess a r s u => exact hwrap (checkAccess_keeps env hf.toUntouched a r s u)
  | batchCheck cs => exact hwrap (batchCheck_keeps env hf.toUntouched cs)
  | manage o m t vs q b => exact hwrap (Management.send_keeps env hf.toUntouched o m t vs q b)
  | call m p b r =>
      exact hwrap (Keeps.bind ensureOpen_keeps fun _ => execute_keeps env hf.toUntouched m p b r)
  | exchange req =>
      exact hwrap (Keeps.bind ensureOpen_keeps fun _ => sendRaw_keeps env hf.toUntouched req)

end

/-- Only `close` closes a client. -/
theorem Op.perform_closed (op : Op) (hop : op ≠ .close) : Keeps Impl.closed (op.perform env) := by
  cases op with
  | close => exact absurd rfl hop
  | actingTenant t =>
      refine Keeps.bind (Keeps.bind ensureOpen_keeps fun _ => ?_) fun _ => Keeps.ret _
      refine Keeps.ite (Keeps.raise _) (Keeps.bind Keeps.read fun _ => ?_)
      exact Keeps.bind (Keeps.lift _) fun _ => Keeps.modify fun _ => rfl
  | clearActingTenant =>
      refine Keeps.bind (Keeps.bind ensureOpen_keeps fun _ => ?_) fun _ => Keeps.ret _
      exact Keeps.modify fun _ => rfl
  | _ => exact Op.perform_keeps env closed_steady _ hop (fun _ => nofun) nofun

end

end Axiam.Client
