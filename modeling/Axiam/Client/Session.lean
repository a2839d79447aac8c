import Axiam.Client.Operations
import Axiam.Lib.Run

/-!
# The session flag over whole runs

One client, any sequence of its operations, any answers.  What the flag should say after an
operation that completes a session, and after one that ends it, holds exactly on the
operations of `Meets`: a federation completion never writes `session`, `close` leaves the
device credential, and `logout` lets an exception that is no `AxiamError` through before it
clears anything.
-/

namespace Axiam.Client

open Axiam.Lib Axiam.Lib.Prog

section

variable (env : Env)

/-! ## Completing a session -/

theorem adoptLogin_flags (resp : HttpResponse) (result : LoginResult) :
    Returns (adoptLogin env resp result) fun r t => r.complete = true → t.flags = (true, false) := by
  refine Returns.ite (fun _ => Returns.write fun _ _ => rfl) fun hchallenge => ?_
  exact Returns.ret fun _ hcomplete => absurd hcomplete hchallenge

theorem login_flags (u p : Str) :
    Returns (login env u p) fun r t => r.complete = true → t.flags = (true, false) :=
  Returns.seq fun _ => Returns.seq fun _ => Returns.seq fun _ => Returns.seq fun resp =>
    Returns.seq fun result => adoptLogin_flags env resp result

theorem loginOpaque_flags (u p : Str) :
    Returns (loginOpaque env u p) fun r t => r.complete = true → t.flags = (true, false) := by
  refine Returns.seq fun _ => Returns.seq fun _ => Returns.seq fun _ => Returns.seq fun _ =>
    Returns.seq fun _ => Returns.seq fun _ => Returns.seq fun _ => ?_
  refine Returns.ite (fun _ => Returns.raise _) fun _ => Returns.seq fun _ => ?_
  -- the exchange is finished, or the tenant takes the password instead
  split
  · exact Returns.seq fun _ => Returns.seq fun resp => Returns.seq fun result =>
      adoptLogin_flags env resp result
  · exact Returns.ite (fun _ => login_flags env u p) fun _ => Returns.raise _

theorem verifyMfa_flags (c t : Str) :
    Returns (verifyMfa env c t) fun _ t => t.flags = (true, false) :=
  Returns.seq fun _ => Returns.seq fun _ => Returns.seq fun _ => Returns.seq fun _ =>
    Returns.seq fun _ => Returns.write fun _ => rfl

theorem mfaSetupConfirm_flags (s t : Str) :
    Returns (mfaSetupConfirm env s t) fun _ t => t.flags = (true, false) :=
  Returns.seq fun _ => Returns.seq fun _ => Returns.seq fun _ => Returns.seq fun _ =>
    Returns.seq fun _ => Returns.write fun _ => rfl

theorem finishLogin_flags (path s r operation : Str) :
    Returns (finishLogin env path s r operation) fun _ t => t.flags = (true, false) :=
  Returns.seq fun _ => Returns.seq fun _ => Returns.seq fun _ => Returns.seq fun _ =>
    Returns.seq fun _ => Returns.write fun _ => rfl

theorem webauthnSetupRegisterFinish_flags (a b c d : Str) :
    Returns (webauthnSetupRegisterFinish env a b c d) fun _ t => t.flags = (true, false) := by
  refine Returns.seq fun _ => Returns.ite (fun _ => Returns.raise _) fun _ => ?_
  exact Returns.seq fun _ => Returns.seq fun _ => Returns.seq fun _ => Returns.seq fun _ =>
    Returns.seq fun _ => Returns.seq fun _ => Returns.write fun _ => rfl

section

variable (opened : Bool)

/-- A write and the return after it, from a state whose `session` is known. -/
theorem write_flags {α : Type} {g : Impl → Impl} {a : α} {flags : Bool × Bool}
    (h : ∀ s, s.session = opened → (g s).flags = flags) :
    Triple (fun s => s.session = opened) (Prog.modify g >>= fun _ => pure a : Prog Impl Exc α)
      (fun _ t => t.flags = flags) fun _ _ => True :=
  Triple.bind (Q := fun _ t => t.flags = flags) (Triple.modify h) fun _ => Triple.ret fun _ hs => hs

/-- A federation completion leaves `session` as it found it. -/
theorem completeFederation_flags (path context : Str) (request : Json) :
    Triple (fun s => s.session = opened) (completeFederation env path context request)
      (fun _ t => t.flags = (opened, false)) fun _ _ => True := by
  refine Triple.bind (ensureOpen_keeps.triple opened) fun _ => ?_
  refine Triple.bind ((clearMemo_keeps session_untouched).triple opened) fun _ => ?_
  refine Triple.bind ((Keeps.lift _).triple opened) fun body => ?_
  refine Triple.bind ((execute_keeps env session_untouched _ _ body _).triple opened) fun _ => ?_
  refine Triple.bind ((Keeps.lift _).triple opened) fun _ => ?_
  exact write_flags opened fun s hs => congrArg (·, false) hs

/-- So does a device login. -/
theorem authenticateDevice_flags :
    Triple (fun s => s.session = opened) (authenticateDevice env)
      (fun _ t => t.flags = (opened, true)) fun _ _ => True := by
  refine Triple.bind (ensureOpen_keeps.triple opened) fun _ => ?_
  refine Triple.ite (fun _ => Triple.raise fun _ _ => trivial) fun _ => ?_
  refine Triple.bind ((clearMemo_keeps session_untouched).triple opened) fun _ => ?_
  refine Triple.bind (Keeps.read.triple opened) fun s => ?_
  refine Triple.bind ((sendRaw_keeps env session_untouched _).triple opened) fun resp => ?_
  refine Triple.bind ((orRaise_keeps env resp).triple opened) fun _ => ?_
  refine Triple.bind ((Keeps.lift _).triple opened) fun _ => ?_
  exact write_flags opened fun s hs => congrArg (·, true) hs

end

/-- The flags a completing reply leaves. -/
def Reply.flagsAfter (s : Impl) : Reply → Bool × Bool
  | .federation _ => (s.session, false)
  | .device _ => (s.session, true)
  | _ => (true, false)

theorem replying_state {α : Type} (wrap : α → Reply) (m : Prog Impl Exc α) (s : Impl) :
    (replying wrap m s).2 = (m s).2 := by
  unfold replying
  rw [bind_run]
  rcases m s with ⟨_ | a, t⟩ <;> rfl

theorem replying_eq_ok {α : Type} {wrap : α → Reply} {m : Prog Impl Exc α} {s t : Impl}
    {reply : Reply} (h : replying wrap m s = (.ok reply, t)) :
    ∃ a, reply = wrap a ∧ m s = (.ok a, t) := by
  obtain ⟨a, _, hm, hret⟩ := bind_eq_ok.mp h
  cases hret
  exact ⟨a, rfl, hm⟩

/-- What a completed session leaves: every login opens a cookie session but a federated one. -/
theorem Op.completed_flags {op : Op} {s t : Impl} {reply : Reply}
    (hrun : op.perform env s = (.ok reply, t)) (hcompletes : reply.completes = true) :
    t.flags = reply.flagsAfter s := by
  cases op with
  | login u p =>
      obtain ⟨r, rfl, hm⟩ := replying_eq_ok hrun
      exact (login_flags env u p).elim hm hcompletes
  | loginOpaque u p =>
      obtain ⟨r, rfl, hm⟩ := replying_eq_ok hrun
      exact (loginOpaque_flags env u p).elim hm hcompletes
  | verifyMfa c k =>
      obtain ⟨r, rfl, hm⟩ := replying_eq_ok hrun
      exact (verifyMfa_flags env c k).elim hm
  | mfaSetupConfirm a b =>
      obtain ⟨r, rfl, hm⟩ := replying_eq_ok hrun
      exact (mfaSetupConfirm_flags env a b).elim hm
  | webauthnAuthenticateFinish a b | webauthnDiscoverableFinish a b =>
      obtain ⟨r, rfl, hm⟩ := replying_eq_ok hrun
      exact (finishLogin_flags env _ a b _).elim hm
  | webauthnSetupRegisterFinish a b c d =>
      obtain ⟨r, rfl, hm⟩ := replying_eq_ok hrun
      exact (webauthnSetupRegisterFinish_flags env a b c d).elim hm
  | ssoComplete _ _ | ssoCompleteOauth2 _ _ | ssoCompleteHandoff _ =>
      obtain ⟨r, rfl, hm⟩ := replying_eq_ok hrun
      exact (completeFederation_flags env s.session _ _ _).ok rfl hm
  | authenticateDevice =>
      obtain ⟨r, rfl, hm⟩ := replying_eq_ok hrun
      exact (authenticateDevice_flags env s.session).ok rfl hm
  | _ =>
      obtain ⟨r, rfl, -⟩ := replying_eq_ok hrun
      cases hcompletes

/-! ## Ending a session -/

/-- The answer to the one request of a logout. -/
def logoutAnswer (s : Impl) : Answer :=
  env.transport s.sent (buildRequest env s "POST" "/api/v1/auth/logout" "\x7b\x7d")

/-- An answer whose exception is no `AxiamError`: one of the transport's own, or the JSON
library's on an unreadable denial. -/
def EscapesLogout : Answer → Prop
  | .error e => e.isAxiam = false
  | .ok resp => resp.transportError = [] ∧ unreadableDenial env.parse resp

/-- The request of a logout, by its answer. -/
theorem requestLogout_run (s : Impl) :
    (EscapesLogout env (logoutAnswer env s) → ∃ e t, requestLogout env s = (.error e, t)) ∧
      (¬EscapesLogout env (logoutAnswer env s) → ∃ t, requestLogout env s = (.ok (), t)) := by
  have hsent : sendBuilt env "POST" "/api/v1/auth/logout" "\x7b\x7d" s =
      sendRaw env (buildRequest env s "POST" "/api/v1/auth/logout" "\x7b\x7d") s := rfl
  -- a throw of the exchange is kept exactly when the handler takes it
  have hthrow {e : Exc} {t : Impl}
      (h : execute env "POST" "/api/v1/auth/logout" "\x7b\x7d" false s = (.error e, t)) :
      requestLogout env s = (if e.isAxiam then pure () else throw e : Prog Impl Exc Unit) t := by
    unfold requestLogout
    rw [tryCatch_run, bind_run_error h]
  cases hanswer : logoutAnswer env s with
  | error e =>
      obtain ⟨t, ht⟩ := sendRaw_run_error hanswer
      rw [hthrow (bind_run_error (hsent.trans ht) _)]
      cases haxiam : e.isAxiam with
      | false => exact ⟨fun _ => ⟨e, t, rfl⟩, fun hkept => absurd haxiam hkept⟩
      | true => exact ⟨fun hescapes => absurd (haxiam.symm.trans hescapes) nofun, fun _ => ⟨t, rfl⟩⟩
  | ok resp =>
      by_cases herror : resp.transportError = []
      · obtain ⟨t, ht⟩ := sendRaw_run_ok hanswer herror
        have hescapes : EscapesLogout env (.ok resp) ↔ unreadableDenial env.parse resp :=
          and_iff_right herror
        rw [hescapes]
        cases hsuccess : resp.isSuccess with
        | true =>
            refine ⟨fun hdenial => absurd (isSuccess_of_unreadableDenial hdenial) ?_, fun _ => ?_⟩
            · rw [hsuccess]
              nofun
            · refine ⟨t, ?_⟩
              unfold requestLogout
              rw [tryCatch_run, bind_run_ok (execute_run_success (hsent.trans ht) hsuccess _),
                pure_run]
        | false =>
            rw [hthrow (execute_run_refused (hsent.trans ht) hsuccess)]
            have hiff := isAxiam_raiseForStatus_iff env.parse resp
            refine ⟨fun hdenial => ?_, fun hreadable => ?_⟩
            · rw [if_neg (fun h => hiff.mp h hdenial)]
              exact ⟨_, t, rfl⟩
            · rw [if_pos (hiff.mpr hreadable)]
              exact ⟨t, rfl⟩
      · obtain ⟨t, ht⟩ := sendRaw_run_failed hanswer herror
        rw [hthrow (bind_run_error (hsent.trans ht) _)]
        exact ⟨fun hescapes => absurd hescapes.1 herror, fun _ => ⟨t, rfl⟩⟩

/-- An open client's logout is its request and the write. -/
theorem logout_run {s : Impl} (hopen : s.closed = false) : logout env s =
    (requestLogout env >>= fun _ => Prog.modify Impl.signOut) { s with memo := s.memo.clear } := by
  unfold logout
  rw [bind_run_ok (ensureOpen_run_open hopen), bind_run_ok (clearMemo_run s)]

/-- It signs out, -/
theorem logout_signs_out {s : Impl} (hopen : s.closed = false)
    (hkept : ¬EscapesLogout env (logoutAnswer env s)) : ∃ t : Impl, (logout env s).2 = t.signOut := by
  obtain ⟨t, ht⟩ := (requestLogout_run env { s with memo := s.memo.clear }).2 hkept
  refine ⟨t, ?_⟩
  rw [logout_run env hopen, bind_run_ok ht]
  rfl

/-- or an escaping answer leaves everything there was. -/
theorem logout_escapes {τ : Type} {f : Impl → τ} (hf : Untouched f) {s : Impl}
    (hopen : s.closed = false) (hescapes : EscapesLogout env (logoutAnswer env s)) :
    f (logout env s).2 = f s := by
  obtain ⟨e, t, ht⟩ := (requestLogout_run env { s with memo := s.memo.clear }).1 hescapes
  have hkeeps := requestLogout_keeps env hf { s with memo := s.memo.clear }
  rw [ht] at hkeeps
  rw [logout_run env hopen, bind_run_error ht]
  exact hkeeps.trans (hf.memo s _)

theorem close_flags (s : Impl) :
    (close s).2.flags = (if s.closed then s.session else false, s.deviceSession) := by
  unfold close
  rw [bind_run, read_run]
  simp only
  cases hclosed : s.closed <;> rfl

/-! ## Runs -/

/-- A closed client holds no cookie session. -/
def ClosedOut (s : Impl) : Prop := s.closed = true → s.session = false

theorem step_closedOut {s t : Impl} {e : Event} (h : ClosedOut s) (hstep : Step env s e t) :
    ClosedOut t := by
  obtain ⟨op, outcome⟩ := e
  replace hstep : op.perform env s = (outcome, t) := hstep
  have hpost : t = (op.perform env s).2 := (congrArg Prod.snd hstep).symm
  by_cases hop : op = .close
  · intro _
    have hflags : t.flags = (if s.closed then s.session else false, s.deviceSession) := by
      rw [hpost, hop, ← close_flags]
      exact congrArg Impl.flags (replying_state _ close s)
    have hsession : t.session = if s.closed then s.session else false := congrArg Prod.fst hflags
    rw [hsession]
    cases hclosed : s.closed with
    | false => rfl
    | true => exact h hclosed
  · cases hclosed : s.closed with
    | true =>
        rw [op.perform_guarded env hop s hclosed] at hpost
        rw [hpost]
        exact h
    | false =>
        intro ht
        rw [hpost, op.perform_closed env hop s, hclosed] at ht
        cases ht

/-- What the session flag owes after one operation. -/
structure Owed (t : Transition Impl Event) : Prop where
  /-- A completed session is one the management surface accepts, and a cookie session is one
  a `401` refreshes. -/
  opens : ∀ reply, t.label.outcome = .ok reply → reply.completes = true →
    t.post.hasSession = true ∧
      (∀ operation, (Management.sessionCheck operation t.post).1 = .ok ()) ∧
      (reply.opensCookieSession = true → t.post.refreshable = true)
  ends : t.label.op.ends = true → t.post.hasSession = false

/-- The operation completed a session, or is one that ends it. -/
def Concerns (t : Transition Impl Event) : Prop :=
  (∃ reply, t.label.outcome = .ok reply ∧ reply.completes = true) ∨ t.label.op.ends = true

/-- When an operation leaves the flag right. -/
def Meets (t : Transition Impl Event) : Prop :=
  match t.label.op with
  | .ssoComplete _ _ | .ssoCompleteOauth2 _ _ | .ssoCompleteHandoff _ => t.pre.session = true
  | .logout =>
      if t.pre.closed = true then t.pre.deviceSession = false
      else t.pre.hasSession = false ∨ ¬EscapesLogout env (logoutAnswer env t.pre)
  | .close => t.pre.deviceSession = false
  | _ => True

/-- A reply of a federation completion. -/
def Reply.federated : Reply → Bool
  | .federation _ => true
  | _ => false

/-- On a completed session the condition is about the federated replies only. -/
theorem meets_iff_of_completes {s t : Impl} {op : Op} {reply : Reply}
    (hrun : op.perform env s = (.ok reply, t)) (hcompletes : reply.completes = true) :
    Meets env ⟨s, ⟨op, .ok reply⟩, t⟩ ↔ (reply.federated = true → s.session = true) := by
  cases op with
  | ssoComplete _ _ | ssoCompleteOauth2 _ _ | ssoCompleteHandoff _ =>
      obtain ⟨r, rfl, -⟩ := replying_eq_ok hrun
      exact ⟨fun h _ => h, fun h => h rfl⟩
  | login _ _ | loginOpaque _ _ | verifyMfa _ _ | mfaSetupConfirm _ _
  | webauthnAuthenticateFinish _ _ | webauthnDiscoverableFinish _ _
  | webauthnSetupRegisterFinish _ _ _ _ | authenticateDevice =>
      obtain ⟨r, rfl, -⟩ := replying_eq_ok hrun
      exact ⟨fun _ h => (nomatch h), fun _ => trivial⟩
  | _ =>
      obtain ⟨r, rfl, -⟩ := replying_eq_ok hrun
      cases hcompletes

/-- Whether a completed session is recorded. -/
theorem owed_iff_of_completes {s t : Impl} {op : Op} {reply : Reply}
    (hrun : op.perform env s = (.ok reply, t)) (hcompletes : reply.completes = true) :
    Owed ⟨s, ⟨op, .ok reply⟩, t⟩ ↔ (reply.federated = true → s.session = true) := by
  have hflags := op.completed_flags env hrun hcompletes
  have hhas : t.hasSession = ((reply.flagsAfter s).1 || (reply.flagsAfter s).2) := by
    rw [← hflags]
    rfl
  have hrefresh : t.refreshable = ((reply.flagsAfter s).1 && !(reply.flagsAfter s).2) := by
    rw [← hflags]
    rfl
  have hends : op.ends = true → t.hasSession = false := by
    intro hends
    cases op with
    | logout | close =>
        obtain ⟨r, rfl, -⟩ := replying_eq_ok hrun
        cases hcompletes
    | _ => cases hends
  constructor
  · intro howed hfederated
    have hopen := (howed.opens reply rfl hcompletes).1
    cases reply with
    | federation r => simpa [hhas, Reply.flagsAfter] using hopen
    | _ => cases hfederated
  · intro hsession
    have hopen : t.hasSession = true := by
      cases reply with
      | federation r => simp [hhas, Reply.flagsAfter, hsession rfl]
      | _ => simp [hhas, Reply.flagsAfter]
    refine ⟨fun reply' heq hcompletes' => ⟨hopen, fun operation => ?_, fun hcookie => ?_⟩, hends⟩
    · exact (Management.sessionCheck_ok_iff operation t).mpr hopen
    · cases heq
      cases reply with
      | federation r => simp [hrefresh, Reply.flagsAfter, hsession rfl]
      | device r => cases hcookie
      | _ => simp [hrefresh, Reply.flagsAfter]

/-- Ending a session owes an empty flag and nothing else. -/
theorem owed_iff_of_ends {s t : Impl} {op : Op} {outcome : Except Exc Reply}
    (hrun : op.perform env s = (outcome, t)) (hends : op.ends = true) :
    Owed ⟨s, ⟨op, outcome⟩, t⟩ ↔ t.hasSession = false := by
  refine ⟨fun howed => howed.ends hends, fun h => ⟨fun reply heq hcompletes => ?_, fun _ => h⟩⟩
  cases op with
  | logout | close =>
      obtain ⟨r, rfl, -⟩ := replying_eq_ok (hrun.trans (by rw [show outcome = .ok reply from heq]))
      cases hcompletes
  | _ => cases hends

theorem hasSession_eq (s : Impl) : s.hasSession = (s.flags.1 || s.flags.2) := rfl

/-- A logout empties the flag exactly when its condition holds. -/
theorem logout_ends_iff {s : Impl} (hinv : ClosedOut s) {e : Event} {t : Impl}
    (hop : e.op = .logout) :
    (logout env s).2.hasSession = false ↔ Meets env ⟨s, e, t⟩ := by
  unfold Meets
  simp only [hop]
  cases hclosed : s.closed with
  | true =>
      have hguarded : logout env s = (.error closedError, s) :=
        ensureOpen_guarded.bind _ s hclosed
      rw [hguarded, if_pos rfl]
      show (s.session || s.deviceSession) = false ↔ _
      rw [hinv hclosed, Bool.false_or]
  | false =>
      rw [if_neg Bool.false_ne_true, hasSession_eq]
      by_cases hescapes : EscapesLogout env (logoutAnswer env s)
      · rw [logout_escapes env flags_untouched hclosed hescapes]
        exact ⟨.inl, fun h => h.resolve_right (not_not_intro hescapes)⟩
      · obtain ⟨t, ht⟩ := logout_signs_out env hclosed hescapes
        rw [ht]
        exact ⟨fun _ => .inr hescapes, fun _ => rfl⟩

/-- So does a close. -/
theorem close_ends_iff {s : Impl} (hinv : ClosedOut s) :
    (close s).2.hasSession = false ↔ s.deviceSession = false := by
  have hsession : (if s.closed then s.session else false) = false := by
    cases hclosed : s.closed with
    | false => rfl
    | true => exact hinv hclosed
  rw [hasSession_eq, close_flags, hsession, Bool.false_or]

/-- One operation: it leaves the flag right exactly when its condition holds. -/
theorem step_owed_iff {s t : Impl} {e : Event} (hinv : ClosedOut s) (hstep : Step env s e t)
    (hconcerns : Concerns ⟨s, e, t⟩) : Owed ⟨s, e, t⟩ ↔ Meets env ⟨s, e, t⟩ := by
  obtain ⟨op, outcome⟩ := e
  rcases hconcerns with ⟨reply, houtcome, hcompletes⟩ | hends
  · replace houtcome : outcome = .ok reply := houtcome
    subst houtcome
    rw [owed_iff_of_completes env hstep hcompletes, meets_iff_of_completes env hstep hcompletes]
  · rw [owed_iff_of_ends env hstep hends]
    have hpost : t = (op.perform env s).2 := (congrArg Prod.snd hstep).symm
    cases op with
    | logout =>
        rw [hpost, ← logout_ends_iff env hinv rfl]
        rw [show (Op.logout.perform env s).2 = (logout env s).2 from replying_state _ _ s]
    | close =>
        rw [hpost, show (Op.close.perform env s).2 = (close s).2 from replying_state _ _ s]
        exact close_ends_iff hinv
    | _ => cases hends

/-- Over every run of a client fresh from its builder: each operation that completes a
session, and each that ends one, leaves the flag right exactly when its condition holds. -/
theorem session_flag_iff (actingTenantId : Option Str) (memoTtl : Int)
    {trace : List (Transition Impl Event)} {last : Impl}
    (hrun : Run (Step env) (Impl.built actingTenantId memoTtl) trace last) :
    ∀ t ∈ trace, Concerns t → (Owed t ↔ Meets env t) := by
  refine hrun.forall_steps (I := ClosedOut) (Q := fun t => Concerns t → (Owed t ↔ Meets env t))
    (fun s e t hinv hstep => step_closedOut env hinv hstep)
    (fun s e t hinv hstep hconcerns => step_owed_iff env hinv hstep hconcerns) ?_
  intro hclosed
  cases hclosed

end

/-! ## One client, signed in by its provider -/

/-- A server whose every answer is the completion of a federated login. -/
def providerEnv : Env where
  baseUrl := "https://iam.example"
  tenantHeader := "acme"
  parse := tableParser [(str "ok", .object [("session_id", .string "s1"), ("user_id", .string "u1")])]
  dump := fun _ => "\x7b\x7d"
  transport := fun _ _ => .ok { status := 200, body := "ok" }
  clock := fun n => n
  opaqueStart := fun _ _ => .error (.foreign "no library")
  opaqueFinish := fun _ _ _ _ => .error (.foreign "no library")

/-- The completion, performed on a client fresh from its builder. -/
def provided : Transition Impl Event :=
  let outcome := (Op.ssoComplete "c" "s").perform providerEnv (Impl.built none 0)
  ⟨Impl.built none 0, ⟨.ssoComplete "c" "s", outcome.1⟩, outcome.2⟩

theorem provided_run :
    Run (Step providerEnv) (Impl.built none 0) [provided] provided.post :=
  .cons rfl (.nil _)

theorem provided_concerns : Concerns provided := by
  have hcompletes : (match provided.label.outcome with
      | .ok reply => reply.completes
      | .error _ => false) = true := by decide
  cases houtcome : provided.label.outcome with
  | error e =>
      rw [houtcome] at hcompletes
      cases hcompletes
  | ok reply =>
      rw [houtcome] at hcompletes
      exact .inl ⟨reply, houtcome, hcompletes⟩

/-- The provider signed the client in, and the client holds no session. -/
theorem provided_flag_iff :
    Concerns provided ∧ (Owed provided ↔ Meets providerEnv provided) :=
  ⟨provided_concerns, session_flag_iff providerEnv none 0 provided_run provided
    (List.mem_singleton.mpr rfl) provided_concerns⟩

theorem sso_complete_unrecorded :
    ¬∀ (env : Env) (trace : List (Transition Impl Event)) (last : Impl),
      Run (Step env) (Impl.built none 0) trace last → ∀ t ∈ trace, Concerns t → Owed t := by
  intro hclaim
  have howed := hclaim providerEnv _ _ provided_run provided (List.mem_singleton.mpr rfl)
    provided_concerns
  have hflag : provided.post.hasSession = false := by decide
  rcases provided_concerns with ⟨reply, houtcome, hcompletes⟩ | hends
  · rw [(howed.opens reply houtcome hcompletes).1] at hflag
    cases hflag
  · cases hends

end Axiam.Client
