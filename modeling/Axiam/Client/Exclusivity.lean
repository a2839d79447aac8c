import Axiam.Client.Requests
import Axiam.Client.Session

/-!
# One credential on a request

`build_request` presents an adopted device token as the bearer and, with it, withholds the stored
cookies.  Two paths change the request afterwards: the first half of a passkey ceremony writes
`no_stored_cookies` over, and the ceremonies of a setup token keep whatever was put there.
-/

namespace Axiam.Client

open Axiam.Lib Axiam.Lib.Prog

/-- The ceremonies whose credential is a setup token. -/
def Action.isSetup : Action → Bool
  | .op (.mfaSetupConfirm _ _) | .op (.webauthnSetupRegisterFinish _ _ _ _)
  | .mfaSetupEnroll _ | .webauthnSetupRegisterStart _ => true
  | _ => false

/-- The request does not start from `build_request`. -/
def Action.buildsItsOwn : Action → Bool
  | .op .authenticateDevice | .op (.exchange _) => true
  | _ => false

/-- The device's credential, and nobody else's. -/
def DeviceOnly (token : Str) (req : HttpRequest) : Prop :=
  token ≠ [] → req.headers.find? "Authorization" = some (str "Bearer " ++ token) ∧
    req.noStoredCookies = true

/-- No bearer, and no cookie of a session: none is replayed, or the jar held none. -/
def Bare (held : Bool) (req : HttpRequest) : Prop :=
  req.headers.find? "Authorization" = none ∧ (req.noStoredCookies = true ∨ held = false)

section

-- whether the transport's jar holds a session cookie after it was handed these requests
variable (jar : List HttpRequest → Bool)

/-- The requests of one action carry one principal's credential. -/
def Exclusive (t : Transition Impl Action) : Prop :=
  ∀ past req rest, t.post.sent = t.pre.sent ++ (past ++ req :: rest) →
    if t.label.isSetup then Bare (jar (t.pre.sent ++ past)) req
    else t.label.buildsItsOwn = false → DeviceOnly t.pre.deviceAccessToken req

end

/-! ## The ordinary requests -/

theorem deviceAccessToken_untouched : Untouched Impl.deviceAccessToken :=
  ⟨fun _ _ => rfl, fun _ _ => rfl, fun _ _ => rfl, fun _ _ => rfl, fun _ _ => rfl⟩

/-- What `build_request` makes of a device token. -/
theorem buildRequest_deviceOnly (env : Env) (s : Impl) (method path body : Str) :
    DeviceOnly s.deviceAccessToken (buildRequest env s method path body) := by
  intro htoken
  refine ⟨?_, decide_eq_true htoken⟩
  rw [buildRequest_authorization]
  unfold Impl.bearer
  rw [if_neg htoken]

theorem deviceOnly_builds (env : Env) : Builds env Impl.deviceAccessToken DeviceOnly where
  untouched := deviceAccessToken_untouched
  built := buildRequest_deviceOnly env
  replayable := buildRequest_deviceOnly env

/-! ## The ceremonies that change their request -/

section

variable (env : Env) (exchange : RegistrationExchange)

/-- The request of an action that changes it after `build_request`, as far as credentials go:
whether it withholds the stored cookies. -/
def Action.withholds (token : Str) : Action → Option Bool
  | .webauthnRegisterStart | .webauthnAuthenticateStart _ | .webauthnDiscoverableStart _ =>
      some false
  | .webauthnSetupRegisterStart _ | .op (.webauthnSetupRegisterFinish _ _ _ _) => some true
  | .mfaSetupEnroll _ | .op (.mfaSetupConfirm _ _) => some (token ≠ [])
  | _ => none

/-- What the client itself checks before such an action sends anything. -/
def Action.reaches (s : Impl) : Action → Prop
  | .webauthnRegisterStart => s.session = true
  | .webauthnAuthenticateStart c => c ≠ [] ∧ validUtf8 c = true
  | .webauthnDiscoverableStart w => ∃ body, workspaceBody env w = .ok body ∧ body.dumpable = true
  | .webauthnSetupRegisterStart t | .mfaSetupEnroll t => validUtf8 t = true
  | .op (.mfaSetupConfirm t c) => validUtf8 t = true ∧ validUtf8 c = true
  | .op (.webauthnSetupRegisterFinish t s n r) =>
      n ≠ [] ∧ ∃ body, finishBody env s (some n) r "webauthn_setup_register_finish" (some t) = .ok body
  | _ => True

/-- One request, of the client's bearer and of these cookies. -/
def SentOne (withheld : Bool) (s : Impl) (sent : List HttpRequest) : Prop :=
  ∃ req, sent = s.sent ++ [req] ∧ req.headers.find? "Authorization" = s.bearer ∧
    req.noStoredCookies = withheld

/-- `p` sends that one request if `c`, and none otherwise. -/
structure SendsOne {α : Type} (c : Prop) (withheld : Bool) (p : Prog Impl Exc α) (s : Impl) :
    Prop where
  sends : c → SentOne withheld s (p s).2.sent
  refuses : ¬c → (p s).2.sent = s.sent

namespace SendsOne

variable {α β : Type} {c c' : Prop} {withheld : Bool} {p : Prog Impl Exc α} {s : Impl}

theorem congr (hc : c' ↔ c) (h : SendsOne c withheld p s) : SendsOne c' withheld p s :=
  ⟨fun hc' => h.sends (hc.mp hc'), fun hc' => h.refuses fun h => hc' (hc.mpr h)⟩

/-- What follows a request sends no other. -/
theorem last {k : α → Prog Impl Exc β} (h : SendsOne c withheld p s)
    (hk : ∀ a, Keeps Impl.sent (k a)) : SendsOne c withheld (p >>= k) s := by
  have hsame : ((p >>= k) s).2.sent = (p s).2.sent := by
    rw [bind_run]
    rcases p s with ⟨e | a, t⟩
    · rfl
    · exact hk a t
  refine ⟨fun hc => ?_, fun hc => hsame.trans (h.refuses hc)⟩
  rw [hsame]
  exact h.sends hc

theorem silently (h : SendsOne c withheld p s) : SendsOne c withheld (silently p) s :=
  h.last fun _ => Keeps.ret _

/-- On an open client. -/
theorem opened {k : Unit → Prog Impl Exc α} (hopen : s.closed = false)
    (h : SendsOne c withheld (k ()) s) : SendsOne c withheld (ensureOpen >>= k) s := by
  have hrun := bind_run_ok (ensureOpen_run_open hopen) k
  exact ⟨fun hc => by rw [hrun]; exact h.sends hc, fun hc => by rw [hrun]; exact h.refuses hc⟩

/-- The memo is no part of a request. -/
theorem cleared {k : Unit → Prog Impl Exc α}
    (h : SendsOne c withheld (k ()) { s with memo := s.memo.clear }) :
    SendsOne c withheld (clearMemo >>= k) s := by
  have hrun := bind_run_ok (clearMemo_run s) k
  exact ⟨fun hc => by rw [hrun]; exact h.sends hc, fun hc => by rw [hrun]; exact h.refuses hc⟩

/-- Behind a refusal. -/
theorem refusing {g : Prop} [Decidable g] {e : Exc} (h : SendsOne c withheld p s) :
    SendsOne (¬g ∧ c) withheld (if g then throw e else p) s := by
  by_cases hg : g
  · rw [if_pos hg]
    exact ⟨fun hc => absurd hg hc.1, fun _ => rfl⟩
  · rw [if_neg hg]
    exact h.congr (and_iff_right hg)

/-- Behind a text the client may fail to write. -/
theorem written {x : Except Exc α} {k : α → Prog Impl Exc β}
    (h : ∀ a, x = .ok a → SendsOne c withheld (k a) s) :
    SendsOne ((∃ a, x = .ok a) ∧ c) withheld (Prog.lift x >>= k) s := by
  cases x with
  | ok a => exact (h a rfl).congr (and_iff_right ⟨a, rfl⟩)
  | error e => exact ⟨fun ⟨⟨_, h⟩, _⟩ => (nomatch h), fun _ => rfl⟩

end SendsOne

theorem dumpText_ok_iff (j : Json) : (∃ text, dumpText env j = .ok text) ↔ j.dumpable = true := by
  unfold dumpText
  cases j.dumpable <;> simp

theorem orRaise_sent (resp : HttpResponse) : Keeps Impl.sent (orRaise env resp) :=
  Keeps.ite (Keeps.ret _) (Keeps.raise _)

/-- A `*_start` sends its one request, with the flag it was told. -/
theorem startCeremony_sends_one (path body : Str) (noStoredCookies : Bool) (s : Impl) :
    SendsOne True noStoredCookies (startCeremony env path body noStoredCookies) s := by
  have hsend : SendsOne True noStoredCookies
      (Prog.read >>= fun s => sendRaw env (startRequest env s path body noStoredCookies)) s :=
    ⟨fun _ => ⟨_, sendRaw_sent env _ s, buildRequest_authorization env s "POST" path body, rfl⟩,
      fun h => absurd trivial h⟩
  exact hsend.last fun resp => Keeps.bind (orRaise_sent env resp) fun _ => Keeps.lift _

/-- An ordinary request withholds cookies exactly beside a device bearer. -/
theorem post_sends_one (path body : Str) (s : Impl) :
    SendsOne True (s.deviceAccessToken ≠ []) (post env path body) s := by
  have hsend : SendsOne True (s.deviceAccessToken ≠ []) (sendBuilt env "POST" path body) s :=
    ⟨fun _ => ⟨_, sendRaw_sent env _ s, buildRequest_authorization env s "POST" path body, rfl⟩,
      fun h => absurd trivial h⟩
  exact hsend.last fun resp => orRaise_sent env resp

theorem dumpable_pair {name : Str} (hname : validUtf8 name = true) (value : Str) :
    (Json.object [(name, .string value)]).dumpable = validUtf8 value := by
  simp only [Json.dumpable, Json.dumpableMembers, hname, Bool.true_and, Bool.and_true]

theorem requireSession_run {s : Impl} (operation : Str) (h : s.session = true) :
    requireSession operation s = (.ok (), s) := by
  unfold requireSession
  rw [bind_run, read_run]
  simp only
  rw [if_pos h, pure_run]

theorem requireSession_refuses {s : Impl} (operation : Str) (h : ¬s.session = true) :
    ∃ e, requireSession operation s = (.error e, s) := by
  unfold requireSession
  rw [bind_run, read_run]
  simp only
  rw [if_neg h]
  exact ⟨_, rfl⟩

section

variable {s : Impl} (hopen : s.closed = false)
include hopen

theorem webauthnRegisterStart_sends_one :
    SendsOne (s.session = true) false (webauthnRegisterStart env) s := by
  refine .opened hopen ⟨fun hsession => ?_, fun hsession => ?_⟩
  · rw [bind_run_ok (requireSession_run _ hsession)]
    exact (startCeremony_sends_one env _ _ false s).sends trivial
  · obtain ⟨e, hrun⟩ := requireSession_refuses "webauthn_register_start" hsession
    rw [bind_run_error hrun]

theorem webauthnAuthenticateStart_sends_one (c : Str) :
    SendsOne (c ≠ [] ∧ validUtf8 c = true) false (webauthnAuthenticateStart env c) s := by
  refine .opened hopen (.refusing ?_)
  refine .congr ?_ (.written fun body _ => startCeremony_sends_one env _ body false s)
  rw [dumpText_ok_iff, dumpable_pair (by decide), and_true]

theorem webauthnDiscoverableStart_sends_one (w : WebauthnWorkspace) :
    SendsOne (∃ body, workspaceBody env w = .ok body ∧ body.dumpable = true) false
      (webauthnDiscoverableStart env w) s := by
  refine .opened hopen ?_
  cases hbody : workspaceBody env w with
  | error e => exact ⟨fun ⟨_, h, _⟩ => (nomatch h), fun _ => rfl⟩
  | ok body =>
      have hreaches : (∃ b, (Except.ok body : Except Exc Json) = .ok b ∧ b.dumpable = true) ↔
          (∃ b, (Except.ok body : Except Exc Json) = .ok b) ∧ (∃ text, dumpText env body = .ok text) ∧
            True := by
        rw [dumpText_ok_iff, and_true]
        exact ⟨fun ⟨_, h, hd⟩ => by cases h; exact ⟨⟨body, rfl⟩, hd⟩, fun h => ⟨body, rfl, h.2⟩⟩
      refine .congr hreaches (.written fun b hb => ?_)
      cases hb
      exact .written fun text _ => startCeremony_sends_one env _ text false s

theorem webauthnSetupRegisterStart_sends_one (t : Str) :
    SendsOne (validUtf8 t = true) true (webauthnSetupRegisterStart env t) s := by
  refine .opened hopen ?_
  refine .congr ?_ (.written fun body _ => startCeremony_sends_one env _ body true s)
  rw [dumpText_ok_iff, dumpable_pair (by decide), and_true]

theorem mfaSetupEnroll_sends_one (t : Str) :
    SendsOne (validUtf8 t = true) (s.deviceAccessToken ≠ []) (mfaSetupEnroll env t) s := by
  refine .opened hopen ?_
  refine .congr ?_ (.written fun body _ => (post_sends_one env _ body s).last fun _ => Keeps.lift _)
  rw [dumpText_ok_iff, dumpable_pair (by decide), and_true]

theorem mfaSetupConfirm_sends_one (t c : Str) :
    SendsOne (validUtf8 t = true ∧ validUtf8 c = true) (s.deviceAccessToken ≠ [])
      (mfaSetupConfirm env t c) s := by
  refine .opened hopen (.cleared ?_)
  refine .congr ?_ (.written fun body _ =>
    (post_sends_one env _ body { s with memo := s.memo.clear }).last fun resp =>
      Keeps.bind (Keeps.lift _) fun result =>
        adopted_sent (g := fun s => s.adoptUser result.user) (fun s => adoptUser_sent s _) result)
  rw [dumpText_ok_iff, and_true]
  simp only [Json.dumpable, Json.dumpableMembers, show validUtf8 "setup_token" = true by decide,
    show validUtf8 "totp_code" = true by decide, Bool.true_and, Bool.and_true, Bool.and_eq_true]

theorem webauthnSetupRegisterFinish_sends_one (t st n r : Str) :
    SendsOne (n ≠ [] ∧ ∃ body, finishBody env st (some n) r "webauthn_setup_register_finish"
      (some t) = .ok body) true (webauthnSetupRegisterFinish env t st n r) s := by
  refine .opened hopen (.refusing (.cleared ?_))
  refine .congr (and_true _).symm.to_iff (.written fun body _ => ?_)
  have hsend : SendsOne True true (Prog.read >>= fun s => sendRaw env
      { buildRequest env s "POST" "/api/v1/auth/webauthn/setup/register/finish" body with
        noStoredCookies := true }) { s with memo := s.memo.clear } :=
    ⟨fun _ => ⟨_, sendRaw_sent env _ _, buildRequest_authorization env { s with memo := s.memo.clear }
      "POST" "/api/v1/auth/webauthn/setup/register/finish" body, rfl⟩, fun h => absurd trivial h⟩
  exact hsend.last fun resp => Keeps.bind (orRaise_sent env resp) fun _ =>
    Keeps.bind (Keeps.lift _) fun result =>
      adopted_sent (g := fun s => s.adoptUser result.user) (fun s => adoptUser_sent s _) result

/-- The exact requests of the ceremonies, on an open client. -/
theorem Action.perform_sends_one {a : Action} {withheld : Bool}
    (ha : a.withholds s.deviceAccessToken = some withheld) :
    SendsOne (a.reaches env s) withheld (a.perform env exchange) s := by
  cases a with
  | webauthnRegisterStart =>
      cases ha
      exact (webauthnRegisterStart_sends_one env hopen).silently
  | webauthnAuthenticateStart c =>
      cases ha
      exact (webauthnAuthenticateStart_sends_one env hopen c).silently
  | webauthnDiscoverableStart w =>
      cases ha
      exact (webauthnDiscoverableStart_sends_one env hopen w).silently
  | webauthnSetupRegisterStart t =>
      cases ha
      exact (webauthnSetupRegisterStart_sends_one env hopen t).silently
  | mfaSetupEnroll t =>
      cases ha
      exact (mfaSetupEnroll_sends_one env hopen t).silently
  | op o =>
      cases o with
      | mfaSetupConfirm t c =>
          cases ha
          exact ((mfaSetupConfirm_sends_one env hopen t c).last fun _ => Keeps.ret _).silently
      | webauthnSetupRegisterFinish t st n r =>
          cases ha
          exact ((webauthnSetupRegisterFinish_sends_one env hopen t st n r).last
            fun _ => Keeps.ret _).silently
      | _ => cases ha
  | _ => cases ha

end

/-- A closed client sends none of them. -/
theorem Action.perform_closed {a : Action} {s : Impl} {withheld : Bool} (hclosed : s.closed = true)
    (ha : a.withholds s.deviceAccessToken = some withheld) : (a.perform env exchange s).2 = s := by
  have hstate {α β : Type} {m : Prog Impl Exc α} {k : α → Prog Impl Exc β} (hm : Guarded m) :
      ((m >>= k) s).2 = s := by
    rw [hm.bind k s hclosed]
  cases a with
  | webauthnRegisterStart | webauthnAuthenticateStart _ | webauthnDiscoverableStart _
  | webauthnSetupRegisterStart _ | mfaSetupEnroll _ => exact hstate (ensureOpen_guarded.bind _)
  | op o =>
      cases o with
      | mfaSetupConfirm _ _ | webauthnSetupRegisterFinish _ _ _ _ =>
          exact hstate ((ensureOpen_guarded.bind _).bind _)
      | _ => cases ha
  | _ => cases ha

/-- Every other action leaves its requests as `build_request` made them. -/
theorem Action.alters_eq_false {a : Action} (hown : a.buildsItsOwn = false)
    (ha : ∀ token, a.withholds token = none) : a.alters = false := by
  cases a with
  | op o =>
      cases o with
      | authenticateDevice | exchange _ => cases hown
      | webauthnSetupRegisterFinish _ _ _ _ => cases ha []
      | _ => rfl
  | webauthnRegisterStart | webauthnAuthenticateStart _ | webauthnDiscoverableStart _
  | webauthnSetupRegisterStart _ => cases ha []
  | _ => rfl

/-! ## Runs -/

variable (jar : List HttpRequest → Bool)

/-- What keeps an action that changes its request from mixing credentials. -/
def Spared (t : Transition Impl Action) : Prop :=
  match t.label with
  | .webauthnRegisterStart | .webauthnAuthenticateStart _ | .webauthnDiscoverableStart _
  | .webauthnSetupRegisterStart _ | .op (.webauthnSetupRegisterFinish _ _ _ _) =>
      t.pre.deviceAccessToken = []
  | .mfaSetupEnroll _ | .op (.mfaSetupConfirm _ _) =>
      t.pre.deviceAccessToken = [] ∧ jar t.pre.sent = false
  | _ => True

/-- When an action's requests carry one principal's credential: it sends none, or no other
credential is there to be carried. -/
def ExclusiveWhen (t : Transition Impl Action) : Prop :=
  t.pre.closed = true ∨ ¬t.label.reaches env t.pre ∨ Spared jar t

theorem bearer_eq_none (s : Impl) : s.bearer = none ↔ s.deviceAccessToken = [] := by
  unfold Impl.bearer
  split <;> simp_all

/-- Nothing was sent. -/
theorem exclusive_of_unsent {t : Transition Impl Action} (h : t.post.sent = t.pre.sent) :
    Exclusive jar t := by
  intro past req rest hsent
  rw [h] at hsent
  have hnil := List.self_eq_append_right.mp hsent
  cases List.append_ne_nil_of_right_ne_nil past (List.cons_ne_nil req rest) hnil

/-- One request was. -/
theorem exclusive_iff_of_one {t : Transition Impl Action} {req : HttpRequest}
    (h : t.post.sent = t.pre.sent ++ [req]) :
    Exclusive jar t ↔ if t.label.isSetup then Bare (jar t.pre.sent) req
      else t.label.buildsItsOwn = false → DeviceOnly t.pre.deviceAccessToken req := by
  constructor
  · intro hexclusive
    have hone := hexclusive [] req [] h
    rw [List.append_nil] at hone
    exact hone
  · intro hone past req' rest hsent
    rw [h, List.append_cancel_left_eq] at hsent
    obtain ⟨rfl, hrest⟩ : past = [] ∧ req' :: rest = [req] := by
      cases past with
      | nil => exact ⟨rfl, hsent.symm⟩
      | cons x past => simp at hsent
    cases hrest
    rw [List.append_nil]
    exact hone

/-- A request of one of the changed ceremonies, by what was there to be carried. -/
theorem exclusive_iff_spared {t : Transition Impl Action} {withheld : Bool}
    (ha : t.label.withholds t.pre.deviceAccessToken = some withheld)
    (hsent : SentOne withheld t.pre t.post.sent) : Exclusive jar t ↔ Spared jar t := by
  obtain ⟨s, a, u⟩ := t
  obtain ⟨req, hone, hbearer, hcookies⟩ := hsent
  rw [exclusive_iff_of_one jar hone]
  simp only at ha hbearer ⊢
  have hbare : req.headers.find? "Authorization" = none ↔ s.deviceAccessToken = [] := by
    rw [hbearer, bearer_eq_none]
  -- with the cookies left in, a device token is not alone
  have hstart : withheld = false →
      (DeviceOnly s.deviceAccessToken req ↔ s.deviceAccessToken = []) := by
    intro hwithheld
    refine ⟨fun h => ?_, fun h htoken => absurd h htoken⟩
    by_contra htoken
    have hset := (h htoken).2
    rw [hcookies, hwithheld] at hset
    cases hset
  unfold Bare
  rw [hbare, hcookies]
  cases a with
  | webauthnRegisterStart | webauthnAuthenticateStart _ | webauthnDiscoverableStart _ =>
      cases ha
      exact ⟨fun h => (hstart rfl).mp (h rfl), fun h _ => (hstart rfl).mpr h⟩
  | webauthnSetupRegisterStart _ =>
      cases ha
      exact ⟨fun h => h.1, fun h => ⟨h, .inl rfl⟩⟩
  | mfaSetupEnroll _ =>
      cases ha
      exact ⟨fun h => ⟨h.1, h.2.resolve_left fun hset => of_decide_eq_true hset h.1⟩,
        fun h => ⟨h.1, .inr h.2⟩⟩
  | op o =>
      cases o with
      | webauthnSetupRegisterFinish _ _ _ _ =>
          cases ha
          exact ⟨fun h => h.1, fun h => ⟨h, .inl rfl⟩⟩
      | mfaSetupConfirm _ _ =>
          cases ha
          exact ⟨fun h => ⟨h.1, h.2.resolve_left fun hset => of_decide_eq_true hset h.1⟩,
            fun h => ⟨h.1, .inr h.2⟩⟩
      | _ => cases ha
  | _ => cases ha

/-- One action: its requests carry one principal's credential exactly when its condition holds. -/
theorem acts_exclusive_iff {s u : Impl} {a : Action} (hacts : Acts env exchange s a u) :
    Exclusive jar ⟨s, a, u⟩ ↔ ExclusiveWhen env jar ⟨s, a, u⟩ := by
  have hpost : u = (a.perform env exchange s).2 := hacts.symm
  cases hchanged : a.withholds s.deviceAccessToken with
  | some withheld =>
      cases hclosed : s.closed with
      | true =>
          rw [Action.perform_closed env exchange hclosed hchanged] at hpost
          exact iff_of_true (exclusive_of_unsent jar (congrArg Impl.sent hpost)) (.inl hclosed)
      | false =>
          have hone := Action.perform_sends_one env exchange hclosed hchanged
          by_cases hreaches : a.reaches env s
          · have hsent := hone.sends hreaches
            rw [← hpost] at hsent
            rw [exclusive_iff_spared jar (t := ⟨s, a, u⟩) hchanged hsent]
            refine ⟨fun h => .inr (.inr h), ?_⟩
            rintro (h | h | h)
            · cases hclosed.symm.trans h
            · exact absurd hreaches h
            · exact h
          · have hsent := hone.refuses hreaches
            rw [← hpost] at hsent
            exact iff_of_true (exclusive_of_unsent jar hsent) (.inr (.inl hreaches))
  | none =>
      have hordinary : a.isSetup = false ∧ Spared jar ⟨s, a, u⟩ ∧ ∀ token, a.withholds token = none := by
        cases a with
        | op o => cases o <;> first | exact ⟨rfl, trivial, fun _ => rfl⟩ | cases hchanged
        | _ => first | exact ⟨rfl, trivial, fun _ => rfl⟩ | cases hchanged
      obtain ⟨hsetup, hspared, hnone⟩ := hordinary
      refine iff_of_true (fun past req rest hsent => ?_) (.inr (.inr hspared))
      rw [if_neg (ne_true_of_eq_false hsetup)]
      intro hown
      obtain ⟨new, hnew, hall⟩ :=
        a.perform_sends env (deviceOnly_builds env) exchange (a.alters_eq_false hown hnone) s
      rw [← hpost] at hnew
      obtain rfl := List.append_cancel_left (hnew.symm.trans hsent)
      exact hall req (List.mem_append_right _ List.mem_cons_self)

/-- Over every run of a client fresh from its builder: the requests of an action carry one
principal's credential exactly when its condition holds. -/
theorem credential_exclusive_iff (actingTenantId : Option Str) (memoTtl : Int)
    {trace : List (Transition Impl Action)} {last : Impl}
    (hrun : Run (Acts env exchange) (Impl.built actingTenantId memoTtl) trace last) :
    ∀ t ∈ trace, Exclusive jar t ↔ ExclusiveWhen env jar t :=
  fun t ht => acts_exclusive_iff env exchange jar (hrun.steps t ht)

end

/-! ## A device that signs a user in -/

/-- A server whose every answer is the token of one device. -/
def deviceEnv : Env where
  baseUrl := "https://iam.example"
  tenantHeader := "acme"
  presentsClientCertificate := true
  parse := tableParser [(str "ok", .object [("access_token", .string "d1")])]
  dump := fun _ => "{}"
  transport := fun _ _ => .ok { status := 200, body := "ok" }
  clock := fun n => n
  opaqueStart := fun _ _ => .error (.foreign "no library")
  opaqueFinish := fun _ _ _ _ => .error (.foreign "no library")

def noExchange : RegistrationExchange where
  start := fun _ _ => .error (.foreign "no library")
  finish := fun _ _ _ _ => .error (.foreign "no library")

/-- The device signs in, then a passkey ceremony is started for a user. -/
def deviceTrace : List (Transition Impl Action) :=
  Run.follow (fun s a => (Action.perform deviceEnv noExchange a s).2) (Impl.built none 0)
    [.op .authenticateDevice, .webauthnAuthenticateStart "c1"]

theorem deviceTrace_run : ∃ last,
    Run (Acts deviceEnv noExchange) (Impl.built none 0) deviceTrace last :=
  ⟨_, Run.run_follow (fun _ _ => rfl) _ _⟩

theorem deviceTrace_exclusive_iff : deviceTrace.length = 2 ∧ ∀ t ∈ deviceTrace,
    (Exclusive (fun _ => false) t ↔ ExclusiveWhen deviceEnv (fun _ => false) t) := by
  obtain ⟨last, hrun⟩ := deviceTrace_run
  refine ⟨rfl, ?_⟩
  exact credential_exclusive_iff deviceEnv noExchange (fun _ => false) none 0 hrun

/-- The ceremony's request carries the device's bearer, and lets the jar's cookies in. -/
theorem ceremony_mixes_credentials :
    ¬∀ (env : Env) (exchange : RegistrationExchange) (jar : List HttpRequest → Bool)
      (trace : List (Transition Impl Action)) (last : Impl),
      Run (Acts env exchange) (Impl.built none 0) trace last → ∀ t ∈ trace, Exclusive jar t := by
  intro hclaim
  obtain ⟨last, hrun⟩ := deviceTrace_run
  let s := (Action.perform deviceEnv noExchange (.op .authenticateDevice) (Impl.built none 0)).2
  let t : Transition Impl Action := ⟨s, .webauthnAuthenticateStart "c1",
    (Action.perform deviceEnv noExchange (.webauthnAuthenticateStart "c1") s).2⟩
  have ht : t ∈ deviceTrace := List.mem_cons_of_mem _ List.mem_cons_self
  have hexclusive := hclaim deviceEnv noExchange (fun _ => true) deviceTrace last hrun t ht
  have hopen : s.closed = false := by decide
  have htoken : s.deviceAccessToken ≠ [] := by decide
  rcases (acts_exclusive_iff deviceEnv noExchange (fun _ => true) rfl).mp hexclusive with h | h | h
  · cases hopen.symm.trans h
  · exact h ⟨by decide, by decide⟩
  · exact htoken h

end Axiam.Client
