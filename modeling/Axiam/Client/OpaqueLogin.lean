import Axiam.Client.Requests
import Axiam.Opaque.Costs

/-!
# Where the password goes

What `login_opaque` puts on the wire, by what `login/start` was answered and what the native library
made of it.
-/

namespace Axiam.Client

open Axiam.Lib Axiam.Lib.Prog

variable (env : Env)

/-- The endpoints of the two logins. -/
def loginUrl : Str := env.baseUrl ++ str "/api/v1/auth/login"
def opaqueStartUrl : Str := env.baseUrl ++ str "/api/v1/auth/opaque/login/start"
def opaqueFinishUrl : Str := env.baseUrl ++ str "/api/v1/auth/opaque/login/finish"

/-- A `login/start`: it carries `KE1` for the password. -/
structure Begins (u p : Str) (s : Impl) (req : HttpRequest) : Prop where
  url : req.url = opaqueStartUrl env
  body : ∃ ke1, env.opaqueStart s.sent p = .ok ke1 ∧ req.body = env.dump (opaqueBody env u ke1)

/-- What a `login/start` was answered, as `read_login_start` reads it. -/
def StartAnswered (before : List HttpRequest) (req : HttpRequest) (started : OpaqueLoginStart) :
    Prop :=
  ∃ resp j, env.transport before req = .ok resp ∧ env.parse resp.body = some j ∧
    started = readLoginStart j

/-- `finish` of the exchange: `KE3`, or what the library throws. -/
def opening (before : List HttpRequest) (p : Str) (started : OpaqueLoginStart) : Except Exc Str :=
  env.opaqueFinish before p started.ke2 started.ksf

/-- The requests of one `login_opaque`. -/
inductive Transcript (u p : Str) (s : Impl) : List HttpRequest → Prop
  | silent : Transcript u p s []
  | begun {start} (hbegins : Begins env u p s start) : Transcript u p s [start]
  /-- The `KE2` opened, and `KE3` was sent. -/
  | finished {start finish started ke3} (hbegins : Begins env u p s start)
      (hanswer : StartAnswered env s.sent start started)
      (hopened : opening env (s.sent ++ [start]) p started = .ok ke3)
      (hurl : finish.url = opaqueFinishUrl env)
      (hbody : finish.body = env.dump (.object
        [(str "ke3", .string ke3), (str "opaque_session", .string started.opaqueSession)])) :
      Transcript u p s [start, finish]
  /-- It did not, and the tenant is being migrated. -/
  | fellBack {start again started e} (hbegins : Begins env u p s start)
      (hanswer : StartAnswered env s.sent start started)
      (hfailed : opening env (s.sent ++ [start]) p started = .error e) (hauth : e.isAuth = true)
      (hmode : started.mode = some (str "optional")) (hurl : again.url = loginUrl env)
      (hbody : again.body = env.dump (loginBody env u p)) : Transcript u p s [start, again]

section

variable {env}

theorem dumpText_eq_ok {j : Json} {text : Str} (h : dumpText env j = .ok text) :
    text = env.dump j := by
  unfold dumpText at h
  split at h
  · cases h
    rfl
  · cases h

theorem readOpaqueStart_eq_ok {what : Str} {resp : HttpResponse} {j : Json}
    (h : readOpaqueStart env what resp = .ok j) : env.parse resp.body = some j := by
  unfold readOpaqueStart at h
  split at h
  · cases h
  · obtain ⟨-, -, h⟩ := except_bind_eq_ok.mp h
    cases hparse : env.parse resp.body with
    | none =>
        rw [hparse] at h
        cases h
    | some j' =>
        rw [hparse] at h
        cases h
        rfl

/-- A request that came back was answered with what came back. -/
theorem sendBuilt_ok_answer {method path body : Str} {s t : Impl} {resp : HttpResponse}
    (h : sendBuilt env method path body s = (.ok resp, t)) :
    env.transport s.sent (buildRequest env s method path body) = .ok resp := by
  unfold sendBuilt at h
  rw [bind_run, read_run] at h
  simp only at h
  rcases hanswer : env.transport s.sent (buildRequest env s method path body) with e | resp'
  · obtain ⟨t', hrun⟩ := sendRaw_run_error hanswer
    rw [hrun] at h
    cases h
  · by_cases hok : resp'.transportError = []
    · obtain ⟨t', hrun⟩ := sendRaw_run_ok hanswer hok
      rw [hrun] at h
      cases h
      rfl
    · obtain ⟨t', hrun⟩ := sendRaw_run_failed hanswer hok
      rw [hrun] at h
      cases h

variable (env) in
theorem sendBuilt_sent (method path body : Str) (s : Impl) :
    (sendBuilt env method path body s).2.sent =
      s.sent ++ [buildRequest env s method path body] := sendRaw_sent env _ s

variable (env) in
/-- Without a refresh a request is sent once. -/
theorem execute_sent (method path body : Str) (s : Impl) :
    (execute env method path body false s).2.sent =
      s.sent ++ [buildRequest env s method path body] := by
  have hsent := sendBuilt_sent env method path body s
  unfold execute
  rw [bind_run]
  rcases hrun : sendBuilt env method path body s with ⟨e | resp, t⟩ <;> rw [hrun] at hsent
  · exact hsent
  · simp only
    by_cases hsuccess : resp.isSuccess = true
    · rw [if_pos hsuccess]
      exact hsent
    · rw [if_neg hsuccess, bind_run, read_run]
      simp only
      rw [if_neg fun h => Bool.false_ne_true h.2.1]
      exact hsent

end

section

variable {α β : Type} {m : Prog Impl Exc α} {k : α → Prog Impl Exc β} {s : Impl}

/-- After a step that sends nothing. -/
theorem silent_bind (hm : Keeps Impl.sent m) {P : List HttpRequest → Prop} (hthrown : P s.sent)
    (hk : ∀ a t, m s = (.ok a, t) → t.sent = s.sent → P (k a t).2.sent) :
    P ((m >>= k) s).2.sent := by
  have hsent := hm s
  rw [bind_run]
  rcases hrun : m s with ⟨e | a, t⟩ <;> rw [hrun] at hsent
  · rw [hsent]
    exact hthrown
  · exact hk a t hrun hsent

/-- What follows the request sends nothing. -/
theorem last_bind {reqs : List HttpRequest} (hm : (m s).2.sent = reqs)
    (hk : ∀ a, Keeps Impl.sent (k a)) : ((m >>= k) s).2.sent = reqs := by
  rw [← hm, bind_run]
  rcases m s with ⟨e | a, t⟩
  · rfl
  · exact hk a t

end

theorem clearMemo_sent : Keeps Impl.sent clearMemo := Keeps.modify fun _ => rfl

section

variable {env} {u p : Str}

/-- What a `login` adds to what was sent: its one request, or nothing. -/
def LoginSent (env : Env) (u p : Str) (before sent : List HttpRequest) : Prop :=
  sent = before ∨ ∃ req, sent = before ++ [req] ∧ req.url = loginUrl env ∧
    req.body = env.dump (loginBody env u p)

variable (env u p) in
theorem login_sent (s : Impl) : LoginSent env u p s.sent (login env u p s).2.sent := by
  unfold login
  let P := LoginSent env u p s.sent
  refine silent_bind (P := P) ensureOpen_keeps (.inl rfl) fun _ t _ ht => ?_
  refine silent_bind (P := P) clearMemo_sent (.inl ht) fun _ t' _ ht' => ?_
  refine silent_bind (P := P) (Keeps.lift _) (.inl (ht'.trans ht)) fun body t'' hbody ht'' => ?_
  refine .inr ⟨buildRequest env t'' "POST" "/api/v1/auth/login" body, ?_, rfl, ?_⟩
  · rw [last_bind (sendBuilt_sent env _ _ _ _) fun resp =>
      Keeps.bind (Keeps.lift _) fun result => adoptLogin_sent env resp result, ht'', ht', ht]
  · exact dumpText_eq_ok (congrArg Prod.fst hbody)

/-- What is sent when the exchange has come to a `KE2`. -/
theorem openKe2_sent {s t : Impl} {start : HttpRequest} {started : OpaqueLoginStart}
    (hbegins : Begins env u p s start) (hanswer : StartAnswered env s.sent start started)
    (ht : t.sent = s.sent ++ [start]) :
    ∃ new, (openKe2 env u p started t).2.sent = s.sent ++ new ∧ Transcript env u p s new := by
  unfold openKe2
  rw [bind_run, read_run]
  simp only
  rw [ht]
  rcases hopened : env.opaqueFinish (s.sent ++ [start]) p started.ke2 started.ksf with e | ke3
  · simp only
    by_cases hback : e.isAuth = true ∧ started.mode = some (str "optional")
    · rw [if_pos hback]
      rcases login_sent env u p t with hsent | ⟨again, hsent, hurl, hbody⟩
      · exact ⟨[start], hsent.trans ht, .begun hbegins⟩
      · refine ⟨[start, again], ?_, .fellBack hbegins hanswer hopened hback.1 hback.2 hurl hbody⟩
        rw [hsent, ht, List.append_assoc]
        rfl
    · rw [if_neg hback]
      exact ⟨[start], ht, .begun hbegins⟩
  · unfold finishOpaque
    refine silent_bind (P := fun sent => ∃ new, sent = s.sent ++ new ∧ Transcript env u p s new)
      (Keeps.lift _) ⟨[start], ht, .begun hbegins⟩ fun body t' hbody ht' => ?_
    refine ⟨[start, buildRequest env t' "POST" "/api/v1/auth/opaque/login/finish" body], ?_,
      .finished hbegins hanswer hopened rfl (dumpText_eq_ok (congrArg Prod.fst hbody))⟩
    rw [last_bind (execute_sent env _ _ _ _) fun resp =>
      Keeps.bind (Keeps.lift _) fun result => adoptLogin_sent env resp result, ht', ht,
      List.append_assoc]
    rfl

variable (env u p) in
theorem loginOpaque_sent (s : Impl) :
    ∃ new, (loginOpaque env u p s).2.sent = s.sent ++ new ∧ Transcript env u p s new := by
  have hsilent : ∀ {t : Impl}, t.sent = s.sent →
      ∃ new, t.sent = s.sent ++ new ∧ Transcript env u p s new :=
    fun ht => ⟨[], ht.trans (List.append_nil _).symm, .silent⟩
  let P : List HttpRequest → Prop := fun sent =>
    ∃ new, sent = s.sent ++ new ∧ Transcript env u p s new
  unfold loginOpaque
  refine silent_bind (P := P) ensureOpen_keeps (hsilent rfl) fun _ t₁ _ h₁ => ?_
  refine silent_bind (P := P) clearMemo_sent (hsilent h₁) fun _ t₂ _ h₂ => ?_
  have h₂ : t₂.sent = s.sent := h₂.trans h₁
  rw [bind_run, read_run]
  refine silent_bind (P := P) (Keeps.lift _) (hsilent h₂) fun ke1 t₃ hke1 h₃ => ?_
  have h₃ : t₃.sent = s.sent := h₃.trans h₂
  have hke1 : env.opaqueStart s.sent p = .ok ke1 := by
    rw [← h₂]
    exact congrArg Prod.fst hke1
  refine silent_bind (P := P) (Keeps.lift _) (hsilent h₃) fun body t₄ hbody h₄ => ?_
  have h₄ : t₄.sent = s.sent := h₄.trans h₃
  have hbegins : Begins env u p s
      (buildRequest env t₄ "POST" "/api/v1/auth/opaque/login/start" body) :=
    ⟨rfl, ke1, hke1, dumpText_eq_ok (congrArg Prod.fst hbody)⟩
  have hsent := sendBuilt_sent env "POST" "/api/v1/auth/opaque/login/start" body t₄
  rw [bind_run]
  rcases hrun : sendBuilt env "POST" "/api/v1/auth/opaque/login/start" body t₄ with ⟨e | resp, t⟩ <;>
    rw [hrun, h₄] at hsent
  · exact ⟨_, hsent, .begun hbegins⟩
  have hanswered := sendBuilt_ok_answer hrun
  rw [h₄] at hanswered
  refine silent_bind (P := P) (Keeps.lift _) ⟨_, hsent, .begun hbegins⟩ fun j t₅ hj h₅ => ?_
  have h₅ : t₅.sent = _ := h₅.trans hsent
  by_cases hke2 : (readLoginStart j).ke2 = []
  · rw [if_pos hke2]
    exact ⟨_, h₅, .begun hbegins⟩
  · rw [if_neg hke2]
    exact openKe2_sent hbegins
      ⟨resp, j, hanswered, readOpaqueStart_eq_ok (congrArg Prod.fst hj), rfl⟩ h₅

end

/-- The requests of a `login_opaque` that hold the password back. -/
structure Discreet (u p : Str) (s : Impl) (new : List HttpRequest) : Prop where
  /-- A password login follows an authentication failure that the tenant's mode makes no final
  one. -/
  login : ∀ req ∈ new, req.url = loginUrl env → ∃ start started e, new.head? = some start ∧
    start.url = opaqueStartUrl env ∧ StartAnswered env s.sent start started ∧
    started.mode = some (str "optional") ∧
    opening env (s.sent ++ [start]) p started = .error e ∧ e.isAuth = true
  /-- A `login/finish` follows a `KE2` that opened. -/
  finish : ∀ req ∈ new, req.url = opaqueFinishUrl env → ∃ start started ke3,
    new.head? = some start ∧ start.url = opaqueStartUrl env ∧
    StartAnswered env s.sent start started ∧ opening env (s.sent ++ [start]) p started = .ok ke3
  once : new.countP (·.url = opaqueFinishUrl env) ≤ 1
  apart : ¬∃ a ∈ new, ∃ b ∈ new, a.url = loginUrl env ∧ b.url = opaqueFinishUrl env
  /-- Nothing else is made of the password than the library's messages. -/
  concealed : ∀ req ∈ new, req.url ≠ loginUrl env →
    (∃ ke1, env.opaqueStart s.sent p = .ok ke1 ∧ req.body = env.dump (opaqueBody env u ke1)) ∨
      ∃ before started ke3, opening env before p started = .ok ke3 ∧ req.body = env.dump (.object
        [(str "ke3", .string ke3), (str "opaque_session", .string started.opaqueSession)])

section

variable {env} {u p : Str} {s : Impl}

variable (env) in
theorem urls_distinct : loginUrl env ≠ opaqueStartUrl env ∧ loginUrl env ≠ opaqueFinishUrl env ∧
    opaqueStartUrl env ≠ opaqueFinishUrl env := by
  refine ⟨fun h => ?_, fun h => ?_, fun h => ?_⟩ <;>
    exact absurd (List.append_cancel_left h) (by decide)

theorem Transcript.discreet {new : List HttpRequest} (h : Transcript env u p s new) :
    Discreet env u p s new := by
  obtain ⟨hstart, hfinish, hstages⟩ := urls_distinct env
  cases h with
  | silent =>
      exact ⟨fun _ h => absurd h List.not_mem_nil, fun _ h => absurd h List.not_mem_nil,
        Nat.zero_le _, by simp, fun _ h => absurd h List.not_mem_nil⟩
  | @begun start hbegins =>
      have hurl := hbegins.url
      refine ⟨?_, ?_, List.countP_le_length, ?_, ?_⟩
      · intro req hreq hlogin
        rw [List.mem_singleton.mp hreq, hurl] at hlogin
        exact absurd hlogin.symm hstart
      · intro req hreq hlogin
        rw [List.mem_singleton.mp hreq, hurl] at hlogin
        exact absurd hlogin hstages
      · rintro ⟨a, ha, -, -, hlogin, -⟩
        rw [List.mem_singleton.mp ha, hurl] at hlogin
        exact absurd hlogin.symm hstart
      · intro req hreq _
        rw [List.mem_singleton.mp hreq]
        exact .inl hbegins.body
  | @finished start finish started ke3 hbegins hanswer hopened hurl hbody =>
      have hbegun := hbegins.url
      -- neither of the two is a password login
      have hnone : ∀ req ∈ [start, finish], req.url ≠ loginUrl env := by
        intro req hreq
        rw [List.mem_cons, List.mem_singleton] at hreq
        rcases hreq with rfl | rfl
        · rw [hbegun]
          exact hstart.symm
        · rw [hurl]
          exact hfinish.symm
      refine ⟨fun req hreq h => absurd h (hnone req hreq), fun _ _ _ =>
        ⟨start, started, ke3, rfl, hbegun, hanswer, hopened⟩, ?_, ?_, ?_⟩
      · rw [List.countP_cons_of_neg (by simpa [hbegun] using hstages)]
        exact List.countP_le_length
      · rintro ⟨a, ha, -, -, hlogin, -⟩
        exact hnone a ha hlogin
      · intro req hreq _
        rw [List.mem_cons, List.mem_singleton] at hreq
        rcases hreq with rfl | rfl
        · exact .inl hbegins.body
        · exact .inr ⟨_, started, ke3, hopened, hbody⟩
  | @fellBack start again started e hbegins hanswer hfailed hauth hmode hurl hbody =>
      have hbegun := hbegins.url
      -- neither of the two is a `login/finish`
      have hnone : ∀ req ∈ [start, again], req.url ≠ opaqueFinishUrl env := by
        intro req hreq
        rw [List.mem_cons, List.mem_singleton] at hreq
        rcases hreq with rfl | rfl
        · rw [hbegun]
          exact hstages
        · rw [hurl]
          exact hfinish
      refine ⟨fun _ _ _ => ⟨start, started, e, rfl, hbegun, hanswer, hmode, hfailed, hauth⟩,
        fun req hreq h => absurd h (hnone req hreq), ?_, ?_, ?_⟩
      · have hcount : [start, again].countP (·.url = opaqueFinishUrl env) = 0 := by
          rw [List.countP_eq_zero]
          intro req hreq
          simpa using hnone req hreq
        rw [hcount]
        exact Nat.zero_le _
      · rintro ⟨-, -, b, hb, -, hfinished⟩
        exact hnone b hb hfinished
      · intro req hreq hlogin
        rw [List.mem_cons, List.mem_singleton] at hreq
        rcases hreq with rfl | rfl
        · exact .inl hbegins.body
        · exact absurd hurl hlogin

end

/-- Whatever the server and the native library do, `login_opaque` sends the password itself only
where the tenant's mode is `optional` and the `KE2` failed to authenticate, and never beside a
`login/finish`, of which there is one at most. -/
theorem loginOpaque_discreet (u p : Str) (s : Impl) :
    ∃ new, (loginOpaque env u p s).2.sent = s.sent ++ new ∧ Discreet env u p s new := by
  obtain ⟨new, hsent, htranscript⟩ := loginOpaque_sent env u p s
  exact ⟨new, hsent, htranscript.discreet⟩

end Axiam.Client

namespace Axiam.Opaque

open Axiam.Lib Axiam.Lib.Prog

section

variable {lib : Native} {x : Exc} {w : World}

theorem obtainKsf_isNetwork {c : NativeCall} (h : (obtainKsf lib c w).1 = .error x) :
    x.isNetwork = true := by
  unfold obtainKsf lastErrorOr at h
  simp only [bind_run, read_run, call, modify_run] at h
  by_cases hksf : lib.ksf (w.calls ++ [c]) = true
  · rw [if_pos hksf] at h
    cases h
  · rw [if_neg hksf] at h
    cases h
    rfl

theorem requireCost_isNetwork {ksfName field : Str} {value : Option Nat} {band : Band}
    (h : requireCost ksfName field value band = .error x) : x.isNetwork = true := by
  unfold requireCost at h
  cases value with
  | none =>
      cases h
      rfl
  | some n =>
      simp only at h
      split at h <;> cases h
      rfl

/-- Whatever `build_ksf` throws is a `NetworkError`. -/
theorem buildKsf_isNetwork {params : OpaqueKsfParams}
    (h : (buildKsf lib params w).1 = .error x) : x.isNetwork = true := by
  have hcost : ∀ {α : Type} {ksfName field : Str} {value : Option Nat} {band : Band}
      {k : Nat → Prog World Exc α}, (∀ n, (k n w).1 = .error x → x.isNetwork = true) →
        ((Prog.lift (requireCost ksfName field value band) >>= k) w).1 = .error x →
          x.isNetwork = true := by
    intro α ksfName field value band k hk h
    rw [bind_run, lift_run] at h
    rcases hrequire : requireCost ksfName field value band with e | n <;> rw [hrequire] at h
    · cases h
      exact requireCost_isNetwork hrequire
    · exact hk n h
  unfold buildKsf at h
  split at h
  · exact hcost (fun _ => hcost fun _ => hcost fun _ => obtainKsf_isNetwork) h
  · split at h
    · exact hcost (fun _ => hcost fun _ => hcost fun _ => obtainKsf_isNetwork) h
    · cases h
      rfl

/-- Of an exchange's failures only one is an authentication error: a login whose `KE2` the library
would not open.  A cost that is refused, an unknown function or a spent exchange is none. -/
theorem finish_isAuth {o : Nat} {e : Exchange} {password response : Str}
    {params : OpaqueKsfParams} (h : (finish lib o e password response params w).1 = .error x)
    (hauth : x.isAuth = true) : e.kind = .login ∧ ∃ calls, lib.finish calls = none := by
  have hnot : ¬x.isNetwork = true := by
    intro hnetwork
    cases x with
    | axiam e => cases e <;> simp_all [Exc.isAuth, Exc.isNetwork]
    | _ => cases hauth
  unfold finish at h
  rcases hbuild : buildKsf lib params w with ⟨y | ksf, u⟩
  · rw [bind_run_error hbuild] at h
    cases h
    exact absurd (buildKsf_isNetwork (congrArg Prod.fst hbuild)) hnot
  · rw [bind_run_ok hbuild] at h
    unfold withKsf consume at h
    cases hstate : e.state with
    | none =>
        rw [hstate] at h
        cases h
        exact absurd rfl hnot
    | some state =>
        rw [hstate] at h
        unfold complete lastErrorOr at h
        simp only [bind_run, modify_run, read_run, pure_run, call] at h
        cases hfinish : lib.finish (u.calls ++ [.finish e.kind state password response ksf]) with
        | some message =>
            rw [hfinish] at h
            cases h
        | none =>
            rw [hfinish] at h
            cases hkind : e.kind with
            | login => exact ⟨rfl, _, hfinish⟩
            | registration =>
                rw [hkind] at h
                cases h
                exact absurd rfl hnot

end

end Axiam.Opaque
