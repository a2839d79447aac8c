import Axiam.Lib.Run
import Axiam.Oidc.DeviceGrant

/-!
# When polling ends

A poll that got a decisive answer must be the last one: a `2xx` has spent the device code, and a
`4xx` that names neither a wait nor a pending decision will not change.  The loop tells the two
kinds of answer apart by the exception they come to, and three decisive answers come to one it
takes for a transient failure: a `2xx` without an access token, a `4xx` that names no error (a
`401`, `403` or `409` apart), and a `4xx` that names `rate_limit_exceeded`.
-/

namespace Axiam.Oidc

open Axiam.Lib Axiam.Client

variable (env : GrantEnv)

/-- The `error` a response names. -/
def errorCode (resp : HttpResponse) : Option Str :=
  optString (parseOrObject env.client resp.body) "error"

/-- A refusal that asks for another poll. -/
def Pending (resp : HttpResponse) : Prop :=
  errorCode env resp = some (str "authorization_pending") ∨ errorCode env resp = some (str "slow_down")

/-- An answer after which there is nothing to poll for: a `2xx`, or a `4xx` other than a request
timeout, a rate limit and a decision that is pending. -/
structure Decisive (resp : HttpResponse) : Prop where
  delivered : resp.transportError = []
  status : resp.isSuccess = true ∨
    (400 ≤ resp.status ∧ resp.status < 500 ∧ resp.status ≠ 408 ∧ resp.status ≠ 429 ∧
      ¬Pending env resp)

/-- An answer whose exception the loop does not take for a transient one. -/
def Surfaces (resp : HttpResponse) : Prop :=
  if resp.isSuccess then (optString (parseOrObject env.client resp.body) "access_token").isSome = true
  else match errorCode env resp with
    | some code => code ≠ str "rate_limit_exceeded"
    | none => resp.status = 401 ∨ resp.status = 403 ∨ resp.status = 409

theorem surfaces_success {resp : HttpResponse} (h : resp.isSuccess = true) :
    Surfaces env resp ↔
      (optString (parseOrObject env.client resp.body) "access_token").isSome = true := by
  unfold Surfaces
  rw [if_pos h]

theorem surfaces_some {resp : HttpResponse} {code : Str} (h : resp.isSuccess = false)
    (hcode : errorCode env resp = some code) :
    Surfaces env resp ↔ code ≠ str "rate_limit_exceeded" := by
  unfold Surfaces
  rw [h, if_neg Bool.false_ne_true, hcode]

theorem surfaces_none {resp : HttpResponse} (h : resp.isSuccess = false)
    (hcode : errorCode env resp = none) :
    Surfaces env resp ↔ resp.status = 401 ∨ resp.status = 403 ∨ resp.status = 409 := by
  unfold Surfaces
  rw [h, if_neg Bool.false_ne_true, hcode]

/-- None of these answers decides the grant. -/
def Undecided (answers : List Answer) : Prop :=
  ∀ resp, .ok resp ∈ answers → ¬Decisive env resp

variable {env}

theorem undecided_nil : Undecided env [] := nofun

theorem undecided_error (e : Exc) : Undecided env [.error e] := by
  intro resp h
  cases List.mem_singleton.mp h

theorem undecided_cons {resp : HttpResponse} {rest : List Answer} (h : ¬Decisive env resp)
    (hrest : Undecided env rest) : Undecided env (.ok resp :: rest) := by
  intro other hmem
  rcases List.mem_cons.mp hmem with heq | hmem
  · cases heq
    exact h
  · exact hrest other hmem

/-- What is tried again decided nothing. -/
theorem not_decisive_of_retry {resp : HttpResponse}
    (h : retryShouldRetry (exchangeStatus resp) = true) : ¬Decisive env resp := by
  rintro ⟨hdelivered, hstatus⟩
  unfold exchangeStatus at h
  rw [if_pos hdelivered] at h
  simp only [retryShouldRetry, Bool.or_eq_true, beq_iff_eq, Bool.and_eq_true, decide_eq_true_eq] at h
  rcases hstatus with hsuccess | ⟨hlow, hhigh, htimeout, hlimit, -⟩
  · simp only [HttpResponse.isSuccess, Bool.and_eq_true, decide_eq_true_eq] at hsuccess
    omega
  · omega

/-! ## What asks the token endpoint nothing -/

/-- A part of the state that neither the verifier nor a reading of the wall clock touches. -/
structure Beside {τ : Type} (f : DeviceClient → τ) : Prop where
  verifier : ∀ c verifier, f { c with verifier := verifier } = f c
  ticks : ∀ c ticks, f { c with ticks := ticks } = f c

/-- A part of the state that the client does not touch either. -/
structure Inert {τ : Type} (f : DeviceClient → τ) : Prop extends Beside f where
  client : ∀ c client, f { c with client := client } = f c

theorem answers_inert : Inert DeviceClient.answers :=
  ⟨⟨fun _ _ => rfl, fun _ _ => rfl⟩, fun _ _ => rfl⟩

theorem journal_inert : Inert DeviceClient.journal :=
  ⟨⟨fun _ _ => rfl, fun _ _ => rfl⟩, fun _ _ => rfl⟩

section

variable {τ α : Type} {f : DeviceClient → τ}
  (hticks : ∀ c ticks, f { c with ticks := ticks } = f c)

include hticks

theorem keeps_nowSeconds : Prog.Keeps f (nowSeconds env) := fun c => hticks c _

theorem keeps_retryAfter (resp : HttpResponse) : Prog.Keeps f (retryAfter env resp) := by
  unfold retryAfter
  split
  · exact Prog.Keeps.ret _
  · exact (keeps_nowSeconds hticks).bind fun _ => Prog.Keeps.ret _

theorem keeps_retryDelay (attempt : Nat) (hint : Option Int) :
    Prog.Keeps f (retryDelay env attempt hint) :=
  Prog.Keeps.bind (fun c => hticks c _) fun _ => Prog.Keeps.ret _

theorem keeps_raiseGrantError (context : Str) (resp : HttpResponse) :
    Prog.Keeps f (raiseGrantError env context resp : Prog _ _ α) := by
  unfold raiseGrantError
  refine Prog.Keeps.ite (Prog.Keeps.raise _) ?_
  dsimp only
  cases optString (parseOrObject env.client resp.body) "error" with
  | some code =>
      cases optString (parseOrObject env.client resp.body) "error_description" <;>
        exact (keeps_retryAfter hticks resp).bind fun _ => Prog.Keeps.raise _
  | none =>
      exact Prog.Keeps.ite (Prog.Keeps.raise _)
        (Prog.Keeps.ite (Prog.Keeps.raise _) (Prog.Keeps.raise _))

end

section

variable {τ α : Type} {f : DeviceClient → τ} (hf : Beside f)

include hf

theorem keeps_onVerifier (m : Prog Jwks.Verifier Exc α) : Prog.Keeps f (onVerifier m) :=
  fun c => hf.verifier c _

theorem keeps_readGrant (retryable : Bool) (context : Str) (resp : HttpResponse) :
    Prog.Keeps f (readGrant env retryable context resp) := by
  unfold readGrant
  refine Prog.Keeps.ite (Prog.Keeps.raise _) (Prog.Keeps.ite (Prog.Keeps.ret _)
    (Prog.Keeps.ite (Prog.Keeps.raise _) (Prog.Keeps.ite ?_ (keeps_raiseGrantError hf.ticks context resp))))
  exact (keeps_retryAfter hf.ticks resp).bind fun _ => Prog.Keeps.raise _

theorem keeps_readIdToken (config : OidcConfiguration) (nonce : Option Str) (idToken : Str) :
    Prog.Keeps f (readIdToken env config nonce idToken) := by
  unfold readIdToken
  refine (keeps_onVerifier hf _).bind fun v => ?_
  cases v with
  | error _ => exact Prog.Keeps.raise _
  | ok _ =>
      exact Prog.Keeps.ite (Prog.Keeps.raise _)
        ((keeps_nowSeconds hf.ticks).bind fun _ => Prog.Keeps.lift _)

theorem keeps_parseTokenSet (body : Str) (config : OidcConfiguration) (nonce : Option Str) :
    Prog.Keeps f (parseTokenSet env body config nonce) := by
  unfold parseTokenSet
  dsimp only
  split
  · exact Prog.Keeps.raise _
  · split
    · exact Prog.Keeps.bind (Prog.Keeps.ret _) fun _ => Prog.Keeps.ret _
    · exact (keeps_readIdToken hf config nonce _).bind fun _ => Prog.Keeps.ret _

end

section

variable {τ α : Type} {f : DeviceClient → τ} (hf : Inert f)

include hf

theorem keeps_onClient (m : Prog Discovering Exc α) : Prog.Keeps f (onClient m) :=
  fun c => hf.client c _

variable (env) in
theorem keeps_deviceAuthorize (scope tenantId : Option Str) :
    Prog.Keeps f (deviceAuthorize env scope tenantId) := by
  unfold deviceAuthorize
  refine (keeps_onClient hf _).bind fun _ => (Prog.Keeps.lift _).bind fun clientId =>
    (Prog.Keeps.lift _).bind fun tenant => (keeps_onClient hf _).bind fun config =>
      (Prog.Keeps.lift _).bind fun endpoint => ?_
  split
  · exact Prog.Keeps.raise _
  · exact (keeps_onClient hf _).bind fun resp =>
      Prog.Keeps.ite (Prog.Keeps.lift _) (keeps_raiseGrantError hf.ticks _ _)

end

theorem keeps_nowMs : Prog.Keeps DeviceClient.answers (nowMs env) := fun _ => rfl

variable (env) in
theorem keeps_withinDeadline (expired : Exc) (deadline : Option Int) (wait : Int) :
    Prog.Keeps DeviceClient.answers (withinDeadline env expired deadline wait) := by
  unfold withinDeadline
  split
  · exact Prog.Keeps.ret _
  · exact keeps_nowMs.bind fun _ =>
      Prog.Keeps.ite (Prog.Keeps.raise _) (Prog.Keeps.ret _)

variable (env) in
theorem keeps_pause (expired : Exc) (deadline : Option Int) (wait : Int) :
    Prog.Keeps DeviceClient.answers (pause env expired deadline wait) :=
  (keeps_withinDeadline env expired deadline wait).bind fun _ =>
    Prog.Keeps.bind (fun _ => rfl) fun _ => keeps_withinDeadline env expired deadline 0

variable (env) in
theorem keeps_waitTurn (grant : Grant) (p : Polling) :
    Prog.Keeps DeviceClient.answers (waitTurn env grant p) :=
  keeps_nowMs.bind fun _ => Prog.Keeps.ite (Prog.Keeps.raise _)
    (Prog.Keeps.bind (fun _ => rfl) fun _ =>
      keeps_withinDeadline env grantExpired (some grant.deadline) 0)

/-! ## What an exception comes to -/

/-- The loop takes the exception for a transient failure. -/
def GoesOn (e : Exc) : Prop := ∀ p : Polling, (p.after e).isSome = true

/-- The loop rethrows it. -/
def Stops (e : Exc) : Prop := ∀ p : Polling, p.after e = none

theorem goesOn_network (what cause : Str) : GoesOn (.network what cause) := fun _ => rfl

theorem stops_of_not_axiam {e : Exc} (h : e.isAxiam = false) : Stops e := by
  intro p
  cases e with
  | axiam _ => cases h
  | invalidArgument _ | json _ | foreign _ => rfl

/-- The loop sorts an exception as its answer deserves: rethrown when the answer surfaces, and
taken for transient when it does not. -/
def SortedBy (env : GrantEnv) (resp : HttpResponse) (e : Exc) : Prop :=
  (Surfaces env resp → Stops e) ∧ (¬Surfaces env resp → GoesOn e)

/-- What a named refusal that is not pending comes to. -/
theorem sorted_protocol {resp : HttpResponse} {code : Str} (hfail : resp.isSuccess = false)
    (hcode : errorCode env resp = some code) (hpending : ¬Pending env resp)
    (hlimit : resp.status ≠ 429) (message : Str) (description : Option Str) (hint : Option Int) :
    SortedBy env resp (.axiam (.oauthProtocol message code description hint (some resp.status))) := by
  have hnot429 : some resp.status ≠ some 429 := fun h => hlimit (Option.some.inj h)
  refine ⟨fun h p => ?_, fun h p => ?_⟩
  · have hcode' := (surfaces_some env hfail hcode).mp h
    have hwait : code ≠ str "authorization_pending" := fun h => hpending (.inl (by rw [hcode, h]))
    have hslow : code ≠ str "slow_down" := fun h => hpending (.inr (by rw [hcode, h]))
    show (if _ then _ else _) = none
    rw [if_neg (not_or.mpr ⟨hcode', hnot429⟩), if_neg hwait, if_neg hslow]
  · rw [surfaces_some env hfail hcode, not_not] at h
    show (if _ then _ else _ : Option Polling).isSome = true
    rw [if_pos (.inl h)]
    rfl

theorem retryAfter_ok (resp : HttpResponse) (c : DeviceClient) :
    ∃ hint c', retryAfter env resp c = (.ok hint, c') := by
  unfold retryAfter
  cases resp.headers.find? "Retry-After" with
  | none => exact ⟨_, _, rfl⟩
  | some _ => exact ⟨_, _, rfl⟩

/-- A decisive refusal is rethrown exactly when it surfaces. -/
theorem raiseGrantError_outcome {resp : HttpResponse} (hdecisive : Decisive env resp)
    (hfail : resp.isSuccess = false) (context : Str) (c : DeviceClient) :
    ∃ e, (raiseGrantError env context resp c : Except Exc Str × _).1 = .error e ∧
      SortedBy env resp e := by
  rcases hdecisive.status with hsuccess | ⟨hlow, hhigh, -, hlimit, hpending⟩
  · rw [hfail] at hsuccess
    cases hsuccess
  have hredirect : ¬(300 ≤ resp.status ∧ resp.status < 400) := by omega
  unfold raiseGrantError
  rw [if_neg hredirect]
  dsimp only
  cases hcode : optString (parseOrObject env.client resp.body) "error" with
  | some code =>
      have hsorted := sorted_protocol hfail hcode hpending hlimit
      dsimp only
      obtain ⟨hint, c', hhint⟩ := retryAfter_ok resp c
      rw [Prog.bind_run_ok hhint]
      exact ⟨_, rfl, hsorted _ _ _⟩
  | none =>
      have hsurfaces := surfaces_none env hfail hcode
      by_cases hauth : resp.status = 401
      · rw [if_pos hauth]
        exact ⟨_, rfl, fun _ _ => rfl, fun h => absurd (hsurfaces.mpr (.inl hauth)) h⟩
      rw [if_neg hauth]
      by_cases hdenied : resp.status = 403 ∨ resp.status = 409
      · rw [if_pos hdenied]
        exact ⟨_, rfl, fun _ _ => rfl, fun h => absurd (hsurfaces.mpr (.inr hdenied)) h⟩
      · rw [if_neg hdenied]
        refine ⟨_, rfl, fun h => ?_, fun _ => goesOn_network _ _⟩
        exact absurd (hsurfaces.mp h) (not_or.mpr ⟨hauth, hdenied⟩)

/-- And so is what `token_grant` makes of it. -/
theorem readGrant_outcome {resp : HttpResponse} (hdecisive : Decisive env resp)
    (hfail : resp.isSuccess = false) (context : Str) (c : DeviceClient) :
    ∃ e, (readGrant env true context resp c).1 = .error e ∧ SortedBy env resp e := by
  have hraise := raiseGrantError_outcome hdecisive hfail context c
  rcases hdecisive.status with hsuccess | ⟨-, hhigh, -, hlimit, -⟩
  · rw [hfail] at hsuccess
    cases hsuccess
  unfold readGrant
  rw [if_neg (not_not.mpr hdecisive.delivered), hfail, if_neg Bool.false_ne_true,
    if_neg (by omega), if_neg fun h => hlimit h.2]
  exact hraise

theorem readGrant_success {resp : HttpResponse} (hdelivered : resp.transportError = [])
    (hsuccess : resp.isSuccess = true) (context : Str) :
    readGrant env true context resp = pure resp.body := by
  unfold readGrant
  rw [if_neg (not_not.mpr hdelivered), if_pos hsuccess]

/-! ## Reading the tokens -/

/-- A transport reports a failure in its response; what it throws is no exception of the SDK. -/
def ThrowsForeign (transport : List HttpRequest → HttpRequest → Answer) : Prop :=
  ∀ sent req e, transport sent req = .error e → e.isAxiam = false

/-- From whatever state, what `m` throws is no exception of the SDK. -/
def Foreign {σ α : Type} (m : Prog σ Exc α) : Prop :=
  Prog.Triple (fun _ => True) m (fun _ _ => True) fun e _ => e.isAxiam = false

section

variable {σ α β : Type}

theorem Foreign.ret (a : α) : Foreign (pure a : Prog σ Exc α) := fun _ _ => trivial

theorem Foreign.modify (f : σ → σ) : Foreign (Prog.modify f : Prog σ Exc Unit) := fun _ _ => trivial

theorem Foreign.read : Foreign (Prog.read : Prog σ Exc σ) := fun _ _ => trivial

theorem Foreign.json (x : Except JsonError α) : Foreign (Prog.lift (liftJson x) : Prog σ Exc α) := by
  intro s _
  cases x with
  | ok _ => trivial
  | error _ => rfl

theorem Foreign.bind {m : Prog σ Exc α} {k : α → Prog σ Exc β} (hm : Foreign m)
    (hk : ∀ a, Foreign (k a)) : Foreign (m >>= k) :=
  Prog.Triple.bind hm fun a => hk a

theorem Foreign.ite {c : Prop} [Decidable c] {m n : Prog σ Exc α} (hm : Foreign m)
    (hn : Foreign n) : Foreign (if c then m else n) :=
  Prog.Triple.ite (fun _ => hm) fun _ => hn

end

theorem foreign_addAll (items : List Json) : Foreign (Jwks.addAll items) := by
  induction items with
  | nil => exact Foreign.ret _
  | cons k rest ih => exact (Foreign.json _).bind fun _ => (Foreign.modify _).bind fun _ => ih

section

variable {jenv : Jwks.Env} (hkeys : ThrowsForeign jenv.transport)

include hkeys

theorem foreign_ensureKeysLocked : Foreign (Jwks.ensureKeysLocked jenv) := by
  have hsend : ∀ req, Foreign (Jwks.transport jenv req) := by
    intro req s _
    unfold Jwks.transport
    cases hanswer : jenv.transport s.sent req with
    | ok _ => trivial
    | error e => exact hkeys s.sent req e hanswer
  have hload : ∀ body, Foreign (Jwks.loadFromJson jenv body) := by
    intro body
    refine (Foreign.modify _).bind fun _ => ?_
    split
    · exact Foreign.ret _
    · exact foreign_addAll _
  unfold Jwks.ensureKeysLocked
  refine Foreign.bind (fun _ _ => trivial) fun time => Foreign.read.bind fun s =>
    Foreign.ite (Foreign.ret _) ((hsend _).bind fun resp => Foreign.ite (Foreign.ret _) ?_)
  exact (hload _).bind fun _ => Foreign.modify _

theorem foreign_findKey (kid : Str) : Foreign (Jwks.findKey jenv kid) := by
  have hensure := foreign_ensureKeysLocked hkeys
  unfold Jwks.findKey
  refine hensure.bind fun _ => Foreign.read.bind fun s => ?_
  split
  · exact Foreign.ret _
  · refine Foreign.bind (fun _ _ => trivial) fun time => Foreign.ite (Foreign.ret _) ?_
    exact (Foreign.modify _).bind fun _ => hensure.bind fun _ => Foreign.read.bind fun _ =>
      Foreign.ret _

/-- A verification throws nothing of the SDK's own. -/
theorem foreign_verifyWithReason (jwt : Str) : Foreign (Jwks.verifyWithReason jenv jwt) := by
  unfold Jwks.verifyWithReason
  split
  · exact Foreign.ret _
  · refine (Foreign.json _).bind fun kid => ?_
    split
    · exact Foreign.ret _
    · refine (foreign_findKey hkeys _).bind fun jwk => ?_
      split <;> exact Foreign.ret _

end

/-- Whatever a reader refuses with is rethrown. -/
def Refuses {α : Type} (x : Except Exc α) : Prop := ∀ e, x = .error e → Stops e

section

variable {α β : Type}

theorem refuses_ok (a : α) : Refuses (.ok a) := nofun

theorem refuses_claims (what : Str) (reason : OidcValidationReason) :
    Refuses (refuseClaims what reason : Except Exc α) := by
  rintro e ⟨⟩
  exact fun _ => rfl

theorem refuses_json (x : Except JsonError α) : Refuses (liftJson x) := by
  intro e h
  cases x with
  | ok _ => cases h
  | error _ =>
      cases h
      exact fun _ => rfl

theorem refuses_bind {x : Except Exc α} {f : α → Except Exc β} (hx : Refuses x)
    (hf : ∀ a, Refuses (f a)) : Refuses (x >>= f) := by
  intro e h
  cases x with
  | ok a => exact hf a e h
  | error _ =>
      cases h
      exact hx e rfl

theorem refuses_ite {c : Prop} [Decidable c] {x y : Except Exc α} (hx : Refuses x)
    (hy : Refuses y) : Refuses (if c then x else y) := by
  split
  · exact hx
  · exact hy

end

theorem refuses_clientId (operation : Str) : Refuses (requireClientId env operation) := by
  intro e h
  unfold requireClientId at h
  split at h
  · cases h
  · cases h
    exact fun _ => rfl

theorem refuses_times (j : Json) (now skew : Int) : Refuses (checkTimes j now skew) := by
  unfold checkTimes
  split
  · exact refuses_claims _ _
  · refine refuses_ite (refuses_claims _ _) ?_
    split
    · exact refuses_claims _ _
    · exact refuses_ite (refuses_claims _ _) (refuses_ite (refuses_claims _ _) (refuses_ok _))

theorem refuses_checkIdClaims (j : Json) (config : OidcConfiguration) (nonce : Option Str)
    (payload : Str) (now : Int) : Refuses (checkIdClaims env j config nonce payload now) := by
  unfold checkIdClaims
  refine refuses_bind (refuses_clientId _) fun clientId => refuses_ite (refuses_claims _ _)
    (refuses_ite (refuses_claims _ _) (refuses_bind (refuses_times _ _ _) fun times => ?_))
  refine refuses_ite (refuses_claims _ _) (refuses_bind (refuses_json _) fun subject => ?_)
  exact refuses_ok _

/-- Every refusal of an ID token is rethrown. -/
theorem stops_readIdToken (hkeys : ThrowsForeign env.jwks.transport) (config : OidcConfiguration)
    (nonce : Option Str) (idToken : Str) :
    Prog.Triple (fun _ => True) (readIdToken env config nonce idToken) (fun _ _ => True)
      fun e _ => Stops e := by
  have hverify : Prog.Triple (fun _ => True)
      (onVerifier (Jwks.verifyWithReason env.jwks idToken)) (fun _ _ => True) fun e _ => Stops e := by
    intro c _
    have hforeign := foreign_verifyWithReason hkeys idToken c.verifier trivial
    unfold onVerifier Prog.zoom
    rcases hrun : Jwks.verifyWithReason env.jwks idToken c.verifier with ⟨e | v, t⟩
    · rw [hrun] at hforeign
      exact stops_of_not_axiam hforeign
    · trivial
  have hnow : Prog.Triple (fun _ => True) (nowSeconds env) (fun _ _ => True) fun e _ => Stops e :=
    fun _ _ => trivial
  unfold readIdToken
  refine hverify.bind fun v => ?_
  cases v with
  | error reason => exact Prog.Triple.raise fun _ _ _ => rfl
  | ok payload =>
      refine Prog.Triple.ite (fun _ => Prog.Triple.raise fun _ _ _ => rfl) fun _ => hnow.bind ?_
      intro now
      exact Prog.Triple.lift (fun _ _ _ _ => trivial) fun e _ h _ =>
        refuses_checkIdClaims _ _ _ _ _ e h

/-- A token response is refused for good, unless it has no access token. -/
theorem parseTokenSet_outcome (hkeys : ThrowsForeign env.jwks.transport)
    (config : OidcConfiguration) {resp : HttpResponse} (hsuccess : resp.isSuccess = true) :
    Prog.Triple (fun _ => True) (parseTokenSet env resp.body config none)
      (fun _ _ => Surfaces env resp) fun e _ => SortedBy env resp e := by
  have hsurfaces := surfaces_success env hsuccess
  unfold parseTokenSet
  dsimp only
  cases haccess : optString (parseOrObject env.client resp.body) "access_token" with
  | none =>
      rw [haccess] at hsurfaces
      refine Prog.Triple.raise fun _ _ => ⟨fun h => ?_, fun _ => goesOn_network _ _⟩
      cases hsurfaces.mp h
  | some access =>
      have hsurfaces : Surfaces env resp := hsurfaces.mpr (by rw [haccess]; rfl)
      have hreturn : ∀ set, Prog.Triple (fun _ => True) (pure set : Prog DeviceClient Exc OidcTokenSet)
          (fun _ _ => Surfaces env resp) fun e _ => SortedBy env resp e :=
        fun set => Prog.Triple.ret fun _ _ => hsurfaces
      dsimp only
      split
      · exact hreturn _
      · refine Prog.Triple.bind (Prog.Triple.weaken (stops_readIdToken hkeys config none _)
          (fun _ h => h) (fun _ _ h => h) fun e _ hstops => ?_) fun claims => hreturn _
        exact ⟨fun _ => hstops, fun h => absurd hsurfaces h⟩

/-! ## One poll -/

/-- The answers after those of `before`: some that decide nothing. -/
def Tried (env : GrantEnv) (before : List Answer) (c : DeviceClient) : Prop :=
  ∃ tried, Undecided env tried ∧ c.answers = before ++ tried

/-- And `resp` after them. -/
def TriedThen (env : GrantEnv) (before : List Answer) (resp : HttpResponse) (c : DeviceClient) :
    Prop :=
  ∃ tried, Undecided env tried ∧ c.answers = before ++ tried ++ [.ok resp]

theorem keeps_triple {α : Type} {m : Prog DeviceClient Exc α}
    (h : Prog.Keeps DeviceClient.answers m) (before : List Answer) :
    Prog.Triple (fun c => c.answers = before) m (fun _ c => c.answers = before)
      fun _ c => c.answers = before := by
  intro c hc
  have hkeep := h c
  rcases hrun : m c with ⟨e | a, c'⟩ <;> rw [hrun] at hkeep
  · exact hkeep.trans hc
  · exact hkeep.trans hc

theorem exchangeToken_answers (req : HttpRequest) (before : List Answer) :
    Prog.Triple (fun c => c.answers = before) (exchangeToken env req)
      (fun resp c => c.answers = before ++ [.ok resp])
      fun e c => c.answers = before ++ [.error e] := by
  intro c hc
  unfold exchangeToken
  dsimp only
  cases env.client.transport c.client.impl.sent req with
  | ok resp => exact congrArg (· ++ [Except.ok resp]) hc
  | error e => exact congrArg (· ++ [Except.error e]) hc

/-- The attempts of a poll: what is tried again decides nothing. -/
theorem attemptGrant_answers (req : HttpRequest) (deadline : Option Int) (left attempt : Nat)
    (before : List Answer) :
    Prog.Triple (fun c => c.answers = before) (attemptGrant env req true deadline left attempt)
      (fun resp c => TriedThen env before resp c) fun _ c => Tried env before c := by
  have hfirst : ∀ before, Prog.Triple (fun c => c.answers = before) (exchangeToken env req)
      (fun resp c => c.answers = before ++ [.ok resp]) fun _ c => Tried env before c :=
    fun before => (exchangeToken_answers req before).weaken (fun _ h => h) (fun _ _ h => h)
      fun e _ h => ⟨_, undecided_error e, h⟩
  have hdone : ∀ before resp c, c.answers = before ++ [Except.ok resp] →
      TriedThen env before resp c :=
    fun before resp c h => ⟨[], undecided_nil, by rw [h, List.append_nil]⟩
  induction left generalizing attempt before with
  | zero => exact (hfirst before).weaken (fun _ h => h) (hdone before) fun _ _ h => h
  | succ left ih =>
      refine (hfirst before).bind fun resp => ?_
      dsimp only
      refine Prog.Triple.ite (fun _ => Prog.Triple.ret (hdone before resp)) fun hretry => ?_
      refine Prog.Triple.ite (fun _ => Prog.Triple.ret (hdone before resp)) fun _ => ?_
      have hundecided : ¬Decisive env resp := not_decisive_of_retry (by simpa using hretry)
      -- the waits between two attempts ask nothing
      have hwait : ∀ {α : Type} {m : Prog DeviceClient Exc α}, Prog.Keeps DeviceClient.answers m →
          Prog.Triple (fun c => c.answers = before ++ [.ok resp]) m
            (fun _ c => c.answers = before ++ [.ok resp]) fun _ c => Tried env before c :=
        fun h => (keeps_triple h _).weaken (fun _ h => h) (fun _ _ h => h)
          fun _ _ h => ⟨_, undecided_cons hundecided undecided_nil, h⟩
      refine (hwait (keeps_retryAfter answers_inert.ticks resp)).bind fun hint => ?_
      refine (hwait (keeps_retryDelay answers_inert.ticks attempt hint)).bind fun delay => ?_
      refine (hwait (keeps_pause env grantExpired deadline delay)).bind fun _ => ?_
      refine (ih (attempt + 1) (before ++ [.ok resp])).weaken (fun _ h => h) ?_ ?_
      · rintro last c ⟨tried, htried, hanswers⟩
        exact ⟨.ok resp :: tried, undecided_cons hundecided htried, by rw [hanswers]; simp⟩
      · rintro e c ⟨tried, htried, hanswers⟩
        exact ⟨.ok resp :: tried, undecided_cons hundecided htried, by rw [hanswers]; simp⟩

/-- A refusal returns nothing. -/
theorem returns_raiseGrantError {α : Type} {R : α → DeviceClient → Prop} (context : Str)
    (resp : HttpResponse) : Prog.Returns (raiseGrantError env context resp : Prog _ _ α) R := by
  unfold raiseGrantError
  refine Prog.Returns.ite (fun _ => Prog.Returns.raise _) fun _ => ?_
  dsimp only
  cases optString (parseOrObject env.client resp.body) "error" with
  | some code => exact Prog.Returns.seq fun _ => Prog.Returns.raise _
  | none =>
      exact Prog.Returns.ite (fun _ => Prog.Returns.raise _) fun _ =>
        Prog.Returns.ite (fun _ => Prog.Returns.raise _) fun _ => Prog.Returns.raise _

theorem returns_readGrant (context : Str) (resp : HttpResponse) :
    Prog.Returns (readGrant env true context resp) fun body _ =>
      resp.isSuccess = true ∧ body = resp.body := by
  unfold readGrant
  refine Prog.Returns.ite (fun _ => Prog.Returns.raise _) fun _ =>
    Prog.Returns.ite (fun hsuccess => Prog.Returns.ret fun _ => ⟨hsuccess, rfl⟩) fun _ =>
      Prog.Returns.ite (fun _ => Prog.Returns.raise _) fun _ =>
        Prog.Returns.ite (fun _ => ?_) fun _ => returns_raiseGrantError context resp
  exact Prog.Returns.seq fun _ => Prog.Returns.raise _

/-- What `token_grant` makes of a response: the body of a `2xx`, or how it is refused. -/
theorem readGrant_answers (context : Str) (resp : HttpResponse) (before : List Answer) :
    Prog.Triple (fun c => TriedThen env before resp c) (readGrant env true context resp)
      (fun body c => TriedThen env before resp c ∧ resp.isSuccess = true ∧ body = resp.body)
      fun e c => TriedThen env before resp c ∧
        (Decisive env resp → resp.isSuccess = false ∧ SortedBy env resp e) := by
  rintro c ⟨tried, htried, hc⟩
  have hkeep : (readGrant env true context resp c).2.answers = c.answers :=
    keeps_readGrant answers_inert.toBeside true context resp c
  rcases hrun : readGrant env true context resp c with ⟨e | body, c'⟩ <;> rw [hrun] at hkeep
  · refine ⟨⟨tried, htried, hkeep.trans hc⟩, fun hdecisive => ?_⟩
    have hfail : resp.isSuccess = false := by
      by_contra hsuccess
      rw [readGrant_success hdecisive.delivered (by simpa using hsuccess)] at hrun
      cases hrun
    obtain ⟨e', herr, hsorted⟩ := readGrant_outcome hdecisive hfail context c
    rw [hrun] at herr
    cases herr
    exact ⟨hfail, hsorted⟩
  · exact ⟨⟨tried, htried, hkeep.trans hc⟩, (returns_readGrant context resp).elim hrun⟩

/-- What a poll comes to, and the answers it got. -/
inductive Polled (env : GrantEnv) (config : OidcConfiguration) (before : List Answer) :
    Except Exc OidcTokenSet → DeviceClient → Prop
  | failed {e : Exc} {c : DeviceClient} : Tried env before c → Polled env config before (.error e) c
  | refused {resp : HttpResponse} {e : Exc} {c : DeviceClient} : TriedThen env before resp c →
      (Decisive env resp → resp.isSuccess = false ∧ SortedBy env resp e) →
      Polled env config before (.error e) c
  | answered {resp : HttpResponse} {c₁ c : DeviceClient} {outcome : Except Exc OidcTokenSet} :
      TriedThen env before resp c → resp.isSuccess = true →
      parseTokenSet env resp.body config none c₁ = (outcome, c) →
      Polled env config before outcome c

variable (env) in
theorem tokenGrant_polled (config : OidcConfiguration) (tenant form context : Str)
    (deadline : Option Int) (before : List Answer) :
    Prog.Triple (fun c => c.answers = before)
      (tokenGrant env config tenant form true context deadline)
      (fun body c => ∃ resp, TriedThen env before resp c ∧ resp.isSuccess = true ∧
        body = resp.body)
      fun e c => Polled env config before (.error e) c := by
  unfold tokenGrant
  have hlift : ∀ x : Except Exc (Option Str), Prog.Triple (fun c => c.answers = before)
      (Prog.lift x) (fun _ c => c.answers = before) fun e c => Polled env config before (.error e) c :=
    fun x => Prog.Triple.lift (fun _ _ _ h => h) fun e c _ h =>
      .failed ⟨[], undecided_nil, by rw [h, List.append_nil]⟩
  refine (hlift _).bind fun endpoint => ?_
  refine ((attemptGrant_answers _ _ _ _ _).weaken (fun _ h => h) (fun _ _ h => h)
    fun e c h => .failed h).bind fun resp => ?_
  exact (readGrant_answers context resp before).weaken (fun _ h => h)
    (fun body c h => ⟨resp, h⟩) fun e c h => .refused h.1 h.2

variable (env) in
theorem devicePollWith_polled (grant : Grant) (c : DeviceClient) :
    Polled env grant.config c.answers (devicePollWith env grant c).1
      (devicePollWith env grant c).2 := by
  unfold devicePollWith
  generalize Form.str _ = form
  show Polled env grant.config c.answers
    ((tokenGrant env grant.config grant.tenant form true "device poll failed" (some grant.deadline) >>=
      fun body => parseTokenSet env body grant.config none : Prog _ _ _) c).1 _
  have hgrant := tokenGrant_polled env grant.config grant.tenant form "device poll failed"
    (some grant.deadline) c.answers c rfl
  rw [Prog.bind_run]
  rcases hrun : tokenGrant env grant.config grant.tenant form true "device poll failed"
    (some grant.deadline) c with ⟨e | body, c₁⟩
  · rw [hrun] at hgrant
    exact hgrant
  · rw [hrun] at hgrant
    obtain ⟨resp, htried, hsuccess, rfl⟩ := hgrant
    obtain ⟨tried, hundecided, hanswers⟩ := htried
    have hthen : TriedThen env c.answers resp (parseTokenSet env resp.body grant.config none c₁).2 :=
      ⟨tried, hundecided,
        (keeps_parseTokenSet answers_inert.toBeside resp.body grant.config none c₁).trans hanswers⟩
    exact .answered hthen hsuccess rfl

/-! ## One turn of the loop -/

/-- What a turn of the loop comes to: a decisive answer is the last one, and it ends the loop
exactly when it surfaces. -/
inductive Turned (env : GrantEnv) (config : OidcConfiguration) (before : List Answer) :
    DeviceLogin → Prop
  | undecided {s : DeviceLogin} : Tried env before s.client → Turned env config before s
  | decided {resp : HttpResponse} {s : DeviceLogin} : TriedThen env before resp s.client →
      (Decisive env resp → Surfaces env resp → ∃ outcome, s.progress = .ended outcome ∧
        (resp.isSuccess = true → ∃ c, parseTokenSet env resp.body config none c =
          (outcome, s.client))) →
      (Decisive env resp → ¬Surfaces env resp → ∃ p, s.progress = .polling p) →
      Turned env config before s

/-- The loop after an exception of its poll, and after any outcome of it. -/
def Polling.caught (p : Polling) (c : DeviceClient) (e : Exc) : DeviceLogin :=
  match p.after e with
  | some next => ⟨c, .polling next.kept⟩
  | none => ⟨c, .ended (.error e)⟩

def Polling.settle (p : Polling) (c : DeviceClient) : Except Exc OidcTokenSet → DeviceLogin
  | .ok set => ⟨c, .ended (.ok set)⟩
  | .error e => p.caught c e

theorem settle_client (p : Polling) (c : DeviceClient) (outcome : Except Exc OidcTokenSet) :
    (p.settle c outcome).client = c := by
  cases outcome with
  | ok _ => rfl
  | error e =>
      show (p.caught c e).client = c
      unfold Polling.caught
      cases p.after e <;> rfl

theorem settle_stops {e : Exc} (h : Stops e) (p : Polling) (c : DeviceClient) :
    (p.settle c (.error e)).progress = .ended (.error e) := by
  show (p.caught c e).progress = _
  unfold Polling.caught
  rw [h p]

theorem settle_goesOn {e : Exc} (h : GoesOn e) (p : Polling) (c : DeviceClient) :
    ∃ next, (p.settle c (.error e)).progress = .polling next := by
  obtain ⟨next, hnext⟩ := Option.isSome_iff_exists.mp (h p)
  refine ⟨next.kept, ?_⟩
  show (p.caught c e).progress = _
  unfold Polling.caught
  rw [hnext]

/-- The poll of a turn. -/
theorem polled_turned (hkeys : ThrowsForeign env.jwks.transport) {config : OidcConfiguration}
    {before : List Answer} {c : DeviceClient} {outcome : Except Exc OidcTokenSet}
    (h : Polled env config before outcome c) (p : Polling) :
    Turned env config before (p.settle c outcome) := by
  have hclient := settle_client p c outcome
  cases h with
  | @failed e c htried => exact .undecided (by rwa [hclient])
  | @refused resp e c htried hsorted =>
      rw [← hclient] at htried
      refine .decided htried (fun hdecisive hsurfaces => ?_)
        fun hdecisive hsurfaces => settle_goesOn ((hsorted hdecisive).2.2 hsurfaces) p c
      obtain ⟨hfail, hsorted⟩ := hsorted hdecisive
      refine ⟨_, settle_stops (hsorted.1 hsurfaces) p c, fun hsuccess => ?_⟩
      rw [hfail] at hsuccess
      cases hsuccess
  | @answered resp c₁ c outcome htried hsuccess hparse =>
      have hread := parseTokenSet_outcome hkeys config hsuccess c₁ trivial
      rw [hparse] at hread
      cases outcome with
      | ok set =>
          exact .decided htried (fun _ _ => ⟨_, rfl, fun _ => ⟨c₁, hparse⟩⟩)
            fun _ hsurfaces => absurd hread hsurfaces
      | error e =>
          rw [← hclient] at htried
          refine .decided htried (fun _ hsurfaces => ?_)
            fun _ hsurfaces => settle_goesOn (hread.2 hsurfaces) p c
          refine ⟨_, settle_stops (hread.1 hsurfaces) p c, fun _ => ⟨c₁, ?_⟩⟩
          rw [hclient]
          exact hparse

/-- A turn whose waits fit before the deadline is its poll. -/
theorem turn_turned (hkeys : ThrowsForeign env.jwks.transport) (grant : Grant) (p : Polling)
    (c : DeviceClient) :
    Turned env grant.config c.answers (DeviceLogin.turn env grant p c) := by
  have hkeep := keeps_waitTurn env grant p c
  unfold DeviceLogin.turn pollOnce
  rcases hrun : waitTurn env grant p c with ⟨e | _, d⟩
  · rw [hrun] at hkeep
    rw [Prog.bind_run_error hrun]
    exact .undecided ⟨[], undecided_nil, by rw [List.append_nil]; exact hkeep⟩
  rw [hrun] at hkeep
  rw [Prog.bind_run_ok hrun, Prog.tryCatch_run]
  have hpolled := devicePollWith_polled env grant d
  rw [hkeep] at hpolled
  have hturned := polled_turned hkeys hpolled p
  rcases hpoll : devicePollWith env grant d with ⟨e | set, d'⟩
  · rw [hpoll] at hturned
    rw [Prog.bind_run_error hpoll]
    unfold Polling.settle Polling.caught at hturned
    dsimp only at hturned ⊢
    cases hafter : p.after e with
    | some next =>
        rw [hafter] at hturned
        exact hturned
    | none =>
        rw [hafter] at hturned
        exact hturned
  · rw [hpoll] at hturned
    rw [Prog.bind_run_ok hpoll]
    exact hturned

/-! ## The loop -/

section

variable (env)

/-- A decisive answer is the last one, and the call has ended: after a `2xx` with what reading
and validating its body came to. -/
def Terminal (config : OidcConfiguration) (s : DeviceLogin) : Prop :=
  ∀ earlier resp later, s.client.answers = earlier ++ .ok resp :: later → Decisive env resp →
    later = [] ∧ ∃ outcome, s.progress = .ended outcome ∧
      (resp.isSuccess = true → ∃ c, parseTokenSet env resp.body config none c =
        (outcome, s.client))

/-- Every decisive answer so far surfaces. -/
def AllSurface (s : DeviceLogin) : Prop :=
  ∀ resp, .ok resp ∈ s.client.answers → Decisive env resp → Surfaces env resp

end

/-- While the loop goes on, nothing decisive has been answered. -/
theorem Terminal.undecided {config : OidcConfiguration} {s : DeviceLogin} {p : Polling}
    (h : Terminal env config s) (hpolling : s.progress = .polling p) :
    Undecided env s.client.answers := by
  intro resp hmem hdecisive
  obtain ⟨earlier, later, hsplit⟩ := List.append_of_mem hmem
  obtain ⟨-, outcome, hended, -⟩ := h earlier resp later hsplit hdecisive
  rw [hpolling] at hended
  cases hended

theorem terminal_of_undecided {config : OidcConfiguration} {s : DeviceLogin}
    (h : Undecided env s.client.answers) : Terminal env config s := by
  intro earlier resp later hsplit hdecisive
  refine absurd hdecisive (h resp ?_)
  rw [hsplit]
  exact List.mem_append_right _ List.mem_cons_self

theorem undecided_append {first second : List Answer} (hfirst : Undecided env first)
    (hsecond : Undecided env second) : Undecided env (first ++ second) := by
  intro resp hmem
  rcases List.mem_append.mp hmem with hmem | hmem
  · exact hfirst resp hmem
  · exact hsecond resp hmem

/-- After answers that decide nothing, a decisive answer is the last one. -/
theorem decisive_last {before earlier later : List Answer} {last resp : HttpResponse}
    (hbefore : Undecided env before)
    (hsplit : before ++ [.ok last] = earlier ++ .ok resp :: later) (hdecisive : Decisive env resp) :
    later = [] ∧ resp = last := by
  rcases List.eq_nil_or_concat later with rfl | ⟨init, z, rfl⟩
  · have hlast := (List.append_inj' hsplit rfl).2
    cases hlast
    exact ⟨rfl, rfl⟩
  · have hpre : before = earlier ++ .ok resp :: init := by
      rw [List.concat_eq_append, ← List.cons_append, ← List.append_assoc] at hsplit
      exact (List.append_inj' hsplit rfl).1
    refine absurd hdecisive (hbefore resp ?_)
    rw [hpre]
    exact List.mem_append_right _ List.mem_cons_self

/-- One turn: it leaves the loop terminal exactly when what it was answered surfaces. -/
theorem turn_terminal (hkeys : ThrowsForeign env.jwks.transport) {grant : Grant}
    {s t : DeviceLogin} {u : Unit} (hs : Terminal env grant.config s)
    (hstep : DeviceLogin.Turns env grant s u t) :
    Terminal env grant.config t ↔ AllSurface env t := by
  obtain ⟨p, hpolling, ht⟩ := hstep
  have hbefore := hs.undecided hpolling
  have hturned := turn_turned hkeys grant p s.client
  rw [← ht] at hturned
  cases hturned with
  | undecided htried =>
      obtain ⟨tried, htried, hanswers⟩ := htried
      have hall : Undecided env t.client.answers := by
        rw [hanswers]
        exact undecided_append hbefore htried
      exact ⟨fun _ resp hmem hdecisive => absurd hdecisive (hall resp hmem),
        fun _ => terminal_of_undecided hall⟩
  | @decided last _ htried hended hgoes =>
      obtain ⟨tried, htried, hanswers⟩ := htried
      have hall := undecided_append hbefore htried
      have hmem : .ok last ∈ t.client.answers := by
        rw [hanswers]
        exact List.mem_append_right _ List.mem_cons_self
      refine ⟨fun hterminal resp hresp hdecisive => ?_,
        fun hsurface earlier resp later hsplit hdecisive => ?_⟩
      · -- had it not surfaced, the loop would go on
        by_contra hsurfaces
        obtain ⟨earlier, later, hsplit⟩ := List.append_of_mem hresp
        obtain ⟨-, outcome, hover, -⟩ := hterminal earlier resp later hsplit hdecisive
        rw [hanswers] at hsplit
        obtain ⟨-, rfl⟩ := decisive_last hall hsplit hdecisive
        obtain ⟨next, hpolling'⟩ := hgoes hdecisive hsurfaces
        rw [hpolling'] at hover
        cases hover
      · rw [hanswers] at hsplit
        obtain ⟨hlater, rfl⟩ := decisive_last hall hsplit hdecisive
        exact ⟨hlater, hended hdecisive (hsurface _ hmem hdecisive)⟩

/-- The answers of a run are kept. -/
theorem mem_answers_of_run (hkeys : ThrowsForeign env.jwks.transport) {grant : Grant}
    {s last : DeviceLogin} {trace : List (Transition DeviceLogin Unit)}
    (hrun : Run (DeviceLogin.Turns env grant) s trace last) {a : Answer}
    (ha : a ∈ s.client.answers) : a ∈ last.client.answers := by
  refine (hrun.invariant (I := fun t => a ∈ t.client.answers) ?_ ha).1
  rintro t _ _ ht ⟨p, -, rfl⟩
  cases turn_turned hkeys grant p t.client with
  | undecided htried =>
      obtain ⟨tried, -, hanswers⟩ := htried
      rw [hanswers]
      exact List.mem_append_left _ ht
  | decided htried _ _ =>
      obtain ⟨tried, -, hanswers⟩ := htried
      rw [hanswers]
      exact List.mem_append_left _ (List.mem_append_left _ ht)

variable (env) in
/-- The start of a login asks the token endpoint nothing. -/
theorem keeps_startLogin (display : DeviceAuthorization → Except Exc Unit)
    (scope tenantId : Option Str) :
    Prog.Keeps DeviceClient.answers (startLogin env display scope tenantId) := by
  unfold startLogin
  have hf := answers_inert
  exact (keeps_onClient hf _).bind fun _ => (keeps_deviceAuthorize env hf _ _).bind fun authorization =>
    (Prog.Keeps.lift _).bind fun _ => (Prog.Keeps.lift _).bind fun clientId =>
      (Prog.Keeps.lift _).bind fun tenant => (keeps_onClient hf _).bind fun config =>
        keeps_nowMs.bind fun start => Prog.Keeps.ret _

/-- **Terminality of the device grant.**  For every script of answers, every clock and every start
of the loop: after each turn a decisive answer is the last one and has ended the call, exactly
when every decisive answer surfaces. -/
theorem device_login_terminal_iff (hkeys : ThrowsForeign env.jwks.transport)
    {display : DeviceAuthorization → Except Exc Unit} {scope tenantId : Option Str}
    {c₀ c : DeviceClient} {grant : Grant} {p : Polling} (hfresh : c₀.answers = [])
    (hstart : startLogin env display scope tenantId c₀ = (.ok (grant, p), c))
    {trace : List (Transition DeviceLogin Unit)} {last : DeviceLogin}
    (hrun : Run (DeviceLogin.Turns env grant) ⟨c, .polling p⟩ trace last) :
    (∀ t ∈ trace, Terminal env grant.config t.post) ↔ AllSurface env last := by
  have hnone : c.answers = [] := by
    have hkeep := keeps_startLogin env display scope tenantId c₀
    rw [hstart] at hkeep
    exact hkeep.trans hfresh
  have hfirst : Terminal env grant.config ⟨c, .polling p⟩ := by
    refine terminal_of_undecided fun resp hmem => ?_
    rw [show (DeviceLogin.mk c (.polling p)).client.answers = [] from hnone] at hmem
    cases hmem
  have hsurface : AllSurface env ⟨c, .polling p⟩ := by
    intro resp hmem
    rw [show (DeviceLogin.mk c (.polling p)).client.answers = [] from hnone] at hmem
    cases hmem
  clear hstart hnone
  generalize (⟨c, .polling p⟩ : DeviceLogin) = s at hrun hfirst hsurface
  induction hrun with
  | nil s => exact ⟨fun _ => hsurface, fun _ _ h => absurd h List.not_mem_nil⟩
  | @cons s t u l rest hstep hrest ih =>
      have hturn := turn_terminal hkeys hfirst hstep
      constructor
      · intro h
        have ht := h _ List.mem_cons_self
        exact (ih ht (hturn.mp ht)).mp fun v hv => h v (List.mem_cons_of_mem _ hv)
      · intro h v hv
        have hsurface : AllSurface env t := fun resp hmem =>
          h resp (mem_answers_of_run hkeys hrest hmem)
        have ht := hturn.mpr hsurface
        rcases List.mem_cons.mp hv with rfl | hv
        · exact ht
        · exact (ih ht hsurface).mpr h v hv

/-! ## Two scripts -/

/-- The documents of a provider, and three answers of its token endpoint. -/
def deviceParse : Parser := fun text =>
  if text = str "discovery" then
    some (.object [("issuer", .string "i"), ("authorization_endpoint", .string "a"),
      ("token_endpoint", .string "t"), ("jwks_uri", .string "j"),
      ("device_authorization_endpoint", .string "d")])
  else if text = str "authorization" then
    some (.object [("device_code", .string "dc"), ("user_code", .string "uc"),
      ("verification_uri", .string "v"), ("expires_in", .integer 600)])
  else if text = str "pending" then some (.object [("error", .string "authorization_pending")])
  else if text = str "tokens" then some (.object [("access_token", .string "token")])
  else none

/-- A provider that answers the polls from a script, at a clock that stands still. -/
def deviceEnv (script : List HttpResponse) : GrantEnv where
  client := {
    baseUrl := "https://axiam.example"
    tenantId := some "11111111-2222-3333-4444-555555555555"
    tenantHeader := "acme"
    parse := deviceParse
    dump := fun _ => []
    transport := fun sent _ => .ok ((⟨200, [], [], "discovery", []⟩ ::
      ⟨200, [], [], "authorization", []⟩ :: script).getD sent.length {})
    clock := fun _ => 0
    opaqueStart := fun _ _ => .ok []
    opaqueFinish := fun _ _ _ _ => .ok [] }
  jwks := {
    baseUrl := "https://axiam.example"
    cacheTtl := 300
    parse := fun _ => none
    ed25519Verify := fun _ _ _ => false
    transport := fun _ _ => .ok {}
    clock := fun _ => 0 }
  oidcClientId := some "device"
  nowMs := fun _ => 0
  nowSeconds := fun _ => 0
  jittered := fun _ _ => 0
  httpDate := fun _ => none

theorem deviceEnv_keys (script : List HttpResponse) :
    ThrowsForeign (deviceEnv script).jwks.transport := by
  intro _ _ _ h
  cases h

/-- The start of a login there. -/
def deviceStart (script : List HttpResponse) : Except Exc (Grant × Polling) × DeviceClient :=
  startLogin (deviceEnv script) (fun _ => .ok ()) none none {}

def Progress.polling? : Progress → Option Polling
  | .polling p => some p
  | .ended _ => none

theorem Progress.polling_of {progress : Progress} {p : Polling} (h : progress.polling? = some p) :
    progress = .polling p := by
  cases progress with
  | polling _ => cases h; rfl
  | ended _ => cases h

/-- The first two turns of a login there. -/
structure TwoTurns (script : List HttpResponse) where
  starts : (deviceStart script).1.toOption.isSome = true
  next : Polling
  goesOn : (DeviceLogin.turn (deviceEnv script) ((deviceStart script).1.toOption.get starts).1
    ((deviceStart script).1.toOption.get starts).2 (deviceStart script).2).progress.polling? = some next

namespace TwoTurns

variable {script : List HttpResponse} (two : TwoTurns script)

def grant : Grant := ((deviceStart script).1.toOption.get two.starts).1

def start : Polling := ((deviceStart script).1.toOption.get two.starts).2

def first : DeviceLogin := DeviceLogin.turn (deviceEnv script) two.grant two.start (deviceStart script).2

def last : DeviceLogin := DeviceLogin.turn (deviceEnv script) two.grant two.next two.first.client

def trace : List (Transition DeviceLogin Unit) :=
  [⟨⟨(deviceStart script).2, .polling two.start⟩, (), two.first⟩, ⟨two.first, (), two.last⟩]

theorem started : startLogin (deviceEnv script) (fun _ => .ok ()) none none {} =
    (.ok (two.grant, two.start), (deviceStart script).2) :=
  Prod.ext (ok_of_isSome two.starts) rfl

theorem run : Run (DeviceLogin.Turns (deviceEnv script) two.grant)
    ⟨(deviceStart script).2, .polling two.start⟩ two.trace two.last :=
  .cons ⟨two.start, rfl, rfl⟩ (.cons ⟨two.next, Progress.polling_of two.goesOn, rfl⟩ (.nil _))

end TwoTurns

def pendingScript : List HttpResponse := [⟨400, [], [], "pending", []⟩, ⟨200, [], [], "tokens", []⟩]

/-- A decision that is pending, and then the tokens. -/
def pendingThenTokens : TwoTurns pendingScript where
  starts := by decide
  next := ⟨5, 0⟩
  goesOn := by decide

theorem pendingThenTokens_terminal : pendingThenTokens.trace ≠ [] ∧
    ∀ t ∈ pendingThenTokens.trace,
      Terminal (deviceEnv pendingScript) pendingThenTokens.grant.config t.post := by
  refine ⟨nofun, ?_⟩
  refine (device_login_terminal_iff (deviceEnv_keys _) rfl pendingThenTokens.started
    pendingThenTokens.run).mpr fun resp hmem hdecisive => ?_
  have hanswers : pendingThenTokens.last.client.answers = pendingScript.map .ok := by
    decide
  rw [hanswers] at hmem
  rcases List.mem_cons.mp hmem with heq | hmem
  · cases heq
    rcases hdecisive.status with hsuccess | ⟨-, -, -, -, hpending⟩
    · cases hsuccess
    · exact absurd (.inl (by decide)) hpending
  · cases List.mem_singleton.mp hmem
    exact (surfaces_success _ rfl).mpr (by decide)

def emptyScript : List HttpResponse := [⟨200, [], [], [], []⟩, ⟨200, [], [], "tokens", []⟩]

/-- A `200` with nothing in it, and then the tokens. -/
def emptyThenTokens : TwoTurns emptyScript where
  starts := by decide
  next := ⟨5, 0⟩
  goesOn := by decide

/-- A `200` without an access token is polled past, and the tokens of the next poll are returned. -/
theorem empty_answer_polled_past :
    startLogin (deviceEnv emptyScript) (fun _ => .ok ()) none none {} =
        (.ok (emptyThenTokens.grant, emptyThenTokens.start), (deviceStart emptyScript).2) ∧
      Run (DeviceLogin.Turns (deviceEnv emptyScript) emptyThenTokens.grant)
        ⟨(deviceStart emptyScript).2, .polling emptyThenTokens.start⟩ emptyThenTokens.trace
        emptyThenTokens.last ∧
      emptyThenTokens.last.client.answers = emptyScript.map .ok ∧
      ¬∀ t ∈ emptyThenTokens.trace,
        Terminal (deviceEnv emptyScript) emptyThenTokens.grant.config t.post := by
  have hanswers : emptyThenTokens.last.client.answers = emptyScript.map .ok := by decide
  refine ⟨emptyThenTokens.started, emptyThenTokens.run, hanswers, fun hterminal => ?_⟩
  have hlast := hterminal _ (List.mem_cons_of_mem _ List.mem_cons_self) [] _ _ hanswers
    ⟨rfl, .inl (by decide)⟩
  cases hlast.1

end Axiam.Oidc
