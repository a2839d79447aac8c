import Axiam.Client.Requests
import Axiam.Core.OriginReading
import Axiam.Oidc.IdToken
import Axiam.Oidc.Polling
import Axiam.Oidc.Registration

/-!
# Where a registration's bearer goes

The three calls on a client registration (`src/oidc.cpp`) take the URI and the bearer that manages
it from their caller, and send the one to the other.  The URI must be at the origin of the
client's base URL; the two are compared without the brackets of an address.
-/

namespace Axiam.Oidc

open Axiam.Lib Axiam.Client

/-- `check_registration_uri`. -/
def checkRegistrationUri (baseUrl uri operation : Str) : Except Exc Unit :=
  let base := originOf baseUrl
  let target := originOf uri
  let schemeOk := target.any fun t => t.scheme == str "https" || t.scheme == str "http"
  let cleartext := target.any (·.scheme == str "http") && !base.any (isLoopbackHost ·.host)
  if base.isNone ∨ schemeOk = false ∨ target ≠ base ∨ cleartext then
    .error (.invalidArgument (operation ++
      str (": registration_client_uri must be an https URL at the configured AXIAM origin " ++
        "(scheme, host and port of the client's base URL; http only for a loopback base " ++
        "URL) — refused before any request (CONTRACT.md §28.12.2 rule 1)")))
  else .ok ()

section

variable (env : GrantEnv)

/-- The budget of a registration request, less its first attempt. -/
def registrationRetries (retryable : Bool) : Nat :=
  if retryable && env.client.retryEnabled then kRetryMaxAttempts - 1 else 0

/-- The one request of a call on a registration. -/
def registrationHttp (method uri token body : Str) (retryable : Bool) : HttpRequest where
  method := method
  url := uri
  headers :=
    [(str "Accept", str "application/json"), (str "Authorization", str "Bearer " ++ token)] ++
      if body = [] then [] else [(str "Content-Type", str "application/json")]
  body := body
  sessionless := true
  replayable := 0 < registrationRetries env retryable

/-- The last answer of a registration request. -/
def settleRegistration (operation : Str) (resp : HttpResponse) :
    Prog DeviceClient Exc HttpResponse :=
  if resp.transportError ≠ [] then
    throw (.network (operation ++ str " failed: " ++ resp.transportError) resp.transportError)
  else if resp.isSuccess = false then raiseGrantError env (operation ++ str " failed") resp
  else pure resp

/-- The attempts of `registration_request`, with `left` retries after this one. -/
def attemptRegistration (operation : Str) (req : HttpRequest) :
    Nat → Nat → Prog DeviceClient Exc HttpResponse
  | 0, _ => do
      let resp ← onClient (onImpl (transport env.client req))
      settleRegistration env operation resp
  | left + 1, attempt => do
      let resp ← onClient (onImpl (transport env.client req))
      -- a success is not tried again
      if retryShouldRetry (exchangeStatus resp) = false then settleRegistration env operation resp
      else do
        let hint ← retryAfter env resp
        let delay ← retryDelay env attempt hint
        sleep delay
        attemptRegistration operation req left (attempt + 1)

/-- `registration_request`. -/
def registrationRequest (method uri token body : Str) (retryable : Bool) (operation : Str) :
    Prog DeviceClient Exc HttpResponse :=
  attemptRegistration env operation (registrationHttp env method uri token body retryable)
    (registrationRetries env retryable) 1

/-- `decode_registration`. -/
def decodeRegistration (resp : HttpResponse) (operation : Str) : Except Exc ClientRegistration :=
  match fromJson env.client resp.body with
  | .ok r => .ok r
  | .error e =>
      if e.isNetwork then .error (.network (operation ++ str ": " ++ e.what) "malformed_body")
      else .error e

/-- `read_client_registration`. -/
def readClientRegistration (uri token : Str) : Prog DeviceClient Exc ClientRegistration := do
  onClient (onImpl ensureOpen)
  Prog.lift (checkRegistrationUri env.client.baseUrl uri "read_client_registration")
  let resp ← registrationRequest env "GET" uri token [] true "read_client_registration"
  Prog.lift (decodeRegistration env resp "read_client_registration")

/-- `update_client_registration`. -/
def updateClientRegistration (uri token : Str) (metadata : ClientRegistration) :
    Prog DeviceClient Exc ClientRegistration := do
  onClient (onImpl ensureOpen)
  Prog.lift (checkRegistrationUri env.client.baseUrl uri "update_client_registration")
  let body ← Prog.lift (updateBody env.client metadata)
  let resp ← registrationRequest env "PUT" uri token body false "update_client_registration"
  Prog.lift (decodeRegistration env resp "update_client_registration")

/-- `delete_client_registration`. -/
def deleteClientRegistration (uri token : Str) : Prog DeviceClient Exc Unit := do
  onClient (onImpl ensureOpen)
  Prog.lift (checkRegistrationUri env.client.baseUrl uri "delete_client_registration")
  let _ ← registrationRequest env "DELETE" uri token [] false "delete_client_registration"
  pure ()

/-- A call on a registration. -/
inductive RegistrationCall where
  | read
  | update (metadata : ClientRegistration)
  | delete

def RegistrationCall.run (uri token : Str) : RegistrationCall → Prog DeviceClient Exc Unit
  | .read => do
      let _ ← readClientRegistration env uri token
      pure ()
  | .update metadata => do
      let _ ← updateClientRegistration env uri token metadata
      pure ()
  | .delete => deleteClientRegistration env uri token

end

/-! ## The check -/

theorem checkRegistrationUri_ok_iff {baseUrl uri operation : Str} :
    checkRegistrationUri baseUrl uri operation = .ok () ↔
      ∃ o, originOf baseUrl = some o ∧ originOf uri = some o ∧ isSecureOrLoopback o = true := by
  unfold checkRegistrationUri
  cases hbase : originOf baseUrl with
  | none => simp
  | some base =>
      cases htarget : originOf uri with
      | none => simp
      | some target =>
          by_cases hsame : target = base
          · subst hsame
            have hone : (∃ o, some target = some o ∧ some target = some o ∧
                isSecureOrLoopback o = true) ↔ isSecureOrLoopback target = true :=
              ⟨fun ⟨_, heq, _, h⟩ => Option.some.inj heq ▸ h, fun h => ⟨_, rfl, rfl, h⟩⟩
            have hif : ∀ (c : Prop) [Decidable c] (e : Exc),
                (if c then Except.error e else .ok ()) = .ok () ↔ ¬c := fun c _ e => by
              by_cases hc : c <;> simp [hc]
            rw [hone, hif]
            unfold isSecureOrLoopback
            simp only [Option.any_some, Option.isNone_some]
            generalize hhttps : (target.scheme == str "https") = https
            generalize hhttp : (target.scheme == str "http") = http
            generalize isLoopbackHost target.host = loopback
            have hdistinct : (https && http) = false := by
              rw [← hhttps, ← hhttp, Bool.and_eq_false_iff, beq_eq_false_iff_ne,
                beq_eq_false_iff_ne]
              by_cases h : target.scheme = str "https"
              · exact .inr (h ▸ by decide)
              · exact .inl h
            cases https <;> cases http <;> cases loopback <;> simp_all
          · simp [hsame]

/-- A scheme that is `https` or `http` is one that may stand there. -/
theorem plainScheme_of_secure {url : Str} {o : Origin} {scheme rest host port : Str}
    (h : Splits url o scheme rest host port) (hsecure : isSecureOrLoopback o = true) :
    58 ∉ scheme ∧ ∀ c ∈ scheme, Uri.endsAuthority c = false := by
  have hlower : lower scheme = str "https" ∨ lower scheme = str "http" := by
    rw [← h.scheme_eq]
    unfold isSecureOrLoopback at hsecure
    simp only [Bool.or_eq_true, Bool.and_eq_true, beq_iff_eq] at hsecure
    exact hsecure.imp_right And.left
  have hletters : ∀ c ∈ lower scheme, c ≠ 58 ∧ Uri.endsAuthority c = false := by
    rcases hlower with hlower | hlower <;> rw [hlower] <;> exact forall_mem_of_all (by decide)
  refine ⟨fun hc => ?_, fun c hc => ?_⟩
  · exact (hletters 58 ((mem_lower (by decide) (by decide) scheme).mpr hc)).1 rfl
  · cases hends : Uri.endsAuthority c with
    | false => rfl
    | true =>
        have hmark : c = 47 ∨ c = 63 ∨ c = 35 := by
          simpa [Uri.endsAuthority, or_assoc] using hends
        have hmem : c ∈ lower scheme := by
          rcases hmark with rfl | rfl | rfl <;>
            exact (mem_lower (by decide) (by decide) scheme).mpr hc
        rw [← hends]
        exact (hletters c hmem).2

/-- Of two texts that the check takes for one origin, one reads as the other's origin when their
hosts are both in brackets or both not. -/
theorem sameOrigin_iff {base uri : Str} {o : Origin} (hbase : originOf base = some o)
    (huri : originOf uri = some o) (hsecure : isSecureOrLoopback o = true) :
    SameOrigin base uri ↔ isBracketed uri = isBracketed base := by
  obtain ⟨s, _, _, _, hsplits⟩ := originOf_eq_some hbase
  obtain ⟨hcolon, hplain⟩ := plainScheme_of_secure hsplits hsecure
  obtain ⟨a, ha, habracket⟩ := hsplits.assigns hcolon hplain
  obtain ⟨t, _, _, _, hsplits'⟩ := originOf_eq_some huri
  obtain ⟨hcolon', hplain'⟩ := plainScheme_of_secure hsplits' hsecure
  obtain ⟨b, hb, hbbracket⟩ := hsplits'.assigns hcolon' hplain'
  constructor
  · rintro ⟨s', a', t', b', hreadBase, hreadUri, -, hbrackets, -⟩
    have heqa := ha.reads.symm.trans hreadBase
    have heqb := hb.reads.symm.trans hreadUri
    cases heqa
    cases heqb
    rw [← habracket, ← hbbracket, hbrackets]
  · intro hbrackets
    exact ⟨s, a, t, b, ha.reads, hb.reads, hb.scheme.trans ha.scheme.symm,
      by rw [hbbracket, habracket, hbrackets], hb.host.trans ha.host.symm,
      hb.port.trans ha.port.symm, hb.noUserinfo⟩

/-! ## What is sent -/

section

variable (env : GrantEnv)

/-- What has been sent so far. -/
def sentSoFar (c : DeviceClient) : List HttpRequest := c.client.impl.sent

/-- Whatever `m` sends is `req`. -/
def Repeats {α : Type} (req : HttpRequest) (m : Prog DeviceClient Exc α) : Prop :=
  ∀ s, ∃ n, sentSoFar (m s).2 = sentSoFar s ++ List.replicate n req

section

variable {α β : Type} {req : HttpRequest}

theorem Repeats.silent {m : Prog DeviceClient Exc α} (h : Prog.Keeps sentSoFar m) :
    Repeats req m := fun s => ⟨0, (h s).trans (List.append_nil _).symm⟩

theorem Repeats.after {m : Prog DeviceClient Exc α} {k : α → Prog DeviceClient Exc β}
    (hm : Prog.Keeps sentSoFar m) (hk : ∀ a, Repeats req (k a)) : Repeats req (m >>= k) := by
  intro s
  rw [Prog.bind_run]
  have hfirst := hm s
  rcases hrun : m s with ⟨e | a, t⟩ <;> rw [hrun] at hfirst
  · exact ⟨0, hfirst.trans (List.append_nil _).symm⟩
  · obtain ⟨n, hn⟩ := hk a t
    exact ⟨n, by rw [hn, show sentSoFar t = sentSoFar s from hfirst]⟩

/-- What is sent first, and what is made of the answer. -/
theorem Repeats.exchange {k : HttpResponse → Prog DeviceClient Exc β}
    (hk : ∀ resp, Repeats req (k resp)) (s : DeviceClient) :
    ∃ n, sentSoFar ((onClient (onImpl (transport env.client req)) >>= k) s).2 =
      sentSoFar s ++ req :: List.replicate n req := by
  have hfirst : sentSoFar (onClient (onImpl (transport env.client req)) s).2 =
      sentSoFar s ++ [req] := rfl
  rw [Prog.bind_run]
  rcases hrun : onClient (onImpl (transport env.client req)) s with ⟨e | resp, t⟩ <;>
    rw [hrun] at hfirst
  · exact ⟨0, hfirst⟩
  · obtain ⟨n, hn⟩ := hk resp t
    refine ⟨n, hn.trans ?_⟩
    rw [show sentSoFar t = sentSoFar s ++ [req] from hfirst, List.append_assoc]
    rfl

end

/-- The attempts send their request, once or more, and nothing else. -/
theorem attemptRegistration_sent (operation : Str) (req : HttpRequest) (left attempt : Nat)
    (s : DeviceClient) : ∃ n, sentSoFar (attemptRegistration env operation req left attempt s).2 =
      sentSoFar s ++ req :: List.replicate n req := by
  have hsettle : ∀ resp, Prog.Keeps sentSoFar (settleRegistration env operation resp) :=
    fun resp => .ite (.raise _) (.ite (keeps_raiseGrantError (fun _ _ => rfl) _ resp) (.ret _))
  induction left generalizing attempt s with
  | zero => exact Repeats.exchange env (fun resp => .silent (hsettle resp)) s
  | succ left ih =>
      refine Repeats.exchange env (fun resp => ?_) s
      by_cases hdone : retryShouldRetry (exchangeStatus resp) = false
      · rw [if_pos hdone]
        exact .silent (hsettle resp)
      · rw [if_neg hdone]
        refine .after (keeps_retryAfter (fun _ _ => rfl) resp) fun hint =>
          .after (keeps_retryDelay (fun _ _ => rfl) attempt hint) fun delay =>
            .after (fun _ => rfl) fun _ t => ?_
        obtain ⟨n, hn⟩ := ih (attempt + 1) t
        exact ⟨n + 1, hn⟩

/-- A request with the bearer, to the URI. -/
def Bears (uri token : Str) (req : HttpRequest) : Prop :=
  req.url = uri ∧ req.headers.find? "Authorization" = some (str "Bearer " ++ token)

/-- Whatever `m` sends goes to the URI, with the bearer. -/
def Presents {α : Type} (uri token : Str) (m : Prog DeviceClient Exc α) : Prop :=
  ∀ s, ∃ new, sentSoFar (m s).2 = sentSoFar s ++ new ∧ ∀ req ∈ new, Bears uri token req

section

variable {α β : Type} {uri token : Str}

theorem Presents.silent {m : Prog DeviceClient Exc α} (h : Prog.Keeps sentSoFar m) :
    Presents uri token m := fun s => ⟨[], (h s).trans (List.append_nil _).symm, by simp⟩

/-- What follows a program and sends nothing. -/
theorem sentSoFar_bind {m : Prog DeviceClient Exc α} {k : α → Prog DeviceClient Exc β}
    (hk : ∀ a, Prog.Keeps sentSoFar (k a)) (s : DeviceClient) :
    sentSoFar ((m >>= k) s).2 = sentSoFar (m s).2 := by
  rw [Prog.bind_run]
  rcases hrun : m s with ⟨e | a, t⟩
  · rfl
  · exact hk a t

/-- Where only the first half sends. -/
theorem Presents.first {m : Prog DeviceClient Exc α} {k : α → Prog DeviceClient Exc β}
    (hm : Presents uri token m) (hk : ∀ a, Prog.Keeps sentSoFar (k a)) :
    Presents uri token (m >>= k) := by
  intro s
  rw [sentSoFar_bind hk]
  exact hm s

/-- Where only the second half sends. -/
theorem Presents.second {m : Prog DeviceClient Exc α} {k : α → Prog DeviceClient Exc β}
    (hm : Prog.Keeps sentSoFar m) (hk : ∀ a, Presents uri token (k a)) :
    Presents uri token (m >>= k) := by
  intro s
  rw [Prog.bind_run]
  have hfirst := hm s
  rcases hrun : m s with ⟨e | a, t⟩ <;> rw [hrun] at hfirst
  · exact ⟨[], Eq.trans hfirst (List.append_nil _).symm, by simp⟩
  · have hsame : sentSoFar t = sentSoFar s := hfirst
    rw [← hsame]
    exact hk a t

theorem registrationRequest_presents (method body : Str) (retryable : Bool) (operation : Str) :
    Presents uri token (registrationRequest env method uri token body retryable operation) := by
  intro s
  obtain ⟨n, hn⟩ := attemptRegistration_sent env operation
    (registrationHttp env method uri token body retryable) (registrationRetries env retryable) 1 s
  refine ⟨_, hn, fun req hreq => ?_⟩
  -- every attempt is the one request
  have heq : req = registrationHttp env method uri token body retryable := by
    rcases List.mem_cons.mp hreq with heq | hreq
    · exact heq
    · exact (List.mem_replicate.mp hreq).2
  subst heq
  exact ⟨rfl, by unfold registrationHttp; rfl⟩

end

theorem keeps_ensureOpen : Prog.Keeps sentSoFar (onClient (onImpl ensureOpen)) := fun c =>
  ensureOpen_keeps (f := Impl.sent) c.client.impl

/-- A call sends its bearer to the URI it was given. -/
theorem RegistrationCall.run_presents (uri token : Str) (call : RegistrationCall) :
    Presents uri token (call.run env uri token) := by
  cases call with
  | read =>
      refine .first (.second (keeps_ensureOpen) fun _ => .second (.lift _) fun _ =>
        .first (registrationRequest_presents env _ _ _ _) fun _ => .lift _) fun _ => .ret _
  | update metadata =>
      refine .first (.second (keeps_ensureOpen) fun _ => .second (.lift _) fun _ =>
        .second (.lift _) fun _ =>
          .first (registrationRequest_presents env _ _ _ _) fun _ => .lift _) fun _ => .ret _
  | delete =>
      exact .second (keeps_ensureOpen) fun _ => .second (.lift _) fun _ =>
        .first (registrationRequest_presents env _ _ _ _) fun _ => .ret _

/-- It sends nothing when the URI does not pass the check. -/
theorem RegistrationCall.run_checked {uri token : Str} {call : RegistrationCall}
    {s : DeviceClient} (h : sentSoFar (call.run env uri token s).2 ≠ sentSoFar s) :
    ∃ operation, checkRegistrationUri env.client.baseUrl uri operation = .ok () := by
  have hrefused : ∀ {β : Type} (operation : Str) (k : Unit → Prog DeviceClient Exc β),
      checkRegistrationUri env.client.baseUrl uri operation ≠ .ok () →
      Prog.Keeps sentSoFar (onClient (onImpl ensureOpen) >>= fun _ =>
        Prog.lift (checkRegistrationUri env.client.baseUrl uri operation) >>= k) := by
    intro β operation k hno
    refine .bind keeps_ensureOpen fun _ t => ?_
    cases hcheck : checkRegistrationUri env.client.baseUrl uri operation with
    | ok u => exact absurd hcheck hno
    | error e => rfl
  by_contra hno
  rw [not_exists] at hno
  refine h ?_
  cases call with
  | read => exact Prog.Keeps.bind (hrefused _ _ (hno _)) (fun _ => .ret _) s
  | update metadata => exact Prog.Keeps.bind (hrefused _ _ (hno _)) (fun _ => .ret _) s
  | delete => exact hrefused _ _ (hno _) s

/-- A URI that passes the check is sent something. -/
theorem readClientRegistration_sends {uri : Str} (token : Str)
    (h : ∀ operation, checkRegistrationUri env.client.baseUrl uri operation = .ok ()) :
    sentSoFar (RegistrationCall.read.run env uri token {}).2 ≠ sentSoFar {} := by
  obtain ⟨n, hn⟩ := attemptRegistration_sent env "read_client_registration"
    (registrationHttp env "GET" uri token [] true) (registrationRetries env true) 1 {}
  have hrun : onClient (onImpl ensureOpen) ({} : DeviceClient) = (.ok (), {}) := by
    rw [onClient, onImpl, Prog.zoom, Prog.zoom, ensureOpen_run_open rfl]
  have hread : readClientRegistration env uri token {} =
      (registrationRequest env "GET" uri token [] true "read_client_registration" >>= fun resp =>
        Prog.lift (decodeRegistration env resp "read_client_registration")) {} := by
    unfold readClientRegistration
    rw [Prog.bind_run_ok hrun, h]
    rfl
  show sentSoFar ((readClientRegistration env uri token >>= fun _ => pure ()) {}).2 ≠ _
  rw [sentSoFar_bind fun _ => .ret _, hread, sentSoFar_bind fun _ => .lift _,
    show sentSoFar (registrationRequest env "GET" uri token [] true "read_client_registration"
      {}).2 = _ from hn]
  simp

/-- The bearer of a registration goes to the URI, and to nothing but the origin of the base URL. -/
def BearerStays (uri : Str) : Prop :=
  ∀ (call : RegistrationCall) (token : Str) (s : DeviceClient),
    ∃ new, sentSoFar (call.run env uri token s).2 = sentSoFar s ++ new ∧
      ∀ req ∈ new, Bears uri token req ∧ SameOrigin env.client.baseUrl req.url

/-- The bearer goes to an origin as soon as one call may send it. -/
theorem BearerStays.sameOrigin {uri : Str} (h : BearerStays env uri) (token : Str)
    (hchecked : ∀ operation, checkRegistrationUri env.client.baseUrl uri operation = .ok ()) :
    SameOrigin env.client.baseUrl uri := by
  obtain ⟨new, hsent, hnew⟩ := h .read token {}
  cases new with
  | nil =>
      rw [List.append_nil] at hsent
      exact absurd hsent (readClientRegistration_sends env token hchecked)
  | cons req rest =>
      obtain ⟨⟨rfl, -⟩, horigin⟩ := hnew req List.mem_cons_self
      exact horigin

/-- Whatever `origin_of` accepts of a text is what the text reads as. -/
def OriginRead (url : Str) : Prop :=
  ∀ o, originOf url = some o → ∃ s a, Assigns url o s a

/-- The bearer stays when the hosts that are taken for one are both in brackets or both not, and
a text is read as it should be when what stands before its `://` could be a scheme. -/
theorem registration_bearer_iff (uri url : Str) :
    (BearerStays env uri ↔ ∀ o, originOf env.client.baseUrl = some o → originOf uri = some o →
        isSecureOrLoopback o = true → isBracketed uri = isBracketed env.client.baseUrl) ∧
      (OriginRead url ↔ ((originOf url).isSome = true → PlainScheme url)) := by
  constructor
  · constructor
    · intro hstays o hbase huri hsecure
      refine (sameOrigin_iff hbase huri hsecure).mp (hstays.sameOrigin env [] ?_)
      exact fun operation => checkRegistrationUri_ok_iff.mpr ⟨o, hbase, huri, hsecure⟩
    · intro hbrackets call token s
      obtain ⟨new, hsent, hnew⟩ := RegistrationCall.run_presents env uri token call s
      refine ⟨new, hsent, fun req hreq => ⟨hnew req hreq, ?_⟩⟩
      -- something was sent, so the URI had passed the check
      have hgrew : sentSoFar (call.run env uri token s).2 ≠ sentSoFar s := by
        rw [hsent]
        exact fun heq => List.ne_nil_of_mem hreq (List.append_right_eq_self.mp heq)
      obtain ⟨operation, hcheck⟩ := RegistrationCall.run_checked env hgrew
      obtain ⟨o, hbase, huri, hsecure⟩ := checkRegistrationUri_ok_iff.mp hcheck
      rw [(hnew req hreq).1]
      exact (sameOrigin_iff hbase huri hsecure).mpr (hbrackets o hbase huri hsecure)
  · constructor
    · intro hread hsome
      obtain ⟨o, ho⟩ := Option.isSome_iff_exists.mp hsome
      exact (originOf_assigns_iff ho).mp (hread o ho)
    · intro hplain o ho
      exact (originOf_assigns_iff ho).mpr (hplain (Option.isSome_of_eq_some ho))

end

/-- The relying party's environment, at a base URL. -/
def rpEnvAt (baseUrl : Str) : GrantEnv :=
  { rpEnv rpParse with client := { (rpEnv rpParse).client with baseUrl } }

/-- An address of a version to come is taken for the name it looks like, and what is no scheme for
a scheme. -/
theorem bracketed_host_gets_bearer :
    ¬BearerStays (rpEnvAt (str "https://v1.a")) (str "https://[v1.a]/r/1") ∧
      ¬OriginRead (str "a/b://c") := by
  have hbase : originOf (str "https://v1.a") = some ⟨str "https", str "v1.a", 443⟩ := by
    decide
  have huri : originOf (str "https://[v1.a]/r/1") = some ⟨str "https", str "v1.a", 443⟩ := by
    decide
  constructor
  · intro hstays
    have hsame := hstays.sameOrigin _ [] fun operation =>
      checkRegistrationUri_ok_iff.mpr ⟨_, hbase, huri, by decide⟩
    have hbrackets := (sameOrigin_iff hbase huri (by decide)).mp hsame
    revert hbrackets
    decide
  · intro hread
    obtain ⟨s, a, hassigns⟩ := hread ⟨str "a/b", str "c", 0⟩ (by decide)
    have hreads := hassigns.reads
    rw [show reading (str "a/b://c") = none by decide] at hreads
    cases hreads

end Axiam.Oidc
