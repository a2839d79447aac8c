import Axiam.Lib.Prog
import Axiam.Lib.Run
import Axiam.Reactor.Reply
import Mathlib.Data.List.ReduceOption

/-!
# Serving reactor events

`reactor_serve` (`src/reactor.cpp`): verify a delivery, hand its event to the handler, look at the
clock, sign the answer and publish it, until the transport has no more.  Whatever goes wrong on the
way is no reply; only the transport's own exception ends the loop before its stream does.
-/

namespace Axiam.Reactor

open Axiam.Lib

/-! ## The loop and what it runs in -/

/-- One inbound message.  The runtime does not look at the property `correlationId`. -/
structure ReactorDelivery where
  body : Str
  replyTo : Str
  correlationId : Str

structure Publication where
  destination : Str
  correlationId : Str
  body : Str
  deriving DecidableEq

structure ReactorConfig where
  tenantId : Str
  signingKey : Str

/-- A handler, given the events it had before: it throws, abstains, or decides. -/
abbrev ReactorHandler : Type := List ReactorEvent → ReactorEvent → Except Exc (Option ReactorDecision)

/-- What `reactor_serve` calls besides the handler. -/
structure ServeEnv where
  lib : Library
  /-- `rfc3339_utc`. -/
  rfc3339Utc : Int → Str
  clock : Nat → Int
  nonceSource : Nat → Except Exc Str
  /-- What the transport makes of a reply, given those published before. -/
  publish : List Publication → Publication → Except Exc Unit

structure Serving where
  seenNonces : SeenNonces := fun _ => none
  /-- How often the clock was read, and how often a nonce was drawn. -/
  ticks : Nat := 0
  drawn : Nat := 0
  /-- The events the handler was called with. -/
  handled : List ReactorEvent := []
  published : List Publication := []

section

variable (env : ServeEnv) (config : ReactorConfig)

def clockNow : Prog Serving Exc Int := fun s => (.ok (env.clock s.ticks), { s with ticks := s.ticks + 1 })

def drawNonce : Prog Serving Exc Str := fun s => (env.nonceSource s.drawn, { s with drawn := s.drawn + 1 })

/-- A verification on the set of this call. -/
def verifyDelivery (body : Str) (receivedAt : Int) : Prog Serving Exc ReactorVerification := fun s =>
  let outcome := reactorVerifyEvent env.lib config.signingKey body config.tenantId receivedAt
    (some s.seenNonces)
  (.ok outcome.1, { s with seenNonces := outcome.2.getD s.seenNonces })

def callHandler (handler : ReactorHandler) (event : ReactorEvent) :
    Prog Serving Exc (Option ReactorDecision) := fun s =>
  (handler s.handled event, { s with handled := s.handled ++ [event] })

/-- The window of the event has closed since. -/
def windowClosed (event : ReactorEvent) (receivedAt : Int) : Prog Serving Exc Bool :=
  if 0 < event.timeoutMs then do
    let time ← clockNow env
    pure (event.timeoutMs < (time - receivedAt) * 1000)
  else pure false

/-- The signed reply, or none when anything on the way to it threw. -/
def signReply (event : ReactorEvent) (decision : ReactorDecision) : Prog Serving Exc (Option Str) :=
  tryCatch
    (do
      let nonce ← drawNonce env
      let time ← clockNow env
      let body ← Prog.lift (buildReply env.lib config.signingKey event.correlationId event.tenantId
        event.event decision nonce (env.rfc3339Utc time))
      pure (some body))
    fun _ => pure none

def publishReply (reply : Publication) : Prog Serving Exc Unit := fun s =>
  match env.publish s.published reply with
  | .ok () => (.ok (), { s with published := s.published ++ [reply] })
  | .error e => (.error e, s)

/-- Where a reply goes. -/
def ReactorDelivery.destination (delivery : ReactorDelivery) : Str :=
  if delivery.replyTo = [] then "axiam.reactor.replies" else delivery.replyTo

/-- The reply to a decision made in time. -/
def answer (delivery : ReactorDelivery) (event : ReactorEvent) (decision : ReactorDecision) :
    Prog Serving Exc Unit := do
  match ← signReply env config event decision with
  | none => pure ()
  | some body => publishReply env ⟨delivery.destination, event.correlationId, body⟩

/-- One round of the loop. -/
def serveOne (handler : ReactorHandler) (delivery : ReactorDelivery) : Prog Serving Exc Unit := do
  let receivedAt ← clockNow env
  match ← verifyDelivery env config delivery.body receivedAt with
  | .error _ => pure ()
  | .ok event =>
      match ← tryCatch (callHandler handler event) fun _ => pure none with
      | none => pure ()
      | some decision =>
          if ← windowClosed env event receivedAt then pure ()
          else answer env config delivery event decision

def serveAll (handler : ReactorHandler) : List ReactorDelivery → Prog Serving Exc Unit
  | [] => pure ()
  | delivery :: rest => do
      serveOne env config handler delivery
      serveAll handler rest

/-- `reactor_serve`, on a stream of deliveries. -/
def reactorServe (handler : Option ReactorHandler) (deliveries : List ReactorDelivery) :
    Prog Serving Exc Unit :=
  match handler with
  | none => throw (.auth "reactor_serve needs a handler")
  | some handler =>
      if config.tenantId = [] then throw (.auth "reactor_serve needs a tenant_id")
      else serveAll env config handler deliveries

/-! ## What a delivery is owed -/

/-- The verification of a delivery, on the set of the call. -/
def verdictOf (s : Serving) (delivery : ReactorDelivery) : ReactorVerification × Option SeenNonces :=
  reactorVerifyEvent env.lib config.signingKey delivery.body config.tenantId (env.clock s.ticks)
    (some s.seenNonces)

/-- The reply to a delivery: it verifies, its handler decides in time, and the decision can be
signed. -/
def Owed (handler : ReactorHandler) (s : Serving) (delivery : ReactorDelivery)
    (reply : Publication) : Prop :=
  ∃ event decision nonce body,
    (verdictOf env config s delivery).1 = .ok event ∧
    handler s.handled event = .ok (some decision) ∧
    (0 < event.timeoutMs →
      (env.clock (s.ticks + 1) - env.clock s.ticks) * 1000 ≤ event.timeoutMs) ∧
    env.nonceSource s.drawn = .ok nonce ∧
    buildReply env.lib config.signingKey event.correlationId event.tenantId event.event decision
      nonce (env.rfc3339Utc (env.clock (s.ticks + if 0 < event.timeoutMs then 2 else 1))) =
        .ok body ∧
    reply = ⟨if delivery.replyTo = [] then "axiam.reactor.replies" else delivery.replyTo,
      event.correlationId, body⟩

/-- A round of the loop that returned. -/
def Serves (handler : ReactorHandler) (s : Serving) (delivery : ReactorDelivery) (t : Serving) :
    Prop := serveOne env config handler delivery s = (.ok (), t)

/-- A round that publishes what is owed, and nothing else. -/
structure Round (handler : ReactorHandler) (s : Serving) (delivery : ReactorDelivery)
    (outcome : Except Exc Unit) (t : Serving) : Prop where
  /-- The nonces seen are those this verification left. -/
  seen : t.seenNonces = (verdictOf env config s delivery).2.getD s.seenNonces
  replied : ∀ reply, Owed env config handler s delivery reply →
    outcome = env.publish s.published reply ∧
      t.published = s.published ++ if outcome.isOk then [reply] else []
  silent : (∀ reply, ¬Owed env config handler s delivery reply) →
    outcome = .ok () ∧ t.published = s.published

/-! ## One round -/

theorem clockNow_run (s : Serving) :
    clockNow env s = (.ok (env.clock s.ticks), { s with ticks := s.ticks + 1 }) := rfl

theorem windowClosed_run (event : ReactorEvent) (receivedAt : Int) (s : Serving) :
    windowClosed env event receivedAt s =
      (.ok (0 < event.timeoutMs ∧ event.timeoutMs < (env.clock s.ticks - receivedAt) * 1000 : Bool),
        { s with ticks := s.ticks + if 0 < event.timeoutMs then 1 else 0 }) := by
  unfold windowClosed
  by_cases h : 0 < event.timeoutMs
  · rw [if_pos h, Prog.bind_run_ok (clockNow_run env s), Prog.pure_run, if_pos h]
    simp [h]
  · rw [if_neg h, Prog.pure_run, if_neg h]
    simp [h]

/-- What `signReply` gives, whatever it reads on the way. -/
theorem signReply_run (event : ReactorEvent) (decision : ReactorDecision) (s : Serving) :
    ∃ t, signReply env config event decision s =
        (.ok (match env.nonceSource s.drawn with
          | .ok nonce => (buildReply env.lib config.signingKey event.correlationId event.tenantId
              event.event decision nonce (env.rfc3339Utc (env.clock s.ticks))).toOption
          | .error _ => none), t) ∧
      t.seenNonces = s.seenNonces ∧ t.published = s.published := by
  unfold signReply
  rw [Prog.tryCatch_run]
  rcases hnonce : env.nonceSource s.drawn with e | nonce
  · have hdraw : drawNonce env s = (.error e, { s with drawn := s.drawn + 1 }) := by
      unfold drawNonce
      rw [hnonce]
    rw [Prog.bind_run_error hdraw]
    exact ⟨_, rfl, rfl, rfl⟩
  · have hdraw : drawNonce env s = (.ok nonce, { s with drawn := s.drawn + 1 }) := by
      unfold drawNonce
      rw [hnonce]
    rw [Prog.bind_run_ok hdraw, Prog.bind_run_ok (clockNow_run env _), Prog.bind_run,
      Prog.lift_run]
    simp only
    rcases buildReply env.lib config.signingKey event.correlationId event.tenantId event.event
      decision nonce (env.rfc3339Utc (env.clock s.ticks)) with e | body
    · exact ⟨{ s with drawn := s.drawn + 1, ticks := s.ticks + 1 }, rfl, rfl, rfl⟩
    · exact ⟨{ s with drawn := s.drawn + 1, ticks := s.ticks + 1 }, rfl, rfl, rfl⟩

/-- A delivery to which nothing is owed, served in silence. -/
theorem Round.of_silent {handler : ReactorHandler} {s t : Serving} {delivery : ReactorDelivery}
    (hseen : t.seenNonces = (verdictOf env config s delivery).2.getD s.seenNonces)
    (hpublished : t.published = s.published)
    (hnone : ∀ reply, ¬Owed env config handler s delivery reply) :
    Round env config handler s delivery (.ok ()) t where
  seen := hseen
  replied reply howed := absurd howed (hnone reply)
  silent _ := ⟨rfl, hpublished⟩

/-- The end of a round whose handler decided in time. -/
theorem answer_round {handler : ReactorHandler} {s : Serving} {delivery : ReactorDelivery}
    {event : ReactorEvent} {decision : ReactorDecision}
    (hverdict : (verdictOf env config s delivery).1 = .ok event)
    (hanswer : handler s.handled event = .ok (some decision))
    (htime : 0 < event.timeoutMs →
      (env.clock (s.ticks + 1) - env.clock s.ticks) * 1000 ≤ event.timeoutMs) (u : Serving)
    (hseen : u.seenNonces = (verdictOf env config s delivery).2.getD s.seenNonces)
    (hpublished : u.published = s.published)
    (hticks : u.ticks = s.ticks + if 0 < event.timeoutMs then 2 else 1)
    (hdrawn : u.drawn = s.drawn) :
    Round env config handler s delivery (answer env config delivery event decision u).1
      (answer env config delivery event decision u).2 := by
  obtain ⟨t, hsign, hseen', hpublished'⟩ := signReply_run env config event decision u
  -- what is owed is this event's, this decision's and under this nonce
  have howed : ∀ reply, Owed env config handler s delivery reply → ∃ nonce body,
      env.nonceSource s.drawn = .ok nonce ∧
      buildReply env.lib config.signingKey event.correlationId event.tenantId event.event decision
        nonce (env.rfc3339Utc (env.clock u.ticks)) = .ok body ∧
      reply = ⟨delivery.destination, event.correlationId, body⟩ := by
    rintro reply ⟨event', decision', nonce, body, hok, hdecided, -, hnonce, hbody, rfl⟩
    rw [hverdict] at hok
    cases hok
    rw [hanswer] at hdecided
    cases hdecided
    rw [← hticks] at hbody
    exact ⟨nonce, body, hnonce, hbody, rfl⟩
  rw [hdrawn] at hsign
  unfold answer
  rw [Prog.bind_run_ok hsign]
  rcases hnonce : env.nonceSource s.drawn with e | nonce
  · refine Round.of_silent env config (hseen'.trans hseen) (hpublished'.trans hpublished) ?_
    intro reply h
    obtain ⟨nonce, _, hok, -⟩ := howed reply h
    rw [hnonce] at hok
    cases hok
  simp only
  rcases hbody : buildReply env.lib config.signingKey event.correlationId event.tenantId event.event
    decision nonce (env.rfc3339Utc (env.clock u.ticks)) with e | body
  · refine Round.of_silent env config (hseen'.trans hseen) (hpublished'.trans hpublished) ?_
    intro reply h
    obtain ⟨nonce', _, hok, hbuilt, -⟩ := howed reply h
    rw [hnonce] at hok
    cases hok
    rw [hbody] at hbuilt
    cases hbuilt
  · have hreply : Owed env config handler s delivery
        ⟨delivery.destination, event.correlationId, body⟩ :=
      ⟨event, decision, nonce, body, hverdict, hanswer, htime, hnonce, by rw [← hticks]; exact hbody,
        rfl⟩
    have hunique : ∀ reply, Owed env config handler s delivery reply →
        reply = ⟨delivery.destination, event.correlationId, body⟩ := by
      intro reply h
      obtain ⟨nonce', body', hok, hbuilt, rfl⟩ := howed reply h
      rw [hnonce] at hok
      cases hok
      rw [hbody] at hbuilt
      cases hbuilt
      rfl
    simp only [Except.toOption]
    unfold publishReply
    rw [hpublished', hpublished]
    refine ⟨?_, fun reply h => ?_, fun hnone => absurd hreply (hnone _)⟩
    · split <;> exact hseen'.trans hseen
    · rw [hunique reply h]
      split
      · rename_i hpublish
        exact ⟨hpublish.symm, rfl⟩
      · rename_i e hpublish
        refine ⟨hpublish.symm, ?_⟩
        show t.published = s.published ++ []
        rw [hpublished', hpublished, List.append_nil]

/-- Every round publishes what is owed. -/
theorem serveOne_round (handler : ReactorHandler) (s : Serving) (delivery : ReactorDelivery) :
    Round env config handler s delivery (serveOne env config handler delivery s).1
      (serveOne env config handler delivery s).2 := by
  have hverify : verifyDelivery env config delivery.body (env.clock s.ticks)
      { s with ticks := s.ticks + 1 } = (.ok (verdictOf env config s delivery).1,
        { s with
          ticks := s.ticks + 1
          seenNonces := (verdictOf env config s delivery).2.getD s.seenNonces }) := rfl
  unfold serveOne
  rw [Prog.bind_run_ok (clockNow_run env s), Prog.bind_run_ok hverify]
  cases hverdict : (verdictOf env config s delivery).1 with
  | error why =>
      refine Round.of_silent env config rfl rfl ?_
      rintro reply ⟨event, _, _, _, hok, -⟩
      rw [hverdict] at hok
      cases hok
  | ok event =>
      simp only
      rw [Prog.bind_run, Prog.tryCatch_run]
      unfold callHandler
      cases hanswer : handler s.handled event with
      | error e =>
          -- the handler threw
          refine Round.of_silent env config rfl rfl ?_
          rintro reply ⟨event', _, _, _, hok, hdecided, -⟩
          rw [hverdict] at hok
          cases hok
          rw [hanswer] at hdecided
          cases hdecided
      | ok answer =>
          cases answer with
          | none =>
              -- the handler abstained
              refine Round.of_silent env config rfl rfl ?_
              rintro reply ⟨event', _, _, _, hok, hdecided, -⟩
              rw [hverdict] at hok
              cases hok
              rw [hanswer] at hdecided
              cases hdecided
          | some decision =>
              simp only
              rw [Prog.bind_run_ok (windowClosed_run env event _ _)]
              by_cases hlate : 0 < event.timeoutMs ∧
                  event.timeoutMs < (env.clock (s.ticks + 1) - env.clock s.ticks) * 1000
              · -- the window has closed
                rw [decide_eq_true hlate, if_pos rfl]
                refine Round.of_silent env config rfl rfl ?_
                rintro reply ⟨event', _, _, _, hok, -, htime, -⟩
                rw [hverdict] at hok
                cases hok
                have hdeadline := htime hlate.1
                omega
              · rw [decide_eq_false hlate, if_neg Bool.false_ne_true]
                refine answer_round env config hverdict hanswer (fun hpositive => ?_) _ rfl rfl
                  ?_ rfl
                · omega
                · show s.ticks + 1 + _ = _
                  split <;> rfl

/-! ## The whole stream -/

/-- The rounds of a loop from `s` to `last`, each on the nonces seen so far, and the replies they
published: one for each round that owes one, in their order. -/
structure Replied (handler : ReactorHandler) (s : Serving)
    (trace : List (Transition Serving ReactorDelivery)) (last : Serving) : Prop where
  run : Run (Serves env config handler) s trace last
  seen : ∀ t ∈ trace, t.post.seenNonces =
    (verdictOf env config t.pre t.label).2.getD t.pre.seenNonces
  replies : ∃ replies : List (Option Publication),
    List.Forall₂ (fun t r => ∀ reply, r = some reply ↔ Owed env config handler t.pre t.label reply)
      trace replies ∧ last.published = s.published ++ replies.reduceOption

theorem Replied.nil {handler : ReactorHandler} (s : Serving) :
    Replied env config handler s [] s where
  run := .nil s
  seen _ ht := nomatch ht
  replies := ⟨[], .nil, (List.append_nil _).symm⟩

/-- One more round at the front. -/
theorem Replied.cons {handler : ReactorHandler} {s t last : Serving} {delivery : ReactorDelivery}
    {trace : List (Transition Serving ReactorDelivery)}
    (hserves : Serves env config handler s delivery t)
    (h : Replied env config handler t trace last) :
    Replied env config handler s (⟨s, delivery, t⟩ :: trace) last := by
  have hround := serveOne_round env config handler s delivery
  rw [hserves] at hround
  obtain ⟨replies, hreplies, hpublished⟩ := h.replies
  refine ⟨.cons hserves h.run, fun u hu => ?_, ?_⟩
  · rcases List.mem_cons.mp hu with rfl | hu
    · exact hround.seen
    · exact h.seen u hu
  · by_cases howed : ∃ reply, Owed env config handler s delivery reply
    · obtain ⟨reply, hreply⟩ := howed
      have hwritten := (hround.replied reply hreply).2
      refine ⟨some reply :: replies, .cons (fun reply' => ?_) hreplies, ?_⟩
      · constructor
        · intro heq
          rw [← Option.some.inj heq]
          exact hreply
        · intro hreply'
          -- two replies owed were both the one that was published
          have hwritten' := (hround.replied reply' hreply').2
          rw [hwritten] at hwritten'
          exact congrArg some (List.cons.inj (List.append_cancel_left hwritten')).1
      · rw [hpublished, hwritten, List.reduceOption_cons_of_some, List.append_assoc]
        rfl
    · have hsilent := (hround.silent fun reply h => howed ⟨reply, h⟩).2
      refine ⟨none :: replies, .cons (fun reply' => ?_) hreplies, ?_⟩
      · exact iff_of_false nofun fun h => howed ⟨reply', h⟩
      · rw [hpublished, hsilent, List.reduceOption_cons_of_none]

/-- The loop serves its stream, as far as the transport takes the replies. -/
theorem serveAll_replied (handler : ReactorHandler) (deliveries : List ReactorDelivery)
    (s : Serving) : ∃ trace last, Replied env config handler s trace last ∧
      ((trace.map (·.label) = deliveries ∧
          serveAll env config handler deliveries s = (.ok (), last)) ∨
        ∃ delivery rest reply e t, deliveries = trace.map (·.label) ++ delivery :: rest ∧
          Owed env config handler last delivery reply ∧
          env.publish last.published reply = .error e ∧
          serveAll env config handler deliveries s = (.error e, t) ∧
          t.published = last.published) := by
  induction deliveries generalizing s with
  | nil =>
      exact ⟨[], s, .nil env config s, .inl ⟨rfl, rfl⟩⟩
  | cons delivery rest ih =>
      have hround := serveOne_round env config handler s delivery
      rcases hserve : serveOne env config handler delivery s with ⟨e | _, t⟩ <;>
        rw [hserve] at hround
      · -- only the transport throws
        refine ⟨[], s, .nil env config s, .inr ?_⟩
        by_cases howed : ∃ reply, Owed env config handler s delivery reply
        · obtain ⟨reply, hreply⟩ := howed
          obtain ⟨hpublish, hwritten⟩ := hround.replied reply hreply
          refine ⟨delivery, rest, reply, e, t, rfl, hreply, hpublish.symm,
            Prog.bind_run_error hserve _, ?_⟩
          simpa [Except.isOk, Except.toBool] using hwritten
        · have hsilent := (hround.silent fun reply h => howed ⟨reply, h⟩).1
          cases hsilent
      · obtain ⟨trace, last, hreplied, hend⟩ := ih t
        have hrest : serveAll env config handler (delivery :: rest) s =
            serveAll env config handler rest t := Prog.bind_run_ok hserve _
        refine ⟨⟨s, delivery, t⟩ :: trace, last, hreplied.cons env config hserve, ?_⟩
        rw [hrest]
        rcases hend with ⟨hlabels, hrun⟩ | ⟨d, later, reply, e, u, hsplit, howed, hpublish, hrun,
          hkept⟩
        · exact .inl ⟨by rw [List.map_cons, hlabels], hrun⟩
        · exact .inr ⟨d, later, reply, e, u, by rw [hsplit]; rfl, howed, hpublish, hrun, hkept⟩

/-- Over every stream of deliveries, whatever the bodies, the handler, the clock and the nonces: the
loop publishes what is owed, one reply for each delivery that verifies and is decided in time, in
their order, and it ends with its stream, or with the transport's own exception on such a reply. -/
theorem serve_replies (handler : ReactorHandler) (deliveries : List ReactorDelivery) :
    (config.tenantId = [] ∧ reactorServe env config (some handler) deliveries {} =
        (.error (.auth "reactor_serve needs a tenant_id"), {})) ∨
      ∃ trace last, Replied env config handler {} trace last ∧
        ((trace.map (·.label) = deliveries ∧
            reactorServe env config (some handler) deliveries {} = (.ok (), last)) ∨
          ∃ delivery rest reply e t, deliveries = trace.map (·.label) ++ delivery :: rest ∧
            Owed env config handler last delivery reply ∧
            env.publish last.published reply = .error e ∧
            reactorServe env config (some handler) deliveries {} = (.error e, t) ∧
            t.published = last.published) := by
  unfold reactorServe
  simp only
  by_cases htenant : config.tenantId = []
  · rw [if_pos htenant]
    exact .inl ⟨htenant, rfl⟩
  · rw [if_neg htenant]
    exact .inr (serveAll_replied env config handler deliveries {})

end

end Axiam.Reactor
