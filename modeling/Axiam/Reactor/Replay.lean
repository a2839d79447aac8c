import Axiam.Reactor.Verify
import Axiam.Lib.Run
import Mathlib.Tactic.Linarith

/-!
# Replay protection over a stream of deliveries

Deliveries to `reactor_verify_event` share one set of seen nonces and arrive under a
clock that never runs backwards.  A nonce is remembered for twice the freshness skew
after it was last recorded and then swept, so the protection is a statement about
deliveries less than that span apart.
-/

namespace Axiam.Reactor

open Axiam.Lib

/-- What outlives a delivery: the seen-set, and how far the clock has come. -/
structure Receiver where
  seen : SeenNonces
  clock : Int

/-- One delivery: the body, the second it was verified at, and the outcome. -/
structure Delivery where
  body : Str
  now : Int
  verdict : ReactorVerification

/-- The nonce of a delivery that was accepted. -/
def Delivery.acceptedNonce? (d : Delivery) : Option Str :=
  match d.verdict with
  | .ok e => some e.nonce
  | .error _ => none

theorem acceptedNonce?_eq_some {d : Delivery} {nonce : Str} :
    d.acceptedNonce? = some nonce ↔ ∃ e, d.verdict = .ok e ∧ e.nonce = nonce := by
  unfold Delivery.acceptedNonce?
  cases d.verdict <;> simp

section

variable (lib : Library) (signingKey expectedTenant : Str)

/-- One call of `reactor_verify_event` on the shared set, at a time not before the last. -/
def Receiver.Delivers (r : Receiver) (d : Delivery) (r' : Receiver) : Prop :=
  r.clock ≤ d.now ∧ r'.clock = d.now ∧
    reactorVerifyEvent lib signingKey d.body expectedTenant d.now (some r.seen) =
      (d.verdict, some r'.seen)

/-- The same call as a function of the receiver. -/
def Receiver.deliver (r : Receiver) (body : Str) (now : Int) :
    ReactorVerification × Receiver :=
  let outcome := reactorVerifyEvent lib signingKey body expectedTenant now (some r.seen)
  (outcome.1, ⟨outcome.2.getD r.seen, now⟩)

/-- How long a nonce is remembered. -/
abbrev memorySpan : Int := 2 * kFreshnessSkewSecs

/-- The invariant of the seen-set: the nonce of an accepted delivery is remembered until
its span is over. -/
def Remembers (past : List (Transition Receiver Delivery)) (r : Receiver) : Prop :=
  ∀ p ∈ past, p.label.now ≤ r.clock ∧ ∀ nonce, p.label.acceptedNonce? = some nonce →
    p.label.now + memorySpan ≤ r.clock ∨
      ∃ expiry, r.seen nonce = some expiry ∧ p.label.now + memorySpan ≤ expiry

variable {lib signingKey expectedTenant}

theorem Receiver.delivers_deliver {r : Receiver} {body : Str} {now : Int}
    (hclock : r.clock ≤ now) :
    r.Delivers lib signingKey expectedTenant
      ⟨body, now, (r.deliver lib signingKey expectedTenant body now).1⟩
      (r.deliver lib signingKey expectedTenant body now).2 := by
  refine ⟨hclock, rfl, ?_⟩
  simp only [Receiver.deliver, reactorVerifyEvent]
  split
  · rfl
  · split <;> rfl

/-- What is remembered past `now` survives the sweep. -/
theorem sweep_eq_some {seen : SeenNonces} {now expiry : Int} {nonce : Str}
    (h : seen nonce = some expiry) (hlater : now < expiry) :
    sweep seen now nonce = some expiry := by
  simp [sweep, h, hlater]

/-- A delivery forgets no nonce before its span is over. -/
theorem Receiver.Delivers.remembers {past : List (Transition Receiver Delivery)}
    {r r' : Receiver} {d : Delivery} (hinv : Remembers past r)
    (hstep : r.Delivers lib signingKey expectedTenant d r') : Remembers past r' := by
  obtain ⟨hmono, hclock, hverify⟩ := hstep
  intro p hp
  obtain ⟨hbefore, hmemory⟩ := hinv p hp
  refine ⟨by omega, fun nonce haccepted => ?_⟩
  rcases hmemory nonce haccepted with hover | ⟨expiry, hseen, hspan⟩
  · exact .inl (by omega)
  by_cases hswept : expiry ≤ d.now
  · exact .inl (by omega)
  have hkept : sweep r.seen d.now nonce = some expiry := sweep_eq_some hseen (by omega)
  right
  rcases reactorVerifyEvent_seen hverify with heq | heq | ⟨recorded, heq⟩
  · exact ⟨expiry, by rw [heq, hseen], hspan⟩
  · exact ⟨expiry, by rw [heq, hkept], hspan⟩
  · by_cases hsame : nonce = recorded
    · -- recorded anew, and so for longer
      subst hsame
      exact ⟨_, by rw [heq, Function.update_self], by unfold memorySpan; omega⟩
    · exact ⟨expiry, by rw [heq, Function.update_of_ne hsame, hkept], hspan⟩

/-- An accepted delivery is remembered from then on. -/
theorem Receiver.Delivers.remembers_self {past : List (Transition Receiver Delivery)}
    {r r' : Receiver} {d : Delivery} (hinv : Remembers past r)
    (hstep : r.Delivers lib signingKey expectedTenant d r') :
    Remembers (past ++ [⟨r, d, r'⟩]) r' := by
  intro p hp
  rcases List.mem_append.mp hp with hp | hp
  · exact hstep.remembers hinv p hp
  · obtain rfl := List.mem_singleton.mp hp
    obtain ⟨_, hclock, hverify⟩ := hstep
    refine ⟨hclock.ge, fun nonce haccepted => .inr ?_⟩
    obtain ⟨e, hok, rfl⟩ := acceptedNonce?_eq_some.mp haccepted
    simp only at hok
    rw [hok] at hverify
    obtain ⟨_, _, heq⟩ := reactorVerifyEvent_ok hverify
    exact ⟨_, by rw [Option.some.inj heq, Function.update_self], le_refl _⟩

/-- What two deliveries of a stream owe each other: accepted with one nonce, they are at
least the memory span apart, and when further apart the later was issued later. -/
def SpanApart (lib : Library) (p q : Transition Receiver Delivery) : Prop :=
  ∀ nonce, p.label.acceptedNonce? = some nonce → q.label.acceptedNonce? = some nonce →
    memorySpan ≤ q.label.now - p.label.now ∧
      (memorySpan < q.label.now - p.label.now →
        issuedAt lib p.label.body < issuedAt lib q.label.body)

/-- One delivery against all the earlier ones: the nonce it is accepted with was not
remembered any more, so the span of every earlier acceptance is over. -/
theorem Receiver.Delivers.spanApart {past : List (Transition Receiver Delivery)}
    {r r' : Receiver} {d : Delivery}
    (hfresh : ∀ p ∈ past, ∀ nonce, p.label.acceptedNonce? = some nonce →
      p.label.now - issuedAt lib p.label.body ≤ kFreshnessSkewSecs ∧
        -kFreshnessSkewSecs ≤ p.label.now - issuedAt lib p.label.body)
    (hinv : Remembers past r) (hstep : r.Delivers lib signingKey expectedTenant d r') :
    ∀ p ∈ past, SpanApart lib p ⟨r, d, r'⟩ := by
  obtain ⟨hmono, _, hverify⟩ := hstep
  intro p hp nonce hearlier hnow
  obtain ⟨e, hok, rfl⟩ := acceptedNonce?_eq_some.mp hnow
  simp only at hok
  rw [hok] at hverify
  obtain ⟨⟨_, hmessage, -⟩, hforgotten, _⟩ := reactorVerifyEvent_ok hverify
  have hspan : p.label.now + memorySpan ≤ d.now := by
    rcases (hinv p hp).2 _ hearlier with hover | ⟨expiry, hseen, hspan⟩
    · omega
    · by_contra hlt
      have hkept : sweep r.seen d.now e.nonce = some expiry := sweep_eq_some hseen (by omega)
      rw [hforgotten] at hkept
      contradiction
  refine ⟨by simp only; omega, fun hfurther => ?_⟩
  have hold := (hfresh p hp _ hearlier).2
  have hnew := (freshMessage_fresh hmessage).1
  have hskew : memorySpan = 2 * kFreshnessSkewSecs := rfl
  simp only at hfurther ⊢
  omega

/-- The message of an accepted delivery is fresh and signed, and has its nonce. -/
theorem Receiver.Delivers.message {r r' : Receiver} {d : Delivery} {nonce : Str}
    (hstep : r.Delivers lib signingKey expectedTenant d r')
    (haccepted : d.acceptedNonce? = some nonce) :
    ∃ message, freshMessage lib signingKey d.body d.now = .ok message ∧
      stringOf message "nonce" = nonce := by
  obtain ⟨e, hok, rfl⟩ := acceptedNonce?_eq_some.mp haccepted
  obtain ⟨_, _, hverify⟩ := hstep
  rw [hok] at hverify
  exact (reactorVerifyEvent_ok hverify).1

/-- Every accepted delivery of a step was fresh. -/
theorem Receiver.Delivers.fresh {r r' : Receiver} {d : Delivery} {nonce : Str}
    (hstep : r.Delivers lib signingKey expectedTenant d r')
    (haccepted : d.acceptedNonce? = some nonce) :
    d.now - issuedAt lib d.body ≤ kFreshnessSkewSecs ∧
      -kFreshnessSkewSecs ≤ d.now - issuedAt lib d.body := by
  obtain ⟨_, hmessage, -⟩ := hstep.message haccepted
  exact freshMessage_fresh hmessage

end

/-- Over every stream of deliveries to one seen-set, whatever the bodies, the key and the times, two
accepted deliveries that carry the same nonce are at least twice the skew apart; and when they are
further apart than that, they are two events, issued at different times. -/
theorem accepted_nonces_apart (lib : Library) (signingKey expectedTenant : Str)
    {r u : Receiver} {trace : List (Transition Receiver Delivery)}
    (hrun : Run (Receiver.Delivers lib signingKey expectedTenant) r trace u) :
    trace.Pairwise (SpanApart lib) := by
  refine (hrun.pairwise (I := fun past r => Remembers past r ∧
      ∀ p ∈ past, ∀ nonce, p.label.acceptedNonce? = some nonce →
        p.label.now - issuedAt lib p.label.body ≤ kFreshnessSkewSecs ∧
          -kFreshnessSkewSecs ≤ p.label.now - issuedAt lib p.label.body)
    ?_ ?_ [] ⟨by simp [Remembers], by simp⟩).1
  · rintro past s d t ⟨hinv, hfresh⟩ hstep
    refine ⟨hstep.remembers_self hinv, fun p hp nonce haccepted => ?_⟩
    rcases List.mem_append.mp hp with hp | hp
    · exact hfresh p hp nonce haccepted
    · obtain rfl := List.mem_singleton.mp hp
      exact hstep.fresh haccepted
  · rintro past s d t ⟨hinv, hfresh⟩ hstep
    exact hstep.spanApart hfresh hinv

/-- Of two deliveries, each fresh and signed when it came and of one nonce, the second came while the
first is remembered. -/
def WithinMemory (lib : Library) (signingKey : Str) (p q : Transition Receiver Delivery) : Prop :=
  ∀ message message',
    freshMessage lib signingKey p.label.body p.label.now = .ok message →
    freshMessage lib signingKey q.label.body q.label.now = .ok message' →
    stringOf message "nonce" = stringOf message' "nonce" →
    q.label.now - p.label.now < memorySpan

/-- Over every stream whose deliveries of one nonce all come while it is remembered, no nonce is
accepted twice. -/
theorem nonces_never_recur (lib : Library) (signingKey expectedTenant : Str)
    {r u : Receiver} {trace : List (Transition Receiver Delivery)}
    (hrun : Run (Receiver.Delivers lib signingKey expectedTenant) r trace u)
    (hprompt : trace.Pairwise (WithinMemory lib signingKey)) :
    trace.Pairwise fun p q => ∀ nonce, p.label.acceptedNonce? = some nonce →
      q.label.acceptedNonce? ≠ some nonce := by
  have hapart := accepted_nonces_apart lib signingKey expectedTenant hrun
  refine (hapart.and hprompt).imp_of_mem fun {p q} hp hq hboth nonce hearlier hlater => ?_
  obtain ⟨message, hfresh, hnonce⟩ := (hrun.steps p hp).message hearlier
  obtain ⟨message', hfresh', hnonce'⟩ := (hrun.steps q hq).message hlater
  have hwithin := hboth.2 message message' hfresh hfresh' (hnonce.trans hnonce'.symm)
  have hspan := (hboth.1 nonce hearlier hlater).1
  omega

/-! ## One event, delivered twice

A signed event for the tenant `t` under the key `k`.  It is fresh from five minutes before it was
issued until five minutes after, and its nonce is remembered for ten. -/

def eventIssued : Str := "2026-01-01T00:00:00Z"

def eventMac : Str := "dfc3644fbf70d14e24c4dce61ddb04f259a8f594d98177fc968c22565c2d884c"

def signedEvent : Json :=
  .object
    [("correlation_id", .string "c"), ("event", .string "token.pre_issue"),
      ("hmac_signature", .string eventMac), ("issued_at", .string eventIssued),
      ("key_version", .integer 2), ("nonce", .string "n"), ("payload", .object []),
      ("tenant_id", .string "t"), ("timeout_ms", .integer 500)]

/-- The text of the event; the signed bytes are the text with a null signature. -/
def eventText (signature : Str) : Str :=
  str "\x7b\"tenant_id\":\"t\",\"event\":\"token.pre_issue\",\"correlation_id\":\"c\"," ++
    str "\"payload\":\x7b\x7d,\"timeout_ms\":500,\"key_version\":2,\"nonce\":\"n\"," ++
    str "\"issued_at\":" ++ quoted eventIssued ++ str ",\"hmac_signature\":" ++ signature ++
    str "\x7d"

def eventBody : Str := eventText (quoted eventMac)

/-- What the library functions do with the event. -/
def eventLibrary : Library where
  parse := tableParser [(eventBody, signedEvent)]
  dump := fun _ => "\x7b\x7d"
  hmacSha256Hex := fun _ message => if message = eventText "null" then eventMac else []
  strptimeUtc := fun text => if text = eventIssued then some 1767225600 else none

def acceptedEvent : ReactorEvent where
  tenantId := "t"
  event := "token.pre_issue"
  correlationId := "c"
  payloadJson := "\x7b\x7d"
  timeoutMs := 500
  nonce := "n"

/-- The receiver before any delivery. -/
def Receiver.fresh : Receiver := ⟨fun _ => none, 0⟩

/-- The receiver once the event was delivered as early as it is fresh. -/
def afterEarly : Receiver := (Receiver.fresh.deliver eventLibrary "k" "t" eventBody 1767225300).2

/-- The event delivered as early as it is fresh, and then once more. -/
def againTrace (verdict : ReactorVerification) (now : Int) : List (Transition Receiver Delivery) :=
  [⟨.fresh, ⟨eventBody, 1767225300, .ok acceptedEvent⟩, afterEarly⟩,
    ⟨afterEarly, ⟨eventBody, now, verdict⟩, (afterEarly.deliver eventLibrary "k" "t" eventBody now).2⟩]

theorem againRun {verdict : ReactorVerification} {now : Int} (hnow : 1767225300 ≤ now)
    (hverdict : (afterEarly.deliver eventLibrary "k" "t" eventBody now).1 = verdict) :
    Run (Receiver.Delivers eventLibrary "k" "t") .fresh (againTrace verdict now)
      (afterEarly.deliver eventLibrary "k" "t" eventBody now).2 := by
  have hfirst : (Receiver.fresh.deliver eventLibrary "k" "t" eventBody 1767225300).1 =
      .ok acceptedEvent := by
    decide +kernel
  exact .cons (hfirst ▸ Receiver.delivers_deliver (by decide))
    (.cons (hverdict ▸ Receiver.delivers_deliver hnow) (.nil _))

/-- Delivered again a second before its nonce is forgotten, the event is refused. -/
theorem replay_refused :
    (againTrace (.error .replay) 1767225899).Pairwise fun p q =>
      ∀ nonce, p.label.acceptedNonce? = some nonce → q.label.acceptedNonce? ≠ some nonce := by
  refine nonces_never_recur eventLibrary "k" "t" (againRun (by decide) (by decide +kernel)) ?_
  rw [againTrace, List.pairwise_pair]
  intro _ _ _ _ _
  decide

/-- Delivered again at the end of its window, ten minutes later, it is accepted once more. -/
theorem accepted_nonce_recurs :
    ¬∀ (lib : Library) (signingKey expectedTenant : Str) (r u : Receiver)
      (trace : List (Transition Receiver Delivery)),
      Run (Receiver.Delivers lib signingKey expectedTenant) r trace u →
        trace.Pairwise fun p q => ∀ nonce, p.label.acceptedNonce? = some nonce →
          q.label.acceptedNonce? ≠ some nonce := by
  intro hall
  have hlate : (afterEarly.deliver eventLibrary "k" "t" eventBody 1767225900).1 =
      .ok acceptedEvent := by
    decide +kernel
  have hpair := hall _ _ _ _ _ _ (againRun (by decide) hlate)
  rw [againTrace, List.pairwise_pair] at hpair
  exact hpair "n" rfl rfl

end Axiam.Reactor
