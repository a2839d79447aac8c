import Axiam.Core.Int64
import Axiam.Oidc.CibaAwait
import Axiam.Oidc.IdToken

/-!
# The arithmetic of the polling loops

`device_login` and `ciba_await` (`src/oidc.cpp`) count in signed 64-bit integers: the deadline in
milliseconds and in nanoseconds, the wait, and the interval a `slow_down` increases.  One loop has
them both, over an arithmetic: in 64 bits, where a sum may be undefined, and over every integer.
-/

namespace Axiam.Oidc

open Axiam.Client

/-! ## The loops -/

/-- `duration_cast<milliseconds>`. -/
def Instant.ms (t : Instant) : Int := t.ns / nsPerMs

/-- How a device poll fails: a hint it has was read from a header. -/
structure Refusal where
  error : Exc
  hinted : ∀ what code description hint status,
    error = .axiam (.oauthProtocol what code description (some hint) status) →
      ∃ httpDate value now, Axiam.retryAfterFromHeader httpDate value now = some hint

/-- What a polling loop computes with. -/
structure PollLoop (α : Type) where
  /-- The units of a second. -/
  perSecond : Int
  /-- A reading of the clock. -/
  read : Instant → Int
  /-- The lifetime where the response states none. -/
  unstated : Except Exc Int
  /-- How it goes on after a failed poll. -/
  after : Polling → α → Option Polling
  seconds : 1000 ≤ perSecond ∧ perSecond ≤ 1000000000
  readings : ∀ t, 0 ≤ read t ∧ read t < 2305843009213693952
  paced : ∀ p a next, after p a = some next →
    (next.interval = p.interval ∨ next.interval = p.interval + 5) ∧
      0 ≤ next.retryFloorMs ∧ next.retryFloorMs ≤ 3600000

/-- A turn: the clock before its wait and after it, and how its poll fails. -/
structure PollTurn (α : Type) where
  before : Instant
  after : Instant
  failure : α

/-- What a loop computed: its deadline, its first interval, and the waits it slept. -/
structure Pace where
  deadline : Int
  interval : Int
  waits : List Int
  deriving DecidableEq

section

variable {α : Type} (arith : Arithmetic) (loop : PollLoop α)

/-- The turns from `p`; an increased interval has to fit too. -/
def PollLoop.waits (deadline : Int) : Polling → List (PollTurn α) → Option (List Int)
  | _, [] => some []
  | p, turn :: rest => do
      let stated ← arith.fit (p.interval * loop.perSecond)
      let wait := max stated p.retryFloorMs
      let due ← arith.fit (loop.read turn.before + wait)
      if deadline ≤ due then some []
      else if deadline ≤ loop.read turn.after then some [wait]
      else match loop.after p turn.failure with
        | none => some [wait]
        | some next => do
            let interval ← arith.fit next.interval
            let waits ← PollLoop.waits deadline ⟨interval, next.retryFloorMs⟩ rest
            some (wait :: waits)

/-- The interval of a response: one that is stated and positive, and else five seconds. -/
def intervalOf : Option Int → Int
  | some n => if 0 < n then n else 5
  | none => 5

/-- The loop, with what the response stated. -/
def PollLoop.paceFrom (lifetime : Int) (interval : Option Int) (start : Instant)
    (turns : List (PollTurn α)) : Option Pace := do
  let span ← arith.fit (max 0 (min lifetime 1000000000) * loop.perSecond)
  let deadline ← arith.fit (loop.read start + span)
  let waits ← loop.waits arith deadline ⟨intervalOf interval, 0⟩ turns
  some ⟨deadline, intervalOf interval, waits⟩

/-- From the response to the end of the loop. -/
def PollLoop.pace (j : Json) (start : Instant) (turns : List (PollTurn α)) :
    Option (Except Exc Pace) := do
  let lifetime ← arith.optInt j "expires_in"
  match lifetime.elim loop.unstated .ok with
  | .error e => some (.error e)
  | .ok lifetime => do
      let interval ← arith.optInt j "interval"
      let pace ← loop.paceFrom arith lifetime interval start turns
      some (.ok pace)

end

/-- A failed device poll leaves the interval or increases it, and waits an hour at most. -/
theorem after_paced {p next : Polling} {refusal : Refusal}
    (h : p.after refusal.error = some next) :
    (next.interval = p.interval ∨ next.interval = p.interval + 5) ∧
      0 ≤ next.retryFloorMs ∧ next.retryFloorMs ≤ 3600000 := by
  rcases refusal with ⟨e, hinted⟩
  simp only [Polling.after] at h
  split at h
  next what code description hint status =>
    split_ifs at h
    · cases h
      rcases hint with _ | hint
      · simp
      · obtain ⟨_, _, _, hread⟩ := hinted what code description hint status rfl
        simpa using retryAfterFromHeader_bounds hread
    · cases h
      simp
    · cases h
      simp
  next =>
    split_ifs at h
    cases h
    simp

theorem awaitAfter_paced {interval next : Int} {e : Exc} (h : awaitAfter interval e = some next) :
    next = interval ∨ next = interval + 5 := by
  unfold awaitAfter at h
  split at h
  next =>
    split_ifs at h
    · exact .inl (Option.some.inj h).symm
    · exact .inr (Option.some.inj h).symm
  next => cases h

theorem awaitSettle_paced {interval next : Int} {outcome : CibaPollOutcome}
    (h : awaitGoesOn (awaitSettle interval outcome) = some next) :
    next = interval ∨ next = interval + 5 := by
  cases outcome with
  | tokens set => cases h
  | failed error transient =>
    simp only [awaitSettle] at h
    split_ifs at h
    · cases h
      exact .inl rfl
    · rcases hafter : awaitAfter interval error with _ | again <;> rw [hafter] at h
      · cases h
      · cases h
        exact awaitAfter_paced hafter

/-- `device_login`, in milliseconds. -/
def deviceLoop : PollLoop Refusal where
  perSecond := 1000
  read := Instant.ms
  unstated := .ok 0
  after p refusal := p.after refusal.error
  seconds := by omega
  readings t := by
    have h := t.inRange
    unfold Instant.ms nsPerMs
    omega
  paced _ _ _ h := after_paced h

/-- `ciba_await`, in nanoseconds; it has no floor. -/
def cibaLoop : PollLoop CibaPollOutcome where
  perSecond := 1000000000
  read := Instant.ns
  unstated := .error (.network "malformed CibaInitiateResponse" "malformed_body")
  after p outcome := (awaitGoesOn (awaitSettle p.interval outcome)).map (⟨·, 0⟩)
  seconds := by omega
  readings t := t.inRange
  paced p outcome next h := by
    obtain ⟨interval, hgoes, rfl⟩ := Option.map_eq_some_iff.mp h
    exact ⟨awaitSettle_paced hgoes, le_rfl, by simp⟩

/-! ## A loop whose numbers fit -/

section

variable {α : Type} {loop : PollLoop α} {deadline : Int} {p : Polling} {turn : PollTurn α}
  {rest : List (PollTurn α)}

/-- Where a turn's wait would end. -/
def PollLoop.due (loop : PollLoop α) (p : Polling) (turn : PollTurn α) : Int :=
  loop.read turn.before + max (p.interval * loop.perSecond) p.retryFloorMs

/-- A turn whose sums fit goes on as it would without bounds. -/
theorem waits_cons_eq (hstated : IsInt64 (p.interval * loop.perSecond))
    (hdue : IsInt64 (loop.due p turn))
    (hrest : ∀ next, loop.due p turn < deadline → loop.after p turn.failure = some next →
      IsInt64 next.interval ∧
        loop.waits machine deadline next rest = loop.waits unbounded deadline next rest) :
    loop.waits machine deadline p (turn :: rest) =
      loop.waits unbounded deadline p (turn :: rest) := by
  have hfirst : machine.fit (p.interval * loop.perSecond) = some _ := int64_of_isInt64 hstated
  have hsecond : machine.fit (loop.due p turn) = some _ := int64_of_isInt64 hdue
  unfold PollLoop.due at *
  simp only [PollLoop.waits]
  rw [hfirst]
  simp only [unbounded, Option.bind_eq_bind, Option.bind_some]
  rw [hsecond]
  simp only [Option.bind_some]
  split_ifs with hlate hover
  · rfl
  · rfl
  · cases hafter : loop.after p turn.failure with
    | none => rfl
    | some next =>
      obtain ⟨hfits, heq⟩ := hrest next (not_le.mp hlate) hafter
      have hthird : machine.fit next.interval = some _ := int64_of_isInt64 hfits
      simp only [hthird, Option.bind_some]
      rw [heq]
      rfl

/-- A loop past its first wait: the interval ended before the deadline, or five seconds later. -/
structure Underway (loop : PollLoop α) (deadline : Int) (p : Polling) : Prop where
  positive : 1 ≤ p.interval
  bounded : p.interval * loop.perSecond < deadline + 5 * loop.perSecond
  floor : 0 ≤ p.retryFloorMs ∧ p.retryFloorMs ≤ 3600000

/-- The deadline is within a lifetime of a reading of the clock. -/
def DeadlineFits (deadline : Int) : Prop := deadline < 3305843009213693953

theorem interval_le_product (loop : PollLoop α) {p : Polling} (h : 1 ≤ p.interval) :
    p.interval ≤ p.interval * loop.perSecond := by
  have hunits := loop.seconds
  nlinarith

/-- A turn that is not late leaves the loop underway. -/
theorem Underway.step {next : Polling} (hpositive : 1 ≤ p.interval)
    (hearly : loop.due p turn < deadline) (hafter : loop.after p turn.failure = some next) :
    Underway loop deadline next := by
  obtain ⟨hinterval, hfloor⟩ := loop.paced p turn.failure next hafter
  have hread := loop.readings turn.before
  have hunits := loop.seconds
  have hlt : p.interval * loop.perSecond < deadline := by
    unfold PollLoop.due at hearly
    omega
  refine ⟨by omega, ?_, hfloor⟩
  rcases hinterval with h | h <;> rw [h]
  · omega
  · rw [add_mul]
    omega

/-- Underway every sum fits, whatever the answers and however often the interval increases. -/
theorem waits_underway (hdeadline : DeadlineFits deadline) (turns : List (PollTurn α)) :
    ∀ p, Underway loop deadline p →
      loop.waits machine deadline p turns = loop.waits unbounded deadline p turns := by
  induction turns with
  | nil => intro p _; rfl
  | cons turn rest ih =>
    intro p hp
    have hread := loop.readings turn.before
    have hunits := loop.seconds
    have hpositive := hp.positive
    have hbounded := hp.bounded
    have hfloor := hp.floor
    have hle := interval_le_product loop hpositive
    unfold DeadlineFits at hdeadline
    refine waits_cons_eq ?_ ?_ fun next hearly hafter => ?_
    · unfold IsInt64
      omega
    · unfold IsInt64 PollLoop.due
      omega
    · have hnext := Underway.step hpositive hearly hafter
      have hproduct := interval_le_product loop hnext.positive
      have hlimit := hnext.bounded
      have hlow := hnext.positive
      refine ⟨?_, ih next hnext⟩
      unfold IsInt64
      omega

theorem waits_undefined (h : ¬IsInt64 (loop.due p turn)) :
    loop.waits machine deadline p (turn :: rest) = none := by
  simp only [PollLoop.waits]
  rcases hstated : machine.fit (p.interval * loop.perSecond) with _ | stated
  · rfl
  obtain ⟨-, rfl⟩ := int64_eq_some_iff.mp hstated
  have hdue : machine.fit (loop.due p turn) = none := int64_eq_none_iff.mpr h
  unfold PollLoop.due at hdue
  simp only [Option.bind_eq_bind, Option.bind_some]
  rw [hdue]
  rfl

/-- Without bounds every computation is defined, and every wait is as long as the interval. -/
theorem waits_unbounded (deadline : Int) (turns : List (PollTurn α)) : ∀ p : Polling, 1 ≤ p.interval →
    ∃ waits, loop.waits unbounded deadline p turns = some waits ∧ ∀ w ∈ waits, 0 < w := by
  induction turns with
  | nil => exact fun p _ => ⟨[], rfl, by simp⟩
  | cons turn rest ih =>
    intro p hp
    have hproduct := interval_le_product loop hp
    have hwait : 0 < max (p.interval * loop.perSecond) p.retryFloorMs := by omega
    simp only [PollLoop.waits, unbounded, Option.bind_eq_bind, Option.bind_some]
    split_ifs with hlate hover
    · exact ⟨[], rfl, by simp⟩
    · exact ⟨_, rfl, by simpa using hwait⟩
    · cases hafter : loop.after p turn.failure with
      | none => exact ⟨_, rfl, by simpa using hwait⟩
      | some next =>
        have hinterval := (loop.paced p turn.failure next hafter).1
        obtain ⟨waits, hwaits, hpositive⟩ := ih next (by omega)
        refine ⟨_ :: waits, ?_, List.forall_mem_cons.mpr ⟨hwait, hpositive⟩⟩
        exact congrArg (Option.bind · _) hwaits

/-- Only the first turn of a loop can fail to fit: its interval is the server's. -/
theorem waits_machine_iff (loop : PollLoop α) (hdeadline : DeadlineFits deadline) {interval : Int}
    (hpositive : 1 ≤ interval) (turns : List (PollTurn α)) :
    loop.waits machine deadline ⟨interval, 0⟩ turns =
        loop.waits unbounded deadline ⟨interval, 0⟩ turns ↔
      ∀ turn ∈ turns.head?, IsInt64 (loop.read turn.before + interval * loop.perSecond) := by
  cases turns with
  | nil => simp [PollLoop.waits]
  | cons turn rest =>
    have hread := loop.readings turn.before
    have hproduct : interval ≤ interval * loop.perSecond :=
      interval_le_product loop (p := ⟨interval, 0⟩) hpositive
    have hdue : loop.due ⟨interval, 0⟩ turn = loop.read turn.before + interval * loop.perSecond := by
      unfold PollLoop.due
      exact congrArg _ (max_eq_left (show 0 ≤ interval * loop.perSecond by omega))
    simp only [List.head?_cons, Option.mem_some_iff, forall_eq']
    rw [← hdue]
    constructor
    · intro heq
      by_contra hwide
      obtain ⟨waits, hwaits, -⟩ := waits_unbounded deadline (turn :: rest) ⟨interval, 0⟩ hpositive
      rw [waits_undefined hwide, hwaits] at heq
      cases heq
    · intro hfits
      refine waits_cons_eq ?_ hfits fun next hearly hafter => ?_
      · rw [hdue] at hfits
        unfold IsInt64 at *
        dsimp only
        omega
      · have hnext := Underway.step hpositive hearly hafter
        refine ⟨?_, waits_underway hdeadline rest next hnext⟩
        have hlimit := hnext.bounded
        have hlow := hnext.positive
        have hle := interval_le_product loop hlow
        have hunits := loop.seconds
        unfold DeadlineFits at hdeadline
        unfold IsInt64
        omega

end

/-! ## From the response -/

/-- A response that a loop starts from. -/
structure Starting {α : Type} (loop : PollLoop α) where
  response : Json
  stated : (response.numberMember? "expires_in").isSome = true ∨ ∃ n, loop.unstated = .ok n

section

variable {α : Type} {loop : PollLoop α}

/-- The lifetime that is stated, in whole seconds. -/
def Starting.lifetime (s : Starting loop) : Option Int :=
  (s.response.numberMember? "expires_in").map JsonNumber.truncated

/-- The interval that is stated, in whole seconds. -/
def Starting.interval (s : Starting loop) : Option Int :=
  (s.response.numberMember? "interval").map JsonNumber.truncated

/-- Every computation of the loop is the one over the integers, every wait is one, and a lifetime
of a second ends after it started. -/
structure Paces (s : Starting loop) (start : Instant) (turns : List (PollTurn α)) : Prop where
  exact : loop.pace machine s.response start turns = loop.pace unbounded s.response start turns
  sound : ∃ pace, loop.pace machine s.response start turns = some (.ok pace) ∧
    (∀ w ∈ pace.waits, 0 < w) ∧
    ∀ lifetime, s.lifetime = some lifetime → 1 ≤ lifetime → loop.read start < pace.deadline

/-- The numbers stated fit, and so does the end of the first wait. -/
structure PaceFits (s : Starting loop) (turns : List (PollTurn α)) : Prop where
  lifetime : MemberFits s.response "expires_in"
  interval : MemberFits s.response "interval"
  first : ∀ turn ∈ turns.head?,
    IsInt64 (loop.read turn.before + intervalOf s.interval * loop.perSecond)

theorem intervalOf_pos (interval : Option Int) : 1 ≤ intervalOf interval := by
  unfold intervalOf
  rcases interval with _ | n
  · decide
  · dsimp only
    split_ifs <;> omega

/-- A clamped lifetime leaves the deadline in range. -/
theorem deadlineFits_clamped (loop : PollLoop α) (start : Instant) (lifetime : Int) :
    DeadlineFits (loop.read start + max 0 (min lifetime 1000000000) * loop.perSecond) ∧
      0 ≤ max 0 (min lifetime 1000000000) * loop.perSecond := by
  have hunits := loop.seconds
  have hread := loop.readings start
  have hlow : 0 ≤ max 0 (min lifetime 1000000000) := le_max_left _ _
  have hhigh : max 0 (min lifetime 1000000000) ≤ 1000000000 := by omega
  have hspan : max 0 (min lifetime 1000000000) * loop.perSecond ≤ 1000000000 * 1000000000 :=
    mul_le_mul hhigh hunits.2 (by omega) (by omega)
  refine ⟨?_, mul_nonneg hlow (by omega)⟩
  unfold DeadlineFits
  omega

variable {arith : Arithmetic} {lifetime : Int} {interval : Option Int} {start : Instant}
  {turns : List (PollTurn α)}

/-- What a loop computed has the deadline and the interval of what was read, in any arithmetic. -/
theorem paceFrom_some {pace : Pace}
    (h : loop.paceFrom arith lifetime interval start turns = some pace) :
    pace.deadline = loop.read start + max 0 (min lifetime 1000000000) * loop.perSecond ∧
      pace.interval = intervalOf interval ∧
      loop.waits arith pace.deadline ⟨intervalOf interval, 0⟩ turns = some pace.waits := by
  unfold PollLoop.paceFrom at h
  obtain ⟨span, hspan, h⟩ := Option.bind_eq_some_iff.mp h
  obtain ⟨deadline, hdeadline, h⟩ := Option.bind_eq_some_iff.mp h
  obtain ⟨waits, hwaits, h⟩ := Option.bind_eq_some_iff.mp h
  cases h
  rw [arith.kept _ _ hspan] at hdeadline
  exact ⟨arith.kept _ _ hdeadline, rfl, hwaits⟩

/-- The deadline always fits; the rest is the waits. -/
theorem paceFrom_eq : loop.paceFrom arith lifetime interval start turns =
    (loop.waits arith (loop.read start + max 0 (min lifetime 1000000000) * loop.perSecond)
      ⟨intervalOf interval, 0⟩ turns).map
      (Pace.mk (loop.read start + max 0 (min lifetime 1000000000) * loop.perSecond)
        (intervalOf interval)) := by
  obtain ⟨hdeadline, hspan⟩ := deadlineFits_clamped loop start lifetime
  have hread := loop.readings start
  unfold DeadlineFits at hdeadline
  unfold PollLoop.paceFrom
  rw [arith.fits (max 0 (min lifetime 1000000000) * loop.perSecond) (by unfold IsInt64; omega)]
  simp only [Option.bind_eq_bind, Option.bind_some]
  rw [arith.fits (loop.read start + _) (by unfold IsInt64; omega)]
  simp only [Option.bind_some]
  cases loop.waits arith _ _ turns <;> rfl

theorem pace_of_reads {j : Json} {stated : Option Int}
    (hstated : arith.optInt j "expires_in" = some stated)
    (hlifetime : stated.elim loop.unstated .ok = .ok lifetime)
    (hinterval : arith.optInt j "interval" = some interval) :
    loop.pace arith j start turns =
      (loop.paceFrom arith lifetime interval start turns).map .ok := by
  unfold PollLoop.pace
  rw [hstated]
  simp only [Option.bind_eq_bind, Option.bind_some, hlifetime]
  rw [hinterval]
  simp only [Option.bind_some]
  cases loop.paceFrom arith lifetime interval start turns <;> rfl

/-- A loop that computed a pace read what the response stated. -/
theorem reads_of_pace {j : Json} {pace : Pace}
    (h : loop.pace arith j start turns = some (.ok pace)) :
    ∃ stated lifetime interval, arith.optInt j "expires_in" = some stated ∧
      stated.elim loop.unstated .ok = .ok lifetime ∧ arith.optInt j "interval" = some interval ∧
      loop.paceFrom arith lifetime interval start turns = some pace := by
  unfold PollLoop.pace at h
  obtain ⟨stated, hstated, h⟩ := Option.bind_eq_some_iff.mp h
  rcases hlifetime : stated.elim loop.unstated .ok with e | lifetime <;> simp only [hlifetime] at h
  · cases h
  obtain ⟨interval, hinterval, h⟩ := Option.bind_eq_some_iff.mp h
  obtain ⟨pace', hpace, h⟩ := Option.bind_eq_some_iff.mp h
  cases h
  exact ⟨stated, lifetime, interval, hstated, hlifetime, hinterval, hpace⟩

/-- A response that a loop starts from gives it a lifetime. -/
theorem Starting.reads (s : Starting loop) :
    ∃ lifetime, s.lifetime.elim loop.unstated .ok = .ok lifetime := by
  unfold Starting.lifetime
  rcases hnumber : s.response.numberMember? "expires_in" with _ | n
  · rcases s.stated with h | h
    · rw [hnumber] at h
      cases h
    · exact h
  · exact ⟨n.truncated, rfl⟩

/-- Without bounds a loop paces as it should. -/
theorem Starting.paces_unbounded (s : Starting loop) (start : Instant)
    (turns : List (PollTurn α)) : ∃ pace lifetime,
      loop.pace unbounded s.response start turns = some (.ok pace) ∧
      s.lifetime.elim loop.unstated .ok = .ok lifetime ∧
      loop.paceFrom unbounded lifetime s.interval start turns = some pace ∧
      ∀ w ∈ pace.waits, 0 < w := by
  obtain ⟨lifetime, hlifetime⟩ := s.reads
  obtain ⟨waits, hwaits, hpositive⟩ := waits_unbounded
    (loop.read start + max 0 (min lifetime 1000000000) * loop.perSecond) turns
    ⟨intervalOf s.interval, 0⟩ (intervalOf_pos s.interval)
  have hfrom : loop.paceFrom unbounded lifetime s.interval start turns = _ := paceFrom_eq
  rw [hwaits, Option.map_some] at hfrom
  refine ⟨_, lifetime, ?_, hlifetime, hfrom, hpositive⟩
  rw [pace_of_reads (unbounded_optInt s.response "expires_in") hlifetime
    (unbounded_optInt s.response "interval")]
  exact congrArg (Option.map Except.ok) hfrom

/-- A clamped lifetime of a second or more is at least that second. -/
theorem clamped_pos (loop : PollLoop α) {lifetime : Int} (h : 1 ≤ lifetime) :
    0 < max 0 (min lifetime 1000000000) * loop.perSecond := by
  have hunits := loop.seconds
  exact mul_pos (by omega) (by omega)

/-- A loop that paces as it should read the lifetime as it is stated: a lifetime that comes out
negative would end at once. -/
theorem lifetime_fits_of_eq {s : Starting loop}
    (h : loop.pace machine s.response start turns = loop.pace unbounded s.response start turns) :
    MemberFits s.response "expires_in" := by
  intro n hn
  by_contra hwide
  obtain ⟨pace, lifetime, hpace, hlifetime, hfrom, -⟩ := s.paces_unbounded start turns
  obtain ⟨stated, wrapped, _, hstated, hwrapped, -, hmachine⟩ := reads_of_pace (h.trans hpace)
  have hread : s.lifetime = some n.truncated := by
    rw [Starting.lifetime, hn, Option.map_some]
  rw [hread] at hlifetime
  cases hlifetime
  unfold Arithmetic.optInt at hstated
  simp only [hn] at hstated
  rcases JsonNumber.getInt64_of_wide hwide with hnone | ⟨v, hneg, hv, hlarge⟩
  · rw [show machine.read n = none from hnone] at hstated
    cases hstated
  rw [show machine.read n = some v from hv] at hstated
  cases hstated
  cases hwrapped
  have hdeadline := (paceFrom_some hmachine).1.symm.trans (paceFrom_some hfrom).1
  have hpositive := clamped_pos loop (show 1 ≤ n.truncated by omega)
  have hzero : max 0 (min wrapped 1000000000) = 0 := by omega
  rw [hzero] at hdeadline
  omega

/-- The interval is read as it is stated: one that comes out negative would be five seconds. -/
theorem interval_fits_of_eq {s : Starting loop}
    (h : loop.pace machine s.response start turns = loop.pace unbounded s.response start turns) :
    MemberFits s.response "interval" := by
  intro n hn
  by_contra hwide
  obtain ⟨pace, lifetime, hpace, hlifetime, hfrom, -⟩ := s.paces_unbounded start turns
  obtain ⟨_, _, wrapped, -, -, hstated, hmachine⟩ := reads_of_pace (h.trans hpace)
  have hread : s.interval = some n.truncated := by
    rw [Starting.interval, hn, Option.map_some]
  unfold Arithmetic.optInt at hstated
  simp only [hn] at hstated
  rcases JsonNumber.getInt64_of_wide hwide with hnone | ⟨v, hneg, hv, hlarge⟩
  · rw [show machine.read n = none from hnone] at hstated
    cases hstated
  rw [show machine.read n = some v from hv] at hstated
  cases hstated
  have hinterval := (paceFrom_some hmachine).2.1.symm.trans (paceFrom_some hfrom).2.1
  rw [hread] at hinterval
  simp only [intervalOf] at hinterval
  split_ifs at hinterval <;> omega

/-- A loop paces as it should exactly where its numbers fit. -/
theorem paces_iff (s : Starting loop) (start : Instant) (turns : List (PollTurn α)) :
    Paces s start turns ↔ PaceFits s turns := by
  obtain ⟨pace, lifetime, hpace, hlifetime, hfrom, hpositive⟩ := s.paces_unbounded start turns
  obtain ⟨hdeadline, -⟩ := deadlineFits_clamped loop start lifetime
  have hwaits := waits_machine_iff loop hdeadline (intervalOf_pos s.interval) turns
  have hsame : MemberFits s.response "expires_in" → MemberFits s.response "interval" →
      loop.pace machine s.response start turns =
        (loop.paceFrom machine lifetime s.interval start turns).map .ok := by
    intro hlife hint
    exact pace_of_reads ((machine_optInt_iff.mpr hlife).trans (unbounded_optInt _ _)) hlifetime
      ((machine_optInt_iff.mpr hint).trans (unbounded_optInt _ _))
  constructor
  · intro h
    have hlife := lifetime_fits_of_eq h.exact
    have hint := interval_fits_of_eq h.exact
    refine ⟨hlife, hint, hwaits.mp ?_⟩
    have heq := h.exact
    rw [hsame hlife hint, hpace] at heq
    obtain ⟨_, hmachine, hok⟩ := Option.map_eq_some_iff.mp heq
    cases hok
    have h1 := (paceFrom_some hmachine).2.2
    have h2 := (paceFrom_some hfrom).2.2
    rw [(paceFrom_some hfrom).1] at h1 h2
    rw [h1, h2]
  · rintro ⟨hlife, hint, hfirst⟩
    have heq : loop.paceFrom machine lifetime s.interval start turns = some pace := by
      rw [paceFrom_eq, hwaits.mpr hfirst, ← paceFrom_eq, hfrom]
    have hmachine : loop.pace machine s.response start turns = some (.ok pace) := by
      rw [hsame hlife hint, heq]
      rfl
    refine ⟨hmachine.trans hpace.symm, pace, hmachine, hpositive, fun stated hstated hlong => ?_⟩
    rw [hstated] at hlifetime
    cases hlifetime
    rw [(paceFrom_some hfrom).1]
    have hspan := clamped_pos loop hlong
    omega

end

/-- The two loops compute as they should exactly where the numbers of the response fit and the end
of their first wait does: what slows them down later is never too much. -/
theorem polling_arithmetic_iff (login : Starting deviceLoop) (await : Starting cibaLoop)
    (start : Instant) (loginTurns : List (PollTurn Refusal))
    (awaitTurns : List (PollTurn CibaPollOutcome)) :
    (Paces login start loginTurns ↔ PaceFits login loginTurns) ∧
      (Paces await start awaitTurns ↔ PaceFits await awaitTurns) :=
  ⟨paces_iff login start loginTurns, paces_iff await start awaitTurns⟩

/-- A poll that never reaches the server's decision. -/
def unheard : Refusal := ⟨.axiam (.network "device poll failed" "unreachable"), nofun⟩

/-- An interval of `10^16` seconds is no number of milliseconds, one of `10^10` seconds no number of
nanoseconds, and a lifetime of `2^63` seconds has ended at once. -/
theorem long_interval_undefined :
    deviceLoop.pace machine (.object [("expires_in", .integer 600),
      ("interval", .integer 10000000000000000)]) ⟨0, by decide⟩
      [⟨⟨0, by decide⟩, ⟨0, by decide⟩, unheard⟩] = none ∧
    cibaLoop.pace machine (.object [("expires_in", .integer 600),
      ("interval", .integer 10000000000)]) ⟨0, by decide⟩
      [⟨⟨0, by decide⟩, ⟨0, by decide⟩, .failed unheard.error true⟩] = none ∧
    deviceLoop.pace machine (.object [("expires_in", .integer 9223372036854775808)])
      ⟨0, by decide⟩ [] = some (.ok ⟨0, 5, []⟩) := by
  decide

/-- Where the conversion of a member is defined, it is what `opt_int` reads. -/
theorem optInt_of_machine {j : Json} {key : Str} {stated : Option Int}
    (h : machine.optInt j key = some stated) : optInt j key = stated := by
  unfold Arithmetic.optInt at h
  unfold optInt
  rcases hnumber : j.numberMember? key with _ | n <;> simp only [hnumber] at h
  · cases h
    rcases hfind : j.find? key with _ | member
    · rfl
    · exact Json.int64?_of_not_number (by simpa [Json.numberMember?, hfind] using hnumber)
  · obtain ⟨v, hv, rfl⟩ := Option.map_eq_some_iff.mp h
    obtain ⟨member, hfind, hmember⟩ := Option.bind_eq_some_iff.mp hnumber
    rw [hfind]
    exact Json.int64?_of_getInt64 hmember hv

/-- A device authorization has the lifetime and the interval of the loop in 64 bits. -/
theorem readAuthorization_paces {env : GrantEnv} {body : Str} {authorization : DeviceAuthorization}
    {start : Instant} {turns : List (PollTurn Refusal)} {pace : Pace}
    (h : readAuthorization env body = .ok authorization)
    (hpace : deviceLoop.pace machine (parseOrObject env.client body) start turns =
      some (.ok pace)) :
    pace.interval = authorization.interval ∧
      pace.deadline = start.ms + max 0 (min authorization.expiresIn 1000000000) * 1000 := by
  obtain ⟨stated, lifetime, interval, hstated, hlifetime, hinterval, hfrom⟩ := reads_of_pace hpace
  cases optInt_of_machine hstated
  cases optInt_of_machine hinterval
  obtain ⟨hdeadline, hpaced, -⟩ := paceFrom_some hfrom
  unfold readAuthorization at h
  extract_lets j at h
  split at h
  next =>
    cases h
    refine ⟨hpaced, ?_⟩
    rw [hdeadline]
    rcases hread : optInt j "expires_in" with _ | n
    · rw [show optInt (parseOrObject env.client body) "expires_in" = none from hread] at hlifetime
      cases hlifetime
      rfl
    · rw [show optInt (parseOrObject env.client body) "expires_in" = some n from hread] at hlifetime
      cases hlifetime
      rfl
  next => cases h

end Axiam.Oidc
