import Axiam.Auth.Revocation
import Axiam.Lib.Run
import Axiam.Lib.Window
import Mathlib.Logic.Function.Basic

/-!
# How often a feed is polled

`is_revoked` called from any number of threads at once.  A check finds the list stale under one
mutex and fetches under another, and it does not look again when it gets that one: every check that
waits behind a fetch fetches once more.  So polls stand an interval apart in the runs in which no
check waits behind a fetch that ends: what a check found stale is then as stale when it fetches.
-/

namespace Axiam.Auth

open Axiam.Lib

/-- Where a call of `is_revoked` stands. -/
inductive Check where
  | idle
  /-- In front of `refresh_if_stale`. -/
  | called (sid : Str)
  /-- It found the list stale: in front of `fetch_mtx_`. -/
  | stale (sid : Str)
  /-- It holds `fetch_mtx_`, and the transport runs. -/
  | fetching (sid : Str)
  /-- In front of the lookup. -/
  | looking (sid : Str)
  | returned (revoked : Bool)

/-- It holds `fetch_mtx_`. -/
def Check.fetches : Check → Bool
  | .fetching _ => true
  | _ => false

/-- It is in front of `fetch_mtx_`. -/
def Check.waits : Check → Bool
  | .stale _ => true
  | _ => false

/-- Whose turn it is and when; what it asks for, when it begins; what its fetch brings, when that
ends. -/
structure CheckTurn where
  check : Nat
  time : Int
  sid : Str
  fetched : Option (List Str)

/-- A feed, and every call of `is_revoked` on it. -/
structure FeedChecks where
  entries : Option (List Str) := none
  lastAttempt : Option Int := none
  /-- `fetch_mtx_` is held. -/
  locked : Bool := false
  /-- What the steady clock read last. -/
  now : Int
  checks : Nat → Check := fun _ => .idle

namespace FeedChecks

variable (env : FeedEnv)

/-- `!(last_attempt_.has_value() && now() - *last_attempt_ < poll_interval_)`. -/
def due (w : FeedChecks) (time : Int) : Bool :=
  match w.lastAttempt with
  | none => true
  | some last => !(time - last < pollInterval env)

/-- The next step of a check. -/
def advance (w : FeedChecks) (l : CheckTurn) : Check → FeedChecks × Check
  | .idle => (w, if l.sid = [] then .returned false else .called l.sid)
  | .called sid => (w, if w.due env l.time then .stale sid else .looking sid)
  | .stale sid => if w.locked then (w, .stale sid) else ({ w with locked := true }, .fetching sid)
  | .fetching sid =>
      ({ w with
        lastAttempt := some l.time
        entries := l.fetched <|> w.entries
        locked := false }, .looking sid)
  | .looking sid =>
      (w, .returned (match w.entries with
        | some entries => entries.contains (revocationEntryFor env sid)
        | none => false))
  | .returned revoked => (w, .returned revoked)

def turn (w : FeedChecks) (l : CheckTurn) : FeedChecks :=
  let next := w.advance env l (w.checks l.check)
  { next.1 with now := l.time, checks := Function.update w.checks l.check next.2 }

/-- Any check may take its turn, and the clock does not run backwards. -/
def Steps (w : FeedChecks) (l : CheckTurn) (v : FeedChecks) : Prop :=
  w.now ≤ l.time ∧ v = w.turn env l

/-- A feed that was never asked. -/
def start (time : Int) : FeedChecks := { now := time }

/-- When the step started a fetch. -/
def starts (t : Transition FeedChecks CheckTurn) : List Int :=
  match t.pre.checks t.label.check with
  | .stale _ => if t.pre.locked then [] else [t.label.time]
  | _ => []

/-- When the step ends a fetch, no check waits for `fetch_mtx_`. -/
def NoneWaits (t : Transition FeedChecks CheckTurn) : Prop :=
  ∀ sid, t.pre.checks t.label.check = .fetching sid → ∀ i sid', t.pre.checks i ≠ .stale sid'

/-! ## One step -/

/-- What a step does to the feed: it starts a fetch, ends one, or leaves both the lock and the time
of the last attempt alone. -/
theorem turn_cases (w : FeedChecks) (l : CheckTurn) :
    (starts ⟨w, l, w.turn env l⟩ = [l.time] ∧ w.locked = false ∧ (w.turn env l).locked = true) ∨
    (starts ⟨w, l, w.turn env l⟩ = [] ∧ (w.turn env l).lastAttempt = some l.time) ∨
    (starts ⟨w, l, w.turn env l⟩ = [] ∧ (w.turn env l).locked = w.locked ∧
      (w.turn env l).lastAttempt = w.lastAttempt) := by
  unfold turn starts
  simp only
  cases hcheck : w.checks l.check with
  | stale sid =>
      cases hlock : w.locked with
      | true => exact .inr (.inr (by simp [advance, hlock]))
      | false => exact .inl (by simp [advance, hlock])
  | fetching sid => exact .inr (.inl ⟨rfl, rfl⟩)
  | _ => exact .inr (.inr ⟨rfl, rfl, rfl⟩)

theorem turn_checks (w : FeedChecks) (l : CheckTurn) : (w.turn env l).checks =
    Function.update w.checks l.check (w.advance env l (w.checks l.check)).2 := rfl

/-- A check is in front of `fetch_mtx_` after a step if it was there, or found the list stale. -/
theorem stale_of_turn {w : FeedChecks} {l : CheckTurn} {i : Nat} {sid : Str}
    (h : (w.turn env l).checks i = .stale sid) : w.checks i = .stale sid ∨
      (w.checks l.check = .called sid ∧ w.due env l.time = true) := by
  by_cases hi : i = l.check
  · subst hi
    have hnext : (w.advance env l (w.checks l.check)).2 = .stale sid := by
      rwa [turn_checks, Function.update_self] at h
    cases hcheck : w.checks l.check with
    | called sid' =>
        rw [hcheck] at hnext
        by_cases hdue : w.due env l.time = true
        · simp only [advance, if_pos hdue, Check.stale.injEq] at hnext
          exact .inr ⟨by rw [hnext], hdue⟩
        · simp [advance, if_neg hdue] at hnext
    | stale sid' =>
        rw [hcheck] at hnext
        cases hlock : w.locked <;> simp [advance, hlock] at hnext
        exact .inl (by rw [hnext])
    | idle =>
        rw [hcheck] at hnext
        by_cases hsid : l.sid = [] <;> simp [advance, hsid] at hnext
    | fetching sid' =>
        rw [hcheck] at hnext
        cases hnext
    | looking sid' =>
        rw [hcheck] at hnext
        cases hnext
    | returned revoked =>
        rw [hcheck] at hnext
        cases hnext
  · rw [turn_checks, Function.update_of_ne hi] at h
    exact .inl h

/-- Nothing but the end of a fetch is an attempt. -/
theorem turn_lastAttempt {w : FeedChecks} {l : CheckTurn}
    (h : ∀ sid, w.checks l.check ≠ .fetching sid) : (w.turn env l).lastAttempt = w.lastAttempt := by
  unfold turn
  cases hcheck : w.checks l.check with
  | fetching sid => exact absurd hcheck (h sid)
  | stale sid => cases hlock : w.locked <;> simp [advance, hlock]
  | _ => rfl

/-- What is due stays due until the next attempt. -/
theorem due_later {w v : FeedChecks} {time later : Int} (hdue : w.due env time = true)
    (hlater : time ≤ later) (hsame : v.lastAttempt = w.lastAttempt) : v.due env later = true := by
  unfold due at hdue ⊢
  rw [hsame]
  cases hlast : w.lastAttempt with
  | none => rfl
  | some last =>
      rw [hlast] at hdue
      have hpassed : ¬time - last < pollInterval env := by simpa using hdue
      have hstill : ¬later - last < pollInterval env := by omega
      simpa using hstill

/-- The fetches started so far lie in the past, and all of them before the last attempt once none
is under way; and while a check waits for its fetch, the list stays due. -/
structure Polled (past : List (Transition FeedChecks CheckTurn)) (w : FeedChecks) : Prop where
  before : ∀ p ∈ past, ∀ a ∈ starts p, a ≤ w.now
  ended : w.locked = false → ∀ p ∈ past, ∀ a ∈ starts p, ∃ last, w.lastAttempt = some last ∧ a ≤ last
  waiting : ∀ i sid, w.checks i = .stale sid → w.due env w.now = true

variable {env}

theorem Polled.step {past : List (Transition FeedChecks CheckTurn)} {w v : FeedChecks}
    {l : CheckTurn} (h : Polled env past w) (hstep : Steps env w l v) (hwaits : NoneWaits ⟨w, l, v⟩) :
    Polled env (past ++ [⟨w, l, v⟩]) v := by
  obtain ⟨htime, rfl⟩ := hstep
  have hnow : (w.turn env l).now = l.time := rfl
  have hbefore : ∀ p ∈ past ++ [⟨w, l, w.turn env l⟩], ∀ a ∈ starts p, a ≤ l.time := by
    intro p hp a ha
    obtain hp | hp := List.mem_append.mp hp
    · exact (h.before p hp a ha).trans htime
    · rw [List.mem_singleton] at hp
      subst hp
      obtain ⟨hstart, _⟩ | ⟨hstart, _⟩ | ⟨hstart, _⟩ := turn_cases env w l
      · rw [hstart, List.mem_singleton] at ha
        exact le_of_eq ha
      · rw [hstart] at ha
        exact nomatch ha
      · rw [hstart] at ha
        exact nomatch ha
  refine ⟨by rw [hnow]; exact hbefore, fun hlocked p hp a ha => ?_, fun i sid hstale => ?_⟩
  · obtain ⟨_, _, hheld⟩ | ⟨_, hlast⟩ | ⟨hstart, hsame, hlast⟩ := turn_cases env w l
    · -- a fetch is under way
      rw [hheld] at hlocked
      exact nomatch hlocked
    · -- the fetch that ends is the last attempt
      exact ⟨l.time, hlast, hbefore p hp a ha⟩
    · rw [hlast]
      obtain hp | hp := List.mem_append.mp hp
      · exact h.ended (hsame ▸ hlocked) p hp a ha
      · rw [List.mem_singleton] at hp
        subst hp
        rw [hstart] at ha
        exact nomatch ha
  · rw [hnow]
    rcases stale_of_turn env hstale with hwaited | ⟨hcalled, hdue⟩
    · -- a fetch that ends now would end in front of this check
      have hends : ∀ sid', w.checks l.check ≠ .fetching sid' := fun sid' hends =>
        hwaits sid' hends i sid hwaited
      exact due_later env (h.waiting i sid hwaited) htime (turn_lastAttempt env hends)
    · have hends : ∀ sid', w.checks l.check ≠ .fetching sid' := by simp [hcalled]
      exact due_later env hdue le_rfl (turn_lastAttempt env hends)

theorem polled_start (time : Int) : Polled env [] (start time) :=
  ⟨fun _ hp => absurd hp List.not_mem_nil, fun _ _ hp => absurd hp List.not_mem_nil,
    fun _ _ hstale => nomatch hstale⟩

/-- A fetch stands an interval after every one before it. -/
theorem Polled.apart {past : List (Transition FeedChecks CheckTurn)} {w v : FeedChecks}
    {l : CheckTurn} (h : Polled env past w) (hstep : Steps env w l v) :
    ∀ p ∈ past, ∀ a ∈ starts p, ∀ b ∈ starts ⟨w, l, v⟩, a + pollInterval env ≤ b := by
  obtain ⟨htime, rfl⟩ := hstep
  intro p hp a ha b hb
  unfold starts at hb
  simp only at hb
  cases hcheck : w.checks l.check with
  | stale sid =>
      rw [hcheck] at hb
      cases hlock : w.locked with
      | true => simp [hlock] at hb
      | false =>
          obtain rfl : b = l.time := by simpa [hlock] using hb
          obtain ⟨last, hlast, hle⟩ := h.ended hlock p hp a ha
          have hdue := due_later env (h.waiting l.check sid hcheck) htime rfl
          unfold due at hdue
          rw [hlast] at hdue
          have hpassed : ¬l.time - last < pollInterval env := by simpa using hdue
          omega
  | _ => simp [hcheck] at hb

theorem starts_length (t : Transition FeedChecks CheckTurn) : (starts t).length ≤ 1 := by
  unfold starts
  cases t.pre.checks t.label.check with
  | stale sid => cases t.pre.locked <;> simp
  | _ => simp

/-! ## Any run -/

/-- In a run in which no check waits behind a fetch when it ends, no interval has two fetches started
in it. -/
theorem fetch_rate (env : FeedEnv) {origin : Int} {trace : List (Transition FeedChecks CheckTurn)}
    {w : FeedChecks} (hrun : Run (Steps env) (start origin) trace w)
    (hwaits : ∀ t ∈ trace, NoneWaits t) (opening : Int) :
    (inWindow opening (pollInterval env) (trace.flatMap starts)).length ≤ 1 := by
  have hpairs := Run.pairwise (I := Polled env)
    (R := fun p t => ∀ a ∈ starts p, ∀ b ∈ starts t, a + pollInterval env ≤ b)
    (fun past s l t h hs => h.step hs.1 hs.2)
    (fun past s l t h hs p hp => h.apart hs.1 p hp)
    (hrun.restrict hwaits) [] (polled_start origin)
  have hspaced : Spaced (pollInterval env) (trace.flatMap starts) :=
    spaced_flatMap (fun t _ => starts_length t) hpairs.1
  exact hspaced.inWindow_length opening

/-- Turns at times that do not run backwards are a run. -/
theorem run_follow (env : FeedEnv) (w : FeedChecks) (labels : List CheckTurn)
    (htimes : (w.now :: labels.map CheckTurn.time).IsChain (· ≤ ·)) :
    Run (Steps env) w (Run.follow (turn env) w labels) (labels.foldl (turn env) w) := by
  induction labels generalizing w with
  | nil => exact .nil w
  | cons l rest ih =>
      obtain ⟨htime, hrest⟩ := List.isChain_cons_cons.mp htimes
      exact .cons ⟨htime, rfl⟩ (ih (w.turn env l) hrest)

/-- A check that never has a turn is never stale. -/
theorem follow_idle {w : FeedChecks} {labels : List CheckTurn} {i : Nat}
    (hi : i ∉ labels.map CheckTurn.check) (hidle : w.checks i = .idle) :
    ∀ t ∈ Run.follow (turn env) w labels, t.pre.checks i = .idle := by
  induction labels generalizing w with
  | nil => exact fun _ h => nomatch h
  | cons l rest ih =>
      rw [List.map_cons, List.mem_cons, not_or] at hi
      intro t ht
      rcases List.mem_cons.mp ht with rfl | ht
      · exact hidle
      · refine ih hi.2 ?_ t ht
        rw [turn_checks, Function.update_of_ne hi.1]
        exact hidle

/-- So it is enough to look at those that have one. -/
theorem noneWaits_follow {w : FeedChecks} {labels : List CheckTurn} (hidle : ∀ i, w.checks i = .idle)
    (h : ∀ t ∈ Run.follow (turn env) w labels, (t.pre.checks t.label.check).fetches = true →
      ∀ i ∈ labels.map CheckTurn.check, (t.pre.checks i).waits = false) :
    ∀ t ∈ Run.follow (turn env) w labels, NoneWaits t := by
  intro t ht sid hfetching i sid' hstale
  by_cases hi : i ∈ labels.map CheckTurn.check
  · have hnone := h t ht (by rw [hfetching]; rfl) i hi
    rw [hstale] at hnone
    cases hnone
  · rw [follow_idle hi (hidle i) t ht] at hstale
    cases hstale

/-- A feed polled every thirty seconds. -/
def polledFeed : FeedEnv where
  baseUrl := "https://axiam.example"
  parse := fun _ => none
  sha256 := fun _ => none
  transport := fun _ _ => .error (.foreign "unreachable")
  clock := fun _ => 0

/-- Two checks at once, of which the second looks at the list when the first has fetched it; a third
comes after the interval. -/
def oneByOne : List CheckTurn :=
  [⟨0, 0, "s", none⟩, ⟨1, 0, "s", none⟩, ⟨0, 0, "s", none⟩, ⟨0, 0, "s", none⟩, ⟨0, 1, "s", some []⟩,
    ⟨1, 1, "s", none⟩, ⟨0, 1, "s", none⟩, ⟨1, 2, "s", none⟩, ⟨2, 40, "s", none⟩, ⟨2, 40, "s", none⟩,
    ⟨2, 40, "s", none⟩]

theorem fetch_rate_oneByOne :
    (Run.follow (turn polledFeed) (start 0) oneByOne).flatMap starts = [0, 40] ∧
      (inWindow 0 (pollInterval polledFeed)
        ((Run.follow (turn polledFeed) (start 0) oneByOne).flatMap starts)).length ≤ 1 :=
  ⟨by decide, fetch_rate polledFeed
    (run_follow polledFeed (start 0) oneByOne (by decide))
    (noneWaits_follow (fun _ => rfl) (by decide)) 0⟩

/-- Two checks that find the list stale together: the second waits for the first one's fetch, and
then fetches too. -/
def together : List CheckTurn :=
  [⟨0, 0, "s", none⟩, ⟨1, 0, "s", none⟩, ⟨0, 0, "s", none⟩, ⟨1, 0, "s", none⟩,
    ⟨0, 0, "s", none⟩, ⟨0, 1, "s", some []⟩, ⟨1, 1, "s", none⟩]

/-- A burst of checks fetches once for each of them. -/
theorem burst_fetches_each : ¬ ∀ (env : FeedEnv) (origin : Int)
    (trace : List (Transition FeedChecks CheckTurn)) (w : FeedChecks),
    Run (Steps env) (start origin) trace w → ∀ opening,
      (inWindow opening (pollInterval env) (trace.flatMap starts)).length ≤ 1 := by
  intro hall
  have hrun := run_follow polledFeed (start 0) together (by decide)
  exact absurd (hall polledFeed 0 _ _ hrun 0) (by decide)

end FeedChecks

end Axiam.Auth
