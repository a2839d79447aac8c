import Mathlib.Data.List.Chain
import Mathlib.Data.List.Basic

/-!
# A bounded retry

A request may be sent again after some outcomes, after a wait, and at most so many times; a
deadline may end it.  `Follows P deadline left attempt moments last` says that the moments of a
loop are those the policy `P` allows it, with `left` attempts after the first, which is attempt
number `attempt`: `last` is the outcome of its last request, none when the deadline came first.
-/

namespace Axiam.Lib

/-- What a loop does that has a time: it reads a clock, it sleeps, it sends a request. -/
inductive Moment (ω : Type) where
  | clock (now : Int)
  | slept (ms : Int)
  | sent (outcome : ω)
  deriving DecidableEq

/-- The outcome of a request. -/
def Moment.outcome {ω : Type} : Moment ω → Option ω
  | .sent o => some o
  | .clock _ | .slept _ => none

/-- The outcomes of the requests among some moments. -/
def sends {ω : Type} (moments : List (Moment ω)) : List ω := moments.filterMap Moment.outcome

/-- After which outcomes a request is sent again, and how long the wait after an attempt is. -/
structure RetryPolicy (ω : Type) where
  again : ω → Prop
  wait : Nat → ω → Int → Prop

/-- An instant of a clock, and how many units of that clock a millisecond has. -/
structure Deadline where
  instant : Int
  perMs : Int

section

variable {ω : Type}

/-- A wait; with a deadline, its end was foreseen before the deadline and found before it. -/
inductive Waited (w : Int) : Option Deadline → List (Moment ω) → Prop
  | free : Waited w none [.slept w]
  | watched {d : Deadline} {before after : Int} : before + w * d.perMs < d.instant →
      after < d.instant → Waited w (some d) [.clock before, .slept w, .clock after]

/-- A wait the deadline came before: foreseen, or found when it was over. -/
inductive Overdue (w : Int) : Option Deadline → List (Moment ω) → Prop
  | foreseen {d : Deadline} {now : Int} : d.instant ≤ now + w * d.perMs →
      Overdue w (some d) [.clock now]
  | overslept {d : Deadline} {before after : Int} : before + w * d.perMs < d.instant →
      d.instant ≤ after → Overdue w (some d) [.clock before, .slept w, .clock after]

variable (P : RetryPolicy ω) (deadline : Option Deadline)

inductive Follows : Nat → Nat → List (Moment ω) → Option ω → Prop
  | done {left attempt : Nat} {o : ω} : left = 0 ∨ ¬P.again o →
      Follows left attempt [.sent o] (some o)
  | expired {left attempt : Nat} {o : ω} {w : Int} {late : List (Moment ω)} : P.again o →
      P.wait attempt o w → Overdue w deadline late →
      Follows (left + 1) attempt (.sent o :: late) none
  | again {left attempt : Nat} {o : ω} {w : Int} {wait rest : List (Moment ω)} {last : Option ω} :
      P.again o → P.wait attempt o w → Waited w deadline wait →
      Follows left (attempt + 1) rest last →
      Follows (left + 1) attempt (.sent o :: (wait ++ rest)) last

end

/-! ## What it sends -/

section

variable {ω : Type} {P : RetryPolicy ω} {deadline : Option Deadline}

@[simp] theorem sends_nil : sends ([] : List (Moment ω)) = [] := rfl

@[simp] theorem sends_sent (o : ω) (rest : List (Moment ω)) :
    sends (.sent o :: rest) = o :: sends rest := rfl

@[simp] theorem sends_clock (now : Int) (rest : List (Moment ω)) :
    sends (.clock now :: rest) = sends rest := rfl

@[simp] theorem sends_slept (ms : Int) (rest : List (Moment ω)) :
    sends (.slept ms :: rest) = sends rest := rfl

@[simp] theorem sends_append (first second : List (Moment ω)) :
    sends (first ++ second) = sends first ++ sends second := List.filterMap_append

theorem Waited.sends {w : Int} {wait : List (Moment ω)} (h : Waited w deadline wait) :
    sends wait = [] := by
  cases h <;> rfl

theorem Overdue.sends {w : Int} {late : List (Moment ω)} (h : Overdue w deadline late) :
    sends late = [] := by
  cases h <;> rfl

theorem Overdue.ne_nil {w : Int} {late : List (Moment ω)} (h : Overdue w deadline late) :
    late ≠ [] := by
  cases h <;> exact List.cons_ne_nil _ _

theorem sends_again {w : Int} {o : ω} {wait : List (Moment ω)} (h : Waited w deadline wait)
    (rest : List (Moment ω)) : sends (.sent o :: (wait ++ rest)) = o :: sends rest := by
  rw [sends_sent, sends_append, h.sends, List.nil_append]

/-- The first moment is a request. -/
theorem Follows.head {left attempt : Nat} {moments : List (Moment ω)} {last : Option ω}
    (h : Follows P deadline left attempt moments last) : ∃ o rest, moments = .sent o :: rest := by
  cases h with
  | done _ => exact ⟨_, _, rfl⟩
  | expired _ _ _ => exact ⟨_, _, rfl⟩
  | again _ _ _ _ => exact ⟨_, _, rfl⟩

theorem Follows.sends_ne_nil {left attempt : Nat} {moments : List (Moment ω)} {last : Option ω}
    (h : Follows P deadline left attempt moments last) : sends moments ≠ [] := by
  obtain ⟨o, rest, rfl⟩ := h.head
  exact List.cons_ne_nil _ _

/-- The last outcome is that of the last request. -/
theorem Follows.getLast {left attempt : Nat} {moments : List (Moment ω)} {o : ω}
    (h : Follows P deadline left attempt moments (some o)) : (sends moments).getLast? = some o := by
  generalize hlast : some o = last at h
  induction h with
  | done _ =>
      cases hlast
      rfl
  | expired _ _ _ => cases hlast
  | again _ _ hwait hrest ih =>
      rw [sends_again hwait, List.getLast?_cons_of_ne_nil hrest.sends_ne_nil]
      exact ih hlast

/-- What was sent again was sent again by the policy. -/
theorem Follows.resent {left attempt : Nat} {moments : List (Moment ω)} {last : Option ω}
    (h : Follows P deadline left attempt moments last) : ∀ o ∈ (sends moments).dropLast, P.again o := by
  induction h with
  | done _ =>
      intro o ho
      cases ho
  | expired _ _ hlate =>
      intro o ho
      rw [sends_sent, hlate.sends] at ho
      cases ho
  | again hagain _ hwait hrest ih =>
      intro o ho
      rw [sends_again hwait, List.dropLast_cons_of_ne_nil hrest.sends_ne_nil] at ho
      rcases List.mem_cons.mp ho with rfl | ho
      · exact hagain
      · exact ih o ho

/-- No more than the budget is sent. -/
theorem Follows.length_sends {left attempt : Nat} {moments : List (Moment ω)} {last : Option ω}
    (h : Follows P deadline left attempt moments last) : (sends moments).length ≤ left + 1 := by
  induction h with
  | done _ =>
      show 1 ≤ _
      omega
  | expired _ _ hlate =>
      rw [sends_sent, hlate.sends]
      show 1 ≤ _
      omega
  | again _ _ hwait _ ih =>
      rw [sends_again hwait, List.length_cons]
      omega

/-- Another policy that tries the same again, and allows each wait that came after an attempt. -/
theorem Follows.transfer {P Q : RetryPolicy ω} (hagain : ∀ o, P.again o ↔ Q.again o)
    {left attempt : Nat} {moments : List (Moment ω)} {last : Option ω}
    (h : Follows P deadline left attempt moments last)
    (hwait : ∀ before o after w, moments = before ++ .sent o :: after → after ≠ [] → P.again o →
      P.wait (attempt + (sends before).length) o w → Q.wait (attempt + (sends before).length) o w) :
    Follows Q deadline left attempt moments last := by
  induction h with
  | done hdone => exact .done (hdone.imp_right fun h => mt (hagain _).mpr h)
  | expired hagain' hwait' hlate =>
      have hsome := hlate.ne_nil
      exact .expired ((hagain _).mp hagain') (hwait [] _ _ _ rfl hsome hagain' hwait') hlate
  | @again left attempt o w wait rest last hagain' hwait' hwaited hrest ih =>
      have hsome : wait ++ rest ≠ [] := by
        obtain ⟨o', rest', rfl⟩ := hrest.head
        simp
      refine .again ((hagain _).mp hagain') (hwait [] _ _ _ rfl hsome hagain' hwait') hwaited ?_
      refine ih fun before o' after w' hsplit hafter hagain'' hw' => ?_
      -- the moments before an attempt of the rest begin with this one
      have hcount : attempt + (sends (.sent o :: (wait ++ before))).length =
          attempt + 1 + (sends before).length := by
        rw [sends_again hwaited, List.length_cons]
        omega
      have hnext := hwait (.sent o :: (wait ++ before)) o' after w' (by simp [hsplit]) hafter hagain''
      rw [hcount] at hnext
      exact hnext hw'

/-- Another policy that tries the same again, and whose waits are no narrower. -/
theorem Follows.weaken {P Q : RetryPolicy ω} (hagain : ∀ o, P.again o ↔ Q.again o)
    (hwait : ∀ n o w, P.again o → P.wait n o w → Q.wait n o w) {left attempt : Nat}
    {moments : List (Moment ω)} {last : Option ω} (h : Follows P deadline left attempt moments last) :
    Follows Q deadline left attempt moments last :=
  h.transfer hagain fun before o _ w _ _ => hwait (attempt + (sends before).length) o w

/-- Moments without a request that come before others end before the first request of those. -/
theorem split_after_silent {silent rest before after : List (Moment ω)} {o : ω}
    (hsilent : sends silent = []) (hsplit : silent ++ rest = before ++ .sent o :: after) :
    ∃ earlier, before = silent ++ earlier ∧ rest = earlier ++ .sent o :: after := by
  rcases List.append_eq_append_iff.mp hsplit with ⟨earlier, hbefore, hrest⟩ | ⟨more, hmore, hrest⟩
  · exact ⟨earlier, hbefore, hrest⟩
  · cases more with
    | nil =>
        rw [List.append_nil] at hmore
        exact ⟨[], by simp [hmore], hrest.symm⟩
    | cons m more =>
        obtain ⟨rfl, -⟩ := List.cons.inj hrest
        rw [hmore] at hsilent
        simp at hsilent

/-- Between a request and the next there is a wait the policy allows. -/
theorem Follows.waited {left attempt : Nat} {moments : List (Moment ω)} {last : Option ω}
    (h : Follows P deadline left attempt moments last) {before after : List (Moment ω)} {o : ω}
    (hsplit : moments = before ++ .sent o :: after) (hlater : sends after ≠ []) :
    ∃ w wait rest, P.wait (attempt + (sends before).length) o w ∧ Waited w deadline wait ∧
      after = wait ++ rest := by
  induction h generalizing before with
  | done _ =>
      cases before with
      | nil =>
          cases hsplit
          exact absurd rfl hlater
      | cons m before => simp at hsplit
  | expired _ _ hlate =>
      cases before with
      | nil =>
          cases hsplit
          exact absurd hlate.sends hlater
      | cons m before =>
          have hsends := congrArg sends (List.cons.inj hsplit).2
          rw [hlate.sends] at hsends
          simp at hsends
  | @again left attempt o' w wait rest last _ hwait hwaited _ ih =>
      cases before with
      | nil =>
          cases hsplit
          exact ⟨w, wait, rest, hwait, hwaited, rfl⟩
      | cons m before =>
          obtain ⟨rfl, hmore⟩ := List.cons.inj hsplit
          obtain ⟨earlier, rfl, hrest⟩ := split_after_silent hwaited.sends hmore
          obtain ⟨w', wait', rest', hw', hwaited', hafter⟩ := ih hrest
          refine ⟨w', wait', rest', ?_, hwaited', hafter⟩
          rw [sends_again hwaited, List.length_cons, ← Nat.add_assoc, Nat.add_right_comm]
          exact hw'

/-- What is waited first in some moments is one wait. -/
theorem Waited.unique {w w' : Int} {wait wait' rest rest' : List (Moment ω)}
    (h : Waited w deadline wait) (h' : Waited w' deadline wait')
    (heq : wait ++ rest = wait' ++ rest') : w = w' := by
  cases h <;> cases h' <;> cases heq <;> rfl

/-- Without a retry, one request is sent. -/
theorem Follows.once {attempt : Nat} {moments : List (Moment ω)} {last : Option ω}
    (h : Follows P deadline 0 attempt moments last) : (sends moments).length = 1 := by
  cases h with
  | done _ => rfl

end

/-! ## The deadline -/

/-- A request is sent right after a look at the clock that found the deadline ahead. -/
def Timely {ω : Type} (instant : Int) (earlier later : Moment ω) : Prop :=
  ∀ o, later = .sent o → ∃ now < instant, earlier = .clock now

/-- Every request is sent right after such a look. -/
def SentBefore {ω : Type} (instant : Int) (moments : List (Moment ω)) : Prop :=
  ∀ earlier o later, moments = earlier ++ .sent o :: later →
    ∃ before now, earlier = before ++ [.clock now] ∧ now < instant

/-- Every request but a first moment is sent right after such a look. -/
def OnTime {ω : Type} (instant : Int) (moments : List (Moment ω)) : Prop :=
  moments.IsChain (Timely instant)

/-- Moments that begin with no request, and each request among them in time. -/
structure Timed {ω : Type} (instant : Int) (moments : List (Moment ω)) : Prop where
  quiet : ∀ o, moments.head? ≠ some (.sent o)
  onTime : OnTime instant moments

section

variable {ω : Type} {P : RetryPolicy ω}

theorem onTime_nil (instant : Int) : OnTime instant ([] : List (Moment ω)) := .nil

/-- Moments that begin with no request follow others in time. -/
theorem OnTime.append {instant : Int} {first second : List (Moment ω)} (hfirst : OnTime instant first)
    (hsecond : OnTime instant second) (hhead : ∀ o, second.head? ≠ some (.sent o)) :
    OnTime instant (first ++ second) := by
  refine List.isChain_append.mpr ⟨hfirst, hsecond, fun earlier _ later hlater o ho => ?_⟩
  rw [ho] at hlater
  exact absurd hlater (hhead o)

theorem timed_nil (instant : Int) : Timed instant ([] : List (Moment ω)) := ⟨nofun, .nil⟩

theorem Timed.append {instant : Int} {first second : List (Moment ω)} (hfirst : Timed instant first)
    (hsecond : Timed instant second) : Timed instant (first ++ second) := by
  refine ⟨fun o h => ?_, hfirst.onTime.append hsecond.onTime hsecond.quiet⟩
  cases first with
  | nil => exact hsecond.quiet o h
  | cons m rest => exact hfirst.quiet o h

theorem Timed.sentBefore {instant : Int} {moments : List (Moment ω)} (h : Timed instant moments) :
    SentBefore instant moments := by
  intro earlier o later hsplit
  have hquiet := h.quiet o
  have honTime := h.onTime
  rcases List.eq_nil_or_concat earlier with rfl | ⟨before, m, rfl⟩
  · rw [hsplit] at hquiet
    exact absurd rfl hquiet
  · rw [hsplit, List.concat_eq_append] at honTime
    obtain ⟨-, -, hlink⟩ := List.isChain_append.mp honTime
    obtain ⟨now, hnow, rfl⟩ := hlink m (by simp) (.sent o) rfl o rfl
    exact ⟨before, now, List.concat_eq_append, hnow⟩

/-- A look at the clock alone. -/
theorem timed_look (instant now : Int) : Timed instant ([.clock now] : List (Moment ω)) :=
  ⟨nofun, .singleton _⟩

/-- A wait that nothing follows. -/
theorem timed_overslept (instant before w after : Int) :
    Timed instant ([.clock before, .slept w, .clock after] : List (Moment ω)) :=
  ⟨nofun, .cons_cons (fun _ h => nomatch h) (.cons_cons (fun _ h => nomatch h) (.singleton _))⟩

/-- A wait that is over before the instant, and what comes in time after it. -/
theorem timed_wait {instant before w after : Int} {rest : List (Moment ω)} (hafter : after < instant)
    (hrest : OnTime instant rest) :
    Timed instant ([.clock before, .slept w, .clock after] ++ rest) := by
  refine ⟨nofun, .cons_cons (fun _ h => nomatch h) (.cons_cons (fun _ h => nomatch h) ?_)⟩
  exact List.isChain_cons.mpr ⟨fun _ _ _ _ => ⟨after, hafter, rfl⟩, hrest⟩

theorem Waited.timed {w : Int} {d : Deadline} {wait rest : List (Moment ω)}
    (h : Waited w (some d) wait) (hrest : OnTime d.instant rest) : Timed d.instant (wait ++ rest) := by
  cases h with
  | watched _ hafter => exact timed_wait hafter hrest

theorem Overdue.timed {w : Int} {d : Deadline} {late : List (Moment ω)}
    (h : Overdue w (some d) late) : Timed d.instant late := by
  cases h with
  | foreseen _ => exact timed_look _ _
  | overslept _ _ => exact timed_overslept _ _ _ _

/-- After a first request, everything the policy sends is in time. -/
theorem Follows.onTime {d : Deadline} {left attempt : Nat} {moments : List (Moment ω)}
    {last : Option ω} (h : Follows P (some d) left attempt moments last) :
    OnTime d.instant moments := by
  -- what follows a request begins with a look at the clock
  have hafter : ∀ {o : ω} {more : List (Moment ω)}, Timed d.instant more →
      OnTime d.instant (.sent o :: more) := by
    intro o more hmore
    exact OnTime.append (.singleton _) hmore.onTime hmore.quiet
  induction h with
  | done _ => exact .singleton _
  | expired _ _ hlate => exact hafter hlate.timed
  | again _ _ hwait _ ih => exact hafter (hwait.timed ih)

end

end Axiam.Lib
