import Axiam.Core.Error
import Axiam.Lib.Run
import Mathlib.Logic.Function.Basic

/-!
# The single-flight refresh guard

`RefreshGuard::run` called from any number of threads at once.  A step is what one thread does
between two points at which another one can come in: a section under the mutex, the settling of
a promise, the start or the end of the refresh function.
-/

namespace Axiam.Client

/-- What the refresh function ends with: its value, or what it throws. -/
abbrev Outcome (α : Type) := Except Exc α

/-- How far the owner of a flight is. -/
inductive Stage (α : Type) where
  | claimed
  | executing
  | ended (outcome : Outcome α)
  | published (outcome : Outcome α)

/-- What the owner has published. -/
def Stage.publication {α : Type} : Stage α → Option (Outcome α)
  | .published o => some o
  | .claimed | .executing | .ended _ => none

/-- Where a call of `run` stands. -/
inductive Caller (α : Type) where
  | idle
  | called
  | waiting (flight : Nat)
  | owner (flight : Nat) (generation : UInt64) (stage : Stage α)
  | returned (outcome : Outcome α)

/-- The guard.  A flight is the number of its promise, and a promise without an outcome has not
settled; `inflight` is the future the slot holds. -/
structure RefreshGuard (α : Type) where
  promises : List (Option (Outcome α)) := []
  inflight : Option Nat := none
  generation : UInt64 := 0

namespace RefreshGuard

variable {α : Type} (g : RefreshGuard α)

/-- The outcome a flight's future is ready with. -/
def ready (f : Nat) : Option (Outcome α) := (g.promises[f]?).join

/-- The flight in the slot, while its future has not settled. -/
def liveLocked : Option Nat := g.inflight.filter fun f => (g.ready f).isNone

/-- The section that joins the live flight, or else claims a new one. -/
def enter : RefreshGuard α × Caller α :=
  match g.liveLocked with
  | some f => (g, .waiting f)
  | none =>
      let generation := g.generation + 1
      let flight := g.promises.length
      (⟨g.promises ++ [none], some flight, generation⟩, .owner flight generation .claimed)

def publish (f : Nat) (o : Outcome α) : RefreshGuard α :=
  { g with promises := g.promises.set f (some o) }

/-- The section that clears the slot iff it still holds `generation`. -/
def vacate (generation : UInt64) : RefreshGuard α :=
  if g.generation = generation then { g with inflight := none } else g

/-- The next step of a call; `o` is what the refresh function ends with, when it ends. -/
def advance (o : Outcome α) : Caller α → RefreshGuard α × Caller α
  | .idle => (g, .called)
  | .called => g.enter
  | .waiting f =>
      match g.ready f with
      | some out => (g, .returned out)
      | none => (g, .waiting f)
  | .owner f n .claimed => (g, .owner f n .executing)
  | .owner f n .executing => (g, .owner f n (.ended o))
  | .owner f n (.ended out) => (g.publish f out, .owner f n (.published out))
  | .owner _ n (.published out) => (g.vacate n, .returned out)
  | .returned out => (g, .returned out)

end RefreshGuard

/-- Whose turn it is, and what its refresh function ends with. -/
structure Turn (α : Type) where
  caller : Nat
  outcome : Outcome α

/-- The guard, and every call of `run` on it. -/
structure RefreshCalls (α : Type) where
  guard : RefreshGuard α
  callers : Nat → Caller α

/-- A fresh guard, before any call. -/
def RefreshCalls.start {α : Type} : RefreshCalls α := ⟨{}, fun _ => .idle⟩

/-- One step of the call whose turn it is. -/
def RefreshCalls.turn {α : Type} (w : RefreshCalls α) (l : Turn α) : RefreshCalls α :=
  let next := w.guard.advance l.outcome (w.callers l.caller)
  ⟨next.1, Function.update w.callers l.caller next.2⟩

/-- The step relation of the guard: any call may take its turn. -/
def RefreshCalls.Steps {α : Type} (w : RefreshCalls α) (l : Turn α) (v : RefreshCalls α) : Prop := v = w.turn l

end Axiam.Client
