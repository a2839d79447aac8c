import Axiam.Core.Error
import Axiam.Lib.Run
import Mathlib.Logic.Function.Basic

/-!
# One refresh for each refresh token

`oidc_refresh` called from any number of threads at once.  Calls are told apart by the digest of
their refresh token: the first one leads a flight, and those that come while it is registered wait
for its outcome.  A step is what one call does between two points at which another one can come in:
a section under the mutex, the start or the end of a request.
-/

namespace Axiam.Oidc

open Axiam.Lib

/-- How far the leader of a flight is. -/
inductive FlightStage (α : Type) where
  /-- In `oidc_discover`, or making up the form. -/
  | discovering
  /-- The refresh token is on the wire. -/
  | sending
  /-- In front of `publish`. -/
  | ended (outcome : Except Exc α)

/-- Where a call of `oidc_refresh` stands. -/
inductive RefreshCall (α : Type) where
  | idle
  | called (token : Str)
  | waiting (token : Str) (flight : Nat)
  | leading (token : Str) (flight : Nat) (stage : FlightStage α)
  | returned (outcome : Except Exc α)

/-- The registry.  A flight is the number of its `OidcRefreshFlight`, and one without an outcome is
not done. -/
structure RefreshFlights (α : Type) where
  flights : List (Option (Except Exc α)) := []
  registry : Str → Option Nat := fun _ => none
  refreshCount : Nat := 0

/-- Whose turn it is, and what comes of the things it does. -/
structure RefreshTurn (α : Type) where
  call : Nat
  token : Str
  /-- What `ensure_open` comes to. -/
  opened : Except Exc Unit
  /-- What the client id, the tenant and the digest come to. -/
  configured : Except Exc Unit
  /-- What an allocation under way throws. -/
  allocation : Option Exc
  discovered : Except Exc Unit
  /-- What the token endpoint's answer comes to. -/
  granted : Except Exc α

/-- The registry, and every call of `oidc_refresh`. -/
structure OidcRefreshes (α : Type) where
  shared : RefreshFlights α := {}
  calls : Nat → RefreshCall α := fun _ => .idle

section

variable {α : Type} (digest : Str → Str)

/-- What is checked before a call looks at the registry. -/
def RefreshTurn.begin (l : RefreshTurn α) : RefreshCall α :=
  match l.opened with
  | .error e => .returned (.error e)
  | .ok () =>
      if l.token = [] then .returned (.error (.auth "oidc_refresh requires a refresh token"))
      else match l.configured with
        | .error e => .returned (.error e)
        | .ok () => .called l.token

namespace RefreshFlights

variable (g : RefreshFlights α)

/-- The section that joins the flight registered for the token, or else registers a new one. -/
def enter (l : RefreshTurn α) (token : Str) : RefreshFlights α × RefreshCall α :=
  match g.registry (digest token) with
  | some f => (g, .waiting token f)
  | none =>
      match l.allocation with
      | some e => (g, .returned (.error e))
      | none =>
          ({ g with
            flights := g.flights ++ [none]
            registry := Function.update g.registry (digest token) (some g.flights.length) },
            .leading token g.flights.length .discovering)

/-- `publish`: the flight is taken out of the registry before it is done. -/
def publish (token : Str) (f : Nat) (o : Except Exc α) : RefreshFlights α where
  flights := g.flights.set f (some o)
  registry := Function.update g.registry (digest token) none
  refreshCount := g.refreshCount + 1

/-- The end of a flight; `publish` takes its own copy of a token set, which can fail. -/
def conclude (l : RefreshTurn α) (token : Str) (f : Nat) :
    Except Exc α → RefreshFlights α × RefreshCall α
  | .ok a =>
      match l.allocation with
      | some e => (g, .leading token f (.ended (.error e)))
      | none => (g.publish digest token f (.ok a), .returned (.ok a))
  | .error e => (g.publish digest token f (.error e), .returned (.error e))

/-- The next step of a call. -/
def advance (l : RefreshTurn α) : RefreshCall α → RefreshFlights α × RefreshCall α
  | .idle => (g, l.begin)
  | .called token => g.enter digest l token
  | .waiting token f =>
      match g.flights[f]? with
      | some (some o) => (g, .returned o)
      | _ => (g, .waiting token f)
  | .leading token f .discovering =>
      match l.discovered with
      | .ok () => (g, .leading token f .sending)
      | .error e => (g, .leading token f (.ended (.error e)))
  | .leading token f .sending => (g, .leading token f (.ended l.granted))
  | .leading token f (.ended o) => g.conclude digest l token f o
  | .returned o => (g, .returned o)

end RefreshFlights

/-- One step of the call whose turn it is. -/
def OidcRefreshes.turn (w : OidcRefreshes α) (l : RefreshTurn α) : OidcRefreshes α :=
  let next := w.shared.advance digest l (w.calls l.call)
  ⟨next.1, Function.update w.calls l.call next.2⟩

/-- Any call may take its turn. -/
def RefreshSteps (w : OidcRefreshes α) (l : RefreshTurn α) (v : OidcRefreshes α) : Prop :=
  v = w.turn digest l

end

end Axiam.Oidc
