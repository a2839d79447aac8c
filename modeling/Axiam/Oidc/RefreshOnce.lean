import Axiam.Oidc.RefreshFlight

/-!
# A refresh token is spent once at a time

What ties the registry of `oidc_refresh` to the calls that lead, and from it that no digest has two
requests on the wire, that a call that waited returns what its leader returned, and that a flight is
out of the registry when its leader returns, however it ends.
-/

namespace Axiam.Oidc

open Axiam.Lib

section

variable {α : Type} (digest : Str → Str)

/-! ## The registry and the leaders -/

/-- The digest and the flight of a leader. -/
def RefreshCall.lead : RefreshCall α → Option (Str × Nat)
  | .leading token f _ => some (digest token, f)
  | .idle | .called _ | .waiting _ _ | .returned _ => none

/-- The flights registered are those that have a leader, each one its own, and none of them is
done. -/
structure Registered (g : RefreshFlights α) (lead : Nat → Option (Str × Nat)) : Prop where
  led : ∀ k f, g.registry k = some f → ∃ i, lead i = some (k, f)
  kept : ∀ i k f, lead i = some (k, f) → g.registry k = some f
  undone : ∀ i k f, lead i = some (k, f) → g.flights[f]? = some none
  unique : ∀ i j k k' f, lead i = some (k, f) → lead j = some (k', f) → i = j

end

section

variable {α : Type} {digest : Str → Str} {g : RefreshFlights α} {lead : Nat → Option (Str × Nat)}

/-- A digest has one leader. -/
theorem Registered.single (h : Registered g lead) {i j f f' : Nat} {k : Str}
    (hi : lead i = some (k, f)) (hj : lead j = some (k, f')) : i = j := by
  have hsame : f = f' := Option.some.inj ((h.kept i k f hi).symm.trans (h.kept j k f' hj))
  subst hsame
  exact h.unique i j k k f hi hj

/-- A new flight, for a digest that has none. -/
theorem Registered.claim (h : Registered g lead) {j : Nat} {k : Str} (hj : lead j = none)
    (hk : g.registry k = none) :
    Registered { g with
        flights := g.flights ++ [none]
        registry := Function.update g.registry k (some g.flights.length) }
      (Function.update lead j (some (k, g.flights.length))) := by
  have hlead : ∀ i k' f, Function.update lead j (some (k, g.flights.length)) i = some (k', f) →
      (i = j ∧ k' = k ∧ f = g.flights.length) ∨ (i ≠ j ∧ k' ≠ k ∧ f < g.flights.length ∧
        lead i = some (k', f)) := by
    intro i k' f hi
    by_cases hij : i = j
    · subst hij
      rw [Function.update_self] at hi
      cases hi
      exact .inl ⟨rfl, rfl, rfl⟩
    · rw [Function.update_of_ne hij] at hi
      refine .inr ⟨hij, ?_, (List.getElem?_eq_some_iff.mp (h.undone i k' f hi)).1, hi⟩
      rintro rfl
      rw [h.kept i k' f hi] at hk
      exact nomatch hk
  refine ⟨fun k' f hf => ?_, fun i k' f hi => ?_, fun i k' f hi => ?_, fun i i' k' k'' f hi hi' => ?_⟩
  · by_cases hsame : k' = k
    · subst hsame
      have hf : Function.update g.registry k' (some g.flights.length) k' = some f := hf
      rw [Function.update_self] at hf
      cases hf
      exact ⟨j, Function.update_self ..⟩
    · have hf : Function.update g.registry k (some g.flights.length) k' = some f := hf
      rw [Function.update_of_ne hsame] at hf
      obtain ⟨i, hi⟩ := h.led k' f hf
      refine ⟨i, ?_⟩
      rw [Function.update_of_ne, hi]
      rintro rfl
      rw [hj] at hi
      exact nomatch hi
  · show Function.update g.registry k (some g.flights.length) k' = some f
    obtain ⟨_, rfl, rfl⟩ | ⟨_, hne, _, hi⟩ := hlead i k' f hi
    · exact Function.update_self ..
    · rw [Function.update_of_ne hne]
      exact h.kept i k' f hi
  · show (g.flights ++ [none])[f]? = some none
    obtain ⟨_, _, rfl⟩ | ⟨_, _, hlt, hi⟩ := hlead i k' f hi
    · simp
    · rw [List.getElem?_append_left hlt]
      exact h.undone i k' f hi
  · -- an older leader's flight is below the new one
    obtain ⟨rfl, _, rfl⟩ | ⟨_, _, hlt, hi⟩ := hlead i k' f hi
    · obtain ⟨rfl, _, _⟩ | ⟨_, _, hlt, _⟩ := hlead i' k'' _ hi'
      · rfl
      · exact absurd hlt (Nat.lt_irrefl _)
    · obtain ⟨_, _, rfl⟩ | ⟨_, _, _, hi'⟩ := hlead i' k'' f hi'
      · exact absurd hlt (Nat.lt_irrefl _)
      · exact h.unique i i' k' k'' f hi hi'

/-- A leader publishes, and its digest has no flight any more. -/
theorem Registered.publish (h : Registered g lead) {j f : Nat} {token : Str} {o : Except Exc α}
    (hj : lead j = some (digest token, f)) :
    Registered (g.publish digest token f o) (Function.update lead j none) := by
  have hlead : ∀ i k f', Function.update lead j none i = some (k, f') →
      i ≠ j ∧ k ≠ digest token ∧ f' ≠ f ∧ lead i = some (k, f') := by
    intro i k f' hi
    by_cases hij : i = j
    · subst hij
      rw [Function.update_self] at hi
      exact nomatch hi
    · rw [Function.update_of_ne hij] at hi
      refine ⟨hij, ?_, ?_, hi⟩
      · rintro rfl
        exact hij (h.single hi hj)
      · rintro rfl
        exact hij (h.unique i j k (digest token) f' hi hj)
  refine ⟨fun k f' hf => ?_, fun i k f' hi => ?_, fun i k f' hi => ?_, fun i i' k k' f' hi hi' => ?_⟩
  · have hf : Function.update g.registry (digest token) none k = some f' := hf
    by_cases hsame : k = digest token
    · subst hsame
      rw [Function.update_self] at hf
      exact nomatch hf
    · rw [Function.update_of_ne hsame] at hf
      obtain ⟨i, hi⟩ := h.led k f' hf
      refine ⟨i, ?_⟩
      rw [Function.update_of_ne, hi]
      rintro rfl
      rw [hj] at hi
      cases hi
      exact hsame rfl
  · obtain ⟨_, hne, _, hi⟩ := hlead i k f' hi
    show Function.update g.registry (digest token) none k = some f'
    rw [Function.update_of_ne hne]
    exact h.kept i k f' hi
  · obtain ⟨_, _, hne, hi⟩ := hlead i k f' hi
    show (g.flights.set f (some o))[f']? = some none
    rw [List.getElem?_set_ne hne.symm]
    exact h.undone i k f' hi
  · exact h.unique i i' k k' f' (hlead i k f' hi).2.2.2 (hlead i' k' f' hi').2.2.2

end

/-! ## One step -/

section

variable {α : Type} {digest : Str → Str}

abbrev RefreshStep (α : Type) := Transition (OidcRefreshes α) (RefreshTurn α)

/-- The leaders among the calls. -/
def OidcRefreshes.leads (digest : Str → Str) (w : OidcRefreshes α) (i : Nat) : Option (Str × Nat) :=
  (w.calls i).lead digest

variable {w : OidcRefreshes α} {l : RefreshTurn α}

theorem calls_turn_self (digest : Str → Str) (w : OidcRefreshes α) (l : RefreshTurn α) :
    (w.turn digest l).calls l.call = (w.shared.advance digest l (w.calls l.call)).2 :=
  Function.update_self ..

theorem calls_turn_of_ne {k : Nat} (hk : k ≠ l.call) : (w.turn digest l).calls k = w.calls k :=
  Function.update_of_ne hk ..

theorem turn_of {c d : RefreshCall α} {g : RefreshFlights α} (hc : w.calls l.call = c)
    (hadvance : w.shared.advance digest l c = (g, d)) :
    w.turn digest l = ⟨g, Function.update w.calls l.call d⟩ := by
  unfold OidcRefreshes.turn
  rw [hc, hadvance]

/-- A step registers a flight, publishes one, or leaves the registry alone. -/
inductive RefreshTurned (digest : Str → Str) (w : OidcRefreshes α) (l : RefreshTurn α) :
    OidcRefreshes α → Prop
  | quiet (c d : RefreshCall α) : w.calls l.call = c → d.lead digest = c.lead digest →
      RefreshTurned digest w l ⟨w.shared, Function.update w.calls l.call d⟩
  | claim (token : Str) : w.calls l.call = .called token →
      w.shared.registry (digest token) = none →
      RefreshTurned digest w l ⟨{ w.shared with
        flights := w.shared.flights ++ [none]
        registry :=
          Function.update w.shared.registry (digest token) (some w.shared.flights.length) },
        Function.update w.calls l.call (.leading token w.shared.flights.length .discovering)⟩
  | publish (token : Str) (f : Nat) (o : Except Exc α) :
      w.calls l.call = .leading token f (.ended o) →
      RefreshTurned digest w l ⟨w.shared.publish digest token f o,
        Function.update w.calls l.call (.returned o)⟩

theorem begin_lead (l : RefreshTurn α) : l.begin.lead digest = none := by
  unfold RefreshTurn.begin
  repeat' split
  all_goals rfl

theorem refreshTurn_turned (digest : Str → Str) (w : OidcRefreshes α) (l : RefreshTurn α) :
    RefreshTurned digest w l (w.turn digest l) := by
  cases hc : w.calls l.call with
  | idle =>
      rw [turn_of hc rfl]
      exact .quiet _ _ hc (begin_lead l)
  | called token =>
      cases hreg : w.shared.registry (digest token) with
      | some f =>
          rw [turn_of hc (show w.shared.enter digest l token = (w.shared, .waiting token f) by
            rw [RefreshFlights.enter, hreg])]
          exact .quiet _ _ hc rfl
      | none =>
          -- the registry has no flight: the caller claims one, unless the allocation throws
          cases halloc : l.allocation with
          | some e =>
              rw [turn_of hc (show w.shared.enter digest l token =
                (w.shared, .returned (.error e)) by rw [RefreshFlights.enter, hreg, halloc])]
              exact .quiet _ _ hc rfl
          | none =>
              rw [turn_of hc (show w.shared.enter digest l token = _ by
                rw [RefreshFlights.enter, hreg, halloc])]
              exact .claim token hc hreg
  | waiting token f =>
      have hstays : ∃ d : RefreshCall α, w.shared.advance digest l (.waiting token f) =
          (w.shared, d) ∧ d.lead digest = none := by
        rw [RefreshFlights.advance]
        split <;> exact ⟨_, rfl, rfl⟩
      obtain ⟨d, hadvance, hlead⟩ := hstays
      rw [turn_of hc hadvance]
      exact .quiet _ _ hc hlead
  | leading token f stage =>
      cases stage with
      | discovering =>
          have hgoes : ∃ stage, w.shared.advance digest l (.leading token f .discovering) =
              (w.shared, .leading token f stage) := by
            rw [RefreshFlights.advance]
            split <;> exact ⟨_, rfl⟩
          obtain ⟨stage, hadvance⟩ := hgoes
          rw [turn_of hc hadvance]
          exact .quiet _ _ hc rfl
      | sending =>
          rw [turn_of hc rfl]
          exact .quiet _ _ hc rfl
      | ended o =>
          cases o with
          | error e =>
              rw [turn_of hc rfl]
              exact .publish token f (.error e) hc
          | ok a =>
              cases halloc : l.allocation with
              | some e =>
                  rw [turn_of hc (show w.shared.conclude digest l token f (.ok a) = _ by
                    rw [RefreshFlights.conclude, halloc])]
                  exact .quiet _ _ hc rfl
              | none =>
                  rw [turn_of hc (show w.shared.conclude digest l token f (.ok a) = _ by
                    rw [RefreshFlights.conclude, halloc])]
                  exact .publish token f (.ok a) hc
  | returned o =>
      rw [turn_of hc rfl]
      exact .quiet _ _ hc rfl

/-- The leaders after the call whose turn it is has changed. -/
theorem leads_update (g : RefreshFlights α) (j : Nat) (d : RefreshCall α) :
    (⟨g, Function.update w.calls j d⟩ : OidcRefreshes α).leads digest =
      Function.update (w.leads digest) j (d.lead digest) :=
  Function.comp_update (RefreshCall.lead digest) w.calls j d

theorem registered_turn (h : Registered w.shared (w.leads digest)) :
    Registered (w.turn digest l).shared ((w.turn digest l).leads digest) := by
  have hturned := refreshTurn_turned digest w l
  revert hturned
  generalize w.turn digest l = v
  intro hturned
  cases hturned with
  | quiet c d hc hlead =>
      rw [leads_update, hlead, ← hc, show (w.calls l.call).lead digest = w.leads digest l.call from rfl,
        Function.update_eq_self]
      exact h
  | claim token hc hreg =>
      rw [leads_update]
      refine h.claim ?_ hreg
      show (w.calls l.call).lead digest = none
      rw [hc]
      rfl
  | publish token f o hc =>
      rw [leads_update]
      refine h.publish ?_
      show (w.calls l.call).lead digest = _
      rw [hc]
      rfl

/-- A call that now waits has just joined the flight registered for its digest, or did wait. -/
theorem waiting_turn {j f : Nat} {token : Str} (h : (w.turn digest l).calls j = .waiting token f) :
    w.calls j = .waiting token f ∨
      (j = l.call ∧ w.calls j = .called token ∧ w.shared.registry (digest token) = some f) := by
  by_cases hj : j = l.call
  · subst hj
    have hnext : (w.shared.advance digest l (w.calls l.call)).2 = .waiting token f :=
      (calls_turn_self ..).symm.trans h
    cases hc : w.calls l.call with
    | idle =>
        rw [hc] at hnext
        have hbegin : l.begin = .waiting token f := hnext
        unfold RefreshTurn.begin at hbegin
        repeat' split at hbegin
        all_goals exact nomatch hbegin
    | called token' =>
        rw [hc, RefreshFlights.advance, RefreshFlights.enter] at hnext
        split at hnext
        next f' hreg =>
          cases hnext
          exact .inr ⟨rfl, rfl, hreg⟩
        next => split at hnext <;> exact nomatch hnext
    | waiting token' f' =>
        rw [hc, RefreshFlights.advance] at hnext
        split at hnext
        · exact nomatch hnext
        · exact .inl hnext
    | leading token' f' stage =>
        rw [hc] at hnext
        cases stage with
        | discovering =>
            rw [RefreshFlights.advance] at hnext
            split at hnext <;> exact nomatch hnext
        | sending => exact nomatch hnext
        | ended o =>
            rw [RefreshFlights.advance] at hnext
            cases o with
            | error e => exact nomatch hnext
            | ok a =>
                rw [RefreshFlights.conclude] at hnext
                split at hnext <;> exact nomatch hnext
    | returned o =>
        rw [hc] at hnext
        exact nomatch hnext
  · exact .inl ((calls_turn_of_ne hj).symm.trans h)

/-- The leader of a flight publishes an outcome, and returns it. -/
def Publishes (digest : Str → Str) (p : RefreshStep α) (k : Str) (f : Nat) (o : Except Exc α) : Prop :=
  ∃ token, digest token = k ∧ p.pre.calls p.label.call = .leading token f (.ended o) ∧
    p.post.calls p.label.call = .returned o

/-- A leader goes on leading its flight, or publishes it in this step. -/
theorem leads_turn (h : Registered w.shared (w.leads digest)) {i f : Nat} {k : Str}
    (hi : w.leads digest i = some (k, f)) :
    (w.turn digest l).leads digest i = some (k, f) ∨
      ∃ o, Publishes digest ⟨w, l, w.turn digest l⟩ k f o ∧
        (w.turn digest l).shared.flights[f]? = some (some o) := by
  have hturned := refreshTurn_turned digest w l
  unfold Publishes
  revert hturned
  generalize w.turn digest l = v
  intro hturned
  cases hturned with
  | quiet c d hc hlead =>
      left
      rw [leads_update, hlead, ← hc, show (w.calls l.call).lead digest = w.leads digest l.call from rfl,
        Function.update_eq_self]
      exact hi
  | claim token hc hreg =>
      left
      rw [leads_update, Function.update_of_ne, hi]
      rintro rfl
      have hnone : w.leads digest l.call = none := by
        show (w.calls l.call).lead digest = none
        rw [hc]
        rfl
      rw [hnone] at hi
      exact nomatch hi
  | publish token f' o hc =>
      by_cases hil : i = l.call
      · right
        subst hil
        have hsame : w.leads digest l.call = some (digest token, f') := by
          show (w.calls l.call).lead digest = _
          rw [hc]
          rfl
        rw [hi] at hsame
        cases hsame
        have hlt := (List.getElem?_eq_some_iff.mp (h.undone _ _ _ hi)).1
        exact ⟨o, ⟨token, rfl, hc, Function.update_self ..⟩, List.getElem?_set_self hlt⟩
      · left
        rw [leads_update, Function.update_of_ne hil, hi]

/-- A flight stays done, with the same outcome. -/
theorem done_turn (h : Registered w.shared (w.leads digest)) {f : Nat} {o : Except Exc α}
    (hf : w.shared.flights[f]? = some (some o)) :
    (w.turn digest l).shared.flights[f]? = some (some o) := by
  have hlt := (List.getElem?_eq_some_iff.mp hf).1
  have hturned := refreshTurn_turned digest w l
  revert hturned
  generalize w.turn digest l = v
  intro hturned
  cases hturned with
  | quiet c d hc hlead => exact hf
  | claim token hc hreg =>
      show (w.shared.flights ++ [none])[f]? = _
      rw [List.getElem?_append_left hlt]
      exact hf
  | publish token f' o' hc =>
      have hlead : w.leads digest l.call = some (digest token, f') := by
        show (w.calls l.call).lead digest = _
        rw [hc]
        rfl
      have hne : f' ≠ f := by
        rintro rfl
        rw [h.undone _ _ _ hlead] at hf
        exact nomatch hf
      show (w.shared.flights.set f' (some o'))[f]? = _
      rw [List.getElem?_set_ne hne]
      exact hf

/-! ## What a run has done -/

/-- A call that waits has a leader, or its leader has published. -/
structure Joined (digest : Str → Str) (past : List (RefreshStep α)) (w : OidcRefreshes α) : Prop where
  registered : Registered w.shared (w.leads digest)
  waiting : ∀ j token f, w.calls j = .waiting token f →
    (∃ i, w.leads digest i = some (digest token, f)) ∨
      ∃ p ∈ past, ∃ o, Publishes digest p (digest token) f o ∧
        w.shared.flights[f]? = some (some o)

theorem joined_start : Joined digest [] ({} : OidcRefreshes α) :=
  ⟨⟨nofun, nofun, nofun, nofun⟩, nofun⟩

theorem Joined.turn {past : List (RefreshStep α)} (h : Joined digest past w) :
    Joined digest (past ++ [⟨w, l, w.turn digest l⟩]) (w.turn digest l) := by
  refine ⟨registered_turn h.registered, fun j token f hj => ?_⟩
  have hled : ∀ i, w.leads digest i = some (digest token, f) →
      (∃ i, (w.turn digest l).leads digest i = some (digest token, f)) ∨
        ∃ p ∈ past ++ [⟨w, l, w.turn digest l⟩], ∃ o, Publishes digest p (digest token) f o ∧
          (w.turn digest l).shared.flights[f]? = some (some o) := by
    intro i hi
    obtain hstill | ⟨o, hpublishes, hdone⟩ := leads_turn (l := l) h.registered hi
    · exact .inl ⟨i, hstill⟩
    · exact .inr ⟨_, List.mem_append_right _ (List.mem_singleton_self _), o, hpublishes, hdone⟩
  obtain hold | ⟨_, _, hreg⟩ := waiting_turn hj
  · obtain ⟨i, hi⟩ | ⟨p, hp, o, hpublishes, hdone⟩ := h.waiting j token f hold
    · exact hled i hi
    · exact .inr ⟨p, List.mem_append_left _ hp, o, hpublishes, done_turn h.registered hdone⟩
  · -- it has just joined the flight of a leader
    obtain ⟨i, hi⟩ := h.registered.led _ _ hreg
    exact hled i hi

/-! ## Single flight -/

/-- How many more turns a leader takes at most. -/
def FlightStage.left : FlightStage α → Nat
  | .discovering => 4
  | .sending => 3
  | .ended (.ok _) => 2
  | .ended (.error _) => 1

/-- What holds in every state: a digest has one request on the wire, the flights registered are
those of the leaders, and a call that waits has an outcome to return or a leader to wait for. -/
structure OidcRefreshes.Single (digest : Str → Str) (w : OidcRefreshes α) : Prop where
  onWire : ∀ i j token token' f f', w.calls i = .leading token f .sending →
    w.calls j = .leading token' f' .sending → digest token = digest token' → i = j
  registered : ∀ k f, w.shared.registry k = some f ↔
    ∃ i token stage, w.calls i = .leading token f stage ∧ digest token = k
  waiting : ∀ j token f, w.calls j = .waiting token f →
    (∃ o, w.shared.flights[f]? = some (some o)) ∨
      ∃ i token' stage, w.calls i = .leading token' f stage ∧ digest token' = digest token

/-- What holds of a step after those of `past`. -/
structure SharesOutcome (digest : Str → Str) (past : List (RefreshStep α)) (t : RefreshStep α) :
    Prop where
  /-- A call joins a flight that has a leader and is not done. -/
  joins : ∀ token f, t.pre.calls t.label.call = .called token →
    t.post.calls t.label.call = .waiting token f → t.pre.shared.flights[f]? = some none ∧
      ∃ i token' stage, t.pre.calls i = .leading token' f stage ∧ digest token' = digest token
  /-- A call that waited returns what the leader of its flight published. -/
  shares : ∀ token f o, t.pre.calls t.label.call = .waiting token f →
    t.post.calls t.label.call = .returned o → ∃ p ∈ past, Publishes digest p (digest token) f o
  /-- A call whose flight is done returns. -/
  wakes : ∀ token f o, t.pre.calls t.label.call = .waiting token f →
    t.pre.shared.flights[f]? = some (some o) → t.post.calls t.label.call = .returned o
  /-- A leader that returns leaves its outcome, and nothing registered for its digest. -/
  releases : ∀ token f stage o, t.pre.calls t.label.call = .leading token f stage →
    t.post.calls t.label.call = .returned o →
      t.post.shared.registry (digest token) = none ∧ t.post.shared.flights[f]? = some (some o)
  /-- A leader comes nearer to its end with every turn, whatever fails. -/
  proceeds : ∀ token f stage, t.pre.calls t.label.call = .leading token f stage →
    (∃ o, t.post.calls t.label.call = .returned o) ∨
      ∃ stage', t.post.calls t.label.call = .leading token f stage' ∧ stage'.left < stage.left
  /-- A call for whose digest nobody leads does not wait: it leads, unless it cannot register. -/
  restarts : ∀ token, t.pre.calls t.label.call = .called token →
    (∀ i token' f stage, t.pre.calls i = .leading token' f stage → digest token' ≠ digest token) →
      t.post.calls t.label.call = .leading token t.pre.shared.flights.length .discovering ∨
        ∃ e, t.label.allocation = some e ∧ t.post.calls t.label.call = .returned (.error e)

theorem RefreshCall.lead_eq_some {c : RefreshCall α} {k : Str} {f : Nat}
    (h : c.lead digest = some (k, f)) : ∃ token stage, c = .leading token f stage ∧
      digest token = k := by
  cases c with
  | leading token f' stage =>
      cases h
      exact ⟨token, stage, rfl, rfl⟩
  | _ => exact nomatch h

theorem leads_of {i f : Nat} {token : Str} {stage : FlightStage α}
    (hi : w.calls i = .leading token f stage) : w.leads digest i = some (digest token, f) := by
  unfold OidcRefreshes.leads
  rw [hi]
  rfl

theorem Joined.single {past : List (RefreshStep α)} (h : Joined digest past w) :
    w.Single digest := by
  refine ⟨fun i j token token' f f' hi hj hsame => ?_, fun k f => ⟨fun hreg => ?_, ?_⟩,
    fun j token f hj => ?_⟩
  · have hlead : w.leads digest i = some (digest token, f) := leads_of hi
    rw [hsame] at hlead
    exact h.registered.single hlead (leads_of hj)
  · obtain ⟨i, hi⟩ := h.registered.led k f hreg
    obtain ⟨token, stage, hcall, hk⟩ := RefreshCall.lead_eq_some hi
    exact ⟨i, token, stage, hcall, hk⟩
  · rintro ⟨i, token, stage, hcall, rfl⟩
    exact h.registered.kept i _ f (leads_of hcall)
  · obtain ⟨i, hi⟩ | ⟨_, _, o, _, hdone⟩ := h.waiting j token f hj
    · obtain ⟨token', stage, hcall, hk⟩ := RefreshCall.lead_eq_some hi
      exact .inr ⟨i, token', stage, hcall, hk⟩
    · exact .inl ⟨o, hdone⟩

/-- A waiting call goes on exactly when its flight is done. -/
theorem waiting_returns {token : Str} {f : Nat} {o : Except Exc α}
    (hcall : w.calls l.call = .waiting token f) :
    (w.turn digest l).calls l.call = .returned o ↔ w.shared.flights[f]? = some (some o) := by
  rw [calls_turn_self, hcall, RefreshFlights.advance]
  constructor
  · intro hpost
    split at hpost
    next o' hdone =>
      cases hpost
      exact hdone
    next => exact nomatch hpost
  · intro hdone
    rw [hdone]

/-- A leader that returns has published. -/
theorem leading_returns (h : Registered w.shared (w.leads digest)) {token : Str} {f : Nat}
    {stage : FlightStage α} {o : Except Exc α} (hcall : w.calls l.call = .leading token f stage)
    (hpost : (w.turn digest l).calls l.call = .returned o) :
    (w.turn digest l).shared.registry (digest token) = none ∧
      (w.turn digest l).shared.flights[f]? = some (some o) := by
  have hlt := (List.getElem?_eq_some_iff.mp (h.undone _ _ _ (leads_of hcall))).1
  have hturned := refreshTurn_turned digest w l
  revert hturned hpost
  generalize w.turn digest l = v
  intro hpost hturned
  cases hturned with
  | quiet c d hc hlead =>
      have hd : d = .returned o := (Function.update_self l.call d w.calls).symm.trans hpost
      rw [hd, ← hc, hcall] at hlead
      exact nomatch hlead
  | claim token' hc hreg =>
      rw [hcall] at hc
      exact nomatch hc
  | publish token' f' o' hc =>
      rw [hcall] at hc
      cases hc
      have ho : RefreshCall.returned o' = .returned o :=
        (Function.update_self l.call _ w.calls).symm.trans hpost
      cases ho
      exact ⟨Function.update_self .., List.getElem?_set_self hlt⟩

theorem leading_proceeds {token : Str} {f : Nat} {stage : FlightStage α}
    (hcall : w.calls l.call = .leading token f stage) :
    (∃ o, (w.turn digest l).calls l.call = .returned o) ∨
      ∃ stage', (w.turn digest l).calls l.call = .leading token f stage' ∧
        stage'.left < stage.left := by
  rw [calls_turn_self, hcall]
  cases stage with
  | discovering =>
      right
      rw [RefreshFlights.advance]
      split
      · exact ⟨.sending, rfl, Nat.lt_succ_self 3⟩
      next e _ => exact ⟨.ended (.error e), rfl, by simp [FlightStage.left]⟩
  | sending =>
      right
      refine ⟨.ended l.granted, rfl, ?_⟩
      cases l.granted <;> simp [FlightStage.left]
  | ended o =>
      cases o with
      | error e => exact .inl ⟨.error e, rfl⟩
      | ok a =>
          rw [RefreshFlights.advance, RefreshFlights.conclude]
          split
          next e _ => exact .inr ⟨.ended (.error e), rfl, by simp [FlightStage.left]⟩
          next => exact .inl ⟨.ok a, rfl⟩

theorem Joined.sharesOutcome {past : List (RefreshStep α)} (h : Joined digest past w)
    (l : RefreshTurn α) : SharesOutcome digest past ⟨w, l, w.turn digest l⟩ := by
  have hleader : ∀ {k : Str} {f : Nat}, w.shared.registry k = some f →
      w.shared.flights[f]? = some none ∧
        ∃ i token stage, w.calls i = .leading token f stage ∧ digest token = k := by
    intro k f hreg
    obtain ⟨i, hi⟩ := h.registered.led k f hreg
    obtain ⟨token, stage, hcall, hk⟩ := RefreshCall.lead_eq_some hi
    exact ⟨h.registered.undone i k f hi, i, token, stage, hcall, hk⟩
  refine ⟨fun token f hcall hpost => ?_, fun token f o hcall hpost => ?_,
    fun token f o hcall hdone => (waiting_returns hcall).mpr hdone,
    fun token f stage o hcall hpost => leading_returns h.registered hcall hpost,
    fun token f stage hcall => leading_proceeds hcall, fun token hcall hnone => ?_⟩
  · obtain hold | ⟨_, _, hreg⟩ := waiting_turn hpost
    · rw [show w.calls l.call = _ from hcall] at hold
      exact nomatch hold
    · exact hleader hreg
  · have hdone := (waiting_returns hcall).mp hpost
    obtain ⟨i, hi⟩ | ⟨p, hp, o', hpublishes, hdone'⟩ := h.waiting _ token f hcall
    · -- a flight with a leader is not done
      rw [h.registered.undone i _ f hi] at hdone
      exact nomatch hdone
    · rw [hdone'] at hdone
      cases hdone
      exact ⟨p, hp, hpublishes⟩
  · have hreg : w.shared.registry (digest token) = none := by
      cases hreg : w.shared.registry (digest token) with
      | none => rfl
      | some f =>
          obtain ⟨_, i, token', stage, hlead, hsame⟩ := hleader hreg
          exact absurd hsame (hnone i token' f stage hlead)
    have hnext : (w.turn digest l).calls l.call = (w.shared.enter digest l token).2 := by
      rw [calls_turn_self, show w.calls l.call = _ from hcall]
      rfl
    show (w.turn digest l).calls l.call = _ ∨ ∃ e, _ ∧ (w.turn digest l).calls l.call = _
    rw [hnext, RefreshFlights.enter, hreg]
    cases halloc : l.allocation with
    | none => exact .inl rfl
    | some e => exact .inr ⟨e, rfl, rfl⟩

/-- Over any calls, in any order: one request on the wire for each digest, and one outcome for all
that came for it while it was there. -/
theorem refresh_single_flight (digest : Str → Str) {trace : List (RefreshStep α)}
    {w : OidcRefreshes α} (hrun : Run (RefreshSteps digest) {} trace w) :
    w.Single digest ∧
      ∀ earlier t later, trace = earlier ++ t :: later →
        t.pre.Single digest ∧ SharesOutcome digest earlier t := by
  have hkeep : ∀ (past : List (RefreshStep α)) s l t, Joined digest past s →
      RefreshSteps digest s l t → Joined digest (past ++ [⟨s, l, t⟩]) t := by
    intro past s l t h hstep
    subst hstep
    exact h.turn
  obtain ⟨hend, hbefore⟩ := hrun.history hkeep joined_start
  refine ⟨hend.single, fun earlier t later hsplit => ?_⟩
  have hpre := hbefore earlier t later hsplit
  obtain ⟨pre, l, post⟩ := t
  have hstep : post = pre.turn digest l := hrun.steps ⟨pre, l, post⟩ (by rw [hsplit]; simp)
  subst hstep
  exact ⟨hpre.single, hpre.sharesOutcome l⟩

end

/-- A turn of a call for the token `r1` in which nothing fails. -/
def plainTurn (call : Nat) : RefreshTurn Str := ⟨call, "r1", .ok (), .ok (), none, .ok (), .ok "set"⟩

/-- The digest of `r1`. -/
def pinnedDigest (token : Str) : Str :=
  if token = str "r1" then
    "82f3e9c695dc6b8d1b11818d5701919e286de8d47f7c3eb3100c485f79e57828"
  else []

/-- Two calls come together: the second waits, and returns what the first one was granted. -/
def twoRefreshes : List (RefreshTurn Str) := [0, 1, 0, 1, 0, 0, 0, 1].map plainTurn

theorem refresh_single_flight_two :
    ∃ p ∈ (Run.follow (OidcRefreshes.turn pinnedDigest) {} twoRefreshes).take 7,
      Publishes pinnedDigest p (pinnedDigest "r1") 0 (.ok (str "set")) := by
  have hrun : Run (RefreshSteps pinnedDigest) {}
      (Run.follow (OidcRefreshes.turn pinnedDigest) {} twoRefreshes)
      (twoRefreshes.foldl (OidcRefreshes.turn pinnedDigest) {}) :=
    Run.run_follow (fun s l => show RefreshSteps pinnedDigest s l (s.turn pinnedDigest l) from rfl) {}
      twoRefreshes
  have hlast := (refresh_single_flight pinnedDigest hrun).2 _ _ []
    (List.take_append_drop 7 (Run.follow (OidcRefreshes.turn pinnedDigest) {} twoRefreshes)).symm
  exact hlast.2.shares "r1" 0 (.ok (str "set")) rfl rfl

end Axiam.Oidc
