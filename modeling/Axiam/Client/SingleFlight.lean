import Axiam.Client.RefreshGuard
import Mathlib.Algebra.Group.Nat.Defs

/-!
# One refresh at a time

What ties the slot, the generation number and the promises of the refresh guard together, and
from it that no two refresh functions ever run at once, that a caller that joins gets the outcome
of a refresh in flight during its own call, and that the slot is empty when no owner is left.

The generation number has 64 bits.  An owner tells its own flight from a newer one by this
number, so the results are about runs in which no claim takes the number of an owner that has
not vacated yet.  It takes 2^64 claims for that to happen, and then two refreshes can overlap.
-/

namespace Axiam.Client

open Axiam.Lib

variable {α : Type}

/-! ## The slot, the generation and the promises -/

/-- What an owner holds: its flight, its generation number and what it has published. -/
structure Post (α : Type) where
  flight : Nat
  generation : UInt64
  publication : Option (Outcome α)

def Caller.post : Caller α → Option (Post α)
  | .owner f n stage => some ⟨f, n, stage.publication⟩
  | .idle | .called | .waiting _ | .returned _ => none

/-- The refresh of `f` has been claimed, and its outcome is not published yet. -/
def RefreshCalls.InFlight (w : RefreshCalls α) (f : Nat) : Prop :=
  ∃ k n, (w.callers k).post = some ⟨f, n, none⟩

/-- The guard and the posts of its owners.  The owner the slot belongs to is the one with the
guard's generation number, and that flight is the last one claimed. -/
structure Holds (g : RefreshGuard α) (post : Nat → Option (Post α)) : Prop where
  slot : ∀ f, g.inflight = some f → ∃ k p, post k = some ⟨f, g.generation, p⟩
  last : ∀ f, g.inflight = some f → f + 1 = g.promises.length
  newest : ∀ k f p, post k = some ⟨f, g.generation, p⟩ → f + 1 = g.promises.length
  promise : ∀ k f n p, post k = some ⟨f, n, p⟩ → g.promises[f]? = some p
  pending : ∀ k f n, post k = some ⟨f, n, none⟩ → g.inflight = some f
  unique : ∀ j k f n m p q, post j = some ⟨f, n, p⟩ → post k = some ⟨f, m, q⟩ → j = k
  flown : ∀ f, g.promises[f]? = some none → ∃ k n, post k = some ⟨f, n, none⟩

theorem RefreshGuard.ready_eq_some {g : RefreshGuard α} {f : Nat} {o : Outcome α} :
    g.ready f = some o ↔ g.promises[f]? = some (some o) := Option.join_eq_some_iff

/-- A flight in the slot that is not live has settled. -/
theorem RefreshGuard.liveLocked_eq_some {g : RefreshGuard α} {f : Nat} :
    g.liveLocked = some f ↔ g.inflight = some f ∧ g.ready f = none := by
  rw [RefreshGuard.liveLocked, Option.filter_eq_some_iff, Option.isNone_iff_eq_none]

section

variable {g : RefreshGuard α} {post : Nat → Option (Post α)}

/-- While nothing is live, every owner has published. -/
theorem Holds.published (h : Holds g post) (hlive : g.liveLocked = none) (k f : Nat) (n : UInt64) :
    post k ≠ some ⟨f, n, none⟩ := by
  intro hk
  have hready : g.ready f = none := by rw [RefreshGuard.ready, h.promise k f n none hk]; rfl
  have hsome := RefreshGuard.liveLocked_eq_some.mpr ⟨h.pending k f n hk, hready⟩
  rw [hlive] at hsome
  cases hsome

/-- The flight of an owner is one of those claimed. -/
theorem Holds.claimed (h : Holds g post) {k f : Nat} {n : UInt64} {p : Option (Outcome α)}
    (hk : post k = some ⟨f, n, p⟩) : f < g.promises.length :=
  (List.getElem?_eq_some_iff.mp (h.promise k f n p hk)).1

/-- A claim, with a generation number no owner has. -/
theorem Holds.claim (h : Holds g post) (hlive : g.liveLocked = none) (j : Nat)
    (hnew : ∀ k f n p, post k = some ⟨f, n, p⟩ → n ≠ g.generation + 1) :
    Holds ⟨g.promises ++ [none], some g.promises.length, g.generation + 1⟩
      (Function.update post j (some ⟨g.promises.length, g.generation + 1, none⟩)) := by
  have hpost : ∀ k p, Function.update post j
      (some ⟨g.promises.length, g.generation + 1, none⟩) k = some p →
      (k = j ∧ p = ⟨g.promises.length, g.generation + 1, none⟩) ∨ (k ≠ j ∧ post k = some p) := by
    intro k p hk
    by_cases hkj : k = j
    · subst hkj
      rw [Function.update_self] at hk
      exact .inl ⟨rfl, (Option.some.inj hk).symm⟩
    · rw [Function.update_of_ne hkj] at hk
      exact .inr ⟨hkj, hk⟩
  refine ⟨fun f hf => ?_, fun f hf => ?_, fun k f p hk => ?_, fun k f n p hk => ?_,
    fun k f n hk => ?_, fun i k f n m p q hi hk => ?_, fun f hf => ?_⟩
  · cases hf
    exact ⟨j, none, Function.update_self ..⟩
  · cases hf
    simp
  · rcases hpost k _ hk with ⟨-, heq⟩ | ⟨-, hk⟩
    · cases heq
      simp
    · exact absurd rfl (hnew k f _ p hk)
  · rcases hpost k _ hk with ⟨-, heq⟩ | ⟨-, hk⟩
    · cases heq
      simp
    · show (g.promises ++ [none])[f]? = some p
      rw [List.getElem?_append_left (h.claimed hk)]
      exact h.promise k f n p hk
  · rcases hpost k _ hk with ⟨-, heq⟩ | ⟨-, hk⟩
    · cases heq
      rfl
    · exact absurd hk (h.published hlive k f n)
  · -- an older owner's flight is below the new one
    rcases hpost i _ hi with ⟨rfl, heq⟩ | ⟨-, hi'⟩ <;>
      rcases hpost k _ hk with ⟨rfl, heq'⟩ | ⟨-, hk'⟩
    · rfl
    · cases heq
      exact absurd (h.claimed hk') (Nat.lt_irrefl _)
    · cases heq'
      exact absurd (h.claimed hi') (Nat.lt_irrefl _)
    · exact h.unique i k f n m p q hi' hk'
  · rcases Nat.lt_or_ge f g.promises.length with hlt | hge
    · have hold : (g.promises ++ [none])[f]? = some none := hf
      rw [List.getElem?_append_left hlt] at hold
      obtain ⟨k, n, hk⟩ := h.flown f hold
      exact absurd hk (h.published hlive k f n)
    · have hlen := (List.getElem?_eq_some_iff.mp hf).1
      rw [List.length_append, List.length_singleton] at hlen
      obtain rfl : f = g.promises.length := by omega
      exact ⟨j, _, Function.update_self ..⟩

/-- An owner publishes. -/
theorem Holds.publish (h : Holds g post) {j f : Nat} {n : UInt64} {o : Outcome α}
    (hj : post j = some ⟨f, n, none⟩) :
    Holds (g.publish f o) (Function.update post j (some ⟨f, n, some o⟩)) := by
  -- the owner's post is the only one that names this flight, so every other post is as it was
  have hpost : ∀ k p, Function.update post j (some ⟨f, n, some o⟩) k = some p →
      (k = j ∧ p = ⟨f, n, some o⟩) ∨ (k ≠ j ∧ p.flight ≠ f ∧ post k = some p) := by
    intro k p hk
    by_cases hkj : k = j
    · subst hkj
      rw [Function.update_self] at hk
      exact .inl ⟨rfl, (Option.some.inj hk).symm⟩
    · rw [Function.update_of_ne hkj] at hk
      refine .inr ⟨hkj, fun hf => hkj ?_, hk⟩
      exact h.unique k j f p.generation n p.publication none (by rw [hk, ← hf]) hj
  have hlen : (g.publish f o).promises.length = g.promises.length := List.length_set
  refine ⟨fun f' hf => ?_, fun f' hf => ?_, fun k f' p hk => ?_, fun k f' n' p hk => ?_,
    fun k f' n' hk => ?_, fun i k f' n' m p q hi hk => ?_, fun f' hf => ?_⟩
  · obtain ⟨k, p, hk⟩ := h.slot f' hf
    by_cases hkj : k = j
    · subst hkj
      rw [hj] at hk
      cases hk
      exact ⟨k, some o, Function.update_self ..⟩
    · exact ⟨k, p, (Function.update_of_ne hkj ..).trans hk⟩
  · rw [hlen]
    exact h.last f' hf
  · rw [hlen]
    rcases hpost k _ hk with ⟨-, heq⟩ | ⟨-, -, hk⟩
    · cases heq
      exact h.newest j f none hj
    · exact h.newest k f' p hk
  · show (g.promises.set f (some o))[f']? = some p
    rcases hpost k _ hk with ⟨-, heq⟩ | ⟨-, hne, hk⟩
    · cases heq
      rw [List.getElem?_set_self (h.claimed hj)]
    · rw [List.getElem?_set_ne (Ne.symm hne)]
      exact h.promise k f' n' p hk
  · rcases hpost k _ hk with ⟨-, heq⟩ | ⟨-, -, hk⟩
    · cases heq
    · exact h.pending k f' n' hk
  · rcases hpost i _ hi with ⟨rfl, heq⟩ | ⟨-, hne, hi'⟩ <;>
      rcases hpost k _ hk with ⟨rfl, heq'⟩ | ⟨-, hne', hk'⟩
    · rfl
    · cases heq
      exact absurd rfl hne'
    · cases heq'
      exact absurd rfl hne
    · exact h.unique i k f' n' m p q hi' hk'
  · have hf : (g.promises.set f (some o))[f']? = some none := hf
    have hne : f ≠ f' := by
      rintro rfl
      rw [List.getElem?_set_self (h.claimed hj)] at hf
      cases hf
    rw [List.getElem?_set_ne hne] at hf
    obtain ⟨k, m, hk⟩ := h.flown f' hf
    refine ⟨k, m, ?_⟩
    rw [Function.update_of_ne, hk]
    rintro rfl
    rw [hj] at hk
    cases hk
    exact hne rfl

/-- An owner that has published vacates its flight, and no other. -/
theorem Holds.vacate (h : Holds g post) {j f : Nat} {n : UInt64} {o : Outcome α}
    (hj : post j = some ⟨f, n, some o⟩) :
    Holds (g.vacate n) (Function.update post j none) ∧
      (g.vacate n).inflight = if g.inflight = some f then none else g.inflight := by
  have hpost : ∀ k p, Function.update post j none k = some p → k ≠ j ∧ post k = some p := by
    intro k p hk
    by_cases hkj : k = j
    · subst hkj
      rw [Function.update_self] at hk
      cases hk
    · rw [Function.update_of_ne hkj] at hk
      exact ⟨hkj, hk⟩
  have hflown : ∀ f', g.promises[f']? = some none →
      ∃ k m, Function.update post j none k = some ⟨f', m, none⟩ := by
    intro f' hf
    obtain ⟨k, m, hk⟩ := h.flown f' hf
    refine ⟨k, m, ?_⟩
    rw [Function.update_of_ne, hk]
    rintro rfl
    rw [hj] at hk
    cases hk
  unfold RefreshGuard.vacate
  by_cases hgen : g.generation = n
  · -- the slot is this owner's, so no other owner has work left to publish
    subst hgen
    rw [if_pos rfl]
    have hlast := h.newest j f (some o) hj
    refine ⟨⟨nofun, nofun, fun k f' p hk => h.newest k f' p (hpost k _ hk).2,
      fun k f' m p hk => h.promise k f' m p (hpost k _ hk).2, fun k f' m hk => ?_,
      fun i k f' m m' p q hi hk => h.unique i k f' m m' p q (hpost i _ hi).2 (hpost k _ hk).2,
      hflown⟩, ?_⟩
    · obtain ⟨hne, hk⟩ := hpost k _ hk
      have hlast' := h.last f' (h.pending k f' m hk)
      obtain rfl : f' = f := by omega
      exact absurd (h.unique k j f' m _ none (some o) hk hj) hne
    · split
      · rfl
      · next hslot =>
          rcases hin : g.inflight with _ | f'
          · rfl
          · have hlast' := h.last f' hin
            obtain rfl : f' = f := by omega
            exact absurd hin hslot
  · rw [if_neg hgen]
    refine ⟨⟨fun f' hf => ?_, h.last, fun k f' p hk => h.newest k f' p (hpost k _ hk).2,
      fun k f' m p hk => h.promise k f' m p (hpost k _ hk).2,
      fun k f' m hk => h.pending k f' m (hpost k _ hk).2,
      fun i k f' m m' p q hi hk => h.unique i k f' m m' p q (hpost i _ hi).2 (hpost k _ hk).2,
      hflown⟩, ?_⟩
    · obtain ⟨k, p, hk⟩ := h.slot f' hf
      refine ⟨k, p, (Function.update_of_ne ?_ ..).trans hk⟩
      rintro rfl
      rw [hj] at hk
      cases hk
      exact hgen rfl
    · rw [if_neg]
      intro hin
      obtain ⟨k, p, hk⟩ := h.slot f hin
      obtain rfl := h.unique k j f _ n p (some o) hk hj
      rw [hj] at hk
      cases hk
      exact hgen rfl

end

/-! ## One step -/

abbrev RefreshStep (α : Type) := Transition (RefreshCalls α) (Turn α)

structure RefreshCalls.Sound (w : RefreshCalls α) : Prop where
  holds : Holds w.guard fun k => (w.callers k).post
  waiting : ∀ j f, w.callers j = .waiting f → f < w.guard.promises.length

/-- A claim takes a generation number no owner has. -/
def Unused (t : RefreshStep α) : Prop :=
  t.pre.callers t.label.caller = .called → t.pre.guard.liveLocked = none →
    ∀ k f n p, (t.pre.callers k).post = some ⟨f, n, p⟩ → n ≠ t.pre.guard.generation + 1

theorem sound_start : (RefreshCalls.start : RefreshCalls α).Sound := by
  have hnone : ∀ k p, ((RefreshCalls.start : RefreshCalls α).callers k).post ≠ some p :=
    fun _ _ h => nomatch h
  refine ⟨⟨fun _ h => (nomatch h), fun _ h => (nomatch h), fun k f p h => absurd h (hnone k _),
    fun k f n p h => absurd h (hnone k _), fun k f n h => absurd h (hnone k _),
    fun j k f n m p q h => absurd h (hnone j _), fun _ h => (nomatch h)⟩, fun _ _ h => (nomatch h)⟩

section

variable {w : RefreshCalls α} {l : Turn α}

theorem callers_turn_self :
    (w.turn l).callers l.caller = (w.guard.advance l.outcome (w.callers l.caller)).2 :=
  Function.update_self ..

theorem callers_turn_of_ne {k : Nat} (hk : k ≠ l.caller) : (w.turn l).callers k = w.callers k :=
  Function.update_of_ne hk ..

theorem turn_of {c d : Caller α} {g : RefreshGuard α} (hc : w.callers l.caller = c)
    (hadvance : w.guard.advance l.outcome c = (g, d)) :
    w.turn l = ⟨g, Function.update w.callers l.caller d⟩ := by
  unfold RefreshCalls.turn
  rw [hc, hadvance]

/-- The caller whose turn it is changes, and what it holds with it. -/
theorem RefreshCalls.Sound.update (h : w.Sound) {g : RefreshGuard α} {j : Nat} {d : Caller α}
    (hholds : Holds g (Function.update (fun k => (w.callers k).post) j d.post))
    (hlen : w.guard.promises.length ≤ g.promises.length)
    (hwait : ∀ f, d = .waiting f → f < g.promises.length) :
    RefreshCalls.Sound ⟨g, Function.update w.callers j d⟩ := by
  refine ⟨?_, fun k f hk => ?_⟩
  · have hpost : (fun k => (Function.update w.callers j d k).post)
        = Function.update (fun k => (w.callers k).post) j d.post :=
      Function.comp_update Caller.post w.callers j d
    show Holds g fun k => (Function.update w.callers j d k).post
    rw [hpost]
    exact hholds
  · have hk : Function.update w.callers j d k = .waiting f := hk
    by_cases hkj : k = j
    · subst hkj
      rw [Function.update_self] at hk
      exact hwait f hk
    · rw [Function.update_of_ne hkj] at hk
      exact Nat.lt_of_lt_of_le (h.waiting k f hk) hlen

/-- The caller whose turn it is holds what it held. -/
theorem RefreshCalls.Sound.same (h : w.Sound) {j : Nat} {d : Caller α}
    (hpost : d.post = (w.callers j).post)
    (hwait : ∀ f, d = .waiting f → f < w.guard.promises.length) :
    RefreshCalls.Sound ⟨w.guard, Function.update w.callers j d⟩ := by
  refine h.update ?_ (Nat.le_refl _) hwait
  rw [hpost, Function.update_eq_self j fun k => (w.callers k).post]
  exact h.holds

/-- Every step of a call keeps it. -/
theorem RefreshCalls.Sound.turn (h : w.Sound) (hunused : Unused ⟨w, l, w.turn l⟩) :
    (w.turn l).Sound := by
  cases hc : w.callers l.caller with
  | idle =>
      rw [turn_of hc rfl]
      exact h.same (by rw [hc]; rfl) nofun
  | called =>
      cases hlive : w.guard.liveLocked with
      | some f =>
          rw [turn_of hc (show w.guard.enter = (w.guard, .waiting f) by
            rw [RefreshGuard.enter, hlive])]
          refine h.same (by rw [hc]; rfl) fun f' hf' => ?_
          cases hf'
          have hlast := h.holds.last f (RefreshGuard.liveLocked_eq_some.mp hlive).1
          omega
      | none =>
          rw [turn_of hc (show w.guard.enter = _ by rw [RefreshGuard.enter, hlive])]
          refine h.update (h.holds.claim hlive l.caller (hunused hc hlive)) ?_ nofun
          simp
  | waiting f =>
      cases hready : w.guard.ready f with
      | some out =>
          rw [turn_of hc (show w.guard.advance l.outcome (.waiting f) = (w.guard, .returned out) by
            rw [RefreshGuard.advance, hready])]
          exact h.same (by rw [hc]; rfl) nofun
      | none =>
          rw [turn_of hc (show w.guard.advance l.outcome (.waiting f) = (w.guard, .waiting f) by
            rw [RefreshGuard.advance, hready])]
          refine h.same (by rw [hc]) fun f' hf' => ?_
          cases hf'
          exact h.waiting l.caller f hc
  | owner f n stage =>
      have hpost : (w.callers l.caller).post = some ⟨f, n, stage.publication⟩ := by rw [hc]; rfl
      cases stage with
      | claimed | executing =>
          rw [turn_of hc rfl]
          exact h.same hpost.symm nofun
      | ended out =>
          rw [turn_of hc rfl]
          exact h.update (h.holds.publish hpost) (Nat.le_of_eq List.length_set.symm) nofun
      | published out =>
          rw [turn_of hc rfl]
          refine h.update (h.holds.vacate hpost).1 ?_ nofun
          rw [RefreshGuard.vacate]
          split <;> exact Nat.le_refl _
  | returned out =>
      rw [turn_of hc rfl]
      exact h.same (by rw [hc]) nofun

/-- A call that now waits has just joined the live flight, or did wait. -/
theorem waiting_turn {j f : Nat} (h : (w.turn l).callers j = .waiting f) :
    w.callers j = .waiting f ∨
      (j = l.caller ∧ w.callers j = .called ∧ w.guard.liveLocked = some f) := by
  by_cases hj : j = l.caller
  · subst hj
    rw [callers_turn_self] at h
    cases hc : w.callers l.caller with
    | called =>
        rw [hc, RefreshGuard.advance, RefreshGuard.enter] at h
        split at h
        · next f' hlive =>
            cases h
            exact .inr ⟨rfl, rfl, hlive⟩
        · cases h
    | waiting f' =>
        rw [hc, RefreshGuard.advance] at h
        split at h
        · cases h
        · exact .inl h
    | owner f' n stage => cases stage <;> rw [hc] at h <;> cases h
    | idle | returned _ => rw [hc] at h; cases h
  · exact .inl ((callers_turn_of_ne hj).symm.trans h)

/-- A refresh function that has ended has just ended, or had. -/
theorem ended_turn {k f : Nat} {n : UInt64} {o : Outcome α}
    (h : (w.turn l).callers k = .owner f n (.ended o)) :
    w.callers k = .owner f n (.ended o) ∨
      (k = l.caller ∧ w.callers k = .owner f n .executing ∧ l.outcome = o) := by
  by_cases hk : k = l.caller
  · subst hk
    rw [callers_turn_self] at h
    cases hc : w.callers l.caller with
    | called =>
        rw [hc, RefreshGuard.advance, RefreshGuard.enter] at h
        split at h <;> cases h
    | waiting f' =>
        rw [hc, RefreshGuard.advance] at h
        split at h <;> cases h
    | owner f' n' stage =>
        cases stage with
        | executing =>
            rw [hc] at h
            cases h
            exact .inr ⟨rfl, rfl, rfl⟩
        | claimed | ended _ | published _ => rw [hc] at h; cases h
    | idle | returned _ => rw [hc] at h; cases h
  · exact .inl ((callers_turn_of_ne hk).symm.trans h)

/-- A promise that has settled has just been settled by its owner, or had. -/
theorem ready_turn {f : Nat} {o : Outcome α} (h : (w.turn l).guard.ready f = some o) :
    w.guard.ready f = some o ∨ ∃ n, w.callers l.caller = .owner f n (.ended o) := by
  have h : (w.guard.advance l.outcome (w.callers l.caller)).1.ready f = some o := h
  cases hc : w.callers l.caller with
  | called =>
      rw [hc, RefreshGuard.advance, RefreshGuard.enter] at h
      split at h
      · exact .inl h
      · have h := RefreshGuard.ready_eq_some.mp h
        refine .inl (RefreshGuard.ready_eq_some.mpr ?_)
        rcases Nat.lt_or_ge f w.guard.promises.length with hlt | hge
        · rwa [List.getElem?_append_left hlt] at h
        · rw [List.getElem?_append_right hge] at h
          cases hsub : f - w.guard.promises.length <;> rw [hsub] at h <;> cases h
  | waiting f' =>
      rw [hc, RefreshGuard.advance] at h
      split at h <;> exact .inl h
  | owner f' n stage =>
      cases stage with
      | ended out =>
          rw [hc] at h
          have h := RefreshGuard.ready_eq_some.mp h
          by_cases hf : f' = f
          · subst hf
            have h : (w.guard.promises.set f' (some out))[f']? = some (some o) := h
            rw [List.getElem?_set_self'] at h
            cases hold : w.guard.promises[f']? <;> rw [hold] at h <;> cases h
            exact .inr ⟨n, rfl⟩
          · have h : (w.guard.promises.set f' (some out))[f]? = some (some o) := h
            rw [List.getElem?_set_ne hf] at h
            exact .inl (RefreshGuard.ready_eq_some.mpr h)
      | published out =>
          rw [hc, RefreshGuard.advance, RefreshGuard.vacate] at h
          split at h <;> exact .inl h
      | claimed | executing => rw [hc] at h; exact .inl h
  | idle | returned _ => rw [hc] at h; exact .inl h

/-- A promise stays settled. -/
theorem ready_turn_of {f : Nat} (h : w.guard.ready f ≠ none) : (w.turn l).guard.ready f ≠ none := by
  obtain ⟨o, ho⟩ := Option.ne_none_iff_exists'.mp h
  have hold := RefreshGuard.ready_eq_some.mp ho
  have hlt := (List.getElem?_eq_some_iff.mp hold).1
  show (w.guard.advance l.outcome (w.callers l.caller)).1.ready f ≠ none
  cases hc : w.callers l.caller with
  | called =>
      rw [RefreshGuard.advance, RefreshGuard.enter]
      split
      · exact h
      · rw [RefreshGuard.ready, List.getElem?_append_left hlt]
        exact h
  | waiting f' =>
      rw [RefreshGuard.advance]
      split <;> exact h
  | owner f' n stage =>
      cases stage with
      | ended out =>
          show ((w.guard.promises.set f' (some out))[f]?).join ≠ none
          by_cases hf : f' = f
          · subst hf
            rw [List.getElem?_set_self hlt]
            exact Option.some_ne_none out
          · rw [List.getElem?_set_ne hf]
            exact h
      | published out =>
          rw [RefreshGuard.advance, RefreshGuard.vacate]
          split <;> exact h
      | claimed | executing => exact h
  | idle | returned _ => exact h

end

/-! ## What a run has done -/

/-- The step at which the refresh function of flight `f` ends, and what it ends with. -/
def Ends (e : RefreshStep α) (f : Nat) (o : Outcome α) : Prop :=
  (∃ n, e.pre.callers e.label.caller = .owner f n .executing) ∧ e.label.outcome = o

/-- The call of `j` began while `f` had not settled, and since then `j` joined `f` while its
refresh was in flight. -/
def Joins (past : List (RefreshStep α)) (j f : Nat) : Prop :=
  ∃ call join, [call, join].Sublist past ∧
    (call.label.caller = j ∧ call.pre.callers j = .idle ∧ call.pre.guard.ready f = none) ∧
    (join.label.caller = j ∧ join.pre.callers j = .called ∧ join.pre.InFlight f)

/-- What the steps taken so far say of the calls and the promises. -/
structure Tells (past : List (RefreshStep α)) (w : RefreshCalls α) : Prop where
  sound : w.Sound
  called : ∀ j, w.callers j ≠ .idle → ∃ call ∈ past, call.label.caller = j ∧
    call.pre.callers j = .idle ∧ ∀ f, call.pre.guard.ready f ≠ none → w.guard.ready f ≠ none
  joined : ∀ j f, w.callers j = .waiting f → Joins past j f
  ended : ∀ k f n o, w.callers k = .owner f n (.ended o) → ∃ e ∈ past, Ends e f o
  settled : ∀ f o, w.guard.ready f = some o → ∃ e ∈ past, Ends e f o

theorem Joins.mono {past : List (RefreshStep α)} {j f : Nat} (h : Joins past j f)
    (t : RefreshStep α) : Joins (past ++ [t]) j f := by
  obtain ⟨call, join, hsub, hcall, hjoin⟩ := h
  exact ⟨call, join, hsub.trans (List.sublist_append_left past [t]), hcall, hjoin⟩

theorem tells_start : Tells [] (RefreshCalls.start : RefreshCalls α) :=
  ⟨sound_start, fun _ h => absurd rfl h, fun _ _ h => (nomatch h), fun _ _ _ _ h => (nomatch h),
    fun _ _ h => (nomatch h)⟩

/-- The live flight is in flight. -/
theorem RefreshCalls.Sound.inFlight {w : RefreshCalls α} (h : w.Sound) {f : Nat}
    (hlive : w.guard.liveLocked = some f) : w.InFlight f := by
  obtain ⟨hslot, hready⟩ := RefreshGuard.liveLocked_eq_some.mp hlive
  have hlt : f < w.guard.promises.length := by
    have hlast := h.holds.last f hslot
    omega
  apply h.holds.flown
  rw [RefreshGuard.ready, List.getElem?_eq_getElem hlt] at hready
  rw [List.getElem?_eq_getElem hlt]
  exact congrArg some hready

/-- One more step. -/
theorem Tells.turn {past : List (RefreshStep α)} {w : RefreshCalls α}
    (h : Tells past w) (l : Turn α) (hunused : Unused ⟨w, l, w.turn l⟩) :
    Tells (past ++ [⟨w, l, w.turn l⟩]) (w.turn l) := by
  have earlier : ∀ {P : RefreshStep α → Prop}, (∃ e ∈ past, P e) →
      ∃ e ∈ past ++ [⟨w, l, w.turn l⟩], P e :=
    fun ⟨e, he, hP⟩ => ⟨e, List.mem_append_left _ he, hP⟩
  refine ⟨h.sound.turn hunused, fun j hj => ?_, fun j f hj => ?_, fun k f n o hk => ?_,
    fun f o hf => ?_⟩
  · by_cases hidle : w.callers j = .idle
    · -- only the call whose turn it is can have begun
      have hjl : j = l.caller := by
        by_contra hne
        exact hj ((callers_turn_of_ne hne).trans hidle)
      exact ⟨_, List.mem_append_right _ List.mem_cons_self, hjl.symm, hidle,
        fun f hf => ready_turn_of hf⟩
    · obtain ⟨call, hmem, hcaller, hpre, hstays⟩ := h.called j hidle
      exact ⟨call, List.mem_append_left _ hmem, hcaller, hpre,
        fun f hf => ready_turn_of (hstays f hf)⟩
  · rcases waiting_turn hj with hold | ⟨hjl, hcalled, hlive⟩
    · exact (h.joined j f hold).mono _
    · obtain ⟨call, hmem, hcaller, hpre, hstays⟩ := h.called j (by rw [hcalled]; nofun)
      refine ⟨call, ⟨w, l, w.turn l⟩, ?_, ⟨hcaller, hpre, ?_⟩, hjl.symm, hcalled,
        h.sound.inFlight hlive⟩
      · exact (List.singleton_sublist.mpr hmem).append (List.Sublist.refl _)
      · -- what had settled when the call began would have settled now
        by_contra hready
        exact hstays f hready (RefreshGuard.liveLocked_eq_some.mp hlive).2
  · rcases ended_turn hk with hold | ⟨hkl, hexec, hout⟩
    · exact earlier (h.ended k f n o hold)
    · subst hkl
      exact ⟨_, List.mem_append_right _ List.mem_cons_self, ⟨n, hexec⟩, hout⟩
  · rcases ready_turn hf with hold | ⟨n, hended⟩
    · exact earlier (h.settled f o hold)
    · exact earlier (h.ended l.caller f n o hended)

/-! ## Single flight -/

/-- What holds in every state of a run: at most one refresh function runs, the slot is empty when
no owner is left, and a waiting call waits on a refresh in flight or on an outcome. -/
structure RefreshCalls.Single (w : RefreshCalls α) : Prop where
  executing : ∀ j k f f' n n', w.callers j = .owner f n .executing →
    w.callers k = .owner f' n' .executing → j = k
  empty : (∀ k f n stage, w.callers k ≠ .owner f n stage) → w.guard.inflight = none
  waiting : ∀ j f, w.callers j = .waiting f → w.InFlight f ∨ ∃ o, w.guard.ready f = some o

/-- What holds of a step after those of `past`: a call that shared a flight returns what the
refresh function of that flight ended with, and joined it in flight; an owner takes its own
flight out of the slot and no other; a call that begins when no owner is left claims a new one. -/
structure SharesOne (past : List (RefreshStep α))
    (t : RefreshStep α) : Prop where
  shares : ∀ f o, t.pre.callers t.label.caller = .waiting f →
    t.post.callers t.label.caller = .returned o →
    Joins past t.label.caller f ∧ ∃ e ∈ past, Ends e f o
  vacates : ∀ f n o, t.pre.callers t.label.caller = .owner f n (.published o) →
    t.post.guard.inflight = if t.pre.guard.inflight = some f then none else t.pre.guard.inflight
  restarts : t.pre.callers t.label.caller = .called →
    (∀ k f n stage, t.pre.callers k ≠ .owner f n stage) →
    ∃ n, t.post.callers t.label.caller = .owner t.pre.guard.promises.length n .claimed

theorem Caller.post_eq_some {c : Caller α} {p : Post α} (h : c.post = some p) :
    ∃ stage, c = .owner p.flight p.generation stage ∧ stage.publication = p.publication := by
  cases c with
  | owner f n stage =>
      cases h
      exact ⟨stage, rfl, rfl⟩
  | idle | called | waiting _ | returned _ => cases h

theorem RefreshCalls.Sound.empty {w : RefreshCalls α} (h : w.Sound)
    (hnone : ∀ k f n stage, w.callers k ≠ .owner f n stage) : w.guard.inflight = none := by
  cases hslot : w.guard.inflight with
  | none => rfl
  | some f =>
      obtain ⟨k, p, hk⟩ := h.holds.slot f hslot
      obtain ⟨stage, howner, -⟩ := Caller.post_eq_some hk
      exact absurd howner (hnone k _ _ stage)

theorem RefreshCalls.Sound.single {w : RefreshCalls α} (h : w.Sound) : w.Single := by
  refine ⟨fun j k f f' n n' hj hk => ?_, h.empty, fun j f hj => ?_⟩
  · have hj : (w.callers j).post = some ⟨f, n, none⟩ := by rw [hj]; rfl
    have hk : (w.callers k).post = some ⟨f', n', none⟩ := by rw [hk]; rfl
    -- both flights are the one in the slot
    have hslot := h.holds.pending j f n hj
    rw [h.holds.pending k f' n' hk] at hslot
    obtain rfl : f' = f := Option.some.inj hslot
    exact h.holds.unique j k f' n n' none none hj hk
  · have hlt := h.waiting j f hj
    cases hp : w.guard.promises[f] with
    | none =>
        refine .inl (h.holds.flown f ?_)
        rw [List.getElem?_eq_getElem hlt, hp]
    | some o =>
        refine .inr ⟨o, RefreshGuard.ready_eq_some.mpr ?_⟩
        rw [List.getElem?_eq_getElem hlt, hp]

theorem Tells.sharesOne {past : List (RefreshStep α)} {w : RefreshCalls α}
    (h : Tells past w) (l : Turn α) : SharesOne past ⟨w, l, w.turn l⟩ := by
  refine ⟨fun f o hpre hpost => ?_, fun f n o hpre => ?_, fun hpre hnone => ?_⟩
  · refine ⟨h.joined l.caller f hpre, h.settled f o ?_⟩
    have hpost : (w.turn l).callers l.caller = .returned o := hpost
    have hpre : w.callers l.caller = .waiting f := hpre
    rw [callers_turn_self, hpre, RefreshGuard.advance] at hpost
    split at hpost
    · next out hready =>
        cases hpost
        exact hready
    · cases hpost
  · have hpre : w.callers l.caller = .owner f n (.published o) := hpre
    rw [turn_of hpre rfl]
    exact (h.sound.holds.vacate (j := l.caller) (o := o) (by rw [hpre]; rfl)).2
  · have hpre : w.callers l.caller = .called := hpre
    have hlive : w.guard.liveLocked = none := by
      rw [RefreshGuard.liveLocked, h.sound.empty hnone]
      rfl
    refine ⟨w.guard.generation + 1, ?_⟩
    show (w.turn l).callers l.caller = _
    rw [callers_turn_self, hpre, RefreshGuard.advance, RefreshGuard.enter, hlive]

/-- **Single flight.**  In every interleaving of any number of calls, whatever their refresh
functions end with, in which no claim takes the generation number of an owner that has not
vacated. -/
theorem single_flight {trace : List (RefreshStep α)} {w : RefreshCalls α}
    (hrun : Run RefreshCalls.Steps RefreshCalls.start trace w) (hunused : ∀ t ∈ trace, Unused t) :
    w.Single ∧ ∀ earlier t later, trace = earlier ++ t :: later →
      t.pre.Single ∧ SharesOne earlier t := by
  have hkeep : ∀ past (s : RefreshCalls α) l t, Tells past s →
      (RefreshCalls.Steps s l t ∧ Unused ⟨s, l, t⟩) → Tells (past ++ [⟨s, l, t⟩]) t := by
    rintro past s l t hpast ⟨rfl, hnew⟩
    exact hpast.turn l hnew
  obtain ⟨hend, hbefore⟩ := (hrun.restrict hunused).history hkeep tells_start
  rw [List.nil_append] at hend
  refine ⟨hend.sound.single, fun earlier t later hsplit => ?_⟩
  have hpast := hbefore earlier t later hsplit
  rw [List.nil_append] at hpast
  have hstep : t.post = t.pre.turn t.label :=
    hrun.steps t (hsplit ▸ List.mem_append_right _ List.mem_cons_self)
  refine ⟨hpast.sound.single, ?_⟩
  have hone := hpast.sharesOne t.label
  rw [← hstep] at hone
  exact hone

/-! ## The generation number -/

/-- The generation number counts the claims, and an owner's counts them up to its own. -/
structure CountsClaims (w : RefreshCalls α) : Prop where
  generation : w.guard.generation = UInt64.ofNat w.guard.promises.length
  owner : ∀ k p, (w.callers k).post = some p →
    p.generation = UInt64.ofNat (p.flight + 1) ∧ p.flight < w.guard.promises.length

theorem CountsClaims.update {w : RefreshCalls α} (h : CountsClaims w) {g : RefreshGuard α}
    {j : Nat} {d : Caller α}
    (hgeneration : g.generation = UInt64.ofNat g.promises.length)
    (hlen : w.guard.promises.length ≤ g.promises.length)
    (hd : ∀ p, d.post = some p →
      p.generation = UInt64.ofNat (p.flight + 1) ∧ p.flight < g.promises.length) :
    CountsClaims ⟨g, Function.update w.callers j d⟩ := by
  refine ⟨hgeneration, fun k p hk => ?_⟩
  have hk : (Function.update w.callers j d k).post = some p := hk
  by_cases hkj : k = j
  · subst hkj
    rw [Function.update_self] at hk
    exact hd p hk
  · rw [Function.update_of_ne hkj] at hk
    exact ⟨(h.owner k p hk).1, Nat.lt_of_lt_of_le (h.owner k p hk).2 hlen⟩

/-- Every step counts, and claims at most once. -/
theorem CountsClaims.turn {w : RefreshCalls α} (h : CountsClaims w) (l : Turn α) :
    CountsClaims (w.turn l) ∧ (w.turn l).guard.promises.length ≤ w.guard.promises.length + 1 := by
  cases hc : w.callers l.caller with
  | idle | returned _ =>
      rw [turn_of hc rfl]
      exact ⟨h.update h.generation (Nat.le_refl _) nofun, Nat.le_succ _⟩
  | called =>
      cases hlive : w.guard.liveLocked with
      | some f =>
          rw [turn_of hc (show w.guard.enter = (w.guard, .waiting f) by
            rw [RefreshGuard.enter, hlive])]
          exact ⟨h.update h.generation (Nat.le_refl _) nofun, Nat.le_succ _⟩
      | none =>
          rw [turn_of hc (show w.guard.enter = _ by rw [RefreshGuard.enter, hlive])]
          -- no flight is live: this caller takes the next number
          have hlen : (w.guard.promises ++ [none]).length = w.guard.promises.length + 1 :=
            List.length_append
          have hnext : w.guard.generation + 1 = UInt64.ofNat (w.guard.promises.length + 1) := by
            rw [h.generation, UInt64.ofNat_add]
            rfl
          refine ⟨h.update ?_ (by simp) fun p hp => ?_, Nat.le_of_eq hlen⟩
          · rw [hlen]
            exact hnext
          · cases hp
            exact ⟨hnext, by simp⟩
  | waiting f =>
      cases hready : w.guard.ready f with
      | some out =>
          rw [turn_of hc (show w.guard.advance l.outcome (.waiting f) = (w.guard, .returned out) by
            rw [RefreshGuard.advance, hready])]
          exact ⟨h.update h.generation (Nat.le_refl _) nofun, Nat.le_succ _⟩
      | none =>
          rw [turn_of hc (show w.guard.advance l.outcome (.waiting f) = (w.guard, .waiting f) by
            rw [RefreshGuard.advance, hready])]
          exact ⟨h.update h.generation (Nat.le_refl _) nofun, Nat.le_succ _⟩
  | owner f n stage =>
      -- an owner keeps the number it claimed to the end
      have howner := h.owner l.caller ⟨f, n, stage.publication⟩ (by rw [hc]; rfl)
      have hmoved : ∀ {stage' : Stage α} p, (Caller.owner f n stage').post = some p →
          p.generation = UInt64.ofNat (p.flight + 1) ∧ p.flight < w.guard.promises.length := by
        intro stage' p hp
        cases hp
        exact howner
      cases stage with
      | claimed | executing =>
          rw [turn_of hc rfl]
          exact ⟨h.update h.generation (Nat.le_refl _) hmoved, Nat.le_succ _⟩
      | ended out =>
          have hlen : (w.guard.publish f out).promises.length = w.guard.promises.length :=
            List.length_set
          rw [turn_of hc rfl]
          refine ⟨h.update ?_ (Nat.le_of_eq hlen.symm) fun p hp => ?_,
            Nat.le_succ_of_le (Nat.le_of_eq hlen)⟩
          · rw [hlen]
            exact h.generation
          · rw [hlen]
            exact hmoved p hp
      | published out =>
          rw [turn_of hc rfl]
          show CountsClaims ⟨w.guard.vacate n, _⟩ ∧ (w.guard.vacate n).promises.length ≤ _
          rw [RefreshGuard.vacate]
          split <;> exact ⟨h.update h.generation (Nat.le_refl _) nofun, Nat.le_succ _⟩

/-- In a run of fewer than 2^64 steps no claim takes the number of an owner still there. -/
theorem unused_of_few {trace : List (RefreshStep α)} {w : RefreshCalls α}
    (hrun : Run RefreshCalls.Steps RefreshCalls.start trace w) (hfew : trace.length < 2 ^ 64) :
    ∀ t ∈ trace, Unused t := by
  have hkeep : ∀ past (s : RefreshCalls α) l t,
      (CountsClaims s ∧ s.guard.promises.length ≤ past.length) → RefreshCalls.Steps s l t →
        CountsClaims t ∧ t.guard.promises.length ≤ (past ++ [Transition.mk s l t]).length := by
    rintro past s l t ⟨hcounts, hlen⟩ rfl
    obtain ⟨hnext, hone⟩ := hcounts.turn l
    refine ⟨hnext, ?_⟩
    rw [List.length_append, List.length_singleton]
    omega
  have hstart : CountsClaims (RefreshCalls.start : RefreshCalls α) ∧
      (RefreshCalls.start : RefreshCalls α).guard.promises.length ≤
        ([] : List (RefreshStep α)).length := ⟨⟨rfl, nofun⟩, Nat.le_refl _⟩
  intro t ht
  obtain ⟨earlier, later, hsplit⟩ := List.append_of_mem ht
  obtain ⟨hcounts, hlen⟩ := (hrun.history
    (I := fun past s => CountsClaims s ∧ s.guard.promises.length ≤ past.length)
    hkeep hstart).2 earlier t later hsplit
  intro _ _ k f n p hk heq
  obtain ⟨hn, hf⟩ := hcounts.owner k _ hk
  -- two numbers that agree modulo 2^64 and are less than 2^64 apart
  have hn : n = UInt64.ofNat (f + 1) := hn
  have hf : f < t.pre.guard.promises.length := hf
  have hshort : t.pre.guard.promises.length < 2 ^ 64 := by
    rw [hsplit, List.length_append, List.length_cons] at hfew
    rw [List.nil_append] at hlen
    omega
  rw [hcounts.generation, hn] at heq
  have hmod := congrArg UInt64.toNat heq
  rw [UInt64.toNat_add, UInt64.toNat_ofNat', UInt64.toNat_ofNat', UInt64.toNat_one] at hmod
  omega

/-- A call that fails, one that shares the failure, and a third that claims anew. -/
def failedFlight : List (Turn Unit) :=
  [0, 0, 0, 1, 1, 0, 0, 1, 0, 2, 2].map fun j => ⟨j, .error (.foreign "token refresh failed")⟩

def afterFailedFlight : RefreshCalls Unit :=
  failedFlight.foldl RefreshCalls.turn RefreshCalls.start

theorem failedFlight_single : afterFailedFlight.Single ∧
    afterFailedFlight.callers 1 = .returned (.error (.foreign "token refresh failed")) ∧
    afterFailedFlight.callers 2 = .owner 1 2 .claimed := by
  have hstep : ∀ (w : RefreshCalls Unit) l, RefreshCalls.Steps w l (w.turn l) := fun _ _ => rfl
  have hrun := Run.run_follow hstep RefreshCalls.start failedFlight
  exact ⟨(single_flight hrun (unused_of_few hrun (by decide))).1, rfl, rfl⟩

/-! ## Two refreshes that overlap -/

section

variable (g : RefreshGuard α) (callers : Nat → Caller α) (j : Nat)

theorem steps_update (o : Outcome α) {g' : RefreshGuard α} {c d : Caller α}
    (hadvance : g.advance o c = (g', d)) :
    RefreshCalls.Steps ⟨g, Function.update callers j c⟩ ⟨j, o⟩
      ⟨g', Function.update callers j d⟩ := by
  have hturn := turn_of (w := ⟨g, Function.update callers j c⟩) (l := ⟨j, o⟩)
    (Function.update_self ..) hadvance
  rw [Function.update_idem] at hturn
  exact hturn.symm

/-- A call that finds nothing live comes to run its refresh function. -/
theorem claims (o : Outcome α) (hidle : callers j = .idle) (hlive : g.liveLocked = none) :
    ∃ trace, Run RefreshCalls.Steps ⟨g, callers⟩ trace
      ⟨⟨g.promises ++ [none], some g.promises.length, g.generation + 1⟩,
        Function.update callers j (.owner g.promises.length (g.generation + 1) .executing)⟩ := by
  have hstart : callers = Function.update callers j .idle := by
    rw [← hidle, Function.update_eq_self]
  have hclaim : g.advance o .called =
      (⟨g.promises ++ [none], some g.promises.length, g.generation + 1⟩,
        .owner g.promises.length (g.generation + 1) .claimed) := by
    rw [RefreshGuard.advance, RefreshGuard.enter, hlive]
  rw [hstart]
  simp only [Function.update_idem]
  exact ⟨_, .cons (steps_update _ callers j o rfl) (.cons (steps_update g callers j o hclaim)
    (.cons (steps_update _ callers j o rfl) (.nil _)))⟩

/-- It publishes, and comes to the point where it vacates. -/
theorem publishes (o : Outcome α) (f : Nat) (n : UInt64) :
    ∃ trace, Run RefreshCalls.Steps ⟨g, Function.update callers j (.owner f n .executing)⟩ trace
      ⟨g.publish f o, Function.update callers j (.owner f n (.published o))⟩ :=
  ⟨_, .cons (steps_update _ callers j o rfl) (.cons (steps_update _ callers j o rfl) (.nil _))⟩

/-- A call with no other one beside it. -/
theorem alone (o : Outcome α) (hidle : callers j = .idle) (hlive : g.liveLocked = none) :
    ∃ trace promises, Run RefreshCalls.Steps ⟨g, callers⟩ trace
      ⟨⟨promises, none, g.generation + 1⟩, Function.update callers j (.returned o)⟩ := by
  obtain ⟨first, hfirst⟩ := claims g callers j o hidle hlive
  obtain ⟨second, hsecond⟩ := publishes ⟨g.promises ++ [none], some g.promises.length,
    g.generation + 1⟩ callers j o g.promises.length (g.generation + 1)
  have hvacates : (RefreshGuard.publish ⟨g.promises ++ [none], some g.promises.length,
      g.generation + 1⟩ g.promises.length o).advance o
        (.owner g.promises.length (g.generation + 1) (.published o)) =
      (⟨(g.promises ++ [none]).set g.promises.length (some o), none, g.generation + 1⟩,
        .returned o) := by
    rw [RefreshGuard.advance, RefreshGuard.vacate, if_pos (by rfl)]
    rfl
  exact ⟨_, _, hfirst.append (hsecond.append (.cons (steps_update _ _ j o hvacates) (.nil _)))⟩

/-- Any number of calls, one after the other. -/
theorem alone_iterate (o : Outcome α) (n : Nat) (hlive : g.liveLocked = none)
    (hidle : ∀ k, j ≤ k → callers k = .idle) :
    ∃ trace g' callers', Run RefreshCalls.Steps ⟨g, callers⟩ trace ⟨g', callers'⟩ ∧
      g'.liveLocked = none ∧ g'.generation = g.generation + UInt64.ofNat n ∧
      (∀ k, k < j → callers' k = callers k) ∧ ∀ k, j + n ≤ k → callers' k = .idle := by
  induction n with
  | zero =>
      exact ⟨_, g, callers, .nil _, hlive, by simp, fun _ _ => rfl, fun k hk => hidle k (by omega)⟩
  | succ n ih =>
      obtain ⟨first, g₁, callers₁, hfirst, hlive₁, hgen, hbelow, habove⟩ := ih
      obtain ⟨second, promises, hsecond⟩ :=
        alone g₁ callers₁ (j + n) o (habove (j + n) (Nat.le_refl _)) hlive₁
      refine ⟨_, _, _, hfirst.append hsecond, rfl, ?_, fun k hk => ?_, fun k hk => ?_⟩
      · show g₁.generation + 1 = _
        rw [hgen, UInt64.ofNat_add, UInt64.add_assoc]
        rfl
      · rw [Function.update_of_ne (by omega)]
        exact hbelow k hk
      · rw [Function.update_of_ne (by omega)]
        exact habove k (by omega)

/-- An owner that has published is late, and the next claim takes its number: it vacates the newest
flight, and the call after that claims beside it. -/
theorem overlaps (o : Outcome α) (i k : Nat) {f : Nat} {n : UInt64} (hij : i ≠ j) (hik : i ≠ k)
    (hjk : j ≠ k) (hlate : callers i = .owner f n (.published o)) (hnext : g.generation + 1 = n)
    (hlive : g.liveLocked = none) (hj : callers j = .idle) (hk : callers k = .idle) :
    ∃ trace w, Run RefreshCalls.Steps ⟨g, callers⟩ trace w ∧ ¬w.Single := by
  obtain ⟨first, hfirst⟩ := claims g callers j o hj hlive
  rw [hnext] at hfirst
  generalize hclaimed : Function.update callers j
    (.owner g.promises.length n .executing) = claimed at hfirst
  have howner : claimed j = .owner g.promises.length n .executing := by
    rw [← hclaimed, Function.update_self]
  have hstill : claimed = Function.update claimed i (.owner f n (.published o)) := by
    rw [← hlate, Function.eq_update_self_iff, ← hclaimed, Function.update_of_ne hij]
  have hvacates : RefreshGuard.advance ⟨g.promises ++ [none], some g.promises.length, n⟩ o
      (.owner f n (.published o)) = (⟨g.promises ++ [none], none, n⟩, .returned o) := by
    rw [RefreshGuard.advance, RefreshGuard.vacate, if_pos rfl]
  rw [hstill] at hfirst
  -- the slot is empty now, though `j` still runs
  generalize hvacated : Function.update claimed i (.returned o) = vacated
  have hsecond := steps_update _ claimed i o hvacates
  rw [hvacated] at hsecond
  have hidle : vacated k = .idle := by
    rw [← hvacated, Function.update_of_ne hik.symm, ← hclaimed, Function.update_of_ne hjk.symm, hk]
  have howner : vacated j = .owner g.promises.length n .executing := by
    rw [← hvacated, Function.update_of_ne hij.symm, howner]
  obtain ⟨third, hthird⟩ := claims ⟨g.promises ++ [none], none, n⟩ vacated k o hidle rfl
  refine ⟨_, _, hfirst.append (.cons hsecond hthird), fun hsingle => hjk ?_⟩
  exact hsingle.executing j k _ _ _ _ ((Function.update_of_ne hjk ..).trans howner)
    (Function.update_self ..)

end

/-- With a late owner and 2^64 newer ones two refresh functions run at once. -/
theorem flights_overlap : ∃ trace w,
    Run RefreshCalls.Steps (RefreshCalls.start : RefreshCalls Unit) trace w ∧ ¬w.Single := by
  -- the late owner has published
  obtain ⟨t₁, h₁⟩ := claims {} (fun _ => .idle) 0 (.ok ()) rfl rfl
  obtain ⟨t₂, h₂⟩ := publishes ⟨[none], some 0, 1⟩ (fun _ => .idle) 0 (.ok ()) 0 1
  -- the generation number comes round to the one before its own
  obtain ⟨t₃, g₃, callers₃, h₃, hlive, hgen, hbelow, habove⟩ :=
    alone_iterate ⟨[some (.ok ())], some 0, 1⟩
      (Function.update (fun _ => .idle) 0 (.owner 0 1 (.published (.ok ())))) 1 (.ok ())
      (2 ^ 64 - 1) rfl fun k hk => Function.update_of_ne (by omega) ..
  have hgen : g₃.generation = 0 := hgen
  obtain ⟨t₄, w, h₄, hw⟩ := overlaps g₃ callers₃ (2 ^ 64) (.ok ()) 0 (2 ^ 64 + 1)
    (by omega) (by omega) (by omega) (hbelow 0 (by omega)) (by rw [hgen]; rfl) hlive
    (habove _ (by omega)) (habove _ (by omega))
  exact ⟨_, w, h₁.append (h₂.append (h₃.append h₄)), hw⟩

end Axiam.Client
