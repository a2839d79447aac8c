import Axiam.Core.Error
import Mathlib.Data.Int.ConditionallyCompleteOrder
import Mathlib.Order.ConditionallyCompleteLattice.Finset
import Mathlib.Data.List.Induction
import Mathlib.Logic.Function.Basic
import Mathlib.Order.Monotone.Basic

/-!
# The replay store in memory

`MemoryReplayStore` (`src/ssf.cpp`): a question sweeps what is forgotten, and records the `jti` it
is about unless the sweep has left it.  So the answer "seen" means a recording whose window is not
over, as long as the clock never runs backwards.
-/

namespace Axiam.Ssf

/-- `MemoryReplayStore`: a `jti` to the time it is forgotten. -/
structure MemoryReplayStore where
  seen : Str → Option Int := fun _ => none

/-- What is not forgotten yet. -/
def MemoryReplayStore.sweep (s : MemoryReplayStore) (now : Int) : MemoryReplayStore :=
  ⟨fun jti => (s.seen jti).filter fun expiry => now < expiry⟩

/-- `MemoryReplayStore::check_and_record`. -/
def MemoryReplayStore.checkAndRecord (s : MemoryReplayStore) (jti : Str) (window now : Int) :
    Bool × MemoryReplayStore :=
  let swept := s.sweep now
  match swept.seen jti with
  | some _ => (false, swept)
  | none => (true, ⟨Function.update swept.seen jti (some (now + window))⟩)

/-- The store after it was asked, at one reading of its clock for each question. -/
def MemoryReplayStore.after (window : Int) (clock : Nat → Int) (asked : List Str) :
    MemoryReplayStore :=
  asked.zipIdx.foldl (fun s q => (s.checkAndRecord q.1 window (clock q.2)).2) {}

/-- Its answer to the next question. -/
def memoryStore (window : Int) (clock : Nat → Int) (asked : List Str) (jti : Str) :
    Except Exc Bool :=
  .ok ((MemoryReplayStore.after window clock asked).checkAndRecord jti window
    (clock asked.length)).1

section

variable (window : Int) (clock : Nat → Int)

/-- The question after `earlier` was about `jti`, and it was recorded. -/
def RecordedAt (asked earlier : List Str) (jti : Str) : Prop :=
  (∃ later, asked = earlier ++ jti :: later) ∧ memoryStore window clock earlier jti = .ok true

/-- The `jti` was recorded earlier, and the window since then is not over. -/
def RecordedWithin (asked : List Str) (jti : Str) : Prop :=
  ∃ earlier, RecordedAt window clock asked earlier jti ∧
    clock asked.length < clock earlier.length + window

variable {window clock}

theorem MemoryReplayStore.after_concat (asked : List Str) (jti : Str) :
    after window clock (asked ++ [jti]) =
      ((after window clock asked).checkAndRecord jti window (clock asked.length)).2 := by
  unfold after
  rw [List.zipIdx_append, List.foldl_append]
  simp

theorem MemoryReplayStore.sweep_seen {s : MemoryReplayStore} {now expiry : Int} {jti : Str} :
    (s.sweep now).seen jti = some expiry ↔ s.seen jti = some expiry ∧ now < expiry := by
  show (s.seen jti).filter _ = some expiry ↔ _
  rw [Option.filter_eq_some_iff, decide_eq_true_eq]

/-- Sweeping again, later, leaves what a later sweep leaves. -/
theorem MemoryReplayStore.sweep_sweep (s : MemoryReplayStore) {earlier later : Int}
    (h : earlier ≤ later) : (s.sweep earlier).sweep later = s.sweep later := by
  have hseen : ((s.sweep earlier).sweep later).seen = (s.sweep later).seen := by
    funext jti
    refine Option.ext fun expiry => ?_
    simp only [sweep_seen]
    constructor
    · rintro ⟨⟨hseen, -⟩, hlater⟩
      exact ⟨hseen, hlater⟩
    · rintro ⟨hseen, hlater⟩
      exact ⟨⟨hseen, by omega⟩, hlater⟩
  calc (s.sweep earlier).sweep later = ⟨((s.sweep earlier).sweep later).seen⟩ := rfl
    _ = ⟨(s.sweep later).seen⟩ := by rw [hseen]

theorem MemoryReplayStore.check_seen {s : MemoryReplayStore} {jti : Str} {now expiry : Int}
    (h : (s.sweep now).seen jti = some expiry) :
    s.checkAndRecord jti window now = (false, s.sweep now) := by
  unfold checkAndRecord
  simp only [h]

theorem MemoryReplayStore.check_fresh {s : MemoryReplayStore} {jti : Str} {now : Int}
    (h : (s.sweep now).seen jti = none) : s.checkAndRecord jti window now =
      (true, ⟨Function.update (s.sweep now).seen jti (some (now + window))⟩) := by
  unfold checkAndRecord
  simp only [h]

/-- A question is answered with a recording exactly when the swept store has no entry. -/
theorem memoryStore_fresh_iff {asked : List Str} {jti : Str} :
    memoryStore window clock asked jti = .ok true ↔
      ((MemoryReplayStore.after window clock asked).sweep (clock asked.length)).seen jti = none := by
  unfold memoryStore
  cases h : ((MemoryReplayStore.after window clock asked).sweep (clock asked.length)).seen jti with
  | none =>
      rw [MemoryReplayStore.check_fresh h]
      exact iff_of_true rfl rfl
  | some _ =>
      rw [MemoryReplayStore.check_seen h]
      exact iff_of_false (fun h => nomatch h) (fun h => nomatch h)

theorem recordedAt_concat {asked earlier : List Str} {q jti : Str} :
    RecordedAt window clock (asked ++ [q]) earlier jti ↔
      RecordedAt window clock asked earlier jti ∨
        (earlier = asked ∧ jti = q ∧ memoryStore window clock asked q = .ok true) := by
  constructor
  · rintro ⟨⟨later, hsplit⟩, hfresh⟩
    rcases List.eq_nil_or_concat later with rfl | ⟨later, last, rfl⟩
    · obtain ⟨rfl, hq⟩ := List.append_inj' hsplit rfl
      cases hq
      exact .inr ⟨rfl, rfl, hfresh⟩
    · rw [List.concat_eq_append, ← List.cons_append, ← List.append_assoc] at hsplit
      obtain ⟨hasked, -⟩ := List.append_inj' hsplit rfl
      exact .inl ⟨⟨later, hasked⟩, hfresh⟩
  · rintro (⟨⟨later, rfl⟩, hfresh⟩ | ⟨rfl, rfl, hfresh⟩)
    · exact ⟨⟨later ++ [q], by simp⟩, hfresh⟩
    · exact ⟨⟨[], rfl⟩, hfresh⟩

variable (window) in
/-- What the store remembers at a time: the recordings whose window is not over. -/
theorem MemoryReplayStore.seen_iff (hclock : Monotone clock) (asked : List Str) (jti : Str)
    (now expiry : Int) (hnow : clock asked.length ≤ now) :
    ((after window clock asked).sweep now).seen jti = some expiry ↔
      ∃ earlier, RecordedAt window clock asked earlier jti ∧
        expiry = clock earlier.length + window ∧ now < expiry := by
  induction asked using List.reverseRecOn generalizing jti now expiry with
  | nil =>
      refine iff_of_false (fun h => nomatch h) ?_
      rintro ⟨earlier, ⟨⟨later, hsplit⟩, -⟩, -⟩
      cases earlier <;> cases hsplit
  | append_singleton asked q ih =>
      have hlast : clock asked.length ≤ now := by
        have : clock asked.length ≤ clock (asked ++ [q]).length := hclock (by simp)
        omega
      have hbefore := fun jti expiry => ih jti now expiry hlast
      rw [after_concat]
      simp only [recordedAt_concat]
      cases hseen : ((after window clock asked).sweep (clock asked.length)).seen q with
      | some kept =>
          -- not recorded: only the sweep is left
          have hstale : ¬memoryStore window clock asked q = .ok true := by
            rw [memoryStore_fresh_iff, hseen]
            nofun
          rw [check_seen hseen, sweep_sweep _ hlast, hbefore]
          constructor
          · rintro ⟨earlier, hrecorded, hexpiry⟩
            exact ⟨earlier, .inl hrecorded, hexpiry⟩
          · rintro ⟨earlier, hrecorded | ⟨-, -, hfresh⟩, hexpiry⟩
            · exact ⟨earlier, hrecorded, hexpiry⟩
            · exact absurd hfresh hstale
      | none =>
          have hfresh : memoryStore window clock asked q = .ok true := memoryStore_fresh_iff.mpr hseen
          rw [check_fresh hseen]
          by_cases hjti : jti = q
          · subst hjti
            -- an older recording would have been seen
            have hnone : ∀ earlier, RecordedAt window clock asked earlier jti →
                clock earlier.length + window ≤ clock asked.length := by
              intro earlier hrecorded
              by_contra hopen
              have hsome := (ih jti _ (clock earlier.length + window) le_rfl).mpr
                ⟨earlier, hrecorded, rfl, by omega⟩
              rw [hseen] at hsome
              cases hsome
            have hleft : ((MemoryReplayStore.mk (Function.update
                ((after window clock asked).sweep (clock asked.length)).seen jti
                  (some (clock asked.length + window)))).sweep now).seen jti = some expiry ↔
                expiry = clock asked.length + window ∧ now < expiry := by
              rw [sweep_seen]
              simp only [Function.update_self, Option.some.injEq]
              exact and_congr_left fun _ => eq_comm
            rw [hleft]
            constructor
            · rintro ⟨hexpiry, hopen⟩
              exact ⟨asked, .inr ⟨rfl, rfl, hfresh⟩, hexpiry, hopen⟩
            · rintro ⟨earlier, hrecorded | ⟨rfl, -, -⟩, hexpiry, hopen⟩
              · have := hnone earlier hrecorded
                omega
              · exact ⟨hexpiry, hopen⟩
          · have hother : ((MemoryReplayStore.mk (Function.update
                ((after window clock asked).sweep (clock asked.length)).seen q
                  (some (clock asked.length + window)))).sweep now).seen jti = some expiry ↔
                ((after window clock asked).sweep now).seen jti = some expiry := by
              rw [← sweep_sweep (after window clock asked) hlast, sweep_seen, sweep_seen]
              simp only [Function.update_of_ne hjti]
            rw [hother, hbefore]
            constructor
            · rintro ⟨earlier, hrecorded, hexpiry⟩
              exact ⟨earlier, .inl hrecorded, hexpiry⟩
            · rintro ⟨earlier, hrecorded | ⟨-, h, -⟩, hexpiry⟩
              · exact ⟨earlier, hrecorded, hexpiry⟩
              · exact absurd h hjti

/-- The store says "seen" exactly of what was recorded within the window. -/
theorem memoryStore_seen_iff (hclock : Monotone clock) (asked : List Str) (jti : Str) :
    memoryStore window clock asked jti = .ok false ↔ RecordedWithin window clock asked jti := by
  have hseen := fun expiry => MemoryReplayStore.seen_iff window hclock asked jti _ expiry le_rfl
  have hstale : memoryStore window clock asked jti = .ok false ↔
      ∃ expiry, ((MemoryReplayStore.after window clock asked).sweep (clock asked.length)).seen jti =
        some expiry := by
    unfold memoryStore
    cases h : ((MemoryReplayStore.after window clock asked).sweep (clock asked.length)).seen jti with
    | none =>
        rw [MemoryReplayStore.check_fresh h]
        exact iff_of_false (fun h => nomatch h) fun ⟨_, h⟩ => nomatch h
    | some expiry =>
        rw [MemoryReplayStore.check_seen h]
        exact iff_of_true rfl ⟨expiry, rfl⟩
  rw [hstale]
  constructor
  · rintro ⟨expiry, h⟩
    obtain ⟨earlier, hrecorded, rfl, hopen⟩ := (hseen expiry).mp h
    exact ⟨earlier, hrecorded, hopen⟩
  · rintro ⟨earlier, hrecorded, hopen⟩
    exact ⟨_, (hseen _).mpr ⟨earlier, hrecorded, rfl, hopen⟩⟩

end

end Axiam.Ssf
