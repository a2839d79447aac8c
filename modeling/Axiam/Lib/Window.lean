import Mathlib.Data.List.Basic
import Mathlib.Algebra.Order.Group.Int

/-!
# Events in a window of time

Moments as integers, a log of moments as a list, and how many of a log fall into a half-open
window.  Moments that stand a span apart are at most one to a window of that span.
-/

namespace Axiam.Lib

/-- The moments of a log in the window of length `span` that opens at `start`. -/
def inWindow (start span : Int) (log : List Int) : List Int :=
  log.filter fun a => start ≤ a && a < start + span

/-- Every moment stands at least `span` after each one before it. -/
def Spaced (span : Int) (log : List Int) : Prop := log.Pairwise fun a b => a + span ≤ b

theorem mem_inWindow {start span a : Int} {log : List Int} :
    a ∈ inWindow start span log ↔ a ∈ log ∧ start ≤ a ∧ a < start + span := by
  unfold inWindow
  rw [List.mem_filter, Bool.and_eq_true, decide_eq_true_eq, decide_eq_true_eq]

theorem inWindow_append (start span : Int) (log log' : List Int) :
    inWindow start span (log ++ log') = inWindow start span log ++ inWindow start span log' :=
  List.filter_append ..

/-- Two moments of one window are closer than its span. -/
theorem Spaced.inWindow_length {span : Int} {log : List Int} (h : Spaced span log) (start : Int) :
    (inWindow start span log).length ≤ 1 := by
  have hpair : Spaced span (inWindow start span log) := h.sublist List.filter_sublist
  rcases hlog : inWindow start span log with _ | ⟨a, _ | ⟨b, rest⟩⟩
  · simp
  · simp
  · exfalso
    have ha : a ∈ inWindow start span log := by simp [hlog]
    have hb : b ∈ inWindow start span log := by simp [hlog]
    rw [hlog] at hpair
    have hapart := (List.pairwise_cons.mp hpair).1 b List.mem_cons_self
    rw [mem_inWindow] at ha hb
    omega

/-- A log made of two, step by step, has in every window what the two have. -/
theorem inWindow_flatMap_length {τ : Type} (start span : Int) (f g : τ → List Int)
    (steps : List τ) :
    (inWindow start span (steps.flatMap fun t => f t ++ g t)).length =
      (inWindow start span (steps.flatMap f)).length +
        (inWindow start span (steps.flatMap g)).length := by
  induction steps with
  | nil => rfl
  | cons t rest ih =>
      simp only [List.flatMap_cons, inWindow_append, List.length_append, ih]
      omega

/-- Steps of at most one moment each, every later one a span after, are spaced. -/
theorem spaced_flatMap {τ : Type} {span : Int} {f : τ → List Int} {steps : List τ}
    (hone : ∀ t ∈ steps, (f t).length ≤ 1)
    (hpair : steps.Pairwise fun p t => ∀ a ∈ f p, ∀ b ∈ f t, a + span ≤ b) :
    Spaced span (steps.flatMap f) := by
  induction steps with
  | nil => exact List.Pairwise.nil
  | cons t rest ih =>
      obtain ⟨hfirst, hrest⟩ := List.pairwise_cons.mp hpair
      rw [List.flatMap_cons]
      refine List.pairwise_append.mpr ⟨?_, ?_, ?_⟩
      · have hlength := hone t List.mem_cons_self
        rcases hf : f t with _ | ⟨a, _ | ⟨b, l⟩⟩
        · exact List.Pairwise.nil
        · exact List.pairwise_singleton _ a
        · rw [hf] at hlength
          simp at hlength
      · exact ih (fun u hu => hone u (List.mem_cons_of_mem t hu)) hrest
      · intro a ha b hb
        obtain ⟨u, hu, hbu⟩ := List.mem_flatMap.mp hb
        exact hfirst u hu a ha b hbu

end Axiam.Lib
