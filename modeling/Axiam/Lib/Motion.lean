import Axiam.Lib.Prog
import Mathlib.Logic.Relation

/-!
# Programs that change a state by known steps

`Moves T m` says that `m` takes the state from where it is by changes of the relation `T`, each after
the other, whether it returns or throws.  What every such change keeps, `m` keeps.
-/

namespace Axiam.Lib.Prog

open Relation

variable {σ ε α β : Type}

/-- `m` changes the state by steps of `T` only. -/
def Moves (T : σ → σ → Prop) (m : Prog σ ε α) : Prop := ∀ s, ReflTransGen T s (m s).2

namespace Moves

variable {T : σ → σ → Prop}

theorem ret (a : α) : Moves T (pure a : Prog σ ε α) := fun _ => .refl

theorem raise (e : ε) : Moves T (throw e : Prog σ ε α) := fun _ => .refl

theorem read : Moves T (read : Prog σ ε σ) := fun _ => .refl

theorem lift (x : Except ε α) : Moves T (Prog.lift x : Prog σ ε α) := fun _ => .refl

/-- A write that is one of the changes. -/
theorem modify {g : σ → σ} (h : ∀ s, T s (g s)) : Moves T (Prog.modify g : Prog σ ε Unit) :=
  fun s => .single (h s)

/-- One change, whatever comes of it. -/
theorem step {m : Prog σ ε α} (h : ∀ s, T s (m s).2) : Moves T m := fun s => .single (h s)

theorem bind {m : Prog σ ε α} {k : α → Prog σ ε β} (hm : Moves T m) (hk : ∀ a, Moves T (k a)) :
    Moves T (m >>= k) := by
  intro s
  have hs := hm s
  rw [bind_run]
  rcases hrun : m s with ⟨e | a, t⟩
  · rw [hrun] at hs
    exact hs
  · rw [hrun] at hs
    exact hs.trans (hk a t)

theorem tryCatch {m : Prog σ ε α} {h : ε → Prog σ ε α} (hm : Moves T m) (hh : ∀ e, Moves T (h e)) :
    Moves T (tryCatch m h) := by
  intro s
  have hs := hm s
  rw [tryCatch_run]
  rcases hrun : m s with ⟨e | a, t⟩
  · rw [hrun] at hs
    exact hs.trans (hh e t)
  · rw [hrun] at hs
    exact hs

theorem ite {c : Prop} [Decidable c] {m n : Prog σ ε α} (hm : Moves T m) (hn : Moves T n) :
    Moves T (if c then m else n) := by
  by_cases hc : c
  · rw [if_pos hc]
    exact hm
  · rw [if_neg hc]
    exact hn

/-- What every change keeps. -/
theorem keep {m : Prog σ ε α} (h : Moves T m) {P : σ → Prop} (hT : ∀ s t, T s t → P s → P t)
    {s : σ} (hs : P s) : P (m s).2 := by
  have hmoves := h s
  generalize (m s).2 = u at hmoves
  induction hmoves with
  | refl => exact hs
  | tail _ hstep ih => exact hT _ _ hstep ih

end Moves

end Axiam.Lib.Prog
