import Mathlib.Data.List.Basic

/-!
# Runs of a labelled step relation

A component that acts one step at a time is a relation `step : σ → ι → σ → Prop`:
the state before, the label of the step (what came in and what went out) and the
state after.  A `Run` is a finite sequence of such steps, kept as the list of its
transitions, so that a property may speak about every state reached, about every
step taken, or about two steps and their order.

The rules below package the inductions over runs once:

* `Run.invariant` — what the start has and every step keeps, every state has;
* `Run.forall_steps` — what an invariant gives for one step, every step has;
* `Run.history` — what the steps taken so far owe to the state they led to;
* `Run.pairwise` — what a step owes to each step before it;
* `Run.follows_iff` — the states of a run, against a fold over its steps.
-/

namespace Axiam.Lib

/-- One transition of a run. -/
structure Transition (σ ι : Type) where
  pre : σ
  label : ι
  post : σ

/-- A finite run from one state to another, with the transitions it took. -/
inductive Run {σ ι : Type} (step : σ → ι → σ → Prop) :
    σ → List (Transition σ ι) → σ → Prop
  | nil (s : σ) : Run step s [] s
  | cons {s t u : σ} {l : ι} {rest : List (Transition σ ι)} :
      step s l t → Run step t rest u → Run step s (⟨s, l, t⟩ :: rest) u

namespace Run

variable {σ ι : Type} {step : σ → ι → σ → Prop}

/-- Every transition of a run is a step. -/
theorem steps {s u : σ} {trace : List (Transition σ ι)} (hrun : Run step s trace u) :
    ∀ t ∈ trace, step t.pre t.label t.post := by
  induction hrun with
  | nil _ => simp
  | cons hstep _ ih =>
      intro t ht
      rcases List.mem_cons.mp ht with rfl | ht
      · exact hstep
      · exact ih t ht

/-- A run of a stronger step relation is a run of a weaker one. -/
theorem mono {step' : σ → ι → σ → Prop} (himp : ∀ s l t, step s l t → step' s l t)
    {s u : σ} {trace : List (Transition σ ι)} (hrun : Run step s trace u) :
    Run step' s trace u := by
  induction hrun with
  | nil s => exact .nil s
  | cons hstep _ ih => exact .cons (himp _ _ _ hstep) ih

/-- A run whose transitions all have a property is a run of the steps that have it. -/
theorem restrict {P : Transition σ ι → Prop} {s u : σ} {trace : List (Transition σ ι)}
    (hrun : Run step s trace u) (hall : ∀ t ∈ trace, P t) :
    Run (fun s l t => step s l t ∧ P ⟨s, l, t⟩) s trace u := by
  induction hrun with
  | nil s => exact .nil s
  | cons hstep _ ih =>
      exact .cons ⟨hstep, hall _ List.mem_cons_self⟩
        (ih fun t ht => hall t (List.mem_cons_of_mem _ ht))

/-- Two runs, one after the other. -/
theorem append {s t u : σ} {first second : List (Transition σ ι)} (hfirst : Run step s first t)
    (hsecond : Run step t second u) : Run step s (first ++ second) u := by
  induction hfirst with
  | nil _ => exact hsecond
  | cons hstep _ ih => exact .cons hstep (ih hsecond)

/-- As many steps of `next` as are asked for, or as there are. -/
def play (next : σ → Option σ) : Nat → σ → List (Transition σ Unit) × σ
  | 0, s => ([], s)
  | n + 1, s =>
      match next s with
      | none => ([], s)
      | some t => (⟨s, (), t⟩ :: (play next n t).1, (play next n t).2)

theorem run_play {step : σ → Unit → σ → Prop} {next : σ → Option σ}
    (h : ∀ s t, next s = some t → step s () t) (n : Nat) (s : σ) :
    Run step s (play next n s).1 (play next n s).2 := by
  induction n generalizing s with
  | zero => exact .nil s
  | succ n ih =>
      unfold play
      cases hnext : next s with
      | none => exact .nil s
      | some t => exact .cons (h s t hnext) (ih t)

/-- The transitions of a step function along a list of labels. -/
def follow (f : σ → ι → σ) : σ → List ι → List (Transition σ ι)
  | _, [] => []
  | s, l :: rest => ⟨s, l, f s l⟩ :: follow f (f s l) rest

theorem run_follow {f : σ → ι → σ} (hstep : ∀ s l, step s l (f s l)) (s : σ) (labels : List ι) :
    Run step s (follow f s labels) (labels.foldl f s) := by
  induction labels generalizing s with
  | nil => exact .nil s
  | cons l rest ih => exact .cons (hstep s l) (ih (f s l))

/-- The invariant rule: what holds at the start and is kept by every step holds at
the end, and on both sides of every step. -/
theorem invariant {I : σ → Prop} (hkeep : ∀ s l t, I s → step s l t → I t)
    {s u : σ} {trace : List (Transition σ ι)} (hrun : Run step s trace u) (hinit : I s) :
    I u ∧ ∀ t ∈ trace, I t.pre ∧ I t.post := by
  induction hrun with
  | nil _ => exact ⟨hinit, by simp⟩
  | cons hstep _ ih =>
      have hnext := hkeep _ _ _ hinit hstep
      obtain ⟨hend, hrest⟩ := ih hnext
      refine ⟨hend, fun t ht => ?_⟩
      rcases List.mem_cons.mp ht with rfl | ht
      · exact ⟨hinit, hnext⟩
      · exact hrest t ht

/-- What an invariant gives for a single step holds of every step of a run. -/
theorem forall_steps {I : σ → Prop} {Q : Transition σ ι → Prop}
    (hkeep : ∀ s l t, I s → step s l t → I t)
    (hstep : ∀ s l t, I s → step s l t → Q ⟨s, l, t⟩)
    {s u : σ} {trace : List (Transition σ ι)} (hrun : Run step s trace u) (hinit : I s) :
    ∀ t ∈ trace, Q t := by
  intro t ht
  have hpre := ((hrun.invariant hkeep hinit).2 t ht).1
  exact hstep _ _ _ hpre (hrun.steps t ht)

/-- The history rule: `I past s` relates the transitions already taken to the state
they led to.  When each step keeps it, it holds at the end and before every step. -/
theorem history {I : List (Transition σ ι) → σ → Prop}
    (hkeep : ∀ past s l t, I past s → step s l t → I (past ++ [⟨s, l, t⟩]) t)
    {s u : σ} {trace : List (Transition σ ι)} (hrun : Run step s trace u)
    {past : List (Transition σ ι)} (hinit : I past s) :
    I (past ++ trace) u ∧
      ∀ earlier t later, trace = earlier ++ t :: later → I (past ++ earlier) t.pre := by
  induction hrun generalizing past with
  | nil _ =>
      refine ⟨by rwa [List.append_nil], fun earlier t later hsplit => ?_⟩
      cases earlier <;> cases hsplit
  | @cons s t u l rest hstep _ ih =>
      obtain ⟨hend, hbefore⟩ := ih (hkeep past s l t hinit hstep)
      refine ⟨by rwa [List.append_cons], fun earlier v later hsplit => ?_⟩
      cases earlier with
      | nil =>
          cases hsplit
          rwa [List.append_nil]
      | cons p earlier =>
          cases hsplit
          rw [List.append_cons]
          exact hbefore earlier v later rfl

/-- What an invariant of the past owes to the transitions of the past: when with every step
it stands in `R` to every earlier one, any two transitions of the run stand in `R`, the
earlier one first. -/
theorem pairwise {I : List (Transition σ ι) → σ → Prop}
    {R : Transition σ ι → Transition σ ι → Prop}
    (hkeep : ∀ past s l t, I past s → step s l t → I (past ++ [⟨s, l, t⟩]) t)
    (hrel : ∀ past s l t, I past s → step s l t → ∀ p ∈ past, R p ⟨s, l, t⟩)
    {s u : σ} {trace : List (Transition σ ι)} (hrun : Run step s trace u)
    (past : List (Transition σ ι)) (hinit : I past s) :
    trace.Pairwise R ∧ ∀ p ∈ past, ∀ t ∈ trace, R p t := by
  induction hrun generalizing past with
  | nil _ => exact ⟨.nil, by simp⟩
  | @cons s t u l rest hstep _ ih =>
      have hnext := hkeep past s l t hinit hstep
      obtain ⟨hpair, hcross⟩ := ih (past ++ [⟨s, l, t⟩]) hnext
      refine ⟨List.pairwise_cons.mpr ⟨fun v hv => ?_, hpair⟩, fun p hp v hv => ?_⟩
      · exact hcross ⟨s, l, t⟩ (by simp) v hv
      · rcases List.mem_cons.mp hv with rfl | hv
        · exact hrel past s l t hinit hstep p hp
        · exact hcross p (by simp [hp]) v hv

/-- The following rule: where `R` of a fold over the steps and the state is kept exactly by the
steps that have `P`, it holds in every state of the run exactly when all of them do. -/
theorem follows_iff {τ : Type} {g : τ → Transition σ ι → τ} {R : τ → σ → Prop}
    {P : Transition σ ι → Prop}
    (hstep : ∀ x s l t, R x s → step s l t → (R (g x ⟨s, l, t⟩) t ↔ P ⟨s, l, t⟩))
    {s u : σ} {trace : List (Transition σ ι)} (hrun : Run step s trace u) {x : τ} (hinit : R x s) :
    ((∀ earlier t later, trace = earlier ++ t :: later → R (earlier.foldl g x) t.pre) ∧
      R (trace.foldl g x) u) ↔ ∀ t ∈ trace, P t := by
  induction hrun generalizing x with
  | nil s =>
      refine iff_of_true ⟨fun earlier t later hsplit => ?_, hinit⟩ (fun t ht => nomatch ht)
      cases earlier <;> cases hsplit
  | @cons s t u l rest hfirst hrest ih =>
      constructor
      · rintro ⟨hstates, hend⟩
        -- the state after the first step is the first of the rest
        have hnext : R (g x ⟨s, l, t⟩) t := by
          cases hrest with
          | nil _ => exact hend
          | @cons _ v _ m rest _ _ => exact hstates [⟨s, l, t⟩] ⟨t, m, v⟩ rest rfl
        intro v hv
        rcases List.mem_cons.mp hv with rfl | hv
        · exact (hstep x s l t hinit hfirst).mp hnext
        · refine (ih hnext).mp ⟨fun earlier w later hsplit => ?_, hend⟩ v hv
          exact hstates (⟨s, l, t⟩ :: earlier) w later (congrArg _ hsplit)
      · intro hall
        have hnext := (hstep x s l t hinit hfirst).mpr (hall _ List.mem_cons_self)
        obtain ⟨hstates, hend⟩ := (ih hnext).mpr fun v hv => hall v (List.mem_cons_of_mem _ hv)
        refine ⟨fun earlier w later hsplit => ?_, hend⟩
        cases earlier with
        | nil =>
            cases hsplit
            exact hinit
        | cons p earlier =>
            cases hsplit
            exact hstates earlier w later rfl

/-- A part of the state that follows a fold over the steps is that fold. -/
theorem tracks_iff {τ : Type} {f : σ → τ} {g : τ → Transition σ ι → τ} {P : Transition σ ι → Prop}
    (hstep : ∀ s l t, step s l t → (f t = g (f s) ⟨s, l, t⟩ ↔ P ⟨s, l, t⟩))
    {s u : σ} {trace : List (Transition σ ι)} (hrun : Run step s trace u) :
    ((∀ earlier t later, trace = earlier ++ t :: later → f t.pre = earlier.foldl g (f s)) ∧
      f u = trace.foldl g (f s)) ↔ ∀ t ∈ trace, P t := by
  refine hrun.follows_iff (R := fun x s => f s = x) (fun x s l t hx hs => ?_) rfl
  rw [← hx]
  exact hstep s l t hs

end Run

end Axiam.Lib
