import Axiam.Lib.Journal

/-!
# Recording what a program does

A program over a state may be run with a log and with clocks beside it, which it never reads to
decide what its state becomes.  `Erases m n` says that `m`, with the log and the clocks taken away,
is `n`: it comes to the same and leaves the same state.  So what is proved of the log of `m` is
said of the runs of `n`.
-/

namespace Axiam.Lib

/-- A state with a log, oldest entry first, and how often a clock beside it was read. -/
structure Recorded (σ ι : Type) where
  state : σ
  log : List ι := []
  ticks : Nat := 0

namespace Prog

variable {σ ε ι α β : Type}

/-- A program over the state alone. -/
def recorded (m : Prog σ ε α) : Prog (Recorded σ ι) ε α :=
  zoom Recorded.state (fun s r => { r with state := s }) m

/-- A check of the state leaves what is beside it alone. -/
theorem recorded_check {m : Prog σ ε α} (h : ∀ s, (m s).2 = s) (r : Recorded σ ι) :
    (recorded m r).2 = r := by
  show { r with state := (m r.state).2 } = r
  rw [h]

def record (entry : ι) : Prog (Recorded σ ι) ε Unit := modify fun r =>
  { r with log := r.log ++ [entry] }

/-- A reading of something outside the state. -/
def tick (f : Nat → β) : Prog (Recorded σ ι) ε β := fun r =>
  (.ok (f r.ticks), { r with ticks := r.ticks + 1 })

/-- Without the log and the clocks, `m` is `n`. -/
def Erases (m : Prog (Recorded σ ι) ε α) (n : Prog σ ε α) : Prop :=
  ∀ r, (m r).1 = (n r.state).1 ∧ (m r).2.state = (n r.state).2

/-- A program that returns and leaves the state alone. -/
def Silent (m : Prog (Recorded σ ι) ε α) : Prop := ∀ r, ∃ a t, m r = (.ok a, t) ∧ t.state = r.state

theorem record_silent (entry : ι) : Silent (record entry : Prog (Recorded σ ι) ε Unit) :=
  fun _ => ⟨_, _, rfl, rfl⟩

theorem read_silent : Silent (read : Prog (Recorded σ ι) ε (Recorded σ ι)) :=
  fun _ => ⟨_, _, rfl, rfl⟩

theorem tick_silent (f : Nat → β) : Silent (tick f : Prog (Recorded σ ι) ε β) :=
  fun _ => ⟨_, _, rfl, rfl⟩

namespace Silent

theorem ret (a : α) : Silent (pure a : Prog (Recorded σ ι) ε α) := fun _ => ⟨_, _, rfl, rfl⟩

theorem bind {m : Prog (Recorded σ ι) ε α} {k : α → Prog (Recorded σ ι) ε β} (hm : Silent m)
    (hk : ∀ a, Silent (k a)) : Silent (m >>= k) := by
  intro r
  obtain ⟨a, t, hrun, ht⟩ := hm r
  obtain ⟨b, u, hrun', hu⟩ := hk a t
  exact ⟨b, u, by rw [bind_run_ok hrun, hrun'], hu.trans ht⟩

/-- Whatever a handler would do, there is nothing to handle. -/
theorem handled {m : Prog (Recorded σ ι) ε α} (hm : Silent m)
    (h : ε → Prog (Recorded σ ι) ε α) : Silent (tryCatch m h) := by
  intro r
  obtain ⟨a, t, hrun, ht⟩ := hm r
  exact ⟨a, t, by rw [tryCatch_run, hrun], ht⟩

end Silent

namespace Erases

theorem recorded (m : Prog σ ε α) : Erases (recorded m : Prog (Recorded σ ι) ε α) m :=
  fun _ => ⟨rfl, rfl⟩

theorem ret (a : α) : Erases (pure a : Prog (Recorded σ ι) ε α) (pure a) := fun _ => ⟨rfl, rfl⟩

theorem raise (e : ε) : Erases (throw e : Prog (Recorded σ ι) ε α) (throw e) :=
  fun _ => ⟨rfl, rfl⟩

theorem lift (x : Except ε α) : Erases (Prog.lift x : Prog (Recorded σ ι) ε α) (Prog.lift x) :=
  fun _ => ⟨rfl, rfl⟩

theorem bind {m : Prog (Recorded σ ι) ε α} {n : Prog σ ε α} {k : α → Prog (Recorded σ ι) ε β}
    {l : α → Prog σ ε β} (hm : Erases m n) (hk : ∀ a, Erases (k a) (l a)) :
    Erases (m >>= k) (n >>= l) := by
  intro r
  obtain ⟨hout, hstate⟩ := hm r
  rw [bind_run, bind_run]
  rcases hrun : m r with ⟨e | a, t⟩ <;> rcases hrun' : n r.state with ⟨e' | a', s⟩ <;>
    rw [hrun, hrun'] at hout hstate <;> cases hout
  · exact ⟨rfl, hstate⟩
  · obtain rfl : t.state = s := hstate
    exact hk a t

/-- Reading the state and what is beside it. -/
theorem bind_read {k : Recorded σ ι → Prog (Recorded σ ι) ε β} {l : σ → Prog σ ε β}
    (hk : ∀ r, Erases (k r) (l r.state)) : Erases (read >>= k) (read >>= l) :=
  fun r => hk r r

/-- What is silent leaves nothing behind. -/
theorem bind_silent {m : Prog (Recorded σ ι) ε α} {k : α → Prog (Recorded σ ι) ε β}
    {n : Prog σ ε β} (hm : Silent m) (hk : ∀ a, Erases (k a) n) : Erases (m >>= k) n := by
  intro r
  obtain ⟨a, t, hrun, ht⟩ := hm r
  rw [bind_run_ok hrun, ← ht]
  exact hk a t

theorem of_silent {m : Prog (Recorded σ ι) ε Unit} (hm : Silent m) : Erases m (pure ()) := by
  intro r
  obtain ⟨_, t, hrun, ht⟩ := hm r
  rw [hrun]
  exact ⟨rfl, ht⟩

theorem congr {m : Prog (Recorded σ ι) ε α} {n n' : Prog σ ε α} (h : Erases m n)
    (heq : ∀ s, n s = n' s) : Erases m n' := by
  intro r
  rw [← heq]
  exact h r

theorem tryCatch {m : Prog (Recorded σ ι) ε α} {n : Prog σ ε α}
    {h : ε → Prog (Recorded σ ι) ε α} {g : ε → Prog σ ε α} (hm : Erases m n)
    (hh : ∀ e, Erases (h e) (g e)) : Erases (tryCatch m h) (tryCatch n g) := by
  intro r
  obtain ⟨hout, hstate⟩ := hm r
  rw [tryCatch_run, tryCatch_run]
  rcases hrun : m r with ⟨e | a, t⟩ <;> rcases hrun' : n r.state with ⟨e' | a', s⟩ <;>
    rw [hrun, hrun'] at hout hstate <;> cases hout
  · obtain rfl : t.state = s := hstate
    exact hh e t
  · exact ⟨rfl, hstate⟩

theorem ite {c : Prop} [Decidable c] {m m' : Prog (Recorded σ ι) ε α} {n n' : Prog σ ε α}
    (hm : Erases m n) (hm' : Erases m' n') :
    Erases (if c then m else m') (if c then n else n') := by
  by_cases hc : c
  · rw [if_pos hc, if_pos hc]
    exact hm
  · rw [if_neg hc, if_neg hc]
    exact hm'

end Erases

/-! ## What is written to the log -/

theorem recorded_keeps (m : Prog σ ε α) :
    Keeps Recorded.log (recorded m : Prog (Recorded σ ι) ε α) := fun _ => rfl

theorem tick_keeps (f : Nat → β) : Keeps Recorded.log (tick f : Prog (Recorded σ ι) ε β) :=
  fun _ => rfl

theorem record_writes (entry : ι) :
    Writes Recorded.log (record entry : Prog (Recorded σ ι) ε Unit) fun new r =>
      new = [entry] ∧ r = .ok () := fun _ => ⟨_, rfl, rfl, rfl⟩

end Prog

end Axiam.Lib
