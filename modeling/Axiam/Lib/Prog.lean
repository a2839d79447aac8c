import Mathlib.Data.List.Forall2

/-!
# Programs over a state that may throw

`Prog σ ε α` is a computation that reads and writes a state `σ` and either returns an
`α` or throws an `ε`.  What it wrote before a throw stays written, which is the
reading an object with mutable fields gives to exceptions.

The second half is the program logic: `Triple P m Q E` says that from every state in
`P` the program `m` either returns with `Q` or throws with `E`.  Every construct has
one rule, so that a proof about a program follows the program's text.
-/

namespace Axiam.Lib

/-- A sequence of results that returned: both halves returned. -/
theorem except_bind_eq_ok {ε α β : Type} {x : Except ε α} {f : α → Except ε β} {b : β} :
    (x >>= f) = .ok b ↔ ∃ a, x = .ok a ∧ f a = .ok b := by
  rcases x with e | a
  · simp [bind, Except.bind]
  · simp [bind, Except.bind]

/-- A computation over states `σ` that returns an `α` or throws an `ε`. -/
def Prog (σ ε α : Type) : Type := σ → Except ε α × σ

namespace Prog

variable {σ ε α β : Type}

/-- Return a value; the state is untouched. -/
def ret (a : α) : Prog σ ε α := fun s => (.ok a, s)

/-- Run `m`, then `f` on what it returned; a throw of `m` skips `f`. -/
def seq (m : Prog σ ε α) (f : α → Prog σ ε β) : Prog σ ε β := fun s =>
  match m s with
  | (.ok a, t) => f a t
  | (.error e, t) => (.error e, t)

/-- Throw; the state is untouched. -/
def raise (e : ε) : Prog σ ε α := fun s => (.error e, s)

/-- Run `m`; a throw is handed to `h`, in the state `m` left. -/
def handle (m : Prog σ ε α) (h : ε → Prog σ ε α) : Prog σ ε α := fun s =>
  match m s with
  | (.ok a, t) => (.ok a, t)
  | (.error e, t) => h e t

/-- The current state. -/
def read : Prog σ ε σ := fun s => (.ok s, s)

/-- Change the state. -/
def modify (f : σ → σ) : Prog σ ε Unit := fun s => (.ok (), f s)

/-- A computation that looks at no state. -/
def lift (x : Except ε α) : Prog σ ε α := fun s => (x, s)

/-- Run `m` on the part of a larger state that `get` reads and `set` writes. -/
def zoom {τ : Type} (get : τ → σ) (set : σ → τ → τ) (m : Prog σ ε α) : Prog τ ε α := fun t =>
  ((m (get t)).1, set (m (get t)).2 t)

/-- Run `m` with state of its own beside the state it is given. -/
def within {τ : Type} (enter : σ → τ) (leave : τ → σ) (m : Prog τ ε α) : Prog σ ε α := fun s =>
  ((m (enter s)).1, leave (m (enter s)).2)

instance : Monad (Prog σ ε) where
  pure := ret
  bind := seq

instance : MonadExcept ε (Prog σ ε) where
  throw := raise
  tryCatch := handle

/-- Run `f` on each element, first to last, until one throws. -/
def each {γ : Type} (f : γ → Prog σ ε β) : List γ → Prog σ ε (List β)
  | [] => pure []
  | x :: rest => do
      let y ← f x
      let ys ← each f rest
      pure (y :: ys)

section Run

variable (s : σ)

@[simp] theorem pure_run (a : α) : (pure a : Prog σ ε α) s = (.ok a, s) := rfl

@[simp] theorem throw_run (e : ε) : (throw e : Prog σ ε α) s = (.error e, s) := rfl

@[simp] theorem read_run : (read : Prog σ ε σ) s = (.ok s, s) := rfl

@[simp] theorem modify_run (f : σ → σ) : (modify f : Prog σ ε Unit) s = (.ok (), f s) := rfl

@[simp] theorem lift_run (x : Except ε α) : (lift x : Prog σ ε α) s = (x, s) := rfl

theorem bind_run (m : Prog σ ε α) (f : α → Prog σ ε β) :
    (m >>= f) s = match m s with
      | (.ok a, t) => f a t
      | (.error e, t) => (.error e, t) := rfl

/-- A bind whose first half returned is its second half. -/
theorem bind_run_ok {m : Prog σ ε α} {s t : σ} {a : α} (h : m s = (.ok a, t))
    (f : α → Prog σ ε β) : (m >>= f) s = f a t := by
  rw [bind_run, h]

/-- A bind whose first half threw threw. -/
theorem bind_run_error {m : Prog σ ε α} {s t : σ} {e : ε} (h : m s = (.error e, t))
    (f : α → Prog σ ε β) : (m >>= f) s = (.error e, t) := by
  rw [bind_run, h]

/-- A bind whose second half writes nothing ends where its first half does. -/
theorem bind_run_state {m : Prog σ ε α} {f : α → Prog σ ε β} (hf : ∀ a t, (f a t).2 = t) :
    ((m >>= f) s).2 = (m s).2 := by
  rw [bind_run]
  rcases m s with ⟨e | a, t⟩
  · rfl
  · exact hf a t

theorem bind_assoc_run {γ : Type} (p : Prog σ ε α) (f : α → Prog σ ε β) (g : β → Prog σ ε γ) :
    ((p >>= f) >>= g) s = (p >>= fun a => f a >>= g) s := by
  rw [bind_run, bind_run, bind_run]
  rcases p s with ⟨_ | a, t⟩ <;> rfl

/-- A bind whose second half looks at no state. -/
theorem bind_lift_run (m : Prog σ ε α) (f : α → Except ε β) :
    (m >>= fun a => lift (f a)) s = ((m s).1.bind f, (m s).2) := by
  rw [bind_run]
  rcases m s with ⟨_ | a, t⟩ <;> rfl

/-- A bind that returned: both halves returned. -/
theorem bind_eq_ok {m : Prog σ ε α} {f : α → Prog σ ε β} {s u : σ} {b : β} :
    (m >>= f) s = (.ok b, u) ↔ ∃ a t, m s = (.ok a, t) ∧ f a t = (.ok b, u) := by
  rw [bind_run]
  rcases hm : m s with ⟨_ | a, t⟩
  · simp
  · constructor
    · intro h
      exact ⟨a, t, rfl, h⟩
    · rintro ⟨a', t', heq, h⟩
      cases heq
      exact h

/-- A bind that threw: the first half threw, or it returned and the second threw. -/
theorem bind_eq_error {m : Prog σ ε α} {f : α → Prog σ ε β} {s u : σ} {e : ε} :
    (m >>= f) s = (.error e, u) ↔
      m s = (.error e, u) ∨ ∃ a t, m s = (.ok a, t) ∧ f a t = (.error e, u) := by
  rw [bind_run]
  rcases hm : m s with ⟨e' | a, t⟩
  · simp
  · constructor
    · intro h
      exact .inr ⟨a, t, rfl, h⟩
    · rintro (h | ⟨a', t', heq, h⟩)
      · cases h
      · cases heq
        exact h

theorem tryCatch_run (m : Prog σ ε α) (h : ε → Prog σ ε α) :
    (tryCatch m h) s = match m s with
      | (.ok a, t) => (.ok a, t)
      | (.error e, t) => h e t := rfl

end Run

/-! ## Pre- and postconditions -/

/-- From a state in `P`, `m` returns with `Q` or throws with `E`. -/
def Triple (P : σ → Prop) (m : Prog σ ε α) (Q : α → σ → Prop) (E : ε → σ → Prop) : Prop :=
  ∀ s, P s → match m s with
    | (.ok a, t) => Q a t
    | (.error e, t) => E e t

namespace Triple

variable {P P' : σ → Prop} {Q Q' : α → σ → Prop} {R : β → σ → Prop} {E E' : ε → σ → Prop}

theorem ok {m : Prog σ ε α} (h : Triple P m Q E) {s t : σ} {a : α} (hs : P s)
    (hrun : m s = (.ok a, t)) : Q a t := by
  have := h s hs
  rwa [hrun] at this

theorem error {m : Prog σ ε α} (h : Triple P m Q E) {s t : σ} {e : ε} (hs : P s)
    (hrun : m s = (.error e, t)) : E e t := by
  have := h s hs
  rwa [hrun] at this

theorem ret {a : α} (h : ∀ s, P s → Q a s) : Triple P (pure a : Prog σ ε α) Q E :=
  fun s hs => h s hs

theorem raise {e : ε} (h : ∀ s, P s → E e s) : Triple P (throw e : Prog σ ε α) Q E :=
  fun s hs => h s hs

theorem read {Q : σ → σ → Prop} (h : ∀ s, P s → Q s s) :
    Triple P (read : Prog σ ε σ) Q E :=
  fun s hs => h s hs

theorem modify {f : σ → σ} {Q : Unit → σ → Prop} (h : ∀ s, P s → Q () (f s)) :
    Triple P (Prog.modify f : Prog σ ε Unit) Q E :=
  fun s hs => h s hs

theorem lift {x : Except ε α} (hok : ∀ a s, x = .ok a → P s → Q a s)
    (herr : ∀ e s, x = .error e → P s → E e s) : Triple P (Prog.lift x) Q E := by
  intro s hs
  cases x with
  | ok a => exact hok a s rfl hs
  | error e => exact herr e s rfl hs

/-- The sequencing rule: `Q` is the assertion between the two halves. -/
theorem bind {m : Prog σ ε α} {f : α → Prog σ ε β} (hm : Triple P m Q E)
    (hf : ∀ a, Triple (Q a) (f a) R E) : Triple P (m >>= f) R E := by
  intro s hs
  rw [bind_run]
  have hmid := hm s hs
  rcases hrun : m s with ⟨e | a, t⟩
  · rw [hrun] at hmid
    exact hmid
  · rw [hrun] at hmid
    exact hf a t hmid

/-- The handler rule: the handler starts from what the throw established. -/
theorem tryCatch {m : Prog σ ε α} {h : ε → Prog σ ε α} (hm : Triple P m Q E')
    (hh : ∀ e, Triple (E' e) (h e) Q E) : Triple P (tryCatch m h) Q E := by
  intro s hs
  rw [tryCatch_run]
  have hmid := hm s hs
  rcases hrun : m s with ⟨e | a, t⟩
  · rw [hrun] at hmid
    exact hh e t hmid
  · rw [hrun] at hmid
    exact hmid

theorem ite {c : Prop} [Decidable c] {m n : Prog σ ε α} (hm : c → Triple P m Q E)
    (hn : ¬c → Triple P n Q E) : Triple P (if c then m else n) Q E := by
  by_cases hc : c
  · rw [if_pos hc]
    exact hm hc
  · rw [if_neg hc]
    exact hn hc

/-- The rule of consequence. -/
theorem weaken {m : Prog σ ε α} (h : Triple P m Q E) (hP : ∀ s, P' s → P s)
    (hQ : ∀ a s, Q a s → Q' a s) (hE : ∀ e s, E e s → E' e s) : Triple P' m Q' E' := by
  intro s hs
  have := h s (hP s hs)
  rcases hrun : m s with ⟨e | a, t⟩
  · rw [hrun] at this
    exact hE e t this
  · rw [hrun] at this
    exact hQ a t this

end Triple

/-! ## What a return implies -/

/-- From whatever state, if `m` returns then `R` holds of what it returned and left. -/
def Returns (m : Prog σ ε α) (R : α → σ → Prop) : Prop :=
  Triple (fun _ => True) m R fun _ _ => True

namespace Returns

variable {R : α → σ → Prop} {R' : β → σ → Prop}

theorem elim {m : Prog σ ε α} (h : Returns m R) {s t : σ} {a : α} (hrun : m s = (.ok a, t)) :
    R a t :=
  Triple.ok h (s := s) trivial hrun

/-- Nothing about the program is needed for what always holds. -/
theorem always {m : Prog σ ε α} (h : ∀ a s, R a s) : Returns m R := by
  intro s _
  rcases m s with ⟨e | a, t⟩
  · trivial
  · exact h a t

theorem ret {a : α} (h : ∀ s, R a s) : Returns (pure a : Prog σ ε α) R := fun s _ => h s

theorem raise (e : ε) : Returns (throw e : Prog σ ε α) R := fun _ _ => trivial

/-- Only the last program of a sequence decides what its return implies. -/
theorem seq {m : Prog σ ε α} {k : α → Prog σ ε β} (hk : ∀ a, Returns (k a) R') :
    Returns (m >>= k) R' := by
  intro s _
  rw [bind_run]
  rcases hrun : m s with ⟨e | a, t⟩
  · trivial
  · exact hk a t trivial

/-- A write that is the last thing done before the return. -/
theorem write {g : σ → σ} {a : α} (h : ∀ s, R a (g s)) :
    Returns (Prog.modify g >>= fun _ => pure a : Prog σ ε α) R := fun s _ => h s

theorem ite {c : Prop} [Decidable c] {m n : Prog σ ε α} (hm : c → Returns m R)
    (hn : ¬c → Returns n R) : Returns (if c then m else n) R :=
  Triple.ite hm hn

theorem bind {m : Prog σ ε α} {k : α → Prog σ ε β} (hm : Returns m R)
    (hk : ∀ a s, R a s → ∀ b t, k a s = (.ok b, t) → R' b t) : Returns (m >>= k) R' := by
  intro s _
  rw [bind_run]
  rcases hrun : m s with ⟨e | a, t⟩
  · trivial
  · simp only
    rcases hrun' : k a t with ⟨e | b, u⟩
    · trivial
    · exact hk a t (hm.elim hrun) b u hrun'

theorem lift {x : Except ε α} (h : ∀ a s, x = .ok a → R a s) : Returns (Prog.lift x) R := by
  intro s _
  cases x with
  | ok a => exact h a s rfl
  | error e => trivial

/-- What each element came to, when all of them returned. -/
theorem each {γ : Type} {f : γ → Prog σ ε β} {P : γ → β → Prop} {l : List γ}
    (h : ∀ x ∈ l, Returns (f x) fun y _ => P x y) :
    Returns (Prog.each f l) fun ys _ => List.Forall₂ P l ys := by
  induction l with
  | nil => exact ret fun _ => .nil
  | cons x rest ih =>
      have hrest := ih fun z hz => h z (List.mem_cons_of_mem x hz)
      refine bind (h x List.mem_cons_self) fun y s hy ys t hrun => ?_
      obtain ⟨zs, u, hzs, heq⟩ := bind_eq_ok.mp hrun
      cases heq
      exact .cons hy (hrest.elim hzs)

end Returns

/-! ## Frames -/

/-- Whatever `m` does, it leaves `f` of the state as it was. -/
def Keeps {τ : Type} (f : σ → τ) (m : Prog σ ε α) : Prop := ∀ s, f (m s).2 = f s

namespace Keeps

variable {τ : Type} {f : σ → τ}

theorem ret (a : α) : Keeps f (pure a : Prog σ ε α) := fun _ => rfl

theorem raise (e : ε) : Keeps f (throw e : Prog σ ε α) := fun _ => rfl

theorem read : Keeps f (read : Prog σ ε σ) := fun _ => rfl

theorem lift (x : Except ε α) : Keeps f (Prog.lift x : Prog σ ε α) := fun _ => rfl

theorem modify {g : σ → σ} (h : ∀ s, f (g s) = f s) :
    Keeps f (Prog.modify g : Prog σ ε Unit) := fun s => h s

theorem bind {m : Prog σ ε α} {k : α → Prog σ ε β} (hm : Keeps f m)
    (hk : ∀ a, Keeps f (k a)) : Keeps f (m >>= k) := by
  intro s
  rw [bind_run]
  have hfirst := hm s
  rcases hrun : m s with ⟨e | a, t⟩ <;> rw [hrun] at hfirst
  · exact hfirst
  · exact (hk a t).trans hfirst

theorem tryCatch {m : Prog σ ε α} {h : ε → Prog σ ε α} (hm : Keeps f m)
    (hh : ∀ e, Keeps f (h e)) : Keeps f (tryCatch m h) := by
  intro s
  rw [tryCatch_run]
  have hfirst := hm s
  rcases hrun : m s with ⟨e | a, t⟩ <;> rw [hrun] at hfirst
  · exact (hh e t).trans hfirst
  · exact hfirst

/-- What a program keeps may be assumed of its result. -/
theorem triple {m : Prog σ ε α} (h : Keeps f m) (x : τ) :
    Triple (fun s => f s = x) m (fun _ s => f s = x) fun _ _ => True := by
  intro s hs
  have hkeep := h s
  rcases hrun : m s with ⟨e | a, t⟩ <;> rw [hrun] at hkeep
  · trivial
  · exact hkeep.trans hs

/-- And of its exception. -/
theorem holds {m : Prog σ ε α} (h : Keeps f m) (x : τ) :
    Triple (fun s => f s = x) m (fun _ s => f s = x) fun _ s => f s = x := by
  intro s hs
  have hkeep := h s
  rcases hrun : m s with ⟨e | a, t⟩ <;> rw [hrun] at hkeep <;> exact hkeep.trans hs

theorem ite {c : Prop} [Decidable c] {m n : Prog σ ε α} (hm : Keeps f m) (hn : Keeps f n) :
    Keeps f (if c then m else n) := by
  by_cases hc : c
  · rw [if_pos hc]
    exact hm
  · rw [if_neg hc]
    exact hn

end Keeps

/-! ## Writes that are the last thing done -/

/-- A throw of `m` leaves `f` as it was; a return has moved it along `R`. -/
def Commits {τ : Type} (f : σ → τ) (m : Prog σ ε α) (R : α → τ → τ → Prop) : Prop :=
  ∀ s, match m s with
    | (.ok a, t) => R a (f s) (f t)
    | (.error _, t) => f t = f s

namespace Commits

variable {τ : Type} {f : σ → τ} {R : α → τ → τ → Prop} {R' : β → τ → τ → Prop}

theorem ok {m : Prog σ ε α} (h : Commits f m R) {s t : σ} {a : α} (hrun : m s = (.ok a, t)) :
    R a (f s) (f t) := by
  have hs := h s
  rwa [hrun] at hs

theorem error {m : Prog σ ε α} (h : Commits f m R) {s t : σ} {e : ε}
    (hrun : m s = (.error e, t)) : f t = f s := by
  have hs := h s
  rwa [hrun] at hs

/-- What is known of `f` at the start tells what it is at the end. -/
theorem holds {m : Prog σ ε α} (h : Commits f m R) (x : τ) :
    Triple (fun s => f s = x) m (fun a t => R a x (f t)) fun _ t => f t = x := by
  intro s hs
  have hm := h s
  rw [show f s = x from hs] at hm
  exact hm

theorem ret {a : α} (h : ∀ x, R a x x) : Commits f (pure a : Prog σ ε α) R := fun s => h (f s)

theorem raise (e : ε) : Commits f (throw e : Prog σ ε α) R := fun _ => rfl

/-- What leaves `f` alone has moved it nowhere. -/
theorem keeps {m : Prog σ ε α} (h : Keeps f m) (hR : ∀ a x, R a x x) : Commits f m R := by
  intro s
  have hs := h s
  rcases hrun : m s with ⟨e | a, t⟩ <;> rw [hrun] at hs
  · exact hs
  · show R a (f s) (f t)
    rw [show f t = f s from hs]
    exact hR a (f s)

/-- Only the end of a program writes. -/
theorem after {m : Prog σ ε α} {k : α → Prog σ ε β} (hm : Keeps f m)
    (hk : ∀ a, Commits f (k a) R') : Commits f (m >>= k) R' := by
  intro s
  rw [bind_run]
  have hfirst := hm s
  rcases hrun : m s with ⟨e | a, t⟩ <;> rw [hrun] at hfirst
  · exact hfirst
  · have hsame : f t = f s := hfirst
    have hrest := hk a t
    rw [hsame] at hrest
    exact hrest

/-- A reading of what is no part of the state. -/
theorem lifted {x : Except ε α} {k : α → Prog σ ε β} (hk : ∀ a, x = .ok a → Commits f (k a) R') :
    Commits f (Prog.lift x >>= k) R' := by
  cases x with
  | ok a => exact hk a rfl
  | error e => exact fun _ => rfl

/-- A write and the return after it. -/
theorem write {g : σ → σ} {a : α} (h : ∀ s, R a (f s) (f (g s))) :
    Commits f (Prog.modify g >>= fun _ => pure a : Prog σ ε α) R := fun s => h s

theorem ite {c : Prop} [Decidable c] {m n : Prog σ ε α} (hm : c → Commits f m R)
    (hn : ¬c → Commits f n R) : Commits f (if c then m else n) R := by
  by_cases hc : c
  · rw [if_pos hc]
    exact hm hc
  · rw [if_neg hc]
    exact hn hc

/-- The result may be renamed. -/
theorem map {w : α → β} {m : Prog σ ε α} (h : Commits f m fun a => R' (w a)) :
    Commits f (m >>= fun a => pure (w a)) R' := by
  intro s
  rw [bind_run]
  have hs := h s
  rcases hrun : m s with ⟨e | a, t⟩ <;> rw [hrun] at hs <;> exact hs

end Commits

end Prog

end Axiam.Lib
