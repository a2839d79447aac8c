import Axiam.Lib.Prog

/-!
# Programs that keep a log

A state may hold a log of what a program did in it.  `Logged L C m` says that `m` only adds to
the log, that each entry it adds satisfies `C`, and that it ends in a *fatal* error exactly when
it added a *bad* entry.  So whether a program survives can be read off its log, whatever it
makes of the errors that are not fatal.
-/

namespace Axiam.Lib.Prog

/-- A log in a state: its entries, the bad ones, and the errors a bad one ends in. -/
structure Log (σ ε ι : Type) where
  entries : σ → List ι
  bad : ι → Prop
  fatal : ε → Prop

/-- An outcome that is a fatal error. -/
def Log.Dies {σ ε ι α : Type} (L : Log σ ε ι) (r : Except ε α) : Prop :=
  ∃ e, r = .error e ∧ L.fatal e

section

variable {σ ε ι α β : Type} (L : Log σ ε ι) (C : ι → Prop)

/-- The entries added between two states, and what they say about the outcome. -/
def Added (s : σ) (r : Except ε α) (t : σ) : Prop := ∃ new, L.entries t = L.entries s ++ new ∧
  (∀ x ∈ new, C x) ∧ (L.Dies r ↔ ∃ x ∈ new, L.bad x)

/-- What `m` adds from any state. -/
def Logged (m : Prog σ ε α) : Prop := ∀ s, Added L C s (m s).1 (m s).2

end

section

variable {σ ε ι α β : Type} {L : Log σ ε ι} {C : ι → Prop}

theorem Log.not_dies_ok (a : α) : ¬L.Dies (.ok a : Except ε α) := by
  rintro ⟨e, h, -⟩
  cases h

theorem Log.dies_error (e : ε) : L.Dies (.error e : Except ε α) ↔ L.fatal e := by
  constructor
  · rintro ⟨e', h, hfatal⟩
    cases h
    exact hfatal
  · intro h
    exact ⟨e, rfl, h⟩

/-- Two stretches of a run, the first of which survived. -/
theorem Added.trans {s t u : σ} {r : Except ε α} {r' : Except ε β} (h : Added L C s r t)
    (halive : ¬L.Dies r) (h' : Added L C t r' u) : Added L C s r' u := by
  obtain ⟨new, hlog, hC, hdies⟩ := h
  obtain ⟨new', hlog', hC', hdies'⟩ := h'
  refine ⟨new ++ new', by rw [hlog', hlog, List.append_assoc], ?_, ?_⟩
  · intro x hx
    rcases List.mem_append.mp hx with hx | hx
    · exact hC x hx
    · exact hC' x hx
  · rw [hdies']
    constructor
    · rintro ⟨x, hx, hbad⟩
      exact ⟨x, List.mem_append_right _ hx, hbad⟩
    · rintro ⟨x, hx, hbad⟩
      rcases List.mem_append.mp hx with hx | hx
      · exact absurd (hdies.mpr ⟨x, hx, hbad⟩) halive
      · exact ⟨x, hx, hbad⟩

namespace Logged

/-- A program that adds nothing and does not die. -/
theorem silent {m : Prog σ ε α} (hlog : ∀ s, L.entries (m s).2 = L.entries s)
    (halive : ∀ s, ¬L.Dies (m s).1) : Logged L C m := by
  intro s
  refine ⟨[], by rw [hlog, List.append_nil], by simp, ?_⟩
  simp [halive s]

theorem ret (a : α) : Logged L C (pure a : Prog σ ε α) :=
  silent (fun _ => rfl) fun _ => Log.not_dies_ok a

theorem raise {e : ε} (h : ¬L.fatal e) : Logged L C (throw e : Prog σ ε α) :=
  silent (fun _ => rfl) fun _ hdies => h ((Log.dies_error e).mp hdies)

theorem read : Logged L C (read : Prog σ ε σ) :=
  silent (fun _ => rfl) fun s => Log.not_dies_ok s

theorem modify {g : σ → σ} (h : ∀ s, L.entries (g s) = L.entries s) :
    Logged L C (Prog.modify g : Prog σ ε Unit) :=
  silent h fun _ => Log.not_dies_ok ()

theorem bind {m : Prog σ ε α} {k : α → Prog σ ε β} (hm : Logged L C m)
    (hk : ∀ a, Logged L C (k a)) : Logged L C (m >>= k) := by
  intro s
  have hfirst := hm s
  rw [bind_run]
  rcases hrun : m s with ⟨e | a, t⟩ <;> rw [hrun] at hfirst
  · obtain ⟨new, hlog, hC, hdies⟩ := hfirst
    exact ⟨new, hlog, hC, by rwa [Log.dies_error] at hdies ⊢⟩
  · exact hfirst.trans (Log.not_dies_ok a) (hk a t)

/-- A handler that lets every fatal error pass. -/
theorem tryCatch {m : Prog σ ε α} {h : ε → Prog σ ε α} (hm : Logged L C m)
    (hpass : ∀ e, L.fatal e → h e = throw e) (hh : ∀ e, ¬L.fatal e → Logged L C (h e)) :
    Logged L C (tryCatch m h) := by
  intro s
  have hfirst := hm s
  rw [tryCatch_run]
  rcases hrun : m s with ⟨e | a, t⟩ <;> rw [hrun] at hfirst
  · by_cases hfatal : L.fatal e
    · simp only [hpass e hfatal]
      exact hfirst
    · have halive : ¬L.Dies (.error e : Except ε α) := fun h => hfatal ((Log.dies_error e).mp h)
      exact hfirst.trans halive (hh e hfatal t)
  · exact hfirst

theorem ite {c : Prop} [Decidable c] {m n : Prog σ ε α} (hm : Logged L C m)
    (hn : Logged L C n) : Logged L C (if c then m else n) := by
  by_cases hc : c
  · rw [if_pos hc]
    exact hm
  · rw [if_neg hc]
    exact hn

/-- The entries may be said to be less. -/
theorem weaken {C' : ι → Prop} {m : Prog σ ε α} (h : Logged L C m) (hC : ∀ x, C x → C' x) :
    Logged L C' m := by
  intro s
  obtain ⟨new, hlog, hnew, hdies⟩ := h s
  exact ⟨new, hlog, fun x hx => hC x (hnew x hx), hdies⟩

end Logged

end

end Axiam.Lib.Prog
