import Axiam.Lib.Prog

/-!
# Programs that write a journal

A state may keep a journal of what a program does.  `Writes f m Q` says that from whatever state
`m` adds entries at the end of the journal `f` reads, and that `Q` relates these entries to what
`m` came to.  In the sequencing rule the second half is judged by what it adds to the entries of
the first, so that a relation between a whole journal and a whole outcome is proved along the
program's text.
-/

namespace Axiam.Lib.Prog

variable {σ ε ι α β : Type}

/-- The entries `m` adds to the journal, related to what it comes to. -/
def Writes (f : σ → List ι) (m : Prog σ ε α) (Q : List ι → Except ε α → Prop) : Prop :=
  ∀ s, ∃ new, f (m s).2 = f s ++ new ∧ Q new (m s).1

namespace Writes

variable {f : σ → List ι} {Q : List ι → Except ε α → Prop} {R : List ι → Except ε β → Prop}

theorem elim {m : Prog σ ε α} (h : Writes f m Q) {s t : σ} {r : Except ε α} (hrun : m s = (r, t)) :
    ∃ new, f t = f s ++ new ∧ Q new r := by
  have hs := h s
  rwa [hrun] at hs

/-- What leaves the journal alone adds nothing to it. -/
theorem keeps {m : Prog σ ε α} (h : Keeps f m) (hQ : ∀ s, Q [] (m s).1) : Writes f m Q := by
  intro s
  exact ⟨[], by rw [h s, List.append_nil], hQ s⟩

theorem ret {a : α} (h : Q [] (.ok a)) : Writes f (pure a : Prog σ ε α) Q :=
  keeps (Keeps.ret a) fun _ => h

theorem raise {e : ε} (h : Q [] (.error e)) : Writes f (throw e : Prog σ ε α) Q :=
  keeps (Keeps.raise e) fun _ => h

theorem lift {x : Except ε α} (h : Q [] x) : Writes f (Prog.lift x) Q :=
  keeps (Keeps.lift x) fun _ => h

theorem ite {c : Prop} [Decidable c] {m n : Prog σ ε α} (hm : c → Writes f m Q)
    (hn : ¬c → Writes f n Q) : Writes f (if c then m else n) Q := by
  by_cases hc : c
  · rw [if_pos hc]
    exact hm hc
  · rw [if_neg hc]
    exact hn hc

theorem weaken {Q' : List ι → Except ε α → Prop} {m : Prog σ ε α} (h : Writes f m Q)
    (hQ : ∀ new r, Q new r → Q' new r) : Writes f m Q' := by
  intro s
  obtain ⟨new, hnew, hs⟩ := h s
  exact ⟨new, hnew, hQ new _ hs⟩

/-- A part of the journal that is put together as the whole is. -/
theorem along {κ : Type} {g : List ι → List κ} (hg : ∀ a b, g (a ++ b) = g a ++ g b)
    {m : Prog σ ε α} (h : Writes f m Q) :
    Writes (fun s => g (f s)) m fun new r => ∃ log, new = g log ∧ Q log r := by
  intro s
  obtain ⟨new, hnew, hs⟩ := h s
  refine ⟨g new, ?_, new, rfl, hs⟩
  show g (f (m s).2) = g (f s) ++ g new
  rw [hnew, hg]

/-- What is known of every outcome of `m` besides. -/
theorem and {C : Except ε α → Prop} {m : Prog σ ε α} (h : Writes f m Q) (hC : ∀ s, C (m s).1) :
    Writes f m fun new r => Q new r ∧ C r := by
  intro s
  obtain ⟨new, hnew, hs⟩ := h s
  exact ⟨new, hnew, hs, hC s⟩

/-- The sequencing rule: the second half adds to what the first has written. -/
theorem bind {m : Prog σ ε α} {k : α → Prog σ ε β} (hm : Writes f m Q)
    (herror : ∀ new e, Q new (.error e) → R new (.error e))
    (hok : ∀ new a, Q new (.ok a) → Writes f (k a) fun more r => R (new ++ more) r) :
    Writes f (m >>= k) R := by
  intro s
  rw [bind_run]
  rcases hrun : m s with ⟨e | a, t⟩
  · obtain ⟨new, hnew, hs⟩ := hm.elim hrun
    exact ⟨new, hnew, herror new e hs⟩
  · obtain ⟨new, hnew, hs⟩ := hm.elim hrun
    obtain ⟨more, hmore, ht⟩ := hok new a hs t
    refine ⟨new ++ more, ?_, ht⟩
    show f (k a t).2 = f s ++ (new ++ more)
    rw [hmore, hnew, List.append_assoc]

/-- The handler rule: the handler adds to what was written before the throw. -/
theorem tryCatch {Q' : List ι → Except ε α → Prop} {m : Prog σ ε α} {h : ε → Prog σ ε α}
    (hm : Writes f m Q) (hok : ∀ new a, Q new (.ok a) → Q' new (.ok a))
    (hh : ∀ new e, Q new (.error e) → Writes f (h e) fun more r => Q' (new ++ more) r) :
    Writes f (tryCatch m h) Q' := by
  intro s
  rw [tryCatch_run]
  rcases hrun : m s with ⟨e | a, t⟩
  · obtain ⟨new, hnew, hs⟩ := hm.elim hrun
    obtain ⟨more, hmore, ht⟩ := hh new e hs t
    refine ⟨new ++ more, ?_, ht⟩
    show f (h e t).2 = f s ++ (new ++ more)
    rw [hmore, hnew, List.append_assoc]
  · obtain ⟨new, hnew, hs⟩ := hm.elim hrun
    exact ⟨new, hnew, hok new a hs⟩

/-- A first half that leaves the journal alone. -/
theorem bind_keeps {m : Prog σ ε α} {k : α → Prog σ ε β} (hm : Keeps f m)
    (herror : ∀ s e, (m s).1 = .error e → R [] (.error e))
    (hok : ∀ s a, (m s).1 = .ok a → Writes f (k a) R) : Writes f (m >>= k) R := by
  have hm : Writes f m fun new r => new = [] ∧ ∃ s, (m s).1 = r :=
    keeps hm fun s => ⟨rfl, s, rfl⟩
  refine hm.bind ?_ ?_
  · rintro _ e ⟨rfl, s, hs⟩
    exact herror s e hs
  · rintro _ a ⟨rfl, s, hs⟩
    exact hok s a hs

end Writes

/-! ## What is refused at once -/

/-- What `m` writes where `ready` holds; elsewhere it writes nothing and throws. -/
def WritesIf (f : σ → List ι) (m : Prog σ ε α) (ready : σ → Prop)
    (Q : List ι → Except ε α → Prop) : Prop :=
  ∀ s, ∃ new, f (m s).2 = f s ++ new ∧ (ready s → Q new (m s).1) ∧
    (¬ready s → new = [] ∧ ∃ e, (m s).1 = .error e)

namespace WritesIf

variable {f : σ → List ι} {ready ready' : σ → Prop} {Q : List ι → Except ε α → Prop}
  {R : List ι → Except ε β → Prop} {m : Prog σ ε α} {k : α → Prog σ ε β}

theorem of_writes (h : Writes f m Q) : WritesIf f m (fun _ => True) Q := by
  intro s
  obtain ⟨new, hnew, hs⟩ := h s
  exact ⟨new, hnew, fun _ => hs, fun hnot => absurd trivial hnot⟩

theorem refused (e : ε) : WritesIf f (throw e : Prog σ ε α) (fun _ => False) Q :=
  fun _ => ⟨[], (List.append_nil _).symm, False.elim, fun _ => ⟨rfl, e, rfl⟩⟩

theorem congr (h : WritesIf f m ready Q) (hready : ∀ s, ready s ↔ ready' s) :
    WritesIf f m ready' Q := by
  intro s
  obtain ⟨new, hnew, hdone, hrefused⟩ := h s
  exact ⟨new, hnew, fun hs => hdone ((hready s).mpr hs), fun hs => hrefused (mt (hready s).mp hs)⟩

theorem weaken {Q' : List ι → Except ε α → Prop} (h : WritesIf f m ready Q)
    (hQ : ∀ new r, Q new r → Q' new r) : WritesIf f m ready Q' := by
  intro s
  obtain ⟨new, hnew, hdone, hrefused⟩ := h s
  exact ⟨new, hnew, fun hs => hQ new _ (hdone hs), hrefused⟩

/-- A check that leaves the state alone comes before the rest. -/
theorem check {pass : σ → Prop} (hm : ∀ s, (m s).2 = s)
    (hpass : ∀ s, pass s ↔ ∃ a, (m s).1 = .ok a) (hk : ∀ a, WritesIf f (k a) ready R) :
    WritesIf f (m >>= k) (fun s => pass s ∧ ready s) R := by
  intro s
  have hleft := hm s
  rw [bind_run]
  rcases hrun : m s with ⟨e | a, t⟩ <;> rw [hrun] at hleft <;> obtain rfl : t = s := hleft
  · refine ⟨[], (List.append_nil _).symm, fun hs => ?_, fun _ => ⟨rfl, e, rfl⟩⟩
    obtain ⟨a, ha⟩ := (hpass t).mp hs.1
    rw [hrun] at ha
    cases ha
  · obtain ⟨new, hnew, hdone, hrefused⟩ := hk a t
    have ht : pass t := (hpass t).mpr ⟨a, by rw [hrun]⟩
    exact ⟨new, hnew, fun hs => hdone hs.2, fun hs => hrefused fun hready => hs ⟨ht, hready⟩⟩

/-- A value computed outside the state is such a check. -/
theorem check_lift {x : Except ε α} (hk : ∀ a, x = .ok a → WritesIf f (k a) ready R) :
    WritesIf f (Prog.lift x >>= k) (fun s => (∃ a, x = .ok a) ∧ ready s) R := by
  cases x with
  | error e =>
      intro s
      refine ⟨[], (List.append_nil _).symm, ?_, fun _ => ⟨rfl, e, rfl⟩⟩
      rintro ⟨⟨a, ha⟩, -⟩
      cases ha
  | ok a =>
      exact (hk a rfl).congr fun s => ⟨fun hs => ⟨⟨a, rfl⟩, hs⟩, fun hs => hs.2⟩

theorem read {k : σ → Prog σ ε α} (hk : ∀ s, WritesIf f (k s) (fun _ => ready s) Q) :
    WritesIf f (Prog.read >>= k) ready Q := fun s => hk s s

theorem ite {c : Prop} [Decidable c] {n : Prog σ ε α} (hm : c → WritesIf f m ready Q)
    (hn : ¬c → WritesIf f n ready Q) : WritesIf f (if c then m else n) ready Q := by
  by_cases hc : c
  · rw [if_pos hc]
    exact hm hc
  · rw [if_neg hc]
    exact hn hc

/-- The sequencing rule: the second half adds to what the first has written. -/
theorem bind (hm : WritesIf f m ready Q) (herror : ∀ new e, Q new (.error e) → R new (.error e))
    (hok : ∀ new a, Q new (.ok a) → Writes f (k a) fun more r => R (new ++ more) r) :
    WritesIf f (m >>= k) ready R := by
  intro s
  obtain ⟨new, hnew, hdone, hrefused⟩ := hm s
  rw [bind_run]
  rcases hrun : m s with ⟨e | a, t⟩ <;> rw [hrun] at hnew hdone hrefused
  · exact ⟨new, hnew, fun hs => herror new e (hdone hs), fun hs => ⟨(hrefused hs).1, e, rfl⟩⟩
  by_cases hs : ready s
  · obtain ⟨more, hmore, ht⟩ := hok new a (hdone hs) t
    refine ⟨new ++ more, ?_, fun _ => ht, fun hnot => absurd hs hnot⟩
    show f (k a t).2 = f s ++ (new ++ more)
    rw [hmore, hnew, List.append_assoc]
  · obtain ⟨-, e, he⟩ := hrefused hs
    cases he

end WritesIf

/-! ## At most one entry -/

/-- Either nothing was written and the program threw, or one entry was, and it has `p`. -/
def Once (p : ι → Prop) (new : List ι) (r : Except ε α) : Prop :=
  (new = [] ∧ ∃ e, r = .error e) ∨ ∃ x, new = [x] ∧ p x

namespace Writes

variable {f : σ → List ι} {p : ι → Prop} {m : Prog σ ε α} {k : α → Prog σ ε β}

theorem once_raise (e : ε) : Writes f (throw e : Prog σ ε α) (Once p) := raise (.inl ⟨rfl, e, rfl⟩)

theorem once_before (hm : Keeps f m) (hk : ∀ s a, (m s).1 = .ok a → Writes f (k a) (Once p)) :
    Writes f (m >>= k) (Once p) :=
  bind_keeps hm (fun _ e _ => .inl ⟨rfl, e, rfl⟩) hk

theorem once_after (hm : Writes f m (Once p)) (hk : ∀ a, Keeps f (k a)) :
    Writes f (m >>= k) (Once p) := by
  refine hm.bind ?_ ?_
  · rintro new e (⟨rfl, -⟩ | hwritten)
    · exact .inl ⟨rfl, e, rfl⟩
    · exact .inr hwritten
  · rintro new a (⟨-, e, he⟩ | ⟨x, rfl, hx⟩)
    · cases he
    · exact keeps (hk a) fun _ => .inr ⟨x, rfl, hx⟩

end Writes

end Axiam.Lib.Prog

namespace Axiam.Lib

/-- What one journal after the other has of another, they have together. -/
theorem sublist_flatMap {α β : Type} {f g : α → List β} {l : List α}
    (h : ∀ x ∈ l, (f x).Sublist (g x)) : (l.flatMap f).Sublist (l.flatMap g) := by
  induction l with
  | nil => exact .slnil
  | cons x rest ih =>
      rw [List.flatMap_cons, List.flatMap_cons]
      exact (h x List.mem_cons_self).append (ih fun y hy => h y (List.mem_cons_of_mem _ hy))

end Axiam.Lib
