import Mathlib.Data.List.Basic

/-!
# Codes read from the front

An encoding of values as lists is *prompt* when a reader that starts at the front of a text knows
where the code of the first value ends: whatever follows two codes, equal texts begin with codes
of equal values.  Prompt encodings can be put one after the other, and a text put together from
them is read back in one way only.

* `Prompt.seq`, `Prompt.lit`, `Prompt.comap` — members, fixed text, and what is encoded as another;
* `Prompt.upTo` — a text that ends at the first mark it cannot contain;
* `Prompt.word` — a text spelled symbol by symbol that ends at a mark no spelling begins with.
-/

namespace Axiam.Lib

variable {α β γ : Type}

/-- Equal texts begin with the codes of equal values. -/
def Prompt (enc : α → List β) : Prop :=
  ∀ a a' r r', enc a ++ r = enc a' ++ r' → a = a' ∧ r = r'

namespace Prompt

/-- Two members, the second behind the first. -/
theorem seq {enc : α → List β} {enc' : γ → List β} (h : Prompt enc) (h' : Prompt enc') :
    Prompt fun p : α × γ => enc p.1 ++ enc' p.2 := by
  rintro ⟨a, c⟩ ⟨a', c'⟩ r r' heq
  simp only [List.append_assoc] at heq
  obtain ⟨rfl, hrest⟩ := h _ _ _ _ heq
  obtain ⟨rfl, hend⟩ := h' _ _ _ _ hrest
  exact ⟨rfl, hend⟩

/-- A fixed text in front. -/
theorem lit {enc : α → List β} (h : Prompt enc) (text : List β) :
    Prompt fun a => text ++ enc a := by
  intro a a' r r' heq
  simp only [List.append_assoc] at heq
  exact h _ _ _ _ (List.append_cancel_left heq)

/-- What is encoded as something else that determines it. -/
theorem comap {enc : α → List β} (h : Prompt enc) {f : γ → α} (hf : Function.Injective f) :
    Prompt fun c => enc (f c) := by
  intro c c' r r' heq
  obtain ⟨hfc, hr⟩ := h _ _ _ _ heq
  exact ⟨hf hfc, hr⟩

/-- Two texts of marks that satisfy `p`, each followed by one that does not. -/
theorem append_cons_inj {p : β → Prop} {a a' r r' : List β} {m m' : β} (ha : ∀ x ∈ a, p x)
    (ha' : ∀ x ∈ a', p x) (hm : ¬p m) (hm' : ¬p m') (h : a ++ m :: r = a' ++ m' :: r') :
    a = a' ∧ m = m' ∧ r = r' := by
  induction a generalizing a' with
  | nil =>
      cases a' with
      | nil =>
          obtain ⟨hmark, hrest⟩ := List.cons.inj h
          exact ⟨rfl, hmark, hrest⟩
      | cons x a' =>
          -- the second text would begin with the first one's mark
          obtain ⟨rfl, -⟩ := List.cons.inj h
          exact absurd (ha' _ List.mem_cons_self) hm
  | cons x a ih =>
      cases a' with
      | nil =>
          obtain ⟨rfl, -⟩ := List.cons.inj h
          exact absurd (ha _ List.mem_cons_self) hm'
      | cons y a' =>
          obtain ⟨rfl, hrest⟩ := List.cons.inj h
          obtain ⟨rfl, hend⟩ := ih (fun z hz => ha z (List.mem_cons_of_mem _ hz))
            (fun z hz => ha' z (List.mem_cons_of_mem _ hz)) hrest
          exact ⟨rfl, hend⟩

/-- A text that ends at a mark it cannot contain. -/
theorem upTo {enc : α → List β} (hinj : Function.Injective enc) {m : β}
    (hfree : ∀ a, m ∉ enc a) : Prompt fun a => enc a ++ [m] := by
  intro a a' r r' heq
  simp only [List.append_assoc, List.singleton_append] at heq
  obtain ⟨hcode, -, hrest⟩ := append_cons_inj (p := (· ≠ m))
    (fun x hx hxm => hfree a (hxm ▸ hx)) (fun x hx hxm => hfree a' (hxm ▸ hx))
    (not_not_intro rfl) (not_not_intro rfl) heq
  exact ⟨hinj hcode, hrest⟩

/-- A text spelled symbol by symbol, up to a mark that no spelling begins with. -/
theorem word {spell : α → List β} (h : Prompt spell) {m : β} (hne : ∀ a, spell a ≠ [])
    (hmark : ∀ a r, spell a ≠ m :: r) : Prompt fun w : List α => w.flatMap spell ++ [m] := by
  intro w w' r r' heq
  simp only [List.append_assoc, List.singleton_append] at heq
  -- a spelling in front is not the mark
  have hfront : ∀ a u v, spell a ++ u ≠ m :: v := by
    intro a u v hsplit
    cases hspell : spell a with
    | nil => exact hne a hspell
    | cons x rest =>
        rw [hspell] at hsplit
        obtain ⟨rfl, -⟩ := List.cons.inj hsplit
        exact hmark a rest hspell
  induction w generalizing w' with
  | nil =>
      cases w' with
      | nil => exact ⟨rfl, (List.cons.inj heq).2⟩
      | cons a w' =>
          rw [List.flatMap_nil, List.nil_append, List.flatMap_cons, List.append_assoc] at heq
          exact absurd heq.symm (hfront a _ _)
  | cons a w ih =>
      rw [List.flatMap_cons, List.append_assoc] at heq
      cases w' with
      | nil => exact absurd heq (hfront a _ _)
      | cons a' w' =>
          rw [List.flatMap_cons, List.append_assoc] at heq
          obtain ⟨rfl, hrest⟩ := h _ _ _ _ heq
          obtain ⟨rfl, hend⟩ := ih _ hrest
          exact ⟨rfl, hend⟩

end Prompt

end Axiam.Lib
