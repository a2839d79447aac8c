import Mathlib.Data.List.Nodup
import Mathlib.Data.List.Perm.Subperm
import Mathlib.Logic.Function.Basic

/-!
# Pools that lend

A pool keeps what it made, lends what stands idle, makes a new one when none does and its cap allows
it, and takes back what it lent.  Borrowers are of any type, and a borrower holds at most one thing.

* `Lending.Balanced` — idle and lent are apart and together all that was made, within the cap;
* `Lending.Held` — what is lent has one holder, or its holder lost it and it never comes back;
* `Held.lent_eq_nil_iff` — when nobody holds anything, what is still lent is what was lost.
-/

namespace Axiam.Lib

/-- A pool, with the things that it has handed out and not got back. -/
structure Lending (α : Type) where
  idle : List α := []
  all : List α := []
  lent : List α := []

namespace Lending

variable {α ι : Type} {p : Lending α} {cap : Nat} {a : α}

/-- The books of a pool. -/
structure Balanced (cap : Nat) (p : Lending α) : Prop where
  together : (p.idle ++ p.lent).Perm p.all
  once : p.all.Nodup
  bounded : p.all.length ≤ cap

namespace Balanced

theorem empty (cap : Nat) : Balanced cap ({} : Lending α) :=
  ⟨.nil, .nil, Nat.zero_le cap⟩

theorem nodup (h : Balanced cap p) : (p.idle ++ p.lent).Nodup := h.together.nodup_iff.mpr h.once

theorem disjoint (h : Balanced cap p) : p.idle.Disjoint p.lent := List.disjoint_of_nodup_append h.nodup

theorem lent_nodup (h : Balanced cap p) : p.lent.Nodup := h.nodup.of_append_right

theorem mem_all (h : Balanced cap p) (ha : a ∈ p.lent) : a ∈ p.all :=
  h.together.mem_iff.mp (List.mem_append_right _ ha)

/-- An idle thing goes out. -/
theorem take (h : Balanced cap p) {rest : List α} (hidle : p.idle = rest ++ [a]) :
    Balanced cap { p with idle := rest, lent := a :: p.lent } := by
  refine ⟨?_, h.once, h.bounded⟩
  have htogether := h.together
  rw [hidle, List.append_assoc] at htogether
  exact htogether

/-- A new thing goes out. -/
theorem create (h : Balanced cap p) (hnew : a ∉ p.all) (hroom : p.all.length < cap) :
    Balanced cap { p with all := p.all ++ [a], lent := a :: p.lent } := by
  refine ⟨?_, ?_, ?_⟩
  · have hmiddle : (p.idle ++ a :: p.lent).Perm (a :: (p.idle ++ p.lent)) := List.perm_middle
    exact hmiddle.trans ((h.together.cons a).trans (List.perm_append_singleton a p.all).symm)
  · exact (List.perm_append_singleton a p.all).nodup_iff.mpr (List.nodup_cons.mpr ⟨hnew, h.once⟩)
  · show (p.all ++ [a]).length ≤ cap
    rw [List.length_append, List.length_singleton]
    omega

variable [DecidableEq α]

/-- What was lent comes back. -/
theorem giveBack (h : Balanced cap p) (ha : a ∈ p.lent) :
    Balanced cap { p with idle := p.idle ++ [a], lent := p.lent.erase a } := by
  refine ⟨?_, h.once, h.bounded⟩
  show (p.idle ++ [a] ++ p.lent.erase a).Perm p.all
  rw [List.append_assoc]
  exact ((List.perm_cons_erase ha).symm.append_left p.idle).trans h.together

end Balanced

/-- The holders of what is lent, and what was lost of it. -/
structure Held (held : ι → Option α) (lost lent : List α) : Prop where
  borrowed : ∀ i a, held i = some a → a ∈ lent ∧ a ∉ lost
  unique : ∀ i j a, held i = some a → held j = some a → i = j
  settled : ∀ a ∈ lent, (∃ i, held i = some a) ∨ a ∈ lost
  kept : ∀ a ∈ lost, a ∈ lent
  once : lost.Nodup

namespace Held

variable {held : ι → Option α} {lost lent : List α}

theorem empty : Held (fun _ : ι => none) ([] : List α) [] :=
  ⟨nofun, nofun, nofun, nofun, .nil⟩

/-- When nobody holds anything, what is lent was lost. -/
theorem lent_eq_nil_iff (h : Held held lost lent) (hnobody : ∀ i, held i = none) :
    lent = [] ↔ lost = [] := by
  rw [List.eq_nil_iff_forall_not_mem, List.eq_nil_iff_forall_not_mem]
  refine ⟨fun hnone a ha => hnone a (h.kept a ha), fun hnone a ha => ?_⟩
  cases h.settled a ha with
  | inl hheld =>
      obtain ⟨i, hi⟩ := hheld
      rw [hnobody i] at hi
      cases hi
  | inr hlost => exact hnone a hlost

/-- A pool that lost as much as it may make has nothing left to lend. -/
theorem exhausted {p : Lending α} (h : Held held lost p.lent) (hbalanced : p.Balanced cap)
    (hlost : cap ≤ lost.length) : p.idle = [] ∧ p.all.length = cap := by
  have hlent : lost.length ≤ p.lent.length := (List.subperm_of_subset h.once h.kept).length_le
  have htogether := hbalanced.together.length_eq
  have hbounded := hbalanced.bounded
  rw [List.length_append] at htogether
  refine ⟨List.eq_nil_of_length_eq_zero ?_, ?_⟩ <;> omega

variable [DecidableEq ι]

/-- What a borrower holds after a change to one of them. -/
theorem update_eq_some {i j : ι} {a : α} {now : Option α}
    (h : Function.update held i now j = some a) :
    (j = i ∧ now = some a) ∨ (j ≠ i ∧ held j = some a) := by
  by_cases hj : j = i
  · subst hj
    rw [Function.update_self] at h
    exact .inl ⟨rfl, h⟩
  · rw [Function.update_of_ne hj] at h
    exact .inr ⟨hj, h⟩

/-- A borrower of nothing gets what was not lent. -/
theorem lend (h : Held held lost lent) {i : ι} {a : α} (hi : held i = none) (hnew : a ∉ lent) :
    Held (Function.update held i (some a)) lost (a :: lent) := by
  refine ⟨fun j b hj => ?_, fun j k b hj hk => ?_, fun b hb => ?_, fun b hb => ?_, h.once⟩
  · obtain ⟨-, hb⟩ | ⟨-, hj⟩ := update_eq_some hj
    · cases hb
      exact ⟨List.mem_cons_self, fun hlost => hnew (h.kept _ hlost)⟩
    · exact ⟨List.mem_cons_of_mem _ (h.borrowed j b hj).1, (h.borrowed j b hj).2⟩
  · obtain ⟨hji, hb⟩ | ⟨-, hj'⟩ := update_eq_some hj
    · obtain ⟨hki, -⟩ | ⟨-, hk'⟩ := update_eq_some hk
      · rw [hji, hki]
      · cases hb
        exact absurd (h.borrowed k _ hk').1 hnew
    · obtain ⟨-, hb⟩ | ⟨-, hk'⟩ := update_eq_some hk
      · cases hb
        exact absurd (h.borrowed j _ hj').1 hnew
      · exact h.unique j k b hj' hk'
  · cases List.mem_cons.mp hb with
    | inl heq => exact .inl ⟨i, by rw [Function.update_self, heq]⟩
    | inr hlent =>
        cases h.settled b hlent with
        | inl hheld =>
            obtain ⟨j, hj⟩ := hheld
            have hne : j ≠ i := by
              rintro rfl
              rw [hi] at hj
              cases hj
            exact .inl ⟨j, by rw [Function.update_of_ne hne, hj]⟩
        | inr hlost => exact .inr hlost
  · exact List.mem_cons_of_mem _ (h.kept b hb)

/-- A borrower that loses what it holds. -/
theorem lose (h : Held held lost lent) {i : ι} {a : α} (hi : held i = some a) :
    Held (Function.update held i none) (a :: lost) lent := by
  refine ⟨fun j b hj => ?_, fun j k b hj hk => ?_, fun b hb => ?_, fun b hb => ?_, ?_⟩
  · obtain ⟨-, hb⟩ | ⟨hne, hj⟩ := update_eq_some hj
    · cases hb
    · refine ⟨(h.borrowed j b hj).1, ?_⟩
      rw [List.mem_cons, not_or]
      refine ⟨?_, (h.borrowed j b hj).2⟩
      rintro rfl
      exact hne (h.unique j i b hj hi)
  · obtain ⟨-, hb⟩ | ⟨-, hj⟩ := update_eq_some hj
    · cases hb
    · obtain ⟨-, hb⟩ | ⟨-, hk⟩ := update_eq_some hk
      · cases hb
      · exact h.unique j k b hj hk
  · cases h.settled b hb with
    | inl hheld =>
        obtain ⟨j, hj⟩ := hheld
        by_cases hji : j = i
        · rw [hji, hi] at hj
          cases hj
          exact .inr List.mem_cons_self
        · exact .inl ⟨j, by rw [Function.update_of_ne hji, hj]⟩
    | inr hlost => exact .inr (List.mem_cons_of_mem _ hlost)
  · cases List.mem_cons.mp hb with
    | inl heq => exact heq ▸ (h.borrowed i a hi).1
    | inr hlost => exact h.kept b hlost
  · exact List.nodup_cons.mpr ⟨(h.borrowed i a hi).2, h.once⟩

variable [DecidableEq α]

/-- A borrower gives back what it holds. -/
theorem giveBack (h : Held held lost lent) (hnodup : lent.Nodup) {i : ι} {a : α}
    (hi : held i = some a) : Held (Function.update held i none) lost (lent.erase a) := by
  refine ⟨fun j b hj => ?_, fun j k b hj hk => ?_, fun b hb => ?_, fun b hb => ?_, h.once⟩
  · obtain ⟨-, hb⟩ | ⟨hne, hj⟩ := update_eq_some hj
    · cases hb
    · refine ⟨?_, (h.borrowed j b hj).2⟩
      rw [hnodup.mem_erase_iff]
      refine ⟨?_, (h.borrowed j b hj).1⟩
      rintro rfl
      exact hne (h.unique j i b hj hi)
  · obtain ⟨-, hb⟩ | ⟨-, hj⟩ := update_eq_some hj
    · cases hb
    · obtain ⟨-, hb⟩ | ⟨-, hk⟩ := update_eq_some hk
      · cases hb
      · exact h.unique j k b hj hk
  · obtain ⟨hne, hlent⟩ := hnodup.mem_erase_iff.mp hb
    cases h.settled b hlent with
    | inl hheld =>
        obtain ⟨j, hj⟩ := hheld
        have hji : j ≠ i := by
          rintro rfl
          rw [hi] at hj
          cases hj
          exact hne rfl
        exact .inl ⟨j, by rw [Function.update_of_ne hji, hj]⟩
    | inr hlost => exact .inr hlost
  · rw [hnodup.mem_erase_iff]
    refine ⟨?_, h.kept b hb⟩
    rintro rfl
    exact (h.borrowed i b hi).2 hb

end Held

/-- A pool whose books are right and whose every lent thing is held once or was lost. -/
structure Sound (cap : Nat) (held : ι → Option α) (lost : List α) (p : Lending α) : Prop where
  balanced : p.Balanced cap
  holders : Held held lost p.lent

namespace Sound

variable {held : ι → Option α} {lost : List α} {i : ι}

theorem empty (cap : Nat) : Sound cap (fun _ : ι => none) [] ({} : Lending α) :=
  ⟨.empty cap, .empty⟩

variable [DecidableEq ι]

theorem take (h : Sound cap held lost p) {rest : List α} (hidle : p.idle = rest ++ [a])
    (hi : held i = none) :
    Sound cap (Function.update held i (some a)) lost
      { p with idle := rest, lent := a :: p.lent } := by
  refine ⟨h.balanced.take hidle, h.holders.lend hi fun hlent => ?_⟩
  exact h.balanced.disjoint (by rw [hidle]; simp) hlent

theorem create (h : Sound cap held lost p) (hnew : a ∉ p.all) (hroom : p.all.length < cap)
    (hi : held i = none) :
    Sound cap (Function.update held i (some a)) lost
      { p with all := p.all ++ [a], lent := a :: p.lent } :=
  ⟨h.balanced.create hnew hroom, h.holders.lend hi fun hlent => hnew (h.balanced.mem_all hlent)⟩

theorem lose (h : Sound cap held lost p) (hi : held i = some a) :
    Sound cap (Function.update held i none) (a :: lost) p :=
  ⟨h.balanced, h.holders.lose hi⟩

theorem giveBack [DecidableEq α] (h : Sound cap held lost p) (hi : held i = some a) :
    Sound cap (Function.update held i none) lost
      { p with idle := p.idle ++ [a], lent := p.lent.erase a } :=
  ⟨h.balanced.giveBack (h.holders.borrowed i a hi).1,
    h.holders.giveBack h.balanced.lent_nodup hi⟩

end Sound

end Lending

end Axiam.Lib
