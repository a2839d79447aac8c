import Mathlib.Data.List.Nodup
import Mathlib.Logic.Function.Basic

/-!
# Resources with one owner

Resources are numbered in the order in which they were obtained.  A slot of type `ι` holds at most
one of them, and a resource that was obtained is in exactly one slot or was ended exactly once.

* `Owned.acquire`, `Owned.transfer`, `Owned.finish` — the three things that happen to a resource;
* `Owned.pass` — one obtained and ended with no slot in between;
* `Owned.held_or_ended` — what the invariant says about one resource.
-/

namespace Axiam.Lib

variable {ι : Type} {slots : ι → Option Nat} {acquired : Nat} {ended : List Nat}

/-- Of the resources below `acquired`, those in the slots and those that were `ended`. -/
structure Owned (slots : ι → Option Nat) (acquired : Nat) (ended : List Nat) : Prop where
  obtained : ∀ o r, slots o = some r → r < acquired
  live : ∀ o r, slots o = some r → r ∉ ended
  unique : ∀ o o' r, slots o = some r → slots o' = some r → o = o'
  settled : ∀ r < acquired, (∃ o, slots o = some r) ∨ r ∈ ended
  known : ∀ r ∈ ended, r < acquired
  once : ended.Nodup

namespace Owned

theorem empty : Owned (fun _ : ι => none) 0 [] :=
  ⟨nofun, nofun, nofun, fun _ h => absurd h (Nat.not_lt_zero _), nofun, .nil⟩

/-- A new resource is ended before any slot has it. -/
theorem pass (h : Owned slots acquired ended) : Owned slots (acquired + 1) (ended ++ [acquired]) := by
  have hnew : acquired ∉ ended := fun hmem => absurd (h.known _ hmem) (Nat.lt_irrefl _)
  refine ⟨fun o r ho => Nat.lt_succ_of_lt (h.obtained o r ho), fun o r ho hmem => ?_, h.unique,
    fun r hr => ?_, fun r hmem => ?_, ?_⟩
  · obtain hmem | hmem := List.mem_append.mp hmem
    · exact h.live o r ho hmem
    · rw [List.mem_singleton] at hmem
      have hlt := h.obtained o r ho
      omega
  · obtain hlt | rfl := Nat.lt_succ_iff_lt_or_eq.mp hr
    · obtain hheld | hended := h.settled r hlt
      · exact .inl hheld
      · exact .inr (List.mem_append_left _ hended)
    · exact .inr (List.mem_append_right _ (List.mem_singleton_self _))
  · obtain hmem | hmem := List.mem_append.mp hmem
    · exact Nat.lt_succ_of_lt (h.known r hmem)
    · rw [List.mem_singleton] at hmem
      omega
  · exact List.nodup_append.mpr ⟨h.once, List.nodup_singleton _, fun a ha b hb hab => by
      rw [List.mem_singleton] at hb
      exact hnew (hb ▸ hab ▸ ha)⟩

variable [DecidableEq ι]

/-- A new resource goes into an empty slot. -/
theorem acquire (h : Owned slots acquired ended) {o : ι} (ho : slots o = none) :
    Owned (Function.update slots o (some acquired)) (acquired + 1) ended := by
  have hslot : ∀ o' r, Function.update slots o (some acquired) o' = some r →
      (o' = o ∧ r = acquired) ∨ (o' ≠ o ∧ slots o' = some r) := by
    intro o' r hr
    by_cases hsame : o' = o
    · subst hsame
      rw [Function.update_self] at hr
      exact .inl ⟨rfl, (Option.some.inj hr).symm⟩
    · rw [Function.update_of_ne hsame] at hr
      exact .inr ⟨hsame, hr⟩
  refine ⟨fun o' r hr => ?_, fun o' r hr hmem => ?_, fun a b r ha hb => ?_, fun r hr => ?_,
    fun r hmem => Nat.lt_succ_of_lt (h.known r hmem), h.once⟩
  · obtain ⟨_, rfl⟩ | ⟨_, hr⟩ := hslot o' r hr
    · exact Nat.lt_succ_self _
    · exact Nat.lt_succ_of_lt (h.obtained o' r hr)
  · obtain ⟨_, rfl⟩ | ⟨_, hr⟩ := hslot o' r hr
    · exact absurd (h.known _ hmem) (Nat.lt_irrefl _)
    · exact h.live o' r hr hmem
  · -- the new number is in no other slot
    obtain ⟨rfl, rfl⟩ | ⟨_, hina⟩ := hslot a r ha
    · obtain ⟨rfl, _⟩ | ⟨_, hinb⟩ := hslot b _ hb
      · rfl
      · exact absurd (h.obtained b _ hinb) (Nat.lt_irrefl _)
    · obtain ⟨rfl, rfl⟩ | ⟨_, hinb⟩ := hslot b _ hb
      · exact absurd (h.obtained a _ hina) (Nat.lt_irrefl _)
      · exact h.unique a b r hina hinb
  · obtain hlt | rfl := Nat.lt_succ_iff_lt_or_eq.mp hr
    · obtain ⟨o', ho'⟩ | hended := h.settled r hlt
      · have hne : o' ≠ o := by
          rintro rfl
          rw [ho] at ho'
          exact nomatch ho'
        exact .inl ⟨o', by rw [Function.update_of_ne hne, ho']⟩
      · exact .inr hended
    · exact .inl ⟨o, Function.update_self ..⟩

/-- The resource of a slot is ended, and the slot is empty. -/
theorem finish (h : Owned slots acquired ended) {o : ι} {r : Nat} (ho : slots o = some r) :
    Owned (Function.update slots o none) acquired (ended ++ [r]) := by
  have hslot : ∀ o' r', Function.update slots o none o' = some r' → o' ≠ o ∧ slots o' = some r' := by
    intro o' r' hr
    by_cases hsame : o' = o
    · subst hsame
      rw [Function.update_self] at hr
      exact nomatch hr
    · rw [Function.update_of_ne hsame] at hr
      exact ⟨hsame, hr⟩
  refine ⟨fun o' r' hr => h.obtained o' r' (hslot o' r' hr).2, fun o' r' hr hmem => ?_,
    fun a b r' ha hb => h.unique a b r' (hslot a r' ha).2 (hslot b r' hb).2, fun r' hr => ?_,
    fun r' hmem => ?_, ?_⟩
  · obtain ⟨hne, hr⟩ := hslot o' r' hr
    obtain hmem | hmem := List.mem_append.mp hmem
    · exact h.live o' r' hr hmem
    · rw [List.mem_singleton] at hmem
      subst hmem
      exact hne (h.unique o' o r' hr ho)
  · obtain ⟨o', ho'⟩ | hended := h.settled r' hr
    · by_cases hsame : o' = o
      · subst hsame
        rw [ho] at ho'
        cases ho'
        exact .inr (List.mem_append_right _ (List.mem_singleton_self _))
      · exact .inl ⟨o', by rw [Function.update_of_ne hsame, ho']⟩
    · exact .inr (List.mem_append_left _ hended)
  · obtain hmem | hmem := List.mem_append.mp hmem
    · exact h.known r' hmem
    · rw [List.mem_singleton] at hmem
      exact hmem ▸ h.obtained o r ho
  · exact List.nodup_append.mpr ⟨h.once, List.nodup_singleton _, fun a ha b hb hab => by
      rw [List.mem_singleton] at hb
      exact h.live o r ho (hb ▸ hab ▸ ha)⟩

/-- What a slot holds moves to an empty one. -/
theorem transfer (h : Owned slots acquired ended) {source target : ι} (hne : source ≠ target)
    (htarget : slots target = none) :
    Owned (Function.update (Function.update slots target (slots source)) source none) acquired
      ended := by
  have hslot : ∀ o r, Function.update (Function.update slots target (slots source)) source none o =
      some r → (o = target ∧ slots source = some r) ∨ (o ≠ target ∧ o ≠ source ∧ slots o = some r) := by
    intro o r hr
    by_cases hsource : o = source
    · subst hsource
      rw [Function.update_self] at hr
      exact nomatch hr
    · rw [Function.update_of_ne hsource] at hr
      by_cases hto : o = target
      · subst hto
        rw [Function.update_self] at hr
        exact .inl ⟨rfl, hr⟩
      · rw [Function.update_of_ne hto] at hr
        exact .inr ⟨hto, hsource, hr⟩
  refine ⟨fun o r hr => ?_, fun o r hr => ?_, fun a b r ha hb => ?_, fun r hr => ?_, h.known, h.once⟩
  · obtain ⟨_, hr⟩ | ⟨_, _, hr⟩ := hslot o r hr
    · exact h.obtained source r hr
    · exact h.obtained o r hr
  · obtain ⟨_, hr⟩ | ⟨_, _, hr⟩ := hslot o r hr
    · exact h.live source r hr
    · exact h.live o r hr
  · obtain ⟨rfl, hfrom⟩ | ⟨_, hnot, hina⟩ := hslot a r ha
    · obtain ⟨rfl, _⟩ | ⟨_, hnot, hinb⟩ := hslot b r hb
      · rfl
      · exact absurd (h.unique b source r hinb hfrom) hnot
    · obtain ⟨_, hfrom⟩ | ⟨_, _, hinb⟩ := hslot b r hb
      · exact absurd (h.unique a source r hina hfrom) hnot
      · exact h.unique a b r hina hinb
  · obtain ⟨o, ho⟩ | hended := h.settled r hr
    · by_cases hsource : o = source
      · subst hsource
        refine .inl ⟨target, ?_⟩
        rw [Function.update_of_ne hne.symm, Function.update_self, ho]
      · have hto : o ≠ target := by
          rintro rfl
          rw [htarget] at ho
          exact nomatch ho
        exact .inl ⟨o, by rw [Function.update_of_ne hsource, Function.update_of_ne hto, ho]⟩
    · exact .inr hended

omit [DecidableEq ι] in
/-- A resource is in one slot and was never ended, or in none and was ended once. -/
theorem held_or_ended (h : Owned slots acquired ended) {r : Nat} (hr : r < acquired) :
    ((∃! o, slots o = some r) ∧ ended.count r = 0) ∨
      ((∀ o, slots o ≠ some r) ∧ ended.count r = 1) := by
  obtain ⟨o, ho⟩ | hended := h.settled r hr
  · exact .inl ⟨⟨o, ho, fun o' ho' => h.unique o' o r ho' ho⟩,
      List.count_eq_zero.mpr (h.live o r ho)⟩
  · exact .inr ⟨fun o ho => h.live o r ho hended, List.count_eq_one_of_mem h.once hended⟩

end Owned

end Axiam.Lib
