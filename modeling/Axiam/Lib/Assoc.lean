import Mathlib.Data.List.Sort
import Mathlib.Order.Defs.LinearOrder

/-!
# Association lists in key order

A finite map as the list of its members, which stand in the order of their keys with one member
for each key.  A list is determined by what is looked up in it, and the two ways to change one
keep the order.
-/

namespace Axiam.Lib.Assoc

variable {κ ν : Type} [LinearOrder κ]

/-- The members stand in key order, one for each key. -/
def Ordered (members : List (κ × ν)) : Prop := members.Pairwise fun a b => a.1 < b.1

/-- The member for a key, in the place of the one that was there. -/
def insert (key : κ) (value : ν) : List (κ × ν) → List (κ × ν)
  | [] => [(key, value)]
  | m :: rest =>
      if m.1 < key then m :: insert key value rest
      else if m.1 = key then (key, value) :: rest
      else (key, value) :: m :: rest

/-- No member for a key. -/
def erase (key : κ) (members : List (κ × ν)) : List (κ × ν) := members.filter (·.1 ≠ key)

theorem Ordered.filter {members : List (κ × ν)} (h : Ordered members) (p : κ × ν → Bool) :
    Ordered (members.filter p) := List.Pairwise.filter p h

theorem Ordered.erase {members : List (κ × ν)} (h : Ordered members) (key : κ) :
    Ordered (Assoc.erase key members) := h.filter _

section

variable [BEq κ] [LawfulBEq κ]

theorem lookup_cons_if (m : κ × ν) (rest : List (κ × ν)) (k : κ) :
    (m :: rest).lookup k = if k = m.1 then some m.2 else rest.lookup k := by
  rw [List.lookup_cons]
  by_cases hk : k = m.1
  · simp [hk]
  · rw [if_neg hk, beq_eq_false_iff_ne.mpr hk]

/-- A member of an ordered list is what is looked up. -/
theorem Ordered.lookup_iff {members : List (κ × ν)} (h : Ordered members) {key : κ} {value : ν} :
    members.lookup key = some value ↔ (key, value) ∈ members := by
  induction members with
  | nil => simp
  | cons m rest ih =>
      obtain ⟨hfirst, hrest⟩ := List.pairwise_cons.mp h
      obtain ⟨first, held⟩ := m
      rw [lookup_cons_if, List.mem_cons, Prod.mk.injEq]
      by_cases hkey : key = first
      · subst hkey
        have hnot : (key, value) ∉ rest := fun hmem => lt_irrefl key (hfirst _ hmem)
        simp [hnot, eq_comm]
      · rw [if_neg hkey, ih hrest]
        simp [hkey]

/-- Two ordered lists in which the same is looked up are the same. -/
theorem Ordered.ext {a b : List (κ × ν)} (ha : Ordered a) (hb : Ordered b)
    (h : ∀ key, a.lookup key = b.lookup key) : a = b := by
  have hirrefl : Std.Irrefl fun m n : κ × ν => m.1 < n.1 := ⟨fun m => lt_irrefl m.1⟩
  have hantisymm : Std.Antisymm fun m n : κ × ν => m.1 < n.1 :=
    ⟨fun _ _ hmn hnm => absurd hnm (lt_asymm hmn)⟩
  refine List.Pairwise.eq_of_mem_iff ha hb fun m => ?_
  rw [← ha.lookup_iff, ← hb.lookup_iff, h]

/-- What is looked up among the members that are kept. -/
theorem Ordered.lookup_filter {members : List (κ × ν)} (h : Ordered members) (p : κ × ν → Bool)
    (key : κ) :
    (members.filter p).lookup key = (members.lookup key).filter fun value => p (key, value) := by
  refine Option.ext fun value => ?_
  rw [(h.filter p).lookup_iff, List.mem_filter, ← h.lookup_iff, Option.filter_eq_some_iff]

theorem lookup_insert (key : κ) (value : ν) (members : List (κ × ν)) (k : κ) :
    (insert key value members).lookup k = if k = key then some value else members.lookup k := by
  induction members with
  | nil => exact lookup_cons_if (key, value) [] k
  | cons m rest ih =>
      unfold insert
      by_cases hbefore : m.1 < key
      · rw [if_pos hbefore, lookup_cons_if, lookup_cons_if, ih]
        by_cases hfirst : k = m.1
        · have hne : k ≠ key := hfirst ▸ ne_of_lt hbefore
          rw [if_pos hfirst, if_pos hfirst, if_neg hne]
        · rw [if_neg hfirst, if_neg hfirst]
      · rw [if_neg hbefore]
        by_cases hsame : m.1 = key
        · rw [if_pos hsame, lookup_cons_if, lookup_cons_if, hsame]
          by_cases hk : k = key <;> simp [hk]
        · rw [if_neg hsame, lookup_cons_if]

theorem lookup_erase (key : κ) (members : List (κ × ν)) (k : κ) :
    (erase key members).lookup k = if k = key then none else members.lookup k := by
  induction members with
  | nil => simp [erase]
  | cons m rest ih =>
      unfold erase at ih ⊢
      by_cases hm : m.1 = key
      · rw [List.filter_cons_of_neg (by simpa using hm), ih, lookup_cons_if, hm]
        by_cases hk : k = key <;> simp [hk]
      · rw [List.filter_cons_of_pos (by simpa using hm), lookup_cons_if, lookup_cons_if, ih]
        by_cases hk : k = m.1
        · have hne : k ≠ key := hk ▸ hm
          rw [if_pos hk, if_pos hk, if_neg hne]
        · rw [if_neg hk, if_neg hk]

end

theorem mem_insert {key : κ} {value : ν} {members : List (κ × ν)} {m : κ × ν}
    (h : m ∈ insert key value members) : m = (key, value) ∨ m ∈ members := by
  induction members with
  | nil => exact .inl (List.mem_singleton.mp h)
  | cons n rest ih =>
      unfold insert at h
      split at h
      · rcases List.mem_cons.mp h with rfl | h
        · exact .inr List.mem_cons_self
        · exact (ih h).imp_right (List.mem_cons_of_mem n)
      · split at h
        · exact (List.mem_cons.mp h).imp_right (List.mem_cons_of_mem n)
        · exact List.mem_cons.mp h

theorem Ordered.insert {members : List (κ × ν)} (h : Ordered members) (key : κ) (value : ν) :
    Ordered (Assoc.insert key value members) := by
  induction members with
  | nil => exact List.pairwise_singleton _ _
  | cons m rest ih =>
      obtain ⟨hfirst, hrest⟩ := List.pairwise_cons.mp h
      unfold Assoc.insert
      by_cases hbefore : m.1 < key
      · rw [if_pos hbefore]
        refine List.pairwise_cons.mpr ⟨fun n hn => ?_, ih hrest⟩
        rcases mem_insert hn with rfl | hn
        · exact hbefore
        · exact hfirst n hn
      · rw [if_neg hbefore]
        by_cases hsame : m.1 = key
        · rw [if_pos hsame]
          exact List.pairwise_cons.mpr ⟨fun n hn => hsame ▸ hfirst n hn, hrest⟩
        · have hafter : key < m.1 := lt_of_le_of_ne (le_of_not_gt hbefore) (Ne.symm hsame)
          rw [if_neg hsame]
          refine List.pairwise_cons.mpr ⟨fun n hn => ?_, h⟩
          rcases List.mem_cons.mp hn with rfl | hn
          · exact hafter
          · exact hafter.trans (hfirst n hn)

end Axiam.Lib.Assoc
