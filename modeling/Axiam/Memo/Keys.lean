import Axiam.Lib.Code
import Axiam.Memo.DecisionMemo

/-!
# What a memo key tells apart

A key joins five components with U+001F and writes U+0001 for one that is absent.  Nothing keeps a
caller's text from having either byte in it, so a key determines its question exactly where they do
not occur.
-/

namespace Axiam.Memo

open Axiam.Lib

/-- What `check_access` memoizes a decision for. -/
structure Question where
  subjectId : Option Str
  resourceId : Str
  action : Str
  scope : Option Str
  actingTenant : Option Str
  deriving DecidableEq

namespace Question

def key (q : Question) : Str :=
  DecisionMemo.key q.subjectId q.resourceId q.action q.scope q.actingTenant

/-- No component has the separator in it. -/
structure Separable (q : Question) : Prop where
  subjectId : 0x1F ∉ DecisionMemo.component q.subjectId
  resourceId : 0x1F ∉ q.resourceId
  action : 0x1F ∉ q.action
  scope : 0x1F ∉ DecisionMemo.component q.scope
  actingTenant : 0x1F ∉ DecisionMemo.component q.actingTenant

/-- No component that is there is the text that stands for an absent one. -/
structure Unmarked (q : Question) : Prop where
  subjectId : q.subjectId ≠ some [0x01]
  scope : q.scope ≠ some [0x01]
  actingTenant : q.actingTenant ≠ some [0x01]

/-- Every component is there. -/
structure Total (q : Question) : Prop where
  subjectId : q.subjectId ≠ none
  scope : q.scope ≠ none
  actingTenant : q.actingTenant ≠ none

/-! ## Reading a key -/

theorem key_eq (q : Question) : q.key =
    DecisionMemo.component q.subjectId ++ 0x1F :: (q.resourceId ++ 0x1F :: (q.action ++ 0x1F ::
      (DecisionMemo.component q.scope ++ 0x1F :: DecisionMemo.component q.actingTenant))) := by
  unfold key DecisionMemo.key
  simp only [List.append_assoc, List.cons_append, List.nil_append]

/-- The separators of a key: its own four, and those of the components. -/
theorem count_key (q : Question) : q.key.count 0x1F =
    4 + (DecisionMemo.component q.subjectId).count 0x1F + q.resourceId.count 0x1F +
      q.action.count 0x1F + (DecisionMemo.component q.scope).count 0x1F +
      (DecisionMemo.component q.actingTenant).count 0x1F := by
  rw [key_eq]
  simp only [List.count_append, List.count_cons_self]
  omega

/-- So a key says whether its question can be taken apart. -/
theorem separable_iff (q : Question) : q.Separable ↔ q.key.count 0x1F = 4 := by
  rw [count_key]
  constructor
  · intro h
    rw [List.count_eq_zero.mpr h.subjectId, List.count_eq_zero.mpr h.resourceId,
      List.count_eq_zero.mpr h.action, List.count_eq_zero.mpr h.scope,
      List.count_eq_zero.mpr h.actingTenant]
  · intro h
    refine ⟨?_, ?_, ?_, ?_, ?_⟩ <;> apply List.count_eq_zero.mp <;> omega

theorem component_inj {a b : Option Str} (ha : a ≠ some [0x01]) (hb : b ≠ some [0x01])
    (h : DecisionMemo.component a = DecisionMemo.component b) : a = b := by
  cases a with
  | none =>
      cases b with
      | none => rfl
      | some t => exact absurd (congrArg some h.symm) hb
  | some s =>
      cases b with
      | none => exact absurd (congrArg some h) ha
      | some t => exact congrArg some h

theorem component_eq_some {a b : Option Str} (hb : b ≠ some [0x01]) (hthere : b ≠ none)
    (h : DecisionMemo.component a = DecisionMemo.component b) : a = b := by
  cases b with
  | none => exact absurd rfl hthere
  | some t =>
      cases a with
      | none => exact absurd (congrArg some h.symm) hb
      | some s => exact congrArg some h

/-- The components of a question, as they are written. -/
def written (q : Question) : Str × Str × Str × Str × Str :=
  (DecisionMemo.component q.subjectId, q.resourceId, q.action, DecisionMemo.component q.scope,
    DecisionMemo.component q.actingTenant)

/-- A key that can be taken apart is that of no other components. -/
theorem written_eq {q q' : Question} (h : q.Separable) (hkey : q'.key = q.key) :
    q'.written = q.written := by
  have h' : q'.Separable := by
    rw [separable_iff, hkey, ← separable_iff]
    exact h
  rw [key_eq, key_eq] at hkey
  -- one component after the other, each up to the next separator
  have hpeel : ∀ {a a' r r' : Str}, 0x1F ∉ a → 0x1F ∉ a' → a ++ 0x1F :: r = a' ++ 0x1F :: r' →
      a = a' ∧ r = r' := by
    intro a a' r r' ha ha' heq
    obtain ⟨hfront, -, hrest⟩ := Prompt.append_cons_inj (p := (· ≠ 0x1F))
      (fun x hx hsep => ha (hsep ▸ hx)) (fun x hx hsep => ha' (hsep ▸ hx))
      (not_not_intro rfl) (not_not_intro rfl) heq
    exact ⟨hfront, hrest⟩
  obtain ⟨hsubject, hkey⟩ := hpeel h'.subjectId h.subjectId hkey
  obtain ⟨hresource, hkey⟩ := hpeel h'.resourceId h.resourceId hkey
  obtain ⟨haction, hkey⟩ := hpeel h'.action h.action hkey
  obtain ⟨hscope, hacting⟩ := hpeel h'.scope h.scope hkey
  simp only [written, Prod.mk.injEq]
  exact ⟨hsubject, hresource, haction, hscope, hacting⟩

/-- A question is what is written, where each component can be told from the text of another. -/
theorem eq_of_written {q q' : Question} (hwritten : q'.written = q.written)
    (htold : ∀ a b : Option Str, (a, b) ∈ [(q'.subjectId, q.subjectId), (q'.scope, q.scope),
      (q'.actingTenant, q.actingTenant)] → DecisionMemo.component a = DecisionMemo.component b →
        a = b) : q' = q := by
  simp only [written, Prod.mk.injEq] at hwritten
  obtain ⟨hsubject, hresource, haction, hscope, hacting⟩ := hwritten
  have hsubject := htold _ _ (by simp) hsubject
  have hscope := htold _ _ (by simp) hscope
  have hacting := htold _ _ (by simp) hacting
  cases q
  cases q'
  simp only [mk.injEq]
  exact ⟨hsubject, hresource, haction, hscope, hacting⟩

/-! ## Questions of one key -/

/-- A text that ends in more than another is not it. -/
theorem ne_append_cons (c : UInt8) (a s : Str) : s ≠ a ++ c :: s := by
  intro h
  have hlength := congrArg List.length h
  simp only [List.length_append, List.length_cons] at hlength
  omega

/-- An absent component and the text that stands for it make one key. -/
theorem swapped_component {a : Option Str} (h : a = none ∨ a = some [0x01]) :
    ∃ b, b ≠ a ∧ DecisionMemo.component b = DecisionMemo.component a := by
  rcases h with rfl | rfl
  · exact ⟨some [0x01], nofun, rfl⟩
  · exact ⟨none, nofun, rfl⟩

/-- A separator in a component may as well end it. -/
theorem shifted {q : Question} (h : ¬q.Separable) : ∃ q', q'.key = q.key ∧ q' ≠ q := by
  have hcomponent {a : Option Str} (ha : 0x1F ∈ DecisionMemo.component a) :
      ∃ b c, a = some (b ++ 0x1F :: c) := by
    obtain ⟨b, c, hsplit⟩ := List.append_of_mem ha
    cases a with
    | none =>
        have hmem : (0x1F : UInt8) ∈ [0x01] := ha
        simp at hmem
    | some s => exact ⟨b, c, congrArg some hsplit⟩
  -- the text behind a separator moves into the field beside it, and the joined key is the same
  by_cases hsubject : 0x1F ∈ DecisionMemo.component q.subjectId
  · obtain ⟨b, c, ha⟩ := hcomponent hsubject
    refine ⟨{ q with subjectId := some b, resourceId := c ++ 0x1F :: q.resourceId }, ?_, ?_⟩
    · rw [key_eq, key_eq, ha]
      simp [DecisionMemo.component]
    · intro heq
      exact ne_append_cons _ _ _ (congrArg resourceId heq).symm
  by_cases hresource : 0x1F ∈ q.resourceId
  · obtain ⟨b, c, ha⟩ := List.append_of_mem hresource
    refine ⟨{ q with resourceId := b, action := c ++ 0x1F :: q.action }, ?_, ?_⟩
    · rw [key_eq, key_eq, ha]
      simp
    · intro heq
      exact ne_append_cons _ _ _ (congrArg action heq).symm
  by_cases haction : 0x1F ∈ q.action
  · obtain ⟨b, c, ha⟩ := List.append_of_mem haction
    refine ⟨{ q with resourceId := q.resourceId ++ 0x1F :: b, action := c }, ?_, ?_⟩
    · rw [key_eq, key_eq, ha]
      simp
    · intro heq
      have hshort : c = q.action := congrArg action heq
      rw [ha] at hshort
      exact ne_append_cons _ _ _ hshort
  by_cases hscope : 0x1F ∈ DecisionMemo.component q.scope
  · obtain ⟨b, c, ha⟩ := hcomponent hscope
    refine ⟨{ q with action := q.action ++ 0x1F :: b, scope := some c }, ?_, ?_⟩
    · rw [key_eq, key_eq, ha]
      simp [DecisionMemo.component]
    · intro heq
      have hshort : some c = q.scope := congrArg scope heq
      rw [ha] at hshort
      exact ne_append_cons _ _ _ (Option.some.inj hshort)
  by_cases hacting : 0x1F ∈ DecisionMemo.component q.actingTenant
  · obtain ⟨b, c, ha⟩ := hcomponent hacting
    refine ⟨{ q with
      scope := some (DecisionMemo.component q.scope ++ 0x1F :: b), actingTenant := some c }, ?_, ?_⟩
    · rw [key_eq, key_eq, ha]
      simp [DecisionMemo.component]
    · intro heq
      have hshort : some c = q.actingTenant := congrArg actingTenant heq
      rw [ha] at hshort
      exact ne_append_cons _ _ _ (Option.some.inj hshort)
  exact absurd ⟨hsubject, hresource, haction, hscope, hacting⟩ h

/-- A component that is absent, or the text that stands for an absent one, may be the other. -/
theorem swapped {q : Question} (h : ¬(q.Unmarked ∧ q.Total)) : ∃ q', q'.key = q.key ∧ q' ≠ q := by
  by_cases hsubject : q.subjectId = none ∨ q.subjectId = some [0x01]
  · obtain ⟨b, hne, hb⟩ := swapped_component hsubject
    refine ⟨{ q with subjectId := b }, ?_, fun heq => hne (congrArg subjectId heq)⟩
    rw [key_eq, key_eq, hb]
  by_cases hscope : q.scope = none ∨ q.scope = some [0x01]
  · obtain ⟨b, hne, hb⟩ := swapped_component hscope
    refine ⟨{ q with scope := b }, ?_, fun heq => hne (congrArg scope heq)⟩
    rw [key_eq, key_eq, hb]
  by_cases hacting : q.actingTenant = none ∨ q.actingTenant = some [0x01]
  · obtain ⟨b, hne, hb⟩ := swapped_component hacting
    refine ⟨{ q with actingTenant := b }, ?_, fun heq => hne (congrArg actingTenant heq)⟩
    rw [key_eq, key_eq, hb]
  rw [not_or] at hsubject hscope hacting
  exact absurd ⟨⟨hsubject.2, hscope.2, hacting.2⟩, hsubject.1, hscope.1, hacting.1⟩ h

end Question

open Question

/-- A question has a key of its own exactly when every component is there, and none has the
separator in it or is the mark of an absent one.  Two questions without those texts have different
keys as well when they leave components out. -/
theorem key_unambiguous_iff (q : Question) :
    ((∀ q' : Question, q'.key = q.key → q' = q) ↔ q.Separable ∧ q.Unmarked ∧ q.Total) ∧
      (q.Separable → q.Unmarked → ∀ q' : Question, q'.Unmarked → q'.key = q.key → q' = q) := by
  refine ⟨⟨fun hown => ?_, ?_⟩, fun hseparable hunmarked q' hunmarked' hkey => ?_⟩
  · have hseparable : q.Separable := by
      by_contra hnot
      obtain ⟨q', hkey, hne⟩ := shifted hnot
      exact hne (hown q' hkey)
    have htold : q.Unmarked ∧ q.Total := by
      by_contra hnot
      obtain ⟨q', hkey, hne⟩ := swapped hnot
      exact hne (hown q' hkey)
    exact ⟨hseparable, htold⟩
  · rintro ⟨hseparable, hunmarked, htotal⟩ q' hkey
    refine eq_of_written (written_eq hseparable hkey) fun a b hab hcomponent => ?_
    simp only [List.mem_cons, Prod.mk.injEq, List.not_mem_nil, or_false] at hab
    -- the text of a component of `q` is that of a component which is there
    rcases hab with ⟨rfl, rfl⟩ | ⟨rfl, rfl⟩ | ⟨rfl, rfl⟩
    · exact component_eq_some hunmarked.subjectId htotal.subjectId hcomponent
    · exact component_eq_some hunmarked.scope htotal.scope hcomponent
    · exact component_eq_some hunmarked.actingTenant htotal.actingTenant hcomponent
  · refine eq_of_written (written_eq hseparable hkey) fun a b hab hcomponent => ?_
    simp only [List.mem_cons, Prod.mk.injEq, List.not_mem_nil, or_false] at hab
    rcases hab with ⟨rfl, rfl⟩ | ⟨rfl, rfl⟩ | ⟨rfl, rfl⟩
    · exact component_inj hunmarked'.subjectId hunmarked.subjectId hcomponent
    · exact component_inj hunmarked'.scope hunmarked.scope hcomponent
    · exact component_inj hunmarked'.actingTenant hunmarked.actingTenant hcomponent

/-- The decision on a narrow question answers a broad one. -/
theorem key_not_injective : ¬∀ q q' : Question, q'.key = q.key → q' = q := by
  intro hclaim
  have heq := hclaim ⟨none, "doc", "read", none, none⟩ ⟨none, "doc", "read", some [0x01], none⟩ rfl
  exact absurd heq (by decide)

end Axiam.Memo
