import Axiam.Core.Str
import Mathlib.Logic.Function.Basic

/-!
# The decision memo

`DecisionMemo` (`src/decision_memo.hpp`): decisions by key, each good for a lifetime of at
most five seconds, at most 1024 of them, the oldest dropped first.  The type of a decision
is a parameter, so that the same memo serves a client and a model that tags its decisions.
-/

namespace Axiam

/-- Why an access was allowed or not. -/
structure AccessDecision where
  allowed : Bool := false
  reason : Option Str := none
  reasonCode : Option Str := none
  deriving DecidableEq

namespace Memo

def milliseconds (n : Int) : Int := n * 1000000

/-- `kMemoMaxTtl`. -/
def kMemoMaxTtl : Int := milliseconds 5000

/-- `kMemoMaxEntries`. -/
def kMemoMaxEntries : Nat := 1024

structure Entry (δ : Type) where
  decision : δ
  storedAt : Int

structure DecisionMemo (δ : Type) where
  /-- The lifetime after clamping; zero when the memo is off. -/
  ttl : Int
  entries : Str → Option (Entry δ) := fun _ => none
  /-- The keys by age of their entry, the oldest first. -/
  order : List Str := []

namespace DecisionMemo

variable {δ : Type}

/-- The constructor: a requested lifetime that is not positive turns the memo off. -/
def build (requestedTtl : Int) : DecisionMemo δ where
  ttl := if requestedTtl ≤ 0 then 0 else min requestedTtl kMemoMaxTtl

def enabled (m : DecisionMemo δ) : Bool := 0 < m.ttl

/-- U+0001 marks an absent component, U+001F separates them. -/
def component : Option Str → Str
  | some s => s
  | none => [0x01]

/-- `key`. -/
def key (subjectId : Option Str) (resourceId action : Str) (scope actingTenant : Option Str) :
    Str :=
  component subjectId ++ [0x1F] ++ resourceId ++ [0x1F] ++ action ++ [0x1F] ++
    component scope ++ [0x1F] ++ component actingTenant

/-- `erase_locked`. -/
def erase (m : DecisionMemo δ) (k : Str) : DecisionMemo δ :=
  match m.entries k with
  | none => m
  | some _ => { m with entries := Function.update m.entries k none, order := m.order.erase k }

/-- `get`, at a reading of the clock: an expired entry is dropped. -/
def get (m : DecisionMemo δ) (k : Str) (now : Int) : Option δ × DecisionMemo δ :=
  if m.enabled = false then (none, m)
  else match m.entries k with
    | none => (none, m)
    | some entry =>
        if m.ttl ≤ now - entry.storedAt then (none, m.erase k) else (some entry.decision, m)

/-- The eviction loop of `put`: the front goes while there are too many. -/
def evict (ttl : Int) (entries : Str → Option (Entry δ)) : List Str → DecisionMemo δ
  | [] => ⟨ttl, entries, []⟩
  | oldest :: rest =>
      if kMemoMaxEntries < rest.length + 1 then
        evict ttl (Function.update entries oldest none) rest
      else ⟨ttl, entries, oldest :: rest⟩

/-- `put`, at a reading of the clock. -/
def put (m : DecisionMemo δ) (k : Str) (decision : δ) (now : Int) : DecisionMemo δ :=
  if m.enabled = false then m
  else
    let m := m.erase k
    evict m.ttl (Function.update m.entries k (some ⟨decision, now⟩)) (m.order ++ [k])

/-- `clear`. -/
def clear (m : DecisionMemo δ) : DecisionMemo δ :=
  { m with entries := fun _ => none, order := [] }

/-! ## What the operations do to the entries -/

/-- Dropping a key leaves no entry that was not there. -/
theorem entry_of_dropped {entries : Str → Option (Entry δ)} {k j : Str} {e : Entry δ}
    (h : Function.update entries k none j = some e) : entries j = some e := by
  rcases eq_or_ne j k with rfl | hne
  · rw [Function.update_self] at h
    cases h
  · rwa [Function.update_of_ne hne] at h

theorem erase_entries {m : DecisionMemo δ} {k j : Str} {e : Entry δ}
    (h : (m.erase k).entries j = some e) : m.entries j = some e := by
  unfold erase at h
  split at h
  · exact h
  · exact entry_of_dropped h

theorem get_entries {m : DecisionMemo δ} {k j : Str} {now : Int} {e : Entry δ}
    (h : (m.get k now).2.entries j = some e) : m.entries j = some e := by
  unfold get at h
  split at h
  · exact h
  split at h
  · exact h
  split at h
  · exact erase_entries h
  · exact h

/-- A hit is an entry of the memo. -/
theorem get_eq_some {m : DecisionMemo δ} {k : Str} {now : Int} {d : δ}
    (h : (m.get k now).1 = some d) : ∃ e, m.entries k = some e ∧ e.decision = d := by
  unfold get at h
  split at h
  · cases h
  split at h
  · cases h
  next e hfound =>
    split at h
    · cases h
    · cases h
      exact ⟨e, hfound, rfl⟩

theorem evict_entries {ttl : Int} {entries : Str → Option (Entry δ)} {order : List Str} {j : Str}
    {e : Entry δ} (h : (evict ttl entries order).entries j = some e) : entries j = some e := by
  induction order generalizing entries with
  | nil => exact h
  | cons oldest rest ih =>
      unfold evict at h
      split at h
      · exact entry_of_dropped (ih h)
      · exact h

/-- After a `put`: the decision put, or an entry from before. -/
theorem put_entries {m : DecisionMemo δ} {k j : Str} {d : δ} {now : Int} {e : Entry δ}
    (h : (m.put k d now).entries j = some e) :
    (j = k ∧ e.decision = d) ∨ m.entries j = some e := by
  unfold put at h
  split at h
  · exact .inr h
  have hupdated := evict_entries h
  rcases eq_or_ne j k with rfl | hne
  · rw [Function.update_self] at hupdated
    cases hupdated
    exact .inl ⟨rfl, rfl⟩
  · rw [Function.update_of_ne hne] at hupdated
    exact .inr (erase_entries hupdated)

theorem clear_entries (m : DecisionMemo δ) (j : Str) : m.clear.entries j = none := rfl

/-! ## The last component of a key -/

theorem eq_of_append_sep_eq {sep : UInt8} {a a' b b' : Str} (hb : sep ∉ b) (hb' : sep ∉ b')
    (h : a ++ [sep] ++ b = a' ++ [sep] ++ b') : b = b' := by
  -- read backwards, both halves end at the first separator
  have hlast (x y : Str) (hy : sep ∉ y) :
      ((x ++ [sep] ++ y).reverse.takeWhile (· != sep)).reverse = y := by
    rw [List.reverse_append, List.takeWhile_append_of_pos]
    · simp
    · intro c hc
      rw [bne_iff_ne]
      rintro rfl
      exact hy (List.mem_reverse.mp hc)
  rw [← hlast a b hb, h, hlast a' b' hb']

/-- Two keys are equal only if their acting tenants are, where a tenant has no separator. -/
theorem key_acting {subjectId subjectId' scope scope' acting acting' : Option Str}
    {resourceId resourceId' action action' : Str}
    (hacting : 0x1F ∉ component acting) (hacting' : 0x1F ∉ component acting')
    (h : key subjectId resourceId action scope acting =
      key subjectId' resourceId' action' scope' acting') :
    component acting = component acting' :=
  eq_of_append_sep_eq hacting hacting' h

end DecisionMemo

end Memo

end Axiam
