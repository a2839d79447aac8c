import Axiam.Lib.Run
import Axiam.Memo.DecisionMemo

/-!
# The memo over whole runs

The map and the list of a memo are written separately, by `put`, by the expiry in `get`, by the
eviction and by `clear`.  Over every sequence of calls the list has the keys of the map, each once,
in the order of their last `put`, and what `get` returns was put last for its key.
-/

namespace Axiam.Memo

open Axiam.Lib

variable {δ : Type}

/-- A call of a memo. -/
inductive MemoCall (δ : Type) where
  | put (key : Str) (decision : δ)
  | get (key : Str)
  | clear

/-- One call: what was called, the reading of the clock, and what came back. -/
structure MemoEvent (δ : Type) where
  call : MemoCall δ
  now : Int
  returned : Option δ

/-- The call, as the memo performs it. -/
def DecisionMemo.perform (m : DecisionMemo δ) (call : MemoCall δ) (now : Int) :
    Option δ × DecisionMemo δ :=
  match call with
  | .put k d => (none, m.put k d now)
  | .get k => m.get k now
  | .clear => (none, m.clear)

def DecisionMemo.Performs (m : DecisionMemo δ) (e : MemoEvent δ) (m' : DecisionMemo δ) : Prop :=
  m.perform e.call e.now = (e.returned, m')

/-- The event puts a decision for the key. -/
def MemoEvent.Puts (e : MemoEvent δ) (k : Str) : Prop := ∃ d, e.call = .put k d

/-- What was put last for a key, and when, since the last `clear`. -/
def lastPut (past : List (Transition (DecisionMemo δ) (MemoEvent δ))) (k : Str) :
    Option (Entry δ) :=
  past.foldl (fun before t =>
    match t.label.call with
    | .put j d => if j = k then some ⟨d, t.label.now⟩ else before
    | .get _ => before
    | .clear => none) none

/-- The last `put` of `b` came after that of `a`. -/
def PutLater (past : List (Transition (DecisionMemo δ) (MemoEvent δ))) (a b : Str) : Prop :=
  ∃ earlier later, past = earlier ++ later ∧ (∃ t ∈ later, t.label.Puts b) ∧
    ∀ t ∈ later, ¬t.label.Puts a

/-- A memo as the calls before it leave it. -/
structure Kept (requestedTtl : Int) (past : List (Transition (DecisionMemo δ) (MemoEvent δ)))
    (m : DecisionMemo δ) : Prop where
  nodup : m.order.Nodup
  keys : ∀ k, k ∈ m.order ↔ (m.entries k).isSome = true
  bounded : m.order.length ≤ kMemoMaxEntries
  ordered : m.order.Pairwise (PutLater past)
  entries : ∀ k e, m.entries k = some e → lastPut past k = some e
  ttl : m.ttl = (DecisionMemo.build requestedTtl : DecisionMemo δ).ttl
  /-- A memo that is off is empty. -/
  off : m.enabled = false → m.order = []

/-- What a `get` returned was put last for its key, a time ago that is less than the lifetime. -/
def Fresh (ttl : Int) (past : List (Transition (DecisionMemo δ) (MemoEvent δ)))
    (e : MemoEvent δ) : Prop :=
  ∀ k d, e.call = .get k → e.returned = some d →
    ∃ entry, lastPut past k = some entry ∧ entry.decision = d ∧ e.now - entry.storedAt < ttl

/-! ## The entries and the list -/

/-- The list has the keys of the map, each once. -/
structure Listed (entries : Str → Option (Entry δ)) (order : List Str) : Prop where
  nodup : order.Nodup
  keys : ∀ k, k ∈ order ↔ (entries k).isSome = true

theorem Listed.erase {m : DecisionMemo δ} (h : Listed m.entries m.order) (k : Str) :
    Listed (m.erase k).entries (m.erase k).order := by
  unfold DecisionMemo.erase
  split
  · exact h
  · refine ⟨h.nodup.erase k, fun j => ?_⟩
    simp only
    rw [h.nodup.mem_erase_iff, h.keys j]
    by_cases hj : j = k
    · subst hj
      simp [Function.update_self]
    · simp [hj]

/-- Without the key, whether it was there or not. -/
theorem erase_order_subset (m : DecisionMemo δ) (k : Str) : (m.erase k).order.Sublist m.order := by
  unfold DecisionMemo.erase
  split
  · exact List.Sublist.refl _
  · exact List.erase_sublist

theorem erase_entries_self (m : DecisionMemo δ) (k : Str) : (m.erase k).entries k = none := by
  unfold DecisionMemo.erase
  split
  · assumption
  · exact Function.update_self ..

theorem Listed.push {entries : Str → Option (Entry δ)} {order : List Str} (h : Listed entries order)
    {k : Str} (hk : entries k = none) (e : Entry δ) :
    Listed (Function.update entries k (some e)) (order ++ [k]) := by
  have habsent : k ∉ order := by
    rw [h.keys, hk]
    simp
  refine ⟨?_, fun j => ?_⟩
  · rw [List.nodup_append]
    refine ⟨h.nodup, by simp, fun a ha b hb => ?_⟩
    rw [List.mem_singleton.mp hb]
    rintro rfl
    exact habsent ha
  · rw [List.mem_append, List.mem_singleton, h.keys j]
    by_cases hj : j = k
    · subst hj
      simp [Function.update_self]
    · simp [hj]

/-- The eviction takes from the front, as much as there is too many. -/
theorem Listed.evict (ttl : Int) {entries : Str → Option (Entry δ)} {order : List Str}
    (h : Listed entries order) :
    Listed (DecisionMemo.evict ttl entries order).entries
        (DecisionMemo.evict ttl entries order).order ∧
      (DecisionMemo.evict ttl entries order).order.Sublist order ∧
      (DecisionMemo.evict ttl entries order).order.length ≤ kMemoMaxEntries ∧
      (DecisionMemo.evict ttl entries order).ttl = ttl := by
  induction order generalizing entries with
  | nil => exact ⟨h, List.Sublist.refl _, Nat.zero_le _, rfl⟩
  | cons oldest rest ih =>
      unfold DecisionMemo.evict
      split
      · -- the oldest goes, from the list and from the map
        have hrest : Listed (Function.update entries oldest none) rest := by
          have hnodup := List.nodup_cons.mp h.nodup
          refine ⟨hnodup.2, fun j => ?_⟩
          have hj := h.keys j
          by_cases hsame : j = oldest
          · subst hsame
            simp [Function.update_self, hnodup.1]
          · rw [Function.update_of_ne hsame, ← hj, List.mem_cons]
            exact (or_iff_right hsame).symm
        obtain ⟨hlisted, hsub, hlength, httl⟩ := ih hrest
        exact ⟨hlisted, hsub.cons oldest, hlength, httl⟩
      · rename_i hfits
        refine ⟨h, List.Sublist.refl _, ?_, rfl⟩
        simp only [List.length_cons]
        omega

/-! ## One call -/

section

variable {past : List (Transition (DecisionMemo δ) (MemoEvent δ))}
  {t : Transition (DecisionMemo δ) (MemoEvent δ)}

theorem lastPut_concat (k : Str) : lastPut (past ++ [t]) k =
    match t.label.call with
    | .put j d => if j = k then some ⟨d, t.label.now⟩ else lastPut past k
    | .get _ => lastPut past k
    | .clear => none := by
  unfold lastPut
  rw [List.foldl_append]
  rfl

/-- What was put later stays so, as long as the earlier one is not put again. -/
theorem PutLater.concat {a b : Str} (h : PutLater past a b) (ht : ¬t.label.Puts a) :
    PutLater (past ++ [t]) a b := by
  obtain ⟨earlier, later, rfl, ⟨u, hu, hputs⟩, hnone⟩ := h
  refine ⟨earlier, later ++ [t], by rw [List.append_assoc], ⟨u, ?_, hputs⟩, fun v hv => ?_⟩
  · exact List.mem_append_left _ hu
  · rcases List.mem_append.mp hv with hv | hv
    · exact hnone v hv
    · rw [List.mem_singleton.mp hv]
      exact ht

/-- A key that is put now is put later than every other. -/
theorem putLater_now {a k : Str} (hputs : t.label.Puts k) (hne : a ≠ k) :
    PutLater (past ++ [t]) a k := by
  refine ⟨past, [t], rfl, ⟨t, List.mem_singleton_self t, hputs⟩, fun v hv => ?_⟩
  rw [List.mem_singleton.mp hv]
  rintro ⟨d, hd⟩
  obtain ⟨d', hd'⟩ := hputs
  rw [hd] at hd'
  cases hd'
  exact hne rfl

variable {requestedTtl : Int} {m m' : DecisionMemo δ}

/-- The list is the map's, whatever is written to either. -/
theorem Kept.listed (h : Kept requestedTtl past m) : Listed m.entries m.order := ⟨h.nodup, h.keys⟩

/-- A call that puts nothing: fewer keys, in the order they had. -/
theorem Kept.shrink (h : Kept requestedTtl past m) (hlisted : Listed m'.entries m'.order)
    (hsub : m'.order.Sublist m.order)
    (hentries : ∀ k e, m'.entries k = some e → lastPut (past ++ [t]) k = some e)
    (httl : m'.ttl = m.ttl) (hputs : ∀ k, ¬t.label.Puts k) :
    Kept requestedTtl (past ++ [t]) m' where
  nodup := hlisted.nodup
  keys := hlisted.keys
  bounded := Nat.le_trans hsub.length_le h.bounded
  ordered := (h.ordered.imp fun hlater => hlater.concat (hputs _)).sublist hsub
  entries := hentries
  ttl := httl.trans h.ttl
  off hoff := by
    have hempty := h.off (by rw [← hoff, DecisionMemo.enabled, DecisionMemo.enabled, httl])
    rw [hempty] at hsub
    exact List.sublist_nil.mp hsub

theorem Kept.get (h : Kept requestedTtl past m) {k : Str} {now : Int} {returned : Option δ}
    (ht : t.label = ⟨.get k, now, returned⟩) :
    Kept requestedTtl (past ++ [t]) (m.get k now).2 := by
  have hlast : ∀ j, lastPut (past ++ [t]) j = lastPut past j := by
    intro j
    rw [lastPut_concat, ht]
  have hputs : ∀ j, ¬t.label.Puts j := by
    rintro j ⟨d, hd⟩
    rw [ht] at hd
    cases hd
  have hentries : ∀ j e, (m.get k now).2.entries j = some e → lastPut (past ++ [t]) j = some e := by
    intro j e he
    rw [hlast]
    exact h.entries j e (DecisionMemo.get_entries he)
  revert hentries
  unfold DecisionMemo.get
  -- an expired entry is the only thing a `get` drops
  split
  · exact fun hentries => h.shrink h.listed (List.Sublist.refl _) hentries rfl hputs
  split
  · exact fun hentries => h.shrink h.listed (List.Sublist.refl _) hentries rfl hputs
  split
  · intro hentries
    refine h.shrink (h.listed.erase k) (erase_order_subset m k) hentries ?_ hputs
    unfold DecisionMemo.erase
    split <;> rfl
  · exact fun hentries => h.shrink h.listed (List.Sublist.refl _) hentries rfl hputs

theorem Kept.put (h : Kept requestedTtl past m) {k : Str} {d : δ} {now : Int} {returned : Option δ}
    (ht : t.label = ⟨.put k d, now, returned⟩) :
    Kept requestedTtl (past ++ [t]) (m.put k d now) := by
  have hputs : t.label.Puts k := ⟨d, by rw [ht]⟩
  have hother : ∀ j, j ≠ k → ¬t.label.Puts j := by
    rintro j hj ⟨d', hd⟩
    rw [ht] at hd
    cases hd
    exact hj rfl
  have hlast : ∀ j, lastPut (past ++ [t]) j = if k = j then some ⟨d, now⟩ else lastPut past j := by
    intro j
    rw [lastPut_concat, ht]
  unfold DecisionMemo.put
  split
  · -- nothing is stored, and nothing was
    rename_i hoff
    have hempty : ∀ j, (m.entries j).isSome ≠ true := by
      intro j hj
      have hmem := (h.keys j).mpr hj
      rw [h.off hoff] at hmem
      exact absurd hmem List.not_mem_nil
    refine ⟨h.nodup, h.keys, h.bounded, ?_, fun j e hj => ?_, h.ttl, h.off⟩
    · rw [h.off hoff]
      exact List.Pairwise.nil
    · exact absurd (by rw [hj]; rfl) (hempty j)
  · rename_i hon
    have herased := h.listed.erase k
    have hself := erase_entries_self m k
    have hpushed := herased.push hself ⟨d, now⟩
    obtain ⟨hlisted, hsub, hbounded, httl⟩ := hpushed.evict (m.erase k).ttl
    have hkept : (m.erase k).ttl = m.ttl := by
      unfold DecisionMemo.erase
      split <;> rfl
    have habsent : k ∉ (m.erase k).order := by
      rw [herased.keys, hself]
      simp
    have hordered : ((m.erase k).order ++ [k]).Pairwise (PutLater (past ++ [t])) := by
      rw [List.pairwise_append]
      refine ⟨?_, List.pairwise_singleton .., fun a ha b hb => ?_⟩
      · have hbefore := h.ordered.sublist (erase_order_subset m k)
        refine hbefore.imp_of_mem fun {a b} ha _ hlater => hlater.concat (hother a ?_)
        rintro rfl
        exact habsent ha
      · rw [List.mem_singleton.mp hb]
        refine putLater_now hputs ?_
        rintro rfl
        exact habsent ha
    refine ⟨hlisted.nodup, hlisted.keys, hbounded, hordered.sublist hsub, fun j e he => ?_,
      httl.trans (hkept.trans h.ttl), fun hoff => ?_⟩
    · -- what is in the map was put now, or is an entry from before
      rw [hlast]
      have hupdated := DecisionMemo.evict_entries he
      by_cases hj : j = k
      · subst hj
        rw [Function.update_self] at hupdated
        rw [if_pos rfl, hupdated]
      · rw [Function.update_of_ne hj] at hupdated
        rw [if_neg (Ne.symm hj)]
        exact h.entries j e (DecisionMemo.erase_entries hupdated)
    · refine absurd ?_ hon
      rw [← hoff, DecisionMemo.enabled, DecisionMemo.enabled, httl, hkept]

theorem Kept.clear (h : Kept requestedTtl past m) : Kept requestedTtl (past ++ [t]) m.clear where
  nodup := List.nodup_nil
  keys k := by simp [DecisionMemo.clear]
  bounded := Nat.zero_le _
  ordered := List.Pairwise.nil
  entries _ _ he := nomatch he
  ttl := h.ttl
  off _ := rfl

/-- One call keeps what the memo owes to the calls before it. -/
theorem Kept.performs {e : MemoEvent δ} (h : Kept requestedTtl past m) (hstep : m.Performs e m') :
    Kept requestedTtl (past ++ [⟨m, e, m'⟩]) m' := by
  obtain ⟨call, now, returned⟩ := e
  have hpost : m' = (m.perform call now).2 := (congrArg Prod.snd hstep).symm
  rw [hpost]
  cases call with
  | put k d => exact h.put rfl
  | get k => exact h.get rfl
  | clear => exact h.clear

/-- What one `get` returns. -/
theorem Kept.fresh {e : MemoEvent δ} (h : Kept requestedTtl past m) (hstep : m.Performs e m') :
    Fresh (DecisionMemo.build requestedTtl : DecisionMemo δ).ttl past e := by
  intro k d hcall hreturned
  have hget : (m.get k e.now).1 = some d := by
    unfold DecisionMemo.Performs DecisionMemo.perform at hstep
    rw [hcall, hreturned] at hstep
    exact congrArg Prod.fst hstep
  rw [← h.ttl]
  unfold DecisionMemo.get at hget
  split at hget
  · cases hget
  split at hget
  · cases hget
  rename_i entry hfound
  split at hget
  · cases hget
  · rename_i hyoung
    refine ⟨entry, h.entries k entry hfound, Option.some.inj hget, ?_⟩
    omega

end

/-! ## Runs -/

/-- Five seconds at most, whatever is asked for. -/
theorem build_ttl_le (requestedTtl : Int) :
    (DecisionMemo.build requestedTtl : DecisionMemo δ).ttl ≤ kMemoMaxTtl := by
  unfold DecisionMemo.build
  simp only
  split
  · decide
  · omega

/-- Over every sequence of calls, whatever the clock reads: the list and the map have the same
keys, at most 1024, each once and in the order of its last `put`, and a `get` returns the last
decision put for its key, while that is younger than a lifetime of at most five seconds. -/
theorem memo_upkeep (requestedTtl : Int) {trace : List (Transition (DecisionMemo δ) (MemoEvent δ))}
    {last : DecisionMemo δ}
    (hrun : Run DecisionMemo.Performs (DecisionMemo.build requestedTtl) trace last) :
    (DecisionMemo.build requestedTtl : DecisionMemo δ).ttl ≤ milliseconds 5000 ∧
      Kept requestedTtl trace last ∧ ∀ earlier t later, trace = earlier ++ t :: later →
        Kept requestedTtl earlier t.pre ∧
          Fresh (DecisionMemo.build requestedTtl : DecisionMemo δ).ttl earlier t.label := by
  have hinit : Kept requestedTtl [] (DecisionMemo.build requestedTtl : DecisionMemo δ) :=
    ⟨List.nodup_nil, fun k => by simp [DecisionMemo.build], Nat.zero_le _, List.Pairwise.nil,
      nofun, rfl, fun _ => rfl⟩
  obtain ⟨hlast, hbefore⟩ := hrun.history (I := Kept requestedTtl)
    (fun past m e m' hkept hstep => hkept.performs hstep) hinit
  refine ⟨build_ttl_le requestedTtl, hlast, fun earlier t later hsplit => ?_⟩
  have hkept := hbefore earlier t later hsplit
  have hstep := hrun.steps t (by rw [hsplit]; exact List.mem_append_right _ List.mem_cons_self)
  exact ⟨hkept, hkept.fresh hstep⟩

/-- A decision put, read in time, and read too late. -/
def agedEvents : List (MemoEvent Bool) :=
  [⟨.put "k" true, 0, none⟩, ⟨.get "k", 1, some true⟩, ⟨.get "k", milliseconds 5000, none⟩]

def agedTrace : List (Transition (DecisionMemo Bool) (MemoEvent Bool)) :=
  Run.follow (fun m e => (m.perform e.call e.now).2) (.build (milliseconds 60000)) agedEvents

def agedLast : DecisionMemo Bool :=
  agedEvents.foldl (fun m e => (m.perform e.call e.now).2) (.build (milliseconds 60000))

theorem agedTrace_kept : (DecisionMemo.build (milliseconds 60000) : DecisionMemo Bool).ttl ≤
      milliseconds 5000 ∧
    Kept (milliseconds 60000) agedTrace agedLast ∧ ∀ earlier t later,
      agedTrace = earlier ++ t :: later → Kept (milliseconds 60000) earlier t.pre ∧
        Fresh (DecisionMemo.build (milliseconds 60000) : DecisionMemo Bool).ttl earlier t.label :=
  memo_upkeep (milliseconds 60000)
    (.cons (Prod.ext rfl rfl) (.cons (Prod.ext (by decide) rfl)
      (.cons (Prod.ext (by decide) rfl) (.nil _))))

end Axiam.Memo
