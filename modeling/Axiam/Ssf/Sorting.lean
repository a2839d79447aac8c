import Axiam.Ssf.Bound
import Axiam.Ssf.ReplayStore
import Mathlib.Algebra.GroupWithZero.Nat
import Mathlib.Data.List.Perm.Basic

/-!
# How a poll sorts its SETs

Each entry of `sets` ends in one of three lists, and the replay store is asked about a SET only
when everything else has passed.  Once an answer of the store is missing, the store is asked nothing
more in that batch.  What tells a missing answer from a failed key fetch is the cause of a
`NetworkError`, and for a key fetch that is a text the transport chose.
-/

namespace Axiam.Ssf

open Axiam.Lib

/-! ## Steps 1 to 8 -/

namespace Arrival

variable (env : Env) (a : Arrival)

/-- The SET passes steps 1 to 8; the event is what it holds. -/
def Passes (event : SecurityEvent) : Prop :=
  ∃ parts kid key, headerKid env a.set = .ok (parts, kid) ∧
    (keyFor env kid a.before).1 = .ok (some key) ∧
      checkClaims env parts key a.expectedJti = .ok event

/-- What the verification comes to once the store has answered. -/
def told (event : SecurityEvent) : Except Exc Bool → Except Exc SecurityEvent
  | .ok true => .ok event
  | .ok false => .error (refusal .replayed "this jti was already accepted")
  | .error e => .error (.network (str "ssf: the replay store could not answer: " ++ e.what)
      kReplayStoreUnavailable)

/-- The key fetch for the SET failed, and what it threw names itself a failure of the store. -/
def FetchNamesStore : Prop :=
  ∃ parts kid what, headerKid env a.set = .ok (parts, kid) ∧
    (keyFor env kid a.before).1 = .error (.network what kReplayStoreUnavailable)

/-- The verification ended in what a poll takes for a missing answer of the store. -/
def NamesStore : Prop := ∃ what, a.outcome env = .error (.network what kReplayStoreUnavailable)

/-- The store was asked about the SET and did not answer. -/
def StoreFailed : Prop :=
  ∃ event e, a.Passes env event ∧ a.askStore = true ∧ env.store a.before.asked event.jti = .error e

end Arrival

/-- How a verification ends, and what the store was asked in it: refused by a step before the
ninth, left without a key, not asked about, or told by the store. -/
inductive Verified (env : Env) (a : Arrival) : Except Exc SecurityEvent → List Str → Prop
  | refused {reason : SetFailureReason} {why : Str} : reason ≠ .replayed →
      (∀ event, ¬a.Passes env event) → Verified env a (.error (refusal reason why)) []
  | unread {parts : SetParts} {kid : Str} {e : Exc} : headerKid env a.set = .ok (parts, kid) →
      (keyFor env kid a.before).1 = .error e → (∀ event, ¬a.Passes env event) →
      Verified env a (.error e) []
  | unasked {event : SecurityEvent} {what : Str} : a.Passes env event → a.askStore = false →
      Verified env a (.error (.network what kReplayStoreUnavailable)) []
  | told {event : SecurityEvent} : a.Passes env event → a.askStore = true →
      Verified env a (Arrival.told event (env.store a.before.asked event.jti)) [event.jti]

section

variable {env : Env}

/-- What a check before the ninth step throws. -/
def Refuses {α : Type} (x : Except Exc α) : Prop :=
  ∀ e, x = .error e → ∃ reason why, reason ≠ .replayed ∧ e = refusal reason why

theorem Refuses.ok {α : Type} (a : α) : Refuses (.ok a : Except Exc α) := nofun

theorem Refuses.stated {α : Type} {reason : SetFailureReason} (h : reason ≠ .replayed) (why : Str) :
    Refuses (.error (refusal reason why) : Except Exc α) := by
  rintro _ ⟨⟩
  exact ⟨reason, why, h, rfl⟩

theorem Refuses.bind {α β : Type} {x : Except Exc α} {k : α → Except Exc β} (hx : Refuses x)
    (hk : ∀ a, Refuses (k a)) : Refuses (x >>= k) := by
  cases x with
  | error e =>
      rintro _ ⟨⟩
      exact hx e rfl
  | ok a => exact hk a

/-- The early exit of a `do` block. -/
theorem Refuses.thrown {α β : Type} {reason : SetFailureReason} (h : reason ≠ .replayed) (why : Str)
    (k : α → Except Exc β) : Refuses (throw (refusal reason why) >>= k) := by
  rintro _ ⟨⟩
  exact ⟨reason, why, h, rfl⟩

theorem Refuses.ite {α : Type} {c : Prop} [Decidable c] {x y : Except Exc α} (hx : Refuses x)
    (hy : Refuses y) : Refuses (if c then x else y) := by
  by_cases hc : c
  · rwa [if_pos hc]
  · rwa [if_neg hc]

theorem openSet_refuses (set : Str) : Refuses (openSet env set) := by
  unfold openSet
  split
  · exact .stated (by decide) _
  · split
    · exact .ok _
    · exact .stated (by decide) _

theorem headerKid_refuses (set : Str) : Refuses (headerKid env set) := by
  refine (openSet_refuses set).bind fun parts => ?_
  refine .ite ?_ (.thrown (by decide) _ _)
  refine .ite (.thrown (by decide) _ _) ?_
  exact .ite (.thrown (by decide) _ _) (.ok _)

theorem checkClaims_refuses (parts : SetParts) (key : Str) (expectedJti : Option Str) :
    Refuses (checkClaims env parts key expectedJti) := by
  refine .ite ?_ (.thrown (by decide) _ _)
  refine .ite (.thrown (by decide) _ _) ?_
  refine .ite ?_ (.thrown (by decide) _ _)
  refine .ite (.thrown (by decide) _ _) ?_
  split
  · exact .ite (.thrown (by decide) _ _) (.ok _)
  · exact .stated (by decide) _

/-- A SET that passes with an expected `jti` has it. -/
theorem checkClaims_jti {parts : SetParts} {key jti : Str} {event : SecurityEvent}
    (h : checkClaims env parts key (some jti) = .ok event) : event.jti = jti := by
  unfold checkClaims at h
  simp only [bind, Except.bind, pure, Except.pure, throw, throwThe, MonadExceptOf.throw] at h
  repeat' split at h
  all_goals cases h
  simp_all

/-! ## The store and the key fetches -/

theorem transport_asked (req : HttpRequest) : Prog.Keeps Receiver.asked (transport env req) :=
  fun _ => rfl

theorem fetchObject_asked (url what : Str) : Prog.Keeps Receiver.asked (fetchObject env url what) :=
  (transport_asked _).bind fun _ => Prog.Keeps.lift _

theorem loadKeys_asked (why : FetchCause) (start : Int) :
    Prog.Keeps Receiver.asked (loadKeys env why start) := by
  have hurl : Prog.Keeps Receiver.asked (jwksUrl env) := by
    unfold jwksUrl
    split
    · exact Prog.Keeps.ret _
    · exact (fetchObject_asked _ _).bind fun _ => Prog.Keeps.lift _
  have hresolve : Prog.Keeps Receiver.asked (resolveJwksUri env) := by
    refine Prog.Keeps.read.bind fun r => ?_
    cases r.jwksUri with
    | some uri => exact Prog.Keeps.ret _
    | none => exact hurl.bind fun _ => Prog.Keeps.bind (fun _ => rfl) fun _ => Prog.Keeps.ret _
  refine Prog.Keeps.read.bind fun before => Prog.Keeps.tryCatch ?_ fun e => ?_
  · refine Prog.Keeps.bind (hresolve.bind fun _ => fetchObject_asked _ _) fun _ => ?_
    exact Prog.Keeps.bind (fun _ => rfl) fun _ _ => rfl
  · exact Prog.Keeps.bind (fun _ => rfl) fun _ => Prog.Keeps.raise _

variable (env) in
/-- Looking a key up asks the store nothing. -/
theorem keyFor_asked (kid : Str) : Prog.Keeps Receiver.asked (keyFor env kid) := by
  refine Prog.Keeps.bind (fun _ => rfl) fun time => Prog.Keeps.read.bind fun r => ?_
  refine Prog.Keeps.bind (fun _ => rfl) fun _ => ?_
  refine Prog.Keeps.bind ?_ fun _ => ?_
  · refine Prog.Keeps.read.bind fun r => .ite (.ret _) (.ite (.raise _) ?_)
    refine (loadKeys_asked _ _).tryCatch fun e => ?_
    exact Prog.Keeps.bind (fun _ => rfl) fun _ => Prog.Keeps.raise _
  · refine Prog.Keeps.read.bind fun r => ?_
    cases r.cache.keys kid with
    | some key => exact Prog.Keeps.ret _
    | none =>
        refine .ite (.ret _) ?_
        refine Prog.Keeps.bind (fun _ => rfl) fun _ => (loadKeys_asked _ _).bind fun _ => ?_
        exact Prog.Keeps.read.bind fun _ => Prog.Keeps.ret _

/-- Step 9. -/
theorem ninth_run (event : SecurityEvent) (m : Receiver) :
    (do
      let firstSight ← checkAndRecord env event.jti
      if firstSight then pure event
      else throw (refusal .replayed "this jti was already accepted") :
        Prog Receiver Exc SecurityEvent) m =
      (Arrival.told event (env.store m.asked event.jti), { m with asked := m.asked ++ [event.jti] }) := by
  rw [Prog.bind_run]
  unfold checkAndRecord
  rcases env.store m.asked event.jti with e | fresh
  · rfl
  · cases fresh <;> rfl

variable (env) in
/-- What a verification comes to, and what the store was asked in it. -/
theorem verified (a : Arrival) : ∃ asked, (a.after env).asked = a.before.asked ++ asked ∧
    Verified env a (a.outcome env) asked := by
  have hnothing : a.before.asked = a.before.asked ++ [] := (List.append_nil _).symm
  unfold Arrival.after Arrival.outcome verify
  cases hheader : headerKid env a.set with
  | error e =>
      obtain ⟨reason, why, hreason, rfl⟩ := headerKid_refuses a.set e hheader
      refine ⟨[], hnothing, .refused hreason ?_⟩
      rintro event ⟨parts, kid, key, hpasses, -⟩
      rw [hheader] at hpasses
      cases hpasses
  | ok opened =>
      obtain ⟨parts, kid⟩ := opened
      have hasked := keyFor_asked env kid a.before
      dsimp only
      unfold judge
      rw [Prog.bind_run]
      rcases hkey : keyFor env kid a.before with ⟨e | found, m⟩
      · rw [hkey] at hasked
        have hasked : m.asked = a.before.asked ++ [] := hasked.trans hnothing
        refine ⟨[], hasked, .unread hheader (by rw [hkey]) ?_⟩
        rintro event ⟨parts', kid', key, hheader', hkey', -⟩
        rw [hheader] at hheader'
        cases hheader'
        rw [hkey] at hkey'
        cases hkey'
      rw [hkey] at hasked
      have hasked : m.asked = a.before.asked := hasked
      -- the header and the key are settled, and what passes is up to the claims
      have hpasses : ∀ event, a.Passes env event ↔
          ∃ key, found = some key ∧ checkClaims env parts key a.expectedJti = .ok event := by
        intro event
        constructor
        · rintro ⟨parts', kid', key, hheader', hkey', hclaims⟩
          rw [hheader] at hheader'
          cases hheader'
          rw [hkey] at hkey'
          cases hkey'
          exact ⟨key, rfl, hclaims⟩
        · rintro ⟨key, rfl, hclaims⟩
          exact ⟨parts, kid, key, hheader, by rw [hkey], hclaims⟩
      dsimp only
      cases found with
      | none =>
          refine ⟨[], hasked.trans hnothing, .refused (by decide) fun event hevent => ?_⟩
          obtain ⟨key, hkey, -⟩ := (hpasses event).mp hevent
          cases hkey
      | some key =>
          dsimp only
          rw [Prog.bind_run, Prog.lift_run]
          cases hclaims : checkClaims env parts key a.expectedJti with
          | error e =>
              obtain ⟨reason, why, hreason, rfl⟩ := checkClaims_refuses parts key a.expectedJti e hclaims
              refine ⟨[], hasked.trans hnothing, .refused hreason fun event hevent => ?_⟩
              obtain ⟨key', hkey', hevent⟩ := (hpasses event).mp hevent
              cases hkey'
              rw [hclaims] at hevent
              cases hevent
          | ok event =>
              have hevent : a.Passes env event := (hpasses event).mpr ⟨key, rfl, hclaims⟩
              dsimp only
              cases hask : a.askStore with
              | false => exact ⟨[], hasked.trans hnothing, .unasked hevent hask⟩
              | true =>
                  rw [if_pos rfl, ninth_run, hasked]
                  exact ⟨[event.jti], rfl, .told hevent hask⟩

end

/-! ## One batch -/

/-- The `jti`s of the three lists. -/
def SsfPollResult.jtis (result : SsfPollResult) : List Str :=
  result.events.map SecurityEvent.jti ++
    (result.refused.map Prod.fst ++ result.unjudged.map Prod.fst)

/-- The `jti`s the store records of those it is asked about. -/
def recordedBy (env : Env) (before : List Str) : List Str → List Str
  | [] => []
  | jti :: rest =>
      (match env.store before jti with
        | .ok true => [jti]
        | _ => []) ++ recordedBy env (before ++ [jti]) rest

/-- The event a verification accepts. -/
def accepted : Except Exc SecurityEvent → List SecurityEvent
  | .ok event => [event]
  | .error _ => []

/-- Where the outcome of an arrival is listed. -/
structure Arrival.Listed (env : Env) (a : Arrival) (jti : Str) (result : SsfPollResult) : Prop where
  accepted : ∀ event, a.outcome env = .ok event → event ∈ result.events
  refused : ∀ what reason, a.outcome env = .error (.axiam (.setVerification what reason)) →
    (jti, reason) ∈ result.refused
  unjudged : ∀ e, a.outcome env = .error e → (∀ what reason, e ≠ .axiam (.setVerification what reason)) →
    ∃ what, (jti, what) ∈ result.unjudged

/-- A batch holds what another one holds. -/
structure Batch.Extends (b b' : Batch) : Prop where
  events : b.result.events ⊆ b'.result.events
  refused : b.result.refused ⊆ b'.result.refused
  unjudged : b.result.unjudged ⊆ b'.result.unjudged

section

variable {env : Env}

theorem Batch.Extends.trans {b b' b'' : Batch} (h : b.Extends b') (h' : b'.Extends b'') :
    b.Extends b'' where
  events := List.Subset.trans h.events h'.events
  refused := List.Subset.trans h.refused h'.refused
  unjudged := List.Subset.trans h.unjudged h'.unjudged

theorem Batch.file_extends (b : Batch) (jti : Str) (out : Except Exc SecurityEvent) :
    b.Extends (b.file jti out) := by
  unfold Batch.file
  split <;> constructor <;> simp

theorem judgeEntry_extends (b : Batch) (entry : Str × Json) (r : Receiver) :
    b.Extends (judgeEntry env b entry r).1 := by
  unfold judgeEntry
  split
  · exact b.file_extends _ _
  · exact b.file_extends entry.1 (.error (refusal .malformed ""))

theorem judgeAll_extends (entries : List (Str × Json)) (b : Batch) (r : Receiver) :
    b.Extends (judgeAll env entries b r).1 := by
  induction entries generalizing b r with
  | nil => exact ⟨List.Subset.refl _, List.Subset.refl _, List.Subset.refl _⟩
  | cons entry rest ih => exact (judgeEntry_extends b entry r).trans (ih _ _)

/-- What the counts of a batch say of it. -/
structure Batch.Counted (b : Batch) : Prop where
  sum : b.byKeyFetch + b.byStore = b.result.unjudged.length
  store : 0 < b.byStore ↔ b.storeFailed = true

theorem Batch.Counted.file {b : Batch} (h : b.Counted) (jti : Str)
    (out : Except Exc SecurityEvent) : (b.file jti out).Counted := by
  obtain ⟨hsum, hstore⟩ := h
  unfold Batch.file
  split
  · exact ⟨hsum, hstore⟩
  · exact ⟨hsum, hstore⟩
  · rename_i what cause
    cases hcause : cause == kReplayStoreUnavailable with
    | true =>
        refine ⟨?_, by simp⟩
        simp only [List.length_append, List.length_singleton]
        rw [if_pos trivial, if_pos trivial]
        omega
    | false =>
        refine ⟨?_, by simpa using hstore⟩
        simp only [List.length_append, List.length_singleton]
        rw [if_neg Bool.false_ne_true, if_neg Bool.false_ne_true]
        omega
  · refine ⟨?_, hstore⟩
    simp only [List.length_append, List.length_singleton]
    omega

theorem Batch.Counted.judgeAll {b : Batch} (h : b.Counted) (entries : List (Str × Json))
    (r : Receiver) : (judgeAll env entries b r).1.Counted := by
  induction entries generalizing b r with
  | nil => exact h
  | cons entry rest ih =>
      refine ih ?_ _
      show (judgeEntry env b entry r).1.Counted
      unfold judgeEntry
      split
      · exact h.file _ _
      · exact h.file entry.1 (.error (refusal .malformed ""))

/-- A poll that returns tells of every SET it leaves unjudged, once, and of the store when the store
failed it; and of nothing when there is none. -/
theorem pollTold_unjudged {streamId : Str} {options : SsfPollOptions} {r after : Receiver}
    {result : SsfPollResult} {events : List SsfUnjudgedEvent}
    (h : pollTold env streamId options r = (.ok (result, events), after)) :
    (events.map SsfUnjudgedEvent.unjudged).sum = result.unjudged.length ∧
      (events.map SsfUnjudgedEvent.category).Sublist [str "key_fetch", str "replay_store"] ∧
      ∀ e ∈ events, 0 < e.unjudged := by
  obtain ⟨reply, m, -, hjudged⟩ := Prog.bind_eq_ok.mp h
  obtain ⟨b, m', hbatch, htold⟩ := Prog.bind_eq_ok.mp hjudged
  cases htold
  have hopen : (Batch.open reply).Counted := ⟨rfl, by simp [Batch.open]⟩
  have hcounted : (judgeAll env (setsOf reply) (.open reply) m).1.Counted :=
    hopen.judgeAll (setsOf reply) m
  rw [show (judgeAll env (setsOf reply) (.open reply) m).1 = b from by cases hbatch; rfl] at hcounted
  rw [← hcounted.sum]
  unfold Batch.unjudgedEvents
  by_cases hfetch : 0 < b.byKeyFetch
  · by_cases hstore : 0 < b.byStore
    · rw [if_pos hfetch, if_pos hstore]
      exact ⟨by simp, by simp, by simp [hfetch, hstore]⟩
    · rw [if_pos hfetch, if_neg hstore]
      exact ⟨by simp; omega, by simp, by simp [hfetch]⟩
  · by_cases hstore : 0 < b.byStore
    · rw [if_neg hfetch, if_pos hstore]
      exact ⟨by simp; omega, by simp, by simp [hstore]⟩
    · rw [if_neg hfetch, if_neg hstore]
      exact ⟨by simp; omega, by simp, by simp⟩

/-- A filed entry is in one list more than before. -/
theorem Batch.file_jtis (b : Batch) {jti : Str} {out : Except Exc SecurityEvent}
    (h : ∀ event, out = .ok event → event.jti = jti) :
    (b.file jti out).result.jtis.Perm (jti :: b.result.jtis) := by
  unfold Batch.file SsfPollResult.jtis
  split
  · rename_i event
    rw [List.map_append, List.append_assoc, List.map_cons, List.map_nil, h event rfl]
    exact List.perm_middle
  all_goals
    simp only [List.map_append, List.map_cons, List.map_nil]
    rw [List.perm_iff_count]
    intro x
    simp only [List.count_append, List.count_cons, List.count_nil]
    omega

/-- What a filed outcome says of the store. -/
theorem Batch.file_storeFailed (b : Batch) (jti : Str) (out : Except Exc SecurityEvent) :
    (b.file jti out).storeFailed = true ↔ b.storeFailed = true ∨
      ∃ what, out = .error (.network what kReplayStoreUnavailable) := by
  unfold Batch.file
  split
  · simp
  · simp [Exc.network]
  · rename_i what cause
    simp [Exc.network]
  · rename_i e hnotSet hnotNetwork
    refine ⟨.inl, fun h => h.resolve_right ?_⟩
    rintro ⟨what, ⟨⟩⟩
    exact hnotNetwork _ _ rfl

/-- The events a filed outcome adds. -/
theorem Batch.file_events (b : Batch) (jti : Str) (out : Except Exc SecurityEvent) :
    (b.file jti out).result.events = b.result.events ++ accepted out := by
  unfold Batch.file
  split <;> simp [accepted]

/-- The outcome is listed where `file` puts it. -/
theorem Batch.file_listed (b : Batch) (jti : Str) (a : Arrival) :
    a.Listed env jti (b.file jti (a.outcome env)).result where
  accepted event h := by
    rw [h]
    simp [Batch.file]
  refused what reason h := by
    rw [h]
    simp [Batch.file]
  unjudged e h hother := by
    rw [h]
    unfold Batch.file
    split
    · rename_i hok
      cases hok
    · rename_i what reason hset
      cases hset
      exact absurd rfl (hother _ _)
    · exact ⟨_, List.mem_append_right _ List.mem_cons_self⟩
    · exact ⟨_, List.mem_append_right _ List.mem_cons_self⟩

theorem Arrival.Listed.mono {a : Arrival} {jti : Str} {b b' : Batch} (hextends : b.Extends b')
    (h : a.Listed env jti b.result) : a.Listed env jti b'.result where
  accepted event hout := hextends.events (h.accepted event hout)
  refused what reason hout := hextends.refused (h.refused what reason hout)
  unjudged e hout hother := by
    obtain ⟨what, hwhat⟩ := h.unjudged e hout hother
    exact ⟨what, hextends.unjudged hwhat⟩

theorem recordedBy_append (before first second : List Str) :
    recordedBy env before (first ++ second) =
      recordedBy env before first ++ recordedBy env (before ++ first) second := by
  induction first generalizing before with
  | nil =>
      rw [List.append_nil]
      rfl
  | cons jti rest ih =>
      show _ ++ recordedBy env (before ++ [jti]) (rest ++ second) = _
      rw [ih]
      show _ = (_ ++ recordedBy env (before ++ [jti]) rest) ++ _
      rw [List.append_assoc, List.append_assoc]
      rfl

/-- What the store records in a verification is the `jti` of the event it comes to. -/
theorem Verified.recorded {a : Arrival} {out : Except Exc SecurityEvent} {asked : List Str}
    (h : Verified env a out asked) :
    recordedBy env a.before.asked asked = (accepted out).map SecurityEvent.jti := by
  cases h with
  | refused _ _ => rfl
  | unread _ _ _ => rfl
  | unasked _ _ => rfl
  | @told event _ _ =>
      show (match env.store a.before.asked event.jti with
        | .ok true => [event.jti]
        | _ => []) ++ [] = _
      rw [List.append_nil]
      rcases env.store a.before.asked event.jti with e | fresh
      · rfl
      · cases fresh <;> rfl

/-- An accepted event has the `jti` it was expected under. -/
theorem Verified.jti {a : Arrival} {event : SecurityEvent} {asked : List Str} {jti : Str}
    (hexpected : a.expectedJti = some jti) (h : Verified env a (.ok event) asked) :
    event.jti = jti := by
  generalize hout : Except.ok event = out at h
  cases h with
  | refused _ _ => cases hout
  | unread _ _ _ => cases hout
  | unasked _ _ => cases hout
  | @told event' hpasses _ =>
      obtain ⟨parts, kid, key, -, -, hclaims⟩ := hpasses
      rw [hexpected] at hclaims
      have hjti := checkClaims_jti hclaims
      rcases hstore : env.store a.before.asked event'.jti with e | fresh
      · rw [hstore] at hout
        cases hout
      · rw [hstore] at hout
        cases fresh
        · cases hout
        · cases hout
          exact hjti

/-- A batch: every entry is in one list more, and the store records what is accepted. -/
structure BatchSorted (env : Env) (entries : List (Str × Json)) (b b' : Batch) (r r' : Receiver) :
    Prop where
  once : b'.result.jtis.Perm (entries.map Prod.fst ++ b.result.jtis)
  recorded : ∃ asked events, r'.asked = r.asked ++ asked ∧
    b'.result.events = b.result.events ++ events ∧
      recordedBy env r.asked asked = events.map SecurityEvent.jti

variable (env) in
theorem judgeEntry_sorted (b : Batch) (entry : Str × Json) (r : Receiver) :
    BatchSorted env [entry] b (judgeEntry env b entry r).1 r (judgeEntry env b entry r).2 := by
  unfold judgeEntry
  split
  · rename_i set hset
    obtain ⟨asked, hasked, hverified⟩ :=
      verified env ⟨r, set, some entry.1, !b.storeFailed⟩
    refine ⟨b.file_jtis fun event hevent => ?_, asked, _, hasked, b.file_events _ _, ?_⟩
    · change Arrival.outcome env ⟨r, set, some entry.1, !b.storeFailed⟩ = .ok event at hevent
      rw [hevent] at hverified
      exact hverified.jti rfl
    · exact hverified.recorded
  · exact ⟨b.file_jtis nofun, [], [], (List.append_nil _).symm, b.file_events _ _, rfl⟩

variable (env) in
theorem judgeAll_sorted (entries : List (Str × Json)) (b : Batch) (r : Receiver) :
    BatchSorted env entries b (judgeAll env entries b r).1 r (judgeAll env entries b r).2 := by
  induction entries generalizing b r with
  | nil => exact ⟨List.Perm.refl _, [], [], (List.append_nil _).symm, (List.append_nil _).symm, rfl⟩
  | cons entry rest ih =>
      obtain ⟨hone, asked, events, hasked, hevents, hrecorded⟩ := judgeEntry_sorted env b entry r
      obtain ⟨hall, asked', events', hasked', hevents', hrecorded'⟩ :=
        ih (judgeEntry env b entry r).1 (judgeEntry env b entry r).2
      refine ⟨?_, asked ++ asked', events ++ events', ?_, ?_, ?_⟩
      · refine hall.trans ((hone.append_left _).trans ?_)
        show (rest.map Prod.fst ++ ([entry.1] ++ b.result.jtis)).Perm _
        exact List.perm_middle
      · exact hasked'.trans (by rw [hasked, List.append_assoc])
      · exact hevents'.trans (by rw [hevents, List.append_assoc])
      · rw [recordedBy_append, hrecorded, List.map_append, ← hrecorded', hasked]

/-- Every arrival of a batch has a key it was handed under, and is listed under it. -/
theorem batchArrivals_listed (entries : List (Str × Json)) (b : Batch) (r : Receiver)
    {a : Arrival} (ha : a ∈ batchArrivals env entries b r) :
    ∃ jti, a.expectedJti = some jti ∧ a.Listed env jti (judgeAll env entries b r).1.result := by
  induction entries generalizing b r with
  | nil => cases ha
  | cons entry rest ih =>
      obtain ⟨jti, value⟩ := entry
      unfold batchArrivals at ha
      unfold judgeAll
      dsimp only at ha ⊢
      split at ha
      · rename_i set
        rcases List.mem_cons.mp ha with rfl | ha
        · exact ⟨jti, rfl, (b.file_listed jti ⟨r, set, some jti, !b.storeFailed⟩).mono
            (judgeAll_extends rest _ _)⟩
        · exact ih _ _ ha
      · exact ih _ _ ha

/-- The store is asked about an arrival as long as nothing before it named a failure of the store. -/
theorem batchArrivals_askStore (entries : List (Str × Json)) (b : Batch) (r : Receiver)
    {earlier later : List Arrival} {a : Arrival}
    (hsplit : batchArrivals env entries b r = earlier ++ a :: later) :
    a.askStore = true ↔ b.storeFailed = false ∧ ∀ x ∈ earlier, ¬x.NamesStore env := by
  induction entries generalizing b r earlier with
  | nil => cases earlier <;> cases hsplit
  | cons entry rest ih =>
      obtain ⟨jti, value⟩ := entry
      unfold batchArrivals at hsplit
      dsimp only at hsplit
      split at hsplit
      · rename_i set
        cases earlier with
        | nil =>
            cases hsplit
            simp
        | cons x earlier =>
            obtain ⟨hx, hrest⟩ := List.cons.inj hsplit
            rw [ih _ _ hrest]
            have hfailed := b.file_storeFailed jti (x.outcome env)
            have hnext : (judgeEntry env b (jti, .string set) r).1 = b.file jti (x.outcome env) := by
              rw [← hx]
              rfl
            rw [hnext, ← Bool.not_eq_true, hfailed, not_or, Bool.not_eq_true]
            show (_ ∧ ¬x.NamesStore env) ∧ _ ↔ _
            rw [List.forall_mem_cons, and_assoc]
      · have hnext : ∀ value, (∀ set, value ≠ .string set) →
            (judgeEntry env b (jti, value) r).1.storeFailed = b.storeFailed := by
          intro value hvalue
          unfold judgeEntry
          split
          · rename_i set hset
            exact absurd hset (hvalue set)
          · rfl
        rename_i hvalue
        rw [ih _ _ hsplit, hnext value hvalue]

/-- A verification that was not to ask the store asks it nothing. -/
theorem Verified.silent {a : Arrival} {out : Except Exc SecurityEvent} {asked : List Str}
    (hask : a.askStore = false) (h : Verified env a out asked) : asked = [] := by
  cases h with
  | refused _ _ => rfl
  | unread _ _ _ => rfl
  | unasked _ _ => rfl
  | told _ htrue =>
      rw [hask] at htrue
      cases htrue

theorem Arrival.Passes.unique {a : Arrival} {event event' : SecurityEvent} (h : a.Passes env event)
    (h' : a.Passes env event') : event = event' := by
  obtain ⟨parts, kid, key, hheader, hkey, hclaims⟩ := h
  obtain ⟨parts', kid', key', hheader', hkey', hclaims'⟩ := h'
  rw [hheader] at hheader'
  cases hheader'
  rw [hkey] at hkey'
  cases hkey'
  rw [hclaims] at hclaims'
  exact Except.ok.inj hclaims'

/-- A SET that passes, and about which the store is not asked, is left without a verdict. -/
theorem Verified.unasked_outcome {a : Arrival} {event : SecurityEvent}
    {out : Except Exc SecurityEvent} {asked : List Str} (hpasses : a.Passes env event)
    (hask : a.askStore = false) (h : Verified env a out asked) :
    ∃ what, out = .error (.network what kReplayStoreUnavailable) := by
  cases h with
  | refused _ hnot => exact absurd hpasses (hnot event)
  | unread _ _ hnot => exact absurd hpasses (hnot event)
  | unasked _ _ => exact ⟨_, rfl⟩
  | told _ htrue =>
      rw [hask] at htrue
      cases htrue

/-- A SET that passes, and about which the store is asked, comes to what the store says. -/
theorem Verified.told_outcome {a : Arrival} {event : SecurityEvent}
    {out : Except Exc SecurityEvent} {asked : List Str} (hpasses : a.Passes env event)
    (hask : a.askStore = true) (h : Verified env a out asked) :
    out = Arrival.told event (env.store a.before.asked event.jti) := by
  cases h with
  | refused _ hnot => exact absurd hpasses (hnot event)
  | unread _ _ hnot => exact absurd hpasses (hnot event)
  | unasked _ hfalse =>
      rw [hask] at hfalse
      cases hfalse
  | told hpasses' _ => rw [hpasses.unique hpasses']

theorem Arrival.FetchNamesStore.names {a : Arrival} (h : a.FetchNamesStore env) :
    a.NamesStore env := by
  obtain ⟨parts, kid, what, hheader, hkey⟩ := h
  refine ⟨what, ?_⟩
  unfold Arrival.outcome verify
  rw [hheader]
  dsimp only
  unfold judge
  rw [Prog.bind_run_error (Prod.ext hkey rfl)]

theorem Arrival.StoreFailed.names {a : Arrival} (h : a.StoreFailed env) : a.NamesStore env := by
  obtain ⟨event, e, hpasses, hask, hstore⟩ := h
  obtain ⟨asked, -, hverified⟩ := verified env a
  have hout := hverified.told_outcome hpasses hask
  rw [hstore] at hout
  exact ⟨_, hout⟩

theorem refusal_ne_network (reason : SetFailureReason) (why what cause : Str) :
    refusal reason why ≠ .network what cause := nofun

/-- With a store that always answers, only a key fetch names a failure of the store first. -/
theorem Arrival.NamesStore.fetch {a : Arrival}
    (hstore : ∀ asked jti e, env.store asked jti ≠ .error e) (hask : a.askStore = true)
    (h : a.NamesStore env) : a.FetchNamesStore env := by
  obtain ⟨what, hwhat⟩ := h
  obtain ⟨asked, -, hverified⟩ := verified env a
  rw [hwhat] at hverified
  generalize hout : (Except.error (.network what kReplayStoreUnavailable) :
    Except Exc SecurityEvent) = out at hverified
  cases hverified with
  | refused _ _ => exact absurd (Except.error.inj hout).symm (refusal_ne_network _ _ _ _)
  | @unread parts kid e hheader hkey _ =>
      cases hout
      exact ⟨parts, kid, what, hheader, hkey⟩
  | unasked _ hfalse =>
      rw [hask] at hfalse
      cases hfalse
  | @told event _ _ =>
      rcases hanswer : env.store a.before.asked event.jti with e | fresh
      · exact absurd hanswer (hstore _ _ _)
      · rw [hanswer] at hout
        cases fresh
        · exact absurd (Except.error.inj hout).symm (refusal_ne_network _ _ _ _)
        · cases hout

end

/-! ## A poll -/

/-- How a poll sorts the SETs it was handed. -/
structure PollSorted (env : Env) (sets : List (Str × Json)) (arrivals : List Arrival)
    (before after : Receiver) (result : SsfPollResult) : Prop where
  /-- Every key of `sets` is in the three lists together as often as it is a key. -/
  once : result.jtis.Perm (sets.map Prod.fst)
  listed : ∀ a ∈ arrivals, ∃ jti, a.expectedJti = some jti ∧ a.Listed env jti result
  /-- What the store records of what it is asked is what is reported in `events`. -/
  recorded : ∃ asked, after.asked = before.asked ++ asked ∧
    recordedBy env before.asked asked = result.events.map SecurityEvent.jti
  /-- After its first failure the store is not asked again. -/
  silenced : ∀ earlier a later, arrivals = earlier ++ a :: later → a.StoreFailed env →
    ∀ x ∈ later, (x.after env).asked = x.before.asked
  /-- And every SET that passes is left unjudged from then on. -/
  unjudged : ∀ earlier a later, arrivals = earlier ++ a :: later → a.StoreFailed env →
    ∀ x ∈ a :: later, ∀ event, x.Passes env event → ∃ what, (event.jti, what) ∈ result.unjudged

/-- With the store in memory: a SET that passes is refused as replayed exactly when its `jti` was
recorded within the window. -/
def ReplaysTold (env : Env) (window : Int) (clock : Nat → Int) (arrivals : List Arrival) : Prop :=
  ∀ a ∈ arrivals, ∀ event, a.Passes env event →
    (a.outcome env = .error (refusal .replayed "this jti was already accepted") ↔
      RecordedWithin window clock a.before.asked event.jti)

/-- No SET that passes and was recorded comes after a key fetch whose failure names the store. -/
def FetchesApart (env : Env) (window : Int) (clock : Nat → Int) (arrivals : List Arrival) : Prop :=
  ∀ earlier a later event, arrivals = earlier ++ a :: later → a.Passes env event →
    RecordedWithin window clock a.before.asked event.jti → ∀ x ∈ earlier, ¬x.FetchNamesStore env

section

variable {env : Env}

theorem batch_silenced {entries : List (Str × Json)} {b : Batch} {r : Receiver}
    {earlier later : List Arrival} {a : Arrival}
    (hsplit : batchArrivals env entries b r = earlier ++ a :: later) (hfailed : a.StoreFailed env) :
    ∀ x ∈ later, x.askStore = false := by
  intro x hx
  obtain ⟨between, rest, rfl⟩ := List.append_of_mem hx
  have hsplit' : batchArrivals env entries b r = (earlier ++ a :: between) ++ x :: rest := by
    rw [hsplit]
    simp
  rw [← Bool.not_eq_true, batchArrivals_askStore _ _ _ hsplit']
  rintro ⟨-, hnone⟩
  exact hnone a (by simp) hfailed.names

/-- How the batch of a poll sorts. -/
theorem judgeAll_pollSorted (sets : List (Str × Json)) (reply : Json) (m : Receiver) :
    PollSorted env sets (batchArrivals env sets (.open reply) m) m
      (judgeAll env sets (.open reply) m).2 (judgeAll env sets (.open reply) m).1.result := by
  obtain ⟨honce, asked, events, hasked, hevents, hrecorded⟩ :=
    judgeAll_sorted env sets (.open reply) m
  have hlisted : ∀ a ∈ batchArrivals env sets (.open reply) m, ∃ jti, a.expectedJti = some jti ∧
      a.Listed env jti (judgeAll env sets (.open reply) m).1.result :=
    fun a ha => batchArrivals_listed sets (.open reply) m ha
  refine ⟨?_, hlisted, ⟨asked, hasked, ?_⟩, ?_, ?_⟩
  · rwa [show (Batch.open reply).result.jtis = [] from rfl, List.append_nil] at honce
  · rwa [hevents]
  · intro earlier a later hsplit hfailed x hx
    obtain ⟨asked, hasked, hverified⟩ := verified env x
    rw [hasked, hverified.silent (batch_silenced hsplit hfailed x hx), List.append_nil]
  · intro earlier a later hsplit hfailed x hx event hpasses
    -- what names the store is no verdict
    have hnames : ∃ what, x.outcome env = .error (.network what kReplayStoreUnavailable) := by
      obtain ⟨asked, -, hverified⟩ := verified env x
      rcases List.mem_cons.mp hx with rfl | hx
      · exact hfailed.names
      · exact hverified.unasked_outcome hpasses (batch_silenced hsplit hfailed x hx)
    obtain ⟨what, hwhat⟩ := hnames
    obtain ⟨jti, hexpected, hx⟩ := hlisted x (by rw [hsplit]; exact List.mem_append_right _ hx)
    obtain ⟨parts, kid, key, -, -, hclaims⟩ := hpasses
    rw [hexpected] at hclaims
    rw [checkClaims_jti hclaims]
    exact hx.unjudged _ hwhat nofun

/-- With the store in memory, replays are told as such exactly when no key fetch names the store
before one. -/
theorem replaysTold_iff {window : Int} {clock : Nat → Int}
    (hstore : env.store = memoryStore window clock) (hclock : Monotone clock)
    {entries : List (Str × Json)} {b : Batch} {r : Receiver} (hopen : b.storeFailed = false) :
    ReplaysTold env window clock (batchArrivals env entries b r) ↔
      FetchesApart env window clock (batchArrivals env entries b r) := by
  have hanswers : ∀ asked jti e, env.store asked jti ≠ .error e := by
    intro asked jti e
    rw [hstore]
    nofun
  -- asked about, a SET is refused as the store remembers
  have htold : ∀ (a : Arrival) event, a.Passes env event → a.askStore = true →
      (a.outcome env = .error (refusal .replayed "this jti was already accepted") ↔
        RecordedWithin window clock a.before.asked event.jti) := by
    intro a event hpasses hask
    obtain ⟨asked, -, hverified⟩ := verified env a
    rw [hverified.told_outcome hpasses hask, hstore, ← memoryStore_seen_iff hclock]
    cases (memoryStore window clock a.before.asked event.jti) with
    | error e => exact iff_of_false (fun h => nomatch h) (fun h => nomatch h)
    | ok fresh => cases fresh <;> simp [Arrival.told]
  -- before the first key fetch that names it, nothing names the store
  have hquiet : ∀ earlier rest, batchArrivals env entries b r = earlier ++ rest →
      (∀ x ∈ earlier, ¬x.FetchNamesStore env) → ∀ x ∈ earlier, ¬x.NamesStore env := by
    intro earlier
    induction earlier using List.reverseRecOn with
    | nil => exact fun _ _ _ x hx => nomatch hx
    | append_singleton earlier x ih =>
        intro rest hsplit hfetch
        rw [List.append_assoc] at hsplit
        have hbefore := ih _ hsplit fun y hy => hfetch y (List.mem_append_left _ hy)
        have hask : x.askStore = true := (batchArrivals_askStore _ _ _ hsplit).mpr ⟨hopen, hbefore⟩
        intro y hy
        rcases List.mem_append.mp hy with hy | hy
        · exact hbefore y hy
        · cases List.mem_singleton.mp hy
          exact fun hnames => hfetch x (by simp) (hnames.fetch hanswers hask)
  constructor
  · intro hreplays earlier a later event hsplit hpasses hrecorded x hx hfetch
    have hask : a.askStore = false := by
      rw [← Bool.not_eq_true, batchArrivals_askStore _ _ _ hsplit]
      exact fun h => h.2 x hx hfetch.names
    have hout := (hreplays a (by rw [hsplit]; simp) event hpasses).mpr hrecorded
    obtain ⟨asked, -, hverified⟩ := verified env a
    obtain ⟨what, hwhat⟩ := hverified.unasked_outcome hpasses hask
    rw [hout] at hwhat
    exact refusal_ne_network _ _ _ _ (Except.error.inj hwhat)
  · intro hapart a ha event hpasses
    obtain ⟨earlier, later, hsplit⟩ := List.append_of_mem ha
    cases hask : a.askStore with
    | true => exact htold a event hpasses hask
    | false =>
        obtain ⟨asked, -, hverified⟩ := verified env a
        obtain ⟨what, hwhat⟩ := hverified.unasked_outcome hpasses hask
        refine iff_of_false ?_ fun hrecorded => ?_
        · rw [hwhat]
          exact fun h => refusal_ne_network _ _ _ _ (Except.error.inj h).symm
        · have hnone := hquiet earlier _ hsplit
            (hapart earlier a later event hsplit hpasses hrecorded)
          rw [(batchArrivals_askStore _ _ _ hsplit).mpr ⟨hopen, hnone⟩] at hask
          cases hask

/-- **No SET is lost or counted twice.**  A poll whose reply has an object under `sets` returns, and
sorts the SETs; with the store in memory, replays are told as such exactly when no key fetch names
a failure of the store before one. -/
theorem poll_sorts {streamId : Str} {options : SsfPollOptions} {r m : Receiver} {reply : Json}
    {sets : List (Str × Json)} (hreply : pollReply env streamId options r = (.ok reply, m))
    (hsets : reply.find? "sets" = some (.object sets)) :
    ∃ result after, poll env streamId options r = (.ok result, after) ∧
      PollSorted env sets (batchArrivals env sets (.open reply) m) m after result ∧
      ∀ window clock, env.store = memoryStore window clock → Monotone clock →
        (ReplaysTold env window clock (batchArrivals env sets (.open reply) m) ↔
          FetchesApart env window clock (batchArrivals env sets (.open reply) m)) := by
  have hsetsOf : setsOf reply = sets := by
    unfold setsOf
    rw [hsets]
  refine ⟨_, (judgeAll env sets (.open reply) m).2, ?_, judgeAll_pollSorted sets reply m,
    fun window clock hstore hclock => replaysTold_iff hstore hclock rfl⟩
  rw [poll_eq, Prog.bind_run_ok hreply, hsetsOf]
  rfl

end

/-! ## A key fetch that names the store -/

/-- The event of a SET that passes steps 1 to 8. -/
def Arrival.passed? (env : Env) (a : Arrival) : Option SecurityEvent :=
  match headerKid env a.set with
  | .error _ => none
  | .ok (parts, kid) =>
      match (keyFor env kid a.before).1 with
      | .ok (some key) => (checkClaims env parts key a.expectedJti).toOption
      | _ => none

theorem Arrival.passes_of_passed {env : Env} {a : Arrival} {event : SecurityEvent}
    (h : a.passed? env = some event) : a.Passes env event := by
  unfold passed? at h
  split at h
  · cases h
  · rename_i parts kid hheader
    split at h
    · rename_i key hkey
      cases hclaims : checkClaims env parts key a.expectedJti with
      | error e =>
          rw [hclaims] at h
          cases h
      | ok event' =>
          rw [hclaims] at h
          cases h
          exact ⟨parts, kid, key, hheader, hkey, hclaims⟩
    · cases h

/-- The claims of a SET under the `jti` given. -/
def mailClaims (jti : Str) : Json :=
  .object [("aud", .string "rp"), ("events", .object [("e", .object [])]), ("iat", .integer 1),
    ("iss", .string "https://idp.example"), ("jti", .string jti), ("sub_id", .object [])]

/-- A SET with a `kid` the transmitter does not publish. -/
def strangeSet : Str :=
  "eyJ0eXAiOiJzZWNldmVudCtqd3QiLCJhbGciOiJFZERTQSIsImtpZCI6ImIifQ.eyJhdWQiOiJycCIsImV2ZW50cyI6eyJlIjp7fX0sImlhdCI6MSwiaXNzIjoiaHR0cHM6Ly9pZHAuZXhhbXBsZSIsImp0aSI6ImoxIiwic3ViX2lkIjp7fX0.AA"

/-- And one it has signed. -/
def signedSet : Str :=
  "eyJ0eXAiOiJzZWNldmVudCtqd3QiLCJhbGciOiJFZERTQSIsImtpZCI6ImEifQ.eyJhdWQiOiJycCIsImV2ZW50cyI6eyJlIjp7fX0sImlhdCI6MSwiaXNzIjoiaHR0cHM6Ly9pZHAuZXhhbXBsZSIsImp0aSI6ImoyIiwic3ViX2lkIjp7fX0.AA"

/-- A transmitter that hands out both; its keys are fetched once, and then the fetch fails as
`failure` says. -/
def mailbox (failure : Str) : Env where
  config :=
    { issuer := "https://idp.example", audience := "rp",
      keys := ⟨.jwksUri, "https://idp.example/oauth2/jwks"⟩,
      accessTokenProvider := some (.ok (str "token")) }
  baseUrl := "https://idp.example"
  retryEnabled := true
  parse := tableParser
    [(outageJwks, .object [("keys", .array [.object
        [("crv", .string "Ed25519"), ("kid", .string "a"), ("kty", .string "OKP"),
          ("x", .string "11qYAYKxCrfVS_7TyWQHOg7hcvPapiMlrwIaaPcHURo")]])]),
      ("\x7b\"typ\":\"secevent+jwt\",\"alg\":\"EdDSA\",\"kid\":\"b\"\x7d", .object
        [("alg", .string "EdDSA"), ("kid", .string "b"), ("typ", .string "secevent+jwt")]),
      ("\x7b\"typ\":\"secevent+jwt\",\"alg\":\"EdDSA\",\"kid\":\"a\"\x7d", .object
        [("alg", .string "EdDSA"), ("kid", .string "a"), ("typ", .string "secevent+jwt")]),
      ("\x7b\"aud\":\"rp\",\"events\":\x7b\"e\":\x7b\x7d\x7d,\"iat\":1,\"iss\":\"https://idp.example\",\"jti\":\"j1\",\"sub_id\":\x7b\x7d\x7d",
        mailClaims "j1"),
      ("\x7b\"aud\":\"rp\",\"events\":\x7b\"e\":\x7b\x7d\x7d,\"iat\":1,\"iss\":\"https://idp.example\",\"jti\":\"j2\",\"sub_id\":\x7b\x7d\x7d",
        mailClaims "j2"),
      ("mail", .object [("sets", .object [("j1", .string strangeSet), ("j2", .string signedSet)])])]
  dump := fun _ => "\x7b\x7d"
  ed25519Verify := fun _ _ _ => true
  transport := fun sent req =>
    .ok (if req.method = str "POST" then { status := 200, body := "mail" }
      else if sent = [] then { status := 200, body := outageJwks }
      else { transportError := failure })
  store := memoryStore (seconds 604800) fun n => seconds n
  clock := fun n => seconds n
  clock_mono := seconds_mono

/-- The receiver there, once it has accepted the signed SET. -/
def mailReceiver (failure : Str) : Receiver := (verifySet (mailbox failure) signedSet {}).2

/-- The reply to a poll, and the receiver that has it. -/
def mailReply (failure : Str) : Except Exc Json × Receiver :=
  pollReply (mailbox failure) "stream" {} (mailReceiver failure)

/-- The members of an object under a key. -/
def membersAt (j : Json) (key : Str) : Option (List (Str × Json)) :=
  match j.find? key with
  | some (.object members) => some members
  | _ => none

theorem find?_of_membersAt {j : Json} {key : Str} {members : List (Str × Json)}
    (h : membersAt j key = some members) : j.find? key = some (.object members) := by
  unfold membersAt at h
  split at h
  · rename_i hfind
    cases h
    exact hfind
  · cases h

/-- The two SETs on their way into the verification, where the failure of the fetch for the first
reads as one of the store. -/
def mailArrivals : List Arrival :=
  match mailReply kReplayStoreUnavailable with
  | (.ok reply, m) => batchArrivals (mailbox kReplayStoreUnavailable) (setsOf reply) (.open reply) m
  | (.error _, _) => []

/-- The keys of the reply; and of the two SETs what passes, what the store was asked before, and
whether the SET is refused as replayed. -/
theorem mail_evaluated : (((mailReply "timeout").1.toOption.bind fun reply =>
    (membersAt reply "sets").map fun sets => sets.map Prod.fst) = some [str "j1", str "j2"]) ∧
    (mailArrivals.map fun a =>
      ((a.passed? (mailbox kReplayStoreUnavailable)).map SecurityEvent.jti, a.before.asked,
        decide (a.outcome (mailbox kReplayStoreUnavailable) =
          .error (refusal .replayed "this jti was already accepted")))) =
      [(none, [str "j2"], false), (some (str "j2"), [str "j2"], false)] := by
  decide +kernel

/-- The theorem at this transmitter, where the fetch for the first SET times out. -/
theorem mailbox_sorts : ∃ result after,
    poll (mailbox "timeout") "stream" {} (mailReceiver "timeout") = (.ok result, after) ∧
      result.jtis.Perm ["j1", "j2"] := by
  obtain ⟨reply, hreturned, hmembers⟩ := Option.bind_eq_some_iff.mp mail_evaluated.1
  obtain ⟨sets, hsets, hkeys⟩ := Option.map_eq_some_iff.mp hmembers
  have hreply : pollReply (mailbox "timeout") "stream" {} (mailReceiver "timeout") =
      (.ok reply, (mailReply "timeout").2) := returned_of_toOption hreturned
  obtain ⟨result, after, hpoll, hsorted, -⟩ := poll_sorts hreply (find?_of_membersAt hsets)
  have honce := hsorted.once
  rw [hkeys] at honce
  exact ⟨result, after, hpoll, honce⟩

/-- The signed SET passes, and it was recorded a moment ago; still it is not refused as replayed. -/
theorem replay_left_unjudged : ¬ReplaysTold (mailbox kReplayStoreUnavailable) (seconds 604800)
    (fun n => seconds n) mailArrivals := by
  intro htold
  obtain ⟨strange, signed, harrivals, -, hsigned⟩ := List.map_eq_cons_iff.mp mail_evaluated.2
  obtain ⟨replayed, rest, rfl, hread, -⟩ := List.map_eq_cons_iff.mp hsigned
  have hpassed := congrArg Prod.fst hread
  have hasked : replayed.before.asked = [str "j2"] := congrArg (fun x => x.2.1) hread
  have hout := congrArg (fun x => x.2.2) hread
  obtain ⟨event, hevent, hjti⟩ := Option.map_eq_some_iff.mp hpassed
  have hrecorded : RecordedWithin (seconds 604800) (fun n => seconds n) replayed.before.asked
      event.jti := by
    rw [hasked, hjti]
    exact ⟨[], ⟨⟨[], rfl⟩, by decide⟩, by decide⟩
  have hmem : replayed ∈ mailArrivals := by
    rw [harrivals]
    simp
  exact of_decide_eq_false hout
    ((htold replayed hmem event (Arrival.passes_of_passed hevent)).mpr hrecorded)

end Axiam.Ssf
