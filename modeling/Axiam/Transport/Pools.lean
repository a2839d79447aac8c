import Axiam.Lib.Lending
import Axiam.Lib.Run
import Axiam.Transport.Cookies

/-!
# The handle pools of the transport

`CurlTransport::perform` and the two pools that its threads take libcurl handles from
(`src/http_curl.cpp`).  A pooled handle is borrowed through a `HandleLease`, whose destructor gives it
back on every path; `perform_isolated` takes a handle without a cookie engine and gives it back by
hand, behind `transfer`.  A step is one turn under a pool's lock, or what ends a transfer.

`run_accounted` says what holds of both pools in every state of every run, and when nothing is lent
while nobody is at work: exactly when no isolated transfer threw.
-/

namespace Axiam.Transport

open Axiam.Lib

/-! ## One request -/

/-- `is_oauth2_url`. -/
def isOauth2Url (url : Str) : Bool :=
  let rest := match cutAt "://" url with | some (_, rest) => rest | none => url
  (str "/oauth2/").isPrefixOf (rest.dropWhile (· != 47))

/-- Whether `perform` keeps a request off the shared jar. -/
def isolates (req : HttpRequest) : Bool :=
  req.noStoredCookies || req.sessionless || isOauth2Url req.url

/-- The request as `perform` hands it on. -/
def routed (req : HttpRequest) : HttpRequest :=
  if !req.sessionless && isOauth2Url req.url then { req with sessionless := true } else req

/-- Whether the cookies of an isolated exchange go on to the shared jar, for which a pooled handle is
borrowed (`merge_into_shared_jar`). -/
def adopts (req : HttpRequest) (resp : HttpResponse) : Bool :=
  !req.sessionless && resp.transportError == [] && resp.setCookies != [] &&
    hostFromUrl req.url != []

/-! ## The pools -/

/-- A `CURL*`. -/
abbrev Handle : Type := Nat

/-- A turn of `acquire` or `acquire_plain` under its lock: `none` waits for a handle to come back, and
`init` is what `curl_easy_init` answers, if it is called. -/
def acquire (cap : Nat) (init : Option Handle) (p : Lending Handle) :
    Option (Option Handle × Lending Handle) :=
  match p.idle.getLast? with
  | some h => some (some h, { p with idle := p.idle.dropLast, lent := h :: p.lent })
  | none =>
      if p.all.length < cap then
        match init with
        | none => some (none, p)
        | some h => some (some h, { p with all := p.all ++ [h], lent := h :: p.lent })
      else none

/-- `release` and `release_plain`. -/
def release (h : Handle) (p : Lending Handle) : Lending Handle :=
  { p with idle := p.idle ++ [h], lent := p.lent.erase h }

/-- Where a thread stands in `perform`. -/
inductive Activity where
  | outside
  | waiting (isolated : Bool) (req : HttpRequest)
  | transferring (isolated : Bool) (req : HttpRequest) (h : Handle)
  /-- An isolated exchange is over and its cookies are to be adopted. -/
  | adopting
  | merging (h : Handle)

/-- The pooled handle that a thread has borrowed. -/
def pooledOf : Activity → Option Handle
  | .transferring false _ h => some h
  | .merging h => some h
  | _ => none

/-- The handle without a cookie engine that a thread has borrowed. -/
def plainOf : Activity → Option Handle
  | .transferring true _ h => some h
  | _ => none

structure State where
  threads : Nat → Activity := fun _ => .outside
  pooled : Lending Handle := {}
  plain : Lending Handle := {}
  /-- The handles whose thread left `perform` without giving them back. -/
  lost : List Handle := []

inductive Event where
  /-- A thread calls `perform`. -/
  | call (i : Nat) (req : HttpRequest)
  | acquire (i : Nat) (init : Option Handle)
  /-- `transfer` returns. -/
  | finish (i : Nat) (resp : HttpResponse)
  /-- The cookies are in the jar. -/
  | merged (i : Nat)
  /-- An exception leaves `transfer` or `merge_into_shared_jar`. -/
  | throw (i : Nat)

def State.set (s : State) (i : Nat) (a : Activity) : State :=
  { s with threads := Function.update s.threads i a }

/-- One step, where it can be taken. -/
def step (cap : Nat) (s : State) : Event → Option State
  | .call i req =>
      match s.threads i with
      | .outside => some (s.set i (.waiting (isolates req) (routed req)))
      | _ => none
  | .acquire i init =>
      match s.threads i with
      | .waiting true req => do
          let (h, plain) ← acquire cap init s.plain
          some ({ s with plain }.set i (h.elim .outside (.transferring true req)))
      | .waiting false req => do
          let (h, pooled) ← acquire cap init s.pooled
          some ({ s with pooled }.set i (h.elim .outside (.transferring false req)))
      | .adopting => do
          let (h, pooled) ← acquire cap init s.pooled
          some ({ s with pooled }.set i (h.elim .outside .merging))
      | _ => none
  | .finish i resp =>
      match s.threads i with
      | .transferring true req h =>
          some ({ s with plain := release h s.plain }.set i
            (if adopts req resp then .adopting else .outside))
      | .transferring false _ h => some ({ s with pooled := release h s.pooled }.set i .outside)
      | _ => none
  | .merged i =>
      match s.threads i with
      | .merging h => some ({ s with pooled := release h s.pooled }.set i .outside)
      | _ => none
  | .throw i =>
      match s.threads i with
      -- no lease object stands in `perform_isolated`, so nothing gives the handle back
      | .transferring true _ h => some ({ s with lost := h :: s.lost }.set i .outside)
      | .transferring false _ h => some ({ s with pooled := release h s.pooled }.set i .outside)
      | .merging h => some ({ s with pooled := release h s.pooled }.set i .outside)
      | _ => none

/-- A step of the transport; `curl_easy_init` answers no handle that is still there. -/
def Step (cap : Nat) (s : State) (e : Event) (s' : State) : Prop :=
  step cap s e = some s' ∧ ∀ i h, e = .acquire i (some h) → h ∉ s.pooled.all ∧ h ∉ s.plain.all

/-! ## The books -/

/-- Idle and lent handles of a pool are apart, are together all that it made, and are within the
cap; none is lent twice. -/
structure Books (cap : Nat) (p : Lending Handle) : Prop where
  disjoint : p.idle.Disjoint p.lent
  together : (p.idle ++ p.lent).Perm p.all
  bounded : p.all.length ≤ cap
  once : p.lent.Nodup

/-- What a thread has borrowed from either pool. -/
def borrowed (a : Activity) : Option Handle := (pooledOf a).or (plainOf a)

structure Accounted (cap : Nat) (s : State) : Prop where
  pooled : Books cap s.pooled
  plain : Books cap s.plain
  /-- Whatever a thread has, it has alone. -/
  exclusive : ∀ i j h, borrowed (s.threads i) = some h → borrowed (s.threads j) = some h → i = j

/-- No thread is in `perform`. -/
def Quiet (s : State) : Prop := ∀ i, s.threads i = .outside

def NothingLent (s : State) : Prop := s.pooled.lent = [] ∧ s.plain.lent = []

/-- An exception that leaves the transfer of an isolated request. -/
def throwsIsolated (t : Transition State Event) : Bool :=
  match t.label with
  | .throw i => (plainOf (t.pre.threads i)).isSome
  | _ => false

/-- What every step keeps. -/
structure Invariant (cap : Nat) (s : State) : Prop where
  pooled : Lending.Sound cap (pooledOf ∘ s.threads) [] s.pooled
  plain : Lending.Sound cap (plainOf ∘ s.threads) s.lost s.plain
  /-- The two pools make handles of their own. -/
  apart : s.pooled.all.Disjoint s.plain.all

theorem acquire_cases {cap : Nat} {init h : Option Handle} {p p' : Lending Handle}
    (hacquire : acquire cap init p = some (h, p')) :
    (h = none ∧ p' = p) ∨
      (∃ a rest, h = some a ∧ p.idle = rest ++ [a] ∧
        p' = { p with idle := rest, lent := a :: p.lent }) ∨
      (∃ a, h = some a ∧ init = some a ∧ p.all.length < cap ∧
        p' = { p with all := p.all ++ [a], lent := a :: p.lent }) := by
  unfold acquire at hacquire
  cases hidle : p.idle.getLast? with
  | some a =>
      rw [hidle] at hacquire
      cases hacquire
      obtain ⟨rest, hrest⟩ := List.getLast?_eq_some_iff.mp hidle
      refine .inr (.inl ⟨a, rest, rfl, hrest, ?_⟩)
      rw [hrest, List.dropLast_concat]
  | none =>
      rw [hidle] at hacquire
      by_cases hroom : p.all.length < cap
      · simp only [if_pos hroom] at hacquire
        cases init with
        | none =>
            cases hacquire
            exact .inl ⟨rfl, rfl⟩
        | some a =>
            cases hacquire
            exact .inr (.inr ⟨a, rfl, rfl, hroom, rfl⟩)
      · simp only [if_neg hroom] at hacquire
        cases hacquire

/-- A thread that takes what `acquire` answers keeps the pool sound; what is new in the pool came
from `curl_easy_init`. -/
theorem acquire_sound {cap : Nat} {held : Nat → Option Handle} {lost : List Handle}
    {p p' : Lending Handle} {init h : Option Handle} {i : Nat}
    (hsound : Lending.Sound cap held lost p) (hacquire : acquire cap init p = some (h, p'))
    (hnew : ∀ a, init = some a → a ∉ p.all) (hi : held i = none) :
    Lending.Sound cap (Function.update held i h) lost p' ∧
      ∀ a ∈ p'.all, a ∈ p.all ∨ init = some a := by
  obtain ⟨rfl, rfl⟩ | ⟨a, rest, rfl, hidle, rfl⟩ | ⟨a, rfl, hinit, hroom, rfl⟩ :=
    acquire_cases hacquire
  · rw [← hi, Function.update_eq_self]
    exact ⟨hsound, fun _ => .inl⟩
  · exact ⟨hsound.take hidle hi, fun _ => .inl⟩
  · refine ⟨hsound.create (hnew a hinit) hroom hi, fun b hb => ?_⟩
    cases List.mem_append.mp hb with
    | inl hold => exact .inl hold
    | inr hlast => exact .inr (by rw [hinit, List.mem_singleton.mp hlast])

theorem comp_set (f : Activity → Option Handle) (s : State) (i : Nat) (a : Activity) :
    f ∘ (s.set i a).threads = Function.update (f ∘ s.threads) i (f a) :=
  Function.comp_update f s.threads i a

/-- What the other pool's holders see of a thread that has nothing of that pool, before and after. -/
theorem comp_set_same {f : Activity → Option Handle} {s : State} {i : Nat} {a : Activity}
    (h : f a = f (s.threads i)) : f ∘ (s.set i a).threads = f ∘ s.threads := by
  rw [comp_set, h]
  exact Function.update_eq_self i (f ∘ s.threads)

theorem Invariant.start (cap : Nat) : Invariant cap {} :=
  ⟨.empty cap, .empty cap, List.disjoint_nil_left _⟩

/-- A thread that borrows nothing before and after leaves both pools as they are. -/
theorem Invariant.idles {cap : Nat} {s : State} (h : Invariant cap s) {i : Nat} {a : Activity}
    (hi : borrowed (s.threads i) = none) (ha : borrowed a = none) :
    Invariant cap (s.set i a) := by
  simp only [borrowed, Option.or_eq_none_iff] at hi ha
  refine ⟨?_, ?_, h.apart⟩
  · rw [comp_set_same (by rw [ha.1, hi.1])]
    exact h.pooled
  · rw [comp_set_same (by rw [ha.2, hi.2])]
    exact h.plain

theorem Invariant.acquirePooled {cap : Nat} {s : State} (h : Invariant cap s) {i : Nat}
    {init got : Option Handle} {pooled : Lending Handle} {a : Activity}
    (hacquire : acquire cap init s.pooled = some (got, pooled))
    (hnew : ∀ b, init = some b → b ∉ s.pooled.all ∧ b ∉ s.plain.all)
    (hi : borrowed (s.threads i) = none) (hpooled : pooledOf a = got) (hplain : plainOf a = none) :
    Invariant cap ({ s with pooled }.set i a) := by
  simp only [borrowed, Option.or_eq_none_iff] at hi
  obtain ⟨hsound, hall⟩ :=
    acquire_sound h.pooled hacquire (fun b hb => (hnew b hb).1) (i := i) hi.1
  refine ⟨?_, ?_, fun b hb hb' => ?_⟩
  · rw [comp_set, hpooled]
    exact hsound
  · rw [comp_set_same (by rw [hplain]; exact hi.2.symm)]
    exact h.plain
  · cases hall b hb with
    | inl hold => exact h.apart hold hb'
    | inr hinit => exact (hnew b hinit).2 hb'

theorem Invariant.acquirePlain {cap : Nat} {s : State} (h : Invariant cap s) {i : Nat}
    {init got : Option Handle} {plain : Lending Handle} {a : Activity}
    (hacquire : acquire cap init s.plain = some (got, plain))
    (hnew : ∀ b, init = some b → b ∉ s.pooled.all ∧ b ∉ s.plain.all)
    (hi : borrowed (s.threads i) = none) (hpooled : pooledOf a = none) (hplain : plainOf a = got) :
    Invariant cap ({ s with plain }.set i a) := by
  simp only [borrowed, Option.or_eq_none_iff] at hi
  obtain ⟨hsound, hall⟩ :=
    acquire_sound h.plain hacquire (fun b hb => (hnew b hb).2) (i := i) hi.2
  refine ⟨?_, ?_, fun b hb hb' => ?_⟩
  · rw [comp_set_same (by rw [hpooled]; exact hi.1.symm)]
    exact h.pooled
  · rw [comp_set, hplain]
    exact hsound
  · cases hall b hb' with
    | inl hold => exact h.apart hb hold
    | inr hinit => exact (hnew b hinit).1 hb

theorem Invariant.releasePooled {cap : Nat} {s : State} (h : Invariant cap s) {i : Nat} {a : Handle}
    (hi : pooledOf (s.threads i) = some a) :
    Invariant cap ({ s with pooled := release a s.pooled }.set i .outside) := by
  have hplain : plainOf (s.threads i) = none := by
    cases hthread : s.threads i with
    | transferring isolated req b =>
        rw [hthread] at hi
        cases isolated with
        | true => cases hi
        | false => rfl
    | _ => rfl
  refine ⟨?_, ?_, h.apart⟩
  · rw [comp_set]
    exact h.pooled.giveBack hi
  · rw [comp_set_same hplain.symm]
    exact h.plain

/-- The spec of a step: the books of both pools stay right, and a handle is lost exactly when an
exception leaves an isolated transfer. -/
theorem step_spec {cap : Nat} {s s' : State} {e : Event} (h : Invariant cap s)
    (hstep : Step cap s e s') :
    Invariant cap s' ∧
      s'.lost.length = s.lost.length + (if throwsIsolated ⟨s, e, s'⟩ then 1 else 0) := by
  obtain ⟨hstep, hfresh⟩ := hstep
  cases e with
  | call i req =>
      cases hthread : s.threads i with
      | outside =>
          simp only [step, hthread, Option.some.injEq] at hstep
          subst hstep
          exact ⟨h.idles (by rw [hthread]; rfl) rfl, rfl⟩
      | _ => simp [step, hthread] at hstep
  | acquire i init =>
      -- a handle that `curl_easy_init` makes is in neither pool yet
      have hnew : ∀ b, init = some b → b ∉ s.pooled.all ∧ b ∉ s.plain.all := fun b hb =>
        hfresh i b (by rw [hb])
      cases hthread : s.threads i with
      | waiting isolated req =>
          have hi : borrowed (s.threads i) = none := by rw [hthread]; rfl
          cases isolated with
          | true =>
              simp only [step, hthread, Option.bind_eq_bind, Option.bind_eq_some_iff] at hstep
              obtain ⟨⟨got, plain⟩, hacquire, hstep⟩ := hstep
              cases hstep
              refine ⟨h.acquirePlain hacquire hnew hi ?_ ?_, rfl⟩ <;> cases got <;> rfl
          | false =>
              simp only [step, hthread, Option.bind_eq_bind, Option.bind_eq_some_iff] at hstep
              obtain ⟨⟨got, pooled⟩, hacquire, hstep⟩ := hstep
              cases hstep
              refine ⟨h.acquirePooled hacquire hnew hi ?_ ?_, rfl⟩ <;> cases got <;> rfl
      | adopting =>
          have hi : borrowed (s.threads i) = none := by rw [hthread]; rfl
          simp only [step, hthread, Option.bind_eq_bind, Option.bind_eq_some_iff] at hstep
          obtain ⟨⟨got, pooled⟩, hacquire, hstep⟩ := hstep
          cases hstep
          refine ⟨h.acquirePooled hacquire hnew hi ?_ ?_, rfl⟩ <;> cases got <;> rfl
      | _ => simp [step, hthread] at hstep
  | finish i resp =>
      cases hthread : s.threads i with
      | transferring isolated req a =>
          cases isolated with
          | true =>
              simp only [step, hthread, Option.some.injEq] at hstep
              subst hstep
              -- an isolated transfer gives its handle back, whether it goes on to adopt or not
              have hnext : borrowed (if adopts req resp then .adopting else .outside) = none := by
                cases adopts req resp <;> rfl
              simp only [borrowed, Option.or_eq_none_iff] at hnext
              refine ⟨⟨?_, ?_, h.apart⟩, rfl⟩
              · rw [comp_set_same (by rw [hnext.1]; exact (congrArg pooledOf hthread).symm)]
                exact h.pooled
              · rw [comp_set, hnext.2]
                exact h.plain.giveBack (congrArg plainOf hthread)
          | false =>
              simp only [step, hthread, Option.some.injEq] at hstep
              subst hstep
              exact ⟨h.releasePooled (by rw [hthread]; rfl), rfl⟩
      | _ => simp [step, hthread] at hstep
  | merged i =>
      cases hthread : s.threads i with
      | merging a =>
          simp only [step, hthread, Option.some.injEq] at hstep
          subst hstep
          exact ⟨h.releasePooled (by rw [hthread]; rfl), rfl⟩
      | _ => simp [step, hthread] at hstep
  | throw i =>
      cases hthread : s.threads i with
      | transferring isolated req a =>
          cases isolated with
          | true =>
              simp only [step, hthread, Option.some.injEq] at hstep
              subst hstep
              -- no lease gives the handle of an isolated transfer back
              refine ⟨⟨?_, ?_, h.apart⟩, by simp [throwsIsolated, hthread, plainOf, State.set]⟩
              · rw [comp_set_same (by rw [hthread]; rfl)]
                exact h.pooled
              · rw [comp_set]
                exact h.plain.lose (congrArg plainOf hthread)
          | false =>
              simp only [step, hthread, Option.some.injEq] at hstep
              subst hstep
              refine ⟨h.releasePooled (by rw [hthread]; rfl), ?_⟩
              simp [throwsIsolated, hthread, plainOf, State.set]
      | merging a =>
          simp only [step, hthread, Option.some.injEq] at hstep
          subst hstep
          refine ⟨h.releasePooled (by rw [hthread]; rfl), ?_⟩
          simp [throwsIsolated, hthread, plainOf, State.set]
      | _ => simp [step, hthread] at hstep

/-- Along a run the books stay right, and what was lost is one handle for every exception that left
an isolated transfer. -/
theorem run_spec {cap : Nat} {s : State} {trace : List (Transition State Event)}
    (hrun : Run (Step cap) {} trace s) :
    Invariant cap s ∧ s.lost.length = trace.countP throwsIsolated := by
  have hkeep : ∀ past s e s',
      (Invariant cap s ∧ s.lost.length = List.countP throwsIsolated past) → Step cap s e s' →
        Invariant cap s' ∧
          s'.lost.length = List.countP throwsIsolated (past ++ [⟨s, e, s'⟩]) := by
    intro past s e s' hpast hstep
    obtain ⟨hinvariant, hlost⟩ := step_spec hpast.1 hstep
    refine ⟨hinvariant, ?_⟩
    rw [hlost, hpast.2, List.countP_append, List.countP_singleton]
  have hstart : Invariant cap {} ∧ List.length ([] : List Handle) =
      List.countP throwsIsolated [] := ⟨Invariant.start cap, rfl⟩
  exact (hrun.history hkeep hstart).1

theorem Invariant.accounted {cap : Nat} {s : State} (h : Invariant cap s) : Accounted cap s := by
  refine ⟨⟨h.pooled.balanced.disjoint, h.pooled.balanced.together, h.pooled.balanced.bounded,
      h.pooled.balanced.lent_nodup⟩,
    ⟨h.plain.balanced.disjoint, h.plain.balanced.together, h.plain.balanced.bounded,
      h.plain.balanced.lent_nodup⟩, fun i j a hi hj => ?_⟩
  have hpooled : ∀ {k}, pooledOf (s.threads k) = some a → a ∈ s.pooled.all := fun hk =>
    h.pooled.balanced.mem_all (h.pooled.holders.borrowed _ a hk).1
  have hplain : ∀ {k}, plainOf (s.threads k) = some a → a ∈ s.plain.all := fun hk =>
    h.plain.balanced.mem_all (h.plain.holders.borrowed _ a hk).1
  simp only [borrowed, Option.or_eq_some_iff] at hi hj
  -- the same handle of one pool has one holder, and no handle is of both pools
  obtain hi | ⟨-, hi⟩ := hi <;> obtain hj | ⟨-, hj⟩ := hj
  · exact h.pooled.holders.unique i j a hi hj
  · exact absurd (hplain hj) (h.apart (hpooled hi))
  · exact absurd (hplain hi) (h.apart (hpooled hj))
  · exact h.plain.holders.unique i j a hi hj

/-- In every state that the transport reaches, the books of both pools are right and no handle has two
holders; and when no thread is in `perform`, nothing is lent exactly if no exception ever left the
transfer of an isolated request. -/
theorem run_accounted {cap : Nat} {s : State} {trace : List (Transition State Event)}
    (hrun : Run (Step cap) {} trace s) :
    Accounted cap s ∧
      (Quiet s → (NothingLent s ↔ ∀ t ∈ trace, throwsIsolated t = false)) := by
  obtain ⟨hinvariant, hlost⟩ := run_spec hrun
  refine ⟨hinvariant.accounted, fun hquiet => ?_⟩
  have hpooled : s.pooled.lent = [] := by
    refine (hinvariant.pooled.holders.lent_eq_nil_iff fun i => ?_).mpr rfl
    show pooledOf (s.threads i) = none
    rw [hquiet i]
    rfl
  have hplain : s.plain.lent = [] ↔ s.lost = [] := by
    refine hinvariant.plain.holders.lent_eq_nil_iff fun i => ?_
    show plainOf (s.threads i) = none
    rw [hquiet i]
    rfl
  rw [NothingLent, and_iff_right hpooled, hplain, ← List.length_eq_zero_iff, hlost,
    List.countP_eq_zero]
  simp only [Bool.not_eq_true]

/-- A device asks for a token, and the transfer throws. -/
def tokenRequest : HttpRequest where
  method := "POST"
  url := "https://a.example/oauth2/token"
  sessionless := true

def calledState : State := State.set {} 0 (.waiting true tokenRequest)

def transferringState : State :=
  { calledState with plain := { idle := [], all := [7], lent := [7] } }.set 0
    (.transferring true tokenRequest 7)

def thrownState : State := { transferringState with lost := [7] }.set 0 .outside

def thrownTrace : List (Transition State Event) :=
  [⟨{}, .call 0 tokenRequest, calledState⟩, ⟨calledState, .acquire 0 (some 7), transferringState⟩,
    ⟨transferringState, .throw 0, thrownState⟩]

theorem thrown_run : Run (Step 1) {} thrownTrace thrownState := by
  have hrouted : routed tokenRequest = tokenRequest := rfl
  have hisolates : isolates tokenRequest = true := rfl
  refine .cons ⟨?_, ?_⟩ (.cons ⟨?_, ?_⟩ (.cons ⟨rfl, ?_⟩ (.nil _)))
  · show some (State.set {} 0 (.waiting (isolates tokenRequest) (routed tokenRequest))) = _
    rw [hrouted, hisolates]
    rfl
  · intro i h he
    cases he
  · rfl
  · intro i h _
    exact ⟨List.not_mem_nil, List.not_mem_nil⟩
  · intro i h he
    cases he

theorem thrown_quiet : Quiet thrownState := by
  intro i
  by_cases hi : i = 0
  · rw [hi]
    rfl
  · simp only [thrownState, transferringState, calledState, State.set, Function.update_of_ne hi]

theorem thrown_accounted :
    Accounted 1 thrownState ∧
      (NothingLent thrownState ↔ ∀ t ∈ thrownTrace, throwsIsolated t = false) :=
  ⟨(run_accounted thrown_run).1, (run_accounted thrown_run).2 thrown_quiet⟩

/-- Nobody is at work, and a handle is lent. -/
theorem thrown_lent :
    ∃ trace s, Run (Step 1) {} trace s ∧ Quiet s ∧ ¬NothingLent s :=
  ⟨thrownTrace, thrownState, thrown_run, thrown_quiet, fun h => by cases h.2⟩

/-! ## What a lost handle costs -/

/-- Once as many exceptions left isolated transfers as the pool may have handles, no isolated request
gets a handle any more, however the run goes on and whatever `curl_easy_init` answers. -/
theorem isolated_starves {cap : Nat} {s u : State} {trace later : List (Transition State Event)}
    (hrun : Run (Step cap) {} trace s) (hcap : cap ≤ trace.countP throwsIsolated)
    (hlater : Run (Step cap) s later u) {i : Nat} {req : HttpRequest}
    (hi : u.threads i = .waiting true req) (init : Option Handle) :
    step cap u (.acquire i init) = none := by
  obtain ⟨hinvariant, hlost⟩ := run_spec (hrun.append hlater)
  have hcount : cap ≤ u.lost.length := by
    rw [hlost, List.countP_append]
    omega
  obtain ⟨hidle, hall⟩ := hinvariant.plain.holders.exhausted hinvariant.plain.balanced hcount
  have hwaits : acquire cap init u.plain = none := by
    have hfull : ¬u.plain.all.length < cap := by omega
    simp only [acquire, hidle, List.getLast?_nil, if_neg hfull]
  simp only [step, hi, hwaits, Option.bind_eq_bind, Option.bind_none]

/-- After the exception of `thrown_run`, a second request for a token waits for ever. -/
theorem second_starves :
    step 1 (thrownState.set 0 (.waiting true tokenRequest)) (.acquire 0 (some 8)) = none := by
  have hcalled : Run (Step 1) thrownState
      [⟨thrownState, .call 0 tokenRequest, thrownState.set 0 (.waiting true tokenRequest)⟩]
      (thrownState.set 0 (.waiting true tokenRequest)) := by
    refine .cons ⟨?_, nofun⟩ (.nil _)
    have hrouted : routed tokenRequest = tokenRequest := rfl
    have hisolates : isolates tokenRequest = true := rfl
    show some (State.set thrownState 0 (.waiting (isolates tokenRequest) (routed tokenRequest))) = _
    rw [hrouted, hisolates]
  exact isolated_starves thrown_run (by decide) hcalled (Function.update_self ..) (some 8)

end Axiam.Transport
