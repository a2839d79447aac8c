import Axiam.Transport.Pools
import Axiam.Transport.Transfer

/-!
# The cookie jar

The pooled handles share one cookie jar, the others have none (`src/http_curl.cpp`).  Any number of
threads perform requests at once: each sets its options on the handle it borrowed, one after the
other, sends, and hears the lines of the answer; `merge_into_shared_jar` plants cookies in the jar
line by line.  libcurl's own reading and writing of the jar is a parameter.

`net_isolated` says what can go out and what can get into the jar, at every step of every run: a
request goes out as it was asked for, and one of `/oauth2/` or without a session neither takes a
cookie from the jar nor leaves one in it.
-/

namespace Axiam.Transport

open Axiam.Lib

/-- The cookie engine of libcurl. -/
structure Engine (Jar : Type) where
  /-- The cookies that go with a request to a URL. -/
  cookies : Jar → Str → List Str
  /-- A line of a response from a URL is read. -/
  hear : Jar → Str → Str → Jar
  /-- `CURLOPT_COOKIELIST`. -/
  plant : Jar → Str → Jar

/-- The transport: its pools, its handles, its threads and what went out. -/
structure Net (Jar : Type) where
  jar : Jar
  pools : State := {}
  options : Handle → Options := fun _ => {}
  /-- What the caller of a thread handed to `perform`. -/
  asked : Nat → HttpRequest := fun _ => { method := [], url := [] }
  /-- What a thread has yet to set before it sends. -/
  todo : Nat → List Setting := fun _ => []
  heard : Nat → HttpResponse := fun _ => {}
  /-- The lines that a thread has yet to plant. -/
  lines : Nat → List Str := fun _ => []
  wire : List Wire := []

inductive NetEvent where
  /-- A turn of a pool, or the end of a transfer. -/
  | turn (e : Event)
  | set (i : Nat)
  | send (i : Nat)
  | hear (i : Nat) (line : Str)
  | plant (i : Nat)

/-- The lines of `merge_into_shared_jar`. -/
def plantedLines (url : Str) (setCookies : List Str) : List Str :=
  (setCookies.map (setCookieToNetscapeLine (hostFromUrl url))).filter (· ≠ [])

section

variable {Jar : Type} (engine : Engine Jar) (cap : Nat)

/-- A handle that a pool has just made has the options of its pool, and no others. -/
def Net.made (n : Net Jar) (h : Handle) (pooled : Bool) : Handle → Options :=
  if h ∈ n.pools.pooled.all ∨ h ∈ n.pools.plain.all then n.options
  else Function.update n.options h { engine := pooled }

/-- What a turn needs of the thread: a transfer that returns has sent, with the cookies that were
heard, and a merge is over when every line is planted. -/
def Net.allows (n : Net Jar) : Event → Bool
  | .finish i resp => (n.todo i).isEmpty && resp.setCookies == (n.heard i).setCookies
  | .merged i => (n.lines i).isEmpty
  | _ => true

/-- What a turn of the pools begins. -/
def Net.turned (n : Net Jar) (pools : State) : Event → Net Jar
  | .call i req => { n with pools, asked := Function.update n.asked i req }
  | .acquire i _ =>
      match pools.threads i with
      | .transferring isolated req h =>
          { n with
            pools
            options := n.made h !isolated
            todo := Function.update n.todo i (settings req)
            heard := Function.update n.heard i {} }
      | .merging h => { n with pools, options := n.made h true }
      | _ => { n with pools }
  | .finish i resp =>
      { n with pools, lines := Function.update n.lines i (plantedLines (n.asked i).url resp.setCookies) }
  | _ => { n with pools }

/-- One step, where it can be taken. -/
def netStep (n : Net Jar) : NetEvent → Option (Net Jar)
  | .turn e =>
      if n.allows e then (step cap n.pools e).map fun pools => n.turned pools e else none
  | .set i =>
      match n.pools.threads i, n.todo i with
      | .transferring _ _ h, setting :: rest => some
          { n with
            options := Function.update n.options h ((n.options h).apply setting)
            todo := Function.update n.todo i rest }
      | _, _ => none
  | .send i =>
      match n.pools.threads i, n.todo i with
      | .transferring _ _ h, [] => some
          { n with wire := n.wire ++
              [(n.options h).wire (engine.cookies n.jar (n.options h).url)] }
      | _, _ => none
  | .hear i line =>
      match n.pools.threads i, n.todo i with
      | .transferring _ _ h, [] => some
          { n with
            jar := if (n.options h).engine then engine.hear n.jar (n.options h).url line else n.jar
            heard := Function.update n.heard i (headerCb (n.heard i) line) }
      | _, _ => none
  | .plant i =>
      match n.pools.threads i, n.lines i with
      | .merging h, line :: rest => some
          { n with
            jar := if (n.options h).engine then engine.plant n.jar line else n.jar
            lines := Function.update n.lines i rest }
      | _, _ => none

/-- A step of the transport; `curl_easy_init` answers no handle that is still there. -/
def NetStep (n : Net Jar) (e : NetEvent) (n' : Net Jar) : Prop :=
  netStep engine cap n e = some n' ∧
    ∀ i h, e = .turn (.acquire i (some h)) → h ∉ n.pools.pooled.all ∧ h ∉ n.pools.plain.all

end

/-! ## What a step may do -/

/-- A request that must neither take cookies nor leave any. -/
def Sessionless (req : HttpRequest) : Prop := req.sessionless = true ∨ isOauth2Url req.url = true

/-- What goes out, and how the jar comes to change. -/
structure Isolated {Jar : Type} (engine : Engine Jar) (t : Transition (Net Jar) NetEvent) : Prop where
  sends : t.post.wire = t.pre.wire ∨ ∃ i, t.post.wire = t.pre.wire ++
    [wireOf (t.pre.asked i) (if isolates (t.pre.asked i) then []
      else engine.cookies t.pre.jar (cString (t.pre.asked i).url))]
  keeps : t.post.jar = t.pre.jar ∨
    (∃ i line, isolates (t.pre.asked i) = false ∧
      t.post.jar = engine.hear t.pre.jar (cString (t.pre.asked i).url) line) ∨
    ∃ i raw, (t.pre.asked i).noStoredCookies = true ∧ ¬Sessionless (t.pre.asked i) ∧
      raw ∈ (t.pre.heard i).setCookies ∧
      t.post.jar = engine.plant t.pre.jar
        (setCookieToNetscapeLine (hostFromUrl (t.pre.asked i).url) raw)

/-! ## What a turn of the pools does -/

/-- The pool that a request takes its handle from. -/
def State.pool (s : State) : Bool → Lending Handle
  | true => s.plain
  | false => s.pooled

/-- The thread whose turn it is. -/
def Event.thread : Event → Nat
  | .call i _ | .acquire i _ | .finish i _ | .merged i | .throw i => i

/-- A turn moves one thread, and only a thread that gets a handle may find a new one in its pool. -/
inductive Turn (cap : Nat) (s s' : State) : Event → Nat → Activity → Prop where
  | call {i : Nat} {req : HttpRequest} : (∀ b, (s'.pool b).all = (s.pool b).all) →
      Turn cap s s' (.call i req) i (.waiting (isolates req) (routed req))
  | leave {e : Event} : (∀ b, (s'.pool b).all = (s.pool b).all) → (∀ j req, e ≠ .call j req) →
      s'.threads e.thread = .outside → Turn cap s s' e e.thread .outside
  | start {i : Nat} {init : Option Handle} {isolated : Bool} {req : HttpRequest} {h : Handle} :
      s.threads i = .waiting isolated req →
      acquire cap init (s.pool isolated) = some (some h, s'.pool isolated) →
      s'.pool (!isolated) = s.pool (!isolated) →
      s'.threads i = .transferring isolated req h →
      Turn cap s s' (.acquire i init) i (.transferring isolated req h)
  | adopt {i : Nat} {req : HttpRequest} {h : Handle} {resp : HttpResponse} :
      s.threads i = .transferring true req h → adopts req resp = true →
      (∀ b, (s'.pool b).all = (s.pool b).all) → Turn cap s s' (.finish i resp) i .adopting
  | merge {i : Nat} {init : Option Handle} {h : Handle} :
      s.threads i = .adopting → acquire cap init (s.pool false) = some (some h, s'.pool false) →
      s'.pool true = s.pool true → s'.threads i = .merging h →
      Turn cap s s' (.acquire i init) i (.merging h)

theorem acquire_none {cap : Nat} {init : Option Handle} {p p' : Lending Handle}
    (hacquire : acquire cap init p = some (none, p')) : p' = p := by
  obtain ⟨-, hsame⟩ | ⟨a, rest, ha, -⟩ | ⟨a, ha, -⟩ := acquire_cases hacquire
  · exact hsame
  · cases ha
  · cases ha

theorem step_cases {cap : Nat} {s s' : State} {e : Event} (hstep : step cap s e = some s') :
    ∃ i a, s'.threads = Function.update s.threads i a ∧ Turn cap s s' e i a := by
  have hsame : ∀ {t : State}, t.pooled.all = s.pooled.all → t.plain.all = s.plain.all →
      ∀ b, (t.pool b).all = (s.pool b).all := fun hpooled hplain b => by
    cases b
    · exact hpooled
    · exact hplain
  cases e with
  | call i req =>
      cases hthread : s.threads i with
      | outside =>
          simp only [step, hthread, Option.some.injEq] at hstep
          subst hstep
          exact ⟨i, _, rfl, .call fun _ => rfl⟩
      | _ => simp [step, hthread] at hstep
  | acquire i init =>
      cases hthread : s.threads i with
      | waiting isolated req =>
          cases isolated with
          | true =>
              simp only [step, hthread, Option.bind_eq_bind, Option.bind_eq_some_iff] at hstep
              obtain ⟨⟨got, plain⟩, hacquire, hstep⟩ := hstep
              cases hstep
              cases got with
              | none =>
                  -- `curl_easy_init` gave no handle, and the call is over
                  obtain rfl := acquire_none hacquire
                  exact ⟨i, _, rfl, .leave (fun _ => rfl) (by simp) (Function.update_self ..)⟩
              | some h =>
                  exact ⟨i, _, rfl, .start hthread hacquire rfl (Function.update_self ..)⟩
          | false =>
              simp only [step, hthread, Option.bind_eq_bind, Option.bind_eq_some_iff] at hstep
              obtain ⟨⟨got, pooled⟩, hacquire, hstep⟩ := hstep
              cases hstep
              cases got with
              | none =>
                  obtain rfl := acquire_none hacquire
                  exact ⟨i, _, rfl, .leave (fun _ => rfl) (by simp) (Function.update_self ..)⟩
              | some h =>
                  exact ⟨i, _, rfl, .start hthread hacquire rfl (Function.update_self ..)⟩
      | adopting =>
          simp only [step, hthread, Option.bind_eq_bind, Option.bind_eq_some_iff] at hstep
          obtain ⟨⟨got, pooled⟩, hacquire, hstep⟩ := hstep
          cases hstep
          cases got with
          | none =>
              obtain rfl := acquire_none hacquire
              exact ⟨i, _, rfl, .leave (fun _ => rfl) (by simp) (Function.update_self ..)⟩
          | some h => exact ⟨i, _, rfl, .merge hthread hacquire rfl (Function.update_self ..)⟩
      | _ => simp [step, hthread] at hstep
  | finish i resp =>
      cases hthread : s.threads i with
      | transferring isolated req h =>
          cases isolated with
          | true =>
              simp only [step, hthread, Option.some.injEq] at hstep
              subst hstep
              by_cases hadopts : adopts req resp = true
              · rw [if_pos hadopts]
                exact ⟨i, _, rfl, .adopt hthread hadopts (hsame rfl rfl)⟩
              · rw [if_neg hadopts]
                exact ⟨i, _, rfl, .leave (hsame rfl rfl) (by simp) (Function.update_self ..)⟩
          | false =>
              simp only [step, hthread, Option.some.injEq] at hstep
              subst hstep
              exact ⟨i, _, rfl, .leave (hsame rfl rfl) (by simp) (Function.update_self ..)⟩
      | _ => simp [step, hthread] at hstep
  | merged i =>
      cases hthread : s.threads i with
      | merging h =>
          simp only [step, hthread, Option.some.injEq] at hstep
          subst hstep
          exact ⟨i, _, rfl, .leave (hsame rfl rfl) (by simp) (Function.update_self ..)⟩
      | _ => simp [step, hthread] at hstep
  | throw i =>
      cases hthread : s.threads i with
      | transferring isolated req h =>
          cases isolated <;> simp only [step, hthread, Option.some.injEq] at hstep <;>
            subst hstep <;>
              exact ⟨i, _, rfl, .leave (hsame rfl rfl) (by simp) (Function.update_self ..)⟩
      | merging h =>
          simp only [step, hthread, Option.some.injEq] at hstep
          subst hstep
          exact ⟨i, _, rfl, .leave (hsame rfl rfl) (by simp) (Function.update_self ..)⟩
      | _ => simp [step, hthread] at hstep

/-! ## What holds of every thread -/

section

variable {Jar : Type} {engine : Engine Jar} {cap : Nat}

/-- A thread that adopts cookies asked for it, and has the lines of those it heard. -/
structure AdoptsFor (n : Net Jar) (i : Nat) : Prop where
  asked : (n.asked i).noStoredCookies = true
  session : ¬Sessionless (n.asked i)
  lines : ∀ l ∈ n.lines i, ∃ raw ∈ (n.heard i).setCookies,
    l = setCookieToNetscapeLine (hostFromUrl (n.asked i).url) raw

/-- Where a thread stands, it stands for the request that it was asked for. -/
def Stands (n : Net Jar) (i : Nat) : Activity → Prop
  | .outside => True
  | .waiting isolated req => isolated = isolates (n.asked i) ∧ req = routed (n.asked i)
  | .transferring isolated req h =>
      isolated = isolates (n.asked i) ∧ req = routed (n.asked i) ∧
        ∃ o done, done ++ n.todo i = settings req ∧ n.options h = done.foldl Options.apply o
  | .adopting => AdoptsFor n i
  | .merging _ => AdoptsFor n i

/-- What every step keeps. -/
structure NetInvariant (cap : Nat) (n : Net Jar) : Prop where
  pools : Invariant cap n.pools
  stands : ∀ i, Stands n i (n.pools.threads i)
  /-- The handles of the pool, and no others, have a cookie engine. -/
  engines : ∀ isolated, ∀ b ∈ (n.pools.pool isolated).all, (n.options b).engine = !isolated

/-- A step of another thread leaves a thread where it stands. -/
theorem Stands.frame {n n' : Net Jar} {i : Nat} {a : Activity} (h : Stands n i a)
    (hasked : n'.asked i = n.asked i) (htodo : n'.todo i = n.todo i)
    (hheard : n'.heard i = n.heard i) (hlines : n'.lines i = n.lines i)
    (hoptions : ∀ b, borrowed a = some b → n'.options b = n.options b) : Stands n' i a := by
  have hadopts : AdoptsFor n i → AdoptsFor n' i := fun hfor =>
    ⟨by rw [hasked]; exact hfor.asked, by rw [hasked]; exact hfor.session,
      by rw [hasked, hheard, hlines]; exact hfor.lines⟩
  cases a with
  | outside => trivial
  | waiting isolated req =>
      unfold Stands at h ⊢
      rw [hasked]
      exact h
  | transferring isolated req b =>
      have hb : n'.options b = n.options b := hoptions b (by cases isolated <;> rfl)
      obtain ⟨hisolated, hreq, o, done, hdone, hset⟩ := h
      refine ⟨?_, ?_, o, done, ?_, hb.trans hset⟩
      · rw [hasked]
        exact hisolated
      · rw [hasked]
        exact hreq
      · rw [htodo]
        exact hdone
  | adopting => exact hadopts h
  | merging b => exact hadopts h

/-- What a thread has borrowed, its pool has made. -/
theorem Invariant.made_of_borrowed {s : State} (h : Invariant cap s) {i : Nat} {b : Handle}
    (hi : borrowed (s.threads i) = some b) : b ∈ s.pooled.all ∨ b ∈ s.plain.all := by
  obtain hpooled | ⟨-, hplain⟩ := Option.or_eq_some_iff.mp hi
  · exact .inl (h.pooled.balanced.mem_all (h.pooled.holders.borrowed i b hpooled).1)
  · exact .inr (h.plain.balanced.mem_all (h.plain.holders.borrowed i b hplain).1)

theorem made_of_mem {n : Net Jar} {b : Handle} (hb : b ∈ n.pools.pooled.all ∨ b ∈ n.pools.plain.all)
    (h : Handle) (pooled : Bool) : n.made h pooled b = n.options b := by
  unfold Net.made
  by_cases hh : h ∈ n.pools.pooled.all ∨ h ∈ n.pools.plain.all
  · rw [if_pos hh]
  · rw [if_neg hh, Function.update_of_ne]
    rintro rfl
    exact hh hb

theorem mem_pool {s : State} {isolated : Bool} {b : Handle} (hb : b ∈ (s.pool isolated).all) :
    b ∈ s.pooled.all ∨ b ∈ s.plain.all := by
  cases isolated
  · exact .inl hb
  · exact .inr hb

/-- A handle that goes out, new or not, has the engine of its pool. -/
theorem acquire_engines {n : Net Jar} {pools : State} {isolated : Bool} {init : Option Handle}
    {h : Handle} (hinvariant : NetInvariant cap n)
    (hfresh : ∀ b, init = some b → b ∉ n.pools.pooled.all ∧ b ∉ n.pools.plain.all)
    (hacquire : acquire cap init (n.pools.pool isolated) = some (some h, pools.pool isolated))
    (hother : pools.pool (!isolated) = n.pools.pool (!isolated)) :
    ∀ flag, ∀ b ∈ (pools.pool flag).all, (n.made h (!isolated) b).engine = !flag := by
  have hold : ∀ flag, ∀ b ∈ (n.pools.pool flag).all, (n.made h (!isolated) b).engine = !flag :=
    fun flag b hb => by
      rw [made_of_mem (mem_pool hb)]
      exact hinvariant.engines flag b hb
  intro flag b hb
  by_cases hflag : flag = isolated
  · subst hflag
    obtain ⟨hnone, -⟩ | ⟨a, rest, -, -, hp⟩ | ⟨a, ha, hinit, -, hp⟩ := acquire_cases hacquire
    · cases hnone
    · rw [hp] at hb
      exact hold flag b hb
    · rw [hp] at hb
      obtain hb | hb := List.mem_append.mp hb
      · exact hold flag b hb
      · obtain rfl := List.mem_singleton.mp hb
        obtain rfl := Option.some.inj ha
        obtain ⟨hpooled, hplain⟩ := hfresh h hinit
        unfold Net.made
        rw [if_neg (not_or.mpr ⟨hpooled, hplain⟩), Function.update_self]
  · obtain rfl : flag = !isolated := by
      cases flag <;> cases isolated <;> simp_all
    rw [hother] at hb
    exact hold _ b hb

theorem settings_routed (req : HttpRequest) : settings (routed req) = settings req := by
  unfold routed
  split <;> rfl

/-- What is adopted of a request was asked for with its session. -/
theorem not_sessionless_of_adopts {req : HttpRequest} {resp : HttpResponse}
    (h : adopts (routed req) resp = true) : ¬Sessionless req := by
  have hroute : (routed req).sessionless = false := by
    unfold adopts at h
    simp only [Bool.and_eq_true, Bool.not_eq_true'] at h
    exact h.1.1.1
  unfold routed at hroute
  unfold Sessionless
  cases hsession : req.sessionless <;> cases hoauth : isOauth2Url req.url <;>
    simp_all

/-! ## Steps -/

/-- A turn that ends in nothing begins nothing. -/
theorem turned_leave {n : Net Jar} {pools : State} {e : Event} (hcall : ∀ j req, e ≠ .call j req)
    (hout : pools.threads e.thread = .outside) :
    ∃ lines, n.turned pools e = { n with pools, lines } ∧
      ∀ j, j ≠ e.thread → lines j = n.lines j := by
  cases e with
  | call i req => exact absurd rfl (hcall i req)
  | acquire i init =>
      have hi : pools.threads i = .outside := hout
      refine ⟨n.lines, ?_, fun _ _ => rfl⟩
      simp only [Net.turned, hi]
  | finish i resp => exact ⟨_, rfl, fun j hj => Function.update_of_ne hj ..⟩
  | merged i => exact ⟨n.lines, rfl, fun _ _ => rfl⟩
  | throw i => exact ⟨n.lines, rfl, fun _ _ => rfl⟩

/-- A thread moves and the others stand where they stood. -/
theorem stands_moved {n n' : Net Jar} {i : Nat} {a : Activity} (h : NetInvariant cap n)
    (hthreads : n'.pools.threads = Function.update n.pools.threads i a) (ha : Stands n' i a)
    (hasked : ∀ j, j ≠ i → n'.asked j = n.asked j) (htodo : ∀ j, j ≠ i → n'.todo j = n.todo j)
    (hheard : ∀ j, j ≠ i → n'.heard j = n.heard j) (hlines : ∀ j, j ≠ i → n'.lines j = n.lines j)
    (hoptions : ∀ b, b ∈ n.pools.pooled.all ∨ b ∈ n.pools.plain.all →
      n'.options b = n.options b) : ∀ j, Stands n' j (n'.pools.threads j) := by
  intro j
  rw [hthreads]
  by_cases hj : j = i
  · subst hj
    rw [Function.update_self]
    exact ha
  · rw [Function.update_of_ne hj]
    exact (h.stands j).frame (hasked j hj) (htodo j hj) (hheard j hj) (hlines j hj) fun b hb =>
      hoptions b (h.pools.made_of_borrowed hb)

theorem turned_invariant {n : Net Jar} {pools : State} {e : Event} (h : NetInvariant cap n)
    (hallows : n.allows e = true) (hstep : Step cap n.pools e pools) :
    NetInvariant cap (n.turned pools e) := by
  have hpools : Invariant cap pools := (step_spec h.pools hstep).1
  -- a turn that sets no option leaves the engines as they were
  have hsame : ∀ (options : Handle → Options), (∀ b, b ∈ n.pools.pooled.all ∨
      b ∈ n.pools.plain.all → options b = n.options b) →
      (∀ b, (pools.pool b).all = (n.pools.pool b).all) →
      ∀ flag, ∀ b ∈ (pools.pool flag).all, (options b).engine = !flag :=
    fun options hoptions hall flag b hb => by
      rw [hall] at hb
      rw [hoptions b (mem_pool hb)]
      exact h.engines flag b hb
  obtain ⟨i, a, hthreads, hturn⟩ := step_cases hstep.1
  cases hturn with
  | @call i req hall =>
      have hasked : (n.turned pools (.call i req)).asked i = req := Function.update_self ..
      refine ⟨hpools, stands_moved h hthreads ⟨?_, ?_⟩ (fun j hj => Function.update_of_ne hj ..)
        (fun _ _ => rfl) (fun _ _ => rfl) (fun _ _ => rfl) fun _ _ => rfl,
        hsame n.options (fun _ _ => rfl) hall⟩
      · rw [hasked]
      · rw [hasked]
  | leave hall hcall hout =>
      obtain ⟨lines, hturned, hlines⟩ := turned_leave (n := n) hcall hout
      rw [hturned]
      exact ⟨hpools, stands_moved h hthreads trivial (fun _ _ => rfl) (fun _ _ => rfl)
        (fun _ _ => rfl) hlines fun _ _ => rfl, hsame n.options (fun _ _ => rfl) hall⟩
  | @start i init isolated req b hwaiting hacquire hother hthread =>
      have hturned : n.turned pools (.acquire i init) =
          { n with
            pools
            options := n.made b !isolated
            todo := Function.update n.todo i (settings req)
            heard := Function.update n.heard i {} } := by
        simp only [Net.turned, hthread]
      have hfor := h.stands i
      rw [hwaiting] at hfor
      rw [hturned]
      refine ⟨hpools, stands_moved h hthreads ⟨hfor.1, hfor.2, n.made b (!isolated) b, [], ?_, rfl⟩
        (fun _ _ => rfl) (fun j hj => Function.update_of_ne hj ..)
        (fun j hj => Function.update_of_ne hj ..) (fun _ _ => rfl)
        fun b' hb' => made_of_mem hb' _ _, ?_⟩
      · exact Function.update_self ..
      · exact acquire_engines h (fun b' hb' => hstep.2 i b' (by rw [hb'])) hacquire hother
  | @adopt i req b resp htransferring hadopts hall =>
      have hfor := h.stands i
      rw [htransferring] at hfor
      obtain ⟨hisolated, hreq, -⟩ := hfor
      rw [hreq] at hadopts
      have hsession := not_sessionless_of_adopts hadopts
      -- only an exchange without the stored cookies is isolated and adopts
      have hasked : (n.asked i).noStoredCookies = true := by
        unfold isolates at hisolated
        unfold Sessionless at hsession
        simp_all
      have hheard : resp.setCookies = (n.heard i).setCookies := by
        simp only [Net.allows, Bool.and_eq_true, beq_iff_eq] at hallows
        exact hallows.2
      refine ⟨hpools, stands_moved h hthreads ⟨hasked, hsession, ?_⟩ (fun _ _ => rfl)
        (fun _ _ => rfl) (fun _ _ => rfl) (fun j hj => Function.update_of_ne hj ..) fun _ _ => rfl,
        hsame n.options (fun _ _ => rfl) hall⟩
      intro l hl
      have hplanted : l ∈ plantedLines (n.asked i).url resp.setCookies := by
        have hupdated : (n.turned pools (.finish i resp)).lines i =
          plantedLines (n.asked i).url resp.setCookies := Function.update_self ..
        rw [← hupdated]
        exact hl
      obtain ⟨raw, hraw, hline⟩ := List.mem_map.mp (List.mem_filter.mp hplanted).1
      exact ⟨raw, hheard ▸ hraw, hline.symm⟩
  | @merge i init b hadopting hacquire hother hthread =>
      have hturned : n.turned pools (.acquire i init) =
          { n with pools, options := n.made b true } := by
        simp only [Net.turned, hthread]
      have hfor := h.stands i
      rw [hadopting] at hfor
      rw [hturned]
      refine ⟨hpools, stands_moved h hthreads ⟨hfor.asked, hfor.session, hfor.lines⟩ (fun _ _ => rfl)
        (fun _ _ => rfl) (fun _ _ => rfl) (fun _ _ => rfl) fun b' hb' => made_of_mem hb' _ _, ?_⟩
      exact acquire_engines h (fun b' hb' => hstep.2 i b' (by rw [hb'])) hacquire hother

@[simp] theorem turned_jar (n : Net Jar) (pools : State) (e : Event) :
    (n.turned pools e).jar = n.jar := by
  cases e with
  | acquire i init =>
      simp only [Net.turned]
      split <;> rfl
  | _ => rfl

@[simp] theorem turned_wire (n : Net Jar) (pools : State) (e : Event) :
    (n.turned pools e).wire = n.wire := by
  cases e with
  | acquire i init =>
      simp only [Net.turned]
      split <;> rfl
  | _ => rfl

theorem NetInvariant.start (jar : Jar) : NetInvariant cap { jar } where
  pools := .start cap
  stands _ := trivial
  engines flag b hb := by cases flag <;> cases hb

/-- A step that touches neither pools nor options nor requests, but what one thread has yet to plant. -/
theorem NetInvariant.same {n n' : Net Jar} (h : NetInvariant cap n) (hpools : n'.pools = n.pools)
    (hoptions : n'.options = n.options) (hstands : ∀ i, Stands n' i (n.pools.threads i)) :
    NetInvariant cap n' where
  pools := by rw [hpools]; exact h.pools
  stands i := by rw [hpools]; exact hstands i
  engines := by rw [hpools, hoptions]; exact h.engines

section

variable {n : Net Jar} (hinvariant : NetInvariant cap n) {i : Nat}
include hinvariant

theorem engine_of_transferring {isolated : Bool} {req : HttpRequest} {h : Handle}
    (hthread : n.pools.threads i = .transferring isolated req h) :
    (n.options h).engine = !isolates (n.asked i) := by
  have hstands := hinvariant.stands i
  rw [hthread] at hstands
  rw [← hstands.1]
  refine hinvariant.engines isolated h ?_
  cases isolated with
  | true =>
      have hplain : plainOf (n.pools.threads i) = some h := by rw [hthread]; rfl
      exact hinvariant.pools.plain.balanced.mem_all
        (hinvariant.pools.plain.holders.borrowed i h hplain).1
  | false =>
      have hpooled : pooledOf (n.pools.threads i) = some h := by rw [hthread]; rfl
      exact hinvariant.pools.pooled.balanced.mem_all
        (hinvariant.pools.pooled.holders.borrowed i h hpooled).1

theorem engine_of_merging {h : Handle} (hthread : n.pools.threads i = .merging h) :
    (n.options h).engine = true := by
  have hpooled : pooledOf (n.pools.threads i) = some h := by rw [hthread]; rfl
  exact hinvariant.engines false h (hinvariant.pools.pooled.balanced.mem_all
    (hinvariant.pools.pooled.holders.borrowed i h hpooled).1)

/-- When everything is set, the handle has the request that its thread was asked for. -/
theorem wire_of_transferring {isolated : Bool} {req : HttpRequest} {h : Handle}
    (hthread : n.pools.threads i = .transferring isolated req h) (htodo : n.todo i = []) :
    (n.options h).url = cString (n.asked i).url ∧ ∀ cookies, (n.options h).wire cookies =
      wireOf (n.asked i) (if isolates (n.asked i) then [] else cookies) := by
  have hengine := engine_of_transferring hinvariant hthread
  have hstands := hinvariant.stands i
  rw [hthread] at hstands
  obtain ⟨-, rfl, o, done, hdone, hset⟩ := hstands
  rw [htodo, List.append_nil, settings_routed] at hdone
  rw [hdone] at hset
  have hwire : ∀ cookies, (n.options h).wire cookies =
      wireOf (n.asked i) (if isolates (n.asked i) then [] else cookies) := by
    intro cookies
    rw [hset, foldl_apply_engine] at hengine
    rw [hset, wire_settings, hengine]
    cases isolates (n.asked i) <;> rfl
  exact ⟨congrArg Wire.url (hwire []), hwire⟩

/-- A thread sets an option of its own handle, and of no other's. -/
theorem set_invariant {isolated : Bool} {req : HttpRequest} {h : Handle} {setting : Setting}
    {rest : List Setting} (hthread : n.pools.threads i = .transferring isolated req h)
    (htodo : n.todo i = setting :: rest) :
    NetInvariant cap
      { n with
        options := Function.update n.options h ((n.options h).apply setting)
        todo := Function.update n.todo i rest } := by
  have hborrowed : borrowed (n.pools.threads i) = some h := by
    rw [hthread]
    cases isolated <;> rfl
  refine ⟨hinvariant.pools, fun j => ?_, fun flag b hb => ?_⟩
  · by_cases hj : j = i
    · subst hj
      have hstands := hinvariant.stands j
      rw [hthread] at hstands
      obtain ⟨hisolated, hreq, o, done, hdone, hset⟩ := hstands
      show Stands _ j (n.pools.threads j)
      rw [hthread]
      refine ⟨hisolated, hreq, o, done ++ [setting], ?_, ?_⟩
      · show done ++ [setting] ++ Function.update n.todo j rest j = settings req
        rw [Function.update_self, List.append_assoc, List.singleton_append, ← htodo, hdone]
      · show Function.update n.options h ((n.options h).apply setting) h = _
        rw [Function.update_self, List.foldl_append, ← hset]
        rfl
    · refine (hinvariant.stands j).frame rfl (Function.update_of_ne hj ..) rfl rfl fun b hb => ?_
      refine Function.update_of_ne ?_ ..
      rintro rfl
      exact hj (hinvariant.pools.accounted.exclusive j i b hb hborrowed)
  · show (Function.update n.options h ((n.options h).apply setting) b).engine = !flag
    by_cases hbh : b = h
    · rw [hbh, Function.update_self, apply_engine, ← hbh]
      exact hinvariant.engines flag b hb
    · rw [Function.update_of_ne hbh]
      exact hinvariant.engines flag b hb

end

/-- The spec of a step. -/
theorem netStep_spec {n n' : Net Jar} {e : NetEvent} (h : NetInvariant cap n)
    (hstep : NetStep engine cap n e n') : NetInvariant cap n' ∧ Isolated engine ⟨n, e, n'⟩ := by
  obtain ⟨hstep, hfresh⟩ := hstep
  cases e with
  | turn e =>
      rw [netStep] at hstep
      by_cases hallows : n.allows e = true
      · rw [if_pos hallows] at hstep
        obtain ⟨pools, hpools, rfl⟩ := Option.map_eq_some_iff.mp hstep
        have hturn : Step cap n.pools e pools := ⟨hpools, fun i b he => hfresh i b (by rw [he])⟩
        exact ⟨turned_invariant h hallows hturn, .inl (turned_wire n pools e),
          .inl (turned_jar n pools e)⟩
      · rw [if_neg hallows] at hstep
        cases hstep
  | set i =>
      rw [netStep] at hstep
      split at hstep
      · next isolated req b setting rest hthread htodo =>
          cases hstep
          exact ⟨set_invariant h hthread htodo, .inl rfl, .inl rfl⟩
      · cases hstep
  | send i =>
      rw [netStep] at hstep
      split at hstep
      · next isolated req b hthread htodo =>
          cases hstep
          obtain ⟨hurl, hwire⟩ := wire_of_transferring h hthread htodo
          refine ⟨h.same rfl rfl fun j => (h.stands j).frame rfl rfl rfl rfl fun _ _ => rfl,
            .inr ⟨i, ?_⟩, .inl rfl⟩
          show n.wire ++ [(n.options b).wire (engine.cookies n.jar (n.options b).url)] = _
          rw [hwire, hurl]
      · cases hstep
  | hear i line =>
      rw [netStep] at hstep
      split at hstep
      · next isolated req b hthread htodo =>
          cases hstep
          have hurl := (wire_of_transferring h hthread htodo).1
          have hengine := engine_of_transferring h hthread
          refine ⟨h.same rfl rfl fun j => ?_, .inl rfl, ?_⟩
          · by_cases hj : j = i
            · subst hj
              have hstands := h.stands j
              rw [hthread] at hstands ⊢
              exact hstands
            · exact (h.stands j).frame rfl rfl (Function.update_of_ne hj ..) rfl fun _ _ => rfl
          -- the jar hears what a handle of the pool hears, and nothing that an isolated one does
          · cases hisolates : isolates (n.asked i) with
            | true =>
                rw [hisolates] at hengine
                exact .inl (if_neg (by rw [hengine]; decide))
            | false =>
                rw [hisolates] at hengine
                refine .inr (.inl ⟨i, line, hisolates, (if_pos (by rw [hengine]; rfl)).trans ?_⟩)
                rw [hurl]
      · cases hstep
  | plant i =>
      rw [netStep] at hstep
      split at hstep
      · next b line rest hthread hlines =>
          cases hstep
          have hengine := engine_of_merging h hthread
          have hfor : AdoptsFor n i := by
            have hstands := h.stands i
            rw [hthread] at hstands
            exact hstands
          refine ⟨h.same rfl rfl fun j => ?_, .inl rfl, ?_⟩
          · by_cases hj : j = i
            · subst hj
              rw [hthread]
              refine ⟨hfor.asked, hfor.session, fun l hl => hfor.lines l ?_⟩
              have hrest : l ∈ Function.update n.lines j rest j := hl
              rw [Function.update_self] at hrest
              rw [hlines]
              exact List.mem_cons_of_mem _ hrest
            · exact (h.stands j).frame rfl rfl rfl (Function.update_of_ne hj ..) fun _ _ => rfl
          -- the line is one of those planned when the exchange ended
          · obtain ⟨raw, hraw, hline⟩ := hfor.lines line (by rw [hlines]; exact List.mem_cons_self)
            refine .inr (.inr ⟨i, raw, hfor.asked, hfor.session, hraw, ?_⟩)
            exact (if_pos hengine).trans (by rw [hline])
      · cases hstep

end

/-- An engine that notes the lines, and gives all of them to everybody. -/
def noting : Engine (List Str) where
  cookies jar _ := jar
  hear jar _ line := jar ++ [line]
  plant jar line := jar ++ [line]

def pageRequest : HttpRequest where
  method := "GET"
  url := "https://a.example/page"

/-- A page is asked for, and its answer sets a cookie. -/
theorem page_run : ∃ trace n, Run (NetStep noting 1) { jar := [] } trace n ∧
    n.wire = [wireOf pageRequest []] ∧ n.jar = [str "Set-Cookie: sid=1"] := by
  refine ⟨_, _, .cons (l := .turn (.call 0 pageRequest)) ⟨rfl, nofun⟩
    (.cons (l := .turn (.acquire 0 (some 7))) ⟨rfl, fun _ _ _ => ⟨nofun, nofun⟩⟩
    (.cons (l := .set 0) ⟨rfl, nofun⟩ (.cons (l := .set 0) ⟨rfl, nofun⟩
    (.cons (l := .set 0) ⟨rfl, nofun⟩ (.cons (l := .set 0) ⟨rfl, nofun⟩
    (.cons (l := .set 0) ⟨rfl, nofun⟩ (.cons (l := .set 0) ⟨rfl, nofun⟩
    (.cons (l := .set 0) ⟨rfl, nofun⟩ (.cons (l := .set 0) ⟨rfl, nofun⟩
    (.cons (l := .set 0) ⟨rfl, nofun⟩ (.cons (l := .set 0) ⟨rfl, nofun⟩
    (.cons (l := .set 0) ⟨rfl, nofun⟩ (.cons (l := .send 0) ⟨rfl, nofun⟩
    (.cons (l := .hear 0 "Set-Cookie: sid=1") ⟨rfl, nofun⟩ (.nil _))))))))))))))), rfl, rfl⟩

end Axiam.Transport
