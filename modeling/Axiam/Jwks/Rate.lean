import Axiam.Jwks.Total
import Axiam.Lib.Run
import Axiam.Lib.Window
import Mathlib.Data.Int.ConditionallyCompleteOrder
import Mathlib.Order.ConditionallyCompleteLattice.Finset

/-!
# How often the key document is fetched

A stream of tokens at one verifier.  A fetch is made for one of two reasons: the cached keys are
due, or a `kid` is not among them and the cooldown is over.  A fetch that fails leaves the cache
due, and then the next token fetches again.
-/

namespace Axiam.Jwks

open Axiam.Lib Axiam.Lib.Prog

section

variable (env : Env)

/-- A token at one of the two entry points that take one. -/
def Presents (s : Verifier) (op : Op) (t : Verifier) : Prop :=
  op.jwt? ≠ none ∧ (op.run env s).2 = t

/-- The `kid` whose key is looked up for a token, if it comes to that. -/
def asksFor (jwt : Str) : Option Str :=
  (headerOf env jwt).bind fun header =>
    match readHeader header with
    | .ok kid => kid
    | .error _ => none

/-- The `kid` of a step. -/
def Op.asksFor (op : Op) : Option Str := op.jwt?.bind (Jwks.asksFor env)

/-- When the step fetched for keys that were due: the clock reading that decided it. -/
def expiryFetch (t : Transition Verifier Op) : List Int :=
  match t.label.asksFor env with
  | none => []
  | some _ => if t.pre.warm env (env.clock t.pre.ticks) then [] else [env.clock t.pre.ticks]

/-- When it fetched for a `kid` it did not know. -/
def kidFetch (t : Transition Verifier Op) : List Int :=
  match t.label.asksFor env with
  | none => []
  | some kid =>
      match ensureKeysLocked env t.pre with
      | (.error _, _) => []
      | (.ok _, m) =>
          if m.keys kid = none ∧ m.refetchCooldownUntil ≤ env.clock m.ticks then
            [env.clock m.ticks]
          else []

/-- The fetches of a step. -/
def fetches (t : Transition Verifier Op) : List Int := expiryFetch env t ++ kidFetch env t

/-- The answer fills the cache: a document, and every member of it can be read. -/
def Loads (answer : Answer) : Prop :=
  ∃ resp, answer = .ok resp ∧ delivered resp = true ∧ ReadableResponse env.parse resp

/-- The answer to the last request of a step. -/
def lastAnswer (t : Transition Verifier Op) : Answer :=
  env.transport t.post.sent.dropLast (jwksRequest env)

/-- After a step whose last fetch failed, no token that a key is looked up for comes for a
cooldown. -/
def Rested (trace : List (Transition Verifier Op)) : Prop :=
  trace.Pairwise fun p t => ¬Loads env (lastAnswer env p) → t.label.asksFor env ≠ none →
    ∀ f ∈ fetches env p, f + kOidcJwksRefetchCooldownSeconds ≤ env.clock t.pre.ticks

/-! ## One fetch -/

theorem loadFromJson_keeps {τ : Type} {f : Verifier → τ}
    (hf : ∀ s keys, f { s with keys := keys } = f s) (body : Str) :
    Keeps f (loadFromJson env body) := by
  have hwalk : ∀ items, Keeps f (addAll items) := by
    intro items
    induction items with
    | nil => exact Keeps.ret _
    | cons k rest ih =>
        exact Keeps.bind (Keeps.lift _) fun _ => Keeps.bind (Keeps.modify fun s => hf s _) fun _ => ih
  refine Keeps.bind (Keeps.modify fun s => hf s _) fun _ => ?_
  split
  · exact Keeps.ret _
  · exact hwalk _

/-- The part of the state the walk over a document leaves alone. -/
def Verifier.frame (s : Verifier) : Int × Int × Bool × List HttpRequest × Nat :=
  (s.fetchedAt, s.refetchCooldownUntil, s.haveKeys, s.sent, s.ticks)

/-- A document is walked to its end exactly when its members can be read. -/
theorem loadFromJson_ok_iff {resp : HttpResponse} (hdelivered : delivered resp = true) (s : Verifier) :
    (∃ u, (loadFromJson env resp.body s).1 = .ok u) ↔ ReadableResponse env.parse resp := by
  unfold ReadableResponse documentOf loadFromJson
  rw [if_pos hdelivered]
  rcases hitems : itemsOf env.parse resp.body with _ | items
  · exact iff_of_true ⟨(), rfl⟩ nofun
  · simp only [bind_run, modify_run]
    by_cases hread : ∀ k ∈ items, ReadableKey k
    · rw [addAll_of_readable items hread]
      exact iff_of_true ⟨(), rfl⟩ fun _ h => by cases h; exact hread
    · obtain ⟨e, s', hthrow⟩ := addAll_of_unreadable items hread
        { s with keys := fun _ => none }
      rw [hthrow]
      exact iff_of_false nofun fun h => hread (h items rfl)

/-- A due cache is fetched: one request, and the cache is filled exactly when the answer fills
it. -/
theorem ensureKeys_fetches {s : Verifier} (hdue : s.warm env (env.clock s.ticks) = false) :
    ∃ out t, ensureKeysLocked env s = (out, t) ∧ t.sent = s.sent ++ [jwksRequest env] ∧
      t.ticks = s.ticks + 1 ∧ t.refetchCooldownUntil = s.refetchCooldownUntil ∧
      ((Loads env (env.transport s.sent (jwksRequest env)) ∧ t.haveKeys = true ∧
          t.fetchedAt = env.clock s.ticks) ∨
        (¬Loads env (env.transport s.sent (jwksRequest env)) ∧ t.haveKeys = s.haveKeys ∧
          t.fetchedAt = s.fetchedAt)) := by
  have hstill : ({ s with ticks := s.ticks + 1 } : Verifier).warm env (env.clock s.ticks) = false :=
    hdue
  unfold ensureKeysLocked
  simp only [bind_run, now, read_run]
  rw [if_neg (by rw [hstill]; decide)]
  rcases hanswer : env.transport s.sent (jwksRequest env) with e | resp
  · refine ⟨.error e, { s with ticks := s.ticks + 1, sent := s.sent ++ [jwksRequest env] }, ?_, rfl,
      rfl, rfl, .inr ⟨?_, rfl, rfl⟩⟩
    · simp only [bind_run, transport, hanswer]
    · rintro ⟨resp, h, -⟩
      cases h
  · have hrun : ∀ k : HttpResponse → Prog Verifier Exc Unit,
        (transport env (jwksRequest env) >>= k) { s with ticks := s.ticks + 1 } =
          k resp (s.exchanged (jwksRequest env) resp) := by
      intro k
      simp only [bind_run, transport, hanswer]
      rfl
    rw [hrun]
    by_cases hdelivered : delivered resp = false
    · rw [if_pos hdelivered]
      refine ⟨_, _, rfl, rfl, rfl, rfl, .inr ⟨?_, rfl, rfl⟩⟩
      rintro ⟨resp', h, hload, -⟩
      cases h
      cases hdelivered.symm.trans hload
    · rw [if_neg hdelivered]
      have hdelivered : delivered resp = true := Bool.eq_true_of_not_eq_false hdelivered
      have hload := loadFromJson_ok_iff env hdelivered (s.exchanged (jwksRequest env) resp)
      have hframe := loadFromJson_keeps env (f := Verifier.frame) (fun _ _ => rfl) resp.body
        (s.exchanged (jwksRequest env) resp)
      rcases hwalk : loadFromJson env resp.body (s.exchanged (jwksRequest env) resp) with ⟨e | u, t⟩
      all_goals rw [hwalk] at hload hframe
      · rw [bind_run_error hwalk]
        refine ⟨_, t, rfl, congrArg (·.2.2.2.1) hframe, congrArg (·.2.2.2.2) hframe,
          congrArg (·.2.1) hframe, .inr ⟨?_, congrArg (·.2.2.1) hframe, congrArg (·.1) hframe⟩⟩
        rintro ⟨resp', h, -, hread⟩
        cases h
        obtain ⟨u, hu⟩ := hload.mpr hread
        cases hu
      · rw [bind_run_ok hwalk]
        exact ⟨_, _, rfl, congrArg (·.2.2.2.1) hframe, congrArg (·.2.2.2.2) hframe,
          congrArg (·.2.1) hframe, .inl ⟨⟨resp, rfl, hdelivered, hload.mp ⟨u, rfl⟩⟩, rfl, rfl⟩⟩

/-! ## One token -/

/-- What one step does to the cache and the cooldown. -/
structure StepFacts (t : Transition Verifier Op) : Prop where
  sent : t.post.sent = t.pre.sent ++ (fetches env t).map fun _ => jwksRequest env
  ticks : t.pre.ticks ≤ t.post.ticks
  /-- A fetch for keys that were due is decided at the first reading of the clock. -/
  due : ∀ a ∈ expiryFetch env t, a = env.clock t.pre.ticks ∧
    (t.pre.haveKeys = false ∨ env.cacheTtl ≤ a - t.pre.fetchedAt)
  /-- A fetch for a `kid` finds the cooldown over and opens it again. -/
  opens : ∀ c ∈ kidFetch env t, t.pre.refetchCooldownUntil ≤ c ∧
    t.post.refetchCooldownUntil = c + kOidcJwksRefetchCooldownSeconds
  shut : kidFetch env t = [] → t.post.refetchCooldownUntil = t.pre.refetchCooldownUntil
  within : ∀ f ∈ fetches env t, env.clock t.pre.ticks ≤ f ∧ f ≤ env.clock t.post.ticks
  idle : fetches env t = [] → t.post.haveKeys = t.pre.haveKeys ∧ t.post.fetchedAt = t.pre.fetchedAt
  fills : fetches env t ≠ [] → Loads env (lastAnswer env t) →
    t.post.haveKeys = true ∧ ∀ f ∈ fetches env t, f ≤ t.post.fetchedAt

theorem expiryFetch_length (t : Transition Verifier Op) : (expiryFetch env t).length ≤ 1 := by
  unfold expiryFetch
  split
  · simp
  · split <;> simp

theorem kidFetch_length (t : Transition Verifier Op) : (kidFetch env t).length ≤ 1 := by
  unfold kidFetch
  split
  · simp
  · split
    · simp
    · split <;> simp

/-- Where an entry point leaves the verifier: where the lookup of the key does, if there is one. -/
theorem presents_post {s t : Verifier} {op : Op} (h : Presents env s op t) :
    t = match op.asksFor env with
      | none => s
      | some kid => (findKey env kid s).2 := by
  obtain ⟨htoken, hrun⟩ := h
  -- both entry points end with the one lookup
  have hverify : ∀ jwt, (verifyWithReason env jwt s).2 = match asksFor env jwt with
      | none => s
      | some kid => (findKey env kid s).2 := by
    intro jwt
    unfold verifyWithReason asksFor
    rcases headerOf env jwt with _ | header
    · rfl
    · simp only [Option.bind_some]
      rcases hread : readHeader header with e | kid
      · rfl
      · rcases kid with _ | kid
        · rfl
        · refine bind_run_state s (m := findKey env kid) fun jwk t => ?_
          rcases jwk with _ | jwk <;> rfl
  rw [← hrun]
  cases op with
  | verifyWithReason jwt =>
      exact (bind_run_state s fun _ _ => rfl).trans (hverify jwt)
  | verifySignatureOnlyUnchecked jwt =>
      refine (bind_run_state s fun _ _ => rfl).trans (Eq.trans (bind_run_state s ?_) (hverify jwt))
      intro v t
      rcases v with _ | _ <;> rfl
  | refreshKeys => exact absurd rfl htoken

/-- What the first look leaves: a cache that was warm, or one that was fetched for. -/
structure Looked (s m : Verifier) : Prop where
  ticks : m.ticks = s.ticks + 1
  cooldown : m.refetchCooldownUntil = s.refetchCooldownUntil
  cache : (s.warm env (env.clock s.ticks) = true ∧ m.sent = s.sent ∧ m.haveKeys = s.haveKeys ∧
      m.fetchedAt = s.fetchedAt) ∨
    (s.warm env (env.clock s.ticks) = false ∧ m.sent = s.sent ++ [jwksRequest env] ∧
      (Loads env (env.transport s.sent (jwksRequest env)) → m.haveKeys = true ∧
        m.fetchedAt = env.clock s.ticks))

theorem ensureKeys_looked (s : Verifier) :
    ∃ out m, ensureKeysLocked env s = (out, m) ∧ Looked env s m := by
  cases hwarm : s.warm env (env.clock s.ticks) with
  | true => exact ⟨_, _, ensureKeys_warm hwarm, rfl, rfl, .inl ⟨hwarm, rfl, rfl, rfl⟩⟩
  | false =>
      obtain ⟨out, m, hrun, hsent, hticks, huntil, hcache⟩ := ensureKeys_fetches env hwarm
      refine ⟨out, m, hrun, hticks, huntil, .inr ⟨hwarm, hsent, fun hloads => ?_⟩⟩
      rcases hcache with ⟨-, hhave, hat⟩ | ⟨hnot, -, -⟩
      · exact ⟨hhave, hat⟩
      · exact absurd hloads hnot

section

variable {env} {s m t : Verifier} {op : Op} {kid : Str}

theorem expiryFetch_eq (hkid : op.asksFor env = some kid) : expiryFetch env ⟨s, op, t⟩ =
    if s.warm env (env.clock s.ticks) then [] else [env.clock s.ticks] := by
  unfold expiryFetch
  simp only [hkid]

theorem kidFetch_eq (hkid : op.asksFor env = some kid) {out : Except Exc Unit}
    (hfirst : ensureKeysLocked env s = (out, m)) : kidFetch env ⟨s, op, t⟩ = match out with
      | .error _ => []
      | .ok _ => if m.keys kid = none ∧ m.refetchCooldownUntil ≤ env.clock m.ticks then
          [env.clock m.ticks] else [] := by
  unfold kidFetch
  simp only [hkid, hfirst]
  rcases out with _ | _ <;> rfl

theorem expiryFetch_due {a : Int} (ha : a ∈ expiryFetch env ⟨s, op, t⟩) :
    a = env.clock s.ticks ∧ (s.haveKeys = false ∨ env.cacheTtl ≤ a - s.fetchedAt) := by
  cases hkid : op.asksFor env with
  | none =>
      unfold expiryFetch at ha
      simp [hkid] at ha
  | some kid =>
      rw [expiryFetch_eq hkid] at ha
      split at ha
      · cases ha
      · rename_i hcold
        obtain rfl := List.mem_singleton.mp ha
        refine ⟨rfl, ?_⟩
        unfold Verifier.warm at hcold
        rw [Bool.and_eq_true, decide_eq_true_eq, not_and_or, Bool.not_eq_true, not_lt] at hcold
        exact hcold

/-- The requests of a first look. -/
theorem Looked.sent (h : Looked env s m) (hkid : op.asksFor env = some kid) :
    m.sent = s.sent ++ (expiryFetch env ⟨s, op, t⟩).map fun _ => jwksRequest env := by
  rw [expiryFetch_eq hkid]
  rcases h.cache with ⟨hwarm, hsame, -, -⟩ | ⟨hcold, hmore, -⟩
  · rw [hwarm, hsame]
    exact (List.append_nil _).symm
  · rw [hcold, hmore]
    rfl

/-- Without a second fetch the state is that of the first look, up to readings of the clock. -/
theorem Looked.facts (h : Looked env s m) (hclock : Monotone env.clock)
    (hkid : op.asksFor env = some kid) (hsent : t.sent = m.sent) (hhave : t.haveKeys = m.haveKeys)
    (hat : t.fetchedAt = m.fetchedAt) (hcool : t.refetchCooldownUntil = m.refetchCooldownUntil)
    (hlate : m.ticks ≤ t.ticks) (hnone : kidFetch env ⟨s, op, t⟩ = []) :
    StepFacts env ⟨s, op, t⟩ := by
  have hfetches : fetches env ⟨s, op, t⟩ = expiryFetch env ⟨s, op, t⟩ := by
    unfold fetches
    rw [hnone, List.append_nil]
  have hlate' : s.ticks ≤ t.ticks := by
    have hticks := h.ticks
    omega
  refine ⟨?_, hlate', fun a => expiryFetch_due, fun c hc => ?_, fun _ => hcool.trans h.cooldown,
    fun f hf => ?_, fun hidle => ?_, fun hbusy hloads => ?_⟩
  · rw [hfetches]
    exact hsent.trans (h.sent hkid)
  · rw [hnone] at hc
    cases hc
  · rw [hfetches] at hf
    obtain ⟨rfl, -⟩ := expiryFetch_due hf
    exact ⟨le_rfl, hclock hlate'⟩
  · rw [hfetches, expiryFetch_eq hkid] at hidle
    rcases h.cache with ⟨-, -, hsame, hsame'⟩ | ⟨hcold, -, -⟩
    · exact ⟨hhave.trans hsame, hat.trans hsame'⟩
    · rw [hcold] at hidle
      cases hidle
  · rw [hfetches, expiryFetch_eq hkid] at hbusy
    rcases h.cache with ⟨hwarm, -, -, -⟩ | ⟨hcold, hmore, hfilled⟩
    · rw [hwarm] at hbusy
      exact absurd rfl hbusy
    · have hlast : lastAnswer env ⟨s, op, t⟩ = env.transport s.sent (jwksRequest env) := by
        unfold lastAnswer
        simp only
        rw [hsent, hmore, List.dropLast_concat]
      rw [hlast] at hloads
      obtain ⟨hhas, hfresh⟩ := hfilled hloads
      refine ⟨hhave.trans hhas, fun f hf => ?_⟩
      rw [hfetches] at hf
      obtain ⟨rfl, -⟩ := expiryFetch_due hf
      exact (hat.trans hfresh).ge

/-- The second fetch, for a `kid` that the first look did not find. -/
theorem Looked.refetch_facts (h : Looked env s m) (hclock : Monotone env.clock)
    (hkid : op.asksFor env = some kid) (hopen : m.refetchCooldownUntil ≤ env.clock m.ticks)
    (hstamp : kidFetch env ⟨s, op,
      (ensureKeysLocked env (m.refetching (env.clock m.ticks))).2⟩ = [env.clock m.ticks]) :
    StepFacts env ⟨s, op, (ensureKeysLocked env (m.refetching (env.clock m.ticks))).2⟩ := by
  -- it starts from a cache that is due
  obtain ⟨out, t, hsecond, hsent, hticks, huntil, hcache⟩ := ensureKeys_fetches env
    (refetching_due m (env.clock m.ticks) (env.clock (m.refetching (env.clock m.ticks)).ticks))
  rw [hsecond] at hstamp ⊢
  have hnext := h.ticks
  have hlate : t.ticks = m.ticks + 1 + 1 := hticks
  have hmid : env.clock s.ticks ≤ env.clock m.ticks := hclock (by omega)
  have hend : env.clock m.ticks ≤ env.clock t.ticks := hclock (by omega)
  have hmem : ∀ f ∈ fetches env ⟨s, op, t⟩, env.clock s.ticks ≤ f ∧ f ≤ env.clock m.ticks := by
    intro f hf
    unfold fetches at hf
    rw [hstamp] at hf
    rcases List.mem_append.mp hf with hf | hf
    · obtain ⟨rfl, -⟩ := expiryFetch_due hf
      exact ⟨le_rfl, hmid⟩
    · obtain rfl := List.mem_singleton.mp hf
      exact ⟨hmid, le_rfl⟩
  refine ⟨?_, ?_, fun a => expiryFetch_due, fun c hc => ?_, fun hnone => ?_, fun f hf => ?_,
    fun hidle => ?_, fun _ hloads => ?_⟩
  · unfold fetches
    rw [hstamp, List.map_append, ← List.append_assoc, ← h.sent hkid]
    exact hsent
  · show s.ticks ≤ t.ticks
    omega
  · rw [hstamp] at hc
    obtain rfl := List.mem_singleton.mp hc
    exact ⟨h.cooldown ▸ hopen, huntil⟩
  · rw [hstamp] at hnone
    cases hnone
  · exact ⟨(hmem f hf).1, (hmem f hf).2.trans hend⟩
  · unfold fetches at hidle
    rw [hstamp] at hidle
    exact absurd hidle (List.append_ne_nil_of_right_ne_nil _ (List.cons_ne_nil _ _))
  · have hlast : lastAnswer env ⟨s, op, t⟩ =
        env.transport (m.refetching (env.clock m.ticks)).sent (jwksRequest env) := by
      unfold lastAnswer
      simp only
      rw [hsent, List.dropLast_concat]
    rw [hlast] at hloads
    rcases hcache with ⟨-, hhave, hat⟩ | ⟨hnot, -, -⟩
    · refine ⟨hhave, fun f hf => (hmem f hf).2.trans ?_⟩
      rw [hat]
      exact hclock (Nat.le_succ m.ticks)
    · exact absurd hloads hnot

/-- The lookup of a key, by its two fetches. -/
theorem findKey_facts (hclock : Monotone env.clock) (hkid : op.asksFor env = some kid) :
    StepFacts env ⟨s, op, (findKey env kid s).2⟩ := by
  obtain ⟨out, m, hfirst, hlook⟩ := ensureKeys_looked env s
  rcases out with e | u
  · have hrun : findKey env kid s = (.error e, m) := bind_run_error hfirst _
    rw [hrun]
    exact hlook.facts hclock hkid rfl rfl rfl rfl le_rfl (kidFetch_eq hkid hfirst)
  rw [findKey_second hfirst]
  rcases hkey : m.keys kid with _ | jwk
  · simp only
    by_cases hcool : env.clock m.ticks < m.refetchCooldownUntil
    · rw [if_pos hcool]
      refine hlook.facts hclock hkid rfl rfl rfl rfl (Nat.le_succ _) ?_
      rw [kidFetch_eq hkid hfirst]
      exact if_neg fun h => absurd hcool (not_lt.mpr h.2)
    · rw [if_neg hcool]
      have hopen := not_lt.mp hcool
      have hfacts := hlook.refetch_facts hclock hkid hopen
        ((kidFetch_eq hkid hfirst).trans (if_pos ⟨hkey, hopen⟩))
      rcases hsecond : ensureKeysLocked env (m.refetching (env.clock m.ticks)) with ⟨out, t⟩
      rw [hsecond] at hfacts
      rcases out with _ | _ <;> exact hfacts
  · refine hlook.facts hclock hkid rfl rfl rfl rfl le_rfl ?_
    rw [kidFetch_eq hkid hfirst, hkey]
    exact if_neg (by simp)

end

/-- Every step of a stream of tokens. -/
theorem presents_facts (hclock : Monotone env.clock) {s t : Verifier} {op : Op}
    (h : Presents env s op t) : StepFacts env ⟨s, op, t⟩ := by
  have hpost := presents_post env h
  cases hkid : op.asksFor env with
  | some kid =>
      rw [hkid] at hpost
      obtain rfl : t = (findKey env kid s).2 := hpost
      exact findKey_facts hclock hkid
  | none =>
      rw [hkid] at hpost
      obtain rfl : t = s := hpost
      have hexpiry : expiryFetch env ⟨t, op, t⟩ = [] := by
        unfold expiryFetch
        simp only [hkid]
      have hkidNone : kidFetch env ⟨t, op, t⟩ = [] := by
        unfold kidFetch
        simp only [hkid]
      have hnone : fetches env ⟨t, op, t⟩ = [] := by
        unfold fetches
        rw [hexpiry, hkidNone, List.append_nil]
      refine ⟨?_, le_rfl, ?_, ?_, fun _ => rfl, ?_, fun _ => ⟨rfl, rfl⟩, fun h => absurd hnone h⟩
      · rw [hnone]
        exact (List.append_nil _).symm
      · rw [hexpiry]
        nofun
      · rw [hkidNone]
        nofun
      · rw [hnone]
        nofun

/-! ## A stream of tokens -/

/-- What the past of a run says of the next fetch: its fetches are over, each for a due cache is
older than the cached keys or a failed fetch is after it, and the cooldown each for a `kid` opened
is not over before its time. -/
structure Past (past : List (Transition Verifier Op)) (s : Verifier) : Prop where
  done : ∀ p ∈ past, ∀ f ∈ fetches env p, f ≤ env.clock s.ticks
  cached : ∀ p ∈ past, ∀ a ∈ expiryFetch env p, (s.haveKeys = true ∧ a ≤ s.fetchedAt) ∨
    ∃ q ∈ past, ¬Loads env (lastAnswer env q) ∧ ∃ f ∈ fetches env q, a ≤ f
  cooling : ∀ p ∈ past, ∀ c ∈ kidFetch env p,
    c + kOidcJwksRefetchCooldownSeconds ≤ s.refetchCooldownUntil

theorem expiry_mem {t : Transition Verifier Op} {a : Int} (h : a ∈ expiryFetch env t) :
    a ∈ fetches env t := List.mem_append_left _ h

/-- One more token. -/
theorem past_step (hclock : Monotone env.clock) {past : List (Transition Verifier Op)}
    {s t : Verifier} {op : Op} (h : Past env past s) (hstep : Presents env s op t) :
    Past env (past ++ [⟨s, op, t⟩]) t := by
  have facts := presents_facts env hclock hstep
  have hlater : env.clock s.ticks ≤ env.clock t.ticks := hclock facts.ticks
  refine ⟨fun p hp f hf => ?_, fun p hp a ha => ?_, fun p hp c hc => ?_⟩
  · rcases List.mem_append.mp hp with hp | hp
    · exact (h.done p hp f hf).trans hlater
    · obtain rfl := List.mem_singleton.mp hp
      exact (facts.within f hf).2
  · by_cases hidle : fetches env ⟨s, op, t⟩ = []
    · -- the cache is what it was
      obtain ⟨hhave, hat⟩ := facts.idle hidle
      rcases List.mem_append.mp hp with hp | hp
      · rcases h.cached p hp a ha with ⟨hhave', hle⟩ | ⟨q, hq, hfailed⟩
        · exact .inl ⟨hhave.trans hhave', hle.trans hat.ge⟩
        · exact .inr ⟨q, List.mem_append_left _ hq, hfailed⟩
      · obtain rfl := List.mem_singleton.mp hp
        have hmem := expiry_mem env ha
        rw [hidle] at hmem
        cases hmem
    · -- it was filled, or the last fetch failed; either is later than all of the past
      obtain ⟨f, hf⟩ := List.exists_mem_of_ne_nil _ hidle
      by_cases hloads : Loads env (lastAnswer env ⟨s, op, t⟩)
      · obtain ⟨hhave, hall⟩ := facts.fills hidle hloads
        refine .inl ⟨hhave, ?_⟩
        rcases List.mem_append.mp hp with hp | hp
        · exact (h.done p hp a (expiry_mem env ha)).trans ((facts.within f hf).1.trans (hall f hf))
        · obtain rfl := List.mem_singleton.mp hp
          exact hall a (expiry_mem env ha)
      · refine .inr ⟨_, List.mem_append_right _ List.mem_cons_self, hloads, ?_⟩
        rcases List.mem_append.mp hp with hp | hp
        · exact ⟨f, hf, (h.done p hp a (expiry_mem env ha)).trans (facts.within f hf).1⟩
        · obtain rfl := List.mem_singleton.mp hp
          exact ⟨a, expiry_mem env ha, le_rfl⟩
  · rcases List.mem_append.mp hp with hp | hp
    · have hcool := h.cooling p hp c hc
      rcases hnew : kidFetch env ⟨s, op, t⟩ with _ | ⟨d, rest⟩
      · rw [facts.shut hnew]
        exact hcool
      · obtain ⟨hopen, huntil⟩ := facts.opens d (by rw [hnew]; exact List.mem_cons_self)
        have huntil : t.refetchCooldownUntil = d + kOidcJwksRefetchCooldownSeconds := huntil
        have hopen : s.refetchCooldownUntil ≤ d := hopen
        unfold kOidcJwksRefetchCooldownSeconds at *
        omega
    · obtain rfl := List.mem_singleton.mp hp
      exact (facts.opens c hc).2.ge

/-- A run of tokens with what came before each of them. -/
theorem run_past (hclock : Monotone env.clock) {s last : Verifier}
    {trace : List (Transition Verifier Op)} (hrun : Run (Presents env) s trace last)
    {past : List (Transition Verifier Op)} (h : Past env past s) :
    ∀ earlier t later, trace = earlier ++ t :: later → Past env (past ++ earlier) t.pre ∧
      StepFacts env t := by
  induction hrun generalizing past with
  | nil _ =>
      intro earlier t later hsplit
      cases earlier <;> cases hsplit
  | @cons s u last op rest hstep _ ih =>
      intro earlier t later hsplit
      cases earlier with
      | nil =>
          cases hsplit
          rw [List.append_nil]
          exact ⟨h, presents_facts env hclock hstep⟩
      | cons p earlier =>
          cases hsplit
          rw [List.append_cons]
          exact ih (past_step env hclock h hstep) earlier t later rfl

/-- A relation each element has to every one after it, shown at the places of the list. -/
theorem pairwise_of_split {α : Type} {R : α → α → Prop} {l : List α}
    (h : ∀ earlier t later, l = earlier ++ t :: later → ∀ p ∈ earlier, R p t) : l.Pairwise R := by
  induction l with
  | nil => exact .nil
  | cons x rest ih =>
      refine List.pairwise_cons.mpr ⟨fun t ht => ?_, ih fun earlier t later hsplit p hp => ?_⟩
      · obtain ⟨earlier, later, hsplit⟩ := List.append_of_mem ht
        exact h (x :: earlier) t later (congrArg (x :: ·) hsplit) x List.mem_cons_self
      · exact h (x :: earlier) t later (congrArg (x :: ·) hsplit) p (List.mem_cons_of_mem x hp)

/-- Two tokens of a run in which failed fetches are rested: the later one's fetches come a
cooldown after the earlier one's, each of its own kind. -/
theorem apart (hclock : Monotone env.clock) (hlife : kOidcJwksRefetchCooldownSeconds ≤ env.cacheTtl)
    {s last : Verifier} {trace : List (Transition Verifier Op)}
    (hrun : Run (Presents env) s trace last) (hrested : Rested env trace) :
    trace.Pairwise fun p t =>
      (∀ a ∈ expiryFetch env p, ∀ b ∈ expiryFetch env t, a + kOidcJwksRefetchCooldownSeconds ≤ b) ∧
      ∀ a ∈ kidFetch env p, ∀ b ∈ kidFetch env t, a + kOidcJwksRefetchCooldownSeconds ≤ b := by
  have hstart : Past env [] s := ⟨nofun, nofun, nofun⟩
  refine pairwise_of_split fun earlier t later hsplit p hp => ?_
  obtain ⟨hpast, facts⟩ := run_past env hclock hrun hstart earlier t later hsplit
  rw [List.nil_append] at hpast
  subst hsplit
  have hrest := (List.pairwise_append.mp hrested).2.2
  refine ⟨fun a ha b hb => ?_, fun a ha b hb => ?_⟩
  · obtain ⟨hnow, hwhy⟩ := facts.due b hb
    rcases hpast.cached p hp a ha with ⟨hhave, hle⟩ | ⟨q, hq, hfailed, f, hf, hle⟩
    · have hold := hwhy.resolve_left fun h => Bool.false_ne_true (h.symm.trans hhave)
      omega
    · have hasks : t.label.asksFor env ≠ none := by
        intro hnone
        unfold expiryFetch at hb
        simp [hnone] at hb
      have hlate := hrest q hq t List.mem_cons_self hfailed hasks f hf
      omega
  · exact (hpast.cooling p hp a ha).trans (facts.opens b hb).1

/-- **Two fetches to a cooldown.**  For every stream of tokens, every way the transport answers and
every clock that does not run back: when no token that a key is looked up for comes within a cooldown
of a failed fetch, every window of a cooldown's length has at most one fetch for keys that were due
and one for an unknown `kid`. -/
theorem jwks_fetch_bound (hclock : Monotone env.clock)
    (hlife : kOidcJwksRefetchCooldownSeconds ≤ env.cacheTtl) {s last : Verifier}
    {trace : List (Transition Verifier Op)} (hrun : Run (Presents env) s trace last)
    (hrested : Rested env trace) :
    last.sent = s.sent ++ (trace.flatMap (fetches env)).map (fun _ => jwksRequest env) ∧
      ∀ start,
        (inWindow start kOidcJwksRefetchCooldownSeconds (trace.flatMap (expiryFetch env))).length ≤ 1 ∧
        (inWindow start kOidcJwksRefetchCooldownSeconds (trace.flatMap (kidFetch env))).length ≤ 1 ∧
        (inWindow start kOidcJwksRefetchCooldownSeconds (trace.flatMap (fetches env))).length ≤ 2 := by
  have hpair := apart env hclock hlife hrun hrested
  have hexpiry := spaced_flatMap (fun t _ => expiryFetch_length env t) (hpair.imp fun h => h.1)
  have hkid := spaced_flatMap (fun t _ => kidFetch_length env t) (hpair.imp fun h => h.2)
  constructor
  · clear hrested hpair hexpiry hkid
    induction hrun with
    | nil _ => exact (List.append_nil _).symm
    | cons hstep _ ih =>
        rw [ih, (presents_facts env hclock hstep).sent, List.flatMap_cons, List.map_append,
          List.append_assoc]
  · intro start
    have hdue := hexpiry.inWindow_length start
    have hunknown := hkid.inWindow_length start
    refine ⟨hdue, hunknown, ?_⟩
    have hsum := inWindow_flatMap_length start kOidcJwksRefetchCooldownSeconds (expiryFetch env)
      (kidFetch env) trace
    unfold fetches
    omega

end

/-! ## An endpoint that fails -/

/-- A key endpoint that serves its document once and then fails; the clock stands still. -/
def failingEnv : Env where
  baseUrl := "https://idp.example"
  cacheTtl := 300
  parse := tableParser [(str "jwks", .object [("keys", .array [])]),
    ([4, 16], .object [("alg", .string "EdDSA"), ("kid", .string "b")])]
  ed25519Verify := fun _ _ _ => false
  transport := fun sent _ =>
    if sent = [] then .ok { status := 200, body := "jwks" } else .ok { status := 503 }
  clock := fun _ => 1000

/-- The same with an endpoint that keeps serving. -/
def servingEnv : Env :=
  { failingEnv with transport := fun _ _ => .ok { status := 200, body := "jwks" } }

/-- A verifier after its first load. -/
def loaded (env : Env) : Verifier := (Op.refreshKeys.run env {}).2

/-- Tokens of an unknown `kid`, one after the other. -/
def strayTokens (env : Env) (n : Nat) : List (Transition Verifier Op) :=
  Run.follow (fun s op => (op.run env s).2) (loaded env)
    (List.replicate n (.verifyWithReason "BBA.e30.AA"))

theorem strayTokens_run (env : Env) (n : Nat) :
    ∃ last, Run (Presents env) (loaded env) (strayTokens env n) last := by
  have hrun : ∀ s, ∃ last, Run (Presents env) s (Run.follow (fun s op => (op.run env s).2) s
      (List.replicate n (.verifyWithReason "BBA.e30.AA"))) last := by
    induction n with
    | zero => exact fun s => ⟨s, .nil s⟩
    | succ n ih =>
        intro s
        obtain ⟨last, h⟩ := ih ((Op.verifyWithReason "BBA.e30.AA").run env s).2
        exact ⟨last, .cons ⟨nofun, rfl⟩ h⟩
  exact hrun (loaded env)

/-- The endpoint serves, so nothing has to be rested. -/
theorem servingEnv_loads (t : Transition Verifier Op) :
    Loads servingEnv (lastAnswer servingEnv t) := by
  refine ⟨{ status := 200, body := "jwks" }, rfl, by decide, ?_⟩
  intro items hitems k hk
  have hempty : documentOf servingEnv.parse { status := 200, body := "jwks" } = some [] := by rfl
  cases hempty.symm.trans hitems
  cases hk

theorem strayTokens_bound :
    (inWindow 1000 kOidcJwksRefetchCooldownSeconds
      ((strayTokens servingEnv 3).flatMap (fetches servingEnv))).length ≤ 2 := by
  obtain ⟨last, hrun⟩ := strayTokens_run servingEnv 3
  have hrested : Rested servingEnv (strayTokens servingEnv 3) := by
    refine (List.pairwise_of_forall (R := fun _ _ => True) fun _ _ => trivial).imp ?_
    intro p t _ hfailed
    exact absurd (servingEnv_loads p) hfailed
  have hclock : Monotone servingEnv.clock := fun _ _ _ => le_rfl
  exact ((jwks_fetch_bound servingEnv hclock (by decide) hrun hrested).2 1000).2.2

/-- Three fetches in no time at all: the first failed fetch leaves the cache due. -/
theorem failing_endpoint_refetched :
    ¬∀ (env : Env), Monotone env.clock → kOidcJwksRefetchCooldownSeconds ≤ env.cacheTtl →
      ∀ (s last : Verifier) (trace : List (Transition Verifier Op)), s.haveKeys = true →
        Run (Presents env) s trace last → ∀ start,
          (inWindow start kOidcJwksRefetchCooldownSeconds (trace.flatMap (fetches env))).length ≤ 2 := by
  intro hclaim
  obtain ⟨last, hrun⟩ := strayTokens_run failingEnv 3
  have hbound := hclaim failingEnv (fun _ _ _ => le_rfl) (by decide) _ last _ (by decide) hrun 1000
  revert hbound
  decide

end Axiam.Jwks
