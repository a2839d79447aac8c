import Axiam.Ssf.Poll

/-!
# How often keys are fetched, and which are used

Over every run of a receiver: the key a SET is verified with comes from the most recent
successful fetch, less than the cache's lifetime ago, and a fetch that fails leaves the keys
alone.  Counted fetches are a minute apart by the readings their calls opened with.  A refetch
that follows a fill in the same call starts later than that, and so the bound holds where a
fill brings the `kid` it was made for.
-/

namespace Axiam.Ssf

open Axiam.Lib

/-- The most recent successful fetch of a record. -/
def lastSuccess (fetches : List Fetch) : Option Fetch := fetches.find? fun f => f.outcome.isSome

/-- Two fetches that both count are started at least a minute apart. -/
def Spaced (later earlier : Fetch) : Prop :=
  later.counted = true → earlier.counted = true → kFetchLimit ≤ later.begun - earlier.begun

/-- So are the readings their calls opened with. -/
def Stamped (later earlier : Fetch) : Prop :=
  later.counted = true → earlier.counted = true → kFetchLimit ≤ later.start - earlier.start

def HttpRequest.isGet (req : HttpRequest) : Bool := req.method = str "GET"

/-- The invariant of a receiver. -/
structure Sound (env : Env) (r : Receiver) : Prop where
  /-- The minute starts no earlier than the call of any counted fetch. -/
  counted_le : ∀ f ∈ r.fetches, f.counted = true →
    ∃ last, r.cache.lastLimitedFetch = some last ∧ f.start ≤ last
  stamped : r.fetches.Pairwise Stamped
  ordered : ∀ f ∈ r.fetches, f.start ≤ f.begun ∧ f.begun ≤ f.ended
  /-- The cached keys are those of the most recent successful fetch. -/
  latest : r.cache.haveKeys = true → ∃ f, lastSuccess r.fetches = some f ∧
    f.outcome = some r.cache.keys ∧ f.start = r.cache.loadedAt
  /-- Every `GET` is part of a fetch. -/
  wired : r.sent.filter HttpRequest.isGet = r.fetches.reverse.flatMap Fetch.requests
  requests : ∀ f ∈ r.fetches, KeyRequests f.requests

section

variable {env : Env} {r r' : Receiver} {time : Int}

theorem Sound.init : Sound env {} where
  counted_le := by simp
  stamped := .nil
  ordered := by simp
  latest := by simp
  wired := rfl
  requests := by simp

/-- The invariant looks at the cache, the record and the wire only. -/
theorem Sound.congr (h : Sound env r) (hcache : r'.cache = r.cache)
    (hfetches : r'.fetches = r.fetches)
    (hsent : r'.sent.filter HttpRequest.isGet = r.sent.filter HttpRequest.isGet) : Sound env r' where
  counted_le := by rw [hcache, hfetches]; exact h.counted_le
  stamped := by rw [hfetches]; exact h.stamped
  ordered := by rw [hfetches]; exact h.ordered
  latest := by rw [hcache, hfetches]; exact h.latest
  wired := by rw [hfetches, hsent]; exact h.wired
  requests := by rw [hfetches]; exact h.requests

theorem Sound.opened (h : Sound env r) : Sound env (r.opened time) where
  counted_le := by
    intro f hf hcounted
    have hlast : (r.opened time).cache.lastLimitedFetch = r.cache.lastLimitedFetch := by
      unfold Receiver.opened KeyCache.expire
      dsimp only
      split <;> rfl
    rw [hlast]
    exact h.counted_le f hf hcounted
  stamped := h.stamped
  ordered := h.ordered
  latest := by
    unfold Receiver.opened KeyCache.expire
    dsimp only
    split
    · simp
    · exact h.latest
  wired := h.wired
  requests := h.requests

/-- A counted fetch may start once the minute is over. -/
theorem Sound.stamped_of_free (h : Sound env r) (hfree : r.cache.limited time = false)
    (f : Fetch) (hstart : f.start = time) : ∀ g ∈ r.fetches, Stamped f g := by
  intro g hg _ hcounted
  obtain ⟨last, hlast, hle⟩ := h.counted_le g hg hcounted
  unfold KeyCache.limited at hfree
  rw [hlast] at hfree
  simp only [decide_eq_false_iff_not] at hfree
  omega

/-- A fetch goes on record: the minute restarts if it counts, and the keys are either those it
brought or the ones before. -/
theorem Sound.fetched (h : Sound env r) (hopen : time ≤ env.clock (r.ticks - 1))
    {why : FetchCause} {requests : List HttpRequest} (hrequests : KeyRequests requests)
    {outcome : Option KeyMap} {cache : KeyCache}
    (hstamped : ∀ g ∈ r.fetches, Stamped (r.fetch env why time requests outcome) g)
    (hlimited : ∀ g ∈ r.fetches, g.counted = true →
      ∃ last, cache.lastLimitedFetch = some last ∧ g.start ≤ last)
    (hself : (r.fetch env why time requests outcome).counted = true →
      cache.lastLimitedFetch = some time)
    (hlatest : cache.haveKeys = true → ∃ g,
      lastSuccess (r.fetch env why time requests outcome :: r.fetches) = some g ∧
        g.outcome = some cache.keys ∧ g.start = cache.loadedAt) (uri : Option Str) :
    Sound env (r.fetched (r.fetch env why time requests outcome) uri cache) where
  counted_le := by
    intro g hg hcounted
    rcases List.mem_cons.mp hg with rfl | hg
    · exact ⟨time, hself hcounted, Int.le_refl _⟩
    · exact hlimited g hg hcounted
  stamped := List.pairwise_cons.mpr ⟨hstamped, h.stamped⟩
  ordered := by
    intro g hg
    rcases List.mem_cons.mp hg with rfl | hg
    · exact ⟨hopen, env.clock_mono _ _ (Nat.sub_le _ _)⟩
    · exact h.ordered g hg
  latest := hlatest
  wired := by
    have hgets : requests.filter HttpRequest.isGet = requests :=
      List.filter_eq_self.mpr fun req hreq => by simp [HttpRequest.isGet, hrequests.get req hreq]
    show (r.sent ++ requests).filter HttpRequest.isGet = (_ :: r.fetches).reverse.flatMap _
    rw [List.filter_append, hgets, h.wired, List.reverse_cons, List.flatMap_append]
    simp [Receiver.fetch]
  requests := by
    intro g hg
    rcases List.mem_cons.mp hg with rfl | hg
    · exact hrequests
    · exact h.requests g hg

/-- A new start of the minute is later than every counted fetch. -/
theorem Sound.limit_le (h : Sound env r) (hfree : r.cache.limited time = false) :
    ∀ g ∈ r.fetches, g.counted = true →
      ∃ last, (r.cache.limit time).lastLimitedFetch = some last ∧ g.start ≤ last := by
  intro g hg hcounted
  refine ⟨time, rfl, ?_⟩
  have hstamped := h.stamped_of_free hfree (r.fetch env .refetch time [] none) rfl g hg rfl hcounted
  unfold kFetchLimit seconds Receiver.fetch at hstamped
  dsimp only at hstamped
  omega

theorem Sound.fills (h : Sound env r) (hopen : time ≤ env.clock (r.ticks - 1))
    {out : Except Exc Unit} (hfills : Fills env time r out r') :
    Sound env r' ∧ time ≤ env.clock (r'.ticks - 1) := by
  have hlater : time ≤ env.clock (r.ticks + 1 - 1) :=
    Int.le_trans hopen (env.clock_mono _ _ (by omega))
  cases hfills with
  | warm _ => exact ⟨h, hopen⟩
  | unavailable _ _ => exact ⟨h, hopen⟩
  | @failed e requests uri hcold hfree hrequests =>
      refine ⟨h.fetched hopen hrequests ?_ ?_ ?_ ?_ uri, hlater⟩
      · exact h.stamped_of_free hfree _ rfl
      · exact h.limit_le hfree
      · intro _
        rfl
      · intro hhave
        have : r.cache.haveKeys = true := hhave
        rw [hcold] at this
        contradiction
  | @filled doc requests uri hcold hfree hrequests hdoc =>
      refine ⟨h.fetched hopen hrequests ?_ ?_ ?_ ?_ uri, hlater⟩
      · exact h.stamped_of_free hfree _ rfl
      · exact h.counted_le
      · -- a successful fill does not count
        intro hcounted
        cases hcounted
      · intro _
        exact ⟨_, rfl, rfl, rfl⟩

theorem Sound.looks (h : Sound env r) (hopen : time ≤ env.clock (r.ticks - 1))
    {kid : Str} {out : Except Exc (Option Str)} (hlooks : Looks env time kid r out r') :
    Sound env r' := by
  cases hlooks with
  | hit _ => exact h
  | unknown _ _ => exact h
  | @failed e requests uri _ hfree hrequests =>
      refine h.fetched hopen hrequests ?_ ?_ ?_ ?_ uri
      · exact h.stamped_of_free hfree _ rfl
      · exact h.limit_le hfree
      · intro _
        rfl
      · intro hhave
        exact h.latest hhave
  | @refetched keys requests uri _ hfree hrequests =>
      refine h.fetched hopen hrequests ?_ ?_ ?_ ?_ uri
      · exact h.stamped_of_free hfree _ rfl
      · exact h.limit_le hfree
      · intro _
        rfl
      · intro _
        exact ⟨_, rfl, rfl, rfl⟩

theorem Sound.keyFor (h : Sound env r) {kid : Str} {out : Except Exc (Option Str)}
    (hrun : keyFor env kid r = (out, r')) : Sound env r' := by
  have hopened : Sound env (r.opened (env.clock r.ticks)) := h.opened
  rcases keyFor_cases hrun with ⟨e, _, hfills⟩ | ⟨m, hfills, hlooks⟩
  · exact (hopened.fills (Int.le_refl _) hfills).1
  · obtain ⟨hm, hopen⟩ := hopened.fills (Int.le_refl _) hfills
    exact hm.looks hopen hlooks

/-- Nothing but step 4 touches what the invariant is about. -/
theorem Sound.judge (h : Sound env r) {parts : SetParts} {kid : Str}
    {expectedJti : Option Str} {askStore : Bool} {out : Except Exc SecurityEvent}
    (hrun : judge env parts kid expectedJti askStore r = (out, r')) : Sound env r' := by
  obtain ⟨found, m, hkey, hsame, _⟩ := judge_cases hrun
  unfold Receiver.unasked at hsame
  injection hsame with hcache _ _ hsent _ _ hfetches
  exact (h.keyFor hkey).congr hcache hfetches (by rw [hsent])

/-- Every verification, request and close keeps the invariant. -/
theorem sound_kept (env : Env) : Kept env (fun _ => True) (Sound env) where
  verify := by
    intro a _ h
    unfold Arrival.after
    rcases hverify : verify env a.set a.expectedJti a.askStore a.before with ⟨out, r'⟩
    rcases verify_cases hverify with ⟨e, _, _, rfl⟩ | ⟨parts, kid, _, hjudge⟩
    · exact h
    · exact h.judge hjudge
  wire := by
    intro r posts hposts h
    refine h.congr rfl rfl ?_
    have hnone : posts.filter HttpRequest.isGet = [] :=
      List.filter_eq_nil_iff.mpr fun req hreq => by
        simp only [HttpRequest.isGet, hposts req hreq]
        decide
    show (r.sent ++ posts).filter _ = _
    rw [List.filter_append, hnone, List.append_nil]
  close := fun r h => h.congr rfl rfl rfl

end

/-! ## When a refetch starts with its call -/

/-- The SET makes no fill, or the fill brings the key of its `kid`, or it takes no time. -/
def Arrival.settles (env : Env) (a : Arrival) : Bool :=
  match headerKid env a.set with
  | .error _ => true
  | .ok (_, kid) =>
      a.before.cache.live (a.time env) || a.before.cache.limited (a.time env) ||
        match (fetchJwks env (a.before.opened (a.time env))).1 with
        | .error _ => true
        | .ok doc => (keysOf doc kid).isSome || env.clock (a.before.ticks + 1) == a.time env

/-- Every counted fetch on record began at the reading its call opened with. -/
def Punctual (r : Receiver) : Prop := ∀ f ∈ r.fetches, f.counted = true → f.begun = f.start

section

variable {env : Env} {r r' : Receiver} {time : Int}

theorem Arrival.settled {a : Arrival} (h : a.settles env = true) {parts : SetParts} {kid : Str}
    {doc : Json} (hheader : headerKid env a.set = .ok (parts, kid))
    (hlive : a.before.cache.live (a.time env) = false)
    (hfree : a.before.cache.limited (a.time env) = false)
    (hdoc : (fetchJwks env (a.before.opened (a.time env))).1 = .ok doc)
    (hnone : keysOf doc kid = none) : env.clock (a.before.ticks + 1) = a.time env := by
  unfold Arrival.settles at h
  rw [hheader] at h
  simp only [hlive, hfree, hdoc, hnone] at h
  simpa using h

/-- A cache that is empty once it is opened was not live. -/
theorem not_live_of_cold (hcold : (r.opened time).cache.haveKeys = false) :
    r.cache.live time = false := by
  by_contra hlive
  have hlive : r.cache.live time = true := by simpa using hlive
  rw [opened_live hlive] at hcold
  unfold KeyCache.live at hlive
  rw [hcold] at hlive
  cases hlive

theorem Punctual.fetched (h : Punctual r) {f : Fetch} (hf : f.counted = true → f.begun = f.start)
    (uri : Option Str) (cache : KeyCache) : Punctual (r.fetched f uri cache) := by
  intro g hg
  rcases List.mem_cons.mp hg with rfl | hg
  · exact hf
  · exact h g hg

theorem Punctual.looks (h : Punctual r) (hopen : env.clock (r.ticks - 1) = time) {kid : Str}
    {out : Except Exc (Option Str)} (hlooks : Looks env time kid r out r') : Punctual r' := by
  cases hlooks with
  | hit _ => exact h
  | unknown _ _ => exact h
  | failed _ _ _ => exact h.fetched (fun _ => hopen) _ _
  | refetched _ _ _ => exact h.fetched (fun _ => hopen) _ _

theorem Punctual.keyFor {a : Arrival} (h : Punctual a.before) (hsettles : a.settles env = true)
    {parts : SetParts} {kid : Str} (hheader : headerKid env a.set = .ok (parts, kid))
    {out : Except Exc (Option Str)} (hrun : keyFor env kid a.before = (out, r')) : Punctual r' := by
  have hopened : Punctual (a.before.opened (a.time env)) := h
  rcases keyFor_cases hrun with ⟨e, _, hfills⟩ | ⟨m, hfills, hlooks⟩
  · cases hfills with
    | unavailable _ _ => exact hopened
    | failed _ _ _ => exact hopened.fetched (fun _ => rfl) _ _
  · cases hfills with
    | warm _ => exact hopened.looks rfl hlooks
    | @filled doc requests uri hcold hfree hrequests hdoc =>
        have hfilled : Punctual ((a.before.opened (a.time env)).fetched
            ((a.before.opened (a.time env)).fetch env .fill (a.time env) requests (some (keysOf doc)))
            uri ((a.before.opened (a.time env)).cache.filled (a.time env) (keysOf doc))) :=
          hopened.fetched (fun hcounted => by cases hcounted) _ _
        -- the fill has taken no time, if it has not brought the key
        cases hlooks with
        | hit _ => exact hfilled
        | unknown _ _ => exact hfilled
        | failed hnone _ _ | refetched hnone _ _ =>
            rw [opened_limited] at hfree
            have hopen := a.settled hsettles hheader (not_live_of_cold hcold) hfree hdoc hnone
            exact hfilled.fetched (fun _ => hopen) _ _

theorem punctual_kept (env : Env) :
    Kept env (fun a => a.settles env = true) Punctual where
  verify := by
    intro a hsettles h
    unfold Arrival.after
    rcases hverify : verify env a.set a.expectedJti a.askStore a.before with ⟨out, r'⟩
    rcases verify_cases hverify with ⟨e, _, _, rfl⟩ | ⟨parts, kid, hheader, hjudge⟩
    · exact h
    · obtain ⟨found, m, hkey, hsame, _⟩ := judge_cases hjudge
      unfold Receiver.unasked at hsame
      injection hsame with _ _ _ _ _ _ hfetches
      have hm := h.keyFor hsettles hheader hkey
      unfold Punctual at hm ⊢
      rwa [hfetches]
  wire := fun _ _ _ h => h
  close := fun _ h => h

end

/-! ## The bound -/

/-- The instant at which the arrival has its key: the last look at the clock. -/
def Arrival.moment (env : Env) (a : Arrival) : Int := env.clock ((a.after env).ticks - 1)

/-- The arrival is verified with the key: what steps 5 to 8 refuse over it is refused, and only what
they let through is accepted. -/
def Arrival.JudgedWith (env : Env) (a : Arrival) (kid key : Str) : Prop :=
  ∃ parts, headerKid env a.set = .ok (parts, kid) ∧
    (∀ e, checkClaims env parts key a.expectedJti = .error e → a.outcome env = .error e) ∧
    ∀ event, a.outcome env = .ok event → checkClaims env parts key a.expectedJti = .ok event

/-- The arrival is verified with no key: it comes to one error, whatever a check of a signature
would say. -/
def Arrival.Unkeyed (env : Env) (a : Arrival) : Prop :=
  ∃ e, ∀ check, a.outcome { env with ed25519Verify := check } = .error e

section

variable {env : Env} {r r' : Receiver}

/-- What an arrival leaves of the cache and the record is what step 4 left, if it got
there, and what it met otherwise. -/
theorem Arrival.after_cases (env : Env) (a : Arrival) :
    ((a.after env).fetches = a.before.fetches ∧ ∃ e, headerKid env a.set = .error e) ∨
    ∃ parts kid found m, headerKid env a.set = .ok (parts, kid) ∧
      keyFor env kid a.before = (found, m) ∧ (a.after env).unasked = m.unasked := by
  rcases hverify : verify env a.set a.expectedJti a.askStore a.before with ⟨out, r'⟩
  have hafter : a.after env = r' := by
    unfold Arrival.after
    rw [hverify]
  rw [hafter]
  rcases verify_cases hverify with ⟨e, hheader, _, hsame⟩ | ⟨parts, kid, hheader, hjudge⟩
  · exact .inl ⟨by rw [hsame], e, hheader⟩
  · obtain ⟨found, m, hkey, hsame, _⟩ := judge_cases hjudge
    exact .inr ⟨parts, kid, found, m, hheader, hkey, hsame⟩

/-- What comes before a key is there asks for no check of a signature. -/
theorem Arrival.unkeyed_header {a : Arrival} {e : Exc} (h : headerKid env a.set = .error e) :
    a.Unkeyed env := by
  refine ⟨e, fun check => ?_⟩
  have hheader : headerKid { env with ed25519Verify := check } a.set = .error e := h
  unfold Arrival.outcome verify
  rw [hheader]
  rfl

theorem Arrival.unkeyed_found {a : Arrival} {parts : SetParts} {kid : Str}
    (hheader : headerKid env a.set = .ok (parts, kid)) {found : Except Exc (Option Str)}
    {m : Receiver} (hkey : keyFor env kid a.before = (found, m))
    (hnone : ∀ key, found ≠ .ok (some key)) : a.Unkeyed env := by
  have hjudge : ∃ e, ∀ check, (judge { env with ed25519Verify := check } parts kid a.expectedJti
      a.askStore a.before).1 = .error e := by
    have hsame : ∀ check,
        keyFor { env with ed25519Verify := check } kid a.before = (found, m) := fun _ => hkey
    rcases found with e | _ | key
    · refine ⟨e, fun check => ?_⟩
      unfold judge
      rw [Prog.bind_run, hsame check]
    · refine ⟨refusal .invalidKey "no key for the kid in the JWKS", fun check => ?_⟩
      unfold judge
      rw [Prog.bind_run, hsame check]
      rfl
    · exact absurd rfl (hnone key)
  obtain ⟨e, hjudge⟩ := hjudge
  refine ⟨e, fun check => ?_⟩
  have hopened : headerKid { env with ed25519Verify := check } a.set = .ok (parts, kid) := hheader
  unfold Arrival.outcome verify
  rw [hopened]
  exact hjudge check

/-- What `key_for` returns comes from the most recent successful fetch, which is less than
the lifetime old. -/
theorem keyFor_from_lastSuccess (h : Sound env r) {kid key : Str}
    (hrun : keyFor env kid r = (.ok (some key), r')) :
    ∃ f keys, lastSuccess r'.fetches = some f ∧ f.outcome = some keys ∧
      keys kid = some key ∧ env.clock (r'.ticks - 1) - f.ended < kKeyCacheLifetime ∧
      env.clock r.ticks - f.begun < kKeyCacheLifetime := by
  have hpositive : 0 < kKeyCacheLifetime := by decide
  have hopened : Sound env (r.opened (env.clock r.ticks)) := h.opened
  rcases keyFor_cases hrun with ⟨e, hout, _⟩ | ⟨m, hfills, hlooks⟩
  · contradiction
  have hopen : env.clock r.ticks ≤ env.clock (m.ticks - 1) :=
    (hopened.fills (Int.le_refl _) hfills).2
  generalize hout : (Except.ok (some key) : Except Exc (Option Str)) = out at hlooks
  cases hlooks with
  | unknown _ _ => simp at hout
  | failed _ _ _ => simp at hout
  | @refetched keys requests uri _ _ _ =>
      simp only [Except.ok.injEq] at hout
      refine ⟨_, keys, rfl, rfl, hout.symm, ?_, ?_⟩
      · show env.clock (m.ticks + 1 - 1) - env.clock m.ticks < _
        rw [Nat.add_sub_cancel]
        omega
      · show env.clock r.ticks - env.clock (m.ticks - 1) < _
        omega
  | @hit found hfound =>
      simp only [Except.ok.injEq, Option.some.injEq] at hout
      subst hout
      cases hfills with
      | @filled doc requests uri _ _ _ _ =>
          refine ⟨_, keysOf doc, rfl, rfl, hfound, ?_, ?_⟩
          · show env.clock (r.ticks + 1) - env.clock (r.ticks + 1) < _
            omega
          · show env.clock r.ticks - env.clock r.ticks < _
            omega
      | warm hhave =>
          -- the cache was live: an expired one would have been emptied
          obtain ⟨f, hf, hkeys, hstart⟩ := hopened.latest hhave
          have hlive : env.clock r.ticks - f.start < kKeyCacheLifetime := by
            rw [hstart]
            revert hhave
            unfold Receiver.opened KeyCache.expire
            dsimp only
            split
            · simp
            · rename_i hunexpired
              intro hhave
              simp only [hhave, Bool.true_and, decide_eq_true_eq] at hunexpired
              omega
          obtain ⟨hbegun, hended⟩ := hopened.ordered f (List.mem_of_find?_eq_some hf)
          refine ⟨f, _, hf, hkeys, hfound, ?_, ?_⟩
          · show env.clock r.ticks - f.ended < _
            omega
          · omega

/-- A fetch that fails leaves live keys as they were. -/
theorem keyFor_failed_fetch {kid : Str} {out : Except Exc (Option Str)}
    (hrun : keyFor env kid r = (out, r')) (hlive : r.cache.live (env.clock r.ticks) = true)
    {f : Fetch} (hfetch : r'.fetches = f :: r.fetches) (hfailed : f.outcome = none) :
    r'.cache.keys = r.cache.keys ∧ r'.cache.haveKeys = true ∧
      r'.cache.loadedAt = r.cache.loadedAt := by
  have hopened := opened_live hlive
  unfold KeyCache.live at hlive
  simp only [Bool.and_eq_true, decide_eq_true_eq] at hlive
  obtain ⟨hhave, hage⟩ := hlive
  have hwarm : (r.opened (env.clock r.ticks)).cache.haveKeys = true := by rw [hopened, hhave]
  rcases keyFor_cases hrun with ⟨e, _, hfills⟩ | ⟨m, hfills, hlooks⟩
  · cases hfills <;> simp_all
  · obtain rfl : m = r.opened (env.clock r.ticks) := by
      cases hfills <;> simp_all
    cases hlooks with
    | hit _ => simp [Receiver.opened] at hfetch
    | unknown _ _ => simp [Receiver.opened] at hfetch
    | failed _ _ _ =>
        unfold Receiver.fetched KeyCache.limit
        dsimp only
        rw [hopened]
        exact ⟨rfl, hhave, rfl⟩
    | refetched _ _ _ =>
        simp only [Receiver.fetched, Receiver.opened, List.cons.injEq, and_true] at hfetch
        rw [← hfetch] at hfailed
        cases hfailed

end

/-- **The key cache of a receiver.** Over every run of calls, whatever the transport
answers: counted fetches are started a minute apart, if no SET needs a refetch after the fill
it made; every `GET` is part of a fetch on record; the key a SET is verified with is the
one the most recent successful fetch gave for its `kid`, and that fetch is less than the
lifetime old; and a failed fetch leaves the cache as it was, so that live keys stay the
live keys of the call. -/
theorem key_cache_bound (env : Env) {r : Receiver} {trace : List (Transition Receiver Answered)}
    (hrun : Run (Receiver.Calls env) {} trace r) :
    ((∀ t ∈ trace, ∀ a ∈ t.label.arrivals env t.pre, a.settles env = true) →
      r.fetches.Pairwise Spaced) ∧
      (r.sent.filter HttpRequest.isGet = r.fetches.reverse.flatMap Fetch.requests ∧
        ∀ f ∈ r.fetches, KeyRequests f.requests) ∧
      (∀ why start s e s', loadKeys env why start s = (.error e, s') → s'.cache = s.cache) ∧
      ∀ t ∈ trace, ∀ a ∈ t.label.arrivals env t.pre,
        (a.Unkeyed env ∨ ∃ kid key f keys, a.JudgedWith env kid key ∧
          lastSuccess (a.after env).fetches = some f ∧ f.outcome = some keys ∧
            keys kid = some key ∧ a.moment env - f.ended < kKeyCacheLifetime ∧
            a.time env - f.begun < kKeyCacheLifetime) ∧
        (a.before.cache.live (a.time env) = true →
          ∀ f, (a.after env).fetches = f :: a.before.fetches → f.outcome = none →
            (a.after env).cache.keys = a.before.cache.keys ∧
              (a.after env).cache.live (a.time env) = true) := by
  have hkeep : ∀ s call t, Sound env s → s.Calls env call t → Sound env t :=
    fun s call t hs hcall => ((sound_kept env).call (fun _ _ => trivial) hs hcall).1
  obtain ⟨hend, hsound⟩ := hrun.invariant hkeep .init
  refine ⟨fun hsettles => ?_, ⟨hend.wired, hend.requests⟩, fun why start s e s' hload => ?_,
    fun t ht a ha => ?_⟩
  -- a call that settles stamps each of its fetches with the moment the fetch starts
  · have hpunctual : Punctual r := by
      have hsteps := (hrun.restrict hsettles).invariant (I := Punctual)
        (fun s call t hs hstep => ((punctual_kept env).call hstep.2 hs hstep.1).1) (by simp [Punctual])
      exact hsteps.1
    refine hend.stamped.imp_of_mem ?_
    intro f g hf hg hstamped hlater hearlier
    rw [hpunctual f hf hlater, hpunctual g hg hearlier]
    exact hstamped hlater hearlier
  · obtain ⟨requests, uri, -, ⟨_, _, rfl⟩ | ⟨_, _, hok, _⟩⟩ := loadKeys_cases hload
    · rfl
    · contradiction
  have hbefore : Sound env a.before :=
    ((sound_kept env).call (fun _ _ => trivial) (hsound t ht).1 (hrun.steps t ht)).2 a ha
  rcases a.after_cases env with
    ⟨hfetches, e, hheader⟩ | ⟨parts, kid, found, m, hheader, hkey, hsame⟩
  · refine ⟨.inl (a.unkeyed_header hheader), fun _ f hf => ?_⟩
    rw [hfetches] at hf
    simp at hf
  · unfold Receiver.unasked at hsame
    injection hsame with hcache _ _ _ _ hticks hfetches
    constructor
    · by_cases hfound : ∃ key, found = .ok (some key)
      · obtain ⟨key, rfl⟩ := hfound
        obtain ⟨f, keys, hlast, houtcome, hkeys, hended, hbegun⟩ :=
          keyFor_from_lastSuccess hbefore hkey
        refine .inr ⟨kid, key, f, keys, ⟨parts, hheader, ?_⟩, by rwa [hfetches], houtcome, hkeys, ?_,
          hbegun⟩
        · unfold Arrival.outcome verify
          rw [hheader]
          exact judge_keyed hkey
        · rwa [Arrival.moment, hticks]
      · exact .inl (a.unkeyed_found hheader hkey fun key hsome => hfound ⟨key, hsome⟩)
    · intro hlive f hf hfailed
      rw [hfetches] at hf
      obtain ⟨hkeys, hhave, hloaded⟩ := keyFor_failed_fetch hkey hlive hf hfailed
      rw [hcache]
      refine ⟨hkeys, ?_⟩
      unfold KeyCache.live at hlive ⊢
      rw [hhave, hloaded]
      simp_all

/-! ## An outage after a fill

The keys are fetched once and every later fetch times out.  A SET with a new `kid`
arrives, then one with a known `kid`, then the first one again, a second apart. -/

def outageJwks : Str :=
  "\x7b\"keys\":[\x7b\"kty\":\"OKP\",\"crv\":\"Ed25519\",\"kid\":\"a\",\"x\":\"11qYAYKxCrfVS_7TyWQHOg7hcvPapiMlrwIaaPcHURo\"\x7d]\x7d"

/-- The header `typ` `secevent+jwt`, `alg` `EdDSA`, `kid` `b`, and an empty payload. -/
def newKidSet : Str :=
  "eyJ0eXAiOiJzZWNldmVudCtqd3QiLCJhbGciOiJFZERTQSIsImtpZCI6ImIifQ.e30.AA"

/-- The same with the `kid` `a`. -/
def knownKidSet : Str :=
  "eyJ0eXAiOiJzZWNldmVudCtqd3QiLCJhbGciOiJFZERTQSIsImtpZCI6ImEifQ.e30.AA"

def outageEnv : Env where
  config :=
    { issuer := "https://idp.example", audience := "rp",
      keys := ⟨.jwksUri, "https://idp.example/oauth2/jwks"⟩ }
  baseUrl := "https://idp.example"
  retryEnabled := true
  parse := tableParser
    [(outageJwks, .object [("keys", .array [.object
        [("crv", .string "Ed25519"), ("kid", .string "a"), ("kty", .string "OKP"),
          ("x", .string "11qYAYKxCrfVS_7TyWQHOg7hcvPapiMlrwIaaPcHURo")]])]),
      ("\x7b\"typ\":\"secevent+jwt\",\"alg\":\"EdDSA\",\"kid\":\"b\"\x7d", .object
        [("alg", .string "EdDSA"), ("kid", .string "b"), ("typ", .string "secevent+jwt")]),
      ("\x7b\"typ\":\"secevent+jwt\",\"alg\":\"EdDSA\",\"kid\":\"a\"\x7d", .object
        [("alg", .string "EdDSA"), ("kid", .string "a"), ("typ", .string "secevent+jwt")]),
      ("\x7b\x7d", .object [])]
  dump := fun _ => "\x7b\x7d"
  ed25519Verify := fun _ _ _ => false
  transport := fun sent _ =>
    .ok (if sent = [] then { status := 200, body := outageJwks }
      else { transportError := "timeout" })
  store := fun asked jti => .ok (decide (jti ∉ asked))
  clock := fun n => seconds n
  clock_mono := seconds_mono

def outageFirst : Receiver := (verifySet outageEnv newKidSet {}).2

def outageSecond : Receiver := (verifySet outageEnv knownKidSet outageFirst).2

def outageThird : Receiver := (verifySet outageEnv newKidSet outageSecond).2

/-- The step of the last SET. -/
def outageStep : Transition Receiver Answered :=
  ⟨outageSecond, .verified newKidSet (verifySet outageEnv newKidSet outageSecond).1, outageThird⟩

def outageTrace : List (Transition Receiver Answered) :=
  [⟨{}, .verified newKidSet (verifySet outageEnv newKidSet {}).1, outageFirst⟩,
    ⟨outageFirst, .verified knownKidSet (verifySet outageEnv knownKidSet outageFirst).1,
      outageSecond⟩, outageStep]

theorem calls_verified (env : Env) (set : Str) (r : Receiver) :
    Receiver.Calls env r (.verified set (verifySet env set r).1) (verifySet env set r).2 := rfl

theorem outageRun : Run (Receiver.Calls outageEnv) {} outageTrace outageThird := by
  refine .cons ?_ (.cons ?_ (.cons ?_ (.nil _)))
  · rw [outageFirst]
    exact calls_verified outageEnv newKidSet {}
  · rw [outageSecond]
    exact calls_verified outageEnv knownKidSet outageFirst
  · rw [outageThird]
    exact calls_verified outageEnv newKidSet outageSecond

/-! ## The bound at two clocks -/

/-- The same provider, with a look at the clock every half minute. -/
def spacedEnv : Env :=
  { outageEnv with
    clock := fun n => seconds (30 * n)
    clock_mono := by
      intro m n h
      unfold seconds
      omega }

/-- One SET after the other. -/
def verifiedAll (env : Env) : List Str → Receiver → List (Transition Receiver Answered) × Receiver
  | [], r => ([], r)
  | set :: rest, r =>
      let later := verifiedAll env rest (verifySet env set r).2
      (⟨r, .verified set (verifySet env set r).1, (verifySet env set r).2⟩ :: later.1, later.2)

theorem verifiedAll_run (env : Env) (sets : List Str) (r : Receiver) :
    Run (Receiver.Calls env) r (verifiedAll env sets r).1 (verifiedAll env sets r).2 := by
  induction sets generalizing r with
  | nil => exact .nil r
  | cons set rest ih => exact .cons (calls_verified env set r) (ih _)

/-- A known `kid` fills the cache; a new one is fetched for, in vain, and a minute later again. -/
def spacedRun : List (Transition Receiver Answered) × Receiver :=
  verifiedAll spacedEnv [knownKidSet, newKidSet, newKidSet, knownKidSet] {}

theorem spacedRun_settles :
    ∀ t ∈ spacedRun.1, ∀ a ∈ t.label.arrivals spacedEnv t.pre, a.settles spacedEnv = true := by
  have hall : (spacedRun.1.all fun t =>
      (t.label.arrivals spacedEnv t.pre).all (Arrival.settles spacedEnv)) = true := by decide
  intro t ht
  exact List.all_eq_true.mp (List.all_eq_true.mp hall t ht)

/-- The theorem there: the counted fetches start at 60 and at 120 seconds, and the last SET is
verified with the key that the fill brought. -/
theorem spaced_bound :
    (spacedRun.2.fetches.map fun f => (f.begun, f.counted)) =
        [(seconds 120, true), (seconds 60, true), (seconds 0, false)] ∧
      spacedRun.2.fetches.Pairwise Spaced ∧
      ∀ t ∈ spacedRun.1, ∀ a ∈ t.label.arrivals spacedEnv t.pre,
        a.Unkeyed spacedEnv ∨ ∃ kid key f keys, a.JudgedWith spacedEnv kid key ∧
          lastSuccess (a.after spacedEnv).fetches = some f ∧ f.outcome = some keys ∧
            keys kid = some key ∧ a.moment spacedEnv - f.ended < kKeyCacheLifetime ∧
            a.time spacedEnv - f.begun < kKeyCacheLifetime := by
  obtain ⟨hspaced, _, _, harrivals⟩ := key_cache_bound spacedEnv (verifiedAll_run spacedEnv _ {})
  exact ⟨by decide, hspaced spacedRun_settles, fun t ht a ha => (harrivals t ht a ha).1⟩

/-- A fill that takes five seconds, and a second SET a minute after the first. -/
def slowEnv : Env :=
  { outageEnv with
    clock := fun n => seconds (if n = 0 then 0 else if n < 3 then 5 else 60)
    clock_mono := by
      intro m n h
      unfold seconds
      split <;> split <;> (try split) <;> (try split) <;> omega }

/-- The refetch after the fill starts at five seconds, and the next one at sixty. -/
theorem refetch_after_fill :
    ¬∀ (env : Env) (r : Receiver) (trace : List (Transition Receiver Answered)),
      Run (Receiver.Calls env) {} trace r → r.fetches.Pairwise Spaced := by
  intro hall
  have hpairs := hall slowEnv _ _ (verifiedAll_run slowEnv [newKidSet, newKidSet] {})
  have hfetches : ((verifiedAll slowEnv [newKidSet, newKidSet] {}).2.fetches.map fun f =>
      (f.begun, f.counted)) = [(seconds 60, true), (seconds 5, true), (seconds 0, false)] := by decide
  generalize (verifiedAll slowEnv [newKidSet, newKidSet] {}).2.fetches = fetches at hpairs hfetches
  obtain _ | ⟨f, _ | ⟨g, rest⟩⟩ := fetches
  · simp at hfetches
  · simp at hfetches
  · simp only [List.map_cons, List.cons.injEq, Prod.mk.injEq] at hfetches
    obtain ⟨⟨hf, hlater⟩, ⟨hg, hearlier⟩, -⟩ := hfetches
    have hspaced := (List.pairwise_cons.mp hpairs).1 g List.mem_cons_self hlater hearlier
    rw [hf, hg] at hspaced
    exact absurd hspaced (by decide)

end Axiam.Ssf
