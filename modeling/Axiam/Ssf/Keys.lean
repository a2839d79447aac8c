import Axiam.Core.Base64
import Axiam.Core.Origin
import Axiam.Core.Status
import Axiam.Lib.Prog

/-!
# The key cache of an SSF receiver

`SsfReceiver::State` (`src/ssf.cpp`): the cached keys, their age, and the once-a-minute
limit on fetches.  `keyFor` is step 4 of the verification; every fetch goes over the
transport, which may answer anything or throw.

The code reads its clock once in a call; time passes while a fetch is made, and so the model
looks at the clock once more when one is over.  The n-th look of a receiver's life is `clock n`.
Times are nanoseconds.
-/

namespace Axiam.Ssf

open Axiam.Lib

def seconds (n : Int) : Int := n * 1000000000

theorem seconds_mono (m n : Nat) (h : m ≤ n) : seconds m ≤ seconds n := by
  unfold seconds
  omega

/-- `kKeyCacheLifetime`: ten minutes after the fetch that filled the cache. -/
def kKeyCacheLifetime : Int := seconds 600

/-- The limit on counted fetches. -/
def kFetchLimit : Int := seconds 60

inductive SsfKeySource.Kind where
  | jwksUri | discoveryUrl
  deriving DecidableEq

structure SsfKeySource where
  kind : SsfKeySource.Kind
  url : Str

structure SsfReceiverConfig where
  issuer : Str
  audience : Str
  keys : SsfKeySource
  /-- What the token provider does when called; `none` when there is none. -/
  accessTokenProvider : Option (Except Exc Str) := none

/-- What the receiver runs in: its configuration, the library functions it calls, the
transport, the clock and the replay store.  The transport may look at everything sent
before, the store at everything asked before. -/
structure Env where
  config : SsfReceiverConfig
  baseUrl : Str
  retryEnabled : Bool
  parse : Parser
  dump : Json → Str
  ed25519Verify : Str → Str → Str → Bool
  transport : List HttpRequest → HttpRequest → Answer
  store : List Str → Str → Except Exc Bool
  clock : Nat → Int
  clock_mono : ∀ m n, m ≤ n → clock m ≤ clock n

/-- `kid` to the raw public key. -/
abbrev KeyMap : Type := Str → Option Str

structure KeyCache where
  haveKeys : Bool := false
  keys : KeyMap := fun _ => none
  /-- The last fetch that counts toward the limit. -/
  lastLimitedFetch : Option Int := none
  loadedAt : Int := 0

inductive FetchCause where
  /-- The cache was empty or expired. -/
  | fill
  /-- The cache had no key for the `kid`. -/
  | refetch
  deriving DecidableEq

/-- One call of `load_keys`: when, why, what it sent, and the keys it brought; `none` when it
failed. -/
structure Fetch where
  /-- The reading its call opened with, from which the limit and the age are counted. -/
  start : Int
  /-- When its first request went out. -/
  begun : Int
  /-- When it was over. -/
  ended : Int
  cause : FetchCause
  requests : List HttpRequest
  outcome : Option KeyMap

/-- A fetch that counts toward the limit. -/
def Fetch.counted (f : Fetch) : Bool := f.cause == .refetch || f.outcome.isNone

structure Receiver where
  cache : KeyCache := {}
  /-- Resolved from the key source, once. -/
  jwksUri : Option Str := none
  /-- The client under the receiver was closed. -/
  closed : Bool := false
  /-- What the transport was handed, oldest first. -/
  sent : List HttpRequest := []
  /-- What the replay store was asked, oldest first. -/
  asked : List Str := []
  /-- How often the clock was looked at. -/
  ticks : Nat := 0
  /-- The fetches made, newest first; no function reads it. -/
  fetches : List Fetch := []

/-- `string_member`: the member when it is a string, and the empty string otherwise. -/
def stringMember (j : Json) (key : Str) : Str := (j.stringMember? key).getD []

section

variable (env : Env)

/-- Hand a request to the transport. -/
def transport (req : HttpRequest) : Prog Receiver Exc HttpResponse := fun r =>
  (env.transport r.sent req, { r with sent := r.sent ++ [req] })

/-- Read the clock. -/
def now : Prog Receiver Exc Int := fun r =>
  (.ok (env.clock r.ticks), { r with ticks := r.ticks + 1 })

/-- What a response to a fetch comes to. -/
def objectOfResponse (what : Str) (resp : HttpResponse) : Except Exc Json :=
  if resp.transportError ≠ [] then
    .error (.network (str "ssf: " ++ what ++ " fetch failed: " ++ resp.transportError)
      resp.transportError)
  else
    let failed := Exc.network
      (str "ssf: " ++ what ++ " fetch failed (HTTP " ++ toStr resp.status ++ ")")
      (httpCause resp.status)
    match env.parse resp.body with
    | none => .error failed
    | some doc => if resp.status ≠ 200 ∨ doc.isObject = false then .error failed else .ok doc

/-- `fetch_object`: one GET without session or credential. -/
def fetchObject (url what : Str) : Prog Receiver Exc Json := do
  let resp ← transport env
    { method := "GET", url := url, headers := [("Accept", "application/json")],
      sessionless := true }
  Prog.lift (objectOfResponse env what resp)

/-- The `jwks_uri` of a discovery document, which must name the configured issuer. -/
def discoveredUri (doc : Json) : Except Exc Str :=
  if doc.stringMember? "issuer" ≠ some env.config.issuer then
    .error (.network "ssf: the SSF configuration names another issuer, or no jwks_uri (CONTRACT.md §32.7)"
      "ssf_configuration")
  else match doc.stringMember? "jwks_uri" with
    | none =>
        .error (.network "ssf: the SSF configuration names another issuer, or no jwks_uri (CONTRACT.md §32.7)"
          "ssf_configuration")
    | some uri =>
        if ((originOf uri).map isSecureOrLoopback).getD false then .ok uri
        else .error (.network "ssf: the SSF configuration's jwks_uri is not an https URL"
          "ssf_configuration")

/-- The JWKS URL: the configured one, or the discovery document's. -/
def jwksUrl : Prog Receiver Exc Str :=
  match env.config.keys.kind with
  | .jwksUri => pure env.config.keys.url
  | .discoveryUrl => do
      let doc ← fetchObject env env.config.keys.url "SSF configuration"
      Prog.lift (discoveredUri env doc)

/-- `resolve_jwks_uri`: looked up once. -/
def resolveJwksUri : Prog Receiver Exc Str := do
  let r ← Prog.read
  match r.jwksUri with
  | some uri => pure uri
  | none => do
      let uri ← jwksUrl env
      Prog.modify fun r => { r with jwksUri := some uri }
      pure uri

/-- The key a member of `keys` adds: an Ed25519 public key of 32 bytes. -/
def addKey (fresh : KeyMap) (k : Json) : KeyMap :=
  if stringMember k "kty" ≠ str "OKP" ∨ stringMember k "crv" ≠ str "Ed25519" then fresh
  else match base64urlDecode (stringMember k "x") with
    | some raw =>
        if raw.length = 32 then Function.update fresh (stringMember k "kid") (some raw) else fresh
    | none => fresh

/-- The keys of a JWKS document. -/
def keysOf (doc : Json) : KeyMap :=
  match doc.find? "keys" with
  | some (.array items) => items.foldl addKey fun _ => none
  | _ => fun _ => none

/-- The exchanges of a fetch, and the document they bring. -/
def fetchJwks : Prog Receiver Exc Json := do
  let uri ← resolveJwksUri env
  fetchObject env uri "JWKS"

/-- A fetch goes on the record, with the receiver it met.  It began at the last look at the clock:
only exchanges take time. -/
def note (why : FetchCause) (start : Int) (before : Receiver) (outcome : Option KeyMap) :
    Prog Receiver Exc Unit := do
  let ended ← now env
  Prog.modify fun r =>
    { r with fetches :=
        ⟨start, env.clock (before.ticks - 1), ended, why, r.sent.drop before.sent.length, outcome⟩ ::
          r.fetches }

/-- `load_keys`: the cache is replaced when the fetch succeeded, and only then. -/
def loadKeys (why : FetchCause) (start : Int) : Prog Receiver Exc Unit := do
  let before ← Prog.read
  tryCatch
    (do
      let doc ← fetchJwks env
      note env why start before (some (keysOf doc))
      Prog.modify fun r =>
        { r with cache := { r.cache with keys := keysOf doc, haveKeys := true, loadedAt := start } })
    fun e => do
      note env why start before none
      throw e

/-- The minute after a counted fetch is not over. -/
def KeyCache.limited (c : KeyCache) (time : Int) : Bool :=
  match c.lastLimitedFetch with
  | some last => time - last < kFetchLimit
  | none => false

/-- The cache holds keys that have not expired. -/
def KeyCache.live (c : KeyCache) (time : Int) : Bool :=
  c.haveKeys && time - c.loadedAt < kKeyCacheLifetime

/-- An expired cache is emptied. -/
def KeyCache.expire (c : KeyCache) (time : Int) : KeyCache :=
  if c.haveKeys && kKeyCacheLifetime ≤ time - c.loadedAt then
    { c with haveKeys := false, keys := fun _ => none }
  else c

/-- A counted fetch starts the minute. -/
def setLimited (time : Int) : Prog Receiver Exc Unit :=
  Prog.modify fun r => { r with cache := { r.cache with lastLimitedFetch := some time } }

def jwksUnavailable : Exc :=
  .network "ssf: the JWKS fetch failed less than a minute ago and is not retried yet (CONTRACT.md §32.7 step 4, §34.2 P6)"
    "jwks_unavailable"

/-- The first half of `key_for`: an empty cache is filled. -/
def fillCache (time : Int) (limited : Bool) : Prog Receiver Exc Unit := do
  let r ← Prog.read
  if r.cache.haveKeys then pure ()
  else if limited then throw jwksUnavailable
  else
    tryCatch (loadKeys env .fill time) fun e => do
      setLimited time  -- a failed fill counts toward the limit
      throw e

/-- The second half: the key, after at most one refetch for an unknown `kid`. -/
def lookupKey (kid : Str) (time : Int) (limited : Bool) : Prog Receiver Exc (Option Str) := do
  let r ← Prog.read
  match r.cache.keys kid with
  | some key => pure (some key)
  | none =>
      if limited then pure none
      else do
        setLimited time
        loadKeys env .refetch time
        let r ← Prog.read
        pure (r.cache.keys kid)

/-- `key_for`, under the lock of the key cache. -/
def keyFor (kid : Str) : Prog Receiver Exc (Option Str) := do
  let time ← now env
  let r ← Prog.read
  let limited := r.cache.limited time
  Prog.modify fun r => { r with cache := r.cache.expire time }
  fillCache env time limited
  lookupKey env kid time limited

end

/-! ## What a fetch can do -/

/-- The requests of one fetch: that of the keys, after that of the discovery document if need be. -/
structure KeyRequests (requests : List HttpRequest) : Prop where
  get : ∀ req ∈ requests, req.method = str "GET"
  some : requests ≠ []
  two : requests.length ≤ 2

section

variable (env : Env)

/-- The state after exchanges: only what was sent and the resolved URL differ. -/
def Receiver.onWire (r : Receiver) (requests : List HttpRequest) (uri : Option Str) : Receiver :=
  { r with sent := r.sent ++ requests, jwksUri := uri }

theorem transport_run (req : HttpRequest) (r : Receiver) :
    transport env req r = (env.transport r.sent req, r.onWire [req] r.jwksUri) :=
  rfl

theorem now_run (r : Receiver) :
    now env r = (.ok (env.clock r.ticks), { r with ticks := r.ticks + 1 }) :=
  rfl

theorem onWire_nil (r : Receiver) (uri : Option Str) :
    r.onWire [] uri = { r with jwksUri := uri } := by
  unfold Receiver.onWire
  rw [List.append_nil]

theorem onWire_onWire (r : Receiver) (first second : List HttpRequest) (uri uri' : Option Str) :
    (r.onWire first uri).onWire second uri' = r.onWire (first ++ second) uri' := by
  unfold Receiver.onWire
  rw [List.append_assoc]

/-- A `GET` of an object is one request. -/
theorem fetchObject_run (url what : Str) (r : Receiver) :
    ∃ out req, req.method = str "GET" ∧
      fetchObject env url what r = (out, r.onWire [req] r.jwksUri) := by
  unfold fetchObject
  rw [Prog.bind_run, transport_run]
  cases env.transport r.sent _ with
  | error e => exact ⟨_, _, rfl, rfl⟩
  | ok resp => exact ⟨_, _, rfl, rfl⟩

/-- Looking the URL of the keys up is one request, or none. -/
theorem jwksUrl_run (r : Receiver) :
    ∃ out requests, (∀ req ∈ requests, req.method = str "GET") ∧ requests.length ≤ 1 ∧
      (∀ e, out = .error e → requests ≠ []) ∧
      jwksUrl env r = (out, r.onWire requests r.jwksUri) := by
  unfold jwksUrl
  cases env.config.keys.kind with
  | jwksUri =>
      refine ⟨.ok env.config.keys.url, [], by simp, Nat.zero_le 1, by simp, ?_⟩
      rw [onWire_nil]
      rfl
  | discoveryUrl =>
      obtain ⟨out, req, hget, hfetch⟩ :=
        fetchObject_run env env.config.keys.url "SSF configuration" r
      refine ⟨out.bind (discoveredUri env), [req], fun q hq => ?_, Nat.le_refl 1,
        fun _ _ => List.cons_ne_nil _ _, ?_⟩
      · rw [List.mem_singleton.mp hq]
        exact hget
      · show (fetchObject env env.config.keys.url "SSF configuration" >>= fun doc =>
          Prog.lift (discoveredUri env doc)) r = _
        rw [Prog.bind_run, hfetch]
        cases out <;> rfl

theorem resolveJwksUri_run (r : Receiver) :
    ∃ out requests uri, (∀ req ∈ requests, req.method = str "GET") ∧ requests.length ≤ 1 ∧
      (∀ e, out = .error e → requests ≠ []) ∧
      resolveJwksUri env r = (out, r.onWire requests uri) := by
  unfold resolveJwksUri
  simp only [Prog.bind_run, Prog.read_run]
  cases huri : r.jwksUri with
  | some uri =>
      refine ⟨.ok uri, [], r.jwksUri, by simp, Nat.zero_le 1, by simp, ?_⟩
      rw [onWire_nil]
      rfl
  | none =>
      obtain ⟨out, requests, hget, hone, hsome, hurl⟩ := jwksUrl_run env r
      simp only [Prog.bind_run, hurl]
      cases out with
      | error e => exact ⟨.error e, requests, r.jwksUri, hget, hone, hsome, rfl⟩
      | ok uri => exact ⟨.ok uri, requests, some uri, hget, hone, hsome, rfl⟩

theorem fetchJwks_run (r : Receiver) :
    ∃ out requests uri, KeyRequests requests ∧ fetchJwks env r = (out, r.onWire requests uri) := by
  unfold fetchJwks
  obtain ⟨resolved, first, uri, hget, hone, hsome, hresolve⟩ := resolveJwksUri_run env r
  rw [Prog.bind_run, hresolve]
  cases resolved with
  | error e => exact ⟨.error e, first, uri, ⟨hget, hsome e rfl, by omega⟩, rfl⟩
  | ok url =>
      obtain ⟨out, req, hreq, hfetch⟩ := fetchObject_run env url "JWKS" (r.onWire first uri)
      refine ⟨out, first ++ [req], uri, ⟨fun q hq => ?_, by simp, ?_⟩, ?_⟩
      · rcases List.mem_append.mp hq with hq | hq
        · exact hget q hq
        · rw [List.mem_singleton.mp hq]
          exact hreq
      · rw [List.length_append]
        show _ + 1 ≤ 2
        omega
      · show fetchObject env url "JWKS" (r.onWire first uri) = _
        rw [hfetch]
        exact congrArg (Prod.mk out) (onWire_onWire r first [req] uri uri)

/-- What goes on record of a fetch that starts here. -/
def Receiver.fetch (r : Receiver) (why : FetchCause) (start : Int) (requests : List HttpRequest)
    (outcome : Option KeyMap) : Fetch :=
  ⟨start, env.clock (r.ticks - 1), env.clock r.ticks, why, requests, outcome⟩

/-- The state after a fetch, with what it put on the wire. -/
def Receiver.fetched (r : Receiver) (f : Fetch) (uri : Option Str) (cache : KeyCache) : Receiver :=
  { r.onWire f.requests uri with cache := cache, ticks := r.ticks + 1, fetches := f :: r.fetches }

/-- The cache after a fetch that brought `keys`. -/
def KeyCache.filled (c : KeyCache) (time : Int) (keys : KeyMap) : KeyCache :=
  { c with keys := keys, haveKeys := true, loadedAt := time }

theorem note_run (why : FetchCause) (start : Int) (r : Receiver) (requests : List HttpRequest)
    (uri : Option Str) (outcome : Option KeyMap) :
    note env why start r outcome (r.onWire requests uri) =
      (.ok (), r.fetched (r.fetch env why start requests outcome) uri r.cache) := by
  unfold note Receiver.fetched Receiver.fetch
  rw [Prog.bind_run, now_run]
  show (Except.ok (), _) = _
  simp [Receiver.onWire]

/-- A fetch fails and leaves the cache alone, or replaces the keys; either way it is on
the record. -/
theorem loadKeys_cases {env : Env} {why : FetchCause} {start : Int} {r r' : Receiver}
    {out : Except Exc Unit} (h : loadKeys env why start r = (out, r')) :
    ∃ requests uri, KeyRequests requests ∧
      ((∃ e, out = .error e ∧ r' = r.fetched (r.fetch env why start requests none) uri r.cache) ∨
        ∃ doc, (fetchJwks env r).1 = .ok doc ∧ out = .ok () ∧
          r' = r.fetched (r.fetch env why start requests (some (keysOf doc))) uri
            (r.cache.filled start (keysOf doc))) := by
  unfold loadKeys at h
  obtain ⟨answer, requests, uri, hrequests, hfetch⟩ := fetchJwks_run env r
  refine ⟨requests, uri, hrequests, ?_⟩
  simp only [Prog.bind_run, Prog.read_run, Prog.tryCatch_run, hfetch] at h
  cases answer with
  | error e =>
      simp only [note_run] at h
      cases h
      exact .inl ⟨e, rfl, rfl⟩
  | ok doc =>
      simp only [note_run] at h
      cases h
      exact .inr ⟨doc, by rw [hfetch], rfl, rfl⟩

end

/-! ## What a call of `key_for` can do -/

/-- The cache with the minute started. -/
def KeyCache.limit (c : KeyCache) (time : Int) : KeyCache :=
  { c with lastLimitedFetch := some time }

/-- The state in which the cache is consulted: the clock is read and what has expired is
gone. -/
def Receiver.opened (r : Receiver) (time : Int) : Receiver :=
  { r with cache := r.cache.expire time, ticks := r.ticks + 1 }

/-- The first half of a call: what it returned and the state it left. -/
inductive Fills (env : Env) (time : Int) (r : Receiver) : Except Exc Unit → Receiver → Prop
  | warm : r.cache.haveKeys = true → Fills env time r (.ok ()) r
  | unavailable : r.cache.haveKeys = false → r.cache.limited time = true →
      Fills env time r (.error jwksUnavailable) r
  | failed {e requests uri} : r.cache.haveKeys = false → r.cache.limited time = false →
      KeyRequests requests → Fills env time r (.error e)
        (r.fetched (r.fetch env .fill time requests none) uri (r.cache.limit time))
  | filled {doc requests uri} : r.cache.haveKeys = false → r.cache.limited time = false →
      KeyRequests requests → (fetchJwks env r).1 = .ok doc → Fills env time r (.ok ())
        (r.fetched (r.fetch env .fill time requests (some (keysOf doc))) uri
          (r.cache.filled time (keysOf doc)))

/-- The second half, for one `kid`. -/
inductive Looks (env : Env) (time : Int) (kid : Str) (r : Receiver) :
    Except Exc (Option Str) → Receiver → Prop
  | hit {key} : r.cache.keys kid = some key → Looks env time kid r (.ok (some key)) r
  | unknown : r.cache.keys kid = none → r.cache.limited time = true →
      Looks env time kid r (.ok none) r
  | failed {e requests uri} : r.cache.keys kid = none → r.cache.limited time = false →
      KeyRequests requests → Looks env time kid r (.error e)
        (r.fetched (r.fetch env .refetch time requests none) uri (r.cache.limit time))
  | refetched {keys requests uri} : r.cache.keys kid = none → r.cache.limited time = false →
      KeyRequests requests → Looks env time kid r (.ok (keys kid))
        (r.fetched (r.fetch env .refetch time requests (some keys)) uri
          ((r.cache.limit time).filled time keys))

section

variable {env : Env} {time : Int} {r r' : Receiver}

theorem fillCache_fills {out : Except Exc Unit}
    (h : fillCache env time (r.cache.limited time) r = (out, r')) : Fills env time r out r' := by
  unfold fillCache at h
  simp only [Prog.bind_run, Prog.read_run] at h
  by_cases hhave : r.cache.haveKeys = true
  · rw [if_pos hhave] at h
    cases h
    exact .warm hhave
  rw [if_neg hhave] at h
  have hcold : r.cache.haveKeys = false := by simpa using hhave
  by_cases hlimited : r.cache.limited time = true
  · rw [if_pos hlimited] at h
    cases h
    exact .unavailable hcold hlimited
  rw [if_neg hlimited, Prog.tryCatch_run] at h
  have hfree : r.cache.limited time = false := by simpa using hlimited
  rcases hload : loadKeys env .fill time r with ⟨loaded, t⟩
  rw [hload] at h
  obtain ⟨requests, uri, hrequests, ⟨e, rfl, rfl⟩ | ⟨doc, hdoc, rfl, rfl⟩⟩ := loadKeys_cases hload
  · cases h
    exact .failed hcold hfree hrequests
  · cases h
    exact .filled hcold hfree hrequests hdoc

theorem lookupKey_looks {kid : Str} {out : Except Exc (Option Str)}
    (h : lookupKey env kid time (r.cache.limited time) r = (out, r')) :
    Looks env time kid r out r' := by
  unfold lookupKey at h
  simp only [Prog.bind_run, Prog.read_run] at h
  rcases hkey : r.cache.keys kid with _ | key <;> rw [hkey] at h
  · dsimp only at h
    by_cases hlimited : r.cache.limited time = true
    · rw [if_pos hlimited] at h
      cases h
      exact .unknown hkey hlimited
    rw [if_neg hlimited] at h
    have hfree : r.cache.limited time = false := by simpa using hlimited
    simp only [Prog.bind_run, setLimited, Prog.modify_run, Prog.read_run] at h
    rcases hload : loadKeys env .refetch time
      { r with cache := { r.cache with lastLimitedFetch := some time } } with ⟨loaded, t⟩
    rw [hload] at h
    obtain ⟨requests, uri, hrequests, ⟨e, rfl, rfl⟩ | ⟨doc, _, rfl, rfl⟩⟩ := loadKeys_cases hload
    · cases h
      exact .failed hkey hfree hrequests
    · cases h
      exact .refetched hkey hfree hrequests
  · cases h
    exact .hit hkey

/-- A successful fill does not touch the minute. -/
theorem Fills.limited_eq (h : Fills env time r (.ok ()) r') :
    r'.cache.limited time = r.cache.limited time := by
  cases h <;> rfl

theorem opened_limited : (r.opened time).cache.limited time = r.cache.limited time := by
  unfold Receiver.opened KeyCache.expire
  dsimp only
  split <;> rfl

/-- A cache that is not live is empty once it is opened. -/
theorem opened_cold (hlive : r.cache.live time = false) :
    (r.opened time).cache.haveKeys = false := by
  unfold KeyCache.live at hlive
  unfold Receiver.opened KeyCache.expire
  dsimp only
  split
  · rfl
  · rename_i hunexpired
    rcases hhave : r.cache.haveKeys with _ | _
    · rfl
    · rw [hhave] at hlive hunexpired
      simp only [Bool.true_and, decide_eq_true_eq, decide_eq_false_iff_not] at hlive hunexpired
      omega

/-- A live cache is opened as it is. -/
theorem opened_live (hlive : r.cache.live time = true) : (r.opened time).cache = r.cache := by
  unfold KeyCache.live at hlive
  simp only [Bool.and_eq_true, decide_eq_true_eq] at hlive
  unfold Receiver.opened KeyCache.expire
  dsimp only
  rw [if_neg]
  simp only [hlive.1, Bool.true_and, decide_eq_true_eq]
  omega

/-- A call is the first half and then, if it returned, the second. -/
theorem keyFor_cases {kid : Str} {out : Except Exc (Option Str)}
    (h : keyFor env kid r = (out, r')) :
    (∃ e, out = .error e ∧
      Fills env (env.clock r.ticks) (r.opened (env.clock r.ticks)) (.error e) r') ∨
    (∃ m, Fills env (env.clock r.ticks) (r.opened (env.clock r.ticks)) (.ok ()) m ∧
      Looks env (env.clock r.ticks) kid m out r') := by
  unfold keyFor at h
  simp only [Prog.bind_run, now_run, Prog.read_run, Prog.modify_run] at h
  rw [← opened_limited] at h
  rcases hfill : fillCache env (env.clock r.ticks) _
    { r with cache := r.cache.expire (env.clock r.ticks), ticks := r.ticks + 1 } with ⟨filled, m⟩
  rw [hfill] at h
  have hfills : Fills env _ (r.opened (env.clock r.ticks)) filled m := fillCache_fills hfill
  cases filled with
  | error e =>
      cases h
      exact .inl ⟨e, rfl, hfills⟩
  | ok _ =>
      refine .inr ⟨m, hfills, ?_⟩
      rw [← hfills.limited_eq] at h
      exact lookupKey_looks h

end

end Axiam.Ssf
