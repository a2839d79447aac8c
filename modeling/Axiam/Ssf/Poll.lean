import Axiam.Ssf.Verify
import Axiam.Lib.Run

/-!
# Polling, and the calls of a receiver's life

`SsfReceiver::poll` (`src/ssf.cpp`): one exchange with the transmitter, then every SET of
the answer is judged in turn.  An `Arrival` is one SET on its way into the verification,
with the receiver it met; a `verify_set` has one, a poll has one for each SET it was
handed.
-/

namespace Axiam.Ssf

open Axiam.Lib

/-- One `setErrs` entry. -/
structure SetErr where
  err : Str
  description : Option Str

structure SsfPollOptions where
  maxEvents : Option Int := none
  returnImmediately : Option Bool := none
  ack : Option (List Str) := none
  setErrs : Option (List (Str × SetErr)) := none

structure SsfPollResult where
  events : List SecurityEvent := []
  moreAvailable : Bool := false
  refused : List (Str × SetFailureReason) := []
  unjudged : List (Str × Str) := []

/-- A poll under way: the result so far, whether the store failed, and the two counts the
telemetry reports. -/
structure Batch where
  result : SsfPollResult := {}
  storeFailed : Bool := false
  byKeyFetch : Nat := 0
  byStore : Nat := 0

/-- `SsfUnjudgedEvent`. -/
structure SsfUnjudgedEvent where
  operation : Str
  unjudged : Nat
  category : Str
  deriving DecidableEq

/-- What a batch tells of the SETs it leaves unjudged: one event for each cause it met. -/
def Batch.unjudgedEvents (b : Batch) : List SsfUnjudgedEvent :=
  (if 0 < b.byKeyFetch then [⟨"ssf.poll", b.byKeyFetch, "key_fetch"⟩] else []) ++
    if 0 < b.byStore then [⟨"ssf.poll", b.byStore, "replay_store"⟩] else []

def SetErr.toJson (e : SetErr) : Json :=
  .object ((match e.description with
    | some text => [(str "description", .string text)]
    | none => []) ++ [(str "err", .string e.err)])

/-- The body of a poll: what is not set is not sent. -/
def SsfPollOptions.body (options : SsfPollOptions) : Json :=
  let member (key : Str) (value : Option Json) : List (Str × Json) :=
    match value with
    | some j => [(key, j)]
    | none => []
  .object <|
    member "ack" (options.ack.map fun jtis => .array (jtis.map .string)) ++
      member "maxEvents" (options.maxEvents.map .integer) ++
      member "returnImmediately" (options.returnImmediately.map .boolean) ++
      member "setErrs" (options.setErrs.map fun errs =>
        .object (errs.map fun e => (e.1, e.2.toJson)))

section

variable (env : Env)

/-- The status of a completed exchange. -/
def HttpResponse.completed? (resp : HttpResponse) : Option Int :=
  if resp.transportError = [] then some resp.status else none

/-- The exchange, with as many retries as are left.  The waits between two attempts pass
in the clock. -/
def exchange (req : HttpRequest) : Nat → Prog Receiver Exc HttpResponse
  | 0 => do
      let resp ← transport env req
      if (HttpResponse.completed? resp).isSome && resp.isSuccess then pure resp
      else throw (refused resp)
  | retries + 1 => do
      let resp ← transport env req
      if (HttpResponse.completed? resp).isSome && resp.isSuccess then pure resp
      else if retryShouldRetry (HttpResponse.completed? resp) then exchange req retries
      else throw (refused resp)
where
  /-- What a response that is not retried raises. -/
  refused (resp : HttpResponse) : Exc :=
    if resp.transportError ≠ [] then
      .network (str "ssf.poll: " ++ resp.transportError) resp.transportError
    else raiseManagementStatus env.parse "ssf.poll" resp

/-- The poll request. -/
def pollRequest (streamId : Str) (body token : Str) : HttpRequest where
  method := "POST"
  url := env.baseUrl ++ str "/ssf/v1/poll/" ++ urlEncode streamId
  headers :=
    [("Accept", "application/json"), ("Content-Type", "application/json"),
      ("Authorization", str "Bearer " ++ token)]
  body := body
  sessionless := true
  replayable := env.retryEnabled

/-- The reply a response carries. -/
def replyOf (resp : HttpResponse) : Except Exc Json :=
  match env.parse resp.body with
  | some (.object members) => .ok (.object members)
  | _ => .error (.network "ssf.poll: the response is not a JSON object" "malformed_body")

/-- Everything of a poll before the first SET is looked at: the reply. -/
def pollReply (streamId : Str) (options : SsfPollOptions) : Prog Receiver Exc Json := do
  let r ← Prog.read
  if r.closed then throw (.network "client is closed (CONTRACT.md §18.1 rule 4)" "closed")
  else match env.config.accessTokenProvider with
    | none => throw (.auth
        "ssf.poll needs an access_token_provider: a client-credentials token carrying ssf.manage (CONTRACT.md §32.7)")
    | some (.error e) => throw e
    | some (.ok token) =>
        if options.body.dumpable = false then throw (.json .invalidUtf8)
        else do
          let resp ← exchange env (pollRequest env streamId (env.dump options.body) token)
            (if env.retryEnabled then kRetryMaxAttempts - 1 else 0)
          Prog.lift (replyOf env resp)

/-- What the outcome of one verification adds to the batch. -/
def Batch.file (b : Batch) (jti : Str) : Except Exc SecurityEvent → Batch
  | .ok event => { b with result := { b.result with events := b.result.events ++ [event] } }
  | .error (.axiam (.setVerification _ reason)) =>
      { b with result := { b.result with refused := b.result.refused ++ [(jti, reason)] } }
  | .error (.axiam (.network what cause)) =>
      let store := cause == kReplayStoreUnavailable
      { b with
        storeFailed := b.storeFailed || store
        byStore := b.byStore + if store then 1 else 0
        byKeyFetch := b.byKeyFetch + if store then 0 else 1
        result := { b.result with unjudged := b.result.unjudged ++ [(jti, what)] } }
  | .error e =>
      { b with
        byKeyFetch := b.byKeyFetch + 1
        result := { b.result with unjudged := b.result.unjudged ++ [(jti, e.what)] } }

/-- One entry of `sets`; what is no string is refused unread. -/
def judgeEntry (b : Batch) (entry : Str × Json) (r : Receiver) : Batch × Receiver :=
  match entry.2 with
  | .string set =>
      let (out, r') := verify env set (some entry.1) (!b.storeFailed) r
      (b.file entry.1 out, r')
  | _ => (b.file entry.1 (.error (refusal .malformed "")), r)

/-- Every entry of `sets`, in turn. -/
def judgeAll : List (Str × Json) → Batch → Receiver → Batch × Receiver
  | [], b, r => (b, r)
  | entry :: rest, b, r =>
      let (b', r') := judgeEntry env b entry r
      judgeAll rest b' r'

/-- The entries of a reply. -/
def setsOf (reply : Json) : List (Str × Json) :=
  match reply.find? "sets" with
  | some (.object sets) => sets
  | _ => []

/-- The batch a reply opens. -/
def Batch.open (reply : Json) : Batch :=
  { result := { moreAvailable := match reply.find? "moreAvailable" with
      | some (.boolean more) => more
      | _ => false } }

/-- `poll`, with the events it hands to the telemetry hook before it returns. -/
def pollTold (streamId : Str) (options : SsfPollOptions) :
    Prog Receiver Exc (SsfPollResult × List SsfUnjudgedEvent) := do
  let reply ← pollReply env streamId options
  let judged : Prog Receiver Exc Batch := fun r =>
    let (b, r') := judgeAll env (setsOf reply) (.open reply) r
    (.ok b, r')
  let b ← judged
  pure (b.result, b.unjudgedEvents)

/-- `poll`. -/
def poll (streamId : Str) (options : SsfPollOptions) : Prog Receiver Exc SsfPollResult := do
  let told ← pollTold env streamId options
  pure told.1

/-- Without the events it is the reply, and its entries in turn. -/
theorem poll_eq (streamId : Str) (options : SsfPollOptions) :
    poll env streamId options = (pollReply env streamId options >>= fun reply =>
      (fun r => (.ok (judgeAll env (setsOf reply) (.open reply) r).1,
        (judgeAll env (setsOf reply) (.open reply) r).2) : Prog Receiver Exc Batch) >>=
          fun b => pure b.result) := by
  funext r
  unfold poll pollTold
  rw [Prog.bind_run, Prog.bind_run, Prog.bind_run]
  rcases pollReply env streamId options r with ⟨e | reply, m⟩ <;> rfl

/-! ## Calls and arrivals -/

/-- What a receiver is asked to do. -/
inductive Call where
  | verifySet (set : Str)
  | poll (streamId : Str) (options : SsfPollOptions)
  /-- `Client::close()` of the client under the receiver. -/
  | closeClient

/-- A call with what came of it. -/
inductive Answered where
  | verified (set : Str) (out : Except Exc SecurityEvent)
  | polled (streamId : Str) (options : SsfPollOptions) (out : Except Exc SsfPollResult)
  | closed

/-- One SET on its way into the verification. -/
structure Arrival where
  before : Receiver
  set : Str
  expectedJti : Option Str
  askStore : Bool

namespace Arrival

variable (a : Arrival)

def outcome : Except Exc SecurityEvent := (verify env a.set a.expectedJti a.askStore a.before).1

def after : Receiver := (verify env a.set a.expectedJti a.askStore a.before).2

/-- The second at which the arrival consults the key cache. -/
def time : Int := env.clock a.before.ticks

end Arrival

/-- The arrivals of a batch. -/
def batchArrivals : List (Str × Json) → Batch → Receiver → List Arrival
  | [], _, _ => []
  | (jti, value) :: rest, b, r =>
      let (b', r') := judgeEntry env b (jti, value) r
      let later := batchArrivals rest b' r'
      match value with
      | .string set => ⟨r, set, some jti, !b.storeFailed⟩ :: later
      | _ => later

/-- The SETs a call puts to the verification, each with the receiver it meets. -/
def Answered.arrivals (call : Answered) (r : Receiver) : List Arrival :=
  match call with
  | .verified set _ => [⟨r, set, none, true⟩]
  | .polled streamId options _ =>
      match pollReply env streamId options r with
      | (.ok reply, r') => batchArrivals env (setsOf reply) (.open reply) r'
      | (.error _, _) => []
  | .closed => []

/-- One call of `verify_set`, of `poll`, or of the client's `close`. -/
def Receiver.Calls (r : Receiver) (call : Answered) (r' : Receiver) : Prop :=
  match call with
  | .verified set out => verifySet env set r = (out, r')
  | .polled streamId options out => poll env streamId options r = (out, r')
  | .closed => r' = { r with closed := true }

end

/-! ## What a call keeps -/

section

variable {env : Env} {C : Arrival → Prop} {I : Receiver → Prop}

/-- A property that the verifications of arrivals that have `C` keep, and that requests and closing
keep. -/
structure Kept (env : Env) (C : Arrival → Prop) (I : Receiver → Prop) : Prop where
  verify : ∀ a, C a → I a.before → I (a.after env)
  wire : ∀ r posts, (∀ req ∈ posts, req.method = str "POST") → I r →
    I { r with sent := r.sent ++ posts }
  close : ∀ r, I r → I { r with closed := true }

variable (env) in
/-- The exchange sends one request, again and again. -/
theorem exchange_run (req : HttpRequest) (retries : Nat) (r : Receiver) :
    ∃ out posts, (∀ q ∈ posts, q = req) ∧
      exchange env req retries r = (out, { r with sent := r.sent ++ posts }) := by
  have hone : ∀ q ∈ [req], q = req := fun q hq => List.mem_singleton.mp hq
  induction retries generalizing r with
  | zero =>
      unfold exchange
      rw [Prog.bind_run, transport_run]
      cases env.transport r.sent req with
      | error e => exact ⟨_, [req], hone, rfl⟩
      | ok resp =>
          dsimp only
          split <;> exact ⟨_, [req], hone, rfl⟩
  | succ retries ih =>
      unfold exchange
      rw [Prog.bind_run, transport_run]
      cases env.transport r.sent req with
      | error e => exact ⟨_, [req], hone, rfl⟩
      | ok resp =>
          dsimp only
          split
          · exact ⟨_, [req], hone, rfl⟩
          · split
            · obtain ⟨out, posts, hposts, hrun⟩ := ih (r.onWire [req] r.jwksUri)
              refine ⟨out, req :: posts, fun q hq => ?_, ?_⟩
              · rcases List.mem_cons.mp hq with rfl | hq
                · rfl
                · exact hposts q hq
              · rw [hrun]
                simp [Receiver.onWire]
            · exact ⟨_, [req], hone, rfl⟩

variable (env) in
/-- Up to its reply, a poll sends nothing but its own request. -/
theorem pollReply_run (streamId : Str) (options : SsfPollOptions) (r : Receiver) :
    ∃ out posts, (∀ req ∈ posts, req.method = str "POST") ∧
      pollReply env streamId options r = (out, { r with sent := r.sent ++ posts }) := by
  have hnone : r = { r with sent := r.sent ++ [] } := by rw [List.append_nil]
  have hnothing : ∀ req ∈ ([] : List HttpRequest), req.method = str "POST" := by simp
  unfold pollReply
  simp only [Prog.bind_run, Prog.read_run]
  by_cases hclosed : r.closed = true
  · rw [if_pos hclosed]
    exact ⟨_, [], hnothing, congrArg _ hnone⟩
  rw [if_neg hclosed]
  rcases env.config.accessTokenProvider with _ | e | token
  · exact ⟨_, [], hnothing, congrArg _ hnone⟩
  · exact ⟨_, [], hnothing, congrArg _ hnone⟩
  dsimp only
  by_cases hbody : options.body.dumpable = false
  · rw [if_pos hbody]
    exact ⟨_, [], hnothing, congrArg _ hnone⟩
  rw [if_neg hbody]
  obtain ⟨out, posts, hposts, hexchange⟩ := exchange_run env
    (pollRequest env streamId (env.dump options.body) token)
    (if env.retryEnabled then kRetryMaxAttempts - 1 else 0) r
  have hpost : ∀ req ∈ posts, req.method = str "POST" := by
    intro req hreq
    rw [hposts req hreq]
    rfl
  rw [Prog.bind_run, hexchange]
  cases out with
  | error e => exact ⟨_, posts, hpost, rfl⟩
  | ok resp => exact ⟨_, posts, hpost, rfl⟩

/-- A batch keeps the property, and every arrival of it meets a receiver that has it. -/
theorem judgeAll_kept (hkept : Kept env C I) (entries : List (Str × Json)) (b : Batch)
    (r : Receiver) (hC : ∀ a ∈ batchArrivals env entries b r, C a) (hr : I r) :
    I (judgeAll env entries b r).2 ∧ ∀ a ∈ batchArrivals env entries b r, I a.before := by
  induction entries generalizing b r with
  | nil => exact ⟨hr, by simp [batchArrivals]⟩
  | cons entry rest ih =>
      obtain ⟨jti, value⟩ := entry
      cases value with
      | string set =>
          have hhere : C ⟨r, set, some jti, !b.storeFailed⟩ := hC _ List.mem_cons_self
          have hnext : I (judgeEntry env b (jti, .string set) r).2 := hkept.verify _ hhere hr
          obtain ⟨hend, hrest⟩ := ih _ _ (fun a ha => hC a (List.mem_cons_of_mem _ ha)) hnext
          refine ⟨hend, fun a ha => ?_⟩
          rcases List.mem_cons.mp ha with rfl | ha
          · exact hr
          · exact hrest a ha
      | _ => exact ih _ _ hC hr

/-- What verifications, requests and closing keep, every call keeps; and every SET that
arrives meets a receiver that has it. -/
theorem Kept.call (hkept : Kept env C I) {r r' : Receiver} {call : Answered}
    (hC : ∀ a ∈ call.arrivals env r, C a) (hr : I r) (hcall : r.Calls env call r') :
    I r' ∧ ∀ a ∈ call.arrivals env r, I a.before := by
  cases call with
  | verified set out =>
      have hnext := hkept.verify ⟨r, set, none, true⟩ (hC _ List.mem_cons_self) hr
      have hafter : r' = Arrival.after env ⟨r, set, none, true⟩ :=
        (congrArg Prod.snd (show verifySet env set r = (out, r') from hcall)).symm
      rw [← hafter] at hnext
      exact ⟨hnext, by simpa [Answered.arrivals] using hr⟩
  | closed =>
      obtain rfl : r' = { r with closed := true } := hcall
      exact ⟨hkept.close r hr, by simp [Answered.arrivals]⟩
  | polled streamId options out =>
      unfold Receiver.Calls at hcall
      dsimp only at hcall
      rw [poll_eq] at hcall
      unfold Answered.arrivals at hC ⊢
      obtain ⟨reply, posts, hposts, hreply⟩ := pollReply_run env streamId options r
      rw [Prog.bind_run, hreply] at hcall
      have hsent := hkept.wire r posts hposts hr
      dsimp only at hC ⊢
      rw [hreply] at hC ⊢
      cases reply with
      | error e =>
          cases hcall
          exact ⟨hsent, by simp⟩
      | ok reply =>
          obtain ⟨hend, harrivals⟩ :=
            judgeAll_kept hkept (setsOf reply) (.open reply) _ hC hsent
          cases hcall
          exact ⟨hend, harrivals⟩

end

end Axiam.Ssf
