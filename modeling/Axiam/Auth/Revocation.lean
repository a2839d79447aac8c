import Axiam.Core.Base64
import Axiam.Core.Http
import Axiam.Lib.Prog

/-!
# The revocation feed

`RevocationFeed` (`src/revocation.cpp`): the list of ended sessions a deployment publishes, polled
at most once in an interval.  A document that cannot be used leaves the entries of the one before
it, and one with too many entries cannot be used.
-/

namespace Axiam.Auth

open Axiam.Lib

/-- `kMaxRevocationEntries`. -/
def kMaxRevocationEntries : Nat := 100000

/-- `kMinRevocationPollInterval`, in seconds. -/
def kMinRevocationPollInterval : Int := 15

/-- What a feed runs in. -/
structure FeedEnv where
  baseUrl : Str
  requestedInterval : Int := 30
  parse : Parser
  /-- The SHA-256 of a text, none when the digest library fails. -/
  sha256 : Str → Option Str
  transport : List HttpRequest → HttpRequest → Answer
  clock : Nat → Int

structure RevocationFeed where
  /-- None is a feed that was never read, which is not one that lists nothing. -/
  entries : Option (List Str) := none
  lastAttempt : Option Int := none
  /-- What the transport was handed, oldest first. -/
  sent : List HttpRequest := []
  /-- How often the clock was read. -/
  ticks : Nat := 0

/-! ## Entries -/

section

variable (env : FeedEnv)

/-- `revocation_entry_for`. -/
def revocationEntryFor (sid : Str) : Str :=
  match env.sha256 sid with
  | some digest => if digest.length = 32 then base64urlEncode digest else []
  | none => []

/-! ## The document -/

/-- The poll interval in force: one below the floor is raised to it. -/
def pollInterval : Int :=
  if env.requestedInterval < kMinRevocationPollInterval then kMinRevocationPollInterval
  else env.requestedInterval

/-- `strip_trailing_slash`. -/
def stripTrailingSlash (url : Str) : Str := (url.reverse.dropWhile (· = 47)).reverse

def feedRequest : HttpRequest where
  method := "GET"
  url := stripTrailingSlash env.baseUrl ++ str "/oauth2/revocations"
  headers := []
  sessionless := true

/-- The entries of a document: none of one that names another digest, or lists too many. -/
def readFeed (resp : HttpResponse) : Option (List Str) :=
  if resp.transportError ≠ [] ∨ resp.status ≠ 200 then none
  else match env.parse resp.body with
    | none => none
    | some document =>
        if document.stringMember? "alg" ≠ some (str "SHA-256") then none
        else match document.find? "revoked" with
          | some (.array revoked) =>
              if kMaxRevocationEntries < revoked.length then none
              else some (revoked.filterMap Json.string?)
          | _ => none

/-- `fetch_once`: whatever the transport throws is no document. -/
def fetchOnce : Prog RevocationFeed Exc (Option (List Str)) := fun s =>
  (.ok (match env.transport s.sent (feedRequest env) with
      | .ok resp => readFeed env resp
      | .error _ => none),
    { s with sent := s.sent ++ [feedRequest env] })

def now : Prog RevocationFeed Exc Int := fun s =>
  (.ok (env.clock s.ticks), { s with ticks := s.ticks + 1 })

/-- `refresh`: the attempt is noted whatever came of it. -/
def refresh : Prog RevocationFeed Exc Unit := do
  let fetched ← fetchOnce env
  let time ← now env
  Prog.modify fun s => { s with lastAttempt := some time, entries := fetched <|> s.entries }

/-- `refresh_if_stale`. -/
def refreshIfStale : Prog RevocationFeed Exc Unit := do
  let s ← Prog.read
  match s.lastAttempt with
  | none => refresh env
  | some last => do
      let time ← now env
      if time - last < pollInterval env then pure () else refresh env

/-- `is_revoked`: no session is behind an empty `sid`. -/
def isRevoked (sid : Str) : Prog RevocationFeed Exc Bool :=
  if sid = [] then pure false
  else do
    refreshIfStale env
    let s ← Prog.read
    pure (match s.entries with
      | some entries => entries.contains (revocationEntryFor env sid)
      | none => false)

end

/-! ## What the feed says -/

section

variable {env : FeedEnv} {s : RevocationFeed}

/-- What a fetch would bring. -/
def fetched (env : FeedEnv) (s : RevocationFeed) : Option (List Str) :=
  match env.transport s.sent (feedRequest env) with
  | .ok resp => readFeed env resp
  | .error _ => none

/-- The entries are due for a poll. -/
def due (env : FeedEnv) (s : RevocationFeed) : Bool :=
  match s.lastAttempt with
  | none => true
  | some last => pollInterval env ≤ env.clock s.ticks - last

/-- The entries a check goes by: those of the document fetched, where one is due and can be used. -/
def honoured (env : FeedEnv) (s : RevocationFeed) : Option (List Str) :=
  if due env s then fetched env s <|> s.entries else s.entries

/-- The session is listed as ended. -/
def Listed (env : FeedEnv) (s : RevocationFeed) (sid : Str) : Prop :=
  sid ≠ [] ∧ ∃ entries, honoured env s = some entries ∧ revocationEntryFor env sid ∈ entries

/-- A refresh returns, with what it fetched in place of the entries before. -/
theorem refresh_run (env : FeedEnv) (s : RevocationFeed) :
    refresh env s = (.ok (), { s with
      sent := s.sent ++ [feedRequest env]
      ticks := s.ticks + 1
      lastAttempt := some (env.clock s.ticks)
      entries := fetched env s <|> s.entries }) := rfl

theorem refreshIfStale_returns (env : FeedEnv) (s : RevocationFeed) :
    ∃ t, refreshIfStale env s = (.ok (), t) ∧ t.entries = honoured env s := by
  unfold refreshIfStale honoured due
  rw [Prog.bind_run_ok (Prog.read_run _)]
  rcases hlast : s.lastAttempt with _ | last
  · exact ⟨_, refresh_run env s, rfl⟩
  · by_cases hfresh : env.clock s.ticks - last < pollInterval env
    · refine ⟨{ s with ticks := s.ticks + 1 }, ?_, ?_⟩
      · show (if env.clock s.ticks - last < pollInterval env then pure () else refresh env :
          Prog _ _ _) _ = _
        rw [if_pos hfresh]
        rfl
      · have hkept : ¬pollInterval env ≤ env.clock s.ticks - last := by omega
        simp [hkept]
    · refine ⟨(refresh env { s with ticks := s.ticks + 1 }).2, ?_, ?_⟩
      · show (if env.clock s.ticks - last < pollInterval env then pure () else refresh env :
          Prog _ _ _) _ = _
        rw [if_neg hfresh]
        exact refresh_run env _
      · have hstale : pollInterval env ≤ env.clock s.ticks - last := by omega
        simp only [hstale, decide_true, if_true]
        rfl

/-- A session is revoked exactly when it is listed; a feed never throws. -/
theorem isRevoked_returns (env : FeedEnv) (s : RevocationFeed) (sid : Str) :
    ∃ revoked t, isRevoked env sid s = (.ok revoked, t) ∧ (revoked = true ↔ Listed env s sid) := by
  unfold isRevoked Listed
  by_cases hempty : sid = []
  · rw [if_pos hempty]
    exact ⟨false, s, rfl, by simp [hempty]⟩
  · rw [if_neg hempty]
    obtain ⟨t, hrun, hentries⟩ := refreshIfStale_returns env s
    rw [Prog.bind_run_ok hrun]
    refine ⟨_, t, rfl, ?_⟩
    rw [← hentries]
    rcases t.entries with _ | entries <;> simp [hempty]

/-! ## More entries -/

/-- A fetch is answered with a document of this digest that lists `revoked`. -/
def Serves (env : FeedEnv) (s : RevocationFeed) (revoked : List Json) : Prop :=
  ∃ resp document, env.transport s.sent (feedRequest env) = .ok resp ∧
    resp.transportError = [] ∧ resp.status = 200 ∧ env.parse resp.body = some document ∧
    document.stringMember? "alg" = some (str "SHA-256") ∧
    document.find? "revoked" = some (.array revoked)

/-- `env'` and `s'` are `env` and `s` with entries added: to the ones held, and to the document
served, as far as it can still be used. -/
structure Grown (env : FeedEnv) (s : RevocationFeed) (env' : FeedEnv) (s' : RevocationFeed) :
    Prop where
  interval : pollInterval env' = pollInterval env
  digest : env'.sha256 = env.sha256
  time : env'.clock s'.ticks = env.clock s.ticks
  attempt : s'.lastAttempt = s.lastAttempt
  held : ∀ entries, s.entries = some entries → ∃ entries', s'.entries = some entries' ∧
    entries ⊆ entries'
  served : (fetched env s = none ∧ fetched env' s' = none) ∨
    ∃ revoked revoked', Serves env s revoked ∧ Serves env' s' revoked' ∧ revoked ⊆ revoked' ∧
      revoked.length ≤ kMaxRevocationEntries ∧ revoked'.length ≤ kMaxRevocationEntries

/-- A served document is read unless it lists too many. -/
theorem fetched_of_serves {revoked : List Json} (h : Serves env s revoked) :
    fetched env s = if kMaxRevocationEntries < revoked.length then none
      else some (revoked.filterMap Json.string?) := by
  obtain ⟨resp, document, hanswer, herror, hstatus, hparse, halg, hrevoked⟩ := h
  unfold fetched readFeed
  rw [hanswer]
  simp only [hparse]
  rw [if_neg (by simp [herror, hstatus]), if_neg (not_not.mpr halg), hrevoked]

/-- What is listed stays listed when entries are added. -/
theorem Grown.listed {env' : FeedEnv} {s' : RevocationFeed} (h : Grown env s env' s') {sid : Str}
    (hlisted : Listed env s sid) : Listed env' s' sid := by
  obtain ⟨hempty, entries, hhonoured, hmem⟩ := hlisted
  have hentry : revocationEntryFor env' sid = revocationEntryFor env sid := by
    unfold revocationEntryFor
    rw [h.digest]
  have hdue : due env' s' = due env s := by
    unfold due
    rw [h.attempt, h.interval, h.time]
  have hheld : s.entries = some entries → ∃ entries', s'.entries = some entries' ∧
      entries ⊆ entries' := h.held entries
  refine ⟨hempty, ?_⟩
  unfold honoured at hhonoured ⊢
  rw [hentry, hdue]
  rcases hd : due env s with _ | _ <;> rw [hd] at hhonoured
  · obtain ⟨entries', hentries', hsub⟩ := hheld hhonoured
    exact ⟨entries', hentries', hsub hmem⟩
  · rw [if_pos rfl] at hhonoured
    rcases h.served with ⟨hnone, hnone'⟩ | ⟨revoked, revoked', hserves, hserves', hsub, hfit, hfit'⟩
    · -- neither fetch brings anything: the entries held stay
      rw [hnone] at hhonoured
      obtain ⟨entries', hentries', hsub⟩ := hheld hhonoured
      refine ⟨entries', ?_, hsub hmem⟩
      rw [if_pos rfl, hnone', hentries']
      rfl
    · rw [fetched_of_serves hserves, if_neg (by omega)] at hhonoured
      cases hhonoured
      rw [if_pos rfl, fetched_of_serves hserves', if_neg (by omega)]
      exact ⟨_, rfl, List.filterMap_subset _ hsub hmem⟩

end

end Axiam.Auth
