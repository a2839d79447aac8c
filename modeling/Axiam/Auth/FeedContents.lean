import Axiam.Auth.Revocation
import Axiam.Lib.Run
import Mathlib.Data.Set.Basic

/-!
# What a feed knows

Over any calls of a feed and any answers of the transport, the entries are the strings of the last
document that could be used.  What could not be used changes nothing, and a document is never taken
in part.
-/

namespace Axiam.Auth

open Axiam.Lib

/-- A call of a feed. -/
inductive FeedCall where
  | isRevoked (sid : Str)
  | refresh
  deriving DecidableEq

section

variable (env : FeedEnv)

/-- A call, with what `is_revoked` answers. -/
def serveCall : FeedCall → Prog RevocationFeed Exc (Option Bool)
  | .isRevoked sid => do
      let revoked ← isRevoked env sid
      pure (some revoked)
  | .refresh => do
      refresh env
      pure none

/-- A call and what came of it. -/
def feedStep (s : RevocationFeed) (l : FeedCall × Except Exc (Option Bool)) (t : RevocationFeed) :
    Prop :=
  serveCall env l.1 s = (l.2, t)

/-- What the transport answers to the fetch with this number. -/
def answerAt (i : Nat) : Answer :=
  env.transport (List.replicate i (feedRequest env)) (feedRequest env)

/-- The answer is a feed document that can be used, and these are the strings it lists. -/
def Lists (answer : Answer) (listed : Set Str) : Prop :=
  ∃ resp document revoked, answer = .ok resp ∧ resp.transportError = [] ∧ resp.status = 200 ∧
    env.parse resp.body = some document ∧ document.find? "alg" = some (.string (str "SHA-256")) ∧
    document.find? "revoked" = some (.array revoked) ∧
    revoked.length ≤ kMaxRevocationEntries ∧ listed = { x | Json.string x ∈ revoked }

/-- Of the first `n` fetches the one numbered `i` brought the last document that can be used. -/
structure LastUsable (n i : Nat) (listed : Set Str) : Prop where
  before : i < n
  lists : Lists env (answerAt env i) listed
  last : ∀ j, i < j → j < n → ∀ listed', ¬Lists env (answerAt env j) listed'

/-- The entries a feed holds after `n` fetches. -/
def Contents (n : Nat) (entries : Option (List Str)) : Prop :=
  match entries with
  | none => ∀ i < n, ∀ listed, ¬Lists env (answerAt env i) listed
  | some entries => ∃ i, LastUsable env n i { x | x ∈ entries }

/-- A feed as its fetches made it. -/
structure Fed (s : RevocationFeed) : Prop where
  sent : s.sent = List.replicate s.sent.length (feedRequest env)
  contents : Contents env s.sent.length s.entries

end

variable {env : FeedEnv}

/-! ## One fetch -/

/-- A document is read in whole or not at all. -/
theorem lists_ok_iff {resp : HttpResponse} {listed : Set Str} :
    Lists env (.ok resp) listed ↔
      ∃ entries, readFeed env resp = some entries ∧ listed = { x | x ∈ entries } := by
  have hstrings : ∀ revoked : List Json,
      { x | Json.string x ∈ revoked } = { x | x ∈ revoked.filterMap Json.string? } := by
    intro revoked
    ext x
    simp only [Set.mem_ofPred_eq, List.mem_filterMap]
    constructor
    · intro hmem
      exact ⟨.string x, hmem, rfl⟩
    · rintro ⟨j, hmem, hj⟩
      cases j with
      | string s =>
          cases hj
          exact hmem
      | _ => exact nomatch hj
  constructor
  · rintro ⟨_, document, revoked, hresp, herror, hstatus, hparse, halg, hrevoked, hfit, rfl⟩
    cases hresp
    refine ⟨revoked.filterMap Json.string?, ?_, hstrings revoked⟩
    unfold readFeed
    rw [if_neg (by simp [herror, hstatus])]
    simp only [hparse]
    rw [if_neg (not_not.mpr (Json.stringMember_eq_some.mpr halg)), hrevoked]
    exact if_neg (by omega)
  · rintro ⟨entries, hread, rfl⟩
    unfold readFeed at hread
    split at hread
    · exact nomatch hread
    next hok =>
      rw [not_or, not_not, not_not] at hok
      split at hread
      · exact nomatch hread
      next document hparse =>
        split at hread
        · exact nomatch hread
        next halg =>
          split at hread
          next revoked hrevoked =>
            split at hread
            · exact nomatch hread
            next hfit =>
              cases hread
              exact ⟨resp, document, revoked, rfl, hok.1, hok.2, hparse,
                Json.stringMember_eq_some.mp (not_not.mp halg), hrevoked, by omega,
                (hstrings revoked).symm⟩
          · exact nomatch hread

/-- What a fetch brings is what its answer lists. -/
theorem fetched_iff {s : RevocationFeed} (hs : s.sent = List.replicate s.sent.length
    (feedRequest env)) {listed : Set Str} :
    Lists env (answerAt env s.sent.length) listed ↔
      ∃ entries, fetched env s = some entries ∧ listed = { x | x ∈ entries } := by
  unfold answerAt fetched
  rw [← hs]
  cases env.transport s.sent (feedRequest env) with
  | ok resp => exact lists_ok_iff
  | error e =>
      constructor
      · rintro ⟨resp, _, _, hresp, _⟩
        exact nomatch hresp
      · rintro ⟨entries, hnone, _⟩
        exact nomatch hnone

/-- One more fetch leaves what it brought, or what was there where it brought nothing. -/
theorem Fed.refreshed {s : RevocationFeed} (h : Fed env s) : Fed env (refresh env s).2 := by
  rw [refresh_run]
  have hlength : (s.sent ++ [feedRequest env]).length = s.sent.length + 1 := by simp
  refine ⟨?_, ?_⟩
  · show s.sent ++ [feedRequest env] = _
    rw [hlength, List.replicate_succ', ← h.sent]
  · show Contents env (s.sent ++ [feedRequest env]).length (fetched env s <|> s.entries)
    rw [hlength]
    cases hf : fetched env s with
    | some entries =>
        refine ⟨s.sent.length, Nat.lt_succ_self _, (fetched_iff h.sent).mpr ⟨entries, hf, rfl⟩, ?_⟩
        intro j hlow hhigh
        omega
    | none =>
        have hno : ∀ listed, ¬Lists env (answerAt env s.sent.length) listed := by
          intro listed hlists
          obtain ⟨entries, hsome, _⟩ := (fetched_iff h.sent).mp hlists
          rw [hf] at hsome
          exact nomatch hsome
        have hbefore := h.contents
        show Contents env (s.sent.length + 1) s.entries
        unfold Contents at hbefore ⊢
        cases hentries : s.entries with
        | none =>
            rw [hentries] at hbefore
            intro i hi
            obtain hlt | rfl := Nat.lt_succ_iff_lt_or_eq.mp hi
            · exact hbefore i hlt
            · exact hno
        | some entries =>
            rw [hentries] at hbefore
            obtain ⟨i, hi⟩ := hbefore
            refine ⟨i, Nat.lt_succ_of_lt hi.before, hi.lists, fun j hlow hhigh => ?_⟩
            obtain hlt | rfl := Nat.lt_succ_iff_lt_or_eq.mp hhigh
            · exact hi.last j hlow hlt
            · exact hno

/-- A document lists one set of strings. -/
theorem Lists.unique {answer : Answer} {listed listed' : Set Str} (h : Lists env answer listed)
    (h' : Lists env answer listed') : listed = listed' := by
  cases answer with
  | ok resp =>
      obtain ⟨entries, hread, rfl⟩ := lists_ok_iff.mp h
      obtain ⟨entries', hread', rfl⟩ := lists_ok_iff.mp h'
      cases hread.symm.trans hread'
      rfl
  | error e =>
      obtain ⟨resp, _, _, hresp, _⟩ := h
      exact nomatch hresp

/-- There is one last document that can be used. -/
theorem LastUsable.unique {n i i' : Nat} {listed listed' : Set Str}
    (h : LastUsable env n i listed) (h' : LastUsable env n i' listed') : listed = listed' := by
  have hsame : i = i' := by
    by_contra hne
    obtain hlt | hgt := Nat.lt_or_gt_of_ne hne
    · exact h.last i' hlt h'.before listed' h'.lists
    · exact h'.last i hgt h.before listed h.lists
  subst hsame
  exact h.lists.unique h'.lists

/-- What a feed has an entry for is what the last document lists. -/
theorem Fed.mem_iff {s : RevocationFeed} (h : Fed env s) (x : Str) :
    (∃ entries, s.entries = some entries ∧ x ∈ entries) ↔
      ∃ i listed, LastUsable env s.sent.length i listed ∧ x ∈ listed := by
  have hcontents := h.contents
  unfold Contents at hcontents
  cases hentries : s.entries with
  | none =>
      rw [hentries] at hcontents
      constructor
      · rintro ⟨entries, hno, _⟩
        exact nomatch hno
      · rintro ⟨i, listed, hlast, _⟩
        exact absurd hlast.lists (hcontents i hlast.before listed)
  | some entries =>
      rw [hentries] at hcontents
      obtain ⟨i, hi⟩ := hcontents
      constructor
      · rintro ⟨entries', heq, hmem⟩
        cases heq
        exact ⟨i, _, hi, hmem⟩
      · rintro ⟨i', listed, hlast, hmem⟩
        rw [hlast.unique hi] at hmem
        exact ⟨entries, rfl, hmem⟩

/-! ## One call -/

/-- What a call did to the feed: no fetch, or one whose answer, where it cannot be used, leaves the
entries as they were. -/
inductive Effect (env : FeedEnv) (s t : RevocationFeed) : Prop
  | idle : t.sent = s.sent → t.entries = s.entries → Effect env s t
  | fetch : t.sent = s.sent ++ [feedRequest env] →
      ((∀ listed, ¬Lists env (answerAt env s.sent.length) listed) → t.entries = s.entries) →
      (Fed env t) → Effect env s t

theorem refresh_effect {s : RevocationFeed} (h : Fed env s) :
    Effect env s (refresh env s).2 := by
  refine .fetch (by rw [refresh_run]) ?_ h.refreshed
  intro hunusable
  rw [refresh_run]
  cases hf : fetched env s with
  | none => rfl
  | some entries =>
      exact absurd ((fetched_iff h.sent).mpr ⟨entries, hf, rfl⟩) (hunusable _)

theorem Effect.fed {s t : RevocationFeed} (heffect : Effect env s t) (h : Fed env s) :
    Fed env t := by
  cases heffect with
  | idle hsent hentries =>
      refine ⟨?_, ?_⟩
      · rw [hsent]
        exact h.sent
      · rw [hsent, hentries]
        exact h.contents
  | fetch _ _ hfed => exact hfed

theorem refreshIfStale_effect {s : RevocationFeed} (h : Fed env s) :
    ∃ t, refreshIfStale env s = (.ok (), t) ∧ Effect env s t := by
  unfold refreshIfStale
  rw [Prog.bind_run_ok (Prog.read_run _)]
  cases hlast : s.lastAttempt with
  | none => exact ⟨_, refresh_run env s, refresh_effect h⟩
  | some last =>
      have hticked : Fed env { s with ticks := s.ticks + 1 } := ⟨h.sent, h.contents⟩
      simp only
      show ∃ t, (if env.clock s.ticks - last < pollInterval env then pure () else refresh env :
        Prog _ _ _) { s with ticks := s.ticks + 1 } = _ ∧ _
      by_cases hfresh : env.clock s.ticks - last < pollInterval env
      · rw [if_pos hfresh]
        exact ⟨_, rfl, .idle rfl rfl⟩
      · rw [if_neg hfresh]
        refine ⟨_, refresh_run env _, ?_⟩
        cases refresh_effect hticked with
        | idle hsent hentries => exact .idle hsent hentries
        | fetch hsent hkept hfed => exact .fetch hsent hkept hfed

theorem isRevoked_effect {s : RevocationFeed} (h : Fed env s) (sid : Str) :
    ∃ revoked t, isRevoked env sid s = (.ok revoked, t) ∧ Effect env s t ∧
      (revoked = true ↔ sid ≠ [] ∧
        ∃ entries, t.entries = some entries ∧ revocationEntryFor env sid ∈ entries) := by
  unfold isRevoked
  by_cases hempty : sid = []
  · rw [if_pos hempty]
    exact ⟨false, s, rfl, .idle rfl rfl, by simp [hempty]⟩
  · rw [if_neg hempty]
    obtain ⟨t, hrun, heffect⟩ := refreshIfStale_effect h
    rw [Prog.bind_run_ok hrun]
    refine ⟨_, t, rfl, heffect, ?_⟩
    cases t.entries with
    | none => simp
    | some entries => simp [hempty]

/-! ## Any calls -/

/-- A call returns, and `is_revoked` says whether the last document lists the session. -/
def Answers (env : FeedEnv) (t : RevocationFeed) (l : FeedCall × Except Exc (Option Bool)) : Prop :=
  match l.1 with
  | .refresh => l.2 = .ok none
  | .isRevoked sid => ∃ revoked, l.2 = .ok (some revoked) ∧
      (revoked = true ↔ sid ≠ [] ∧ ∃ i listed,
        LastUsable env t.sent.length i listed ∧ revocationEntryFor env sid ∈ listed)

theorem feedStep_effect {s t : RevocationFeed} {l : FeedCall × Except Exc (Option Bool)}
    (h : Fed env s) (hstep : feedStep env s l t) : Effect env s t ∧ Answers env t l := by
  obtain ⟨call, result⟩ := l
  cases call with
  | refresh =>
      have hrun : serveCall env .refresh s = (.ok none, (refresh env s).2) :=
        Prog.bind_run_ok (refresh_run env s) _
      cases hrun.symm.trans hstep
      exact ⟨refresh_effect h, rfl⟩
  | isRevoked sid =>
      obtain ⟨revoked, t', hcall, heffect, hanswer⟩ := isRevoked_effect h sid
      have hrun : serveCall env (.isRevoked sid) s = (.ok (some revoked), t') :=
        Prog.bind_run_ok hcall _
      cases hrun.symm.trans hstep
      refine ⟨heffect, revoked, rfl, ?_⟩
      rw [hanswer, (heffect.fed h).mem_iff]

theorem fed_initial (env : FeedEnv) : Fed env {} :=
  ⟨rfl, fun _ hi => absurd hi (Nat.not_lt_zero _)⟩

/-- Whatever is called and whatever is answered, a feed holds the strings of the last document that
could be used. -/
theorem feed_contents (env : FeedEnv)
    {trace : List (Transition RevocationFeed (FeedCall × Except Exc (Option Bool)))}
    {u : RevocationFeed} (hrun : Run (feedStep env) {} trace u) :
    ∀ t ∈ trace, Fed env t.post ∧ Effect env t.pre t.post ∧ Answers env t.post t.label := by
  refine Run.forall_steps (I := Fed env) ?_ ?_ hrun (fed_initial env)
  · intro s l t h hstep
    exact (feedStep_effect h hstep).1.fed h
  · intro s l t h hstep
    obtain ⟨heffect, hanswer⟩ := feedStep_effect h hstep
    exact ⟨heffect.fed h, heffect, hanswer⟩

/-- A session that was ended. -/
def endedSid : Str := "6f3e0a5c-1b2d-4e8f-9a7b-0c1d2e3f4a5b"

/-- A document with the entries of `endedSid` and of the empty string. -/
def endedDocument : Json := .object
  [("alg", .string "SHA-256"),
    ("revoked", .array [.string "i9N2lYMTV4FhA0husWjGYCqJXXTb7_fMBuomhWjSsgQ",
      .string "47DEQpj8HBSa-_TImW-5JCeuQeRkm5NMpJWZG3hSuFU"])]

def endedBody : Str :=
  str "\x7b\"alg\":\"SHA-256\",\"revoked\":[\"i9N2lYMTV4FhA0husWjGYCqJXXTb7_fMBuomhWjSsgQ\"," ++
    str "\"47DEQpj8HBSa-_TImW-5JCeuQeRkm5NMpJWZG3hSuFU\"]\x7d"

def endedEnv : FeedEnv where
  baseUrl := "https://axiam.example"
  parse := fun body => if body = endedBody then some endedDocument else none
  sha256 := fun s =>
    if s = endedSid then some [139, 211, 118, 149, 131, 19, 87, 129, 97, 3, 72, 110, 177, 104, 198, 96, 42, 137, 93, 116,
        219, 239, 247, 204, 6, 234, 38, 133, 104, 210, 178, 4]
    else if s = [] then some [227, 176, 196, 66, 152, 252, 28, 20, 154, 251, 244, 200, 153, 111, 185, 36, 39, 174, 65,
        228, 100, 155, 147, 76, 164, 149, 153, 27, 120, 82, 184, 85]
    else none
  transport := fun _ _ => .ok { status := 200, body := endedBody }
  clock := fun _ => 0

/-- The one call of a run, and what it answers. -/
theorem endedEnv_run (sid : Str) (revoked : Bool)
    (h : (serveCall endedEnv (.isRevoked sid) {}).1 = .ok (some revoked)) :
    Run (feedStep endedEnv) {} [⟨{}, (.isRevoked sid, .ok (some revoked)),
      (serveCall endedEnv (.isRevoked sid) {}).2⟩] (serveCall endedEnv (.isRevoked sid) {}).2 :=
  .cons (Prod.ext h rfl) (.nil _)

/-- The feed is read at the first check, and lists the session. -/
theorem feed_contents_ended :
    (serveCall endedEnv (.isRevoked endedSid) {}).1 = .ok (some true) ∧
      ∃ i listed, LastUsable endedEnv (serveCall endedEnv (.isRevoked endedSid) {}).2.sent.length
        i listed ∧ revocationEntryFor endedEnv endedSid ∈ listed := by
  have hcall : (serveCall endedEnv (.isRevoked endedSid) {}).1 = .ok (some true) := by
    decide
  have hspec := feed_contents endedEnv (endedEnv_run endedSid true hcall) _ List.mem_cons_self
  obtain ⟨revoked, hanswer, hiff⟩ := hspec.2.2
  cases hanswer
  exact ⟨hcall, (hiff.mp rfl).2⟩

/-- The empty `sid` is answered without a look at the feed, whatever the feed lists. -/
theorem empty_sid_never_matched : ¬ ∀ (env : FeedEnv)
    (trace : List (Transition RevocationFeed (FeedCall × Except Exc (Option Bool))))
    (u : RevocationFeed), Run (feedStep env) {} trace u →
      ∀ t ∈ trace, ∀ sid revoked, t.label = (.isRevoked sid, .ok (some revoked)) →
        (revoked = true ↔ ∃ i listed, LastUsable env t.post.sent.length i listed ∧
          revocationEntryFor env sid ∈ listed) := by
  intro hall
  have hfed : Fed endedEnv (refresh endedEnv {}).2 := (fed_initial endedEnv).refreshed
  have hrun : Run (feedStep endedEnv) {} [⟨{}, (.refresh, .ok none), (refresh endedEnv {}).2⟩,
      ⟨(refresh endedEnv {}).2, (.isRevoked [], .ok (some false)), (refresh endedEnv {}).2⟩]
      (refresh endedEnv {}).2 :=
    .cons rfl (.cons rfl (.nil _))
  have hlisted : ∃ entries, (refresh endedEnv {}).2.entries = some entries ∧
      revocationEntryFor endedEnv [] ∈ entries :=
    ⟨["i9N2lYMTV4FhA0husWjGYCqJXXTb7_fMBuomhWjSsgQ",
      "47DEQpj8HBSa-_TImW-5JCeuQeRkm5NMpJWZG3hSuFU"], by decide, by decide⟩
  have hiff := hall endedEnv _ _ hrun _ (List.mem_cons_of_mem _ List.mem_cons_self) [] false rfl
  exact nomatch hiff.mpr ((hfed.mem_iff _).mp hlisted)

end Axiam.Auth
