import Axiam.Ssf.Bound

/-!
# A failed key fetch and the next SET

A SET that needs keys within the minute after a failed fetch makes no fetch.  With an
empty or expired cache it is left without a verdict, as it should be; with a live one that
has no key for its `kid` it is refused, and so lost.
-/

namespace Axiam.Ssf

open Axiam.Lib

namespace Arrival

variable (env : Env) (a : Arrival)

/-- The SET passes steps 1 to 3, its `kid` is not among the live keys, and a fetch failed
less than a minute ago. -/
def FollowsFailedFetch : Prop :=
  ∃ parts kid, headerKid env a.set = .ok (parts, kid) ∧
    (a.before.cache.live (a.time env) = true → a.before.cache.keys kid = none) ∧
    ∃ f ∈ a.before.fetches, f.outcome = none ∧ a.time env - f.start < kFetchLimit

/-- Nothing was sent, and what came out is a `NetworkError`: no verdict. -/
def Unjudged : Prop :=
  (a.after env).sent = a.before.sent ∧
    ∃ what cause, a.outcome env = .error (.axiam (.network what cause))

end Arrival

/-- A poll that was handed the arrival lists it as unjudged. -/
def Answered.LeavesUnjudged (call : Answered) (a : Arrival) : Prop :=
  match call with
  | .polled _ _ out =>
      ∃ result jti what, out = .ok result ∧ a.expectedJti = some jti ∧
        (jti, what) ∈ result.unjudged
  | _ => True

section

variable {env : Env}

/-! ## The lists of a batch -/

theorem Batch.file_unjudged_mono (b : Batch) (jti : Str) (out : Except Exc SecurityEvent)
    {entry : Str × Str} (h : entry ∈ b.result.unjudged) :
    entry ∈ (b.file jti out).result.unjudged := by
  unfold Batch.file
  split <;> simp [h]

theorem judgeEntry_unjudged_mono (b : Batch) (item : Str × Json) (r : Receiver)
    {entry : Str × Str} (h : entry ∈ b.result.unjudged) :
    entry ∈ (judgeEntry env b item r).1.result.unjudged := by
  unfold judgeEntry
  split <;> exact b.file_unjudged_mono _ _ h

/-- What a batch has listed as unjudged stays listed. -/
theorem judgeAll_unjudged_mono (entries : List (Str × Json)) (b : Batch) (r : Receiver)
    {entry : Str × Str} (h : entry ∈ b.result.unjudged) :
    entry ∈ (judgeAll env entries b r).1.result.unjudged := by
  induction entries generalizing b r with
  | nil => exact h
  | cons item rest ih =>
      unfold judgeAll
      exact ih _ _ (judgeEntry_unjudged_mono b item r h)

/-- An arrival whose verification ended in a `NetworkError` is listed. -/
theorem batchArrivals_unjudged (entries : List (Str × Json)) (b : Batch) (r : Receiver)
    {a : Arrival} (ha : a ∈ batchArrivals env entries b r) {what cause : Str}
    (hout : a.outcome env = .error (.axiam (.network what cause))) :
    ∃ jti, a.expectedJti = some jti ∧
      (jti, what) ∈ (judgeAll env entries b r).1.result.unjudged := by
  induction entries generalizing b r with
  | nil => simp [batchArrivals] at ha
  | cons item rest ih =>
      obtain ⟨jti, value⟩ := item
      unfold batchArrivals at ha
      unfold judgeAll
      dsimp only at ha ⊢
      split at ha
      · rename_i set
        rcases List.mem_cons.mp ha with rfl | ha
        · refine ⟨jti, rfl, judgeAll_unjudged_mono rest _ _ ?_⟩
          unfold Arrival.outcome at hout
          unfold judgeEntry
          dsimp only at hout ⊢
          rw [hout]
          simp [Batch.file]
        · exact ih _ _ ha
      · exact ih _ _ ha

/-- What a call lists as unjudged: every arrival of a poll that ended in a
`NetworkError`. -/
theorem leavesUnjudged {r r' : Receiver} {call : Answered} (hcall : r.Calls env call r')
    {a : Arrival} (ha : a ∈ call.arrivals env r) {what cause : Str}
    (hout : a.outcome env = .error (.axiam (.network what cause))) : call.LeavesUnjudged a := by
  cases call with
  | verified set out => trivial
  | closed => trivial
  | polled streamId options out =>
      unfold Answered.arrivals at ha
      unfold Receiver.Calls at hcall
      dsimp only at ha hcall
      rw [poll_eq, Prog.bind_run] at hcall
      rcases hreply : pollReply env streamId options r with ⟨e | reply, m⟩ <;>
        rw [hreply] at ha hcall
      · simp at ha
      · obtain ⟨jti, hjti, hmem⟩ := batchArrivals_unjudged _ _ _ ha hout
        cases hcall
        exact ⟨_, jti, what, rfl, hjti, hmem⟩

/-! ## The verdict -/

variable {r r' : Receiver} {time : Int}

/-- Within the minute after a failed fetch the receiver is limited. -/
theorem Sound.limited (h : Sound env r) {f : Fetch} (hf : f ∈ r.fetches)
    (hfailed : f.outcome = none) (hminute : time - f.start < kFetchLimit) :
    r.cache.limited time = true := by
  obtain ⟨last, hlast, hle⟩ := h.counted_le f hf (by simp [Fetch.counted, hfailed])
  unfold KeyCache.limited
  rw [hlast]
  simp only [decide_eq_true_eq]
  omega

/-- Limited and not live: no fetch and no answer. -/
theorem keyFor_limited_cold {kid : Str} {out : Except Exc (Option Str)}
    (hlimited : r.cache.limited (env.clock r.ticks) = true)
    (hlive : r.cache.live (env.clock r.ticks) = false)
    (hrun : keyFor env kid r = (out, r')) :
    out = .error jwksUnavailable ∧ r'.sent = r.sent := by
  have hcold := opened_cold hlive
  rw [← opened_limited] at hlimited
  rcases keyFor_cases hrun with ⟨e, hout, hfills⟩ | ⟨m, hfills, _⟩
  · cases hfills with
    | unavailable _ _ => exact ⟨hout, rfl⟩
    | failed _ hfree _ => simp [hfree] at hlimited
  · cases hfills with
    | warm hhave => simp [hcold] at hhave
    | filled _ hfree _ _ => simp [hfree] at hlimited

/-- Limited and live without the key: no fetch, and the answer is that there is none. -/
theorem keyFor_limited_live {kid : Str} {out : Except Exc (Option Str)}
    (hlimited : r.cache.limited (env.clock r.ticks) = true)
    (hlive : r.cache.live (env.clock r.ticks) = true) (hunknown : r.cache.keys kid = none)
    (hrun : keyFor env kid r = (out, r')) : out = .ok none := by
  have hopened := opened_live hlive
  have hhave : r.cache.haveKeys = true := by
    unfold KeyCache.live at hlive
    simp only [Bool.and_eq_true] at hlive
    exact hlive.1
  rw [← opened_limited] at hlimited
  rcases keyFor_cases hrun with ⟨e, _, hfills⟩ | ⟨m, hfills, hlooks⟩
  · cases hfills <;> simp_all
  · cases hfills with
    | filled hcold _ _ _ => simp_all
    | warm _ =>
        cases hlooks with
        | hit hfound =>
            rw [hopened, hunknown] at hfound
            contradiction
        | unknown _ _ => rfl
        | failed _ hfree _ => simp [hfree] at hlimited
        | refetched _ hfree _ => simp [hfree] at hlimited

end

/-- **No verdict without keys, exactly when the cache is not live.** In every run of calls,
whatever the transport and the store answer, a SET that passes steps 1 to 3 with a `kid`
the live keys do not have, less than a minute after a failed fetch, is left unjudged if and
only if the cache was empty or expired when it arrived. -/
theorem unjudged_iff_not_live (env : Env) {r : Receiver}
    {trace : List (Transition Receiver Answered)}
    (hrun : Run (Receiver.Calls env) {} trace r) :
    ∀ t ∈ trace, ∀ a ∈ t.label.arrivals env t.pre, a.FollowsFailedFetch env →
      ((a.Unjudged env ∧ t.label.LeavesUnjudged a) ↔
        a.before.cache.live (a.time env) = false) := by
  have hkeep : ∀ s call t, Sound env s → s.Calls env call t → Sound env t :=
    fun s call t hs hcall => ((sound_kept env).call (fun _ _ => trivial) hs hcall).1
  intro t ht a ha hfollows
  have hstep := hrun.steps t ht
  have hbefore : Sound env a.before :=
    ((sound_kept env).call (fun _ _ => trivial) ((hrun.invariant hkeep .init).2 t ht).1 hstep).2 a ha
  obtain ⟨parts, kid, hheader, hunknown, f, hf, hfailed, hminute⟩ := hfollows
  have hlimited : a.before.cache.limited (a.time env) = true :=
    hbefore.limited hf hfailed hminute
  rcases hverify : verify env a.set a.expectedJti a.askStore a.before with ⟨out, after⟩
  have hout : a.outcome env = out := by
    unfold Arrival.outcome
    rw [hverify]
  have hafter : a.after env = after := by
    unfold Arrival.after
    rw [hverify]
  rcases verify_cases hverify with ⟨e, herror, _, _⟩ | ⟨parts', kid', hheader', hjudge⟩
  · rw [hheader] at herror
    contradiction
  rw [hheader] at hheader'
  cases hheader'
  obtain ⟨found, m, hkey, hsame, herr, hnone⟩ := judge_cases hjudge
  constructor
  · rintro ⟨⟨_, what, cause, hnetwork⟩, _⟩
    by_contra hlive
    have hlive : a.before.cache.live (a.time env) = true := by simpa using hlive
    have hanswer := keyFor_limited_live hlimited hlive (hunknown hlive) hkey
    rw [hout, hnone hanswer] at hnetwork
    simp [refusal] at hnetwork
  · intro hlive
    obtain ⟨hanswer, hsent⟩ := keyFor_limited_cold hlimited hlive hkey
    have hnetwork : a.outcome env = .error jwksUnavailable := by
      rw [hout, herr _ hanswer]
    refine ⟨⟨?_, _, _, hnetwork⟩, leavesUnjudged hstep ha hnetwork⟩
    unfold Receiver.unasked at hsame
    injection hsame with _ _ _ hsentSame
    rw [hafter, hsentSame, hsent]

/-! ## The last SET of the outage -/

/-- The last arrival. -/
def outageArrival : Arrival := ⟨outageSecond, newKidSet, none, true⟩

/-- Its `kid` is one the live cache does not have, a fetch has just failed, and it is refused. -/
theorem outageArrival_evaluated :
    (headerKid outageEnv outageArrival.set).map Prod.snd = .ok (str "b") ∧
    outageArrival.before.cache.keys "b" = none ∧
    (outageArrival.before.fetches.any fun f => f.outcome.isNone &&
      decide (outageArrival.time outageEnv - f.start < kFetchLimit)) = true ∧
    outageArrival.outcome outageEnv =
      .error (refusal .invalidKey "no key for the kid in the JWKS") := by
  decide

/-- It comes within the minute after the failed refetch, to a live cache. -/
theorem outageArrival_follows : outageArrival.FollowsFailedFetch outageEnv := by
  obtain ⟨hkid, hunknown, hfailed, -⟩ := outageArrival_evaluated
  rcases hheader : headerKid outageEnv outageArrival.set with e | ⟨parts, kid⟩ <;>
    rw [hheader] at hkid
  · cases hkid
  · obtain rfl : kid = str "b" := by simpa [Except.map] using hkid
    obtain ⟨f, hf, hprops⟩ := List.any_eq_true.mp hfailed
    simp only [Bool.and_eq_true, Option.isNone_iff_eq_none, decide_eq_true_eq] at hprops
    exact ⟨parts, _, hheader, fun _ => hunknown, f, hf, hprops⟩

/-- The theorem at the last arrival. -/
theorem outageArrival_unjudged_iff :
    (outageArrival.Unjudged outageEnv ∧
      outageStep.label.LeavesUnjudged outageArrival) ↔
      outageSecond.cache.live (outageArrival.time outageEnv) = false :=
  unjudged_iff_not_live outageEnv outageRun outageStep (by simp [outageTrace]) outageArrival
    (by simp [Answered.arrivals, outageArrival, outageStep])
    outageArrival_follows

/-- A SET after a failed fetch may be refused as `invalid_key`. -/
theorem failed_fetch_verdict :
    ¬∀ (env : Env) (r : Receiver) (trace : List (Transition Receiver Answered)),
      Run (Receiver.Calls env) {} trace r →
        ∀ t ∈ trace, ∀ a ∈ t.label.arrivals env t.pre, a.FollowsFailedFetch env →
          a.Unjudged env := by
  intro hall
  have hrefused := outageArrival_evaluated.2.2.2
  have hunjudged := hall outageEnv _ _ outageRun outageStep (by simp [outageTrace]) outageArrival
    (by simp [Answered.arrivals, outageArrival, outageStep])
    outageArrival_follows
  obtain ⟨_, what, cause, hnetwork⟩ := hunjudged
  rw [hrefused] at hnetwork
  simp [refusal] at hnetwork

end Axiam.Ssf
