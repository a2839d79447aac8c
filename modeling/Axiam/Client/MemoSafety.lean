import Axiam.Client.Interleaving

/-!
# What the memo serves

In a run whose steps are all `Calm`, a decision served from the memo was sent under the
credential and the acting tenant the client holds at that moment.  The memo is cleared
before the request of a login or a logout and after that of a refresh; a check that stores or
consults in between, or that is in flight when the credential changes, is what a step is calm
about.  While no check stores, what a login or a logout has cleared stays empty.
-/

namespace Axiam.Client

open Axiam.Lib Axiam.Memo

variable {κ : Type}

/-- The step of `t` serves `sent` from the memo. -/
def Served (t : Transition (World κ) (Input κ)) (sent : Sent κ) : Prop :=
  ∃ q m, t.pre.threads t.label.thread = .checkKeyed q m ∧
    (t.pre.shared.client.memo.get m.key t.label.now).1 = some sent

/-- A refresh has had its exchange and has not cleared the memo yet. -/
def Thread.pending : Thread κ → Bool
  | .refreshExchanged | .checkRefreshed _ _ => true
  | _ => false

/-- A login or a logout has cleared the memo and has not ended yet. -/
def Thread.signing : Thread κ → Bool
  | .loginCleared _ _ | .loginAnswered _ _ | .logoutCleared | .logoutAnswered => true
  | _ => false

/-- A refresh is at its exchange. -/
def Thread.refreshes : Thread κ → Bool
  | .refreshStart | .checkRefreshing _ _ => true
  | _ => false

/-- A check holds what was read under the credential of the moment: a request with a bearer
in it, or a decision that is not stored yet. -/
def Thread.carries : Thread κ → Bool
  | .checkBuilt _ _ _ _ req => (req.headers.find? "Authorization").isSome
  | .checkAnswered _ _ => true
  | _ => false

/-- When a step cannot let the memo cross. -/
structure Calm (env : Env) (t : Transition (World κ) (Input κ)) : Prop where
  /-- The memo is consulted under the acting tenant of the key, with no refresh half done. -/
  consult : ∀ q m, t.pre.threads t.label.thread = .checkKeyed q m →
    t.pre.shared.client.actingTenantId = m.acting ∧ ∀ j, (t.pre.threads j).pending = false
  /-- The request is built under the acting tenant of the key. -/
  build : ∀ q m left refreshed,
    t.pre.threads t.label.thread = .checkReady q (some m) left refreshed →
      t.pre.shared.client.actingTenantId = m.acting
  /-- No check stores between the clear of a login or a logout and its end. -/
  store : ∀ m sent, t.pre.threads t.label.thread = .checkAnswered m sent →
    ∀ j, (t.pre.threads j).signing = false
  /-- The credential changes under no check that carries one. -/
  change : t.post.shared.held ≠ t.pre.shared.held → ∀ j, (t.pre.threads j).carries = false
  /-- A refresh that is refused leaves the credential. -/
  refused : (t.pre.threads t.label.thread).refreshes = true →
    (exchangeRefresh env t.label t.pre.shared).1 = false →
      t.post.shared.held = t.pre.shared.held

/-! ## The invariant -/

/-- A key as `check_access` makes one. -/
def KeyOk (m : MemoKey) : Prop :=
  ActingOk m.acting ∧ ∃ q : AccessCheck, q.memoKey m.acting = m

/-- What a thread holds is what the client would read now. -/
def ThreadOk (s : Shared κ) : Thread κ → Prop
  | .checkKeyed _ m => KeyOk m
  | .checkReady _ memo _ _ | .checkUnauthorized _ memo | .checkRefreshing _ memo
  | .checkRefreshed _ memo => ∀ m ∈ memo, KeyOk m
  | .checkBuilt _ memo _ _ req =>
      req.headers.find? "Authorization" = s.client.bearer ∧
        ∀ m ∈ memo, KeyOk m ∧ req.headers.find? "X-Axiam-Tenant" = m.acting
  | .checkAnswered m sent => KeyOk m ∧ sent.acting = m.acting ∧ sent.credential = s.held
  | _ => True

/-- An entry was sent under the acting tenant of its key, and under the client's credential
unless a refresh is about to drop it. -/
structure EntryOk (w : World κ) (k : Str) (sent : Sent κ) : Prop where
  acting : ∃ m, KeyOk m ∧ m.key = k ∧ sent.acting = m.acting
  credential : sent.credential = w.shared.held ∨ ∃ j, (w.threads j).pending = true

structure World.Ok (w : World κ) : Prop where
  acting : ActingOk w.shared.client.actingTenantId
  threads : ∀ j, ThreadOk w.shared (w.threads j)
  /-- What a login or a logout has cleared is empty until it ends. -/
  signing : ∀ j, (w.threads j).signing = true → ∀ k, w.shared.client.memo.entries k = none
  entries : ∀ k e, w.shared.client.memo.entries k = some e → EntryOk w k e.decision

/-- One key stands for one acting tenant. -/
theorem KeyOk.acting_eq {m m' : MemoKey} (h : KeyOk m) (h' : KeyOk m') (hkey : m.key = m'.key) :
    m.acting = m'.acting := by
  obtain ⟨hacting, q, hq⟩ := h
  obtain ⟨hacting', q', hq'⟩ := h'
  refine component_injective hacting hacting' ?_
  rw [← hq, ← hq'] at hkey
  exact DecisionMemo.key_acting (separator_not_mem_component hacting)
    (separator_not_mem_component hacting') hkey

/-! ## What a section does -/

section

variable (env : Env) (input : Input κ) (s : Shared κ)

/-- The part of a client the memo's safety is about. -/
def Impl.seen {δ : Type} (c : Impl δ) : DecisionMemo δ × Option Str × Option Str :=
  (c.memo, c.bearer, c.actingTenantId)

theorem capture_seen {δ : Type} (c : Impl δ) (resp : HttpResponse) :
    (c.capture resp).seen = c.seen := by
  unfold Impl.capture
  split
  · split <;> rfl
  · rfl

theorem exchange_seen : (exchange input s).2.client.seen = s.client.seen := by
  unfold exchange
  split
  · exact capture_seen s.client _
  · rfl

theorem exchange_jar : (exchange input s).2.jar = s.jar := by
  unfold exchange
  split <;> rfl

/-- An exchange that leaves the jar alone leaves the credential alone. -/
theorem exchange_held : (exchange input s).2.held = s.held := by
  have hbearer : (exchange input s).2.client.bearer = s.client.bearer :=
    congrArg (·.2.1) (exchange_seen input s)
  unfold Shared.held
  rw [exchange_jar, hbearer]

theorem exchangeRefresh_seen : (exchangeRefresh env input s).2.client.seen = s.client.seen := by
  unfold exchangeRefresh
  simp only
  split
  · rfl
  · split
    · rfl
    · exact exchange_seen input _

/-- What one section does to what is shared. -/
inductive Effect : Thread κ → Shared κ → Prop
  /-- Nothing the memo's safety is about, the jar apart. -/
  | quiet {th : Thread κ} {t : Shared κ} (hth : th.pending = false)
      (hseen : t.client.seen = s.client.seen) : Effect th t
  | consulted {q : AccessCheck} {m : MemoKey} :
      Effect (.checkKeyed q m) (s.setMemo (s.client.memo.get m.key input.now).2)
  | stored {m : MemoKey} {sent : Sent κ} :
      Effect (.checkAnswered m sent) (s.setMemo (s.client.memo.put m.key sent input.now))
  | cleared {th : Thread κ} : Effect th s.clearMemo
  /-- A login adopted, or a logout: no bearer is left. -/
  | signed {th : Thread κ} {client : Impl (Sent κ)} (hth : th.pending = false)
      (hseen : client.seen = (s.client.memo, none, s.client.actingTenantId)) :
      Effect th { s with client := client }
  | acted {th : Thread κ} {tenantId : Option Str} (hth : th.pending = false)
      (htenant : ActingOk tenantId) :
      Effect th { s with client := { s.client with actingTenantId := tenantId } }

/-- Every section has one of these effects. -/
theorem advance_effect (th : Thread κ) : Effect input s th (advance env input s th).1 := by
  cases th with
  | checkStart q =>
      refine .quiet rfl ?_
      simp only [advance]
      split <;> rfl
  | checkKeyed q m => exact .consulted
  | checkReady q memo left refreshed =>
      refine .quiet rfl ?_
      simp only [advance]
      split <;> rfl
  | checkBuilt q memo left refreshed req => exact .quiet rfl (exchange_seen input s)
  | checkAnswered m sent => exact .stored
  | checkRefreshing q memo => exact .quiet rfl (exchangeRefresh_seen env input s)
  | refreshStart => exact .quiet rfl (exchangeRefresh_seen env input s)
  | loginCleared u p =>
      refine .quiet rfl ?_
      simp only [advance]
      split
      · rfl
      · exact exchange_seen input _
  | logoutCleared => exact .quiet rfl (exchange_seen input _)
  | checkRefreshed _ _ | loginStart _ _ | refreshExchanged | logoutStart => exact .cleared
  | loginAnswered user orgId => exact .signed rfl rfl
  | logoutAnswered => exact .signed rfl rfl
  | actingTenant t =>
      simp only [advance]
      split
      next hgate => exact .acted rfl fun t' ht => by cases ht; exact hgate.1
      next => exact .quiet rfl rfl
  | clearActingTenant => exact .acted rfl nofun
  | checkUnauthorized _ _ | returned _ | done => exact .quiet rfl rfl

variable {input s} {th : Thread κ} {t : Shared κ}

/-- Memo, bearer and acting tenant, each on its own. -/
theorem seen_eq {δ : Type} {c : Impl δ} {x : DecisionMemo δ × Option Str × Option Str}
    (h : c.seen = x) : c.memo = x.1 ∧ c.bearer = x.2.1 ∧ c.actingTenantId = x.2.2 :=
  ⟨congrArg (·.1) h, congrArg (·.2.1) h, congrArg (·.2.2) h⟩

/-- No section adopts a bearer. -/
theorem Effect.bearer (h : Effect input s th t) :
    t.client.bearer = s.client.bearer ∨ t.client.bearer = none := by
  cases h with
  | quiet _ hseen => exact .inl (seen_eq hseen).2.1
  | signed _ hseen => exact .inr (seen_eq hseen).2.1
  | _ => exact .inl rfl

theorem Effect.acting (h : Effect input s th t) (hs : ActingOk s.client.actingTenantId) :
    ActingOk t.client.actingTenantId := by
  cases h with
  | quiet _ hseen =>
      rw [(seen_eq hseen).2.2]
      exact hs
  | signed _ hseen =>
      have hacting := (seen_eq hseen).2.2
      show ActingOk _
      rw [hacting]
      exact hs
  | acted _ htenant => exact htenant
  | _ => exact hs

/-- An entry after a section was there before, or is the decision the section stored. -/
theorem Effect.entries (h : Effect input s th t) {k : Str} {e : Entry (Sent κ)}
    (he : t.client.memo.entries k = some e) :
    s.client.memo.entries k = some e ∨
      (∃ m, th = .checkAnswered m e.decision ∧ m.key = k) ∧ t.held = s.held := by
  cases h with
  | quiet _ hseen =>
      rw [(seen_eq hseen).1] at he
      exact .inl he
  | signed _ hseen =>
      have hmemo := (seen_eq hseen).1
      simp only at he hmemo
      rw [hmemo] at he
      exact .inl he
  | consulted => exact .inl (DecisionMemo.get_entries he)
  | stored =>
      rcases DecisionMemo.put_entries he with ⟨rfl, rfl⟩ | hold
      · exact .inr ⟨⟨_, rfl, rfl⟩, rfl⟩
      · exact .inl hold
  | cleared => cases he
  | acted => exact .inl he

/-- While nothing is stored, an empty memo stays empty. -/
theorem Effect.empty (h : Effect input s th t) (hstore : ∀ m sent, th ≠ .checkAnswered m sent)
    (hs : ∀ k, s.client.memo.entries k = none) (k : Str) : t.client.memo.entries k = none := by
  cases he : t.client.memo.entries k with
  | none => rfl
  | some e =>
      rcases h.entries he with hold | ⟨⟨m, hstored, -⟩, -⟩
      · rw [hs k] at hold
        cases hold
      · exact absurd hstored (hstore m e.decision)

/-- The clear of a refresh leaves no entry. -/
theorem Effect.pending (h : Effect input s th t) (hpending : th.pending = true) (k : Str) :
    t.client.memo.entries k = none := by
  cases h with
  | cleared => rfl
  | consulted | stored => cases hpending
  | quiet hth | signed hth | acted hth =>
      rw [hpending] at hth
      cases hth

end

/-! ## Who signs and who changes the credential -/

section

variable {env : Env} {input : Input κ} {s : Shared κ} {th : Thread κ}

/-- A login or a logout that goes on went on before, or has cleared the memo now. -/
theorem advance_signing (h : (advance env input s th).2.signing = true) :
    th.signing = true ∨ ∀ k, (advance env input s th).1.client.memo.entries k = none := by
  cases th with
  | loginCleared _ _ | loginAnswered _ _ | logoutCleared | logoutAnswered => exact .inl rfl
  | loginStart _ _ | logoutStart => exact .inr fun _ => rfl
  | checkBuilt q memo left refreshed req =>
      have hnever : ∀ outcome tag,
          (afterExchange env q memo left refreshed tag outcome : Thread κ).signing = false := by
        intro outcome tag
        unfold afterExchange decided
        repeat' split
        all_goals rfl
      have hchecks : (advance env input s (.checkBuilt q memo left refreshed req)).2.signing = false :=
        hnever _ _
      rw [hchecks] at h
      cases h
  | _ =>
      simp only [advance] at h
      repeat' split at h
      all_goals cases h

/-- The credential changes when a login or a logout goes on, or at the exchange of a refresh. -/
theorem advance_held (h : (advance env input s th).1.held ≠ s.held) :
    th.signing = true ∨ th.refreshes = true := by
  cases th with
  | loginCleared _ _ | loginAnswered _ _ | logoutCleared | logoutAnswered => exact .inl rfl
  | checkRefreshing _ _ | refreshStart => exact .inr rfl
  | checkBuilt q memo left refreshed req => exact absurd (exchange_held input s) h
  | _ =>
      refine absurd ?_ h
      simp only [advance]
      repeat' split
      all_goals rfl

/-- A refresh whose exchange succeeds has yet to clear the memo. -/
theorem advance_pending (h : th.refreshes = true) (hsucceeds : (exchangeRefresh env input s).1 = true) :
    (advance env input s th).2.pending = true := by
  cases th with
  | refreshStart | checkRefreshing _ _ =>
      simp only [advance]
      rw [if_pos hsucceeds]
      rfl
  | _ => cases h

end

/-! ## The thread whose turn it is -/

section

variable (env : Env) (input : Input κ) {s : Shared κ}

theorem decided_ok {memo : Option MemoKey} {tag : AccessDecision → Sent κ} {body : Str}
    (h : ∀ d, ∀ m ∈ memo, KeyOk m ∧ (tag d).acting = m.acting ∧ (tag d).credential = s.held) :
    ThreadOk s (decided env memo tag body) := by
  unfold decided
  split
  · trivial
  split
  · trivial
  next decision _ =>
    split
    next m => exact h decision m rfl
    next => trivial

theorem afterExchange_ok {q : AccessCheck} {memo : Option MemoKey} {left : Nat} {refreshed : Bool}
    {tag : AccessDecision → Sent κ} {outcome : Except Exc HttpResponse}
    (h : ∀ d, ∀ m ∈ memo, KeyOk m ∧ (tag d).acting = m.acting ∧ (tag d).credential = s.held) :
    ThreadOk s (afterExchange env q memo left refreshed tag outcome) := by
  have hkeys : ∀ m ∈ memo, KeyOk m := fun m hm => (h {} m hm).1
  unfold afterExchange
  split
  · split
    · exact hkeys
    · trivial
  · split
    · exact hkeys
    split
    · exact decided_ok env h
    split
    · exact hkeys
    · trivial

theorem afterLogin_ok (outcome : Except Exc HttpResponse) :
    ThreadOk s (afterLogin env outcome) := by
  unfold afterLogin
  split
  · trivial
  split
  · trivial
  · split <;> trivial

theorem afterLogout_ok (outcome : Except Exc HttpResponse) :
    ThreadOk s (afterLogout env outcome) := by
  unfold afterLogout
  split <;> split <;> trivial

/-- The thread that moves holds, after its section, what the client would read. -/
theorem advance_ok {th : Thread κ} (hacting : ActingOk s.client.actingTenantId)
    (hth : ThreadOk s th)
    (hbuild : ∀ q m left refreshed, th = .checkReady q (some m) left refreshed →
      s.client.actingTenantId = m.acting) :
    ThreadOk (advance env input s th).1 (advance env input s th).2 := by
  cases th with
  | checkStart q =>
      simp only [advance]
      split
      · exact ⟨hacting, q, rfl⟩
      · exact fun m hm => nomatch hm
  | checkKeyed q m =>
      simp only [advance]
      split
      · trivial
      · intro m' hm'
        cases hm'
        exact hth
  | checkReady q memo left refreshed =>
      simp only [advance]
      split
      · trivial
      next body _ =>
        refine ⟨buildRequest_authorization env s.client "POST" "/api/v1/authz/check" body,
          fun m hm => ⟨hth m hm, ?_⟩⟩
        cases hm
        exact (buildRequest_acting env s.client "POST" "/api/v1/authz/check" body).trans
          (hbuild q m left refreshed rfl)
  | checkBuilt q memo left refreshed req =>
      obtain ⟨hbearer, hmemo⟩ := hth
      refine afterExchange_ok env fun d m hm => ⟨(hmemo m hm).1, (hmemo m hm).2, ?_⟩
      -- sent under the bearer in the request, and that is still the client's
      show credentialOf s.jar (req.headers.find? "Authorization") = (exchange input s).2.held
      rw [hbearer, exchange_held]
      rfl
  | checkUnauthorized q memo =>
      simp only [advance]
      split
      · exact hth
      · trivial
  | checkRefreshing q memo =>
      simp only [advance]
      split
      · exact hth
      · trivial
  | checkRefreshed q memo => exact hth
  | loginCleared u p =>
      simp only [advance]
      split
      · trivial
      · exact afterLogin_ok env _
  | logoutCleared => exact afterLogout_ok env _
  | refreshStart =>
      simp only [advance]
      split <;> trivial
  | actingTenant t =>
      simp only [advance]
      split <;> trivial
  | _ => trivial

end

/-! ## One step and whole runs -/

/-- The credential determines the bearer. -/
theorem bearer_of_held {s t : Shared κ} (h : t.held = s.held) :
    t.client.bearer = s.client.bearer := by
  unfold Shared.held credentialOf at h
  cases ht : t.client.bearer <;> cases hs : s.client.bearer <;> simp_all

/-- A thread that does not move keeps what it holds right. -/
theorem ThreadOk.frame {s t : Shared κ} {th : Thread κ} (h : ThreadOk s th)
    (hbearer : t.client.bearer = s.client.bearer ∨ t.client.bearer = none)
    (hheld : t.held ≠ s.held → th.carries = false) : ThreadOk t th := by
  cases th with
  | checkBuilt q memo left refreshed req =>
      obtain ⟨hreq, hmemo⟩ := h
      refine ⟨?_, hmemo⟩
      by_cases hsame : t.held = s.held
      · rw [hreq, bearer_of_held hsame]
      · -- the request has no bearer, and neither has the client any more
        have hnone := hheld hsame
        simp only [Thread.carries, Option.isSome_eq_false_iff, Option.isNone_iff_eq_none] at hnone
        rw [hnone] at hreq ⊢
        rcases hbearer with heq | heq
        · rw [heq, hreq]
        · rw [heq]
  | checkAnswered m sent =>
      obtain ⟨hkey, hacting, hcredential⟩ := h
      refine ⟨hkey, hacting, ?_⟩
      by_cases hsame : t.held = s.held
      · rw [hcredential, hsame]
      · cases hheld hsame
  | _ => exact h

variable {env : Env}

/-- A calm step keeps the invariant. -/
theorem step_ok {w v : World κ} {input : Input κ} (h : w.Ok) (hstep : Interleave env w input v)
    (hcalm : Calm env ⟨w, input, v⟩) : v.Ok := by
  have heffect := advance_effect env input w.shared (w.threads input.thread)
  have hshared : v.shared = (advance env input w.shared (w.threads input.thread)).1 := by
    rw [hstep]
    rfl
  have hmoved : v.threads input.thread =
      (advance env input w.shared (w.threads input.thread)).2 := by
    rw [hstep]
    exact Function.update_self ..
  have hother {j : Nat} (hj : j ≠ input.thread) : v.threads j = w.threads j := by
    rw [hstep]
    exact Function.update_of_ne hj ..
  rw [← hshared] at heffect
  -- while a login or a logout goes on, nothing is stored
  have hsigning {j : Nat} (hj : (w.threads j).signing = true) (k : Str) :
      v.shared.client.memo.entries k = none := by
    refine heffect.empty (fun m sent hstore => ?_) (h.signing j hj) k
    rw [hcalm.store m sent hstore j] at hj
    cases hj
  refine ⟨heffect.acting h.acting, fun j => ?_, fun j hj => ?_, fun k e he => ?_⟩
  · by_cases hj : j = input.thread
    · rw [hj, hmoved, hshared]
      exact advance_ok env input h.acting (h.threads input.thread) hcalm.build
    · rw [hother hj]
      exact (h.threads j).frame heffect.bearer fun hchange => hcalm.change hchange j
  · by_cases hmover : j = input.thread
    · rw [hmover, hmoved] at hj
      rcases advance_signing hj with hbefore | hcleared
      · exact hsigning hbefore
      · rw [hshared]
        exact hcleared
    · rw [hother hmover] at hj
      exact hsigning hj
  · rcases heffect.entries he with hold | ⟨⟨m, hthread, hkey⟩, hheld⟩
    · obtain ⟨hacting, hcredential⟩ := h.entries k e hold
      refine ⟨hacting, ?_⟩
      by_cases hsame : v.shared.held = w.shared.held
      · rw [hsame]
        refine hcredential.imp_right fun ⟨j, hpending⟩ => ⟨j, ?_⟩
        -- the pending thread did not move: its section would have cleared the memo
        have hj : j ≠ input.thread := by
          rintro rfl
          rw [heffect.pending hpending k] at he
          cases he
        rw [hother hj]
        exact hpending
      · have hchange := hsame
        rw [hshared] at hchange
        rcases advance_held hchange with hsigns | hrefreshes
        · rw [hsigning hsigns k] at he
          cases he
        · refine .inr ⟨input.thread, ?_⟩
          rw [hmoved]
          refine advance_pending hrefreshes ?_
          by_contra hrefused
          exact hsame (hcalm.refused hrefreshes (by simpa using hrefused))
    · have hanswered := h.threads input.thread
      rw [hthread] at hanswered
      obtain ⟨hok, hacting, hcredential⟩ := hanswered
      exact ⟨⟨m, hok, hkey, hacting⟩, .inl (hcredential.trans hheld.symm)⟩

theorem initial_ok {w : World κ} (h : w.Initial) : w.Ok where
  acting := h.acting
  threads := by
    intro j
    have hstart := h.threads j
    cases hth : w.threads j <;> rw [hth] at hstart <;> trivial
  signing := fun _ _ => h.memo
  entries := by
    intro k e he
    rw [h.memo k] at he
    cases he

/-- What a calm step serves was sent under what the client holds. -/
theorem served_ok {t : Transition (World κ) (Input κ)} {sent : Sent κ} (h : t.pre.Ok)
    (hcalm : Calm env t) (hserved : Served t sent) :
    sent.credential = t.pre.shared.held ∧ sent.acting = t.pre.shared.client.actingTenantId := by
  obtain ⟨q, m, hthread, hget⟩ := hserved
  obtain ⟨hacting, hnone⟩ := hcalm.consult q m hthread
  obtain ⟨e, hentry, rfl⟩ := DecisionMemo.get_eq_some hget
  obtain ⟨⟨m', hkey', hsame, hentryActing⟩, hcredential⟩ := h.entries m.key e hentry
  have hkey := h.threads t.label.thread
  rw [hthread] at hkey
  refine ⟨hcredential.resolve_right fun ⟨j, hpending⟩ => ?_, ?_⟩
  · rw [hnone j] at hpending
    cases hpending
  · rw [hentryActing, hacting]
    exact hkey'.acting_eq hkey hsame

/-- A server that allows every access and accepts every login. -/
def kindEnv : Env where
  baseUrl := "https://iam.example"
  tenantHeader := "acme"
  parse := tableParser [(str "allow", .object [("allowed", .boolean true)]), (str "ok", .object [])]
  dump := fun _ => "\x7b\x7d"
  transport := fun _ _ => .ok { status := 200, body := "ok" }
  clock := fun n => n
  opaqueStart := fun _ _ => .error (.foreign "no library")
  opaqueFinish := fun _ _ _ _ => .error (.foreign "no library")

def readDoc : AccessCheck := { action := "read", resourceId := "doc" }

/-- Thread 0 signs bob in, thread 3 refreshes, thread 6 acts on another tenant, every other thread
checks; the jar holds alice's cookies. -/
def aliceWorld : World Str where
  shared := { client := { memo := .build (milliseconds 5000) }, jar := "alice" }
  threads
    | 0 => .loginStart "bob" "secret"
    | 3 => .refreshStart
    | 6 => .actingTenant "11111111-2222-3333-4444-555555555555"
    | _ => .checkStart readDoc

theorem aliceWorld_initial : aliceWorld.Initial where
  threads := by
    intro j
    unfold aliceWorld
    simp only
    split <;> rfl
  memo := fun _ => rfl
  acting := nofun

/-- The sections of one check, its answer an allow. -/
def checkTurns (j : Nat) : List (Input Str) :=
  [{ thread := j }, { thread := j }, { thread := j },
    { thread := j, answer := .ok { status := 200, body := "allow" } }, { thread := j }]

/-- A check runs between the clear of a login and its exchange; another consults after it. -/
def crossingTurns : List (Input Str) :=
  [{ thread := 0 }] ++ checkTurns 1 ++
    [{ thread := 0, answer := .ok { status := 200, body := "ok" }, jar := some "bob" },
      { thread := 0 }, { thread := 2 }, { thread := 2 }]

/-- Two checks under alice, of which the memo serves the second; bob signs in, and two checks under
him; a refresh, which leaves other cookies; and two checks of a tenant that is acted on. -/
def calmTurns : List (Input Str) :=
  checkTurns 1 ++ [{ thread := 2 }, { thread := 2 }] ++
    [{ thread := 0 }, { thread := 0, answer := .ok { status := 200, body := "ok" }, jar := some "bob" },
      { thread := 0 }] ++
    checkTurns 4 ++ [{ thread := 5 }, { thread := 5 }] ++
    [{ thread := 3, answer := .ok { status := 200, body := "ok" }, jar := some "bob again" },
      { thread := 3 }, { thread := 6 }] ++
    checkTurns 7 ++ [{ thread := 8 }, { thread := 8 }]

def turns (inputs : List (Input Str)) : List (Transition (World Str) (Input Str)) :=
  Run.follow (World.turn kindEnv) aliceWorld inputs

theorem turns_run (inputs : List (Input Str)) :
    Run (Interleave kindEnv) aliceWorld (turns inputs)
      (inputs.foldl (World.turn kindEnv) aliceWorld) :=
  have hstep : ∀ (w : World Str) (i : Input Str), Interleave kindEnv w i (w.turn kindEnv i) :=
    fun _ _ => rfl
  Run.run_follow hstep aliceWorld inputs

/-- The decision a step serves, if it serves one. -/
def servedBy (t : Transition (World Str) (Input Str)) : Option (Sent Str) :=
  match t.pre.threads t.label.thread with
  | .checkKeyed _ m => (t.pre.shared.client.memo.get m.key t.label.now).1
  | _ => none

theorem served_of_servedBy {t : Transition (World Str) (Input Str)} {sent : Sent Str}
    (h : servedBy t = some sent) : Served t sent := by
  unfold servedBy at h
  split at h
  next q m hthread => exact ⟨q, m, hthread, h⟩
  next => cases h

/-- A thread that never moves stays as it was. -/
theorem turns_frame (inputs : List (Input Str)) (w : World Str) {j : Nat}
    (hj : ∀ input ∈ inputs, input.thread ≠ j) :
    ∀ t ∈ Run.follow (World.turn kindEnv) w inputs, t.pre.threads j = w.threads j := by
  induction inputs generalizing w with
  | nil => exact fun _ ht => nomatch ht
  | cons input rest ih =>
      intro t ht
      rcases List.mem_cons.mp ht with rfl | ht
      · rfl
      · have hnext : (w.turn kindEnv input).threads j = w.threads j :=
          Function.update_of_ne (hj input List.mem_cons_self).symm ..
        rw [← hnext]
        exact ih _ (fun i hi => hj i (List.mem_cons_of_mem _ hi)) t ht

/-- What a calm step asks for, with the threads `movers` alone under way. -/
def calmly (movers : List Nat) (t : Transition (World Str) (Input Str)) : Bool :=
  let none (busy : Thread Str → Bool) := movers.all fun j => !busy (t.pre.threads j)
  let leaves := t.post.shared.held == t.pre.shared.held
  let acts (m : MemoKey) := t.pre.shared.client.actingTenantId == m.acting
  (match t.pre.threads t.label.thread with
    | .checkKeyed _ m => acts m && none Thread.pending
    | .checkReady _ (some m) _ _ => acts m
    | .checkAnswered _ _ => none Thread.signing
    | _ => true) &&
  (leaves || (none Thread.carries && (exchangeRefresh kindEnv t.label t.pre.shared).1))

/-- A thread at the start of its call is no part of another. -/
theorem atStart_idle {th : Thread κ} (h : th.atStart = true) :
    th.pending = false ∧ th.signing = false ∧ th.carries = false := by
  cases th with
  | checkStart _ | loginStart _ _ | refreshStart | logoutStart | actingTenant _
  | clearActingTenant => exact ⟨rfl, rfl, rfl⟩
  | _ => cases h

theorem calm_of_calmly {inputs : List (Input Str)} {movers : List Nat}
    (hmovers : ∀ input ∈ inputs, input.thread ∈ movers) (h : (turns inputs).all (calmly movers) = true) :
    ∀ t ∈ turns inputs, Calm kindEnv t := by
  intro t ht
  have hnone : ∀ busy : Thread Str → Bool, (∀ th : Thread Str, th.atStart = true → busy th = false) →
      (movers.all fun j => !busy (t.pre.threads j)) = true → ∀ j, busy (t.pre.threads j) = false := by
    intro busy hidle hall j
    by_cases hj : j ∈ movers
    · simpa using List.all_eq_true.mp hall j hj
    · have hstays : ∀ input ∈ inputs, input.thread ≠ j := by
        rintro input hinput rfl
        exact hj (hmovers input hinput)
      rw [turns_frame inputs aliceWorld hstays t ht]
      exact hidle _ (aliceWorld_initial.threads j)
  obtain ⟨hthread, hchange⟩ := Bool.and_eq_true_iff.mp (List.all_eq_true.mp h t ht)
  refine ⟨fun q m hkeyed => ?_, fun q m left refreshed hready => ?_, fun m sent hstore => ?_,
    fun hchanged => ?_, fun _ hrefused => ?_⟩
  · rw [hkeyed] at hthread
    obtain ⟨hacts, hpending⟩ := Bool.and_eq_true_iff.mp hthread
    exact ⟨beq_iff_eq.mp hacts, hnone _ (fun _ hstart => (atStart_idle hstart).1) hpending⟩
  · rw [hready] at hthread
    exact beq_iff_eq.mp hthread
  · rw [hstore] at hthread
    exact hnone _ (fun _ hstart => (atStart_idle hstart).2.1) hthread
  · rcases Bool.or_eq_true_iff.mp hchange with hsame | hchange
    · exact absurd (beq_iff_eq.mp hsame) hchanged
    · exact hnone _ (fun _ hstart => (atStart_idle hstart).2.2) (Bool.and_eq_true_iff.mp hchange).1
  · rcases Bool.or_eq_true_iff.mp hchange with hsame | hchange
    · exact beq_iff_eq.mp hsame
    · rw [(Bool.and_eq_true_iff.mp hchange).2] at hrefused
      cases hrefused

theorem calmMovers : ∀ input ∈ calmTurns, input.thread ∈ List.range 9 := by decide

end Axiam.Client
