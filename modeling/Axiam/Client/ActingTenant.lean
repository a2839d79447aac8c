import Axiam.Client.Exclusivity

/-!
# The acting tenant over whole runs

What the last completed login says of its principal gates `acting_tenant`, and what was accepted
last is what every request carries.  Both are read off the actions taken so far, and the client's
two fields are compared with that.  The gate is right as long as no logout is left by an exception
that is no `AxiamError`: such a logout keeps the login result of the principal it signs out.
-/

namespace Axiam.Client

open Axiam.Lib Axiam.Lib.Prog

/-! ## Tenants as UUIDs -/

/-- The value of a hexadecimal digit. -/
def hexValue (c : UInt8) : Option Nat :=
  if 48 ≤ c ∧ c ≤ 57 then some (c.toNat - 48)
  else if 97 ≤ c ∧ c ≤ 102 then some (c.toNat - 87)
  else if 65 ≤ c ∧ c ≤ 70 then some (c.toNat - 55)
  else none

/-- The UUID a text of 8-4-4-4-12 digits names, as its digits. -/
def uuidOf (s : Str) : Option (List Nat) :=
  if looksLikeUuid s then some (s.filterMap hexValue) else none

/-- What `lower` makes of one character. -/
def lowerByte (c : UInt8) : UInt8 := if 65 ≤ c && c ≤ 90 then c - 65 + 97 else c

theorem lower_eq_map (s : Str) : lower s = s.map lowerByte := rfl

/-- A lower-case digit, by its value. -/
def hexDigit (n : Nat) : UInt8 := if n < 10 then .ofNat (48 + n) else .ofNat (87 + n)

/-- Case is no part of a character of a UUID, and a digit is its value. -/
theorem lowerByte_spec (c : UInt8) : (lowerByte c == 45) = (c == 45) ∧
    isHexDigit (lowerByte c) = isHexDigit c ∧ hexValue (lowerByte c) = hexValue c ∧
    (isHexDigit c = true → (hexValue c).map hexDigit = some (lowerByte c)) := by
  revert c
  apply forall_byte
  decide +kernel

theorem lowerByte_of_isHexDigit {c : UInt8} (h : isHexDigit c = true) :
    ∃ n, hexValue c = some n ∧ lowerByte c = hexDigit n := by
  obtain ⟨n, hn, hlower⟩ := Option.map_eq_some_iff.mp ((lowerByte_spec c).2.2.2 h)
  exact ⟨n, hn, hlower.symm⟩

/-- The shape of a UUID, from the `i`-th character on. -/
def shaped (i : Nat) (s : Str) : Bool :=
  (s.zipIdx i).all fun (c, j) =>
    if j = 8 ∨ j = 13 ∨ j = 18 ∨ j = 23 then c == 45 else isHexDigit c

theorem shaped_cons (i : Nat) (c : UInt8) (s : Str) : shaped i (c :: s) =
    ((if i = 8 ∨ i = 13 ∨ i = 18 ∨ i = 23 then c == 45 else isHexDigit c) && shaped (i + 1) s) := by
  simp [shaped, List.zipIdx_cons]

theorem looksLikeUuid_eq (s : Str) : looksLikeUuid s = (s.length == 36 && shaped 0 s) := rfl

theorem shaped_lower (i : Nat) (s : Str) : shaped i (lower s) = shaped i s := by
  induction s generalizing i with
  | nil => rfl
  | cons c s ih =>
      rw [lower_eq_map, List.map_cons, ← lower_eq_map, shaped_cons, shaped_cons, ih,
        (lowerByte_spec c).1, (lowerByte_spec c).2.1]

theorem filterMap_hexValue_lower (s : Str) :
    (lower s).filterMap hexValue = s.filterMap hexValue := by
  rw [lower_eq_map, List.filterMap_map]
  congr 1
  funext c
  exact (lowerByte_spec c).2.2.1

/-- Of one shape, the digits are all there is to a text but its case. -/
theorem lower_eq_of_digits {i : Nat} {s t : Str} (hlength : s.length = t.length)
    (hs : shaped i s = true) (ht : shaped i t = true)
    (hdigits : s.filterMap hexValue = t.filterMap hexValue) : lower s = lower t := by
  induction s generalizing i t with
  | nil => rw [List.length_eq_zero_iff.mp hlength.symm]
  | cons c s ih =>
      cases t with
      | nil => cases hlength
      | cons d t =>
          rw [shaped_cons, Bool.and_eq_true] at hs ht
          have htail : s.length = t.length := Nat.succ.inj hlength
          rw [lower_eq_map, lower_eq_map, List.map_cons, List.map_cons, ← lower_eq_map,
            ← lower_eq_map]
          by_cases hi : i = 8 ∨ i = 13 ∨ i = 18 ∨ i = 23
          · -- a hyphen on both sides
            rw [if_pos hi, beq_iff_eq] at hs ht
            obtain ⟨rfl, hs⟩ := hs
            obtain ⟨rfl, ht⟩ := ht
            have hnone : hexValue 45 = none := rfl
            rw [List.filterMap_cons_none hnone, List.filterMap_cons_none hnone] at hdigits
            rw [ih htail hs ht hdigits]
          · -- a digit on both sides, and the first of each is the same
            rw [if_neg hi] at hs ht
            obtain ⟨n, hn, hc⟩ := lowerByte_of_isHexDigit hs.1
            obtain ⟨m, hm, hd⟩ := lowerByte_of_isHexDigit ht.1
            rw [List.filterMap_cons_some hn, List.filterMap_cons_some hm] at hdigits
            obtain ⟨rfl, hrest⟩ := List.cons.inj hdigits
            rw [hc, hd, ih htail hs.2 ht.2 hrest]

/-- `same_uuid` compares what the texts name, when one of them is a UUID. -/
theorem sameUuid_iff {r t : Str} (ht : looksLikeUuid t = true) :
    sameUuid r t = true ↔ uuidOf r = uuidOf t := by
  have hshape := ht
  rw [looksLikeUuid_eq, Bool.and_eq_true, beq_iff_eq] at hshape
  unfold sameUuid uuidOf
  rw [beq_iff_eq, if_pos ht]
  constructor
  · intro hlower
    have hlength : r.length = t.length := by
      have := congrArg List.length hlower
      simpa [lower_eq_map] using this
    have hr : looksLikeUuid r = true := by
      rw [looksLikeUuid_eq, hlength, ← shaped_lower, hlower, shaped_lower, ← looksLikeUuid_eq, ht]
    rw [if_pos hr, ← filterMap_hexValue_lower, hlower, filterMap_hexValue_lower]
  · intro hvalue
    split at hvalue
    · rename_i hr
      rw [looksLikeUuid_eq, Bool.and_eq_true, beq_iff_eq] at hr
      apply lower_eq_of_digits (s := r)
      · rw [hr.1, hshape.1]
      · exact hr.2
      · exact hshape.2
      · exact Option.some.inj hvalue
    · cases hvalue

/-! ## What the actions so far come to -/

/-- The principal a reply names; a passkey, a federated login and a device name none. -/
def Reply.user : Reply → Option UserInfo
  | .login result => result.user
  | _ => none

/-- A reply that completed a session is all that is known of the principal after it. -/
def Reply.gate (before : Option UserInfo) (reply : Reply) : Option UserInfo :=
  if reply.completes then reply.user else before

section

variable (env : Env)

/-- The gate after one more action. -/
def gateStep (before : Option UserInfo) (t : Transition Impl Action) : Option UserInfo :=
  match t.label with
  | .op .logout => none
  | .op o =>
      match (o.perform env t.pre).1 with
      | .ok reply => reply.gate before
      | .error _ => before
  | _ => before

/-- What the actions taken say of the principal. -/
def gateAfter (past : List (Transition Impl Action)) : Option UserInfo := past.foldl (gateStep env) none

/-- `acting_tenant` takes the tenant. -/
def Accepts (s : Impl) (tenantId : Str) : Prop := (actingTenant tenantId s).1.isOk = true

instance (s : Impl) (tenantId : Str) : Decidable (Accepts s tenantId) :=
  inferInstanceAs (Decidable ((actingTenant tenantId s).1.isOk = true))

/-- The tenant acted on after one more action. -/
def actingStep (before : Option Str) (t : Transition Impl Action) : Option Str :=
  match t.label with
  | .op (.actingTenant tenantId) => if Accepts t.pre tenantId then some tenantId else before
  | .op .clearActingTenant => none
  | _ => before

/-- What was accepted last and not cleared since, from what the client was built with. -/
def actingAfter (built : Option Str) (past : List (Transition Impl Action)) : Option Str :=
  past.foldl actingStep built

/-- A tenant within the reach of the principal, as far as it is known. -/
def Reachable (gate : Option UserInfo) (tenantId : Str) : Prop :=
  ∀ u, gate = some u → u.organizationLevel = true ∧
    ∀ reach, u.reachableTenantIds = some reach → ∃ r ∈ reach, uuidOf r = uuidOf tenantId

/-- A state as the actions before it demand. -/
structure Gated (built : Option Str) (past : List (Transition Impl Action)) (s : Impl) : Prop where
  gate : s.loginUserInfo = gateAfter env past
  accepts : s.closed = false → ∀ tenantId, looksLikeUuid tenantId = true →
    (Accepts s tenantId ↔ Reachable (gateAfter env past) tenantId)
  refuses : ∀ tenantId, ¬Accepts s tenantId → (actingTenant tenantId s).2 = s
  header : ∀ method path body,
    (buildRequest env s method path body).headers.find? "X-Axiam-Tenant" = actingAfter built past

/-- What a user object says, member by member. -/
structure Describes (j : Json) (u : UserInfo) : Prop where
  texts : ∀ field ∈ [(str "id", u.id), ("username", u.username), ("email", u.email),
      ("tenant_id", u.tenantId)],
    j.find? field.1 = some (.string field.2) ∨ j.find? field.1 = none ∧ field.2 = []
  names : ∀ field ∈ [(str "org_slug", u.orgSlug), ("tenant_slug", u.tenantSlug),
      ("principal_tenant_slug", u.principalTenantSlug), ("org_id", u.orgId)],
    ∀ s, field.2 = some s ↔ j.find? field.1 = some (.string s)
  organization : u.organizationLevel = true ↔
    j.find? "organization_level" = some (.boolean true)
  /-- A principal that is not told apart is of the tenant it acts on. -/
  principal : j.find? "principal_tenant_id" = some (.string u.principalTenantId) ∨
    (∀ s, j.find? "principal_tenant_id" ≠ some (.string s)) ∧ u.principalTenantId = u.tenantId
  /-- The strings of the array, in order; none is no reach that is known. -/
  reach : ∀ ids, u.reachableTenantIds = some ids ↔ ids ≠ [] ∧ ∃ items,
    j.find? "reachable_tenant_ids" = some (.array items) ∧
      items.filter Json.isString = ids.map Json.string

/-- The principal a body names: that of its user object, if it has one. -/
def Names (body : Option Json) : Option UserInfo → Prop
  | some u => ∃ j members, body = some j ∧ j.find? "user" = some (.object members) ∧
      Describes (.object members) u
  | none => ∀ j, body = some j → ∀ members, j.find? "user" ≠ some (.object members)

/-- The transport's last answer. -/
def Answered (resp : HttpResponse) (s : Impl) : Prop :=
  ∃ sent req, s.sent = sent ++ [req] ∧ env.transport sent req = .ok resp

/-- A session that was completed has the principal that the last answer names. -/
def Reads (t : Transition Impl Action) : Prop := ∀ o result, t.label = .op o →
  (o.perform env t.pre).1 = .ok (.login result) → result.complete = true →
    ∃ resp, Answered env resp t.post ∧ Names (env.parse resp.body) result.user

/-- The requests of one action, and the answer that completed its session. -/
structure Announces (acting : Option Str) (t : Transition Impl Action) : Prop where
  requests : (∀ req, t.label ≠ .op (.exchange req)) → ∃ new, t.post.sent = t.pre.sent ++ new ∧
    ∀ req ∈ new, req.headers.find? "X-Axiam-Tenant" = acting
  reads : Reads env t

end

/-! ## One call of `acting_tenant` -/

theorem actingGate_ok_iff {gate : Option UserInfo} {tenantId : Str}
    (ht : looksLikeUuid tenantId = true) :
    actingGate gate tenantId = .ok () ↔ Reachable gate tenantId := by
  unfold actingGate Reachable
  cases gate with
  | none => simp
  | some u =>
      simp only [Option.some.injEq, forall_eq']
      cases u.organizationLevel with
      | false => simp
      | true =>
          rw [if_neg (by simp)]
          cases u.reachableTenantIds with
          | none => simp
          | some reach =>
              -- the entries are compared as UUIDs
              have hany : (reach.any fun r => sameUuid r tenantId) = true ↔
                  ∃ r ∈ reach, uuidOf r = uuidOf tenantId := by
                rw [List.any_eq_true]
                exact exists_congr fun r => and_congr_right fun _ => sameUuid_iff ht
              simp only [Option.some.injEq, forall_eq', true_and]
              rw [← hany]
              split
              · simp_all
              · simp_all

/-- The call, on an open client. -/
theorem actingTenant_run {s : Impl} (hopen : s.closed = false) {tenantId : Str}
    (ht : looksLikeUuid tenantId = true) : actingTenant tenantId s =
      match actingGate s.loginUserInfo tenantId with
      | .ok () => (.ok (), { s with actingTenantId := some tenantId })
      | .error e => (.error e, s) := by
  unfold actingTenant
  rw [bind_run_ok (ensureOpen_run_open hopen), if_neg (by rw [ht]; nofun), bind_run, read_run]
  simp only
  rw [bind_run, lift_run]
  cases actingGate s.loginUserInfo tenantId with
  | ok u => rfl
  | error e => rfl

theorem accepts_iff {s : Impl} (hopen : s.closed = false) {tenantId : Str}
    (ht : looksLikeUuid tenantId = true) :
    Accepts s tenantId ↔ Reachable s.loginUserInfo tenantId := by
  unfold Accepts
  rw [actingTenant_run hopen ht, ← actingGate_ok_iff ht]
  cases actingGate s.loginUserInfo tenantId with
  | ok u => exact iff_of_true rfl rfl
  | error e => exact iff_of_false nofun nofun

/-- A call is accepted, and the tenant written, or refused, and nothing is. -/
theorem actingTenant_cases (s : Impl) (tenantId : Str) :
    actingTenant tenantId s = (.ok (), { s with actingTenantId := some tenantId }) ∨
      ∃ e, actingTenant tenantId s = (.error e, s) := by
  by_cases hclosed : s.closed = true
  · refine .inr ⟨closedError, ?_⟩
    unfold actingTenant
    rw [bind_run_error (ensureOpen_run_closed hclosed)]
  · have hopen : s.closed = false := eq_false_of_ne_true hclosed
    by_cases ht : looksLikeUuid tenantId = true
    · rw [actingTenant_run hopen ht]
      cases actingGate s.loginUserInfo tenantId with
      | ok u => exact .inl rfl
      | error e => exact .inr ⟨e, rfl⟩
    · unfold actingTenant
      rw [bind_run_ok (ensureOpen_run_open hopen), if_pos (eq_false_of_ne_true ht)]
      exact .inr ⟨_, rfl⟩

theorem accepted_state {s : Impl} {tenantId : Str} (h : Accepts s tenantId) :
    (actingTenant tenantId s).2 = { s with actingTenantId := some tenantId } := by
  unfold Accepts at h
  rcases actingTenant_cases s tenantId with hrun | ⟨e, hrun⟩
  · rw [hrun]
  · rw [hrun] at h
    cases h

theorem refused_state {s : Impl} {tenantId : Str} (h : ¬Accepts s tenantId) :
    (actingTenant tenantId s).2 = s := by
  unfold Accepts at h
  rcases actingTenant_cases s tenantId with hrun | ⟨e, hrun⟩
  · rw [hrun] at h
    exact absurd rfl h
  · rw [hrun]

/-! ## What each action makes of the gate -/

theorem loginUserInfo_untouched : Untouched Impl.loginUserInfo :=
  ⟨fun _ _ => rfl, fun _ _ => rfl, fun _ _ => rfl, fun _ _ => rfl, fun _ _ => rfl⟩

section

variable (env : Env)

/-- A login writes what it reports, unless it stopped at a challenge. -/
def LoginGate (result : LoginResult) (before after : Option UserInfo) : Prop :=
  after = if result.complete then result.user else before

theorem adoptLogin_gate (resp : HttpResponse) (result : LoginResult) :
    Commits Impl.loginUserInfo (adoptLogin env resp result) LoginGate := by
  refine .ite (fun hcomplete => .write fun s => ?_) fun hchallenge => .ret fun x => ?_
  · show result.user = _
    rw [if_pos hcomplete]
  · exact (if_neg hchallenge).symm

theorem login_gate (u p : Str) : Commits Impl.loginUserInfo (login env u p) LoginGate := by
  refine .after ensureOpen_keeps fun _ => .after (clearMemo_keeps loginUserInfo_untouched) fun _ => ?_
  refine .after (Keeps.lift _) fun _ => ?_
  refine .after (sendBuilt_keeps env loginUserInfo_untouched _ _ _) fun resp => ?_
  exact .after (Keeps.lift _) fun result => adoptLogin_gate env resp result

theorem loginOpaque_gate (u p : Str) :
    Commits Impl.loginUserInfo (loginOpaque env u p) LoginGate := by
  refine .after ensureOpen_keeps fun _ => .after (clearMemo_keeps loginUserInfo_untouched) fun _ => ?_
  refine .after Keeps.read fun _ => .after (Keeps.lift _) fun _ => .after (Keeps.lift _) fun _ => ?_
  refine .after (sendBuilt_keeps env loginUserInfo_untouched _ _ _) fun _ => ?_
  refine .after (Keeps.lift _) fun _ => .ite (fun _ => .raise _) fun _ => .after Keeps.read fun _ => ?_
  -- the exchange is finished, or the tenant takes the password instead
  split
  · refine .after (Keeps.lift _) fun _ => ?_
    refine .after (execute_keeps env loginUserInfo_untouched _ _ _ _) fun resp => ?_
    exact .after (Keeps.lift _) fun result => adoptLogin_gate env resp result
  · exact .ite (fun _ => login_gate env u p) fun _ => .raise _

/-- The success branch of a login asks for nothing more. -/
theorem readSession_complete {j : Json} {result : LoginResult} (h : readSession j = .ok result) :
    result.complete = true := by
  obtain ⟨sessionId, -, h⟩ := except_bind_eq_ok.mp h
  obtain ⟨expiresIn, -, h⟩ := except_bind_eq_ok.mp h
  simp only at h
  split at h
  · obtain ⟨user, -, h⟩ := except_bind_eq_ok.mp h
    cases h
    rfl
  · cases h
    rfl

/-- The write of a result that is known to be complete. -/
theorem adopted_gate {result : LoginResult} {g : Impl → Impl} (hcomplete : result.complete = true)
    (hg : ∀ s, (g s).loginUserInfo = result.user) :
    Commits Impl.loginUserInfo (Prog.modify g >>= fun _ => pure result : Prog Impl Exc LoginResult)
      LoginGate := by
  refine .write fun s => ?_
  unfold LoginGate
  rw [if_pos hcomplete, hg]

theorem readSetup_complete {body : Str} {result : LoginResult} (h : readSetup env body = .ok result) :
    result.complete = true := by
  unfold readSetup at h
  split at h
  · exact readSession_complete (liftJson_eq_ok.mp h)
  · cases h
    rfl

theorem verifyMfa_gate (c t : Str) : Commits Impl.loginUserInfo (verifyMfa env c t) LoginGate := by
  refine .after ensureOpen_keeps fun _ => .after (clearMemo_keeps loginUserInfo_untouched) fun _ => ?_
  refine .after (Keeps.lift _) fun _ => ?_
  refine .after (execute_keeps env loginUserInfo_untouched _ _ _ _) fun resp => ?_
  refine .lifted fun result hread => adopted_gate ?_ fun _ => rfl
  split at hread
  · exact readSession_complete (liftJson_eq_ok.mp hread)
  · cases hread
    rfl

theorem mfaSetupConfirm_gate (s t : Str) :
    Commits Impl.loginUserInfo (mfaSetupConfirm env s t) LoginGate := by
  refine .after ensureOpen_keeps fun _ => .after (clearMemo_keeps loginUserInfo_untouched) fun _ => ?_
  refine .after (Keeps.lift _) fun _ => .after (post_keeps env loginUserInfo_untouched _ _) fun _ => ?_
  exact .lifted fun result hread => adopted_gate (readSetup_complete env hread) fun _ => rfl

theorem webauthnSetupRegisterFinish_gate (a b c d : Str) :
    Commits Impl.loginUserInfo (webauthnSetupRegisterFinish env a b c d) LoginGate := by
  refine .after ensureOpen_keeps fun _ => .ite (fun _ => .raise _) fun _ => ?_
  refine .after (clearMemo_keeps loginUserInfo_untouched) fun _ => .after (Keeps.lift _) fun _ => ?_
  refine .after Keeps.read fun _ => .after (sendRaw_keeps env loginUserInfo_untouched _) fun _ => ?_
  refine .after (orRaise_keeps env _) fun _ => .lifted fun result hread => ?_
  exact adopted_gate (readSetup_complete env hread) fun _ => rfl

theorem finishLogin_gate (path s r operation : Str) :
    Commits Impl.loginUserInfo (finishLogin env path s r operation) fun _ _ after => after = none := by
  refine .after ensureOpen_keeps fun _ => .after (Keeps.lift _) fun _ => ?_
  refine .after (clearMemo_keeps loginUserInfo_untouched) fun _ => ?_
  refine .after (post_keeps env loginUserInfo_untouched _ _) fun _ => .after (Keeps.lift _) fun _ => ?_
  exact .write fun _ => rfl

theorem completeFederation_gate (path context : Str) (request : Json) :
    Commits Impl.loginUserInfo (completeFederation env path context request)
      fun _ _ after => after = none := by
  refine .after ensureOpen_keeps fun _ => .after (clearMemo_keeps loginUserInfo_untouched) fun _ => ?_
  refine .after (Keeps.lift _) fun _ => ?_
  refine .after (execute_keeps env loginUserInfo_untouched _ _ _ _) fun _ => ?_
  exact .after (Keeps.lift _) fun _ => .write fun _ => rfl

theorem authenticateDevice_gate : Commits Impl.loginUserInfo (authenticateDevice env)
    fun _ _ after => after = none := by
  refine .after ensureOpen_keeps fun _ => .ite (fun _ => .raise _) fun _ => ?_
  refine .after (clearMemo_keeps loginUserInfo_untouched) fun _ => .after Keeps.read fun _ => ?_
  refine .after (sendRaw_keeps env loginUserInfo_untouched _) fun _ => ?_
  refine .after (orRaise_keeps env _) fun _ => .after (Keeps.lift _) fun _ => .write fun _ => rfl

/-- The operations but `logout`: a throw leaves the gate, a return has it as the reply says. -/
theorem Op.perform_gate {op : Op} (hop : op ≠ .logout) :
    Commits Impl.loginUserInfo (op.perform env) fun reply before after =>
      after = reply.gate before := by
  have hkeeps {α : Type} {wrap : α → Reply} {m : Prog Impl Exc α}
      (hm : Keeps Impl.loginUserInfo m) (hwrap : ∀ a, (wrap a).completes = false) :
      Commits Impl.loginUserInfo (replying wrap m) fun reply before after =>
        after = reply.gate before := by
    refine .map (.keeps hm fun a x => ?_)
    unfold Reply.gate
    rw [hwrap, if_neg Bool.false_ne_true]
  have hf := loginUserInfo_untouched
  cases op with
  | login u p => exact .map (login_gate env u p)
  | loginOpaque u p => exact .map (loginOpaque_gate env u p)
  | verifyMfa c t => exact .map (verifyMfa_gate env c t)
  | mfaSetupConfirm s t => exact .map (mfaSetupConfirm_gate env s t)
  | webauthnAuthenticateFinish s r | webauthnDiscoverableFinish s r =>
      exact .map (finishLogin_gate env _ s r _)
  | webauthnSetupRegisterFinish a b c d => exact .map (webauthnSetupRegisterFinish_gate env a b c d)
  | ssoComplete _ _ | ssoCompleteOauth2 _ _ | ssoCompleteHandoff _ =>
      exact .map (completeFederation_gate env _ _ _)
  | authenticateDevice => exact .map (authenticateDevice_gate env)
  | logout => exact absurd rfl hop
  | refresh =>
      exact hkeeps (Keeps.bind ensureOpen_keeps fun _ => doSingleFlightRefresh_keeps env hf)
        fun _ => rfl
  | close =>
      refine hkeeps (Keeps.bind Keeps.read fun _ => Keeps.ite (Keeps.ret _) ?_) fun _ => rfl
      exact Keeps.modify fun _ => rfl
  | actingTenant t =>
      refine hkeeps (Keeps.bind ensureOpen_keeps fun _ => Keeps.ite (Keeps.raise _) ?_) fun _ => rfl
      exact Keeps.bind Keeps.read fun _ => Keeps.bind (Keeps.lift _) fun _ => Keeps.modify fun _ => rfl
  | clearActingTenant =>
      exact hkeeps (Keeps.bind ensureOpen_keeps fun _ => Keeps.modify fun _ => rfl) fun _ => rfl
  | checkAccess a r s u => exact hkeeps (checkAccess_keeps env hf a r s u) fun _ => rfl
  | batchCheck cs => exact hkeeps (batchCheck_keeps env hf cs) fun _ => rfl
  | manage o m t vs q b => exact hkeeps (Management.send_keeps env hf o m t vs q b) fun _ => rfl
  | call m p b r =>
      exact hkeeps (Keeps.bind ensureOpen_keeps fun _ => execute_keeps env hf m p b r) fun _ => rfl
  | exchange req =>
      exact hkeeps (Keeps.bind ensureOpen_keeps fun _ => sendRaw_keeps env hf req) fun _ => rfl

end

/-! ## The answer that completed a session -/

section

variable (env : Env)

theorem Answered.congr {resp : HttpResponse} {s t : Impl} (h : Answered env resp s)
    (hsent : t.sent = s.sent) : Answered env resp t := by
  obtain ⟨sent, req, hs, hanswer⟩ := h
  exact ⟨sent, req, hsent.trans hs, hanswer⟩

theorem sendRaw_answered (req : HttpRequest) : Returns (sendRaw env req) (Answered env) := by
  intro s _
  have hsent := sendRaw_sent env req s
  rcases hrun : sendRaw env req s with ⟨e | resp, t⟩
  · trivial
  · rw [hrun] at hsent
    refine ⟨s.sent, req, hsent, ?_⟩
    obtain ⟨answer, u, hfirst, hrest⟩ := bind_eq_ok.mp hrun
    obtain ⟨kept, v, hdelivered, hlast⟩ := bind_eq_ok.mp hrest
    obtain ⟨_, w, -, hret⟩ := bind_eq_ok.mp hlast
    -- what is returned is what arrived
    have hkept : kept = resp := by
      cases hret
      rfl
    have harrived : delivered answer = .ok kept := congrArg Prod.fst hdelivered
    unfold delivered at harrived
    split at harrived
    · cases harrived
      rw [← hkept]
      exact congrArg Prod.fst hfirst
    · cases harrived

theorem sendBuilt_answered (method path body : Str) :
    Returns (sendBuilt env method path body) (Answered env) :=
  Returns.seq fun _ => sendRaw_answered env _

theorem orRaise_run {resp r : HttpResponse} {s t : Impl} (h : orRaise env resp s = (.ok r, t)) :
    r = resp ∧ t = s := by
  unfold orRaise at h
  split at h
  · cases h
    exact ⟨rfl, rfl⟩
  · cases h

theorem post_answered (path body : Str) : Returns (post env path body) (Answered env) := by
  refine Returns.bind (sendBuilt_answered env _ _ _) fun resp s hs r t hrun => ?_
  obtain ⟨rfl, rfl⟩ := orRaise_run env hrun
  exact hs

theorem execute_answered (method path body : Str) :
    Returns (execute env method path body false) (Answered env) := by
  refine Returns.bind (sendBuilt_answered env _ _ _) fun resp s hs r t hrun => ?_
  split at hrun
  · cases hrun
    exact hs
  · -- no refresh, so nothing is sent again
    obtain ⟨u, v, -, hrest⟩ := bind_eq_ok.mp hrun
    rw [if_neg (fun h => Bool.false_ne_true h.2.1)] at hrest
    cases hrest

/-- A completed result reports the user object of the last answer. -/
def Reported (result : LoginResult) (s : Impl) : Prop := result.complete = true →
  ∃ resp, Answered env resp s ∧ Names (env.parse resp.body) result.user

theorem filter_isString (items : List Json) :
    items.filter Json.isString = (items.filterMap Json.string?).map Json.string := by
  induction items with
  | nil => rfl
  | cons item rest ih =>
      cases item with
      | string s =>
          rw [List.filter_cons_of_pos rfl, ih]
          rfl
      | _ =>
          rw [List.filter_cons_of_neg Bool.false_ne_true, ih]
          rfl

/-- `parse_user` reads what the object says. -/
theorem parseUser_describes {j : Json} {u : UserInfo} (h : parseUser j = .ok u) :
    Describes j u := by
  obtain ⟨id, hid, h⟩ := except_bind_eq_ok.mp h
  obtain ⟨username, husername, h⟩ := except_bind_eq_ok.mp h
  obtain ⟨email, hemail, h⟩ := except_bind_eq_ok.mp h
  obtain ⟨tenantId, htenant, h⟩ := except_bind_eq_ok.mp h
  have hread : ∀ {key s : Str}, j.valueString key [] = .ok s →
      j.find? key = some (.string s) ∨ j.find? key = none ∧ s = [] := fun hvalue =>
    (Json.valueString_eq_ok hvalue).imp_left Json.stringMember_eq_some.mp
  cases h
  refine ⟨?_, ?_, ?_, ?_, fun ids => ?_⟩
  · simp only [List.forall_mem_cons]
    exact ⟨hread hid, hread husername, hread hemail, hread htenant, by simp⟩
  · simp [Json.stringMember_eq_some]
  · exact Json.trueMember_iff
  · cases hown : j.stringMember? "principal_tenant_id" with
    | none => exact .inr ⟨Json.stringMember_eq_none.mp hown, rfl⟩
    | some own => exact .inl (Json.stringMember_eq_some.mp hown)
  · -- the list of the strings is known when it is not empty
    have hinj : Function.Injective (List.map Json.string) :=
      List.map_injective_iff.mpr fun _ _ heq => Json.string.inj heq
    have hstrings : stringsOf j "reachable_tenant_ids" = ids ∧ ids ≠ [] ↔ ids ≠ [] ∧ ∃ items,
        j.find? "reachable_tenant_ids" = some (.array items) ∧
          items.filter Json.isString = ids.map Json.string := by
      simp only [filter_isString, hinj.eq_iff]
      unfold stringsOf
      split
      · rename_i items hitems
        simp [hitems, and_comm]
      · rename_i hother
        constructor
        · rintro ⟨rfl, hne⟩
          exact absurd rfl hne
        · rintro ⟨-, items, hitems, -⟩
          exact absurd hitems (hother items)
    rw [← hstrings]
    cases stringsOf j "reachable_tenant_ids" with
    | nil =>
        refine iff_of_false (fun h => by cases h) ?_
        rintro ⟨rfl, hne⟩
        exact hne rfl
    | cons s rest =>
        constructor
        · intro h
          cases h
          exact ⟨rfl, List.cons_ne_nil s rest⟩
        · rintro ⟨rfl, -⟩
          rfl

theorem readSession_user {j : Json} {result : LoginResult} (h : readSession j = .ok result) :
    Names (some j) result.user := by
  obtain ⟨sessionId, -, h⟩ := except_bind_eq_ok.mp h
  obtain ⟨expiresIn, -, h⟩ := except_bind_eq_ok.mp h
  simp only at h
  split at h
  · rename_i members huser
    obtain ⟨user, hread, h⟩ := except_bind_eq_ok.mp h
    cases hparsed : parseUser (.object members) with
    | ok u =>
        rw [hparsed] at hread
        cases hread
        cases h
        exact ⟨j, members, rfl, huser, parseUser_describes hparsed⟩
    | error e =>
        rw [hparsed] at hread
        cases hread
  · rename_i hother
    cases h
    intro j' hj
    cases hj
    exact hother

theorem readSetup_user {body : Str} {result : LoginResult} (h : readSetup env body = .ok result) :
    Names (env.parse body) result.user := by
  unfold readSetup at h
  split at h
  · rename_i members hparsed
    rw [hparsed]
    exact readSession_user (liftJson_eq_ok.mp h)
  · rename_i hother
    cases h
    intro j hj members hfind
    cases j with
    | object all => exact hother all hj
    | _ => cases hfind

/-- A login that is no challenge read its session. -/
theorem readLogin_user {status : Int} {j : Option Json} {result : LoginResult}
    (h : readLogin status j = .ok result) (hcomplete : result.complete = true) :
    Names j result.user := by
  obtain ⟨required, -, h⟩ := except_bind_eq_ok.mp h
  split at h
  · -- a challenge is not complete
    exfalso
    cases j with
    | none =>
        cases h
        cases hcomplete
    | some j =>
        obtain ⟨_, -, h⟩ := except_bind_eq_ok.mp h
        cases h
        cases hcomplete
  · cases j with
    | none =>
        cases h
        intro j hj
        cases hj
    | some j => exact readSession_user h

theorem readLoginAnswer_user {resp : HttpResponse} {result : LoginResult}
    (h : readLoginAnswer env resp = .ok result) (hcomplete : result.complete = true) :
    Names (env.parse resp.body) result.user := by
  -- whether a factor has to be set up, then the session
  have hread : ∀ setup, (if setup = true then do
      let setupToken ← liftJson ((objectOf env.parse resp.body).valueString "setup_token" [])
      pure { mfaSetupRequired := true, setupToken := setupToken }
    else do
      requireSuccess env resp
      liftJson (readLogin resp.status (env.parse resp.body)) : Except Exc LoginResult) = .ok result →
      Names (env.parse resp.body) result.user := by
    intro setup h
    cases setup with
    | true =>
        obtain ⟨_, -, h⟩ := except_bind_eq_ok.mp h
        cases h
        cases hcomplete
    | false =>
        obtain ⟨_, -, h⟩ := except_bind_eq_ok.mp h
        exact readLogin_user (liftJson_eq_ok.mp h) hcomplete
  unfold readLoginAnswer at h
  simp only at h
  split at h
  · split at h
    · obtain ⟨setup, -, h⟩ := except_bind_eq_ok.mp h
      exact hread setup h
    · exact hread false h
  · exact hread false h

theorem adoptLogin_run {resp : HttpResponse} {result r : LoginResult} {s t : Impl}
    (h : adoptLogin env resp result s = (.ok r, t)) : r = result ∧ t.sent = s.sent := by
  have hsent := adoptLogin_sent env resp result s
  rw [h] at hsent
  refine ⟨?_, hsent⟩
  unfold adoptLogin at h
  split at h
  · cases h
    rfl
  · cases h
    rfl

/-- The two halves of an ordinary login's end. -/
theorem adopted_reported {resp : HttpResponse} {x : Except Exc LoginResult} {s t : Impl}
    {result : LoginResult} (hs : Answered env resp s)
    (hx : ∀ r, x = .ok r → r.complete = true → Names (env.parse resp.body) r.user)
    (h : (Prog.lift x >>= fun r => adoptLogin env resp r) s = (.ok result, t)) :
    Reported env result t := by
  obtain ⟨r, u, hread, hadopt⟩ := bind_eq_ok.mp h
  cases hread
  obtain ⟨rfl, hsent⟩ := adoptLogin_run env hadopt
  intro hcomplete
  exact ⟨resp, hs.congr env hsent, hx _ rfl hcomplete⟩

theorem login_reported (u p : Str) : Returns (login env u p) (Reported env) := by
  refine Returns.seq fun _ => Returns.seq fun _ => Returns.seq fun _ => ?_
  refine Returns.bind (sendBuilt_answered env _ _ _) fun resp s hs r t hrun => ?_
  exact adopted_reported env hs (fun r h hcomplete => readLoginAnswer_user env h hcomplete) hrun

theorem loginOpaque_reported (u p : Str) : Returns (loginOpaque env u p) (Reported env) := by
  refine Returns.seq fun _ => Returns.seq fun _ => Returns.seq fun _ => Returns.seq fun _ => ?_
  refine Returns.seq fun _ => Returns.seq fun _ => Returns.seq fun _ => ?_
  refine Returns.ite (fun _ => Returns.raise _) fun _ => Returns.seq fun _ => ?_
  split
  · refine Returns.seq fun _ => ?_
    refine Returns.bind (execute_answered env _ _ _) fun resp s hs r t hrun => ?_
    exact adopted_reported env hs
      (fun r h hcomplete => readLogin_user (liftJson_eq_ok.mp h) hcomplete) hrun
  · exact Returns.ite (fun _ => login_reported env u p) fun _ => Returns.raise _

/-- A result that is read and written down at once. -/
theorem written_reported {resp : HttpResponse} {x : Except Exc LoginResult} {s t : Impl}
    {result : LoginResult} {g : LoginResult → Impl → Impl} (hg : ∀ r s, (g r s).sent = s.sent)
    (hs : Answered env resp s)
    (hx : ∀ r, x = .ok r → Names (env.parse resp.body) r.user)
    (h : (Prog.lift x >>= fun r => Prog.modify (g r) >>= fun _ => pure r) s = (.ok result, t)) :
    Reported env result t := by
  obtain ⟨r, u, hread, hwrite⟩ := bind_eq_ok.mp h
  cases hread
  cases hwrite
  exact fun _ => ⟨resp, hs.congr env (hg _ _), hx _ rfl⟩

theorem verifyMfa_reported (c t : Str) : Returns (verifyMfa env c t) (Reported env) := by
  refine Returns.seq fun _ => Returns.seq fun _ => Returns.seq fun _ => ?_
  refine Returns.bind (execute_answered env _ _ _) fun resp s hs r t hrun => ?_
  refine written_reported env (fun r s => ?_) hs (fun r h => ?_) hrun
  · rw [adoptOrg_sent, adoptUser_sent]
  · cases hparsed : env.parse resp.body with
    | none =>
        rw [hparsed] at h
        cases h
        intro j hj
        cases hj
    | some j =>
        rw [hparsed] at h
        exact readSession_user (liftJson_eq_ok.mp h)

theorem mfaSetupConfirm_reported (a b : Str) :
    Returns (mfaSetupConfirm env a b) (Reported env) := by
  refine Returns.seq fun _ => Returns.seq fun _ => Returns.seq fun _ => ?_
  refine Returns.bind (post_answered env _ _) fun resp s hs r t hrun => ?_
  exact written_reported env (fun r s => adoptUser_sent s _) hs
    (fun r h => readSetup_user env h) hrun

theorem webauthnSetupRegisterFinish_reported (a b c d : Str) :
    Returns (webauthnSetupRegisterFinish env a b c d) (Reported env) := by
  refine Returns.seq fun _ => Returns.ite (fun _ => Returns.raise _) fun _ => ?_
  refine Returns.seq fun _ => Returns.seq fun _ => Returns.seq fun s => ?_
  refine Returns.bind (sendRaw_answered env _) fun resp s hs r t hrun => ?_
  obtain ⟨kept, u, hkept, hrest⟩ := bind_eq_ok.mp hrun
  obtain ⟨rfl, rfl⟩ := orRaise_run env hkept
  exact written_reported env (fun r s => adoptUser_sent s _) hs
    (fun r h => readSetup_user env h) hrest

/-- Whatever operation returned a login result read it off the last answer. -/
theorem Op.perform_reported {op : Op} {s t : Impl} {result : LoginResult}
    (hrun : op.perform env s = (.ok (.login result), t)) : Reported env result t := by
  cases op with
  | login u p =>
      obtain ⟨r, heq, hm⟩ := replying_eq_ok hrun
      cases heq
      exact (login_reported env u p).elim hm
  | loginOpaque u p =>
      obtain ⟨r, heq, hm⟩ := replying_eq_ok hrun
      cases heq
      exact (loginOpaque_reported env u p).elim hm
  | verifyMfa c k =>
      obtain ⟨r, heq, hm⟩ := replying_eq_ok hrun
      cases heq
      exact (verifyMfa_reported env c k).elim hm
  | mfaSetupConfirm a b =>
      obtain ⟨r, heq, hm⟩ := replying_eq_ok hrun
      cases heq
      exact (mfaSetupConfirm_reported env a b).elim hm
  | webauthnSetupRegisterFinish a b c d =>
      obtain ⟨r, heq, hm⟩ := replying_eq_ok hrun
      cases heq
      exact (webauthnSetupRegisterFinish_reported env a b c d).elim hm
  | _ =>
      obtain ⟨r, heq, -⟩ := replying_eq_ok hrun
      cases heq

end

/-! ## What each action sends -/

section

variable (env : Env) (exchange : RegistrationExchange)

theorem actingTenantId_steady : Steady Impl.actingTenantId where
  sent _ _ := rfl
  csrf _ _ := rfl
  memo _ _ := rfl
  refreshCount _ _ := rfl
  ticks _ _ := rfl
  user _ _ := rfl
  org _ _ := rfl
  passkey _ := rfl
  federation _ := rfl
  device _ _ := rfl
  signOut _ := rfl

/-- A request says on which tenant it acts. -/
def ActsOn (acting : Option Str) (req : HttpRequest) : Prop :=
  req.headers.find? "X-Axiam-Tenant" = acting

theorem actsOn_builds : Builds env Impl.actingTenantId ActsOn where
  untouched := actingTenantId_steady.toUntouched
  built := buildRequest_acting env
  replayable := buildRequest_acting env

theorem deviceRequest_actsOn (s : Impl) : ActsOn s.actingTenantId (deviceRequest env s) := by
  unfold ActsOn deviceRequest
  simp only [List.append_assoc]
  show HeaderMap.find? (header "Accept" (some (str "application/json")) ++ _) _ = _
  rw [find?_header_ne _ _ (by decide)]
  apply find?_header
  rfl

/-- A ceremony's request, whatever it makes of the cookies. -/
theorem startCeremony_actsOn (path body : Str) (noStoredCookies : Bool) :
    Asks Impl.actingTenantId ActsOn (startCeremony env path body noStoredCookies) := by
  have hf := actingTenantId_steady.toUntouched
  refine ⟨sends_built env hf (fun s => buildRequest_acting env s "POST" path body) fun resp => ?_,
    startCeremony_keeps env hf path body noStoredCookies⟩
  exact Keeps.bind (orRaise_sent env resp) fun _ => Keeps.lift _

theorem webauthnSetupRegisterFinish_actsOn (a b c d : Str) :
    Sends Impl.actingTenantId ActsOn (webauthnSetupRegisterFinish env a b c d) := by
  refine .after ensureOpen_asks fun _ => .ite (.silent (Keeps.raise _)) ?_
  refine .after (clearMemo_asks env (actsOn_builds env)) fun _ => .after (.lift _) fun body => ?_
  refine sends_built env actingTenantId_steady.toUntouched
    (fun s => buildRequest_acting env s "POST" "/api/v1/auth/webauthn/setup/register/finish" body)
    fun resp => ?_
  exact Keeps.bind (orRaise_sent env resp) fun _ => Keeps.bind (Keeps.lift _) fun result =>
    adopted_sent (g := fun s => s.adoptUser result.user) (fun s => adoptUser_sent s _) result

theorem authenticateDevice_actsOn :
    Sends Impl.actingTenantId ActsOn (authenticateDevice env) := by
  refine .after ensureOpen_asks fun _ => .ite (.silent (Keeps.raise _)) ?_
  refine .after (clearMemo_asks env (actsOn_builds env)) fun _ => ?_
  refine sends_built env actingTenantId_steady.toUntouched (deviceRequest_actsOn env) fun resp => ?_
  exact Keeps.bind (orRaise_sent env resp) fun _ => Keeps.bind (Keeps.lift _) fun result =>
    adopted_sent (g := fun s => s.adoptDevice result.accessToken) (fun _ => rfl) result

/-- Every request of an action but `exchange` acts on the tenant the client had. -/
theorem Action.perform_actsOn {a : Action} (ha : ∀ req, a ≠ .op (.exchange req)) :
    Sends Impl.actingTenantId ActsOn (a.perform env exchange) := by
  have hbuilds := actsOn_builds env
  have hsilently {α : Type} {m : Prog Impl Exc α} (hm : Sends Impl.actingTenantId ActsOn m) :
      Sends Impl.actingTenantId ActsOn (silently m) := .last hm fun _ => Keeps.ret _
  cases halters : a.alters with
  | false => exact a.perform_sends env hbuilds exchange halters
  | true =>
      cases a with
      | webauthnRegisterStart =>
          exact hsilently (Asks.bind ensureOpen_asks fun _ => .bind (requireSession_asks _) fun _ =>
            startCeremony_actsOn env _ _ _).sends
      | webauthnAuthenticateStart c =>
          exact hsilently (Asks.bind ensureOpen_asks fun _ => .ite (.raise _)
            (.bind (.lift _) fun _ => startCeremony_actsOn env _ _ _)).sends
      | webauthnDiscoverableStart w =>
          exact hsilently (Asks.bind ensureOpen_asks fun _ => .bind (.lift _) fun _ =>
            .bind (.lift _) fun _ => startCeremony_actsOn env _ _ _).sends
      | webauthnSetupRegisterStart t =>
          exact hsilently (Asks.bind ensureOpen_asks fun _ => .bind (.lift _) fun _ =>
            startCeremony_actsOn env _ _ _).sends
      | op o =>
          cases o with
          | webauthnSetupRegisterFinish a b c d =>
              exact hsilently (.last (webauthnSetupRegisterFinish_actsOn env a b c d)
                fun _ => Keeps.ret _)
          | authenticateDevice =>
              exact hsilently (.last (authenticateDevice_actsOn env) fun _ => Keeps.ret _)
          | exchange req => exact absurd rfl (ha req)
          | _ => cases halters
      | _ => cases halters

/-! ## One action -/

theorem silently_state {α : Type} (m : Prog Impl Exc α) (s : Impl) : (silently m s).2 = (m s).2 :=
  bind_run_state s fun _ _ => rfl

/-- The tenant acted on, after one action of an open client. -/
theorem acts_acting {s u : Impl} {a : Action} (hopen : s.closed = false)
    (hacts : Acts env exchange s a u) :
    u.actingTenantId = actingStep s.actingTenantId ⟨s, a, u⟩ := by
  have hpost : u = (a.perform env exchange s).2 := hacts.symm
  rw [hpost]
  have hbeside := fun ha =>
    Action.perform_keeps env exchange actingTenantId_steady.toUntouched (a := a) ha s
  cases a with
  | op o =>
      rw [show (Action.perform env exchange (.op o) s).2 = (o.perform env s).2 from
        silently_state _ s]
      have hkeeps := fun hclose hset hclear =>
        Op.perform_keeps env actingTenantId_steady o hclose hset hclear s
      cases o with
      | actingTenant tenantId =>
          rw [show (Op.perform env (.actingTenant tenantId) s).2 = (actingTenant tenantId s).2 from
            replying_state _ _ s]
          show _ = if Accepts s tenantId then some tenantId else s.actingTenantId
          by_cases haccepts : Accepts s tenantId
          · rw [accepted_state haccepts, if_pos haccepts]
          · rw [refused_state haccepts, if_neg haccepts]
      | clearActingTenant =>
          rw [show (Op.perform env .clearActingTenant s).2 = (clearActingTenant s).2 from
            replying_state _ _ s]
          unfold clearActingTenant
          rw [bind_run_ok (ensureOpen_run_open hopen)]
          rfl
      | close =>
          rw [show (Op.perform env .close s).2 = (close s).2 from replying_state _ _ s]
          unfold close
          rw [bind_run, read_run]
          simp only
          split <;> rfl
      | _ => exact hkeeps nofun (fun _ => nofun) nofun
  | _ => exact hbeside fun _ => nofun

/-- A logout does not end in an exception of its own, or finds no gate to clear. -/
def Cleared (t : Transition Impl Action) : Prop := t.label = .op .logout →
  t.pre.loginUserInfo = none ∨ ¬EscapesLogout env (logoutAnswer env t.pre)

/-- The gate after one action of an open client is what it owes exactly when that holds. -/
theorem acts_gate_iff {s u : Impl} {a : Action} (hopen : s.closed = false)
    (hacts : Acts env exchange s a u) :
    u.loginUserInfo = gateStep env s.loginUserInfo ⟨s, a, u⟩ ↔ Cleared env ⟨s, a, u⟩ := by
  have hpost : u = (a.perform env exchange s).2 := hacts.symm
  have hbeside := fun ha =>
    Action.perform_keeps env exchange loginUserInfo_untouched (a := a) ha s
  cases a with
  | op o =>
      have hstate : u = (o.perform env s).2 := hpost.trans (silently_state _ s)
      by_cases hop : o = .logout
      · subst hop
        have hlogout : u = (logout env s).2 := hstate.trans (replying_state _ _ s)
        show u.loginUserInfo = none ↔ _
        by_cases hescapes : EscapesLogout env (logoutAnswer env s)
        · -- the exception leaves what there was
          rw [hlogout, logout_escapes env loginUserInfo_untouched hopen hescapes]
          exact ⟨fun h _ => .inl h, fun h => (h rfl).resolve_right (not_not_intro hescapes)⟩
        · obtain ⟨t, ht⟩ := logout_signs_out env hopen hescapes
          rw [hlogout, ht]
          exact ⟨fun _ _ => .inr hescapes, fun _ => rfl⟩
      · refine iff_of_true ?_ fun h => absurd (Action.op.inj h) hop
        have hgate := Op.perform_gate env hop s
        rw [hstate]
        unfold gateStep
        cases o with
        | logout => exact absurd rfl hop
        | _ =>
            simp only
            rcases hrun : Op.perform env _ s with ⟨e | reply, t⟩ <;> rw [hrun] at hgate <;>
              exact hgate
  | _ =>
      refine iff_of_true ?_ nofun
      rw [hpost]
      exact hbeside fun _ => nofun

end

/-! ## Runs -/

section

variable (env : Env) (exchange : RegistrationExchange)

/-- One action of an open client. -/
def ActsOpen (s : Impl) (a : Action) (t : Impl) : Prop := s.closed = false ∧ Acts env exchange s a t

/-- A state is as demanded as soon as its gate is. -/
theorem gated_iff {built : Option Str} {past : List (Transition Impl Action)} {s : Impl}
    (hacting : s.actingTenantId = actingAfter built past) :
    Gated env built past s ↔ s.loginUserInfo = gateAfter env past := by
  refine ⟨fun h => h.gate, fun hgate => ⟨hgate, fun hopen tenantId ht => ?_, fun tenantId h => ?_,
    fun method path body => ?_⟩⟩
  · rw [← hgate]
    exact accepts_iff hopen ht
  · exact refused_state h
  · rw [← hacting]
    exact buildRequest_acting env s method path body

theorem acts_reads {s u : Impl} {a : Action} (hacts : Acts env exchange s a u) :
    Reads env ⟨s, a, u⟩ := by
  intro o result hlabel houtcome hcomplete
  have hlabel : a = .op o := hlabel
  have hpost : u = (o.perform env s).2 := by
    rw [← hacts, hlabel]
    exact silently_state _ s
  exact o.perform_reported env (Prod.ext houtcome hpost.symm) hcomplete

/-- Whatever came before, one action sends and reads as it should. -/
theorem acts_announces {s u : Impl} {a : Action} (hacts : Acts env exchange s a u) :
    Announces env s.actingTenantId ⟨s, a, u⟩ where
  requests hown := by
    obtain ⟨new, hsent, hnew⟩ := a.perform_actsOn env exchange hown s
    have hpost : u = (a.perform env exchange s).2 := hacts.symm
    exact ⟨new, by rw [hpost]; exact hsent, hnew⟩
  reads := acts_reads env exchange hacts

/-- Over every run of an open client: its gate, what it accepts and the header of its requests
are what the actions so far make of them exactly when every logout clears the gate. -/
theorem acting_gate_iff (built : Option Str) (memoTtl : Int)
    {trace : List (Transition Impl Action)} {last : Impl}
    (hrun : Run (ActsOpen env exchange) (Impl.built built memoTtl) trace last) :
    ((∀ earlier t later, trace = earlier ++ t :: later →
        Gated env built earlier t.pre ∧ Announces env (actingAfter built earlier) t) ∧
      Gated env built trace last) ↔ ∀ t ∈ trace, Cleared env t := by
  -- the tenant is the fold over what was accepted and cleared, whatever the gate
  have hacting := (hrun.tracks_iff (f := Impl.actingTenantId) (g := actingStep) (P := fun _ => True)
    fun s a t h => iff_true_intro (acts_acting env exchange h.1 h.2)).mpr fun _ _ => trivial
  rw [← hrun.tracks_iff fun s a t h => acts_gate_iff env exchange h.1 h.2]
  refine and_congr (forall_congr' fun earlier => forall_congr' fun t => forall_congr' fun later =>
    forall_congr' fun hsplit => ?_) (gated_iff env hacting.2)
  have hpre : t.pre.actingTenantId = actingAfter built earlier := hacting.1 earlier t later hsplit
  have ht := hrun.steps t (by rw [hsplit]; exact List.mem_append_right _ List.mem_cons_self)
  have hannounces := acts_announces env exchange ht.2
  rw [hpre] at hannounces
  rw [and_iff_left hannounces]
  exact gated_iff env hpre

end

/-! ## A principal who does not leave -/

/-- A server that signs a user in, and denies everything else in a message that is no text. -/
def staleEnv : Env where
  baseUrl := "https://iam.example"
  tenantHeader := "acme"
  parse := tableParser [(str "user", .object [("user", .object [])]),
    (str "denied", .object [("message", .integer 0)])]
  dump := fun _ => "\x7b\x7d"
  transport := fun sent _ =>
    .ok (if sent = [] then { status := 200, body := "user" } else { status := 403, body := "denied" })
  clock := fun n => n
  opaqueStart := fun _ _ => .error (.foreign "no library")
  opaqueFinish := fun _ _ _ _ => .error (.foreign "no library")

/-- The user signs in, and out. -/
def staleTrace : List (Transition Impl Action) :=
  Run.follow (fun s a => (Action.perform staleEnv noExchange a s).2) (Impl.built none 0)
    [.op (.login "u" "p"), .op .logout]

def staleLast : Impl :=
  [Action.op (.login "u" "p"), .op .logout].foldl
    (fun s a => (Action.perform staleEnv noExchange a s).2) (Impl.built none 0)

theorem staleTrace_run :
    Run (ActsOpen staleEnv noExchange) (Impl.built none 0) staleTrace staleLast := by
  have hopen : (Action.perform staleEnv noExchange (.op (.login "u" "p")) (Impl.built none 0)).2.closed =
      false := by decide
  exact .cons ⟨rfl, rfl⟩ (.cons ⟨hopen, rfl⟩ (.nil _))

theorem staleTrace_gate_iff :
    ((∀ earlier t later, staleTrace = earlier ++ t :: later →
        Gated staleEnv none earlier t.pre ∧ Announces staleEnv (actingAfter none earlier) t) ∧
      Gated staleEnv none staleTrace staleLast) ↔ ∀ t ∈ staleTrace, Cleared staleEnv t :=
  acting_gate_iff staleEnv noExchange none 0 staleTrace_run

/-- The user is gone, and gates the next principal's choice of a tenant. -/
theorem logout_keeps_gate :
    ¬∀ (env : Env) (exchange : RegistrationExchange) (built : Option Str) (memoTtl : Int)
      (trace : List (Transition Impl Action)) (last : Impl),
      Run (ActsOpen env exchange) (Impl.built built memoTtl) trace last →
        (∀ earlier t later, trace = earlier ++ t :: later →
          Gated env built earlier t.pre ∧ Announces env (actingAfter built earlier) t) ∧
        Gated env built trace last := by
  intro hclaim
  have hgate := (hclaim staleEnv noExchange none 0 staleTrace staleLast staleTrace_run).2.gate
  have hkept : staleLast.loginUserInfo.isSome = true ∧
      (gateAfter staleEnv staleTrace).isSome = false := by decide
  rw [hgate, hkept.2] at hkept
  cases hkept.1

end Axiam.Client
