import Axiam.Client.ActingTenant

/-!
# Whose tenant and organization a client holds

A completed login writes four fields that describe its principal, and only one of them is reset
when the answer is silent about it: `login_user_info`.  The other three are written when there is
something to write and else left as the principal before left them.  So they describe the principal
of the last login exactly as long as no login meets a field that it does not write.
-/

namespace Axiam.Client

open Axiam.Lib Axiam.Lib.Prog

/-- The fields a login does not reset. -/
structure Identity where
  tenant : Option Str
  principal : Option Str
  org : Option Str

def Impl.identity (s : Impl) : Identity := ⟨s.resolvedTenantId, s.principalTenantId, s.resolvedOrgId⟩

/-- The principal's own tenant, when a user object names one. -/
def UserInfo.ownTenant (u : UserInfo) : Option Str :=
  if u.principalTenantId = [] then none else some u.principalTenantId

/-- What a login that reported this makes of the fields. -/
def Identity.adopt (i : Identity) (user : Option UserInfo) (org : Option Str) : Identity where
  tenant := (user.map UserInfo.tenantId).or i.tenant
  principal := (user.bind UserInfo.ownTenant).or i.principal
  org := org.or i.org

theorem adoptOrg_identity (s : Impl) (user : Option UserInfo) (org : Option Str) :
    ((s.adoptUser user).adoptOrg org).identity = s.identity.adopt user org := rfl

theorem identity_untouched : Untouched Impl.identity :=
  ⟨fun _ _ => rfl, fun _ _ => rfl, fun _ _ => rfl, fun _ _ => rfl, fun _ _ => rfl⟩

/-! ## What is known of the last principal -/

/-- What the last completed login reported. -/
structure Report where
  user : Option UserInfo := none
  org : Option Str := none

/-- The tenant, and the principal's own, that a report names. -/
def Report.tenant (r : Report) : Option Str := r.user.map UserInfo.tenantId

def Report.principal (r : Report) : Option Str := r.user.bind UserInfo.ownTenant

/-- The logins that read the organization off the access-token cookie. -/
def Op.readsCookies : Op → Bool
  | .login _ _ | .loginOpaque _ _ | .verifyMfa _ _ => true
  | _ => false

section

variable (env : Env) (exchange : RegistrationExchange)

/-- The organization named by the cookies of the last answer. -/
def lastOrg (s : Impl) : Option Str :=
  match s.sent.getLast? with
  | none => none
  | some req =>
      match env.transport s.sent.dropLast req with
      | .ok resp => orgIdFromCookies env.parse resp.setCookies
      | .error _ => none

/-- The report after one more action: only a completed login brings one. -/
def reportStep (before : Report) (t : Transition Impl Action) : Report :=
  match t.label with
  | .op o =>
      match (o.perform env t.pre).1 with
      | .ok reply => if reply.completes then ⟨reply.user, lastOrg env t.post⟩ else before
      | .error _ => before
  | _ => before

def reportAfter (past : List (Transition Impl Action)) : Report := past.foldl (reportStep env) {}

/-- What the client holds describes the principal of the last login, or is not there. -/
structure Coherent (r : Report) (s : Impl) : Prop where
  user : ∀ u, s.loginUserInfo = some u → r.user = some u
  tenant : ∀ v, s.resolvedTenantId = some v → r.tenant = some v
  principal : ∀ v, s.principalTenantId = some v → r.principal = some v
  org : ∀ v, s.resolvedOrgId = some v → r.org = some v
  /-- A refresh posts the ids of that principal, or those the client was built with. -/
  refresh : ∃ org tenant,
    refreshBody env s = .object [("org_id", .string org), ("tenant_id", .string tenant)] ∧
      (r.org = some org ∨ org = env.orgId.getD []) ∧
      (r.tenant = some tenant ∨ tenant = env.tenantId.getD [])
  /-- A record is sealed against the tenant of that principal, or not at all. -/
  seals : ∀ password,
    (∃ tenant, r.principal = some tenant ∧ opaqueEnrollmentForSelf env exchange password s =
      enroll env exchange password (some tenant) s) ∨
    ∃ e, opaqueEnrollmentForSelf env exchange password s = (.error e, s)

/-- The login writes every field, or finds it as it would be. -/
structure Renewed (o : Op) (user : Option UserInfo) (org : Option Str) (i : Identity) : Prop where
  tenant : user = none → i.tenant = none
  principal : user.bind UserInfo.ownTenant = none → i.principal = none
  cookies : o.readsCookies = true → org = none → i.org = none
  org : o.readsCookies = false → ∀ v, i.org = some v → org = some v

/-- An action that completes a session leaves nothing of the principal before. -/
def Renews (t : Transition Impl Action) : Prop := ∀ o reply, t.label = .op o →
  (o.perform env t.pre).1 = .ok reply → reply.completes = true →
    Renewed o reply.user (lastOrg env t.post) t.pre.identity

end

/-! ## What each operation writes -/

section

variable (env : Env)

theorem lastOrg_of_answered {resp : HttpResponse} {s : Impl} (h : Answered env resp s) :
    lastOrg env s = orgIdFromCookies env.parse resp.setCookies := by
  obtain ⟨sent, req, hsent, hanswer⟩ := h
  unfold lastOrg
  rw [hsent]
  simp only [List.getLast?_concat, List.dropLast_concat]
  rw [hanswer]

/-- A login result adopted with its cookies: a challenge changes nothing. -/
def Adopts (before : Identity) (result : LoginResult) (s : Impl) : Prop := s.identity =
  if result.complete then before.adopt result.user (lastOrg env s) else before

section

variable (x : Identity)

/-- The answer to a request, and the fields as they were. -/
theorem sendBuilt_identity (method path body : Str) :
    Triple (fun s => s.identity = x) (sendBuilt env method path body)
      (fun resp s => s.identity = x ∧ Answered env resp s) fun _ s => s.identity = x := by
  intro s hs
  have hkeep := (sendBuilt_keeps env identity_untouched method path body).holds x s hs
  have hanswer := sendBuilt_answered env method path body s trivial
  rcases hrun : sendBuilt env method path body s with ⟨e | resp, t⟩ <;>
    rw [hrun] at hkeep hanswer
  · exact hkeep
  · exact ⟨hkeep, hanswer⟩

theorem execute_identity (method path body : Str) :
    Triple (fun s => s.identity = x) (execute env method path body false)
      (fun resp s => s.identity = x ∧ Answered env resp s) fun _ s => s.identity = x := by
  intro s hs
  have hkeep := (execute_keeps env identity_untouched method path body false).holds x s hs
  have hanswer := execute_answered env method path body s trivial
  rcases hrun : execute env method path body false s with ⟨e | resp, t⟩ <;>
    rw [hrun] at hkeep hanswer
  · exact hkeep
  · exact ⟨hkeep, hanswer⟩

/-- The write that ends a login. -/
theorem adopted_identity (resp : HttpResponse) (result : LoginResult)
    (hcomplete : result.complete = true) :
    Triple (fun s => s.identity = x ∧ Answered env resp s)
      (Prog.modify (fun s => (s.adoptUser result.user).adoptOrg
        (orgIdFromCookies env.parse resp.setCookies)) >>= fun _ => pure result :
          Prog Impl Exc LoginResult)
      (Adopts env x) fun _ s => s.identity = x := by
  intro s hs
  have hanswered : Answered env resp
      ((s.adoptUser result.user).adoptOrg (orgIdFromCookies env.parse resp.setCookies)) :=
    hs.2.congr env (by rw [adoptOrg_sent, adoptUser_sent])
  show Impl.identity _ = _
  rw [if_pos hcomplete, adoptOrg_identity, hs.1]
  exact congrArg (x.adopt result.user) (lastOrg_of_answered env hanswered).symm

/-- The end of a login. -/
theorem adoptLogin_identity (resp : HttpResponse) (y : Except Exc LoginResult) :
    Triple (fun s => s.identity = x ∧ Answered env resp s)
      (Prog.lift y >>= fun result => adoptLogin env resp result) (Adopts env x)
      fun _ s => s.identity = x := by
  refine Triple.bind (Q := fun _ s => s.identity = x ∧ Answered env resp s)
    (Triple.lift (fun _ _ _ hs => hs) fun _ _ _ hs => hs.1) fun result => ?_
  refine Triple.ite (fun hcomplete => ?_) fun hchallenge => ?_
  · exact adopted_identity env x resp result hcomplete
  · refine Triple.ret fun s hs => ?_
    unfold Adopts
    rw [if_neg hchallenge]
    exact hs.1

theorem login_identity (u p : Str) : Triple (fun s => s.identity = x) (login env u p)
    (Adopts env x) fun _ s => s.identity = x := by
  refine Triple.bind (ensureOpen_keeps.holds x) fun _ => ?_
  refine Triple.bind ((clearMemo_keeps identity_untouched).holds x) fun _ => ?_
  refine Triple.bind ((Keeps.lift _).holds x) fun body => ?_
  exact Triple.bind (sendBuilt_identity env x _ _ _) fun resp => adoptLogin_identity env x resp _

theorem loginOpaque_identity (u p : Str) : Triple (fun s => s.identity = x) (loginOpaque env u p)
    (Adopts env x) fun _ s => s.identity = x := by
  refine Triple.bind (ensureOpen_keeps.holds x) fun _ => ?_
  refine Triple.bind ((clearMemo_keeps identity_untouched).holds x) fun _ => ?_
  refine Triple.bind (Keeps.read.holds x) fun _ => Triple.bind ((Keeps.lift _).holds x) fun _ => ?_
  refine Triple.bind ((Keeps.lift _).holds x) fun body => ?_
  refine Triple.bind ((sendBuilt_keeps env identity_untouched _ _ _).holds x) fun _ => ?_
  refine Triple.bind ((Keeps.lift _).holds x) fun _ => ?_
  refine Triple.ite (fun _ => Triple.raise fun _ hs => hs) fun _ => ?_
  refine Triple.bind (Keeps.read.holds x) fun _ => ?_
  -- the exchange is finished, or the tenant takes the password instead
  split
  · refine Triple.bind ((Keeps.lift _).holds x) fun body => ?_
    exact Triple.bind (execute_identity env x _ _ _) fun resp => adoptLogin_identity env x resp _
  · exact Triple.ite (fun _ => login_identity env x u p) fun _ => Triple.raise fun _ hs => hs

theorem verifyMfa_identity (c t : Str) : Triple (fun s => s.identity = x) (verifyMfa env c t)
    (Adopts env x) fun _ s => s.identity = x := by
  refine Triple.bind (ensureOpen_keeps.holds x) fun _ => ?_
  refine Triple.bind ((clearMemo_keeps identity_untouched).holds x) fun _ => ?_
  refine Triple.bind ((Keeps.lift _).holds x) fun body => ?_
  refine Triple.bind (execute_identity env x _ _ _) fun resp => ?_
  refine Triple.bind
    (Q := fun result s => result.complete = true ∧ s.identity = x ∧ Answered env resp s)
    (Triple.lift (fun result s hread hs => ⟨?_, hs⟩) fun _ _ _ hs => hs.1) fun result => ?_
  · split at hread
    · exact readSession_complete (liftJson_eq_ok.mp hread)
    · cases hread
      rfl
  · refine fun s hs => ?_
    exact adopted_identity env x resp result hs.1 s hs.2

end

/-! ## What each action makes of the fields -/

theorem mfaSetupConfirm_identity (s t : Str) : Commits Impl.identity (mfaSetupConfirm env s t)
    fun result before after => result.complete = true ∧ after = before.adopt result.user none := by
  refine .after ensureOpen_keeps fun _ => .after (clearMemo_keeps identity_untouched) fun _ => ?_
  refine .after (Keeps.lift _) fun _ => .after (post_keeps env identity_untouched _ _) fun _ => ?_
  exact .lifted fun result hread => .write fun _ => ⟨readSetup_complete env hread, rfl⟩

theorem webauthnSetupRegisterFinish_identity (a b c d : Str) :
    Commits Impl.identity (webauthnSetupRegisterFinish env a b c d) fun result before after =>
      result.complete = true ∧ after = before.adopt result.user none := by
  refine .after ensureOpen_keeps fun _ => .ite (fun _ => .raise _) fun _ => ?_
  refine .after (clearMemo_keeps identity_untouched) fun _ => .after (Keeps.lift _) fun _ => ?_
  refine .after Keeps.read fun _ => .after (sendRaw_keeps env identity_untouched _) fun _ => ?_
  refine .after (orRaise_keeps env _) fun _ => .lifted fun result hread => .write fun _ => ?_
  exact ⟨readSetup_complete env hread, rfl⟩

/-- A passkey, a federated login and a device bring no user object, and write none of the three. -/
theorem finishLogin_identity (path s r operation : Str) :
    Keeps Impl.identity (finishLogin env path s r operation) := by
  refine Keeps.bind ensureOpen_keeps fun _ => Keeps.bind (Keeps.lift _) fun _ => ?_
  refine Keeps.bind (clearMemo_keeps identity_untouched) fun _ => ?_
  refine Keeps.bind (post_keeps env identity_untouched _ _) fun _ => ?_
  exact Keeps.bind (Keeps.lift _) fun _ => Keeps.bind (Keeps.modify fun _ => rfl) fun _ => Keeps.ret _

theorem completeFederation_identity (path context : Str) (request : Json) :
    Keeps Impl.identity (completeFederation env path context request) := by
  refine Keeps.bind ensureOpen_keeps fun _ => ?_
  refine Keeps.bind (clearMemo_keeps identity_untouched) fun _ => Keeps.bind (Keeps.lift _) fun _ => ?_
  refine Keeps.bind (execute_keeps env identity_untouched _ _ _ _) fun _ => ?_
  exact Keeps.bind (Keeps.lift _) fun _ => Keeps.bind (Keeps.modify fun _ => rfl) fun _ => Keeps.ret _

theorem authenticateDevice_identity : Keeps Impl.identity (authenticateDevice env) := by
  refine Keeps.bind ensureOpen_keeps fun _ => Keeps.ite (Keeps.raise _) ?_
  refine Keeps.bind (clearMemo_keeps identity_untouched) fun _ => Keeps.bind Keeps.read fun _ => ?_
  refine Keeps.bind (sendRaw_keeps env identity_untouched _) fun _ => ?_
  refine Keeps.bind (orRaise_keeps env _) fun _ => Keeps.bind (Keeps.lift _) fun _ => ?_
  exact Keeps.bind (Keeps.modify fun _ => rfl) fun _ => Keeps.ret _

theorem logout_identity : Keeps Impl.identity (logout env) := by
  refine Keeps.bind ensureOpen_keeps fun _ => Keeps.bind (clearMemo_keeps identity_untouched) fun _ => ?_
  exact Keeps.bind (requestLogout_keeps env identity_untouched) fun _ => Keeps.modify fun _ => rfl

/-- The organization an operation reads off its answer. -/
def Op.orgRead (o : Op) (s : Impl) : Option Str := if o.readsCookies then lastOrg env s else none

/-- What an operation makes of the fields: a reply that completes no session leaves them. -/
def Op.Writes (o : Op) (before : Identity) (reply : Reply) (s : Impl) : Prop := s.identity =
  if reply.completes then before.adopt reply.user (o.orgRead env s) else before

theorem Op.perform_identity (op : Op) (x : Identity) : Triple (fun s => s.identity = x)
    (op.perform env) (op.Writes env x) fun _ s => s.identity = x := by
  -- the operations that write nothing, whether they complete a session or not
  have hkeeps {α : Type} {wrap : α → Reply} {m : Prog Impl Exc α} {o : Op}
      (hm : Keeps Impl.identity m) (hread : o.readsCookies = false)
      (huser : ∀ a, (wrap a).user = none) : Triple (fun s => s.identity = x) (replying wrap m)
        (o.Writes env x) fun _ s => s.identity = x := by
    refine Triple.bind (hm.holds x) fun a => Triple.ret fun s hs => ?_
    unfold Op.Writes Op.orgRead
    rw [hs, huser, hread, if_neg Bool.false_ne_true]
    exact (ite_self x).symm
  have hadopts {m : Prog Impl Exc LoginResult} {o : Op} (hread : o.readsCookies = true)
      (hm : Triple (fun s => s.identity = x) m (Adopts env x) fun _ s => s.identity = x) :
      Triple (fun s => s.identity = x) (replying .login m) (o.Writes env x)
        fun _ s => s.identity = x := by
    refine Triple.bind hm fun result => Triple.ret fun s hs => ?_
    unfold Op.Writes Op.orgRead
    rw [if_pos hread]
    exact hs
  have hsetup {m : Prog Impl Exc LoginResult} {o : Op} (hread : o.readsCookies = false)
      (hm : Commits Impl.identity m fun result before after =>
        result.complete = true ∧ after = before.adopt result.user none) :
      Triple (fun s => s.identity = x) (replying .login m) (o.Writes env x)
        fun _ s => s.identity = x := by
    refine Triple.bind (hm.holds x) fun result => Triple.ret fun s hs => ?_
    unfold Op.Writes Op.orgRead
    rw [hread, if_neg Bool.false_ne_true, show (Reply.login result).completes = true from hs.1]
    exact hs.2
  have hf := identity_untouched
  cases op with
  | login u p => exact hadopts rfl (login_identity env x u p)
  | loginOpaque u p => exact hadopts rfl (loginOpaque_identity env x u p)
  | verifyMfa c t => exact hadopts rfl (verifyMfa_identity env x c t)
  | mfaSetupConfirm s t => exact hsetup rfl (mfaSetupConfirm_identity env s t)
  | webauthnSetupRegisterFinish a b c d =>
      exact hsetup rfl (webauthnSetupRegisterFinish_identity env a b c d)
  | webauthnAuthenticateFinish s r | webauthnDiscoverableFinish s r =>
      exact hkeeps (finishLogin_identity env _ s r _) rfl fun _ => rfl
  | ssoComplete _ _ | ssoCompleteOauth2 _ _ | ssoCompleteHandoff _ =>
      exact hkeeps (completeFederation_identity env _ _ _) rfl fun _ => rfl
  | authenticateDevice => exact hkeeps (authenticateDevice_identity env) rfl fun _ => rfl
  | logout => exact hkeeps (logout_identity env) rfl fun _ => rfl
  | refresh =>
      exact hkeeps (Keeps.bind ensureOpen_keeps fun _ => doSingleFlightRefresh_keeps env hf) rfl
        fun _ => rfl
  | close =>
      refine hkeeps (Keeps.bind Keeps.read fun _ => Keeps.ite (Keeps.ret _) ?_) rfl fun _ => rfl
      exact Keeps.modify fun _ => rfl
  | actingTenant t =>
      refine hkeeps (Keeps.bind ensureOpen_keeps fun _ => Keeps.ite (Keeps.raise _) ?_) rfl
        fun _ => rfl
      exact Keeps.bind Keeps.read fun _ => Keeps.bind (Keeps.lift _) fun _ => Keeps.modify fun _ => rfl
  | clearActingTenant =>
      exact hkeeps (Keeps.bind ensureOpen_keeps fun _ => Keeps.modify fun _ => rfl) rfl fun _ => rfl
  | checkAccess a r s u => exact hkeeps (checkAccess_keeps env hf a r s u) rfl fun _ => rfl
  | batchCheck cs => exact hkeeps (batchCheck_keeps env hf cs) rfl fun _ => rfl
  | manage o m t vs q b => exact hkeeps (Management.send_keeps env hf o m t vs q b) rfl fun _ => rfl
  | call m p b r =>
      exact hkeeps (Keeps.bind ensureOpen_keeps fun _ => execute_keeps env hf m p b r) rfl fun _ => rfl
  | exchange req =>
      exact hkeeps (Keeps.bind ensureOpen_keeps fun _ => sendRaw_keeps env hf req) rfl fun _ => rfl

end

/-! ## One action -/

section

variable (env : Env) (exchange : RegistrationExchange)

/-- The four fields describe the principal of the report, or are not there. -/
structure Held (r : Report) (s : Impl) : Prop where
  user : ∀ u, s.loginUserInfo = some u → r.user = some u
  tenant : ∀ v, s.resolvedTenantId = some v → r.tenant = some v
  principal : ∀ v, s.principalTenantId = some v → r.principal = some v
  org : ∀ v, s.resolvedOrgId = some v → r.org = some v

/-- A field that is there is the report's, one that is not comes from the configuration. -/
theorem getD_reported {field report : Option Str} (h : ∀ v, field = some v → report = some v)
    (configured : Str) :
    report = some (field.getD configured) ∨ field.getD configured = configured := by
  cases field with
  | none => exact .inr rfl
  | some v => exact .inl (h v rfl)

/-- What is posted and what is sealed follow from the fields. -/
theorem coherent_iff {r : Report} {s : Impl} : Coherent env exchange r s ↔ Held r s := by
  refine ⟨fun h => ⟨h.user, h.tenant, h.principal, h.org⟩, fun h => ?_⟩
  refine ⟨h.user, h.tenant, h.principal, h.org, ?_, fun password => ?_⟩
  · exact ⟨_, _, rfl, getD_reported h.org _, getD_reported h.tenant _⟩
  · unfold opaqueEnrollmentForSelf
    rw [bind_run, read_run]
    simp only
    cases hprincipal : s.principalTenantId with
    | none => exact .inr ⟨_, rfl⟩
    | some tenant => exact .inl ⟨tenant, h.principal tenant hprincipal, rfl⟩

/-- A field written over an old one is only what is written when there was no need of the old. -/
theorem or_written_iff {α : Type} (written old : Option α) :
    (∀ v, written.or old = some v → written = some v) ↔ (written = none → old = none) := by
  cases written with
  | none =>
      simp only [Option.none_or, forall_const]
      constructor
      · intro h
        cases old with
        | none => rfl
        | some v => exact absurd (h v rfl) nofun
      · intro h v hv
        rw [h] at hv
        cases hv
  | some w =>
      rw [Option.some_or]
      exact iff_of_true (fun _ h => h) nofun

/-- After a login that reported this, the fields are its principal's exactly when none of the
principal before is left. -/
theorem held_adopted_iff {o : Op} {user : Option UserInfo} {i : Identity} {s : Impl}
    (huser : s.loginUserInfo = user) (hwrites : s.identity = i.adopt user (o.orgRead env s)) :
    Held ⟨user, lastOrg env s⟩ s ↔ Renewed o user (lastOrg env s) i := by
  have htenant : s.resolvedTenantId = (user.map UserInfo.tenantId).or i.tenant :=
    congrArg Identity.tenant hwrites
  have hprincipal : s.principalTenantId = (user.bind UserInfo.ownTenant).or i.principal :=
    congrArg Identity.principal hwrites
  have horg : s.resolvedOrgId = (o.orgRead env s).or i.org := congrArg Identity.org hwrites
  have htenants := or_written_iff (user.map UserInfo.tenantId) i.tenant
  have hprincipals := or_written_iff (user.bind UserInfo.ownTenant) i.principal
  rw [Option.map_eq_none_iff, ← htenant] at htenants
  rw [← hprincipal] at hprincipals
  constructor
  · rintro ⟨-, htenant, hprincipal, hheld⟩
    refine ⟨htenants.mp htenant, hprincipals.mp hprincipal, fun hreads hnone => ?_,
      fun hreads v hv => ?_⟩
    · rw [horg, Op.orgRead, if_pos hreads] at hheld
      exact (or_written_iff _ _).mp hheld hnone
    · apply hheld v
      rw [horg, Op.orgRead, hreads, if_neg Bool.false_ne_true, Option.none_or]
      exact hv
  · intro h
    refine ⟨fun u hu => huser.symm.trans hu, htenants.mpr h.tenant, hprincipals.mpr h.principal, ?_⟩
    rw [horg]
    unfold Op.orgRead
    cases hreads : o.readsCookies with
    | true =>
        rw [if_pos rfl]
        exact (or_written_iff _ _).mpr (h.cookies hreads)
    | false =>
        rw [if_neg Bool.false_ne_true, Option.none_or]
        exact h.org hreads

/-- Fewer fields, and none of them another's. -/
theorem Held.mono {r : Report} {s t : Impl} (h : Held r s) (hidentity : t.identity = s.identity)
    (huser : t.loginUserInfo = s.loginUserInfo ∨ t.loginUserInfo = none) : Held r t := by
  have htenant : t.resolvedTenantId = s.resolvedTenantId := congrArg Identity.tenant hidentity
  have hprincipal : t.principalTenantId = s.principalTenantId :=
    congrArg Identity.principal hidentity
  have horg : t.resolvedOrgId = s.resolvedOrgId := congrArg Identity.org hidentity
  refine ⟨fun u hu => ?_, by rw [htenant]; exact h.tenant, by rw [hprincipal]; exact h.principal,
    by rw [horg]; exact h.org⟩
  rcases huser with huser | huser
  · exact h.user u (huser.symm.trans hu)
  · rw [huser] at hu
    cases hu

/-- A logout clears the login result, or leaves it. -/
theorem logout_user (s : Impl) : (logout env s).2.loginUserInfo = s.loginUserInfo ∨
    (logout env s).2.loginUserInfo = none := by
  by_cases hclosed : s.closed = true
  · refine .inl ?_
    unfold logout
    rw [bind_run_error (ensureOpen_run_closed hclosed)]
  · have hopen : s.closed = false := eq_false_of_ne_true hclosed
    by_cases hescapes : EscapesLogout env (logoutAnswer env s)
    · exact .inl (logout_escapes env loginUserInfo_untouched hopen hescapes)
    · obtain ⟨t, ht⟩ := logout_signs_out env hopen hescapes
      rw [ht]
      exact .inr rfl

/-- An operation that completes no session reports nothing, and leaves the fields. -/
theorem Op.perform_held {o : Op} {r : Report} {s : Impl} (hheld : Held r s)
    (hidle : ∀ reply, (o.perform env s).1 = .ok reply → reply.completes = false) :
    Held r (o.perform env s).2 := by
  have hidentity := o.perform_identity env s.identity s rfl
  have huser : (o.perform env s).2.loginUserInfo = s.loginUserInfo ∨
      (o.perform env s).2.loginUserInfo = none := by
    by_cases hop : o = .logout
    · subst hop
      rw [show (Op.perform env .logout s).2 = (Client.logout env s).2 from replying_state _ _ s]
      exact logout_user env s
    · have hgate := Op.perform_gate env hop s
      rcases hrun : o.perform env s with ⟨e | reply, t⟩ <;> rw [hrun] at hgate hidle
      · exact .inl hgate
      · refine .inl (Eq.trans hgate ?_)
        unfold Reply.gate
        rw [hidle reply rfl, if_neg Bool.false_ne_true]
  refine hheld.mono ?_ huser
  rcases hrun : o.perform env s with ⟨e | reply, t⟩ <;> rw [hrun] at hidentity hidle
  · exact hidentity
  · refine Eq.trans hidentity ?_
    rw [hidle reply rfl, if_neg Bool.false_ne_true]

/-- One action, from a state that describes the last principal. -/
theorem acts_held_iff {r : Report} {s u : Impl} {a : Action} (hheld : Held r s)
    (hacts : Acts env exchange s a u) :
    Held (reportStep env r ⟨s, a, u⟩) u ↔ Renews env ⟨s, a, u⟩ := by
  have hpost : u = (a.perform env exchange s).2 := hacts.symm
  have hbeside : (∀ o, a ≠ .op o) → Held r u := fun ha => by
    rw [hpost]
    exact hheld.mono (Action.perform_keeps env exchange identity_untouched ha s)
      (.inl (Action.perform_keeps env exchange loginUserInfo_untouched ha s))
  cases a with
  | op o =>
      have hstate : u = (o.perform env s).2 := hpost.trans (silently_state _ s)
      show Held (match (o.perform env s).1 with
        | .ok reply => if reply.completes then ⟨reply.user, lastOrg env u⟩ else r
        | .error _ => r) u ↔ _
      rcases hrun : o.perform env s with ⟨e | reply, t⟩
      · -- nothing was reported, and nothing written
        have hidle : ∀ reply, (o.perform env s).1 = .ok reply → reply.completes = false := by
          rw [hrun]
          nofun
        refine iff_of_true ?_ fun o' reply ho hok => ?_
        · rw [hstate]
          exact Op.perform_held env hheld hidle
        · cases ho
          rw [hrun] at hok
          cases hok
      -- only a completed login reports a user, and it has just adopted one
      · by_cases hcompletes : reply.completes = true
        · have hidentity := o.perform_identity env s.identity s rfl
          have hop : o ≠ .logout := by
            rintro rfl
            obtain ⟨_, rfl, -⟩ := replying_eq_ok hrun
            cases hcompletes
          have huser := (Op.perform_gate env hop).ok hrun
          rw [hrun] at hstate hidentity
          have hwrites : o.Writes env s.identity reply t := hidentity
          unfold Op.Writes at hwrites
          unfold Reply.gate at huser
          rw [if_pos hcompletes] at hwrites huser
          simp only
          rw [if_pos hcompletes, hstate, held_adopted_iff env huser hwrites]
          constructor
          · intro h o' reply' ho hok _
            cases ho
            rw [hrun] at hok
            cases hok
            exact h
          · intro h
            exact h o reply rfl (by rw [hrun]) hcompletes
        · have hidle : ∀ reply, (o.perform env s).1 = .ok reply → reply.completes = false := by
            rw [hrun]
            rintro _ ⟨⟩
            exact eq_false_of_ne_true hcompletes
          simp only
          rw [if_neg hcompletes]
          refine iff_of_true ?_ fun o' reply' ho hok hcompletes' => ?_
          · rw [hstate]
            exact Op.perform_held env hheld hidle
          · cases ho
            exact absurd hcompletes' (by rw [hidle reply' hok]; nofun)
  | _ =>
      refine iff_of_true (hbeside nofun) ?_
      rintro o reply ⟨⟩

/-! ## Runs -/

/-- Over every run of a client, whatever the server answers: its fields, what it refreshes with
and what it seals records against are the last principal's, or unknown, exactly when no login
leaves something of the principal before it. -/
theorem principal_coherent_iff (built : Option Str) (memoTtl : Int)
    {trace : List (Transition Impl Action)} {last : Impl}
    (hrun : Run (Acts env exchange) (Impl.built built memoTtl) trace last) :
    ((∀ earlier t later, trace = earlier ++ t :: later →
        Coherent env exchange (reportAfter env earlier) t.pre ∧ Reads env t) ∧
      Coherent env exchange (reportAfter env trace) last) ↔ ∀ t ∈ trace, Renews env t := by
  -- the report of a login is what its last answer says
  have hreads : ∀ earlier t later, trace = earlier ++ t :: later → Reads env t := by
    intro earlier t later hsplit
    have ht := hrun.steps t (by rw [hsplit]; exact List.mem_append_right _ List.mem_cons_self)
    exact acts_reads env exchange ht
  have hcoherent : (∀ earlier t later, trace = earlier ++ t :: later →
      Coherent env exchange (reportAfter env earlier) t.pre ∧ Reads env t) ↔
        ∀ earlier t later, trace = earlier ++ t :: later →
          Coherent env exchange (reportAfter env earlier) t.pre :=
    forall_congr' fun earlier => forall_congr' fun t => forall_congr' fun later =>
      forall_congr' fun hsplit => and_iff_left (hreads earlier t later hsplit)
  rw [hcoherent]
  refine hrun.follows_iff (R := Coherent env exchange) (fun r s a t hcoherent hacts => ?_) ?_
  · rw [coherent_iff] at hcoherent ⊢
    exact acts_held_iff env exchange hcoherent hacts
  · rw [coherent_iff]
    exact ⟨nofun, nofun, nofun, nofun⟩

end

/-! ## A principal who is followed by a passkey -/

/-- A server that signs Alice in with her password, and anyone after her with a passkey. -/
def passkeyEnv : Env where
  baseUrl := "https://iam.example"
  tenantHeader := "acme"
  parse := tableParser [(str "alice", .object [("user", .object [("tenant_id", .string "north")])]),
    (str "passkey", .object [("access_token", .string "token")])]
  dump := fun _ => "\x7b\x7d"
  transport := fun sent _ =>
    .ok { status := 200, body := if sent = [] then "alice" else "passkey" }
  clock := fun n => n
  opaqueStart := fun _ _ => .error (.foreign "no library")
  opaqueFinish := fun _ _ _ _ => .error (.foreign "no library")

def passkeyActions : List Action :=
  [.op (.login "alice" "p"), .op (.webauthnDiscoverableFinish "state" "passkey")]

def passkeyTrace : List (Transition Impl Action) :=
  Run.follow (fun s a => (Action.perform passkeyEnv noExchange a s).2) (Impl.built none 0)
    passkeyActions

def passkeyLast : Impl :=
  passkeyActions.foldl (fun s a => (Action.perform passkeyEnv noExchange a s).2) (Impl.built none 0)

theorem passkeyTrace_run :
    Run (Acts passkeyEnv noExchange) (Impl.built none 0) passkeyTrace passkeyLast :=
  Run.run_follow (fun _ _ => rfl) _ _

theorem passkeyTrace_coherent_iff :
    ((∀ earlier t later, passkeyTrace = earlier ++ t :: later →
        Coherent passkeyEnv noExchange (reportAfter passkeyEnv earlier) t.pre ∧
          Reads passkeyEnv t) ∧
      Coherent passkeyEnv noExchange (reportAfter passkeyEnv passkeyTrace) passkeyLast) ↔
        ∀ t ∈ passkeyTrace, Renews passkeyEnv t :=
  principal_coherent_iff passkeyEnv noExchange none 0 passkeyTrace_run

/-- The passkey's owner is held to be of Alice's tenant. -/
theorem passkey_keeps_principal :
    ¬∀ (env : Env) (exchange : RegistrationExchange) (built : Option Str) (memoTtl : Int)
      (trace : List (Transition Impl Action)) (last : Impl),
      Run (Acts env exchange) (Impl.built built memoTtl) trace last →
        (∀ earlier t later, trace = earlier ++ t :: later →
          Coherent env exchange (reportAfter env earlier) t.pre ∧ Reads env t) ∧
        Coherent env exchange (reportAfter env trace) last := by
  intro hclaim
  have hlast := (hclaim passkeyEnv noExchange none 0 passkeyTrace passkeyLast passkeyTrace_run).2
  have hkept : passkeyLast.principalTenantId = some (str "north") ∧
      (reportAfter passkeyEnv passkeyTrace).principal = none := by decide
  have hreported := hlast.principal _ hkept.1
  rw [hkept.2] at hreported
  cases hreported

end Axiam.Client
