import Axiam.Client.Impl

/-!
# Asking for decisions

`check_access`, `batch_check` and the acting tenant (`src/client.cpp`).
-/

namespace Axiam.Client

open Axiam.Lib Axiam.Memo

structure AccessCheck where
  action : Str
  resourceId : Str
  scope : Option Str := none
  subjectId : Option Str := none
  deriving DecidableEq

/-- `parse_decision`. -/
def parseDecision (d : Json) : Except JsonError AccessDecision := do
  let allowed ← d.valueBool "allowed" false
  pure {
    allowed := allowed
    reason := d.stringMember? "reason"
    reasonCode := d.stringMember? "reason_code" }

def isHexDigit (c : UInt8) : Bool :=
  (48 ≤ c && c ≤ 57) || (97 ≤ c && c ≤ 102) || (65 ≤ c && c ≤ 70)

/-- `looks_like_uuid`: 8-4-4-4-12 hexadecimal digits. -/
def looksLikeUuid (s : Str) : Bool :=
  s.length == 36 && (s.zipIdx.all fun (c, i) =>
    if i = 8 ∨ i = 13 ∨ i = 18 ∨ i = 23 then c == 45 else isHexDigit c)

theorem mem_of_looksLikeUuid {s : Str} (h : looksLikeUuid s = true) {c : UInt8} (hc : c ∈ s) :
    c = 45 ∨ isHexDigit c = true := by
  unfold looksLikeUuid at h
  rw [Bool.and_eq_true, List.all_eq_true] at h
  obtain ⟨i, hi, hget⟩ := List.getElem_of_mem hc
  have hmem : (c, i) ∈ s.zipIdx := by
    rw [List.mk_mem_zipIdx_iff_getElem?, List.getElem?_eq_getElem hi, hget]
  have hchar := h.2 (c, i) hmem
  simp only at hchar
  split at hchar
  · exact .inl (by simpa using hchar)
  · exact .inr hchar

/-- An acting tenant is a UUID, wherever it was set. -/
def ActingOk (acting : Option Str) : Prop := ∀ t, acting = some t → looksLikeUuid t = true

/-- So its component of a memo key has no separator. -/
theorem separator_not_mem_component {acting : Option Str} (h : ActingOk acting) :
    0x1F ∉ DecisionMemo.component acting := by
  cases acting with
  | none => decide
  | some t =>
      intro hc
      rcases mem_of_looksLikeUuid (h t rfl) hc with hc | hc <;> cases hc

theorem component_injective {acting acting' : Option Str} (h : ActingOk acting)
    (h' : ActingOk acting')
    (heq : DecisionMemo.component acting = DecisionMemo.component acting') : acting = acting' := by
  have hlength {t : Str} (ht : looksLikeUuid t = true) : t.length = 36 := by
    unfold looksLikeUuid at ht
    rw [Bool.and_eq_true, beq_iff_eq] at ht
    exact ht.1
  cases acting with
  | none =>
      cases acting' with
      | none => rfl
      | some t =>
          have ht : [0x01] = t := heq
          have := hlength (h' t rfl)
          rw [← ht] at this
          cases this
  | some t =>
      cases acting' with
      | none =>
          have ht : t = [0x01] := heq
          have := hlength (h t rfl)
          rw [ht] at this
          cases this
      | some t' => exact congrArg some heq

/-- `same_uuid`. -/
def sameUuid (a b : Str) : Bool := lower a == lower b

/-- What the last login says of acting in another tenant. -/
def actingGate (info : Option UserInfo) (tenantId : Str) : Except Exc Unit :=
  match info with
  | none => .ok ()
  | some u =>
      if u.organizationLevel = false then
        .error (.axiam (.authz ("acting_tenant: this client's principal is not organization-level " ++
          "(CONTRACT.md §5.2 rule 1) — only an organization-level principal can act on a tenant " ++
          "other than its own") none none))
      else match u.reachableTenantIds with
        | none => .ok ()
        | some reach =>
            if reach.any fun r => sameUuid r tenantId then .ok ()
            else .error (.axiam (.authz (str "acting_tenant: \"" ++ tenantId ++ "\" is outside " ++
              "this principal's reachable_tenant_ids (CONTRACT.md §5.2.3 rule 4)") none none))

/-- `acting_tenant`. -/
def actingTenant (tenantId : Str) : Prog Impl Exc Unit := do
  ensureOpen
  if looksLikeUuid tenantId = false then
    throw (.network (str "acting_tenant: \"" ++ tenantId ++ "\" is not a UUID (CONTRACT.md §5.2 " ++
      "rule 1) — the server silently ignores a value that does not parse and acts on the caller's " ++
      "own tenant instead") "sdk_programming_error")
  else do
    let s ← Prog.read
    Prog.lift (actingGate s.loginUserInfo tenantId)
    Prog.modify fun s => { s with actingTenantId := some tenantId }

/-- `clear_acting_tenant`. -/
def clearActingTenant : Prog Impl Exc Unit := do
  ensureOpen
  Prog.modify fun s => { s with actingTenantId := none }

section

variable (env : Env)

/-- A check as a member of a request body. -/
def checkBody (action resourceId : Str) (scope subjectId : Option Str) : Json :=
  .object ([(str "action", Json.string action), (str "resource_id", Json.string resourceId)] ++
    (match scope with | some v => [(str "scope", Json.string v)] | none => []) ++
    (match subjectId with | some v => [(str "subject_id", Json.string v)] | none => []))

/-- `get` of the memo under its clock. -/
def consult (key : Str) : Prog Impl Exc (Option AccessDecision) := do
  let t ← now env
  let s ← Prog.read
  let found := s.memo.get key t
  Prog.modify fun s => { s with memo := found.2 }
  pure found.1

/-- `put` of the memo under its clock. -/
def memoize (key : Str) (decision : AccessDecision) : Prog Impl Exc Unit := do
  let t ← now env
  Prog.modify fun s => { s with memo := s.memo.put key decision t }

/-- A decision is memoized when there is a key for it. -/
def remember (key : Option Str) (decision : AccessDecision) : Prog Impl Exc Unit :=
  match key with
  | some key => memoize env key decision
  | none => pure ()

/-- The exchange of `check_access`; a body that is no JSON is the default decision, and that
is not memoized. -/
def askDecision (body : Json) (key : Option Str) : Prog Impl Exc AccessDecision := do
  let body ← Prog.lift (dumpText env body)
  let resp ← executeRetrying env "/api/v1/authz/check" body (readRetries env)
  match env.parse resp.body with
  | none => pure {}
  | some j => do
      let decision ← Prog.lift (liftJson (parseDecision j))
      remember env key decision
      pure decision

/-- `check_access`. -/
def checkAccess (action resourceId : Str) (scope subjectId : Option Str) :
    Prog Impl Exc AccessDecision := do
  ensureOpen
  let s ← Prog.read
  let body := checkBody action resourceId scope subjectId
  if s.memo.enabled then do
    let key := DecisionMemo.key subjectId resourceId action scope s.actingTenantId
    let cached ← consult env key
    match cached with
    | some decision => pure decision
    | none => askDecision env body (some key)
  else askDecision env body none

/-- The rows of a batch answer. -/
def readResults (j : Option Json) : Except JsonError (List AccessDecision) :=
  match j.bind fun j => j.find? "results" with
  | some (.array results) => results.mapM parseDecision
  | _ => pure []

/-- `batch_check`: never memoized. -/
def batchCheck (checks : List AccessCheck) : Prog Impl Exc (List AccessDecision) := do
  ensureOpen
  let body ← Prog.lift (dumpText env (.object [(str "checks", .array (checks.map fun c =>
    checkBody c.action c.resourceId c.scope c.subjectId))]))
  let resp ← executeRetrying env "/api/v1/authz/check/batch" body (readRetries env)
  Prog.lift (liftJson (readResults (env.parse resp.body)))

end

/-! ## What asking leaves alone -/

section

variable (env : Env) {τ : Type} {f : Impl → τ} (hf : Untouched f)
include hf

open Prog

theorem consult_keeps (key : Str) : Keeps f (consult env key) :=
  Keeps.bind (now_keeps env hf) fun _ => Keeps.bind Keeps.read fun _ =>
    Keeps.bind (Keeps.modify fun s => hf.memo s _) fun _ => Keeps.ret _

theorem memoize_keeps (key : Str) (decision : AccessDecision) :
    Keeps f (memoize env key decision) :=
  Keeps.bind (now_keeps env hf) fun _ => Keeps.modify fun s => hf.memo s _

theorem remember_keeps (key : Option Str) (decision : AccessDecision) :
    Keeps f (remember env key decision) := by
  cases key with
  | none => exact Keeps.ret _
  | some key => exact memoize_keeps env hf key decision

theorem askDecision_keeps (body : Json) (key : Option Str) :
    Keeps f (askDecision env body key) := by
  refine Keeps.bind (Keeps.lift _) fun _ =>
    Keeps.bind (executeRetrying_keeps env hf _ _ _) fun resp => ?_
  cases env.parse resp.body with
  | none => exact Keeps.ret _
  | some j =>
      exact Keeps.bind (Keeps.lift _) fun decision =>
        Keeps.bind (remember_keeps env hf key decision) fun _ => Keeps.ret _

theorem checkAccess_keeps (action resourceId : Str) (scope subjectId : Option Str) :
    Keeps f (checkAccess env action resourceId scope subjectId) := by
  refine Keeps.bind ensureOpen_keeps fun _ => Keeps.bind Keeps.read fun s => ?_
  refine Keeps.ite (Keeps.bind (consult_keeps env hf _) fun cached => ?_)
    (askDecision_keeps env hf _ _)
  cases cached with
  | none => exact askDecision_keeps env hf _ _
  | some decision => exact Keeps.ret _

theorem batchCheck_keeps (checks : List AccessCheck) : Keeps f (batchCheck env checks) :=
  Keeps.bind ensureOpen_keeps fun _ => Keeps.bind (Keeps.lift _) fun _ =>
    Keeps.bind (executeRetrying_keeps env hf _ _ _) fun _ => Keeps.lift _

end

end Axiam.Client
