import Axiam.Management.Perform

/-!
# Reasoning about an apply

A property of programs that obeys one rule for each thing a change is performed with holds of
`perform` as a whole.  What an apply is proved to do is proved through these rules, so that the
text of `perform` is gone through once.
-/

namespace Axiam.Management

open Axiam.Lib Axiam.Lib.Prog

/-- `POST /api/v1/service-accounts`, the one call whose reply carries a secret. -/
def Call.createsAccount : Call → Bool
  | .createServiceAccount _ => true
  | _ => false

/-! ## What is caught -/

section

variable {τ α : Type} {p : Prog τ Exc α} {handler : AxiamError → Prog τ Exc α} {s t : τ}

theorem catchAxiam_run_ok {a : α} (h : p s = (.ok a, t)) :
    catchAxiam p handler s = (.ok a, t) := by
  unfold catchAxiam
  rw [tryCatch_run, h]

theorem catchAxiam_run_error {e : AxiamError} (h : p s = (.error (.axiam e), t)) :
    catchAxiam p handler s = handler e t := by
  unfold catchAxiam
  rw [tryCatch_run, h]

/-- What is no `AxiamError` passes. -/
theorem catchAxiam_run_other {e : Exc} (he : e.isAxiam = false) (h : p s = (.error e, t)) :
    catchAxiam p handler s = (.error e, t) := by
  unfold catchAxiam
  rw [tryCatch_run, h]
  cases e with
  | axiam e => cases he
  | _ => rfl

end

/-! ## Rules -/

/-- What a property may rely on: the keys that are looked up, the calls that are made, and the
kinds whose keys get an id. -/
structure Needs where
  resolved : ManifestKind → Str → Prop
  version : Str → Prop
  call : Call → Prop
  writes : ManifestKind → Prop := fun _ => True

/-- The changes `perform` makes to what it was handed. -/
inductive Edit {σ : Type} (N : Needs) : (Work σ → Work σ) → Prop where
  | resolve (kind : ManifestKind) (key id : Str) : N.writes kind →
      Edit N fun w => w.resolve kind key id
  | setVersion (key : Str) (version : Int) : N.writes .networkSegment →
      Edit N fun w => w.setVersion key version
  | setSecret (secret : Str) : Edit N fun w => w.setSecret secret
  | setId (id : Str) : Edit N fun w => w.setId id

/-- The calls the role bindings of a subject are reconciled with. -/
def Call.binds (kind : ManifestKind) : Call → Bool
  | .groupRoles _ | .assignToGroup _ _ _ | .unassignFromGroup _ _ _ => kind == .group
  | .serviceAccountRoles _ | .assignToServiceAccount _ _ _ | .unassignFromServiceAccount _ _ _ =>
      kind != .group
  | _ => false

/-- The calls a change is performed with. -/
inductive Makes (c : PlannedChange) : Call → Prop where
  | createResource (parent : Option Str) : c.entity.kind = .resource → c.action = .create →
      Makes c (.createResource
        ⟨c.entity.name, c.entity.resourceType, parent, c.entity.metadataJson⟩)
  | updateResource (parent : Option Str) : c.entity.kind = .resource → c.action ≠ .create →
      Makes c (.updateResource c.knownId ⟨c.entity.name, parent, c.entity.metadataJson⟩)
  | createPermission : c.entity.kind = .permission → c.action = .create →
      Makes c (.createPermission ⟨c.entity.action, c.entity.description⟩)
  | updatePermission : c.entity.kind = .permission → c.action ≠ .create →
      Makes c (.updatePermission c.knownId c.entity.description)
  | createRole : c.entity.kind = .role → c.action = .create →
      Makes c (.createRole ⟨c.entity.name, c.entity.description, c.entity.isGlobal⟩)
  | updateRole : c.entity.kind = .role → c.action ≠ .create →
      Makes c (.updateRole c.knownId c.entity.description)
  | createGroup : c.entity.kind = .group → c.action = .create →
      Makes c (.createGroup ⟨c.entity.name, c.entity.description⟩)
  | updateGroup : c.entity.kind = .group → c.action ≠ .create → c.entity.description ≠ [] →
      Makes c (.updateGroup c.knownId c.entity.description)
  | createServiceAccount : c.entity.kind = .serviceAccount → c.action = .create →
      Makes c (.createServiceAccount (accountBody c.entity))
  | updateServiceAccount : c.entity.kind = .serviceAccount → c.action ≠ .create →
      c.entity.description ≠ [] → Makes c (.updateServiceAccount c.knownId c.entity.description)
  | binding {call : Call} : c.entity.kind.holdsRoles = true → c.entity.roles ≠ [] →
      call.binds c.entity.kind = true → Makes c call
  | replacePolicy (spec : ManifestNetworkPolicy) (read : NetworkPolicyResponse) :
      c.entity.kind = .networkPolicy → c.entity.networkPolicy = some spec →
      c.readPolicy = some read →
      Makes c (.replacePolicy ⟨spec.sessionTimeoutMaxSecs, read.version⟩)
  | createSegment (spec : ManifestNetworkSegment) : c.entity.kind = .networkSegment →
      c.entity.networkSegment = some spec → c.action = .create ∨ c.readSegment = none →
      Makes c (.createSegment (segmentCreateBody spec))
  | replaceSegment (spec : ManifestNetworkSegment) (read : NetworkSegmentResponse) :
      c.entity.kind = .networkSegment → c.entity.networkSegment = some spec →
      c.action ≠ .create → c.readSegment = some read →
      Makes c (.replaceSegment c.knownId (segmentReplaceBody spec read))
  | createProfile (spec : ManifestNetworkProfile) (segmentId : Str) (version : Int) :
      c.entity.kind = .networkProfile → c.entity.networkProfile = some spec →
      c.action = .create ∨ c.readProfile = none →
      Makes c (.createProfile ⟨profileCreateInput spec, segmentId, version⟩)
  | replaceProfile (spec : ManifestNetworkProfile) (read : NetworkReplyProfile) (segmentId : Str)
      (version : Int) : c.entity.kind = .networkProfile → c.entity.networkProfile = some spec →
      c.action ≠ .create → c.readProfile = some read →
      Makes c (.replaceProfile segmentId ⟨read.version, version, profileReplaceInput spec read⟩)

/-- One rule for each construct a change is performed with, but for what catches. -/
structure PlainRules {σ : Type} (api : Api σ) (N : Needs)
    (P : (α : Type) → Prog (Work σ) Exc α → Prop) : Prop where
  ret : ∀ {α : Type} (a : α), P α (pure a)
  bind : ∀ {α β : Type} {p : Prog (Work σ) Exc α} {k : α → Prog (Work σ) Exc β},
    P α p → (∀ a, P β (k a)) → P β (p >>= k)
  ask : ∀ c : Call, N.call c → P c.Reply (ask api c)
  requireResolved : ∀ {kind : ManifestKind} {key what : Str}, N.resolved kind key →
    P Str (requireResolved kind key what)
  requireVersion : ∀ {key : Str}, N.version key → P Int (requireVersion key)

/-- One rule for each construct the role bindings are reconciled with. -/
structure CallRules {σ : Type} (api : Api σ) (N : Needs)
    (P : (α : Type) → Prog (Work σ) Exc α → Prop) : Prop extends PlainRules api N P where
  catchAxiam : ∀ {α : Type} {p : Prog (Work σ) Exc α} {k : AxiamError → Prog (Work σ) Exc α},
    P α p → (∀ e, P α (k e)) → P α (catchAxiam p k)
  raiseRebind : ∀ {α : Type} (what binding : Str) (succeeded : Bool) (error : Option Str),
    P α (throw (.axiam (.rebind what binding succeeded error)))

/-- The same with one rule for a rebind, for a property that does not pass a `catch`. -/
structure BindingRules {σ : Type} (api : Api σ) (N : Needs)
    (P : (α : Type) → Prog (Work σ) Exc α → Prop) : Prop extends PlainRules api N P where
  rebind : ∀ (kind : ManifestKind) (subjectId roleId : Str) (existing : RoleAssignment)
    (resourceId : Option Str) (narrowed : Bool), (∀ c : Call, c.binds kind = true → N.call c) →
      P Unit (rebind api kind subjectId roleId existing resourceId narrowed)

/-- One rule for each construct `perform` is written with. -/
structure Rules {σ : Type} (api : Api σ) (N : Needs)
    (P : (α : Type) → Prog (Work σ) Exc α → Prop) : Prop extends CallRules api N P where
  edit : ∀ {g : Work σ → Work σ}, Edit N g → P Unit (Prog.modify g)

/-- The same with one rule for a rebind. -/
structure ChangeRules {σ : Type} (api : Api σ) (N : Needs)
    (P : (α : Type) → Prog (Work σ) Exc α → Prop) : Prop extends BindingRules api N P where
  edit : ∀ {g : Work σ → Work σ}, Edit N g → P Unit (Prog.modify g)

theorem CallRules.ite {σ : Type} {P : (α : Type) → Prog (Work σ) Exc α → Prop} {α : Type}
    {c : Prop} [Decidable c] {p q : Prog (Work σ) Exc α} (hp : c → P α p)
    (hq : ¬c → P α q) : P α (if c then p else q) := by
  by_cases hc : c
  · rw [if_pos hc]
    exact hp hc
  · rw [if_neg hc]
    exact hq hc

/-! ## Role bindings -/

namespace PlainRules

variable {σ : Type} {api : Api σ} {N : Needs} {P : (α : Type) → Prog (Work σ) Exc α → Prop}
  (R : PlainRules api N P)
include R

theorem each {α β : Type} {f : α → Prog (Work σ) Exc β} {l : List α}
    (h : ∀ x ∈ l, P β (f x)) : P (List β) (Prog.each f l) := by
  induction l with
  | nil => exact R.ret []
  | cons x rest ih =>
      exact R.bind (h x List.mem_cons_self) fun y =>
        R.bind (ih fun z hz => h z (List.mem_cons_of_mem x hz)) fun ys => R.ret _

theorem bindingScope {b : ManifestRoleBinding} (h : ∀ key ∈ b.resource, N.resolved .resource key) :
    P (Option Str) (bindingScope b) := by
  unfold Management.bindingScope
  cases hb : b.resource with
  | none => exact R.ret _
  | some key => exact R.bind (R.requireResolved (h key hb)) fun _ => R.ret _

theorem assign {kind : ManifestKind} (hcall : ∀ c : Call, c.binds kind = true → N.call c)
    (subjectId roleId : Str) (body : AssignRoleRequest) :
    P Unit (assign api kind subjectId roleId body) := by
  cases kind with
  | group => exact R.ask (.assignToGroup roleId subjectId body) (hcall _ rfl)
  | _ => exact R.ask (.assignToServiceAccount roleId subjectId body) (hcall _ rfl)

theorem unassign {kind : ManifestKind} (hcall : ∀ c : Call, c.binds kind = true → N.call c)
    (subjectId roleId : Str) (resourceId : Option Str) :
    P Unit (unassign api kind subjectId roleId resourceId) := by
  cases kind with
  | group => exact R.ask (.unassignFromGroup roleId subjectId resourceId) (hcall _ rfl)
  | _ => exact R.ask (.unassignFromServiceAccount roleId subjectId resourceId) (hcall _ rfl)

end PlainRules

namespace BindingRules

variable {σ : Type} {api : Api σ} {N : Needs} {P : (α : Type) → Prog (Work σ) Exc α → Prop}
  (R : BindingRules api N P)
include R

theorem reconcileBinding {m : Manifest} {kind : ManifestKind} {subjectId : Str}
    {current : Str → Option RoleAssignment} {b : ManifestRoleBinding}
    (hcall : ∀ c : Call, c.binds kind = true → N.call c)
    (hrole : N.resolved .role b.role) (hscope : ∀ key ∈ b.resource, N.resolved .resource key) :
    P Unit (reconcileBinding api m kind subjectId current b) := by
  refine R.bind (R.requireResolved hrole) fun roleId => R.bind (R.bindingScope hscope) fun id => ?_
  split
  · exact R.assign hcall subjectId roleId _
  · exact CallRules.ite (fun _ => R.ret _) fun _ => R.rebind kind subjectId roleId _ _ _ hcall

theorem performBindings {m : Manifest} {c : PlannedChange} {subjectId : Str}
    (hbinds : c.entity.roles ≠ [] → ∀ call : Call, call.binds c.entity.kind = true → N.call call)
    (hroles : ∀ b ∈ c.entity.roles, N.resolved .role b.role ∧
      ∀ key ∈ b.resource, N.resolved .resource key) :
    P Unit (performBindings api m c subjectId) := by
  refine CallRules.ite (fun _ => R.ret _) fun hsome => ?_
  have hcall := hbinds hsome
  have hreconcile : ∀ current, P Unit (reconcileRoleBindings api m c.entity.kind subjectId current
      c.entity.roles) := fun current =>
    R.bind (R.each fun b hb => R.reconcileBinding hcall (hroles b hb).1 (hroles b hb).2)
      fun _ => R.ret _
  have hheld : P _ (boundRoleBindings (Management.ask api) c.entity.kind subjectId) := by
    unfold boundRoleBindings
    cases hkind : c.entity.kind with
    | group =>
        exact R.bind (R.ask (.groupRoles subjectId) (hcall _ (by rw [hkind]; rfl))) fun _ => R.ret _
    | serviceAccount =>
        exact R.bind (R.ask (.serviceAccountRoles subjectId) (hcall _ (by rw [hkind]; rfl)))
          fun _ => R.ret _
    | _ => exact R.bind (R.ret _) fun _ => R.ret _
  exact CallRules.ite (fun _ => hreconcile _) fun _ => R.bind hheld fun current => hreconcile current

end BindingRules

namespace CallRules

variable {σ : Type} {api : Api σ} {N : Needs} {P : (α : Type) → Prog (Work σ) Exc α → Prop}
  (R : CallRules api N P)
include R

/-- A rebind is calls of which two are caught. -/
theorem bindingRules : BindingRules api N P :=
  { R with
    rebind := fun kind subjectId roleId existing resourceId narrowed hcall => by
      have hrestore : P (Option Str) (restore api kind subjectId roleId existing) :=
        R.catchAxiam (R.bind (R.assign hcall subjectId roleId _) fun _ => R.ret _)
          fun _ => R.ret _
      exact R.bind (R.unassign hcall subjectId roleId _) fun _ =>
        R.catchAxiam (R.assign hcall subjectId roleId _) fun _ =>
          R.bind hrestore fun _ => R.raiseRebind _ _ _ _ }

theorem performBindings {m : Manifest} {c : PlannedChange} {subjectId : Str}
    (hbinds : c.entity.roles ≠ [] → ∀ call : Call, call.binds c.entity.kind = true → N.call call)
    (hroles : ∀ b ∈ c.entity.roles,
      N.resolved .role b.role ∧ ∀ key ∈ b.resource, N.resolved .resource key) :
    P Unit (performBindings api m c subjectId) :=
  R.bindingRules.performBindings hbinds hroles

end CallRules

/-! ## One change -/

/-- What performing a change relies on: the keys it looks up, and the calls it makes. -/
structure Needs.Cover (N : Needs) (m : Manifest) (c : PlannedChange) : Prop where
  parent : c.entity.kind = .resource → ∀ key ∈ c.entity.dependsOn,
    findKeyOfKind m key .resource ≠ none → N.resolved .resource key
  roles : c.entity.kind.holdsRoles = true → ∀ b ∈ c.entity.roles,
    N.resolved .role b.role ∧ ∀ key ∈ b.resource, N.resolved .resource key
  segment : c.entity.kind = .networkProfile → ∀ spec ∈ c.entity.networkProfile,
    N.resolved .networkSegment spec.segment ∧ N.version spec.segment
  call : ∀ call : Call, Makes c call → N.call call
  writes : N.writes c.entity.kind

namespace ChangeRules

variable {σ : Type} {api : Api σ} {N : Needs} {P : (α : Type) → Prog (Work σ) Exc α → Prop}
  (R : ChangeRules api N P) {m : Manifest} {c : PlannedChange} (hN : N.Cover m c)
include R hN

theorem performResource (hkind : c.entity.kind = .resource) :
    P Unit (performResource api m c) := by
  have hparent : P (Option Str) (parentId m c.entity) := by
    unfold parentId
    split
    · exact R.ret _
    next key hkey =>
      split
      · exact R.ret _
      next r hr =>
        have hresolved := hN.parent hkind key hkey (by rw [hr]; exact Option.some_ne_none r)
        exact R.bind (R.requireResolved hresolved) fun _ => R.ret _
  have hwrite : ∀ parent, P Str (writeResource api c parent) := fun parent => CallRules.ite
    (fun h => R.bind (R.ask _ (hN.call _ (.createResource parent hkind h))) fun _ => R.ret _)
    fun h => R.bind (R.ask _ (hN.call _ (.updateResource parent hkind h))) fun _ => R.ret _
  exact R.bind hparent fun parent => R.bind (hwrite parent) fun _ =>
    R.edit (.resolve _ _ _ (hkind ▸ hN.writes))

theorem performPermission (hkind : c.entity.kind = .permission) :
    P Unit (performPermission api c) := by
  have hwrite : P Str (writePermission api c) := CallRules.ite
    (fun h => R.bind (R.ask _ (hN.call _ (.createPermission hkind h))) fun _ => R.ret _)
    fun h => R.bind (R.ask _ (hN.call _ (.updatePermission hkind h))) fun _ => R.ret _
  exact R.bind hwrite fun _ => R.edit (.resolve _ _ _ (hkind ▸ hN.writes))

theorem performRole (hkind : c.entity.kind = .role) : P Unit (performRole api c) := by
  have hwrite : P Str (writeRole api c) := CallRules.ite
    (fun h => R.bind (R.ask _ (hN.call _ (.createRole hkind h))) fun _ => R.ret _)
    fun h => R.bind (R.ask _ (hN.call _ (.updateRole hkind h))) fun _ => R.ret _
  exact R.bind hwrite fun _ => R.edit (.resolve _ _ _ (hkind ▸ hN.writes))

theorem performGroup (hkind : c.entity.kind = .group) : P Unit (performGroup api m c) := by
  have hholds : c.entity.kind.holdsRoles = true := by rw [hkind]; rfl
  have hwrite : P Str (writeGroup api c) := CallRules.ite
    (fun h => R.bind (R.ask _ (hN.call _ (.createGroup hkind h))) fun _ => R.ret _)
    fun h => CallRules.ite
      (fun hstated => R.bind (R.ask _ (hN.call _ (.updateGroup hkind h hstated))) fun _ => R.ret _)
      fun _ => R.ret _
  exact R.bind hwrite fun _ => R.bind (R.edit (.resolve _ _ _ (hkind ▸ hN.writes))) fun _ =>
    R.performBindings (fun hsome call h => hN.call call (.binding hholds hsome h)) (hN.roles hholds)

theorem performServiceAccount (hkind : c.entity.kind = .serviceAccount) :
    P Unit (performServiceAccount api m c) := by
  have hholds : c.entity.kind.holdsRoles = true := by rw [hkind]; rfl
  have hwrite : P Str (writeServiceAccount api c) := CallRules.ite
    (fun h => R.bind (R.ask _ (hN.call _ (.createServiceAccount hkind h))) fun _ =>
      R.bind (R.edit (.setSecret _)) fun _ => R.ret _)
    fun h => CallRules.ite
      (fun hstated => R.bind (R.ask _ (hN.call _ (.updateServiceAccount hkind h hstated)))
        fun _ => R.ret _)
      fun _ => R.ret _
  exact R.bind hwrite fun _ => R.bind (R.edit (.resolve _ _ _ (hkind ▸ hN.writes))) fun _ =>
    R.performBindings (fun hsome call h => hN.call call (.binding hholds hsome h)) (hN.roles hholds)

theorem performPolicy {spec : ManifestNetworkPolicy} {read : NetworkPolicyResponse}
    (hkind : c.entity.kind = .networkPolicy) (hspec : c.entity.networkPolicy = some spec)
    (hread : c.readPolicy = some read) : P Unit (performPolicy api spec read) :=
  R.bind (R.ask _ (hN.call _ (.replacePolicy spec read hkind hspec hread))) fun _ => R.ret _

theorem performSegment {spec : ManifestNetworkSegment} (hkind : c.entity.kind = .networkSegment)
    (hspec : c.entity.networkSegment = some spec) : P Unit (performSegment api c spec) := by
  have hwrite : P NetworkSegmentResponse (writeSegment api c spec) := by
    refine CallRules.ite
      (fun h => R.ask _ (hN.call _ (.createSegment spec hkind hspec (.inl h)))) fun h => ?_
    split
    next read hread => exact R.ask _ (hN.call _ (.replaceSegment spec read hkind hspec h hread))
    next hread => exact R.ask _ (hN.call _ (.createSegment spec hkind hspec (.inr hread)))
  have hwrites : N.writes .networkSegment := hkind ▸ hN.writes
  exact R.bind hwrite fun _ => R.bind (R.edit (.resolve _ _ _ hwrites)) fun _ =>
    R.edit (.setVersion _ _ hwrites)

theorem performProfile {spec : ManifestNetworkProfile} (hkind : c.entity.kind = .networkProfile)
    (hspec : c.entity.networkProfile = some spec) : P Unit (performProfile api c spec) := by
  obtain ⟨hsegment, hversion⟩ := hN.segment hkind spec hspec
  have hwrite : ∀ id version, P NetworkReplyProfile (writeProfile api c spec id version) := by
    intro id version
    refine CallRules.ite
      (fun h => R.ask _ (hN.call _ (.createProfile spec id version hkind hspec (.inl h))))
      fun h => ?_
    split
    next read hread =>
      exact R.ask _ (hN.call _ (.replaceProfile spec read id version hkind hspec h hread))
    next hread => exact R.ask _ (hN.call _ (.createProfile spec id version hkind hspec (.inr hread)))
  exact R.bind (R.requireResolved hsegment) fun id =>
    R.bind (R.requireVersion hversion) fun version =>
      R.bind (hwrite id version) fun _ => R.edit (.setId _)

/-- Performing a change has every property that obeys the rules. -/
theorem perform : P Unit (perform api m c) := by
  unfold Management.perform
  split
  next hkind => exact R.performResource hN hkind
  next hkind => exact R.performPermission hN hkind
  next hkind => exact R.performRole hN hkind
  next hkind => exact R.performGroup hN hkind
  next hkind => exact R.performServiceAccount hN hkind
  next hkind =>
    split
    next hspec hread => exact R.performPolicy hN hkind hspec hread
    · exact R.ret _
  next hkind =>
    split
    next hspec => exact R.performSegment hN hkind hspec
    · exact R.ret _
  next hkind =>
    split
    next spec hspec => exact R.performProfile hN hkind hspec
    · exact R.ret _

end ChangeRules

/-- So has one that obeys the rules of a `catch`. -/
theorem Rules.perform {σ : Type} {api : Api σ} {N : Needs}
    {P : (α : Type) → Prog (Work σ) Exc α → Prop} (R : Rules api N P) {m : Manifest}
    {c : PlannedChange} (hN : N.Cover m c) : P Unit (perform api m c) :=
  ChangeRules.perform { R.bindingRules with edit := R.edit } hN

end Axiam.Management
