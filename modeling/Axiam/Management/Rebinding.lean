import Axiam.Management.Order
import Axiam.Management.Report

/-!
# Role bindings

`reconcile_role_bindings` (`src/management_manifest.cpp`) against a tenant that holds one binding
of a subject and a role at most.  The loop compares every declared binding with what was read
before its first request: what it promises depends on no two bindings of a subject being of one
role.
-/

namespace Axiam.Management

open Axiam.Lib Axiam.Lib.Prog

/-! ## A tenant's bindings -/

/-- What the tenant holds for each subject and role, as the body that assigns it. -/
structure Tenant where
  live : Str → Str → Option AssignRoleRequest
  /-- The requests it was sent. -/
  asked : Nat

/-- A request that failed.  The tenant may have carried it out all the same. -/
structure Failure where
  error : AxiamError
  landed : Bool

/-- Which requests fail. -/
abbrev Failures : Type := Call → Tenant → Option Failure

namespace Tenant

def put (t : Tenant) (subject role : Str) (x : Option AssignRoleRequest) : Tenant :=
  { t with live := fun s r => if s = subject ∧ r = role then x else t.live s r }

/-- Only the binding of the resource that is named goes. -/
def remove (t : Tenant) (subject role : Str) (resource : Option Str) : Tenant :=
  if (t.live subject role).map AssignRoleRequest.resourceId = some resource then
    t.put subject role none
  else t

/-- A request carried out. -/
def carry (t : Tenant) : Call → Tenant
  | .assignToGroup role subject body | .assignToServiceAccount role subject body =>
      t.put subject role (some body)
  | .unassignFromGroup role subject resource | .unassignFromServiceAccount role subject resource =>
      t.remove subject role resource
  | _ => t

def count (t : Tenant) : Tenant := { t with asked := t.asked + 1 }

/-- The tenant once it was sent a request. -/
def after (t : Tenant) (failures : Failures) (c : Call) : Tenant :=
  if (failures c t).all Failure.landed then (t.carry c).count else t.count

/-- How it answered. -/
def outcome (t : Tenant) (failures : Failures) (c : Call) : Except Exc Unit :=
  match failures c t with
  | none => .ok ()
  | some f => .error (.axiam f.error)

end Tenant

/-- The tenant's interface, as far as role bindings are concerned. -/
def tenantApi (failures : Failures) : Api Tenant where
  parse _ := none
  pages := 0
  handler c _ := match c with
    | .assignToGroup r s b => fun t =>
        (t.outcome failures (.assignToGroup r s b), t.after failures (.assignToGroup r s b))
    | .assignToServiceAccount r s b => fun t =>
        (t.outcome failures (.assignToServiceAccount r s b),
          t.after failures (.assignToServiceAccount r s b))
    | .unassignFromGroup r s x => fun t =>
        (t.outcome failures (.unassignFromGroup r s x), t.after failures (.unassignFromGroup r s x))
    | .unassignFromServiceAccount r s x => fun t =>
        (t.outcome failures (.unassignFromServiceAccount r s x),
          t.after failures (.unassignFromServiceAccount r s x))
    | _ => throw walkGivenUp

/-- The call that assigns a role. -/
def assignCall (kind : ManifestKind) (subject role : Str) (body : AssignRoleRequest) : Call :=
  match kind with
  | .group => .assignToGroup role subject body
  | _ => .assignToServiceAccount role subject body

/-- The call that takes it back. -/
def unassignCall (kind : ManifestKind) (subject role : Str) (resource : Option Str) : Call :=
  match kind with
  | .group => .unassignFromGroup role subject resource
  | _ => .unassignFromServiceAccount role subject resource

/-! ## What is reconciled -/

/-- The name of the role a binding is of. -/
def roleName (m : Manifest) (b : ManifestRoleBinding) : Str :=
  ((findKeyOfKind m b.role .role).map ManifestEntity.name).getD []

/-- A subject of a validated manifest, in a tenant whose roles and resources have their ids. -/
structure Setting where
  m : Manifest
  valid : validate m = .ok ()
  e : ManifestEntity
  declared : e ∈ m.entities
  holds : e.kind.holdsRoles = true
  subjectId : Str
  /-- By name: a tenant has one role of a name. -/
  roleId : Str → Str
  apart : Function.Injective roleId
  /-- By the key that names it. -/
  resourceId : Str → Str

namespace Setting

variable (s : Setting)

/-- The server's role of a binding. -/
def role (b : ManifestRoleBinding) : Str := s.roleId (roleName s.m b)

/-- As an assignment shows it. -/
def serverRole (b : ManifestRoleBinding) : Role := ⟨s.role b, roleName s.m b, []⟩

/-- The resource a binding is scoped to. -/
def scope (b : ManifestRoleBinding) : Option Str := b.resource.map s.resourceId

/-- `ResolvedIds`, as a run has them when it comes to the subject. -/
def resolved : ManifestKind → Str → Option Str
  | .role, key => (findKeyOfKind s.m key .role).map fun e => s.roleId e.name
  | .resource, key => (findKeyOfKind s.m key .resource).map fun _ => s.resourceId key
  | _, _ => none

/-- What `list_roles` shows of a live binding. -/
def shown (a : AssignRoleRequest) (r : Role) : RoleAssignment :=
  ⟨r, a.resourceId, a.inherit, a.tenantScope⟩

/-- What `bound_role_bindings` reads of the subject. -/
def current (t : Tenant) (name : Str) : Option RoleAssignment :=
  (t.live s.subjectId (s.roleId name)).map fun a => shown a ⟨s.roleId name, name, []⟩

/-- A live binding has the form a declared one states. -/
@[mk_iff]
structure InForm (a : AssignRoleRequest) (b : ManifestRoleBinding) : Prop where
  resource : a.resourceId = s.scope b
  narrowed : a.inherit = some false ↔ b.narrowed = true

/-- The request that assigns a binding as stated, with a scope of tenants. -/
def assigning (b : ManifestRoleBinding) (tenants : Option (List Str)) : Call :=
  assignCall s.e.kind s.subjectId (s.role b) ⟨s.scope b, wireInherit b.narrowed, tenants⟩

/-- The request that takes a live binding back. -/
def unassigning (b : ManifestRoleBinding) (a : AssignRoleRequest) : Call :=
  unassignCall s.e.kind s.subjectId (s.role b) a.resourceId

/-- The request that assigns a live binding again. -/
def restoring (b : ManifestRoleBinding) (a : AssignRoleRequest) : Call :=
  assignCall s.e.kind s.subjectId (s.role b)
    ⟨a.resourceId, wireInherit (a.inherit == some false), a.tenantScope⟩

/-- The work when the reconciliation of the subject begins. -/
def start (t : Tenant) : Work Tenant where
  world := t
  change := { entity := s.e }
  resolved := s.resolved
  versions _ := none

/-- `reconcile_role_bindings` of part of the bindings, `t` being the tenant that was read. -/
def process (failures : Failures) (t : Tenant) (l : List ManifestRoleBinding) :
    Prog (Work Tenant) Exc Unit :=
  reconcileRoleBindings (tenantApi failures) s.m s.e.kind s.subjectId (s.current t) l

/-- Its loop body. -/
def processOne (failures : Failures) (t : Tenant) (b : ManifestRoleBinding) :
    Prog (Work Tenant) Exc Unit :=
  reconcileBinding (tenantApi failures) s.m s.e.kind s.subjectId (s.current t) b

/-- `reconcile_role_bindings` of a subject. -/
def run (failures : Failures) (t : Tenant) : Except Exc Unit × Work Tenant :=
  s.process failures t s.e.roles (s.start t)

end Setting

/-! ## What is promised -/

/-- A request for a role that a binding names: `inherit` is `false` or not there. -/
inductive Setting.Requests (s : Setting) (b : ManifestRoleBinding) : Call → Prop
  | assign (body : AssignRoleRequest) (hinherit : body.inherit = none ∨ body.inherit = some false) :
      s.Requests b (assignCall s.e.kind s.subjectId (s.role b) body)
  | unassign (resource : Option Str) :
      s.Requests b (unassignCall s.e.kind s.subjectId (s.role b) resource)

/-- What the loop does about one binding, by what the tenant held: the requests it sends, each
with the tenant it met, and what it comes to. -/
inductive Setting.Took (s : Setting) (failures : Failures) (live : Option AssignRoleRequest)
    (b : ManifestRoleBinding) : List (Call × Tenant) → Except Exc Unit → Prop
  | satisfied {a : AssignRoleRequest} (hlive : live = some a) (hform : s.InForm a b) :
      s.Took failures live b [] (.ok ())
  | assigned {t : Tenant} (hlive : live = none)
      (hassign : failures (s.assigning b none) t = none) :
      s.Took failures live b [(s.assigning b none, t)] (.ok ())
  | refused {t : Tenant} {f : Failure} (hlive : live = none)
      (hassign : failures (s.assigning b none) t = some f) :
      s.Took failures live b [(s.assigning b none, t)] (.error (.axiam f.error))
  | kept {a : AssignRoleRequest} {t : Tenant} {f : Failure} (hlive : live = some a)
      (hform : ¬s.InForm a b) (hunassign : failures (s.unassigning b a) t = some f) :
      s.Took failures live b [(s.unassigning b a, t)] (.error (.axiam f.error))
  | rebound {a : AssignRoleRequest} {t u : Tenant} (hlive : live = some a)
      (hform : ¬s.InForm a b) (hunassign : failures (s.unassigning b a) t = none)
      (hassign : failures (s.assigning b a.tenantScope) u = none) :
      s.Took failures live b [(s.unassigning b a, t), (s.assigning b a.tenantScope, u)] (.ok ())
  /-- The restore is tried, and the error tells whether it succeeded and why it did not. -/
  | lost {a : AssignRoleRequest} {t u v : Tenant} {f : Failure} (hlive : live = some a)
      (hform : ¬s.InForm a b) (hunassign : failures (s.unassigning b a) t = none)
      (hassign : failures (s.assigning b a.tenantScope) u = some f) :
      s.Took failures live b
        [(s.unassigning b a, t), (s.assigning b a.tenantScope, u), (s.restoring b a, v)]
        (.error (.axiam (.rebind f.error.what (describeBinding (s.role b) a.resourceId)
          (failures (s.restoring b a) v).isNone
          ((failures (s.restoring b a) v).map fun f => f.error.what))))

/-- One turn of the loop. -/
structure Setting.Turn where
  binding : ManifestRoleBinding
  before : Work Tenant
  outcome : Except Exc Unit
  after : Work Tenant

namespace Setting

variable (s : Setting)

/-- The turns the loop takes: up to the first that fails. -/
def turns (failures : Failures) (t : Tenant) :
    List ManifestRoleBinding → Work Tenant → List Turn
  | [], _ => []
  | b :: rest, w =>
      let out := s.processOne failures t b w
      ⟨b, w, out.1, out.2⟩ ::
        match out.1 with
        | .ok _ => turns failures t rest out.2
        | .error _ => []

/-- The turns of a whole reconciliation. -/
def allTurns (failures : Failures) (t : Tenant) : List Turn :=
  s.turns failures t s.e.roles (s.start t)

/-- A turn's binding is live as it is stated. -/
def Stated (t : Tenant) (b : ManifestRoleBinding) : Prop :=
  ∃ a, t.live s.subjectId (s.role b) = some a ∧ s.InForm a b

/-- How the bindings of a subject are reconciled. -/
structure Reconciled (failures : Failures) (t : Tenant) : Prop where
  /-- Nothing is sent but for the roles of the list. -/
  requests : ∀ x ∈ (s.run failures t).2.calls, ∃ b ∈ s.e.roles, s.Requests b x.1
  /-- The bindings are taken in order; -/
  order : (s.allTurns failures t).map Turn.binding <+: s.e.roles
  took : ∀ u ∈ s.allTurns failures t, ∃ new, u.after.calls = u.before.calls ++ new ∧
    s.Took failures (t.live s.subjectId (s.role u.binding)) u.binding new u.outcome
  /-- nothing follows a failure; -/
  stops : ∀ u ∈ (s.allTurns failures t).dropLast, u.outcome = .ok ()
  ends : s.run failures t = (((s.allTurns failures t).getLast?.map Turn.outcome).getD (.ok ()),
    ((s.allTurns failures t).getLast?.map Turn.after).getD (s.start t))
  complete : (s.run failures t).1 = .ok () →
    (s.allTurns failures t).map Turn.binding = s.e.roles
  /-- and what was done before it stands. -/
  stands : ∀ u ∈ s.allTurns failures t, u.outcome = .ok () →
    s.Stated (s.run failures t).2.world u.binding

end Setting

/-! ## One request -/

section

variable {failures : Failures} {t : Tenant}

/-- The work once a request was sent. -/
def Work.sent (w : Work Tenant) (failures : Failures) (c : Call) : Work Tenant :=
  w.noted c (w.world.after failures c)

/-- How a request was answered, and what the tenant became. -/
def reply (failures : Failures) (c : Call) (w : Work Tenant) : Except Exc Unit × Work Tenant :=
  (w.world.outcome failures c, w.sent failures c)

theorem assign_run (kind : ManifestKind) (subject role : Str) (body : AssignRoleRequest)
    (w : Work Tenant) :
    assign (tenantApi failures) kind subject role body w =
      reply failures (assignCall kind subject role body) w := by
  cases kind <;> rfl

theorem unassign_run (kind : ManifestKind) (subject role : Str) (resource : Option Str)
    (w : Work Tenant) :
    unassign (tenantApi failures) kind subject role resource w =
      reply failures (unassignCall kind subject role resource) w := by
  cases kind <;> rfl

theorem reply_ok {c : Call} {w : Work Tenant} (h : failures c w.world = none) :
    reply failures c w = (.ok (), w.sent failures c) := by
  unfold reply Tenant.outcome
  rw [h]

theorem reply_error {c : Call} {w : Work Tenant} {f : Failure} (h : failures c w.world = some f) :
    reply failures c w = (.error (.axiam f.error), w.sent failures c) := by
  unfold reply Tenant.outcome
  rw [h]

namespace Tenant

theorem after_ok {c : Call} (h : failures c t = none) : t.after failures c = (t.carry c).count := by
  unfold after
  rw [h]
  rfl

/-- Two places in the bindings of a tenant are not the same. -/
def Apart (subject role subject' role' : Str) : Prop := ¬(subject' = subject ∧ role' = role)

theorem put_live {subject role : Str} {x : Option AssignRoleRequest} :
    (t.put subject role x).live subject role = x :=
  if_pos ⟨rfl, rfl⟩

theorem put_live_apart {subject role subject' role' : Str} {x : Option AssignRoleRequest}
    (h : Apart subject role subject' role') :
    (t.put subject role x).live subject' role' = t.live subject' role' :=
  if_neg h

theorem remove_live_apart {subject role subject' role' : Str} {resource : Option Str}
    (h : Apart subject role subject' role') :
    (t.remove subject role resource).live subject' role' = t.live subject' role' := by
  unfold remove
  split
  · exact put_live_apart h
  · rfl

/-- A request about one binding leaves the others alone, whatever it comes to. -/
theorem after_live {c : Call} {subject role : Str}
    (h : (t.carry c).live subject role = t.live subject role) :
    (t.after failures c).live subject role = t.live subject role := by
  unfold after
  split
  · exact h
  · rfl

theorem assign_live_apart {kind : ManifestKind} {subject role subject' role' : Str}
    {body : AssignRoleRequest} (h : Apart subject role subject' role') :
    (t.after failures (assignCall kind subject role body)).live subject' role' =
      t.live subject' role' := by
  refine after_live ?_
  cases kind <;> exact put_live_apart h

theorem unassign_live_apart {kind : ManifestKind} {subject role subject' role' : Str}
    {resource : Option Str} (h : Apart subject role subject' role') :
    (t.after failures (unassignCall kind subject role resource)).live subject' role' =
      t.live subject' role' := by
  refine after_live ?_
  cases kind <;> exact remove_live_apart h

/-- A binding that was assigned is live. -/
theorem assign_live {kind : ManifestKind} {subject role : Str} {body : AssignRoleRequest}
    (h : failures (assignCall kind subject role body) t = none) :
    (t.after failures (assignCall kind subject role body)).live subject role = some body := by
  rw [after_ok h]
  cases kind <;> exact put_live

/-- A binding that was taken back is gone. -/
theorem unassign_live {kind : ManifestKind} {subject role : Str} {a : AssignRoleRequest}
    (hlive : t.live subject role = some a)
    (h : failures (unassignCall kind subject role a.resourceId) t = none) :
    (t.after failures (unassignCall kind subject role a.resourceId)).live subject role = none := by
  have hremove : (t.remove subject role a.resourceId).live subject role = none := by
    rw [remove, hlive, if_pos (Option.map_some ..)]
    exact put_live
  rw [after_ok h]
  cases kind <;> exact hremove

/-- Taking back a binding of another resource takes nothing. -/
theorem unassign_other {kind : ManifestKind} {subject role : Str} {resource : Option Str}
    (hother : (t.live subject role).map AssignRoleRequest.resourceId ≠ some resource) :
    (t.after failures (unassignCall kind subject role resource)).live subject role =
      t.live subject role := by
  have hremove : t.remove subject role resource = t := if_neg hother
  refine after_live ?_
  cases kind <;> exact congrArg (fun u : Tenant => u.live subject role) hremove

end Tenant

end

/-! ## One binding -/

namespace Setting

variable {s : Setting} {failures : Failures} {t : Tenant}

theorem wireInherit_eq (n : Bool) : wireInherit n = none ∨ wireInherit n = some false := by
  cases n
  · exact .inl rfl
  · exact .inr rfl

theorem wireInherit_false_iff {n : Bool} : wireInherit n = some false ↔ n = true := by
  cases n <;> simp [wireInherit]

theorem assigned_inForm (b : ManifestRoleBinding) (tenants : Option (List Str)) :
    s.InForm ⟨s.scope b, wireInherit b.narrowed, tenants⟩ b :=
  ⟨rfl, wireInherit_false_iff⟩

theorem bindings_ok : ∀ b ∈ s.e.roles, BindingOk s.m b :=
  (((validate_ok_iff s.m).mp s.valid).roles s.e s.declared s.holds).bindings

/-- The binding that was read is satisfied when the live one has the form. -/
theorem bindingSatisfied_iff {a : AssignRoleRequest} {b : ManifestRoleBinding} {r : Role} :
    bindingSatisfied (shown a r) (s.scope b) b.narrowed = true ↔ s.InForm a b := by
  rw [inForm_iff, bindingSatisfied, shown, Bool.and_eq_true, beq_iff_eq, beq_iff_eq,
    Bool.eq_iff_iff, RoleAssignment.narrowed, beq_iff_eq]

theorem roleName_eq {b : ManifestRoleBinding} {e : ManifestEntity}
    (h : findKeyOfKind s.m b.role .role = some e) : roleName s.m b = e.name := by
  rw [roleName, h]
  rfl

theorem bindingScope_run {b : ManifestRoleBinding} (hb : BindingOk s.m b) {w : Work Tenant}
    (hw : w.resolved = s.resolved) : bindingScope b w = (.ok (s.scope b), w) := by
  unfold bindingScope scope
  cases hres : b.resource with
  | none => rfl
  | some key =>
      obtain ⟨e, he⟩ := Option.ne_none_iff_exists'.mp (hb.resource key hres)
      have hkey : w.resolved .resource key = some (s.resourceId key) := by
        rw [hw]
        simp [resolved, he]
      have hrun : requireResolved .resource key "resource" w = (.ok (s.resourceId key), w) := by
        unfold requireResolved
        rw [bind_run_ok (read_run w), hkey]
        rfl
      simp only
      rw [bind_run_ok hrun]
      rfl

/-- What is done about a binding, by what was read of the tenant. -/
theorem processOne_run {b : ManifestRoleBinding} (hb : BindingOk s.m b) {w : Work Tenant}
    (hw : w.resolved = s.resolved) :
    s.processOne failures t b w =
      match t.live s.subjectId (s.role b) with
      | none => reply failures (s.assigning b none) w
      | some a =>
          if bindingSatisfied (shown a (s.serverRole b)) (s.scope b) b.narrowed then (.ok (), w)
          else rebind (tenantApi failures) s.e.kind s.subjectId (s.role b)
            (shown a (s.serverRole b)) (s.scope b) b.narrowed w := by
  obtain ⟨e, he⟩ := Option.ne_none_iff_exists'.mp hb.role
  have hrole : w.resolved .role b.role = some (s.role b) := by
    rw [hw, role, roleName_eq he]
    simp [resolved, he]
  have hrun : requireResolved .role b.role "role" w = (.ok (s.role b), w) := by
    unfold requireResolved
    rw [bind_run_ok (read_run w), hrole]
    rfl
  unfold processOne reconcileBinding
  rw [bind_run_ok hrun, bind_run_ok (bindingScope_run hb hw), he]
  have hcurrent : s.current t e.name =
      (t.live s.subjectId (s.role b)).map fun a => shown a (s.serverRole b) := by
    rw [serverRole, role, roleName_eq he]
    rfl
  simp only [Option.bind_some, hcurrent]
  cases t.live s.subjectId (s.role b) with
  | none => exact assign_run ..
  | some a =>
      simp only [Option.map_some]
      split <;> rfl

/-- What one turn of the loop does. -/
structure Step (s : Setting) (failures : Failures) (t : Tenant) (b : ManifestRoleBinding)
    (w : Work Tenant) (out : Except Exc Unit × Work Tenant) : Prop where
  took : ∃ new, out.2.calls = w.calls ++ new ∧
    s.Took failures (t.live s.subjectId (s.role b)) b new out.1
  resolved : out.2.resolved = w.resolved
  frame : ∀ subject role, Tenant.Apart s.subjectId (s.role b) subject role →
    out.2.world.live subject role = w.world.live subject role
  /-- The tenant holds what was read of it, until the binding is processed. -/
  stated : w.world.live s.subjectId (s.role b) = t.live s.subjectId (s.role b) →
    out.1 = .ok () → s.Stated out.2.world b

section

variable {b : ManifestRoleBinding} {a : AssignRoleRequest} {r : Role} {w : Work Tenant}

/-- A restore returns the error of the tenant. -/
theorem restore_run :
    restore (tenantApi failures) s.e.kind s.subjectId (s.role b) (shown a r) w =
      (.ok ((failures (s.restoring b a) w.world).map fun f => f.error.what),
        w.sent failures (s.restoring b a)) := by
  have hassign : assign (tenantApi failures) s.e.kind s.subjectId (s.role b)
      ⟨a.resourceId, wireInherit (a.inherit == some false), a.tenantScope⟩ w =
        reply failures (s.restoring b a) w := assign_run ..
  unfold restore
  cases hf : failures (s.restoring b a) w.world with
  | none => exact catchAxiam_run_ok (bind_run_ok (hassign.trans (reply_ok hf)) _)
  | some f => exact catchAxiam_run_error (bind_run_error (hassign.trans (reply_error hf)) _)

/-- The live binding cannot be taken back. -/
theorem rebind_run_kept {f : Failure} (hun : failures (s.unassigning b a) w.world = some f) :
    rebind (tenantApi failures) s.e.kind s.subjectId (s.role b) (shown a r) (s.scope b)
        b.narrowed w =
      (.error (.axiam f.error), w.sent failures (s.unassigning b a)) :=
  bind_run_error ((unassign_run ..).trans (reply_error hun)) _

/-- It is taken back, and the stated one takes its place. -/
theorem rebind_run_rebound (hun : failures (s.unassigning b a) w.world = none)
    (has : failures (s.assigning b a.tenantScope) (w.sent failures (s.unassigning b a)).world =
      none) :
    rebind (tenantApi failures) s.e.kind s.subjectId (s.role b) (shown a r) (s.scope b)
        b.narrowed w =
      (.ok (), (w.sent failures (s.unassigning b a)).sent failures
        (s.assigning b a.tenantScope)) :=
  (bind_run_ok ((unassign_run ..).trans (reply_ok hun)) _).trans
    (catchAxiam_run_ok ((assign_run ..).trans (reply_ok has)))

/-- It is taken back, the stated one fails, and the restore is tried. -/
theorem rebind_run_lost {f : Failure} (hun : failures (s.unassigning b a) w.world = none)
    (has : failures (s.assigning b a.tenantScope) (w.sent failures (s.unassigning b a)).world =
      some f) :
    rebind (tenantApi failures) s.e.kind s.subjectId (s.role b) (shown a r) (s.scope b)
        b.narrowed w =
      let u := (w.sent failures (s.unassigning b a)).sent failures (s.assigning b a.tenantScope)
      (.error (.axiam (.rebind f.error.what (describeBinding (s.role b) a.resourceId)
        (failures (s.restoring b a) u.world).isNone
        ((failures (s.restoring b a) u.world).map fun f => f.error.what))),
        u.sent failures (s.restoring b a)) := by
  refine (bind_run_ok ((unassign_run ..).trans (reply_ok hun)) _).trans ?_
  refine (catchAxiam_run_error ((assign_run ..).trans (reply_error has))).trans ?_
  refine (bind_run_ok restore_run _).trans ?_
  simp only [throw_run, Option.isNone_map]
  rfl

/-- A request about a binding touches no other. -/
theorem sent_frame {c : Call} (hc : s.Requests b c) {subject role : Str}
    (h : Tenant.Apart s.subjectId (s.role b) subject role) :
    (w.sent failures c).world.live subject role = w.world.live subject role := by
  cases hc with
  | assign body _ => exact Tenant.assign_live_apart h
  | unassign resource => exact Tenant.unassign_live_apart h

theorem requests_assigning (tenants : Option (List Str)) :
    s.Requests b (s.assigning b tenants) :=
  .assign _ (wireInherit_eq b.narrowed)

theorem requests_unassigning : s.Requests b (s.unassigning b a) := .unassign _

theorem requests_restoring : s.Requests b (s.restoring b a) :=
  .assign _ (wireInherit_eq _)

/-- A binding that was assigned as stated is live as stated. -/
theorem stated_assigning {tenants : Option (List Str)}
    (h : failures (s.assigning b tenants) w.world = none) :
    s.Stated (w.sent failures (s.assigning b tenants)).world b :=
  ⟨_, Tenant.assign_live h, assigned_inForm b tenants⟩

/-- What one turn does, whatever the tenant answers. -/
theorem processOne_step (hb : BindingOk s.m b) (hw : w.resolved = s.resolved) :
    Step s failures t b w (s.processOne failures t b w) := by
  rw [processOne_run hb hw]
  cases hlive : t.live s.subjectId (s.role b) with
  | none =>
      have hframe : ∀ subject role, Tenant.Apart s.subjectId (s.role b) subject role →
          (w.sent failures (s.assigning b none)).world.live subject role =
            w.world.live subject role :=
        fun _ _ h => sent_frame (requests_assigning none) h
      simp only
      cases has : failures (s.assigning b none) w.world with
      | none =>
          rw [reply_ok has]
          exact ⟨⟨_, rfl, .assigned hlive has⟩, rfl, hframe, fun _ _ => stated_assigning has⟩
      | some f =>
          rw [reply_error has]
          exact ⟨⟨_, rfl, .refused hlive has⟩, rfl, hframe, fun _ h => by cases h⟩
  | some a =>
      simp only
      by_cases hform : s.InForm a b
      · rw [if_pos (bindingSatisfied_iff.mpr hform)]
        refine ⟨⟨[], (List.append_nil _).symm, .satisfied hlive hform⟩, rfl, fun _ _ _ => rfl, ?_⟩
        intro hread _
        exact ⟨a, hread.trans hlive, hform⟩
      · rw [if_neg (mt bindingSatisfied_iff.mp hform)]
        -- what is unassigned and assigned again is about this subject and role only
        have hunframe : ∀ subject role, Tenant.Apart s.subjectId (s.role b) subject role →
            (w.sent failures (s.unassigning b a)).world.live subject role =
              w.world.live subject role :=
          fun _ _ h => sent_frame requests_unassigning h
        cases hun : failures (s.unassigning b a) w.world with
        | some f =>
            rw [rebind_run_kept hun]
            exact ⟨⟨_, rfl, .kept hlive hform hun⟩, rfl, hunframe, fun _ h => by cases h⟩
        | none =>
            have hframe : ∀ subject role, Tenant.Apart s.subjectId (s.role b) subject role →
                ((w.sent failures (s.unassigning b a)).sent failures
                  (s.assigning b a.tenantScope)).world.live subject role =
                    w.world.live subject role :=
              fun _ _ h => (sent_frame (requests_assigning _) h).trans (hunframe _ _ h)
            cases has : failures (s.assigning b a.tenantScope)
                (w.sent failures (s.unassigning b a)).world with
            | none =>
                rw [rebind_run_rebound hun has]
                exact ⟨⟨_, List.append_assoc .., .rebound hlive hform hun has⟩, rfl, hframe,
                  fun _ _ => stated_assigning has⟩
            | some f =>
                rw [rebind_run_lost hun has]
                refine ⟨⟨_, ?_, .lost hlive hform hun has⟩, rfl,
                  fun _ _ h => (sent_frame requests_restoring h).trans (hframe _ _ h),
                  fun _ h => by cases h⟩
                simp [Work.sent, Work.noted]

/-- The requests of a turn are all for the binding's role. -/
theorem Took.requests {live : Option AssignRoleRequest} {new : List (Call × Tenant)}
    {out : Except Exc Unit} (h : s.Took failures live b new out) : ∀ x ∈ new, s.Requests b x.1 := by
  cases h with
  | satisfied => simp
  | assigned => simpa using requests_assigning none
  | refused => simpa using requests_assigning none
  | kept => simpa using requests_unassigning
  | rebound => simpa using ⟨requests_unassigning, requests_assigning _⟩
  | lost => simpa using ⟨requests_unassigning, requests_assigning _, requests_restoring⟩

end

/-! ## The loop -/

section

variable {b : ManifestRoleBinding} {l rest : List ManifestRoleBinding} {w u : Work Tenant}

theorem process_nil (w : Work Tenant) : s.process failures t [] w = (.ok (), w) := rfl

/-- One turn, then the others. -/
theorem process_cons (b : ManifestRoleBinding) (rest : List ManifestRoleBinding)
    (w : Work Tenant) :
    s.process failures t (b :: rest) w = match s.processOne failures t b w with
      | (.ok _, u) => s.process failures t rest u
      | (.error e, u) => (.error e, u) := by
  show (Prog.each (s.processOne failures t) (b :: rest) >>= fun _ => pure ()) w = _
  rw [Prog.each, bind_assoc_run, bind_run]
  rcases s.processOne failures t b w with ⟨e | _, u⟩
  · rfl
  · exact bind_assoc_run ..

theorem process_cons_ok (h : s.processOne failures t b w = (.ok (), u)) :
    s.process failures t (b :: rest) w = s.process failures t rest u := by
  rw [process_cons, h]

theorem process_cons_error {e : Exc} (h : s.processOne failures t b w = (.error e, u)) :
    s.process failures t (b :: rest) w = (.error e, u) := by
  rw [process_cons, h]

theorem turns_cons_ok (h : s.processOne failures t b w = (.ok (), u)) :
    s.turns failures t (b :: rest) w = ⟨b, w, .ok (), u⟩ :: s.turns failures t rest u := by
  rw [turns, h]

theorem turns_cons_error {e : Exc} (h : s.processOne failures t b w = (.error e, u)) :
    s.turns failures t (b :: rest) w = [⟨b, w, .error e, u⟩] := by
  rw [turns, h]

/-- The loop and its turns. -/
structure Follows (l : List ManifestRoleBinding) (w : Work Tenant)
    (out : Except Exc Unit × Work Tenant) (us : List Turn) : Prop where
  order : us.map Turn.binding <+: l
  stops : ∀ u ∈ us.dropLast, u.outcome = .ok ()
  ends : out = ((us.getLast?.map Turn.outcome).getD (.ok ()),
    (us.getLast?.map Turn.after).getD w)
  complete : out.1 = .ok () → us.map Turn.binding = l

variable (s failures t) in
theorem turns_follow (l : List ManifestRoleBinding) (w : Work Tenant) :
    Follows l w (s.process failures t l w) (s.turns failures t l w) := by
  induction l generalizing w with
  | nil => exact ⟨List.prefix_refl _, by simp [turns], rfl, fun _ => rfl⟩
  | cons b rest ih =>
      rcases hone : s.processOne failures t b w with ⟨e | _, u⟩
      · rw [process_cons_error hone, turns_cons_error hone]
        refine ⟨?_, by simp, rfl, fun h => by cases h⟩
        exact List.cons_prefix_cons.mpr ⟨rfl, List.nil_prefix⟩
      · rw [process_cons_ok hone, turns_cons_ok hone]
        obtain ⟨horder, hstops, hends, hcomplete⟩ := ih u
        refine ⟨List.cons_prefix_cons.mpr ⟨rfl, horder⟩, ?_, ?_, fun h => ?_⟩
        · rcases hus : s.turns failures t rest u with _ | ⟨v, vs⟩
          · simp
          · rw [hus] at hstops
            rw [List.dropLast_cons_cons]
            exact List.forall_mem_cons.mpr ⟨rfl, hstops⟩
        · rw [hends, getLast?_cons_getD]
          cases (s.turns failures t rest u).getLast? <;> rfl
        · rw [List.map_cons, hcomplete h]

theorem process_requests (hl : ∀ b ∈ l, BindingOk s.m b) (hw : w.resolved = s.resolved) :
    ∃ new, (s.process failures t l w).2.calls = w.calls ++ new ∧
      ∀ x ∈ new, ∃ b ∈ l, s.Requests b x.1 := by
  induction l generalizing w with
  | nil => exact ⟨[], by simp [process_nil], by simp⟩
  | cons b rest ih =>
      rw [List.forall_mem_cons] at hl
      have hstep : Step s failures t b w (s.processOne failures t b w) := processOne_step hl.1 hw
      obtain ⟨⟨new, hnew, htook⟩, hresolved, -, -⟩ := hstep
      have hrequests : ∀ x ∈ new, ∃ b' ∈ b :: rest, s.Requests b' x.1 := fun x hx =>
        ⟨b, List.mem_cons_self, htook.requests x hx⟩
      rcases hone : s.processOne failures t b w with ⟨e | _, u⟩ <;> rw [hone] at hnew hresolved
      · rw [process_cons_error hone]
        exact ⟨new, hnew, hrequests⟩
      · rw [process_cons_ok hone]
        obtain ⟨more, hmore, hothers⟩ := ih hl.2 (hresolved.trans hw)
        refine ⟨new ++ more, ?_, fun x hx => ?_⟩
        · rw [hmore, hnew, List.append_assoc]
        · rcases List.mem_append.mp hx with hx | hx
          · exact hrequests x hx
          · obtain ⟨b', hb', h⟩ := hothers x hx
            exact ⟨b', List.mem_cons_of_mem b hb', h⟩

/-- The bindings a list does not touch stay. -/
theorem process_frame {subject role : Str} (hl : ∀ b ∈ l, BindingOk s.m b)
    (hw : w.resolved = s.resolved)
    (hapart : ∀ b ∈ l, Tenant.Apart s.subjectId (s.role b) subject role) :
    (s.process failures t l w).2.world.live subject role = w.world.live subject role := by
  induction l generalizing w with
  | nil => rfl
  | cons b rest ih =>
      rw [List.forall_mem_cons] at hl hapart
      have hstep : Step s failures t b w (s.processOne failures t b w) := processOne_step hl.1 hw
      have hframe := hstep.frame subject role hapart.1
      have hresolved := hstep.resolved
      rcases hone : s.processOne failures t b w with ⟨e | _, u⟩ <;> rw [hone] at hframe hresolved
      · rw [process_cons_error hone]
        exact hframe
      · rw [process_cons_ok hone]
        exact (ih hl.2 (hresolved.trans hw) hapart.2).trans hframe

theorem turns_took (hl : ∀ b ∈ l, BindingOk s.m b) (hw : w.resolved = s.resolved) :
    ∀ u ∈ s.turns failures t l w, ∃ new, u.after.calls = u.before.calls ++ new ∧
      s.Took failures (t.live s.subjectId (s.role u.binding)) u.binding new u.outcome := by
  induction l generalizing w with
  | nil => simp [turns]
  | cons b rest ih =>
      rw [List.forall_mem_cons] at hl
      have hstep : Step s failures t b w (s.processOne failures t b w) := processOne_step hl.1 hw
      have htook := hstep.took
      have hresolved := hstep.resolved
      rcases hone : s.processOne failures t b w with ⟨e | _, u⟩ <;> rw [hone] at htook hresolved
      · rw [turns_cons_error hone]
        exact List.forall_mem_singleton.mpr htook
      · rw [turns_cons_ok hone]
        exact List.forall_mem_cons.mpr ⟨htook, ih hl.2 (hresolved.trans hw)⟩

/-- When no two bindings are of one role, what a turn has done stands to the end. -/
theorem turns_stand (hl : ∀ b ∈ l, BindingOk s.m b) (hw : w.resolved = s.resolved)
    (hdistinct : (l.map s.role).Nodup)
    (hread : ∀ b ∈ l, w.world.live s.subjectId (s.role b) = t.live s.subjectId (s.role b)) :
    ∀ u ∈ s.turns failures t l w, u.outcome = .ok () →
      s.Stated (s.process failures t l w).2.world u.binding := by
  induction l generalizing w with
  | nil => simp [turns]
  | cons b rest ih =>
      rw [List.forall_mem_cons] at hl hread
      rw [List.map_cons, List.nodup_cons] at hdistinct
      have hstep : Step s failures t b w (s.processOne failures t b w) := processOne_step hl.1 hw
      obtain ⟨-, hresolved, hframe, hstated⟩ := hstep
      rcases hone : s.processOne failures t b w with ⟨e | _, u⟩ <;>
        rw [hone] at hframe hresolved hstated
      · rw [turns_cons_error hone]
        exact List.forall_mem_singleton.mpr fun h => by cases h
      · rw [turns_cons_ok hone, process_cons_ok hone]
        -- the roles of the rest are not the role of this binding
        have hother : ∀ b' ∈ rest, s.role b' ≠ s.role b := fun b' hb' h =>
          hdistinct.1 (h ▸ List.mem_map_of_mem hb')
        refine List.forall_mem_cons.mpr ⟨fun _ => ?_, ih hl.2 (hresolved.trans hw) hdistinct.2 ?_⟩
        · obtain ⟨a, hlive, hform⟩ := hstated hread.1 rfl
          refine ⟨a, (process_frame hl.2 (hresolved.trans hw) fun b' hb' h => ?_).trans hlive, hform⟩
          exact hother b' hb' h.2.symm
        · intro b' hb'
          exact (hframe _ _ fun h => hother b' hb' h.2).trans (hread.2 b' hb')

end

/-- Bindings of different roles are reconciled as promised. -/
theorem reconciled_of_nodup (hdistinct : (s.e.roles.map (roleName s.m)).Nodup) :
    s.Reconciled failures t := by
  have hroles : (s.e.roles.map s.role).Nodup := by
    have := hdistinct.map s.apart
    rwa [List.map_map] at this
  obtain ⟨horder, hstops, hends, hcomplete⟩ := turns_follow s failures t s.e.roles (s.start t)
  refine ⟨?_, horder, turns_took bindings_ok rfl, hstops, hends, hcomplete,
    turns_stand bindings_ok rfl hroles fun _ _ => rfl⟩
  have hcalls : ∃ new, (s.run failures t).2.calls = [] ++ new ∧
      ∀ x ∈ new, ∃ b ∈ s.e.roles, s.Requests b x.1 := process_requests bindings_ok rfl
  obtain ⟨new, hnew, hrequests⟩ := hcalls
  rw [hnew]
  exact hrequests

/-! ## Two bindings of one role -/

/-- The first two elements of a list that agree. -/
theorem exists_pair_of_not_nodup {α β : Type} {f : α → β} {l : List α} (h : ¬(l.map f).Nodup) :
    ∃ p x q y r, l = p ++ x :: (q ++ y :: r) ∧ f y = f x ∧ (∀ z ∈ p, f z ≠ f x) ∧
      ∀ z ∈ q, f z ≠ f x := by
  induction l with
  | nil => exact absurd List.nodup_nil h
  | cons x rest ih =>
      by_cases hx : f x ∈ rest.map f
      · obtain ⟨as, bs, hsplit, hnew⟩ := List.eq_append_cons_of_mem hx
        obtain ⟨q, more, rfl, rfl, hmore⟩ := List.map_eq_append_iff.mp hsplit
        obtain ⟨y, r, rfl, hy, -⟩ := List.map_eq_cons_iff.mp hmore
        exact ⟨[], x, q, y, r, rfl, hy, by simp,
          fun z hz heq => hnew (heq ▸ List.mem_map_of_mem hz)⟩
      · have hrest : ¬(rest.map f).Nodup := fun hnodup =>
          h (List.nodup_cons.mpr ⟨hx, hnodup⟩)
        obtain ⟨p, x', q, y, r, rfl, hy, hp, hq⟩ := ih hrest
        refine ⟨x :: p, x', q, y, r, rfl, hy, List.forall_mem_cons.mpr ⟨fun heq => hx ?_, hp⟩, hq⟩
        rw [heq]
        exact List.mem_map_of_mem (by simp)

/-- A resource that two bindings are not scoped to. -/
theorem exists_other_resource (a b : Option Str) : ∃ id : Str, some id ≠ a ∧ some id ≠ b := by
  have hlonger : ∀ c : Option Str, (c.getD []).length ≤ (a.getD [] ++ b.getD []).length →
      some (0 :: (a.getD [] ++ b.getD [])) ≠ c := by
    intro c hc heq
    rw [← heq, Option.getD_some, List.length_cons] at hc
    omega
  refine ⟨_, hlonger a ?_, hlonger b ?_⟩ <;> rw [List.length_append]
  · exact Nat.le_add_right ..
  · exact Nat.le_add_left ..

section

variable (s) (x y : ManifestRoleBinding) (id : Str)

/-- A tenant in which the subject holds one role, at a resource of its own. -/
def holding : Tenant where
  live subject role :=
    if subject = s.subjectId ∧ role = s.role x then some ⟨some id, none, none⟩ else none
  asked := 0

/-- The tenant refuses a second binding of a role that is held. -/
def refusing : Failures := fun c t =>
  if c = s.assigning y none ∧ (t.live s.subjectId (s.role y)).isSome then some ⟨.base [], false⟩
  else none

variable {s x y id}

theorem assignCall_inj {kind : ManifestKind} {subject role role' : Str}
    {body body' : AssignRoleRequest}
    (h : assignCall kind subject role body = assignCall kind subject role' body') :
    role = role' ∧ body = body' := by
  cases kind <;> simpa [assignCall] using h

theorem unassignCall_ne_assignCall {kind : ManifestKind} {subject role role' : Str}
    {resource : Option Str} {body : AssignRoleRequest} :
    unassignCall kind subject role resource ≠ assignCall kind subject role' body := by
  cases kind <;> simp [assignCall, unassignCall]

theorem refusing_unassigning (b : ManifestRoleBinding) (a : AssignRoleRequest) (t : Tenant) :
    s.refusing y (s.unassigning b a) t = none :=
  if_neg fun h => unassignCall_ne_assignCall h.1

variable (id) in
/-- The bindings of other roles are all assigned. -/
theorem process_others {l : List ManifestRoleBinding} (hl : ∀ b ∈ l, BindingOk s.m b)
    (hx : ∀ b ∈ l, s.role b ≠ s.role x) (hy : s.role y = s.role x) {w : Work Tenant}
    (hw : w.resolved = s.resolved) :
    ∃ u, s.process (s.refusing y) (s.holding x id) l w = (.ok (), u) ∧ u.resolved = s.resolved ∧
      u.world.live s.subjectId (s.role x) = w.world.live s.subjectId (s.role x) := by
  induction l generalizing w with
  | nil => exact ⟨w, rfl, hw, rfl⟩
  | cons b rest ih =>
      rw [List.forall_mem_cons] at hl hx
      have hlive : (s.holding x id).live s.subjectId (s.role b) = none :=
        if_neg fun h => hx.1 h.2
      have has : s.refusing y (s.assigning b none) w.world = none :=
        if_neg fun h => hx.1 ((assignCall_inj h.1).1.trans hy)
      have hone : s.processOne (s.refusing y) (s.holding x id) b w =
          (.ok (), w.sent (s.refusing y) (s.assigning b none)) := by
        rw [processOne_run hl.1 hw, hlive]
        exact reply_ok has
      obtain ⟨u, hrun, hresolved, hsame⟩ := ih hl.2 hx.2
        (w := w.sent (s.refusing y) (s.assigning b none)) hw
      refine ⟨u, ?_, hresolved, hsame.trans ?_⟩
      · rw [process_cons_ok hone]
        exact hrun
      · exact sent_frame (requests_assigning none) fun h => hx.1 h.2.symm

theorem holding_live : (s.holding x id).live s.subjectId (s.role x) = some ⟨some id, none, none⟩ :=
  if_pos ⟨rfl, rfl⟩

/-- The first binding of the role takes the place of the one that was held. -/
theorem processOne_first (hb : BindingOk s.m x) (hx : some id ≠ s.scope x) {w : Work Tenant}
    (hw : w.resolved = s.resolved) (hy : s.role y = s.role x)
    (hlive : w.world.live s.subjectId (s.role x) = some ⟨some id, none, none⟩) :
    ∃ u, s.processOne (s.refusing y) (s.holding x id) x w = (.ok (), u) ∧
      u.resolved = s.resolved ∧ u.world.live s.subjectId (s.role x) =
        some ⟨s.scope x, wireInherit x.narrowed, none⟩ := by
  have hform : ¬s.InForm ⟨some id, none, none⟩ x := fun h => hx h.resource
  have hun := refusing_unassigning (s := s) (y := y) x ⟨some id, none, none⟩ w.world
  have hgone : (w.sent (s.refusing y) (s.unassigning x ⟨some id, none, none⟩)).world.live
      s.subjectId (s.role x) = none := Tenant.unassign_live hlive hun
  have has : s.refusing y (s.assigning x none)
      (w.sent (s.refusing y) (s.unassigning x ⟨some id, none, none⟩)).world = none := by
    refine if_neg fun h => ?_
    rw [hy, hgone] at h
    cases h.2
  have hrun : s.processOne (s.refusing y) (s.holding x id) x w =
      rebind (tenantApi (s.refusing y)) s.e.kind s.subjectId (s.role x)
        (shown ⟨some id, none, none⟩ (s.serverRole x)) (s.scope x) x.narrowed w := by
    rw [processOne_run hb hw, holding_live]
    exact if_neg (mt bindingSatisfied_iff.mp hform)
  exact ⟨_, hrun.trans (rebind_run_rebound hun has), hw, Tenant.assign_live has⟩

/-- The second fails, and the restore takes the place of the first. -/
theorem processOne_second (hb : BindingOk s.m y) (hscope : some id ≠ s.scope y) {w : Work Tenant}
    (hw : w.resolved = s.resolved) (hy : s.role y = s.role x) {a : AssignRoleRequest}
    (hlive : w.world.live s.subjectId (s.role x) = some a) (ha : a.resourceId ≠ some id) :
    ∃ e u, s.processOne (s.refusing y) (s.holding x id) y w = (.error e, u) ∧
      u.world.live s.subjectId (s.role x) = some ⟨some id, none, none⟩ := by
  rw [← hy] at hlive ⊢
  have hform : ¬s.InForm ⟨some id, none, none⟩ y := fun h => hscope h.resource
  have hun := refusing_unassigning (s := s) (y := y) y ⟨some id, none, none⟩ w.world
  have hkept : (w.sent (s.refusing y) (s.unassigning y ⟨some id, none, none⟩)).world.live
      s.subjectId (s.role y) = some a := by
    refine (Tenant.unassign_other ?_).trans hlive
    rw [hlive]
    simpa using ha
  have has : s.refusing y (s.assigning y none)
      (w.sent (s.refusing y) (s.unassigning y ⟨some id, none, none⟩)).world =
        some ⟨.base [], false⟩ := if_pos ⟨rfl, by rw [hkept]; rfl⟩
  have hrestore : ∀ t, s.refusing y (s.restoring y ⟨some id, none, none⟩) t = none := fun t =>
    if_neg fun h => hscope (congrArg AssignRoleRequest.resourceId (assignCall_inj h.1).2)
  have hrun : s.processOne (s.refusing y) (s.holding x id) y w =
      rebind (tenantApi (s.refusing y)) s.e.kind s.subjectId (s.role y)
        (shown ⟨some id, none, none⟩ (s.serverRole y)) (s.scope y) y.narrowed w := by
    rw [processOne_run hb hw, hy, holding_live, ← hy]
    exact if_neg (mt bindingSatisfied_iff.mp hform)
  exact ⟨_, _, hrun.trans (rebind_run_lost hun has), Tenant.assign_live (hrestore _)⟩

end

theorem process_append {p l : List ManifestRoleBinding} {w u : Work Tenant}
    (h : s.process failures t p w = (.ok (), u)) :
    s.process failures t (p ++ l) w = s.process failures t l u := by
  induction p generalizing w with
  | nil => cases h; rfl
  | cons b rest ih =>
      rw [List.cons_append]
      rcases hone : s.processOne failures t b w with ⟨e | _, v⟩
      · rw [process_cons_error hone] at h
        cases h
      · rw [process_cons_ok hone] at h ⊢
        exact ih h

theorem turn_mem {p rest : List ManifestRoleBinding} {b : ManifestRoleBinding}
    {w u v : Work Tenant} (hp : s.process failures t p w = (.ok (), u))
    (hb : s.processOne failures t b u = (.ok (), v)) :
    ⟨b, u, .ok (), v⟩ ∈ s.turns failures t (p ++ b :: rest) w := by
  induction p generalizing w with
  | nil =>
      cases hp
      rw [List.nil_append, turns_cons_ok hb]
      exact List.mem_cons_self
  | cons b' rest' ih =>
      rw [List.cons_append]
      rcases hone : s.processOne failures t b' w with ⟨e | _, v'⟩
      · rw [process_cons_error hone] at hp
        cases hp
      · rw [process_cons_ok hone] at hp
        rw [turns_cons_ok hone]
        exact List.mem_cons_of_mem _ (ih hp)

/-- The second binding of a role, refused and restored, undoes the first. -/
theorem not_reconciled {p q r : List ManifestRoleBinding} {x y : ManifestRoleBinding} {id : Str}
    (hsplit : s.e.roles = p ++ x :: (q ++ y :: r)) (hy : s.role y = s.role x)
    (hp : ∀ z ∈ p, s.role z ≠ s.role x) (hq : ∀ z ∈ q, s.role z ≠ s.role x)
    (hidx : some id ≠ s.scope x) (hidy : some id ≠ s.scope y) :
    ¬s.Reconciled (s.refusing y) (s.holding x id) := by
  intro h
  have hok := bindings_ok (s := s)
  simp only [hsplit, List.forall_mem_append, List.forall_mem_cons] at hok
  obtain ⟨hpok, hxok, hqok, hyok, -⟩ := hok
  -- up to the first, at the first, between them, at the second
  obtain ⟨w₁, hrun₁, hw₁, hlive₁⟩ := process_others id hpok hp hy
    (rfl : (s.start (s.holding x id)).resolved = s.resolved)
  obtain ⟨w₂, hrun₂, hw₂, hlive₂⟩ := processOne_first hxok hidx hw₁ hy
    (hlive₁.trans holding_live)
  obtain ⟨w₃, hrun₃, hw₃, hlive₃⟩ := process_others id hqok hq hy hw₂
  obtain ⟨e, w₄, hrun₄, hlive₄⟩ := processOne_second hyok hidy hw₃ hy (hlive₃.trans hlive₂)
    (Ne.symm hidx)
  have hall : s.run (s.refusing y) (s.holding x id) = (.error e, w₄) := by
    rw [run, hsplit, process_append hrun₁, process_cons_ok hrun₂, process_append hrun₃,
      process_cons_error hrun₄]
  have hturn : (⟨x, w₁, .ok (), w₂⟩ : Turn) ∈ s.allTurns (s.refusing y) (s.holding x id) := by
    rw [allTurns, hsplit]
    exact turn_mem hrun₁ hrun₂
  obtain ⟨a, hlive, hform⟩ := h.stands _ hturn rfl
  rw [hall, hlive₄] at hlive
  cases hlive
  exact hidx hform.resource

/-- Two bindings of one role undo each other in some tenant. -/
theorem nodup_of_reconciled (h : ∀ failures t, s.Reconciled failures t) :
    (s.e.roles.map (roleName s.m)).Nodup := by
  by_contra hdup
  obtain ⟨p, x, q, y, r, hsplit, hname, hp, hq⟩ := exists_pair_of_not_nodup hdup
  have hne : ∀ z, roleName s.m z ≠ roleName s.m x → s.role z ≠ s.role x :=
    fun z hz heq => hz (s.apart heq)
  obtain ⟨id, hidx, hidy⟩ := exists_other_resource (s.scope x) (s.scope y)
  exact not_reconciled hsplit (congrArg s.roleId hname) (fun z hz => hne z (hp z hz))
    (fun z hz => hne z (hq z hz)) hidx hidy (h _ _)

end Setting

/-- The bindings of a subject are reconciled as promised, whatever the tenant holds and answers,
exactly when no two of them are of roles with one name. -/
theorem reconcile_role_bindings_iff (s : Setting) :
    (∀ failures t, s.Reconciled failures t) ↔ (s.e.roles.map (roleName s.m)).Nodup :=
  ⟨Setting.nodup_of_reconciled, fun h _ _ => Setting.reconciled_of_nodup h⟩

/-- One role under two keys, and a group bound to both. -/
def doubleRole : ManifestEntity where
  kind := .group
  key := str "ops"
  name := str "ops"
  roles := [{ role := str "audit" }, { role := str "review", resource := some (str "vault") }]

def doubleRoleManifest : Manifest where
  entities := [
    { kind := .resource, key := str "vault", name := str "vault", resourceType := str "folder" },
    { kind := .role, key := str "audit", name := str "Auditor" },
    { kind := .role, key := str "review", name := str "Auditor" },
    doubleRole]

/-- The group in a tenant whose ids are the names. -/
def doubleRoleSetting : Setting where
  m := doubleRoleManifest
  valid := by decide
  e := doubleRole
  declared := by simp [doubleRoleManifest]
  holds := rfl
  subjectId := str "ops"
  roleId name := name
  apart := Function.injective_id
  resourceId key := key

/-- The group holds the role at a resource of its own; the second binding is refused, and restoring
what was read takes the first away again. -/
theorem double_role_undone :
    ¬doubleRoleSetting.Reconciled
      (doubleRoleSetting.refusing { role := str "review", resource := some (str "vault") })
      (doubleRoleSetting.holding { role := str "audit" } (str "attic")) :=
  Setting.not_reconciled (p := []) (q := []) (r := []) rfl (by decide) (by simp) (by simp)
    (by decide) (by decide)

/-- The group in a tenant where the second role has a name of its own. -/
def twoRoleSetting : Setting where
  m := { entities := [
    { kind := .resource, key := str "vault", name := str "vault", resourceType := str "folder" },
    { kind := .role, key := str "audit", name := str "Auditor" },
    { kind := .role, key := str "review", name := str "Reviewer" },
    doubleRole] }
  valid := by decide
  e := doubleRole
  declared := by simp
  holds := rfl
  subjectId := str "ops"
  roleId name := name
  apart := Function.injective_id
  resourceId key := key

/-- There the first binding stands when the second is refused. -/
theorem two_roles_reconciled :
    twoRoleSetting.Reconciled
      (twoRoleSetting.refusing { role := str "review", resource := some (str "vault") })
      (twoRoleSetting.holding { role := str "audit" } (str "attic")) :=
  (reconcile_role_bindings_iff twoRoleSetting).mpr (by decide) _ _

end Axiam.Management
