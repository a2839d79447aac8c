import Axiam.Lib.Prog
import Axiam.Management.Manifest

/-!
# The calls of the manifest engine

The management operations a plan or an apply uses (`src/management_ops.cpp`), their request
bodies, and the JSON each body is sent as (`src/management_models.cpp`).  A body is built
before anything is sent, and building it may throw.
-/

namespace Axiam.Management

open Axiam.Lib

/-- `PageRequest`; the manifest never searches and never filters by site. -/
structure PageRequest where
  offset : Nat
  limit : Nat
  deriving DecidableEq

/-- `PageRequest::next`: advanced by the limit, not by what came back. -/
def PageRequest.next (r : PageRequest) : PageRequest := { r with offset := r.offset + r.limit }

/-- `kScanLimit`. -/
def kScanLimit : Nat := 200

def PageRequest.first : PageRequest := ⟨0, kScanLimit⟩

/-- `Page`: the items of one page, and the server's count over all pages. -/
structure Page (α : Type) where
  items : List α
  total : Int

/-! ## Request bodies -/

structure CreateResourceRequest where
  name : Str
  resourceType : Str
  parentId : Option Str
  metadata : Option Str
  deriving DecidableEq

structure UpdateResourceRequest where
  name : Str
  parentId : Option Str
  metadata : Option Str
  deriving DecidableEq

structure CreatePermissionRequest where
  action : Str
  description : Str
  deriving DecidableEq

structure CreateRoleRequest where
  name : Str
  description : Str
  isGlobal : Bool
  deriving DecidableEq

structure CreateGroupRequest where
  name : Str
  description : Str
  deriving DecidableEq

structure CreateServiceAccountRequest where
  name : Str
  description : Option Str
  deriving DecidableEq

/-- `AssignRoleToGroupRequest` and `AssignRoleToServiceAccountRequest`, less the subject. -/
structure AssignRoleRequest where
  resourceId : Option Str
  inherit : Option Bool
  tenantScope : Option (List Str)
  deriving DecidableEq

structure CreateNetworkSegmentRequest where
  kind : NetworkSegmentKind
  siteKey : Str
  name : Str
  vlanId : Int
  rank : Option Int
  filterIds : Option (List Str)
  enabled : Option Bool
  deriving DecidableEq

structure ReplaceNetworkSegmentRequest where
  version : Int
  vlanId : Int
  filterIds : List Str
  enabled : Bool
  rank : Option Int
  deriving DecidableEq

structure NetworkReplyProfileInput where
  dictionary : Option Str
  sessionTimeoutSecs : Int
  terminationAction : Option RadiusTerminationAction
  idleTimeoutSecs : Option Int
  filterId : Option Str
  serviceType : Option RadiusServiceType
  deriving DecidableEq

structure CreateNetworkReplyProfileRequest where
  profile : NetworkReplyProfileInput
  segmentId : Str
  segmentVersion : Int
  deriving DecidableEq

structure ReplaceNetworkReplyProfileRequest where
  version : Int
  segmentVersion : Int
  profile : NetworkReplyProfileInput
  deriving DecidableEq

structure ReplaceNetworkPolicyRequest where
  sessionTimeoutMaxSecs : Int
  version : Int
  deriving DecidableEq

/-! ## Calls -/

/-- One management operation with its arguments.  An update of a permission, a role, a group
or a service account states a description and nothing else. -/
inductive Call where
  | listResources (page : PageRequest)
  | listPermissions (page : PageRequest)
  | listRoles (page : PageRequest)
  | listGroups (page : PageRequest)
  | listServiceAccounts (page : PageRequest)
  | groupRoles (groupId : Str)
  | serviceAccountRoles (serviceAccountId : Str)
  | listSegments (page : PageRequest)
  | listProfiles (page : PageRequest)
  | getPolicy
  | createResource (body : CreateResourceRequest)
  | updateResource (id : Str) (body : UpdateResourceRequest)
  | createPermission (body : CreatePermissionRequest)
  | updatePermission (id description : Str)
  | createRole (body : CreateRoleRequest)
  | updateRole (id description : Str)
  | createGroup (body : CreateGroupRequest)
  | updateGroup (id description : Str)
  | createServiceAccount (body : CreateServiceAccountRequest)
  | updateServiceAccount (id description : Str)
  | assignToGroup (roleId groupId : Str) (body : AssignRoleRequest)
  | unassignFromGroup (roleId groupId : Str) (resourceId : Option Str)
  | assignToServiceAccount (roleId serviceAccountId : Str) (body : AssignRoleRequest)
  | unassignFromServiceAccount (roleId serviceAccountId : Str) (resourceId : Option Str)
  | createSegment (body : CreateNetworkSegmentRequest)
  | replaceSegment (id : Str) (body : ReplaceNetworkSegmentRequest)
  | createProfile (body : CreateNetworkReplyProfileRequest)
  | replaceProfile (segmentId : Str) (body : ReplaceNetworkReplyProfileRequest)
  | replacePolicy (body : ReplaceNetworkPolicyRequest)
  deriving DecidableEq

namespace Call

/-- What an operation returns. -/
abbrev Reply : Call → Type
  | listResources _ => Page Resource
  | listPermissions _ => Page Permission
  | listRoles _ => Page Role
  | listGroups _ => Page Group
  | listServiceAccounts _ => Page ServiceAccountResponse
  | groupRoles _ | serviceAccountRoles _ => List RoleAssignment
  | listSegments _ => Page NetworkSegmentResponse
  | listProfiles _ => Page NetworkReplyProfile
  | getPolicy | replacePolicy _ => NetworkPolicyResponse
  | createResource _ | updateResource _ _ => Resource
  | createPermission _ | updatePermission _ _ => Permission
  | createRole _ | updateRole _ _ => Role
  | createGroup _ | updateGroup _ _ => Group
  | createServiceAccount _ => ServiceAccountCreatedResponse
  | updateServiceAccount _ _ => ServiceAccountResponse
  | assignToGroup _ _ _ | unassignFromGroup _ _ _ => Unit
  | assignToServiceAccount _ _ _ | unassignFromServiceAccount _ _ _ => Unit
  | createSegment _ | replaceSegment _ _ => NetworkSegmentResponse
  | createProfile _ | replaceProfile _ _ => NetworkReplyProfile

/-- Whether an operation only reads. -/
def reads : Call → Bool
  | listResources _ | listPermissions _ | listRoles _ | listGroups _ | listServiceAccounts _
  | groupRoles _ | serviceAccountRoles _ | listSegments _ | listProfiles _ | getPolicy => true
  | _ => false

/-- The members that are there; an unset one is left out and never sent as `null`. -/
def members (l : List (Str × Option Json)) : Json :=
  .object (l.filterMap fun m => m.2.map fun j => (m.1, j))

def text (s : Str) : Option Json := some (.string s)

def texts (l : List Str) : Json := .array (l.map Json.string)

/-- `metadata`, left out when its text does not parse. -/
def metadataMember (parse : Parser) (metadata : Option Str) : Option Json := metadata.bind parse

/-- `to_json` of the two assignment bodies: an empty scope is left out. -/
def scopeMember (scope : Option (List Str)) : Option Json :=
  match scope with
  | none | some [] => none
  | some tenants => some (texts tenants)

/-- `to_json` of a `NetworkReplyProfileInput`. -/
def profileJson (p : NetworkReplyProfileInput) : Except Exc Json := do
  let service ← p.serviceType.mapM RadiusServiceType.sendWire
  let termination ← p.terminationAction.mapM RadiusTerminationAction.sendWire
  .ok (members [
    ("dictionary", p.dictionary.map .string), ("filter_id", p.filterId.map .string),
    ("idle_timeout_secs", p.idleTimeoutSecs.map .integer),
    ("service_type", service.map .string),
    ("session_timeout_secs", some (.integer p.sessionTimeoutSecs)),
    ("termination_action", termination.map .string)])

/-- The body of a call as JSON, and none for a call without one. -/
def body (parse : Parser) : Call → Except Exc (Option Json)
  | createResource b =>
      .ok (some (members [("metadata", metadataMember parse b.metadata), ("name", text b.name),
        ("parent_id", b.parentId.map .string), ("resource_type", text b.resourceType)]))
  | updateResource _ b =>
      .ok (some (members [("metadata", metadataMember parse b.metadata), ("name", text b.name),
        ("parent_id", b.parentId.map .string)]))
  | createPermission b =>
      .ok (some (members [("action", text b.action), ("description", text b.description)]))
  | createRole b =>
      .ok (some (members [("description", text b.description),
        ("is_global", some (.boolean b.isGlobal)), ("name", text b.name)]))
  | createGroup b =>
      .ok (some (members [("description", text b.description), ("name", text b.name)]))
  | createServiceAccount b =>
      .ok (some (members [("description", b.description.map .string), ("name", text b.name)]))
  | updatePermission _ description | updateRole _ description | updateGroup _ description
  | updateServiceAccount _ description => .ok (some (members [("description", text description)]))
  | assignToGroup _ groupId b =>
      .ok (some (members [("group_id", text groupId), ("inherit", b.inherit.map .boolean),
        ("resource_id", b.resourceId.map .string), ("tenant_scope", scopeMember b.tenantScope)]))
  | assignToServiceAccount _ serviceAccountId b =>
      .ok (some (members [("inherit", b.inherit.map .boolean),
        ("resource_id", b.resourceId.map .string),
        ("service_account_id", text serviceAccountId),
        ("tenant_scope", scopeMember b.tenantScope)]))
  | createSegment b => do
      let kind ← b.kind.sendWire
      .ok (some (members [("enabled", b.enabled.map .boolean),
        ("filter_ids", b.filterIds.map texts), ("kind", text kind), ("name", text b.name),
        ("rank", b.rank.map .integer), ("site_key", text b.siteKey),
        ("vlan_id", some (.integer b.vlanId))]))
  | replaceSegment _ b =>
      .ok (some (members [("enabled", some (.boolean b.enabled)),
        ("filter_ids", some (texts b.filterIds)), ("rank", b.rank.map .integer),
        ("version", some (.integer b.version)), ("vlan_id", some (.integer b.vlanId))]))
  | createProfile b => do
      let profile ← profileJson b.profile
      .ok (some (members [("profile", some profile), ("segment_id", text b.segmentId),
        ("segment_version", some (.integer b.segmentVersion))]))
  | replaceProfile _ b => do
      let profile ← profileJson b.profile
      .ok (some (members [("profile", some profile),
        ("segment_version", some (.integer b.segmentVersion)),
        ("version", some (.integer b.version))]))
  | replacePolicy b =>
      .ok (some (members [("session_timeout_max_secs", some (.integer b.sessionTimeoutMaxSecs)),
        ("version", some (.integer b.version))]))
  | _ => .ok none

end Call

/-- Whoever answers the calls: it sees the call and the body that goes with it. -/
abbrev Handler (σ : Type) : Type := (c : Call) → Option Json → Prog σ Exc c.Reply

/-- `ManagementApi`, as the manifest engine uses it. -/
structure Api (σ : Type) where
  parse : Parser
  handler : Handler σ
  /-- How many pages of one list are followed before the walk is given up. -/
  pages : Nat

/-- One call: the body is built first, and a body that cannot be built sends nothing. -/
def Api.call {σ : Type} (api : Api σ) (c : Call) : Prog σ Exc c.Reply := do
  let body ← Prog.lift (c.body api.parse)
  api.handler c body

/-- A body that cannot be built is a local refusal. -/
theorem Call.body_error {parse : Parser} {c : Call} {e : Exc} (h : c.body parse = .error e) :
    ∃ what, e = .invalidArgument what := by
  have hprofile : ∀ p e, Call.profileJson p = .error e → ∃ what, e = .invalidArgument what := by
    intro p e hp
    rcases p with ⟨_, _, termination, _, _, service⟩
    rcases service with _ | _ | _ <;> rcases termination with _ | _ | _ | _ <;> cases hp <;>
      exact ⟨_, rfl⟩
  cases c with
  | createSegment b =>
      rcases b with ⟨kind, _, _, _, _, _, _⟩
      cases kind <;> cases h
      exact ⟨_, rfl⟩
  | createProfile b =>
      simp only [Call.body] at h
      cases hp : Call.profileJson b.profile with
      | error e' =>
          rw [hp] at h
          cases h
          exact hprofile _ _ hp
      | ok j => rw [hp] at h; cases h
  | replaceProfile _ b =>
      simp only [Call.body] at h
      cases hp : Call.profileJson b.profile with
      | error e' =>
          rw [hp] at h
          cases h
          exact hprofile _ _ hp
      | ok j => rw [hp] at h; cases h
  | _ => cases h

end Axiam.Management
