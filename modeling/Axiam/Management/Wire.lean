import Axiam.Management.Perform
import Axiam.Management.Send

/-!
# The manifest on the wire

The operations of `src/management_ops.cpp` that the manifest uses: the route of each, how its
response is decoded (`src/management_models.cpp`, `Transport::decode`, `Transport::to_page`),
and the client they are sent through.
-/

namespace Axiam.Management

open Axiam.Lib Axiam.Client

/-! ## Decoding -/

section

variable {α : Type}

/-- `at(key)`, and the member read. -/
def memberAt (get : Json → Except JsonError α) (j : Json) (key : Str) : Except JsonError α :=
  match j with
  | .object members =>
      match members.lookup key with
      | some member => get member
      | none => .error (.keyNotFound key)
  | other => .error (.cannotUseAt other.typeName)

/-- A member that may be absent or `null`. -/
def memberIfAny (get : Json → Except JsonError α) (j : Json) (key : Str) :
    Except JsonError (Option α) :=
  match j.find? key with
  | none | some .null => .ok none
  | some member => do
      let a ← get member
      .ok (some a)

/-- `get<std::vector>()`. -/
def getArray (get : Json → Except JsonError α) : Json → Except JsonError (List α)
  | .array items => items.mapM get
  | j => .error (.typeMustBe "array" j.typeName)

/-- `Transport::decode`: a member missing or of another type is a `NetworkError`. -/
def decodeAs (get : Json → Except JsonError α) (operation : Str) (j : Json) : Except Exc α :=
  match get j with
  | .ok a => .ok a
  | .error e =>
      let what := operation ++ str ": the server's response did not match the " ++
        str "expected shape (" ++ e.what ++ str ")"
      .error (.network what what)

/-- `Transport::to_page`. -/
def toPage (get : Json → Except JsonError α) (operation : Str) (j : Json) :
    Except Exc (Page α) := do
  let items ← match (j.find? "items").or (j.find? "data") with
    | some (.array items) => items.mapM (decodeAs get operation)
    | _ => .ok []
  let count (key : Str) : Option Int := (j.find? key).bind Json.int64?
  .ok ⟨items, ((count "total").or (count "total_count")).getD items.length⟩

end

/-- `dump()` of a member. -/
def getDump (dump : Json → Str) (j : Json) : Except JsonError Str :=
  if j.dumpable then .ok (dump j) else .error .invalidUtf8

section

variable (j : Json)

def stringAt (key : Str) : Except JsonError Str := memberAt Json.getString j key

def resourceOf (dump : Json → Str) : Except JsonError Resource := do
  let _ ← stringAt j "created_at"
  let id ← stringAt j "id"
  let metadata ← memberAt (getDump dump) j "metadata"
  let name ← stringAt j "name"
  let _ ← memberIfAny Json.getString j "parent_id"
  let _ ← stringAt j "resource_type"
  let _ ← stringAt j "tenant_id"
  let _ ← memberIfAny Json.getString j "uma_registered_by"
  let _ ← stringAt j "updated_at"
  .ok { id, name, metadata }

def permissionOf : Except JsonError Permission := do
  let action ← stringAt j "action"
  let _ ← stringAt j "created_at"
  let description ← stringAt j "description"
  let id ← stringAt j "id"
  let _ ← stringAt j "tenant_id"
  let _ ← stringAt j "updated_at"
  .ok { id, action, description }

def roleOf : Except JsonError Role := do
  let _ ← stringAt j "created_at"
  let description ← stringAt j "description"
  let id ← stringAt j "id"
  let _ ← memberAt Json.getBool j "is_global"
  let name ← stringAt j "name"
  let _ ← stringAt j "tenant_id"
  let _ ← stringAt j "updated_at"
  .ok { id, name, description }

def groupOf (dump : Json → Str) : Except JsonError Group := do
  let _ ← stringAt j "created_at"
  let description ← stringAt j "description"
  let id ← stringAt j "id"
  let _ ← memberAt (getDump dump) j "metadata"
  let name ← stringAt j "name"
  let _ ← stringAt j "tenant_id"
  let _ ← stringAt j "updated_at"
  .ok { id, name, description }

def serviceAccountOf : Except JsonError ServiceAccountResponse := do
  let _ ← stringAt j "client_id"
  let _ ← stringAt j "created_at"
  let description ← memberIfAny Json.getString j "description"
  let id ← stringAt j "id"
  let name ← stringAt j "name"
  let _ ← stringAt j "status"
  let _ ← stringAt j "tenant_id"
  let _ ← stringAt j "updated_at"
  .ok { id, name, description }

def createdAccountOf : Except JsonError ServiceAccountCreatedResponse := do
  let _ ← stringAt j "client_id"
  let clientSecret ← stringAt j "client_secret"
  let _ ← stringAt j "created_at"
  let _ ← memberIfAny Json.getString j "description"
  let id ← stringAt j "id"
  let _ ← stringAt j "name"
  let _ ← stringAt j "status"
  let _ ← stringAt j "tenant_id"
  let _ ← stringAt j "updated_at"
  .ok { id, clientSecret }

def roleAssignmentOf : Except JsonError RoleAssignment := do
  let inherit ← memberIfAny Json.getBool j "inherit"
  let resourceId ← memberIfAny Json.getString j "resource_id"
  let role ← memberAt roleOf j "role"
  let tenantScope ← memberIfAny (getArray Json.getString) j "tenant_scope"
  .ok { role, resourceId, inherit, tenantScope }

def segmentOf : Except JsonError NetworkSegmentResponse := do
  let _ ← stringAt j "created_at"
  let _ ← stringAt j "created_by"
  let enabled ← memberAt Json.getBool j "enabled"
  let filterIds ← memberAt (getArray Json.getString) j "filter_ids"
  let id ← stringAt j "id"
  let kind ← stringAt j "kind"
  let name ← stringAt j "name"
  let _ ← stringAt j "path"
  let rank ← memberIfAny Json.getInt j "rank"
  let siteKey ← stringAt j "site_key"
  let _ ← stringAt j "tenant_id"
  let _ ← stringAt j "updated_at"
  let _ ← stringAt j "updated_by"
  let version ← memberAt Json.getInt j "version"
  let vlanId ← memberAt Json.getInt j "vlan_id"
  .ok { id, siteKey, kind := .fromWire kind, name, vlanId, rank, filterIds, enabled, version }

def profileOf : Except JsonError NetworkReplyProfile := do
  let _ ← stringAt j "created_at"
  let _ ← stringAt j "created_by"
  let dictionary ← stringAt j "dictionary"
  let filterId ← memberIfAny Json.getString j "filter_id"
  let idleTimeoutSecs ← memberIfAny Json.getInt j "idle_timeout_secs"
  let segmentId ← stringAt j "segment_id"
  let service ← memberIfAny Json.getString j "service_type"
  let _ ← memberAt Json.getBool j "session_timeout_clamped"
  let sessionTimeoutSecs ← memberAt Json.getInt j "session_timeout_secs"
  let _ ← stringAt j "tenant_id"
  let termination ← stringAt j "termination_action"
  let _ ← stringAt j "updated_at"
  let _ ← stringAt j "updated_by"
  let version ← memberAt Json.getInt j "version"
  .ok { segmentId, dictionary, sessionTimeoutSecs, terminationAction := .fromWire termination,
        idleTimeoutSecs, filterId, serviceType := service.map .fromWire, version,
        terminationActionWire := some termination, serviceTypeWire := service }

def policyOf : Except JsonError NetworkPolicyResponse := do
  let sessionTimeoutMaxSecs ← memberAt Json.getInt j "session_timeout_max_secs"
  let _ ← stringAt j "tenant_id"
  let _ ← memberIfAny Json.getString j "updated_at"
  let _ ← memberIfAny Json.getString j "updated_by"
  let version ← memberAt Json.getInt j "version"
  .ok { sessionTimeoutMaxSecs, version }

end

/-! ## Routes -/

/-- Where an operation is sent. -/
structure Route where
  operation : Str
  method : Str
  template : Str
  values : List (Str × Str) := []
  query : List (Str × Option Str) := []

/-- `Transport::paging`; an offset is never negative here. -/
def paging (page : PageRequest) : List (Str × Option Str) :=
  [("offset", some (toStr page.offset)),
    ("limit", some (toStr (if page.limit < 1 then 50 else page.limit)))]

def listRoute (operation template : Str) (page : PageRequest) : Route where
  operation := operation
  method := "GET"
  template := template
  query := paging page

namespace Call

def route : Call → Route
  | listResources page => listRoute "resources.list" "/api/v1/resources" page
  | listPermissions page => listRoute "permissions.list" "/api/v1/permissions" page
  | listRoles page => listRoute "roles.list" "/api/v1/roles" page
  | listGroups page => listRoute "groups.list" "/api/v1/groups" page
  | listServiceAccounts page => listRoute "service_accounts.list" "/api/v1/service-accounts" page
  | listProfiles page => listRoute "network.list_profiles" "/api/v1/network/profiles" page
  | listSegments page =>
      { operation := "network.list_segments", method := "GET",
        template := "/api/v1/network/segments", query := paging page ++ [(str "site", none)] }
  | getPolicy =>
      { operation := "network.get_policy", method := "GET", template := "/api/v1/network/policy" }
  | groupRoles id =>
      { operation := "groups.list_roles", method := "GET",
        template := "/api/v1/groups/\x7bgroup_id\x7d/roles", values := [("group_id", id)] }
  | serviceAccountRoles id =>
      { operation := "service_accounts.list_roles", method := "GET",
        template := "/api/v1/service-accounts/\x7bservice_account_id\x7d/roles",
        values := [("service_account_id", id)] }
  | createResource _ =>
      { operation := "resources.create", method := "POST", template := "/api/v1/resources" }
  | updateResource id _ =>
      { operation := "resources.update", method := "PUT",
        template := "/api/v1/resources/\x7bresource_id\x7d", values := [("resource_id", id)] }
  | createPermission _ =>
      { operation := "permissions.create", method := "POST", template := "/api/v1/permissions" }
  | updatePermission id _ =>
      { operation := "permissions.update", method := "PUT",
        template := "/api/v1/permissions/\x7bpermission_id\x7d", values := [("permission_id", id)] }
  | createRole _ =>
      { operation := "roles.create", method := "POST", template := "/api/v1/roles" }
  | updateRole id _ =>
      { operation := "roles.update", method := "PUT",
        template := "/api/v1/roles/\x7brole_id\x7d", values := [("role_id", id)] }
  | createGroup _ =>
      { operation := "groups.create", method := "POST", template := "/api/v1/groups" }
  | updateGroup id _ =>
      { operation := "groups.update", method := "PUT",
        template := "/api/v1/groups/\x7bgroup_id\x7d", values := [("group_id", id)] }
  | createServiceAccount _ =>
      { operation := "service_accounts.create", method := "POST",
        template := "/api/v1/service-accounts" }
  | updateServiceAccount id _ =>
      { operation := "service_accounts.update", method := "PUT",
        template := "/api/v1/service-accounts/\x7bsa_id\x7d", values := [("sa_id", id)] }
  | assignToGroup roleId _ _ =>
      { operation := "roles.assign_to_group", method := "POST",
        template := "/api/v1/roles/\x7brole_id\x7d/groups", values := [("role_id", roleId)] }
  | unassignFromGroup roleId groupId resourceId =>
      { operation := "roles.unassign_from_group", method := "DELETE",
        template := "/api/v1/roles/\x7brole_id\x7d/groups/\x7bgroup_id\x7d",
        values := [("role_id", roleId), ("group_id", groupId)],
        query := [("resource_id", resourceId)] }
  | assignToServiceAccount roleId _ _ =>
      { operation := "roles.assign_to_service_account", method := "POST",
        template := "/api/v1/roles/\x7brole_id\x7d/service-accounts",
        values := [("role_id", roleId)] }
  | unassignFromServiceAccount roleId id resourceId =>
      { operation := "roles.unassign_from_service_account", method := "DELETE",
        template := "/api/v1/roles/\x7brole_id\x7d/service-accounts/\x7bservice_account_id\x7d",
        values := [("role_id", roleId), ("service_account_id", id)],
        query := [("resource_id", resourceId)] }
  | createSegment _ =>
      { operation := "network.create_segment", method := "POST",
        template := "/api/v1/network/segments" }
  | replaceSegment id _ =>
      { operation := "network.replace_segment", method := "PUT",
        template := "/api/v1/network/segments/\x7bid\x7d", values := [("id", id)] }
  | createProfile _ =>
      { operation := "network.create_profile", method := "POST",
        template := "/api/v1/network/profiles" }
  | replaceProfile segmentId _ =>
      { operation := "network.replace_profile", method := "PUT",
        template := "/api/v1/network/profiles/\x7bsegment_id\x7d",
        values := [("segment_id", segmentId)] }
  | replacePolicy _ =>
      { operation := "network.replace_policy", method := "PUT",
        template := "/api/v1/network/policy" }

/-- What an operation makes of the body of a `2xx`; an assignment looks at none. -/
def decode (dump : Json → Str) (c : Call) (j : Json) : Except Exc c.Reply :=
  let operation := c.route.operation
  match c with
  | listResources _ => toPage (resourceOf · dump) operation j
  | listPermissions _ => toPage permissionOf operation j
  | listRoles _ => toPage roleOf operation j
  | listGroups _ => toPage (groupOf · dump) operation j
  | listServiceAccounts _ => toPage serviceAccountOf operation j
  | groupRoles _ | serviceAccountRoles _ => decodeAs (getArray roleAssignmentOf) operation j
  | listSegments _ => toPage segmentOf operation j
  | listProfiles _ => toPage profileOf operation j
  | getPolicy | replacePolicy _ => decodeAs policyOf operation j
  | createResource _ | updateResource _ _ => decodeAs (resourceOf · dump) operation j
  | createPermission _ | updatePermission _ _ => decodeAs permissionOf operation j
  | createRole _ | updateRole _ _ => decodeAs roleOf operation j
  | createGroup _ | updateGroup _ _ => decodeAs (groupOf · dump) operation j
  | createServiceAccount _ => decodeAs createdAccountOf operation j
  | updateServiceAccount _ _ => decodeAs serviceAccountOf operation j
  | assignToGroup _ _ _ | unassignFromGroup _ _ _ => .ok ()
  | assignToServiceAccount _ _ _ | unassignFromServiceAccount _ _ _ => .ok ()
  | createSegment _ | replaceSegment _ _ => decodeAs segmentOf operation j
  | createProfile _ | replaceProfile _ _ => decodeAs profileOf operation j

end Call

/-- `ManagementApi` of a client: every call is sent through `Transport::send`. -/
def wire (env : Env) (pages : Nat) : Api Impl where
  parse := env.parse
  pages := pages
  handler c body := do
    let r := c.route
    let j ← send env r.operation r.method r.template r.values r.query body
    Prog.lift (c.decode env.dump j)

end Axiam.Management
