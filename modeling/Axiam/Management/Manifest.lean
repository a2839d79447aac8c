import Axiam.Core.Error

/-!
# Manifests

The data of the declarative layer (`axiam/management_manifest.hpp`): what a manifest declares,
what the tenant answers, what a plan intends and what an apply reports.
-/

namespace Axiam.Management

/-- `ManifestKind`, in the order an apply runs them. -/
inductive ManifestKind where
  | resource | permission | role | group | serviceAccount
  | networkPolicy | networkSegment | networkProfile
  deriving DecidableEq

/-- The enumerator's value. -/
def ManifestKind.rank : ManifestKind → Nat
  | resource => 0
  | permission => 1
  | role => 2
  | group => 3
  | serviceAccount => 4
  | networkPolicy => 5
  | networkSegment => 6
  | networkProfile => 7

theorem ManifestKind.rank_inj {k l : ManifestKind} (h : k.rank = l.rank) : k = l := by
  cases k <;> cases l <;> first | rfl | exact absurd h (by decide)

/-- `is_network`. -/
def ManifestKind.isNetwork : ManifestKind → Bool
  | networkPolicy | networkSegment | networkProfile => true
  | _ => false

/-- `has_description`: a resource has no description on the server. -/
def ManifestKind.hasDescription : ManifestKind → Bool
  | resource => false
  | _ => true

/-- `ChangeAction`: there is no delete. -/
inductive ChangeAction where
  | unchanged | create | update
  deriving DecidableEq

/-! ## Open enumerations

A value the SDK does not know decodes to `unknown`, shows as the empty string, and is never
sent. -/

/-- `send_wire` of a value that is not known, refused before any request. -/
def refuseUnknown (type : Str) : Exc :=
  .invalidArgument
    (type ++ str ": a value this SDK does not know is never sent (CONTRACT.md §34.2 P12.2)")

inductive NetworkSegmentKind where
  | access | quarantine | unknown
  deriving DecidableEq

namespace NetworkSegmentKind

def toWire : NetworkSegmentKind → Str
  | access => "access"
  | quarantine => "quarantine"
  | unknown => ""

def fromWire (wire : Str) : NetworkSegmentKind :=
  if wire = "access" then access else if wire = "quarantine" then quarantine else unknown

def sendWire : NetworkSegmentKind → Except Exc Str
  | unknown => .error (refuseUnknown "NetworkSegmentKind")
  | kind => .ok kind.toWire

end NetworkSegmentKind

inductive RadiusTerminationAction where
  | default_ | radiusRequest | unknown
  deriving DecidableEq

namespace RadiusTerminationAction

def toWire : RadiusTerminationAction → Str
  | default_ => "default"
  | radiusRequest => "radius_request"
  | unknown => ""

def fromWire (wire : Str) : RadiusTerminationAction :=
  if wire = "default" then default_
  else if wire = "radius_request" then radiusRequest else unknown

def sendWire : RadiusTerminationAction → Except Exc Str
  | unknown => .error (refuseUnknown "RadiusTerminationAction")
  | action => .ok action.toWire

end RadiusTerminationAction

inductive RadiusServiceType where
  | framedUser | unknown
  deriving DecidableEq

namespace RadiusServiceType

def toWire : RadiusServiceType → Str
  | framedUser => "framed_user"
  | unknown => ""

def fromWire (wire : Str) : RadiusServiceType :=
  if wire = "framed_user" then framedUser else unknown

def sendWire : RadiusServiceType → Except Exc Str
  | unknown => .error (refuseUnknown "RadiusServiceType")
  | type => .ok type.toWire

end RadiusServiceType

/-- What is sent reads back as the value that was sent. -/
theorem NetworkSegmentKind.fromWire_sendWire {kind : NetworkSegmentKind} {wire : Str}
    (h : kind.sendWire = .ok wire) : NetworkSegmentKind.fromWire wire = kind := by
  cases kind <;> cases h <;> decide

theorem RadiusTerminationAction.fromWire_sendWire {action : RadiusTerminationAction} {wire : Str}
    (h : action.sendWire = .ok wire) : RadiusTerminationAction.fromWire wire = action := by
  cases action <;> cases h <;> decide

theorem RadiusServiceType.fromWire_sendWire {type : RadiusServiceType} {wire : Str}
    (h : type.sendWire = .ok wire) : RadiusServiceType.fromWire wire = type := by
  cases type with
  | framedUser => cases h; decide
  | unknown => cases h

/-! ## What a manifest declares -/

/-- `ManifestRoleBinding`: a role key, and the resource key it is scoped to. -/
structure ManifestRoleBinding where
  role : Str
  resource : Option Str := none
  inherit : Option Bool := none
  deriving DecidableEq

/-- `inherit: false` is the only statement that narrows. -/
def ManifestRoleBinding.narrowed (b : ManifestRoleBinding) : Bool := b.inherit == some false

/-- `ManifestNullable`: silent, stated as none, or stated. -/
abbrev ManifestNullable (α : Type) : Type := Option (Option α)

structure ManifestNetworkSegment where
  site : Str
  kind : Str
  name : Str
  vlanId : Int
  rank : ManifestNullable Int := none
  filterIds : Option (List Str) := none
  enabled : Option Bool := none
  deriving DecidableEq

structure ManifestNetworkProfile where
  /-- The key of a segment of the same manifest. -/
  segment : Str
  sessionTimeoutSecs : Int
  terminationAction : Option RadiusTerminationAction := none
  idleTimeoutSecs : ManifestNullable Int := none
  filterId : ManifestNullable Str := none
  serviceType : ManifestNullable RadiusServiceType := none
  deriving DecidableEq

structure ManifestNetworkPolicy where
  sessionTimeoutMaxSecs : Int
  deriving DecidableEq

/-- `ManifestEntity`: one thing that must exist. -/
structure ManifestEntity where
  kind : ManifestKind
  key : Str
  name : Str := []
  description : Str := []
  resourceType : Str := []
  action : Str := []
  isGlobal : Bool := false
  dependsOn : Option Str := none
  metadataJson : Option Str := none
  roles : List ManifestRoleBinding := []
  networkSegment : Option ManifestNetworkSegment := none
  networkProfile : Option ManifestNetworkProfile := none
  networkPolicy : Option ManifestNetworkPolicy := none
  deriving DecidableEq

/-- `match_name`: a permission is known by its action, everything else by its name. -/
def ManifestEntity.matchName (e : ManifestEntity) : Str :=
  if e.kind = .permission then e.action else e.name

structure Manifest where
  entities : List ManifestEntity

/-! ## What the tenant answers

The members of each response that the manifest reads. -/

structure Resource where
  id : Str
  name : Str
  /-- The `dump` of the server's value. -/
  metadata : Str
  deriving DecidableEq

structure Permission where
  id : Str
  action : Str
  description : Str
  deriving DecidableEq

structure Role where
  id : Str
  name : Str
  description : Str
  deriving DecidableEq

structure Group where
  id : Str
  name : Str
  description : Str
  deriving DecidableEq

structure ServiceAccountResponse where
  id : Str
  name : Str
  description : Option Str
  deriving DecidableEq

structure ServiceAccountCreatedResponse where
  id : Str
  clientSecret : Str
  deriving DecidableEq

structure RoleAssignment where
  role : Role
  resourceId : Option Str
  inherit : Option Bool
  tenantScope : Option (List Str)
  deriving DecidableEq

/-- Only an engaged `false` narrows an assignment. -/
def RoleAssignment.narrowed (a : RoleAssignment) : Bool := a.inherit == some false

structure NetworkSegmentResponse where
  id : Str
  siteKey : Str
  kind : NetworkSegmentKind
  name : Str
  vlanId : Int
  rank : Option Int
  filterIds : List Str
  enabled : Bool
  version : Int
  deriving DecidableEq

structure NetworkReplyProfile where
  segmentId : Str
  dictionary : Str
  sessionTimeoutSecs : Int
  terminationAction : RadiusTerminationAction
  idleTimeoutSecs : Option Int
  filterId : Option Str
  serviceType : Option RadiusServiceType
  version : Int
  terminationActionWire : Option Str
  serviceTypeWire : Option Str
  deriving DecidableEq

structure NetworkPolicyResponse where
  sessionTimeoutMaxSecs : Int
  version : Int
  deriving DecidableEq

/-! ## What a plan intends and an apply reports -/

/-- `PlannedChange`. -/
structure PlannedChange where
  entity : ManifestEntity
  action : ChangeAction := .unchanged
  id : Option Str := none
  /-- The one-time secret of a service account this apply created. -/
  serviceAccountSecret : Option Str := none
  readSegment : Option NetworkSegmentResponse := none
  readProfile : Option NetworkReplyProfile := none
  readPolicy : Option NetworkPolicyResponse := none
  deriving DecidableEq

structure Plan where
  changes : List PlannedChange
  deriving DecidableEq

/-- `Plan::pending`. -/
def Plan.pending (p : Plan) : List PlannedChange :=
  p.changes.filter fun c => c.action ≠ .unchanged

/-- `ApplyReport`. -/
structure ApplyReport where
  applied : List PlannedChange := []
  failed : Option PlannedChange := none
  failure : Str := []
  failedReasonCode : Option Str := none
  remaining : List PlannedChange := []
  restoreAttempted : Bool := false
  restoreSucceeded : Bool := false
  restoreError : Option Str := none
  failedBinding : Option Str := none
  deriving DecidableEq

/-- `ApplyReport::complete`. -/
def ApplyReport.complete (r : ApplyReport) : Bool := r.failed.isNone

end Axiam.Management
