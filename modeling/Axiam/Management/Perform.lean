import Axiam.Management.Plan

/-!
# Applying

`perform` and `ManifestApi::apply` (`src/management_manifest.cpp`): the pending changes are
written one after the other, each with the ids the earlier ones came to, until one fails.
-/

namespace Axiam.Management

open Axiam.Lib

/-- An apply in progress. -/
structure Work (σ : Type) where
  world : σ
  /-- The change being performed; what was learnt of it stays when it fails. -/
  change : PlannedChange
  /-- `ResolvedIds`. -/
  resolved : ManifestKind → Str → Option Str
  /-- `SegmentVersions`. -/
  versions : Str → Option Int
  /-- What this change has called so far, each call with the state it found.  Nothing in the
  engine looks at it. -/
  calls : List (Call × σ) := []

namespace Work

variable {σ : Type}

/-- `change.id = id`. -/
def setId (w : Work σ) (id : Str) : Work σ := { w with change := { w.change with id := some id } }

/-- `change.id = id; resolved[{kind, key}] = id`. -/
def resolve (w : Work σ) (kind : ManifestKind) (key id : Str) : Work σ :=
  { w.setId id with
    resolved := fun k n => if k = kind ∧ n = key then some id else w.resolved k n }

/-- `segment_versions[key] = version`. -/
def setVersion (w : Work σ) (key : Str) (version : Int) : Work σ :=
  { w with versions := fun n => if n = key then some version else w.versions n }

/-- `change.service_account_secret = secret`. -/
def setSecret (w : Work σ) (secret : Str) : Work σ :=
  { w with change := { w.change with serviceAccountSecret := some secret } }

/-- The next change is taken up. -/
def take (w : Work σ) (c : PlannedChange) : Work σ := { w with change := c, calls := [] }

end Work

/-- `catch (const AxiamError&)`. -/
def catchAxiam {τ α : Type} (m : Prog τ Exc α) (handler : AxiamError → Prog τ Exc α) :
    Prog τ Exc α :=
  tryCatch m fun e => match e with
    | .axiam e => handler e
    | e => throw e

/-! ## The request bodies of a change -/

def segmentCreateBody (spec : ManifestNetworkSegment) : CreateNetworkSegmentRequest where
  kind := .fromWire spec.kind
  siteKey := spec.site
  name := spec.name
  vlanId := spec.vlanId
  rank := spec.rank.join
  filterIds := spec.filterIds
  enabled := spec.enabled

/-- The version as read; what is stated replaces what was read. -/
def segmentReplaceBody (spec : ManifestNetworkSegment) (read : NetworkSegmentResponse) :
    ReplaceNetworkSegmentRequest where
  version := read.version
  vlanId := spec.vlanId
  filterIds := spec.filterIds.getD read.filterIds
  enabled := spec.enabled.getD read.enabled
  rank := spec.rank.getD read.rank

def profileCreateInput (spec : ManifestNetworkProfile) : NetworkReplyProfileInput where
  dictionary := none
  sessionTimeoutSecs := spec.sessionTimeoutSecs
  terminationAction := spec.terminationAction
  idleTimeoutSecs := spec.idleTimeoutSecs.join
  filterId := spec.filterId.join
  serviceType := spec.serviceType.join

def profileReplaceInput (spec : ManifestNetworkProfile) (read : NetworkReplyProfile) :
    NetworkReplyProfileInput where
  dictionary := some read.dictionary
  sessionTimeoutSecs := spec.sessionTimeoutSecs
  terminationAction := some (spec.terminationAction.getD read.terminationAction)
  idleTimeoutSecs := spec.idleTimeoutSecs.getD read.idleTimeoutSecs
  filterId := spec.filterId.getD read.filterId
  serviceType := spec.serviceType.getD read.serviceType

def accountBody (e : ManifestEntity) : CreateServiceAccountRequest where
  name := e.name
  description := if e.description = [] then none else some e.description

/-- `inherit` reaches the wire only as `false`. -/
def wireInherit (narrowed : Bool) : Option Bool := if narrowed then some false else none

def describeBinding (roleId : Str) (resourceId : Option Str) : Str :=
  str "role:" ++ roleId ++ str " resource:" ++ resourceId.getD "(global)"

def unresolved (key what : Str) : Exc :=
  .axiam (.manifest (str "manifest: " ++ quoted key ++ str " (" ++ what ++
    str ") has no resolved server id -- internal ordering error"))

def unversioned (key : Str) : Exc :=
  .axiam (.manifest (str "manifest: network segment " ++ quoted key ++
    str " has no known version -- internal ordering error"))

section

variable {σ : Type} (api : Api σ) (m : Manifest)

/-- One call of the tenant, noted. -/
def ask (c : Call) : Prog (Work σ) Exc c.Reply := do
  Prog.modify fun w => { w with calls := w.calls ++ [(c, w.world)] }
  Prog.zoom Work.world (fun s w => { w with world := s }) (api.call c)

/-- `require_resolved`. -/
def requireResolved (kind : ManifestKind) (key what : Str) : Prog (Work σ) Exc Str := do
  let w ← Prog.read
  match w.resolved kind key with
  | some id => pure id
  | none => throw (unresolved key what)

/-- The version a profile's segment is known to have. -/
def requireVersion (key : Str) : Prog (Work σ) Exc Int := do
  let w ← Prog.read
  match w.versions key with
  | some version => pure version
  | none => throw (unversioned key)

/-! ## Role bindings -/

def assign (kind : ManifestKind) (subjectId roleId : Str) (body : AssignRoleRequest) :
    Prog (Work σ) Exc Unit :=
  match kind with
  | .group => ask api (.assignToGroup roleId subjectId body)
  | _ => ask api (.assignToServiceAccount roleId subjectId body)

def unassign (kind : ManifestKind) (subjectId roleId : Str) (resourceId : Option Str) :
    Prog (Work σ) Exc Unit :=
  match kind with
  | .group => ask api (.unassignFromGroup roleId subjectId resourceId)
  | _ => ask api (.unassignFromServiceAccount roleId subjectId resourceId)

/-- The previous binding is assigned again; the error when that fails too. -/
def restore (kind : ManifestKind) (subjectId roleId : Str) (existing : RoleAssignment) :
    Prog (Work σ) Exc (Option Str) :=
  catchAxiam
    (do
      assign api kind subjectId roleId
        ⟨existing.resourceId, wireInherit existing.narrowed, existing.tenantScope⟩
      pure none)
    fun failure => pure (some failure.what)

/-- A binding that is there with another shape: unassigned, then assigned anew. -/
def rebind (kind : ManifestKind) (subjectId roleId : Str) (existing : RoleAssignment)
    (resourceId : Option Str) (narrowed : Bool) : Prog (Work σ) Exc Unit := do
  unassign api kind subjectId roleId existing.resourceId
  catchAxiam
    (assign api kind subjectId roleId ⟨resourceId, wireInherit narrowed, existing.tenantScope⟩)
    fun original => do
      let failure ← restore api kind subjectId roleId existing
      throw (.axiam (.rebind original.what (describeBinding roleId existing.resourceId)
        failure.isNone failure))

/-- The id of the resource a binding is scoped to. -/
def bindingScope (b : ManifestRoleBinding) : Prog (Work σ) Exc (Option Str) :=
  match b.resource with
  | none => pure none
  | some key => do
      let id ← requireResolved .resource key "resource"
      pure (some id)

/-- The loop body of `reconcile_role_bindings`. -/
def reconcileBinding (kind : ManifestKind) (subjectId : Str)
    (current : Str → Option RoleAssignment) (b : ManifestRoleBinding) :
    Prog (Work σ) Exc Unit := do
  let roleId ← requireResolved .role b.role "role"
  let resourceId ← bindingScope b
  match (findKeyOfKind m b.role .role).bind fun role => current role.name with
  | none => assign api kind subjectId roleId ⟨resourceId, wireInherit b.narrowed, none⟩
  | some existing =>
      if bindingSatisfied existing resourceId b.narrowed then pure ()
      else rebind api kind subjectId roleId existing resourceId b.narrowed

/-- `reconcile_role_bindings`. -/
def reconcileRoleBindings (kind : ManifestKind) (subjectId : Str)
    (current : Str → Option RoleAssignment) (bindings : List ManifestRoleBinding) :
    Prog (Work σ) Exc Unit := do
  let _ ← Prog.each (reconcileBinding api m kind subjectId current) bindings
  pure ()

/-- The bindings of a group or a service account that has its id. -/
def performBindings (c : PlannedChange) (subjectId : Str) : Prog (Work σ) Exc Unit :=
  if c.entity.roles = [] then pure ()
  else if c.action = .create then
    reconcileRoleBindings api m c.entity.kind subjectId (fun _ => none) c.entity.roles
  else do
    let current ← boundRoleBindings (ask api) c.entity.kind subjectId
    reconcileRoleBindings api m c.entity.kind subjectId current c.entity.roles

/-! ## One change -/

/-- The id of a resource's parent, when the manifest declares one. -/
def parentId (e : ManifestEntity) : Prog (Work σ) Exc (Option Str) :=
  match e.dependsOn with
  | none => pure none
  | some key =>
      match findKeyOfKind m key .resource with
      | none => pure none
      | some _ => do
          let id ← requireResolved .resource key "parent resource"
          pure (some id)

/-- The id a change has before it is performed. -/
def PlannedChange.knownId (c : PlannedChange) : Str := c.id.getD []

/-- A resource is written, and has an id. -/
def writeResource (c : PlannedChange) (parent : Option Str) : Prog (Work σ) Exc Str :=
  let e := c.entity
  if c.action = .create then do
    let (written : Resource) ←
      ask api (.createResource ⟨e.name, e.resourceType, parent, e.metadataJson⟩)
    pure written.id
  else do
    let (written : Resource) ←
      ask api (.updateResource c.knownId ⟨e.name, parent, e.metadataJson⟩)
    pure written.id

def performResource (c : PlannedChange) : Prog (Work σ) Exc Unit := do
  let parent ← parentId m c.entity
  let id ← writeResource api c parent
  Prog.modify fun w => w.resolve .resource c.entity.key id

def writePermission (c : PlannedChange) : Prog (Work σ) Exc Str :=
  if c.action = .create then do
    let (written : Permission) ←
      ask api (.createPermission ⟨c.entity.action, c.entity.description⟩)
    pure written.id
  else do
    let (written : Permission) ← ask api (.updatePermission c.knownId c.entity.description)
    pure written.id

def performPermission (c : PlannedChange) : Prog (Work σ) Exc Unit := do
  let id ← writePermission api c
  Prog.modify fun w => w.resolve .permission c.entity.key id

def writeRole (c : PlannedChange) : Prog (Work σ) Exc Str :=
  let e := c.entity
  if c.action = .create then do
    let (written : Role) ← ask api (.createRole ⟨e.name, e.description, e.isGlobal⟩)
    pure written.id
  else do
    let (written : Role) ← ask api (.updateRole c.knownId e.description)
    pure written.id

def performRole (c : PlannedChange) : Prog (Work σ) Exc Unit := do
  let id ← writeRole api c
  Prog.modify fun w => w.resolve .role c.entity.key id

/-- An update that states no description writes none: it is about the bindings alone. -/
def writeGroup (c : PlannedChange) : Prog (Work σ) Exc Str :=
  let e := c.entity
  if c.action = .create then do
    let (written : Group) ← ask api (.createGroup ⟨e.name, e.description⟩)
    pure written.id
  else if e.description ≠ [] then do
    let (written : Group) ← ask api (.updateGroup c.knownId e.description)
    pure written.id
  else pure c.knownId

def performGroup (c : PlannedChange) : Prog (Work σ) Exc Unit := do
  let id ← writeGroup api c
  Prog.modify fun w => w.resolve .group c.entity.key id
  performBindings api m c id

/-- The one-time secret is on the change before anything else is tried. -/
def writeServiceAccount (c : PlannedChange) : Prog (Work σ) Exc Str :=
  let e := c.entity
  if c.action = .create then do
    let (created : ServiceAccountCreatedResponse) ← ask api (.createServiceAccount (accountBody e))
    Prog.modify fun w => w.setSecret created.clientSecret
    pure created.id
  else if e.description ≠ [] then do
    let (written : ServiceAccountResponse) ←
      ask api (.updateServiceAccount c.knownId e.description)
    pure written.id
  else pure c.knownId

def performServiceAccount (c : PlannedChange) : Prog (Work σ) Exc Unit := do
  let id ← writeServiceAccount api c
  Prog.modify fun w => w.resolve .serviceAccount c.entity.key id
  performBindings api m c id

def performPolicy (spec : ManifestNetworkPolicy) (read : NetworkPolicyResponse) :
    Prog (Work σ) Exc Unit := do
  let _ ← ask api (.replacePolicy ⟨spec.sessionTimeoutMaxSecs, read.version⟩)
  pure ()

/-- A plan that says update has read the segment: no update meets the last case. -/
def writeSegment (c : PlannedChange) (spec : ManifestNetworkSegment) :
    Prog (Work σ) Exc NetworkSegmentResponse :=
  if c.action = .create then ask api (.createSegment (segmentCreateBody spec))
  else match c.readSegment with
    | some read => ask api (.replaceSegment c.knownId (segmentReplaceBody spec read))
    | none => ask api (.createSegment (segmentCreateBody spec))

def performSegment (c : PlannedChange) (spec : ManifestNetworkSegment) :
    Prog (Work σ) Exc Unit := do
  let written ← writeSegment api c spec
  Prog.modify fun w => w.resolve .networkSegment c.entity.key written.id
  Prog.modify fun w => w.setVersion c.entity.key written.version

/-- The same of a profile. -/
def writeProfile (c : PlannedChange) (spec : ManifestNetworkProfile) (segmentId : Str)
    (version : Int) : Prog (Work σ) Exc NetworkReplyProfile :=
  if c.action = .create then ask api (.createProfile ⟨profileCreateInput spec, segmentId, version⟩)
  else match c.readProfile with
    | some read =>
        ask api (.replaceProfile segmentId ⟨read.version, version, profileReplaceInput spec read⟩)
    | none => ask api (.createProfile ⟨profileCreateInput spec, segmentId, version⟩)

def performProfile (c : PlannedChange) (spec : ManifestNetworkProfile) :
    Prog (Work σ) Exc Unit := do
  let segmentId ← requireResolved .networkSegment spec.segment "network segment"
  let version ← requireVersion spec.segment
  let _ ← writeProfile api c spec segmentId version
  Prog.modify fun w => w.setId segmentId

/-- `perform`.  `validate` has seen to it that a network spec is there, and a plan that what it
read is. -/
def perform (c : PlannedChange) : Prog (Work σ) Exc Unit :=
  match c.entity.kind with
  | .resource => performResource api m c
  | .permission => performPermission api c
  | .role => performRole api c
  | .group => performGroup api m c
  | .serviceAccount => performServiceAccount api m c
  | .networkPolicy =>
      match c.entity.networkPolicy, c.readPolicy with
      | some spec, some read => performPolicy api spec read
      | _, _ => pure ()
  | .networkSegment =>
      match c.entity.networkSegment with
      | some spec => performSegment api c spec
      | none => pure ()
  | .networkProfile =>
      match c.entity.networkProfile with
      | some spec => performProfile api c spec
      | none => pure ()

/-! ## The whole apply -/

/-- `failed_reason_code`: what a `409` named. -/
def conflictReason : AxiamError → Option Str
  | .conflict _ reason => reason
  | _ => none

/-- The report of an apply that stopped. -/
def failureReport (applied : List PlannedChange) (failed : PlannedChange)
    (remaining : List PlannedChange) : Exc → ApplyReport
  | .axiam (.rebind what binding succeeded error) =>
      { applied, failed := some failed, failure := what, remaining, restoreAttempted := true,
        restoreSucceeded := succeeded, restoreError := error, failedBinding := some binding }
  | .axiam e =>
      { applied, failed := some failed, failure := e.what, remaining,
        failedReasonCode := conflictReason e }
  | e => { applied, failed := some failed, failure := e.what, remaining }

/-- The failure the `catch` list of `apply` takes; anything else passes it. -/
def reportedFailure {τ : Type} (p : Prog τ Exc Unit) : Prog τ Exc (Option Exc) :=
  tryCatch
    (do
      p
      pure none)
    fun e => if e.reported then pure (some e) else throw e

/-- The loop of `apply`. -/
def applyPending (applied : List PlannedChange) : List PlannedChange → Prog (Work σ) Exc ApplyReport
  | [] => pure { applied }
  | c :: rest => do
      Prog.modify fun w => w.take c
      let failure ← reportedFailure (perform api m c)
      let w ← Prog.read
      match failure with
      | none => applyPending (applied ++ [w.change]) rest
      | some e => pure (failureReport applied w.change rest e)

/-- The ids a plan knows, the later of two entries of one key staying. -/
def seedResolved (changes : List PlannedChange) (kind : ManifestKind) (key : Str) : Option Str :=
  (changes.filter fun c => c.entity.kind = kind ∧ c.entity.key = key ∧ c.id.isSome).getLast?.bind
    PlannedChange.id

/-- The versions of the segments a plan read. -/
def seedVersions (changes : List PlannedChange) (key : Str) : Option Int :=
  ((changes.filter fun c => c.entity.kind = .networkSegment ∧ c.entity.key = key ∧
    c.readSegment.isSome).getLast?.bind PlannedChange.readSegment).map
      NetworkSegmentResponse.version

/-- The state an apply starts its writes from. -/
def Work.start (p : Plan) (s : σ) : Work σ where
  world := s
  change := { entity := { kind := .resource, key := [] } }
  resolved := seedResolved p.changes
  versions := seedVersions p.changes

/-- `ManifestApi::apply`. -/
def apply : Prog σ Exc ApplyReport := do
  let computed ← plan api m
  Prog.within (Work.start computed) Work.world (applyPending api m [] computed.pending)

end

end Axiam.Management
