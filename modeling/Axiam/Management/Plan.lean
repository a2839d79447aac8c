import Axiam.Management.Calls
import Axiam.Management.Validate

/-!
# Planning

`ManifestApi::plan` (`src/management_manifest.cpp`): the tenant is read, once for each kind the
manifest mentions, and every entity is compared with what was read.
-/

namespace Axiam.Management

open Axiam.Lib

/-! ## What was read -/

/-- `Existing`. -/
structure Existing where
  id : Str
  description : Str := []
  /-- Resources only. -/
  metadata : Str := []
  /-- Service accounts only: the name matched more than one account. -/
  ambiguous : Bool := false
  deriving DecidableEq

/-- `ExistingSet`: by the name an entity is matched against. -/
abbrev ExistingSet : Type := Str → Option Existing

namespace ExistingSet

def empty : ExistingSet := fun _ => none

def set (s : ExistingSet) (name : Str) (x : Existing) : ExistingSet := fun n =>
  if n = name then some x else s n

/-- `out[name] = x` for each: of two with one name the later stays. -/
def ofLast (rows : List (Str × Existing)) : ExistingSet :=
  rows.foldl (fun s r => s.set r.1 r.2) empty

/-- The first of each name stays, and is ambiguous once a second was met. -/
def ofFirst (rows : List (Str × Existing)) : ExistingSet :=
  rows.foldl
    (fun s r =>
      match s r.1 with
      | none => s.set r.1 r.2
      | some x => s.set r.1 { x with ambiguous := true })
    empty

end ExistingSet

/-- `metadata_equal`: a text that does not parse equals nothing. -/
def metadataEqual (parse : Parser) (declared stored : Str) : Bool :=
  match parse declared, parse stored with
  | some a, some b => a.same b
  | _, _ => false

/-- `same_set`. -/
def sameSet (a b : List Str) : Bool := a.all (· ∈ b) && b.all (· ∈ a)

/-- `binding_satisfied`. -/
def bindingSatisfied (existing : RoleAssignment) (resourceId : Option Str) (narrowed : Bool) :
    Bool :=
  existing.resourceId == resourceId && existing.narrowed == narrowed

/-- `find_read_segment`. -/
def findReadSegment (all : List NetworkSegmentResponse) (spec : ManifestNetworkSegment) :
    Option NetworkSegmentResponse :=
  all.find? fun r => r.siteKey == spec.site && r.kind.toWire == spec.kind && r.name == spec.name

/-- A stated member that is not what was read. -/
def differs {α : Type} [DecidableEq α] (want : Option α) (have_ : α) : Bool :=
  want.any fun w => w ≠ have_

/-- `segment_drifted`. -/
def segmentDrifted (want : ManifestNetworkSegment) (have_ : NetworkSegmentResponse) : Bool :=
  want.vlanId != have_.vlanId || differs want.rank have_.rank ||
    want.filterIds.any (fun names => !sameSet names have_.filterIds) ||
    differs want.enabled have_.enabled

/-- `profile_drifted`. -/
def profileDrifted (want : ManifestNetworkProfile) (have_ : NetworkReplyProfile) : Bool :=
  want.sessionTimeoutSecs != have_.sessionTimeoutSecs ||
    differs want.terminationAction have_.terminationAction ||
    differs want.idleTimeoutSecs have_.idleTimeoutSecs ||
    differs want.filterId have_.filterId || differs want.serviceType have_.serviceType

/-- `quote_server_value`: at most 64 bytes, and no control or non-ASCII byte. -/
def quoteServerValue (raw : Str) : Str :=
  quoted ((raw.take 64).map (fun c => if c < 0x20 || 0x7F ≤ c then 63 else c) ++
    if 64 < raw.length then str "..." else [])

/-- What `refuse_unknown_carried` throws about a member. -/
def unknownCarried (spec : ManifestNetworkProfile) (member : Str) (wire : Option Str) : Exc :=
  let shown := match wire with
    | some raw => quoteServerValue raw
    | none => "unknown"
  .invalidArgument (str "network profile '" ++ spec.segment ++ str "': " ++ member ++
    str " holds the value " ++ shown ++
    str ", which this SDK does not know, and the manifest does not state it, so an Update " ++
    str "cannot carry it (CONTRACT.md §27.6.2 item 4); state " ++ member ++ str " in the manifest")

/-- `refuse_unknown_carried`. -/
def refuseUnknownCarried (spec : ManifestNetworkProfile) (read : NetworkReplyProfile) :
    Except Exc Unit :=
  if spec.terminationAction = none ∧ read.terminationAction = .unknown then
    .error (unknownCarried spec "termination_action" read.terminationActionWire)
  else if spec.serviceType = none ∧ read.serviceType = some .unknown then
    .error (unknownCarried spec "service_type" read.serviceTypeWire)
  else .ok ()

/-! ## Reading -/

/-- A plan in progress: the tenant, and what was read of it. -/
structure Planning (σ : Type) where
  world : σ
  cache : ManifestKind → Option ExistingSet := fun _ => none
  policy : Option NetworkPolicyResponse := none
  segments : Option (List NetworkSegmentResponse) := none
  profiles : Option (List NetworkReplyProfile) := none

/-- What a walk that is given up comes to. -/
def walkGivenUp : Exc := .foreign "the list goes on"

/-- `bound_role_bindings`: by role name, the later of two staying. -/
def boundRoleBindings {τ : Type} (ask : (c : Call) → Prog τ Exc c.Reply) (kind : ManifestKind)
    (subjectId : Str) : Prog τ Exc (Str → Option RoleAssignment) := do
  let held ← match kind with
    | .group => ask (.groupRoles subjectId)
    | .serviceAccount => ask (.serviceAccountRoles subjectId)
    | _ => pure []
  pure fun name => (held.filter fun (a : RoleAssignment) => a.role.name == name).getLast?

section

variable {σ : Type} (api : Api σ)

/-- `walk`: page after page, until one is empty or the total is reached. -/
def walk {α : Type} (list : PageRequest → Prog σ Exc (Page α)) :
    Nat → PageRequest → List α → Prog σ Exc (List α)
  | 0, _, _ => throw walkGivenUp
  | pages + 1, request, out => do
      let page ← list request
      if page.items = [] then pure out
      else if page.total ≤ (out ++ page.items).length then pure (out ++ page.items)
      else walk list pages request.next (out ++ page.items)

/-- `read_existing`: one page of one kind. -/
def readExisting : ManifestKind → Prog σ Exc ExistingSet
  | .resource => do
      let page ← api.call (.listResources .first)
      pure (.ofLast (page.items.map fun (r : Resource) =>
        (r.name, { id := r.id, metadata := r.metadata })))
  | .permission => do
      let page ← api.call (.listPermissions .first)
      pure (.ofLast (page.items.map fun (p : Permission) =>
        (p.action, { id := p.id, description := p.description })))
  | .role => do
      let page ← api.call (.listRoles .first)
      pure (.ofLast (page.items.map fun (r : Role) =>
        (r.name, { id := r.id, description := r.description })))
  | .group => do
      let page ← api.call (.listGroups .first)
      pure (.ofLast (page.items.map fun (g : Group) =>
        (g.name, { id := g.id, description := g.description })))
  | .serviceAccount => do
      let page ← api.call (.listServiceAccounts .first)
      pure (.ofFirst (page.items.map fun (s : ServiceAccountResponse) =>
        (s.name, { id := s.id, description := s.description.getD [] })))
  | _ => pure .empty

/-- A program of the tenant inside a plan. -/
def onTenant {α : Type} (m : Prog σ Exc α) : Prog (Planning σ) Exc α :=
  Prog.zoom Planning.world (fun s p => { p with world := s }) m

/-- The objects of a kind, read at its first use. -/
def existingOf (kind : ManifestKind) : Prog (Planning σ) Exc ExistingSet := do
  let p ← Prog.read
  match p.cache kind with
  | some s => pure s
  | none => do
      let s ← onTenant (readExisting api kind)
      Prog.modify fun p => { p with cache := fun k => if k = kind then some s else p.cache k }
      pure s

/-- `read_policy`. -/
def readPolicy : Prog (Planning σ) Exc NetworkPolicyResponse := do
  let p ← Prog.read
  match p.policy with
  | some policy => pure policy
  | none => do
      let policy ← onTenant (api.call .getPolicy)
      Prog.modify fun p => { p with policy := some policy }
      pure policy

/-- `read_segments`. -/
def readSegments : Prog (Planning σ) Exc (List NetworkSegmentResponse) := do
  let p ← Prog.read
  match p.segments with
  | some all => pure all
  | none => do
      let all ← onTenant (walk (fun r => api.call (.listSegments r)) api.pages .first [])
      Prog.modify fun p => { p with segments := some all }
      pure all

/-- `read_profiles`. -/
def readProfiles : Prog (Planning σ) Exc (List NetworkReplyProfile) := do
  let p ← Prog.read
  match p.profiles with
  | some all => pure all
  | none => do
      let all ← onTenant (walk (fun r => api.call (.listProfiles r)) api.pages .first [])
      Prog.modify fun p => { p with profiles := some all }
      pure all

end

/-! ## Comparing -/

def actionFor (drifted : Bool) : ChangeAction := if drifted then .update else .unchanged

/-- The planned change of a policy: the tenant always has one. -/
def policyChange (e : ManifestEntity) (spec : ManifestNetworkPolicy) (read : NetworkPolicyResponse) :
    PlannedChange where
  entity := e
  action := actionFor (spec.sessionTimeoutMaxSecs != read.sessionTimeoutMaxSecs)
  readPolicy := some read

/-- The planned change of a segment. -/
def segmentChange (e : ManifestEntity) (spec : ManifestNetworkSegment) :
    Option NetworkSegmentResponse → PlannedChange
  | none => { entity := e, action := .create }
  | some read =>
      { entity := e, action := actionFor (segmentDrifted spec read), id := some read.id,
        readSegment := some read }

/-- The profile of a segment that was read, and the segment. -/
def findReadProfile (m : Manifest) (spec : ManifestNetworkProfile)
    (segments : List NetworkSegmentResponse) (profiles : List NetworkReplyProfile) :
    Option (NetworkSegmentResponse × NetworkReplyProfile) := do
  let e ← findKeyOfKind m spec.segment .networkSegment
  let segment ← e.networkSegment.bind (findReadSegment segments)
  let profile ← profiles.find? fun p => p.segmentId == segment.id
  some (segment, profile)

/-- The planned change of a profile, refused when an update could not carry what it read. -/
def profileChange (e : ManifestEntity) (spec : ManifestNetworkProfile) :
    Option (NetworkSegmentResponse × NetworkReplyProfile) → Except Exc PlannedChange
  | none => .ok { entity := e, action := .create }
  | some (segment, read) => do
      if profileDrifted spec read then refuseUnknownCarried spec read
      .ok { entity := e, action := actionFor (profileDrifted spec read), id := some segment.id,
            readProfile := some read }

/-- A stated description or metadata that is not what was read. -/
def fieldsDrifted (parse : Parser) (e : ManifestEntity) (found : Existing) : Bool :=
  (e.kind.hasDescription && e.description != [] && e.description != found.description) ||
    (e.kind == .resource &&
      e.metadataJson.any fun declared => !metadataEqual parse declared found.metadata)

/-- The resource a binding is scoped to: none when the tenant has no such resource yet. -/
def scopeOf (m : Manifest) (resources : ExistingSet) (b : ManifestRoleBinding) :
    Option (Option Str) :=
  match b.resource with
  | none => some none
  | some key =>
      ((findKeyOfKind m key .resource).bind fun r => resources r.name).map fun x => some x.id

/-- A declared binding the subject does not hold as declared. -/
def bindingDrifted (m : Manifest) (resources : ExistingSet)
    (held : Str → Option RoleAssignment) (b : ManifestRoleBinding) : Bool :=
  match findKeyOfKind m b.role .role with
  | none => false
  | some role =>
      match held role.name, scopeOf m resources b with
      | some a, some resourceId => !bindingSatisfied a resourceId b.narrowed
      | _, _ => true

def ambiguousAccount (e : ManifestEntity) : Exc :=
  .axiam (.manifest (str "manifest: " ++ quoted e.name ++
    str " (service account) matches more than one existing " ++
    str "account -- only client_id is unique, so plan cannot " ++
    str "tell which one this declares (CONTRACT.md §27.6.1 " ++ str "item 3)"))

section

variable {σ : Type} (api : Api σ) (m : Manifest)

/-- `plan_network_entity`.  `validate` has seen to it that the spec is there. -/
def planNetworkEntity (e : ManifestEntity) : Prog (Planning σ) Exc PlannedChange :=
  match e.kind, e.networkPolicy, e.networkSegment, e.networkProfile with
  | .networkPolicy, some spec, _, _ => do
      let policy ← readPolicy api
      pure (policyChange e spec policy)
  | .networkSegment, _, some spec, _ => do
      let segments ← readSegments api
      pure (segmentChange e spec (findReadSegment segments spec))
  | .networkProfile, _, _, some spec => do
      let segments ← readSegments api
      let profiles ← readProfiles api
      Prog.lift (profileChange e spec (findReadProfile m spec segments profiles))
  | _, _, _, _ => pure { entity := e }

/-- Whether one of the bindings of an existing subject has to be written. -/
def bindingsDrifted (e : ManifestEntity) (subjectId : Str) : Prog (Planning σ) Exc Bool := do
  let resources ← existingOf api .resource
  let held ← boundRoleBindings (fun c => onTenant (api.call c)) e.kind subjectId
  pure (e.roles.any (bindingDrifted m resources held))

/-- Whether an entity that the tenant has differs from what is declared. -/
def entityDrifted (e : ManifestEntity) (found : Existing) : Prog (Planning σ) Exc Bool :=
  let fields := fieldsDrifted api.parse e found
  if e.kind.holdsRoles = true ∧ e.roles ≠ [] ∧ fields = false then
    bindingsDrifted api m e found.id
  else pure fields

/-- The planned change of an entity that the tenant has. -/
def planFound (e : ManifestEntity) (found : Existing) : Prog (Planning σ) Exc PlannedChange := do
  let drifted ← entityDrifted api m e found
  pure { entity := e, action := actionFor drifted, id := some found.id }

/-- The loop body of `plan`. -/
def planEntity (e : ManifestEntity) : Prog (Planning σ) Exc PlannedChange :=
  if e.kind.isNetwork then planNetworkEntity api m e
  else do
    let existing ← existingOf api e.kind
    match existing e.matchName with
    | none => pure { entity := e, action := .create }
    | some found =>
        if e.kind = .serviceAccount ∧ found.ambiguous = true then throw (ambiguousAccount e)
        else planFound api m e found

/-- `ManifestApi::plan`. -/
def plan : Prog σ Exc Plan := do
  let entities ← Prog.lift (ordered m)
  let changes ← Prog.within (fun s => { world := s }) Planning.world
    (Prog.each (planEntity api m) entities)
  pure ⟨changes⟩

end

end Axiam.Management
