import Mathlib.Data.List.Lex
import Mathlib.Data.List.Sort
import Mathlib.Data.Prod.Lex
import Axiam.Management.Manifest

/-!
# Validation and order

`ManifestApi::validate` and `ManifestApi::ordered` (`src/management_manifest.cpp`): what is
refused before any request, and the order an apply runs in.
-/

namespace Axiam.Management

/-- `throw ManifestError`. -/
def refuse {α : Type} (what : Str) : Except Exc α := .error (.axiam (.manifest what))

def quoted (s : Str) : Str := str "\"" ++ s ++ str "\""

/-- `find_key`: the first entity with a key, whatever its kind. -/
def findKey (m : Manifest) (key : Str) : Option ManifestEntity :=
  m.entities.find? fun e => e.key == key

/-- `find_key_of_kind`. -/
def findKeyOfKind (m : Manifest) (key : Str) (kind : ManifestKind) : Option ManifestEntity :=
  m.entities.find? fun e => e.key == key && e.kind == kind

/-! ## Validation -/

/-- A key on every entity, unique within its kind, and a type on every resource. -/
def checkIdentities : List (ManifestKind × Str) → List ManifestEntity → Except Exc Unit
  | _, [] => .ok ()
  | seen, e :: rest =>
      if e.key = [] then refuse "manifest: every entity needs a key"
      else if (e.kind, e.key) ∈ seen then
        refuse (str "manifest declares " ++ quoted e.key ++
          str " twice -- a key must be unique within its kind")
      else if e.kind = .resource ∧ e.resourceType = [] then
        refuse (quoted e.key ++ str " (resource) states no resource_type -- this SDK does " ++
          str "not default it to \"folder\" or anything else; state one " ++
          str "explicitly (CONTRACT.md §27.10)")
      else checkIdentities ((e.kind, e.key) :: seen) rest

/-- Every `depends_on` names an entity of some kind. -/
def checkReference (m : Manifest) (e : ManifestEntity) : Except Exc Unit :=
  match e.dependsOn with
  | none => .ok ()
  | some key =>
      match findKey m key with
      | some _ => .ok ()
      | none => refuse (quoted e.key ++ str " depends on " ++ quoted key ++
          str ", which this manifest does not declare")

/-- Whether the chain of `depends_on` from an entity ends within a number of steps. -/
def chainEnds (m : Manifest) : Nat → ManifestEntity → Bool
  | steps, e =>
      match e.dependsOn, steps with
      | none, _ => true
      | some _, 0 => false
      | some key, steps + 1 =>
          match findKey m key with
          | some next => chainEnds m steps next
          | none => true

/-- The cycle check, from one entity. -/
def checkCycle (m : Manifest) (start : ManifestEntity) : Except Exc Unit :=
  if chainEnds m m.entities.length start then .ok ()
  else refuse (str "manifest has a dependency cycle reachable from " ++ quoted start.key)

/-- `segment_natural_key`: the parts with a separator no part can hold. -/
def segmentNaturalKey (site kind name : Str) : Str := site ++ 31 :: kind ++ 31 :: name

def describeSegmentKey (s : ManifestNetworkSegment) : Str :=
  str "site " ++ quoted s.site ++ str ", kind " ++ quoted s.kind ++ str ", name " ++ quoted s.name

/-- A list of Filter-Ids that is a set. -/
def checkFilterIds (key : Str) : List Str → List Str → Except Exc Unit
  | _, [] => .ok ()
  | names, f :: rest =>
      if f ∈ names then
        refuse (quoted key ++ str " (network segment) lists Filter-Id " ++ quoted f ++
          str " twice in filter_ids -- the list is compared as a " ++
          str "set (CONTRACT.md §27.6.2 items 1 and 3)")
      else checkFilterIds key (f :: names) rest

/-- What the pass over the network entities has seen. -/
structure NetworkSeen where
  segmentKeys : List Str := []
  profileSegments : List Str := []
  policy : Bool := false

/-- The `network` checks of one entity. -/
def checkNetworkEntity (m : Manifest) (seen : NetworkSeen) (e : ManifestEntity) :
    Except Exc NetworkSeen :=
  match e.kind with
  | .networkPolicy =>
      if e.networkPolicy.isNone then
        refuse (quoted e.key ++ str " (network_policy) states no network_policy " ++
          str "spec (CONTRACT.md §27.6.2)")
      else if seen.policy then
        refuse (str "manifest declares more than one network policy -- the tenant " ++
          str "has exactly one (CONTRACT.md §27.6.2 item 1)")
      else .ok { seen with policy := true }
  | .networkSegment =>
      match e.networkSegment with
      | none =>
          refuse (quoted e.key ++ str " (network_segment) states no network_segment " ++
            str "spec (CONTRACT.md §27.6.2)")
      | some seg =>
          if segmentNaturalKey seg.site seg.kind seg.name ∈ seen.segmentKeys then
            refuse (str "manifest declares two network segments with " ++
              describeSegmentKey seg ++
              str " -- the natural key is site + kind + name (CONTRACT.md " ++
              str "§27.6.2 item 1)")
          else do
            checkFilterIds e.key [] (seg.filterIds.getD [])
            .ok { seen with
              segmentKeys := segmentNaturalKey seg.site seg.kind seg.name :: seen.segmentKeys }
  | .networkProfile =>
      match e.networkProfile with
      | none =>
          refuse (quoted e.key ++ str " (network_profile) states no network_profile " ++
            str "spec (CONTRACT.md §27.6.2)")
      | some prof =>
          if (findKeyOfKind m prof.segment .networkSegment).isNone then
            refuse (quoted e.key ++ str " (network profile) names segment " ++
              quoted prof.segment ++ str ", which this manifest does not declare as a " ++
              str "network segment (CONTRACT.md §27.6.2 item 1)")
          else if prof.segment ∈ seen.profileSegments then
            refuse (str "manifest declares two profiles for network segment " ++
              quoted prof.segment ++ str " -- a segment has at most one profile " ++
              str "(CONTRACT.md §27.6.2 item 1)")
          else .ok { seen with profileSegments := prof.segment :: seen.profileSegments }
  | _ => .ok seen

def checkNetwork (m : Manifest) : NetworkSeen → List ManifestEntity → Except Exc Unit
  | _, [] => .ok ()
  | seen, e :: rest => do
      let seen ← checkNetworkEntity m seen e
      checkNetwork m seen rest

/-- The checks of one entity's role bindings. -/
def checkBindings (m : Manifest) (key : Str) :
    List Str → List ManifestRoleBinding → Except Exc Unit
  | _, [] => .ok ()
  | seen, b :: rest =>
      match findKeyOfKind m b.role .role with
      | none =>
          refuse (quoted key ++ str " binds role " ++ quoted b.role ++
            str ", which this manifest does not declare as a role")
      | some role =>
          if b.role ∈ seen then
            refuse (quoted key ++ str " binds role " ++ quoted b.role ++
              str " more than once -- a subject can hold one role at " ++
              str "most once (CONTRACT.md §27.6.1)")
          else if (b.resource.any fun r => (findKeyOfKind m r .resource).isNone) = true then
            refuse (quoted key ++ str " scopes role " ++ quoted b.role ++ str " to resource " ++
              quoted (b.resource.getD []) ++
              str ", which this manifest does not declare as a resource")
          else if b.narrowed = true ∧ role.isGlobal = true then
            refuse (quoted key ++ str " binds the global role " ++ quoted b.role ++
              str " with inherit: false -- a global role ignores " ++
              str "resource scope (CONTRACT.md §27.6.1 item 2)")
          else if b.resource = none ∧ b.narrowed = true then
            refuse (quoted key ++ str " states inherit: false on its plain (unscoped) " ++
              str "binding of role " ++ quoted b.role ++ str " -- inherit: false narrows a " ++
              str "binding to a resource, and this binding names none " ++
              str "(CONTRACT.md §27.6.1 item 2 / CONTRACT 1.52 N6.2 (C-12))")
          else checkBindings m key (b.role :: seen) rest

/-- The kinds that hold roles. -/
def ManifestKind.holdsRoles (k : ManifestKind) : Bool := k == .group || k == .serviceAccount

def checkRoles (m : Manifest) (e : ManifestEntity) : Except Exc Unit :=
  if e.kind.holdsRoles then checkBindings m e.key [] e.roles else .ok ()

/-- `ManifestApi::validate`. -/
def validate (m : Manifest) : Except Exc Unit := do
  checkIdentities [] m.entities
  m.entities.forM (checkReference m)
  m.entities.forM (checkCycle m)
  checkNetwork m {} m.entities
  m.entities.forM (checkRoles m)

/-! ## Order -/

/-- `operator<` of two strings: byte by byte, as unsigned numbers. -/
def strLess (a b : Str) : Bool := decide (a.map UInt8.toNat < b.map UInt8.toNat)

/-- The chain an entity's depth counts: through `find_key`, as long as the kind stays. -/
def depthFrom (m : Manifest) : Nat → ManifestEntity → Nat
  | 0, _ => 0
  | guard + 1, e =>
      match e.dependsOn.bind (findKey m) with
      | some parent => if parent.kind = e.kind then depthFrom m guard parent + 1 else 0
      | none => 0

/-- `depth_of`. -/
def depthOf (m : Manifest) (e : ManifestEntity) : Nat :=
  depthFrom m (m.entities.length + 1) e

/-- The comparison of `ordered`. -/
def precedes (m : Manifest) (a b : ManifestEntity) : Bool :=
  if a.kind ≠ b.kind then a.kind.rank < b.kind.rank
  else if depthOf m a ≠ depthOf m b then depthOf m a < depthOf m b
  else match a.networkProfile, b.networkProfile with
    | some p, some q =>
        if a.kind = .networkProfile ∧ p.segment ≠ q.segment then strLess p.segment q.segment
        else strLess a.key b.key
    | _, _ => strLess a.key b.key

/-- What `std::stable_sort` makes of a list: equal elements keep their order. -/
def stableSort (less : ManifestEntity → ManifestEntity → Bool) (l : List ManifestEntity) :
    List ManifestEntity :=
  l.insertionSort fun a b => less b a = false

/-- `ManifestApi::ordered`. -/
def ordered (m : Manifest) : Except Exc (List ManifestEntity) := do
  validate m
  .ok (stableSort (precedes m) m.entities)

end Axiam.Management
