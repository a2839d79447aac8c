import Axiam.Management.Perform
import Axiam.Management.Planned

/-!
# Full replacements

An update of a network segment or profile replaces the whole object.  What the manifest does not
state is carried from the read, so nothing is lost by it; and what was written is what the drift
test looks for, so nothing is written twice.
-/

namespace Axiam.Management

open Axiam.Lib Axiam.Lib.Prog

/-- A member of a replacement: the value stated, none where none is stated, and otherwise what was
read. -/
structure Merged {α : Type} (stated : ManifestNullable α) (read sent : Option α) : Prop where
  replaced : ∀ v, stated = some (some v) → sent = some v
  cleared : stated = some none → sent = none
  carried : stated = none → sent = read

theorem merged_getD {α : Type} (stated : ManifestNullable α) (read : Option α) :
    Merged stated read (stated.getD read) where
  replaced _ h := by rw [h]; rfl
  cleared h := by rw [h]; rfl
  carried h := by rw [h]; rfl

/-- A member that cannot be none. -/
theorem merged_value {α : Type} (stated : Option α) (read : α) :
    Merged (stated.map some) (some read) (some (stated.getD read)) where
  replaced v h := by
    cases stated with
    | none => cases h
    | some w =>
        cases h
        rfl
  cleared h := by cases stated <;> cases h
  carried h := by
    cases stated with
    | none => rfl
    | some w => cases h

/-- The member `name` of a body is the merged value, as `write` spells it. -/
def Carries {α : Type} (body : Json) (name : Str) (write : α → Json)
    (stated : ManifestNullable α) (read : Option α) : Prop :=
  ∃ sent, Merged stated read sent ∧ body.find? name = sent.map write

/-- The body of a segment's update. -/
structure SegmentBody (spec : ManifestNetworkSegment) (read : NetworkSegmentResponse)
    (body : Json) : Prop where
  version : body.find? "version" = some (.integer read.version)
  vlanId : body.find? "vlan_id" = some (.integer spec.vlanId)
  rank : Carries body "rank" .integer spec.rank read.rank
  filterIds : Carries body "filter_ids" Call.texts (spec.filterIds.map some) (some read.filterIds)
  enabled : Carries body "enabled" .boolean (spec.enabled.map some) (some read.enabled)

/-- The body of a profile's update, against a version of its segment. -/
structure ProfileBody (spec : ManifestNetworkProfile) (read : NetworkReplyProfile)
    (segmentVersion : Int) (body : Json) : Prop where
  version : body.find? "version" = some (.integer read.version)
  segmentVersion : body.find? "segment_version" = some (.integer segmentVersion)
  profile : ∃ profile, body.find? "profile" = some profile ∧
    profile.find? "dictionary" = some (.string read.dictionary) ∧
    profile.find? "session_timeout_secs" = some (.integer spec.sessionTimeoutSecs) ∧
    Carries profile "termination_action" (fun a => .string a.toWire)
      (spec.terminationAction.map some) (some read.terminationAction) ∧
    Carries profile "idle_timeout_secs" .integer spec.idleTimeoutSecs read.idleTimeoutSecs ∧
    Carries profile "filter_id" .string spec.filterId read.filterId ∧
    Carries profile "service_type" (fun t => .string t.toWire) spec.serviceType read.serviceType

/-- A live segment that is what the manifest states of it; its filters are a set. -/
structure SegmentAgrees (spec : ManifestNetworkSegment) (live : NetworkSegmentResponse) : Prop where
  vlanId : live.vlanId = spec.vlanId
  rank : ∀ rank, spec.rank = some rank → live.rank = rank
  filterIds : ∀ names, spec.filterIds = some names → ∀ name, name ∈ live.filterIds ↔ name ∈ names
  enabled : ∀ enabled, spec.enabled = some enabled → live.enabled = enabled

structure ProfileAgrees (spec : ManifestNetworkProfile) (live : NetworkReplyProfile) : Prop where
  sessionTimeoutSecs : live.sessionTimeoutSecs = spec.sessionTimeoutSecs
  terminationAction : ∀ action, spec.terminationAction = some action →
    live.terminationAction = action
  idleTimeoutSecs : ∀ secs, spec.idleTimeoutSecs = some secs → live.idleTimeoutSecs = secs
  filterId : ∀ id, spec.filterId = some id → live.filterId = id
  serviceType : ∀ type, spec.serviceType = some type → live.serviceType = type

/-- A read value without a name that an update would have to carry. -/
def CarriesUnknown (spec : ManifestNetworkProfile) (read : NetworkReplyProfile) : Prop :=
  (spec.terminationAction = none ∧ read.terminationAction = .unknown) ∨
    (spec.serviceType = none ∧ read.serviceType = some .unknown)

/-- A manifest that itself states such a value. -/
def StatesUnknown (spec : ManifestNetworkProfile) : Prop :=
  spec.terminationAction = some .unknown ∨ spec.serviceType = some (some .unknown)

section

/-! ## The server's side -/

def integer? : Json → Option Int
  | .integer i => some i
  | _ => none

def boolean? : Json → Option Bool
  | .boolean b => some b
  | _ => none

def textsOf : Json → Option (List Str)
  | .array items => some (items.filterMap Json.string?)
  | _ => none

/-- A segment replaced by a body: what the body leaves out is cleared, or its default. -/
def storeSegment (body : Json) (row : NetworkSegmentResponse) : NetworkSegmentResponse :=
  { row with
    vlanId := ((body.find? "vlan_id").bind integer?).getD row.vlanId
    rank := (body.find? "rank").bind integer?
    filterIds := ((body.find? "filter_ids").bind textsOf).getD []
    enabled := ((body.find? "enabled").bind boolean?).getD true
    version := row.version + 1 }

/-- A profile replaced by a body. -/
def storeProfile (body : Json) (row : NetworkReplyProfile) : NetworkReplyProfile :=
  let profile := (body.find? "profile").getD .null
  let termination := (profile.stringMember? "termination_action").getD "radius_request"
  { row with
    dictionary := (profile.stringMember? "dictionary").getD row.dictionary
    sessionTimeoutSecs :=
      ((profile.find? "session_timeout_secs").bind integer?).getD row.sessionTimeoutSecs
    terminationAction := .fromWire termination
    terminationActionWire := some termination
    idleTimeoutSecs := (profile.find? "idle_timeout_secs").bind integer?
    filterId := profile.stringMember? "filter_id"
    serviceType := (profile.stringMember? "service_type").map .fromWire
    serviceTypeWire := profile.stringMember? "service_type"
    version := row.version + 1 }

end

section

/-! ## Members -/

/-- A member of a body is the value it was given, where no name stands twice. -/
theorem find?_members {l : List (Str × Option Json)} {name : Str}
    (h : (l.map Prod.fst).Nodup) :
    (Call.members l).find? name = (l.lookup name).join := by
  unfold Call.members Json.find?
  simp only
  induction l with
  | nil => rfl
  | cons m l ih =>
      obtain ⟨key, value⟩ := m
      rw [List.map_cons, List.nodup_cons] at h
      have hrest := ih h.2
      by_cases hname : name = key
      · have habsent : (l.filterMap fun m => m.2.map fun j => (m.1, j)).lookup key = none := by
          rw [List.lookup_eq_none_iff]
          intro m hm
          obtain ⟨m', hm', heq⟩ := List.mem_filterMap.mp hm
          obtain ⟨j, -, rfl⟩ := Option.map_eq_some_iff.mp heq
          have hne : key ≠ m'.1 := by
            rintro rfl
            exact h.1 (List.mem_map.mpr ⟨m', hm', rfl⟩)
          simpa using hne
        subst hname
        cases value with
        | none => simp [habsent]
        | some j => simp
      · have hbeq : (name == key) = false := by simpa using hname
        cases value with
        | none => simp [List.lookup_cons, hbeq, hrest]
        | some j => simp [List.lookup_cons, hbeq, hrest]

theorem textsOf_texts (l : List Str) : textsOf (Call.texts l) = some l := by
  unfold textsOf Call.texts
  simp only [Option.some.injEq]
  induction l with
  | nil => rfl
  | cons s l ih => simp [Json.string?, ih]

end

section

/-! ## Segments -/

variable (spec : ManifestNetworkSegment) (read : NetworkSegmentResponse)

/-- The body of an update, member by member. -/
theorem segmentBody_members {parse : Parser} {id : Str} {body : Json}
    (h : Call.body parse (.replaceSegment id (segmentReplaceBody spec read)) = .ok (some body))
    (name : Str) : body.find? name =
      (List.lookup name [(str "enabled", some (.boolean (spec.enabled.getD read.enabled))),
        (str "filter_ids", some (Call.texts (spec.filterIds.getD read.filterIds))),
        (str "rank", (spec.rank.getD read.rank).map .integer),
        (str "version", some (.integer read.version)),
        (str "vlan_id", some (.integer spec.vlanId))]).join := by
  have hnames : [str "enabled", str "filter_ids", str "rank", str "version", str "vlan_id"].Nodup := by
    decide
  cases h
  exact find?_members hnames

theorem segmentBody_merged (parse : Parser) (id : Str) {body : Json}
    (h : Call.body parse (.replaceSegment id (segmentReplaceBody spec read)) = .ok (some body)) :
    SegmentBody spec read body where
  version := segmentBody_members spec read h _
  vlanId := segmentBody_members spec read h _
  rank := ⟨_, merged_getD _ _, segmentBody_members spec read h _⟩
  filterIds := ⟨_, merged_value _ _, segmentBody_members spec read h _⟩
  enabled := ⟨_, merged_value _ _, segmentBody_members spec read h _⟩

theorem differs_eq_false_iff {α : Type} [DecidableEq α] {want : Option α} {live : α} :
    differs want live = false ↔ ∀ v, want = some v → live = v := by
  unfold differs
  cases want with
  | none => simp
  | some v =>
      simp only [Option.any_some, ne_eq, decide_eq_false_iff_not, not_not, Option.some.injEq,
        forall_eq']
      exact eq_comm

theorem sameSet_iff {a b : List Str} : sameSet a b = true ↔ ∀ name, name ∈ b ↔ name ∈ a := by
  unfold sameSet
  simp only [Bool.and_eq_true, List.all_eq_true, decide_eq_true_eq]
  exact ⟨fun h name => ⟨h.2 name, h.1 name⟩, fun h => ⟨fun n => (h n).mpr, fun n => (h n).mp⟩⟩

/-- The drift test finds a difference exactly where there is one. -/
theorem segmentDrifted_eq_false_iff :
    segmentDrifted spec read = false ↔ SegmentAgrees spec read := by
  have hfilters : (spec.filterIds.any fun names => !sameSet names read.filterIds) = false ↔
      ∀ names, spec.filterIds = some names → ∀ name, name ∈ read.filterIds ↔ name ∈ names := by
    cases spec.filterIds with
    | none => simp
    | some names =>
        rw [Option.any_some, Bool.not_eq_false', sameSet_iff]
        exact ⟨fun h _ heq => by cases heq; exact h, fun h => h names rfl⟩
  unfold segmentDrifted
  rw [Bool.or_eq_false_iff, Bool.or_eq_false_iff, Bool.or_eq_false_iff, bne_eq_false_iff_eq,
    differs_eq_false_iff, differs_eq_false_iff, hfilters]
  exact ⟨fun ⟨⟨⟨hvlan, hrank⟩, hfilters⟩, henabled⟩ => ⟨hvlan.symm, hrank, hfilters, henabled⟩,
    fun ⟨hvlan, hrank, hfilters, henabled⟩ => ⟨⟨⟨hvlan.symm, hrank⟩, hfilters⟩, henabled⟩⟩

/-- Once the body is stored, the segment is what the manifest states. -/
theorem storeSegment_agrees {body : Json} (h : SegmentBody spec read body)
    (row : NetworkSegmentResponse) : SegmentAgrees spec (storeSegment body row) := by
  obtain ⟨-, hvlan, ⟨rank, hrank, hrankBody⟩, ⟨filters, hfilters, hfiltersBody⟩,
    ⟨enabled, henabled, henabledBody⟩⟩ := h
  refine ⟨?_, fun v hv => ?_, fun names hnames => ?_, fun b hb => ?_⟩
  · simp only [storeSegment, hvlan]
    rfl
  · simp only [storeSegment, hrankBody]
    cases v with
    | none =>
        rw [hrank.cleared hv]
        rfl
    | some v =>
        rw [hrank.replaced v hv]
        rfl
  · simp only [storeSegment, hfiltersBody]
    rw [hfilters.replaced names (by rw [hnames]; rfl)]
    simp only [Option.map_some, Option.bind_some, textsOf_texts, Option.getD_some, implies_true]
  · simp only [storeSegment, henabledBody]
    rw [henabled.replaced b (by rw [hb]; rfl)]
    rfl

end

section

/-! ## Profiles -/

variable (spec : ManifestNetworkProfile) (read : NetworkReplyProfile)

/-- An update sends a value without a name exactly where one is carried or stated. -/
theorem sends_unknown_iff : (spec.terminationAction.getD read.terminationAction = .unknown ∨
      spec.serviceType.getD read.serviceType = some .unknown) ↔
    CarriesUnknown spec read ∨ StatesUnknown spec := by
  unfold CarriesUnknown StatesUnknown
  cases spec.terminationAction <;> cases spec.serviceType <;> simp
  all_goals tauto

/-- The profile of an update, unless a value of it has no name. -/
theorem profileJson_eq (input : NetworkReplyProfileInput) {termination : RadiusTerminationAction}
    (ht : input.terminationAction = some termination) :
    if termination = .unknown ∨ input.serviceType = some .unknown then
      ∃ what, Call.profileJson input = .error (.invalidArgument what)
    else Call.profileJson input = .ok (Call.members [
      (str "dictionary", input.dictionary.map .string),
      (str "filter_id", input.filterId.map .string),
      (str "idle_timeout_secs", input.idleTimeoutSecs.map .integer),
      (str "service_type", input.serviceType.map fun t => .string t.toWire),
      (str "session_timeout_secs", some (.integer input.sessionTimeoutSecs)),
      (str "termination_action", some (.string termination.toWire))]) := by
  obtain ⟨dictionary, secs, action, idle, filterId, service⟩ := input
  obtain rfl : action = some termination := ht
  by_cases hunknown : termination = .unknown ∨ service = some .unknown
  · rw [if_pos hunknown]
    rcases hunknown with rfl | rfl
    · rcases service with _ | _ | _ <;> exact ⟨_, rfl⟩
    · exact ⟨_, rfl⟩
  · rw [if_neg hunknown]
    rw [not_or] at hunknown
    rcases service with _ | _ | _
    · cases termination with
      | unknown => exact absurd rfl hunknown.1
      | _ => rfl
    · cases termination with
      | unknown => exact absurd rfl hunknown.1
      | _ => rfl
    · exact absurd rfl hunknown.2

/-- The body of an update is built unless a value of it has no name. -/
theorem profileBody_built_iff (parse : Parser) (segmentId : Str) (version : Int) :
    (∃ body, Call.body parse (.replaceProfile segmentId
        ⟨read.version, version, profileReplaceInput spec read⟩) = .ok (some body)) ↔
      ¬(CarriesUnknown spec read ∨ StatesUnknown spec) := by
  have hjson := profileJson_eq (profileReplaceInput spec read) rfl
  rw [← sends_unknown_iff]
  simp only [Call.body]
  split at hjson
  next h =>
    obtain ⟨what, hjson⟩ := hjson
    rw [hjson]
    refine iff_of_false ?_ (not_not_intro h)
    rintro ⟨_, hbuilt⟩
    cases hbuilt
  next h =>
    rw [hjson]
    exact iff_of_true ⟨_, rfl⟩ h

theorem profileBody_merged {parse : Parser} {segmentId : Str} {version : Int} {body : Json}
    (h : Call.body parse (.replaceProfile segmentId
      ⟨read.version, version, profileReplaceInput spec read⟩) = .ok (some body)) :
    ProfileBody spec read version body := by
  have hjson := profileJson_eq (profileReplaceInput spec read) rfl
  have hbuilt := (profileBody_built_iff spec read parse segmentId version).mp ⟨body, h⟩
  rw [← sends_unknown_iff] at hbuilt
  rw [if_neg (by exact hbuilt)] at hjson
  simp only [Call.body] at h
  rw [hjson] at h
  cases h
  have houter : [str "profile", str "segment_version", str "version"].Nodup := by decide
  have hinner : [str "dictionary", str "filter_id", str "idle_timeout_secs", str "service_type",
      str "session_timeout_secs", str "termination_action"].Nodup := by decide
  refine ⟨find?_members houter, find?_members houter, _, find?_members houter, ?_, ?_,
    ⟨_, merged_value _ _, ?_⟩, ⟨_, merged_getD _ _, ?_⟩, ⟨_, merged_getD _ _, ?_⟩,
    ⟨_, merged_getD _ _, ?_⟩⟩ <;> exact find?_members hinner

/-- The drift test finds a difference exactly where there is one. -/
theorem profileDrifted_eq_false_iff :
    profileDrifted spec read = false ↔ ProfileAgrees spec read := by
  unfold profileDrifted
  rw [Bool.or_eq_false_iff, Bool.or_eq_false_iff, Bool.or_eq_false_iff, Bool.or_eq_false_iff,
    bne_eq_false_iff_eq, differs_eq_false_iff, differs_eq_false_iff, differs_eq_false_iff,
    differs_eq_false_iff]
  exact ⟨fun ⟨⟨⟨⟨hsecs, haction⟩, hidle⟩, hfilter⟩, htype⟩ =>
      ⟨hsecs.symm, haction, hidle, hfilter, htype⟩,
    fun ⟨hsecs, haction, hidle, hfilter, htype⟩ =>
      ⟨⟨⟨⟨hsecs.symm, haction⟩, hidle⟩, hfilter⟩, htype⟩⟩

theorem fromWire_toWire : (∀ action, RadiusTerminationAction.fromWire action.toWire = action) ∧
    ∀ type, RadiusServiceType.fromWire type.toWire = type := by
  refine ⟨fun action => ?_, fun type => ?_⟩
  · cases action <;> decide
  · cases type <;> decide

/-- Once the body is stored, the profile is what the manifest states: a name that was sent reads
back as the value it was. -/
theorem storeProfile_agrees {version : Int} {body : Json} (h : ProfileBody spec read version body)
    (row : NetworkReplyProfile) : ProfileAgrees spec (storeProfile body row) := by
  obtain ⟨-, -, profile, hprofile, -, hsecs, ⟨action, haction, hactionBody⟩,
    ⟨idle, hidle, hidleBody⟩, ⟨filter, hfilter, hfilterBody⟩, ⟨type, htype, htypeBody⟩⟩ := h
  refine ⟨?_, fun a ha => ?_, fun v hv => ?_, fun v hv => ?_, fun v hv => ?_⟩
  · simp only [storeProfile, hprofile, Option.getD_some, hsecs]
    rfl
  · simp only [storeProfile, hprofile, Option.getD_some, Json.stringMember?, hactionBody]
    rw [haction.replaced a (by rw [ha]; rfl)]
    exact fromWire_toWire.1 a
  · simp only [storeProfile, hprofile, Option.getD_some, hidleBody]
    cases v with
    | none =>
        rw [hidle.cleared hv]
        rfl
    | some v =>
        rw [hidle.replaced v hv]
        rfl
  · simp only [storeProfile, hprofile, Option.getD_some, Json.stringMember?, hfilterBody]
    cases v with
    | none =>
        rw [hfilter.cleared hv]
        rfl
    | some v =>
        rw [hfilter.replaced v hv]
        rfl
  · simp only [storeProfile, hprofile, Option.getD_some, Json.stringMember?, htypeBody]
    cases v with
    | none =>
        rw [htype.cleared hv]
        rfl
    | some v =>
        rw [htype.replaced v hv]
        exact congrArg some (fromWire_toWire.2 v)

/-- `refuse_unknown_carried` refuses what it is named for, and nothing else. -/
theorem refuseUnknownCarried_eq :
    (CarriesUnknown spec read ∧
        ∃ what, refuseUnknownCarried spec read = .error (.invalidArgument what)) ∨
      ¬CarriesUnknown spec read ∧ refuseUnknownCarried spec read = .ok () := by
  unfold refuseUnknownCarried CarriesUnknown
  by_cases haction : spec.terminationAction = none ∧ read.terminationAction = .unknown
  · rw [if_pos haction]
    exact .inl ⟨.inl haction, _, rfl⟩
  · rw [if_neg haction]
    by_cases htype : spec.serviceType = none ∧ read.serviceType = some .unknown
    · rw [if_pos htype]
      exact .inl ⟨.inr htype, _, rfl⟩
    · rw [if_neg htype]
      exact .inr ⟨fun h => h.elim haction htype, rfl⟩

/-- A profile's change: one that would have to carry an unknown value is refused. -/
theorem profileChange_eq (e : ManifestEntity) (segment : NetworkSegmentResponse) :
    ((profileDrifted spec read = true ∧ CarriesUnknown spec read) ∧
        ∃ what, profileChange e spec (some (segment, read)) = .error (.invalidArgument what)) ∨
      ¬(profileDrifted spec read = true ∧ CarriesUnknown spec read) ∧
        profileChange e spec (some (segment, read)) =
          .ok { entity := e, action := actionFor (profileDrifted spec read), id := some segment.id,
                readProfile := some read } := by
  unfold profileChange
  by_cases hdrift : profileDrifted spec read = true
  · simp only [if_pos hdrift]
    rcases refuseUnknownCarried_eq spec read with ⟨hcarries, what, hrefused⟩ | ⟨hcarries, hok⟩
    · rw [hrefused]
      exact .inl ⟨⟨hdrift, hcarries⟩, what, rfl⟩
    · rw [hok]
      exact .inr ⟨fun h => hcarries h.2, rfl⟩
  · simp only [if_neg hdrift]
    exact .inr ⟨fun h => hdrift h.1, trivial⟩

end

section

/-! ## What a plan does -/

variable {σ : Type}

/-- The tenant, with the calls that were made of it. -/
def Api.recorded (api : Api σ) : Api (σ × List Call) where
  parse := api.parse
  pages := api.pages
  handler c body := fun s =>
    ((api.handler c body s.1).1, ((api.handler c body s.1).2, s.2 ++ [c]))

variable {τ : Type} {f : σ → τ} {api : Api σ} {m : Manifest}

theorem onTenant_keeps {α : Type} {p : Prog σ Exc α} (hp : Keeps f p) :
    Keeps (fun w : Planning σ => f w.world) (onTenant p) := fun w => hp w.world

theorem walk_keeps {α : Type} {list : PageRequest → Prog σ Exc (Page α)}
    (hlist : ∀ r, Keeps f (list r)) (pages : Nat) (request : PageRequest) (out : List α) :
    Keeps f (walk list pages request out) := by
  induction pages generalizing request out with
  | zero => exact Keeps.raise _
  | succ pages ih =>
      refine Keeps.bind (hlist request) fun page => Keeps.ite (Keeps.ret _) ?_
      exact Keeps.ite (Keeps.ret _) (ih _ _)

/-- Whatever no read touches, a plan leaves alone. -/
structure ReadsKeep (api : Api σ) (f : σ → τ) : Prop where
  call : ∀ c : Call, c.reads = true → Keeps f (api.call c)

theorem readExisting_keeps (h : ReadsKeep api f) (kind : ManifestKind) :
    Keeps f (readExisting api kind) := by
  cases kind with
  | resource => exact Keeps.bind (h.call _ rfl) fun _ => Keeps.ret _
  | permission => exact Keeps.bind (h.call _ rfl) fun _ => Keeps.ret _
  | role => exact Keeps.bind (h.call _ rfl) fun _ => Keeps.ret _
  | group => exact Keeps.bind (h.call _ rfl) fun _ => Keeps.ret _
  | serviceAccount => exact Keeps.bind (h.call _ rfl) fun _ => Keeps.ret _
  | _ => exact Keeps.ret _

/-- What is read is put beside the tenant. -/
theorem readAndPut_keeps {α : Type} {p : Prog σ Exc α} {put : α → Planning σ → Planning σ}
    (hp : Keeps f p) (hput : ∀ a w, (put a w).world = w.world) :
    Keeps (fun w : Planning σ => f w.world) (do
      let a ← onTenant p
      Prog.modify (put a)
      pure a) :=
  Keeps.bind (onTenant_keeps hp) fun a =>
    Keeps.bind (Keeps.modify fun w => congrArg f (hput a w)) fun _ => Keeps.ret a

theorem existingOf_keeps (h : ReadsKeep api f) (kind : ManifestKind) :
    Keeps (fun w : Planning σ => f w.world) (existingOf api kind) := by
  refine Keeps.bind Keeps.read fun w => ?_
  split
  · exact Keeps.ret _
  · exact readAndPut_keeps (readExisting_keeps h kind) fun _ _ => rfl

theorem readPolicy_keeps (h : ReadsKeep api f) :
    Keeps (fun w : Planning σ => f w.world) (readPolicy api) := by
  refine Keeps.bind Keeps.read fun w => ?_
  split
  · exact Keeps.ret _
  · exact readAndPut_keeps (h.call .getPolicy rfl) fun _ _ => rfl

theorem readSegments_keeps (h : ReadsKeep api f) :
    Keeps (fun w : Planning σ => f w.world) (readSegments api) := by
  refine Keeps.bind Keeps.read fun w => ?_
  split
  · exact Keeps.ret _
  · exact readAndPut_keeps (walk_keeps (fun r => h.call (.listSegments r) rfl) _ _ _) fun _ _ => rfl

theorem readProfiles_keeps (h : ReadsKeep api f) :
    Keeps (fun w : Planning σ => f w.world) (readProfiles api) := by
  refine Keeps.bind Keeps.read fun w => ?_
  split
  · exact Keeps.ret _
  · exact readAndPut_keeps (walk_keeps (fun r => h.call (.listProfiles r) rfl) _ _ _) fun _ _ => rfl

theorem planNetworkEntity_keeps (h : ReadsKeep api f) (e : ManifestEntity) :
    Keeps (fun w : Planning σ => f w.world) (planNetworkEntity api m e) := by
  unfold planNetworkEntity
  split
  · exact Keeps.bind (readPolicy_keeps h) fun _ => Keeps.ret _
  · exact Keeps.bind (readSegments_keeps h) fun _ => Keeps.ret _
  · exact Keeps.bind (readSegments_keeps h) fun _ => Keeps.bind (readProfiles_keeps h) fun _ =>
      Keeps.lift _
  · exact Keeps.ret _

theorem boundRoleBindings_keeps (h : ReadsKeep api f) (kind : ManifestKind) (subjectId : Str) :
    Keeps (fun w : Planning σ => f w.world)
      (boundRoleBindings (fun c => onTenant (api.call c)) kind subjectId) := by
  cases kind with
  | group => exact Keeps.bind (onTenant_keeps (h.call (.groupRoles subjectId) rfl)) fun _ => Keeps.ret _
  | serviceAccount =>
      exact Keeps.bind (onTenant_keeps (h.call (.serviceAccountRoles subjectId) rfl)) fun _ =>
        Keeps.ret _
  | _ => exact Keeps.bind (Keeps.ret _) fun _ => Keeps.ret _

theorem planEntity_keeps (h : ReadsKeep api f) (e : ManifestEntity) :
    Keeps (fun w : Planning σ => f w.world) (planEntity api m e) := by
  have hbindings : ∀ id, Keeps (fun w : Planning σ => f w.world) (bindingsDrifted api m e id) :=
    fun id => Keeps.bind (existingOf_keeps h .resource) fun _ =>
      Keeps.bind (boundRoleBindings_keeps h e.kind id) fun _ => Keeps.ret _
  refine Keeps.ite (planNetworkEntity_keeps h e) ?_
  refine Keeps.bind (existingOf_keeps h e.kind) fun existing => ?_
  split
  · exact Keeps.ret _
  · refine Keeps.ite (Keeps.raise _) (Keeps.bind ?_ fun _ => Keeps.ret _)
    exact Keeps.ite (hbindings _) (Keeps.ret _)

theorem each_keeps {α β : Type} {g : α → Prog σ Exc β} (hg : ∀ a, Keeps f (g a)) (l : List α) :
    Keeps f (Prog.each g l) := by
  induction l with
  | nil => exact Keeps.ret _
  | cons a l ih => exact Keeps.bind (hg a) fun _ => Keeps.bind ih fun _ => Keeps.ret _

theorem plan_keeps (h : ReadsKeep api f) : Keeps f (plan api m) := by
  refine Keeps.bind (Keeps.lift _) fun entities => Keeps.bind (fun s => ?_) fun _ => Keeps.ret _
  exact each_keeps (f := fun w : Planning σ => f w.world) (planEntity_keeps h) entities { world := s }

variable (api m) in
/-- The calls a plan makes are all reads. -/
theorem plan_reads (s : σ) : ∀ c ∈ (plan api.recorded m (s, [])).2.2, c.reads = true := by
  have hkeep : ReadsKeep api.recorded fun w : σ × List Call => w.2.filter fun c => !c.reads := by
    refine ⟨fun c hc => Keeps.bind (Keeps.lift _) fun body w => ?_⟩
    show (w.2 ++ [c]).filter _ = _
    rw [List.filter_append, List.filter_cons_of_neg (by simp [hc]), List.filter_nil, List.append_nil]
  have hnone := plan_keeps (m := m) hkeep (s, [])
  intro c hc
  by_contra hwrites
  have hmem : c ∈ (plan api.recorded m (s, [])).2.2.filter fun c => !c.reads :=
    List.mem_filter.mpr ⟨hc, by simpa using hwrites⟩
  rw [hnone] at hmem
  exact List.not_mem_nil hmem

/-- A planned update has read what it replaces, found a difference, and has nothing to carry that
cannot be sent. -/
structure Replaces (e : ManifestEntity) (c : PlannedChange) : Prop where
  segment : e.kind = .networkSegment → c.action = .update → ∃ spec read,
    e.networkSegment = some spec ∧ c.readSegment = some read ∧ c.knownId = read.id ∧
      segmentDrifted spec read = true
  profile : e.kind = .networkProfile → c.action = .update → ∃ spec read,
    e.networkProfile = some spec ∧ c.readProfile = some read ∧
      profileDrifted spec read = true ∧ ¬CarriesUnknown spec read

theorem actionFor_update {drifted : Bool} (h : actionFor drifted = .update) : drifted = true := by
  cases drifted with
  | true => rfl
  | false => cases h

/-- A change of any other kind is no matter here. -/
theorem Replaces.other {e : ManifestEntity} (hsegment : e.kind ≠ .networkSegment)
    (hprofile : e.kind ≠ .networkProfile) (c : PlannedChange) : Replaces e c :=
  ⟨fun h => absurd h hsegment, fun h => absurd h hprofile⟩

theorem planNetworkEntity_replaces (e : ManifestEntity) :
    Returns (planNetworkEntity api m e) fun c _ => Replaces e c := by
  unfold planNetworkEntity
  split
  next _ _ spec hkind _ =>
    exact Returns.seq fun _ => Returns.ret fun _ =>
      .other (by rw [hkind]; decide) (by rw [hkind]; decide) _
  next _ _ spec hkind hspec =>
    refine Returns.seq fun segments => Returns.ret fun _ => ⟨fun _ hupdate => ?_, fun h => ?_⟩
    · cases hread : findReadSegment segments spec with
      | none =>
          rw [hread] at hupdate
          cases hupdate
      | some read =>
          rw [hread] at hupdate
          exact ⟨spec, read, hspec, rfl, rfl, actionFor_update hupdate⟩
    · rw [hkind] at h
      cases h
  next _ _ _ spec hkind hspec =>
    refine Returns.seq fun segments => Returns.seq fun profiles => Returns.lift fun c _ hc =>
      ⟨fun h => ?_, fun _ hupdate => ?_⟩
    · rw [hkind] at h
      cases h
    · cases hread : findReadProfile m spec segments profiles with
      | none =>
          rw [hread] at hc
          cases hc
          cases hupdate
      | some pair =>
          obtain ⟨segment, read⟩ := pair
          rw [hread] at hc
          rcases profileChange_eq spec read e segment with ⟨-, what, hrefused⟩ | ⟨hnot, hok⟩
          · rw [hrefused] at hc
            cases hc
          · rw [hok] at hc
            cases hc
            have hdrift := actionFor_update hupdate
            exact ⟨spec, read, hspec, rfl, hdrift, fun h => hnot ⟨hdrift, h⟩⟩
  next =>
    refine Returns.ret fun _ => ⟨fun _ h => ?_, fun _ h => ?_⟩
    · cases h
    · cases h

theorem planEntity_replaces (e : ManifestEntity) :
    Returns (planEntity api m e) fun c _ => Replaces e c := by
  refine Returns.ite (fun _ => planNetworkEntity_replaces e) fun hkind => ?_
  refine Returns.always fun c _ => .other ?_ ?_ c
  · rintro h
    exact hkind (by rw [h]; rfl)
  · rintro h
    exact hkind (by rw [h]; rfl)

theorem planEntity_replaced (e : ManifestEntity) (hok : NetworkOk m e) :
    Returns (planEntity api m e) fun c _ => c.entity = e ∧ Replaces e c := by
  intro w _
  rcases hrun : planEntity api m e w with ⟨x | c, t⟩
  · trivial
  · exact ⟨((planEntity_returns api m hok).elim hrun).entity, (planEntity_replaces e).elim hrun⟩

theorem replaces_of_forall₂ {l : List ManifestEntity} {changes : List PlannedChange}
    (h : List.Forall₂ (fun e c => c.entity = e ∧ Replaces e c) l changes) :
    ∀ c ∈ changes, Replaces c.entity c := by
  induction h with
  | nil => exact fun _ hc => absurd hc List.not_mem_nil
  | cons hc _ ih =>
      obtain ⟨rfl, hreplaces⟩ := hc
      exact List.forall_mem_cons.mpr ⟨hreplaces, ih⟩

end

/-! ## Updates lose nothing -/

/-- Segments: what the body holds, that the stored body is no drift, and that no drift is agreement
in every stated member. -/
structure SegmentPreserved (parse : Parser) (spec : ManifestNetworkSegment)
    (read : NetworkSegmentResponse) : Prop where
  body : ∀ id, ∃ body, Call.body parse (.replaceSegment id (segmentReplaceBody spec read)) =
    .ok (some body) ∧ SegmentBody spec read body ∧
      segmentDrifted spec (storeSegment body read) = false
  agrees : segmentDrifted spec read = false → SegmentAgrees spec read

/-- Profiles: the same, of a body that is built; one is built unless a value without a name is
stated, or would have to be carried. -/
structure ProfilePreserved (parse : Parser) (spec : ManifestNetworkProfile)
    (read : NetworkReplyProfile) : Prop where
  built : ∀ segmentId version, (∃ body, Call.body parse (.replaceProfile segmentId
    ⟨read.version, version, profileReplaceInput spec read⟩) = .ok (some body)) ↔
      ¬(CarriesUnknown spec read ∨ StatesUnknown spec)
  body : ∀ segmentId version body, Call.body parse (.replaceProfile segmentId
    ⟨read.version, version, profileReplaceInput spec read⟩) = .ok (some body) →
      ProfileBody spec read version body ∧ profileDrifted spec (storeProfile body read) = false
  agrees : profileDrifted spec read = false → ProfileAgrees spec read
  refused : ∀ e segment, profileDrifted spec read = true → CarriesUnknown spec read →
    ∃ what, profileChange e spec (some (segment, read)) = .error (.invalidArgument what)

/-- A plan only reads, and its updates are those the bodies above are for. -/
structure PlanGuards {σ : Type} (api : Api σ) (m : Manifest) (s : σ) : Prop where
  reads : ∀ c ∈ (plan api.recorded m (s, [])).2.2, c.reads = true
  updates : ∀ p t, plan api m s = (.ok p, t) → ∀ c ∈ p.changes, Replaces c.entity c

/-- A full replacement loses nothing of a live segment or profile, is not repeated once it is
stored, and is refused in the plan where it could not be written. -/
theorem replacements_lose_nothing {σ : Type} (parse : Parser)
    (segmentSpec : ManifestNetworkSegment) (segment : NetworkSegmentResponse)
    (profileSpec : ManifestNetworkProfile) (profile : NetworkReplyProfile) (api : Api σ)
    (m : Manifest) (s : σ) : SegmentPreserved parse segmentSpec segment ∧
      ProfilePreserved parse profileSpec profile ∧ PlanGuards api m s := by
  refine ⟨⟨fun id => ?_, (segmentDrifted_eq_false_iff _ _).mp⟩,
    ⟨profileBody_built_iff _ _ _, fun segmentId version body hbody => ?_,
      (profileDrifted_eq_false_iff _ _).mp, fun e segment hdrift hcarries => ?_⟩,
    ⟨plan_reads api m s, fun p t hplan c hc => ?_⟩⟩
  · have hmerged := segmentBody_merged segmentSpec segment parse id rfl
    exact ⟨_, rfl, hmerged, (segmentDrifted_eq_false_iff _ _).mpr
      (storeSegment_agrees _ _ hmerged segment)⟩
  · have hmerged := profileBody_merged _ _ hbody
    exact ⟨hmerged, (profileDrifted_eq_false_iff _ _).mpr
      (storeProfile_agrees _ _ hmerged profile)⟩
  · rcases profileChange_eq profileSpec profile e segment with ⟨-, hrefused⟩ | ⟨hnot, -⟩
    · exact hrefused
    · exact absurd ⟨hdrift, hcarries⟩ hnot
  · obtain ⟨l, -, -, -, hchanges⟩ := plan_each planEntity_replaced hplan
    exact replaces_of_forall₂ hchanges c hc

end Axiam.Management
