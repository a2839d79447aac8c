import Axiam.Management.Replacing
import Axiam.Management.Wire

/-!
# Editing a stream

`SsfStream::to_input` (`src/management_helpers.cpp`) and the readers and writers around it
(`src/management_models.cpp`).  `ssf.update_stream` is a full replacement, so a member that is not
copied is erased: `toInput_describes` follows every member from the document that was read, through
the changes of the caller, to the body that is sent.
-/

namespace Axiam.Management

open Axiam.Lib
open Call (members text texts)

/-! ## The open enumerations of a stream -/

inductive SsfDeliveryMethod where
  | push | poll | unknown
  deriving DecidableEq

namespace SsfDeliveryMethod

def toWire : SsfDeliveryMethod → Str
  | push => "push"
  | poll => "poll"
  | unknown => ""

def fromWire (wire : Str) : SsfDeliveryMethod :=
  if wire = "push" then push else if wire = "poll" then poll else unknown

def sendWire : SsfDeliveryMethod → Except Exc Str
  | unknown => .error (refuseUnknown "SsfDeliveryMethod")
  | method => .ok method.toWire

end SsfDeliveryMethod

inductive SsfStreamStatus where
  | enabled | paused | disabled | unknown
  deriving DecidableEq

namespace SsfStreamStatus

def toWire : SsfStreamStatus → Str
  | enabled => "enabled"
  | paused => "paused"
  | disabled => "disabled"
  | unknown => ""

def fromWire (wire : Str) : SsfStreamStatus :=
  if wire = "enabled" then enabled
  else if wire = "paused" then paused
  else if wire = "disabled" then disabled else unknown

def sendWire : SsfStreamStatus → Except Exc Str
  | unknown => .error (refuseUnknown "SsfStreamStatus")
  | status => .ok status.toWire

end SsfStreamStatus

inductive SsfSubjectFormat where
  | issSub | email | unknown
  deriving DecidableEq

namespace SsfSubjectFormat

def toWire : SsfSubjectFormat → Str
  | issSub => "iss_sub"
  | email => "email"
  | unknown => ""

def fromWire (wire : Str) : SsfSubjectFormat :=
  if wire = "iss_sub" then issSub else if wire = "email" then email else unknown

def sendWire : SsfSubjectFormat → Except Exc Str
  | unknown => .error (refuseUnknown "SsfSubjectFormat")
  | format => .ok format.toWire

end SsfSubjectFormat

/-! ## Streams -/

/-- An event type is kept as the text it came as. -/
abbrev SsfEventType : Type := Str

/-- What the server says of a stream; what only it sets is read and left out here. -/
structure SsfStream where
  audience : Str
  deliveryMethod : SsfDeliveryMethod
  description : Option Str := none
  endpointUrl : Option Str := none
  eventsAllowed : List SsfEventType
  eventsRequested : List SsfEventType
  receiverClientId : Str
  status : SsfStreamStatus
  statusReason : Option Str := none
  subjectFormat : SsfSubjectFormat
  updatedAt : Str
  deriving DecidableEq

/-- The body of a replacement; it cannot be built without its required members. -/
structure SsfStreamInput where
  audience : Str
  authorizationHeader : Option Str := none
  clearAuthorizationHeader : Option Bool := none
  deliveryMethod : SsfDeliveryMethod
  description : Option Str := none
  endpointUrl : Option Str := none
  eventsAllowed : List SsfEventType
  eventsRequested : Option (List SsfEventType) := none
  expectedUpdatedAt : Option Str := none
  receiverClientId : Str
  status : Option SsfStreamStatus := none
  statusReason : Option Str := none
  subjectFormat : Option SsfSubjectFormat := none
  deriving DecidableEq

/-- What a caller changes.  A member that can be none is doubly optional: `some none` clears it. -/
structure SsfStreamChanges where
  receiverClientId : Option Str := none
  audience : Option Str := none
  deliveryMethod : Option SsfDeliveryMethod := none
  eventsAllowed : Option (List SsfEventType) := none
  eventsRequested : Option (List SsfEventType) := none
  description : Option (Option Str) := none
  endpointUrl : Option (Option Str) := none
  status : Option SsfStreamStatus := none
  statusReason : Option (Option Str) := none
  subjectFormat : Option SsfSubjectFormat := none
  authorizationHeader : Option Str := none
  clearAuthorizationHeader : Option Bool := none
  expectedUpdatedAt : Option (Option Str) := none

namespace SsfStream

/-- `from_json`. -/
def fromJson (j : Json) : Except JsonError SsfStream := do
  let audience ← stringAt j "audience"
  let _ ← memberAt Json.getBool j "authorization_header_set"
  let _ ← stringAt j "created_at"
  let deliveryMethod ← stringAt j "delivery_method"
  let description ← memberIfAny Json.getString j "description"
  let endpointUrl ← memberIfAny Json.getString j "endpoint_url"
  let eventsAllowed ← memberAt (getArray Json.getString) j "events_allowed"
  let _ ← memberAt (getArray Json.getString) j "events_delivered"
  let eventsRequested ← memberAt (getArray Json.getString) j "events_requested"
  let _ ← stringAt j "id"
  let _ ← memberIfAny Json.getString j "last_verification_at"
  let receiverClientId ← stringAt j "receiver_client_id"
  let status ← stringAt j "status"
  let _ ← stringAt j "status_actor"
  let statusReason ← memberIfAny Json.getString j "status_reason"
  let subjectFormat ← stringAt j "subject_format"
  let _ ← stringAt j "tenant_id"
  let _ ← memberAt Json.getBool j "transmitter_active"
  let _ ← memberIfAny Json.getString j "transmitter_inactive_reason"
  let updatedAt ← stringAt j "updated_at"
  .ok {
    audience, description, endpointUrl, eventsAllowed, eventsRequested, receiverClientId,
    statusReason, updatedAt
    deliveryMethod := .fromWire deliveryMethod
    status := .fromWire status
    subjectFormat := .fromWire subjectFormat }

variable (stream : SsfStream)

/-- `to_input()`. -/
def toInput : SsfStreamInput where
  receiverClientId := stream.receiverClientId
  audience := stream.audience
  deliveryMethod := stream.deliveryMethod
  eventsAllowed := stream.eventsAllowed
  description := stream.description
  endpointUrl := stream.endpointUrl
  eventsRequested := some stream.eventsRequested
  status := some stream.status
  statusReason := stream.statusReason
  subjectFormat := some stream.subjectFormat
  expectedUpdatedAt := some stream.updatedAt

/-- The loop that cuts the requested events to a ceiling. -/
def cutTo (ceiling events : List SsfEventType) : List SsfEventType :=
  events.foldl (fun kept event => if event ∈ ceiling then kept ++ [event] else kept) []

/-- `to_input(changes)`. -/
def toInputWith (changes : SsfStreamChanges) : SsfStreamInput :=
  let out := stream.toInput
  let out := { out with
    receiverClientId := changes.receiverClientId.getD out.receiverClientId
    audience := changes.audience.getD out.audience
    deliveryMethod := changes.deliveryMethod.getD out.deliveryMethod
    description := changes.description.getD out.description
    endpointUrl := changes.endpointUrl.getD out.endpointUrl
    status := changes.status.or out.status
    statusReason := changes.statusReason.getD out.statusReason
    subjectFormat := changes.subjectFormat.or out.subjectFormat
    authorizationHeader := changes.authorizationHeader.or out.authorizationHeader
    clearAuthorizationHeader := changes.clearAuthorizationHeader.or out.clearAuthorizationHeader }
  let out :=
    match changes.eventsAllowed with
    | none => out
    | some ceiling =>
        let out := { out with eventsAllowed := ceiling }
        if changes.eventsRequested.isNone then
          { out with eventsRequested := some (cutTo ceiling stream.eventsRequested) }
        else out
  let out :=
    match changes.eventsRequested with
    | none => out
    | some events => { out with eventsRequested := some events }
  match changes.expectedUpdatedAt with
  | none => out
  | some version => { out with expectedUpdatedAt := version }

end SsfStream

namespace SsfStreamInput

/-- The members of the body, with the texts of the three enumerations. -/
def slots (input : SsfStreamInput) (deliveryMethod : Str) (status subjectFormat : Option Str) :
    List (Str × Option Json) :=
  [("audience", text input.audience),
    ("authorization_header", input.authorizationHeader.map .string),
    ("clear_authorization_header", input.clearAuthorizationHeader.map .boolean),
    ("delivery_method", text deliveryMethod),
    ("description", input.description.map .string),
    ("endpoint_url", input.endpointUrl.map .string),
    ("events_allowed", some (texts input.eventsAllowed)),
    ("events_requested", input.eventsRequested.map texts),
    ("expected_updated_at", input.expectedUpdatedAt.map .string),
    ("receiver_client_id", text input.receiverClientId),
    ("status", status.map .string),
    ("status_reason", input.statusReason.map .string),
    ("subject_format", subjectFormat.map .string)]

/-- `to_json`: an unset member is left out, and an unknown value of an enumeration is refused. -/
def toJson (input : SsfStreamInput) : Except Exc Json := do
  let deliveryMethod ← input.deliveryMethod.sendWire
  let status ← input.status.mapM SsfStreamStatus.sendWire
  let subjectFormat ← input.subjectFormat.mapM SsfSubjectFormat.sendWire
  .ok (members (input.slots deliveryMethod status subjectFormat))

theorem slots_nodup (input : SsfStreamInput) (deliveryMethod : Str)
    (status subjectFormat : Option Str) :
    ((input.slots deliveryMethod status subjectFormat).map (·.1)).Nodup := by
  show (["audience", "authorization_header", "clear_authorization_header", "delivery_method",
    "description", "endpoint_url", "events_allowed", "events_requested", "expected_updated_at",
    "receiver_client_id", "status", "status_reason", "subject_format"] : List Str).Nodup
  decide

end SsfStreamInput

/-! ## What is read and what is written back -/

/-- A member that is there and is not `null`. -/
def present (member : Option Json) : Option Json := member.filter fun j => !j.isNull

@[simp]
theorem present_string (s : Str) : present (some (.string s)) = some (.string s) := rfl

@[simp]
theorem present_texts (l : List Str) : present (some (texts l)) = some (texts l) := rfl

theorem find_stringAt {j : Json} {key s : Str} (h : stringAt j key = .ok s) :
    j.find? key = some (.string s) := by
  cases j with
  | object members =>
      show members.lookup key = _
      simp only [stringAt, memberAt] at h
      cases hlookup : members.lookup key with
      | none =>
          rw [hlookup] at h
          cases h
      | some member =>
          rw [hlookup] at h
          cases member <;> cases h
          rfl
  | _ => cases h

theorem stringIfAny_ok {j : Json} {key : Str} {value : Option Str}
    (h : memberIfAny Json.getString j key = .ok value) :
    present (j.find? key) = value.map Json.string := by
  simp only [memberIfAny] at h
  cases hfind : j.find? key with
  | none =>
      rw [hfind] at h
      cases h
      rfl
  | some member =>
      rw [hfind] at h
      cases member <;> cases h <;> rfl

theorem mapM_getString_ok {items : List Json} {strings : List Str}
    (h : items.mapM Json.getString = .ok strings) : items = strings.map Json.string := by
  induction items generalizing strings with
  | nil =>
      cases h
      rfl
  | cons item rest ih =>
      rw [List.mapM_cons] at h
      obtain ⟨s, hs, h⟩ := except_bind_eq_ok.mp h
      obtain ⟨tail, htail, h⟩ := except_bind_eq_ok.mp h
      cases h
      rw [List.map_cons, ← ih htail]
      cases item <;> cases hs
      rfl

theorem listAt_ok {j : Json} {key : Str} {strings : List Str}
    (h : memberAt (getArray Json.getString) j key = .ok strings) :
    j.find? key = some (texts strings) := by
  cases j with
  | object members =>
      show members.lookup key = _
      simp only [memberAt] at h
      cases hlookup : members.lookup key with
      | none =>
          rw [hlookup] at h
          cases h
      | some member =>
          rw [hlookup] at h
          cases member with
          | array items =>
              rw [mapM_getString_ok h]
              rfl
          | _ => cases h
  | _ => cases h

/-- Of members with different names each is found under its own. -/
theorem find?_of_mem {l : List (Str × Option Json)} (hdistinct : (l.map (·.1)).Nodup) {key : Str}
    {value : Option Json} (hmem : (key, value) ∈ l) : (members l).find? key = value := by
  obtain ⟨before, after, rfl⟩ := List.append_of_mem hmem
  have hlookup : (before ++ (key, value) :: after).lookup key = some value := by
    refine List.lookup_eq_some_iff.mpr ⟨before, after, rfl, fun m hm => ?_⟩
    rw [bne_iff_ne]
    rintro rfl
    rw [List.map_append, List.nodup_append] at hdistinct
    exact hdistinct.2.2 _ (List.mem_map_of_mem hm) _ List.mem_cons_self rfl
  rw [find?_members hdistinct, hlookup]
  rfl

theorem mapM_some_ok {ε α β : Type} {f : α → Except ε β} {a : α} {o : Option β}
    (h : (some a).mapM f = .ok o) : ∃ b, f a = .ok b ∧ o = some b := by
  cases hf : f a with
  | error e => simp [hf] at h
  | ok b =>
      simp only [Option.mapM_some, hf] at h
      cases h
      exact ⟨b, rfl, rfl⟩

/-- A known value is sent as the text it was read from. -/
theorem SsfDeliveryMethod.sendWire_fromWire {s w : Str}
    (h : (SsfDeliveryMethod.fromWire s).sendWire = .ok w) : w = s := by
  unfold SsfDeliveryMethod.fromWire at h
  split at h
  · next hs => cases h; exact hs.symm
  · split at h
    · next hs => cases h; exact hs.symm
    · cases h

theorem SsfStreamStatus.sendWire_fromWire {s w : Str}
    (h : (SsfStreamStatus.fromWire s).sendWire = .ok w) : w = s := by
  unfold SsfStreamStatus.fromWire at h
  split at h
  · next hs => cases h; exact hs.symm
  · split at h
    · next hs => cases h; exact hs.symm
    · split at h
      · next hs => cases h; exact hs.symm
      · cases h

theorem SsfSubjectFormat.sendWire_fromWire {s w : Str}
    (h : (SsfSubjectFormat.fromWire s).sendWire = .ok w) : w = s := by
  unfold SsfSubjectFormat.fromWire at h
  split at h
  · next hs => cases h; exact hs.symm
  · split at h
    · next hs => cases h; exact hs.symm
    · cases h

/-- The members of a stream's document that a replacement carries under the same name. -/
def copiedMembers : List Str :=
  ["audience", "delivery_method", "description", "endpoint_url", "events_allowed",
    "events_requested", "receiver_client_id", "status", "status_reason", "subject_format"]

/-- `body` replaces what `doc` describes by the same: every member is there as it was read, none is
sent that was not, and the replacement is for the version that was read. -/
structure Restates (doc body : Json) : Prop where
  copied : ∀ key ∈ copiedMembers, body.find? key = present (doc.find? key)
  version : body.find? "expected_updated_at" = doc.find? "updated_at"
  header : body.find? "authorization_header" = none
  cleared : body.find? "clear_authorization_header" = none

/-- Every member of the body that is sent is the one that was set. -/
theorem toJson_find {input : SsfStreamInput} {body : Json} (h : input.toJson = .ok body) :
    ∃ method status format, input.deliveryMethod.sendWire = .ok method ∧
      input.status.mapM SsfStreamStatus.sendWire = .ok status ∧
      input.subjectFormat.mapM SsfSubjectFormat.sendWire = .ok format ∧
      ∀ key value, (key, value) ∈ input.slots method status format → body.find? key = value := by
  rw [SsfStreamInput.toJson] at h
  obtain ⟨method, hmethod, h⟩ := except_bind_eq_ok.mp h
  obtain ⟨status, hstatus, h⟩ := except_bind_eq_ok.mp h
  obtain ⟨format, hformat, h⟩ := except_bind_eq_ok.mp h
  cases h
  exact ⟨method, status, format, hmethod, hstatus, hformat, fun _ _ hmem =>
    find?_of_mem (input.slots_nodup method status format) hmem⟩

theorem toInput_restates {doc body : Json} {stream : SsfStream}
    (hread : SsfStream.fromJson doc = .ok stream) (hbody : stream.toInput.toJson = .ok body) :
    Restates doc body := by
  rw [SsfStream.fromJson] at hread
  obtain ⟨audience, haudience, hread⟩ := except_bind_eq_ok.mp hread
  obtain ⟨_, -, hread⟩ := except_bind_eq_ok.mp hread
  obtain ⟨_, -, hread⟩ := except_bind_eq_ok.mp hread
  obtain ⟨deliveryMethod, hdeliveryMethod, hread⟩ := except_bind_eq_ok.mp hread
  obtain ⟨description, hdescription, hread⟩ := except_bind_eq_ok.mp hread
  obtain ⟨endpointUrl, hendpointUrl, hread⟩ := except_bind_eq_ok.mp hread
  obtain ⟨eventsAllowed, heventsAllowed, hread⟩ := except_bind_eq_ok.mp hread
  obtain ⟨_, -, hread⟩ := except_bind_eq_ok.mp hread
  obtain ⟨eventsRequested, heventsRequested, hread⟩ := except_bind_eq_ok.mp hread
  obtain ⟨_, -, hread⟩ := except_bind_eq_ok.mp hread
  obtain ⟨_, -, hread⟩ := except_bind_eq_ok.mp hread
  obtain ⟨receiverClientId, hreceiverClientId, hread⟩ := except_bind_eq_ok.mp hread
  obtain ⟨status, hstatus, hread⟩ := except_bind_eq_ok.mp hread
  obtain ⟨_, -, hread⟩ := except_bind_eq_ok.mp hread
  obtain ⟨statusReason, hstatusReason, hread⟩ := except_bind_eq_ok.mp hread
  obtain ⟨subjectFormat, hsubjectFormat, hread⟩ := except_bind_eq_ok.mp hread
  obtain ⟨_, -, hread⟩ := except_bind_eq_ok.mp hread
  obtain ⟨_, -, hread⟩ := except_bind_eq_ok.mp hread
  obtain ⟨_, -, hread⟩ := except_bind_eq_ok.mp hread
  obtain ⟨updatedAt, hupdatedAt, hread⟩ := except_bind_eq_ok.mp hread
  cases hread
  obtain ⟨method, status', format, hmethod, hstatus', hformat, hfind⟩ := toJson_find hbody
  -- the three enumerations come back as the texts they were read from
  obtain rfl := SsfDeliveryMethod.sendWire_fromWire hmethod
  obtain ⟨wire, hwire, rfl⟩ := mapM_some_ok hstatus'
  obtain rfl := SsfStreamStatus.sendWire_fromWire hwire
  obtain ⟨wire', hwire', rfl⟩ := mapM_some_ok hformat
  obtain rfl := SsfSubjectFormat.sendWire_fromWire hwire'
  simp only [SsfStreamInput.slots, SsfStream.toInput, text] at hfind
  refine ⟨?_, ?_, ?_, ?_⟩
  · simp only [copiedMembers, List.forall_mem_cons, List.not_mem_nil, false_implies, implies_true,
      and_true]
    rw [find_stringAt haudience, find_stringAt hdeliveryMethod, stringIfAny_ok hdescription,
      stringIfAny_ok hendpointUrl, listAt_ok heventsAllowed, listAt_ok heventsRequested,
      find_stringAt hreceiverClientId, find_stringAt hstatus, stringIfAny_ok hstatusReason,
      find_stringAt hsubjectFormat]
    refine ⟨?_, ?_, ?_, ?_, ?_, ?_, ?_, ?_, ?_, ?_⟩ <;> exact hfind _ _ (by simp)
  · rw [find_stringAt hupdatedAt]
    exact hfind _ _ (by simp)
  · exact hfind _ _ (by simp)
  · exact hfind _ _ (by simp)

/-! ## The changes laid over it -/

theorem foldl_cut (ceiling events kept : List SsfEventType) :
    events.foldl (fun kept event => if event ∈ ceiling then kept ++ [event] else kept) kept =
      kept ++ events.filter (· ∈ ceiling) := by
  induction events generalizing kept with
  | nil => simp
  | cons event rest ih =>
      rw [List.foldl_cons, ih]
      by_cases hmem : event ∈ ceiling <;> simp [hmem]

theorem cutTo_eq (ceiling events : List SsfEventType) :
    SsfStream.cutTo ceiling events = events.filter (· ∈ ceiling) :=
  foldl_cut ceiling events []

/-- What `out` says of each member: what the changes name, and otherwise what was read. -/
structure Describes (stream : SsfStream) (changes : SsfStreamChanges) (out : SsfStreamInput) :
    Prop where
  receiverClientId : out.receiverClientId = changes.receiverClientId.getD stream.receiverClientId
  audience : out.audience = changes.audience.getD stream.audience
  deliveryMethod : out.deliveryMethod = changes.deliveryMethod.getD stream.deliveryMethod
  description : out.description = changes.description.getD stream.description
  endpointUrl : out.endpointUrl = changes.endpointUrl.getD stream.endpointUrl
  status : out.status = some (changes.status.getD stream.status)
  statusReason : out.statusReason = changes.statusReason.getD stream.statusReason
  subjectFormat : out.subjectFormat = some (changes.subjectFormat.getD stream.subjectFormat)
  /-- No read carries the header, so it is absent unless named. -/
  authorizationHeader : out.authorizationHeader = changes.authorizationHeader
  clearAuthorizationHeader : out.clearAuthorizationHeader = changes.clearAuthorizationHeader
  expectedUpdatedAt : out.expectedUpdatedAt = changes.expectedUpdatedAt.getD (some stream.updatedAt)
  eventsAllowed : out.eventsAllowed = changes.eventsAllowed.getD stream.eventsAllowed
  asRead : changes.eventsAllowed = none → changes.eventsRequested = none →
    out.eventsRequested = some stream.eventsRequested
  cut : ∀ ceiling, changes.eventsAllowed = some ceiling → changes.eventsRequested = none →
    ∃ events, out.eventsRequested = some events ∧
      events = stream.eventsRequested.filter (· ∈ ceiling) ∧
      events.Sublist stream.eventsRequested ∧ events ⊆ out.eventsAllowed
  named : ∀ events, changes.eventsRequested = some events → out.eventsRequested = some events

/-- The events that are requested: as named, or as read and cut to a ceiling that is named. -/
def requestedWith (stream : SsfStream) (changes : SsfStreamChanges) : List SsfEventType :=
  changes.eventsRequested.getD
    (changes.eventsAllowed.elim stream.eventsRequested fun ceiling =>
      stream.eventsRequested.filter (· ∈ ceiling))

/-- The branches of the code, as one record. -/
theorem toInputWith_eq (stream : SsfStream) (changes : SsfStreamChanges) :
    stream.toInputWith changes =
      { receiverClientId := changes.receiverClientId.getD stream.receiverClientId
        audience := changes.audience.getD stream.audience
        deliveryMethod := changes.deliveryMethod.getD stream.deliveryMethod
        description := changes.description.getD stream.description
        endpointUrl := changes.endpointUrl.getD stream.endpointUrl
        status := some (changes.status.getD stream.status)
        statusReason := changes.statusReason.getD stream.statusReason
        subjectFormat := some (changes.subjectFormat.getD stream.subjectFormat)
        authorizationHeader := changes.authorizationHeader
        clearAuthorizationHeader := changes.clearAuthorizationHeader
        eventsAllowed := changes.eventsAllowed.getD stream.eventsAllowed
        eventsRequested := some (requestedWith stream changes)
        expectedUpdatedAt := changes.expectedUpdatedAt.getD (some stream.updatedAt) } := by
  have hstatus : changes.status.or stream.toInput.status =
      some (changes.status.getD stream.status) := by
    cases changes.status <;> rfl
  have hformat : changes.subjectFormat.or stream.toInput.subjectFormat =
      some (changes.subjectFormat.getD stream.subjectFormat) := by
    cases changes.subjectFormat <;> rfl
  have hheader : changes.authorizationHeader.or stream.toInput.authorizationHeader =
      changes.authorizationHeader := Option.or_none
  have hclear : changes.clearAuthorizationHeader.or stream.toInput.clearAuthorizationHeader =
      changes.clearAuthorizationHeader := Option.or_none
  simp only [SsfStream.toInputWith, hstatus, hformat, hheader, hclear, requestedWith, cutTo_eq]
  cases changes.eventsAllowed <;> cases changes.eventsRequested <;>
    cases changes.expectedUpdatedAt <;> rfl

theorem toInputWith_describes (stream : SsfStream) (changes : SsfStreamChanges) :
    Describes stream changes (stream.toInputWith changes) := by
  rw [toInputWith_eq]
  refine ⟨rfl, rfl, rfl, rfl, rfl, rfl, rfl, rfl, rfl, rfl, rfl, rfl, ?_, ?_, ?_⟩
  · intro hallowed hrequested
    show some (requestedWith stream changes) = _
    rw [requestedWith, hallowed, hrequested]
    rfl
  · intro ceiling hallowed hrequested
    refine ⟨stream.eventsRequested.filter (· ∈ ceiling), ?_, rfl, List.filter_sublist, ?_⟩
    · show some (requestedWith stream changes) = _
      rw [requestedWith, hallowed, hrequested]
      rfl
    · intro event hevent
      show event ∈ changes.eventsAllowed.getD stream.eventsAllowed
      rw [hallowed]
      exact of_decide_eq_true (List.mem_filter.mp hevent).2
  · intro events hrequested
    show some (requestedWith stream changes) = _
    rw [requestedWith, hrequested]
    rfl

/-- A stream that was read and the changes to it make a replacement that holds what the changes name
and, for every other member, what was read.  With no changes it says of the stream what the document
said. -/
theorem toInput_describes {doc : Json} {stream : SsfStream}
    (hread : SsfStream.fromJson doc = .ok stream) :
    (∀ changes, Describes stream changes (stream.toInputWith changes)) ∧
      stream.toInputWith {} = stream.toInput ∧
      ∀ body, stream.toInput.toJson = .ok body → Restates doc body :=
  ⟨toInputWith_describes stream, rfl, fun _ hbody => toInput_restates hread hbody⟩

/-- A stream of a receiver that asked for one of its two events. -/
def sampleDocument : Json :=
  .object [("audience", .string "aud"), ("authorization_header_set", .boolean true),
    ("created_at", .string "t0"), ("delivery_method", .string "poll"),
    ("events_allowed", .array [.string "a", .string "b"]), ("events_delivered", .array [.string "b"]),
    ("events_requested", .array [.string "b"]), ("id", .string "s1"),
    ("receiver_client_id", .string "r"), ("status", .string "paused"),
    ("status_actor", .string "receiver"), ("subject_format", .string "email"),
    ("tenant_id", .string "t1"), ("transmitter_active", .boolean true), ("updated_at", .string "t1")]

def sampleStream : SsfStream where
  audience := "aud"
  deliveryMethod := .poll
  eventsAllowed := ["a", "b"]
  eventsRequested := ["b"]
  receiverClientId := "r"
  status := .paused
  subjectFormat := .email
  updatedAt := "t1"

theorem sampleStream_describes :
    SsfStream.fromJson sampleDocument = .ok sampleStream ∧
      (∀ changes, Describes sampleStream changes (sampleStream.toInputWith changes)) :=
  have hread : SsfStream.fromJson sampleDocument = .ok sampleStream := by rfl
  ⟨hread, (toInput_describes hread).1⟩

example : (sampleStream.toInputWith { eventsAllowed := some ["a"] }).eventsRequested = some [] := by
  decide

end Axiam.Management
