import Axiam.Client.Impl
import Axiam.Core.JsonDump
import Axiam.Lib.Assoc
import Mathlib.Algebra.Group.Nat.Defs
import Mathlib.Data.List.Lex
import Mathlib.Data.List.Sublists

/-!
# Client registrations

`ClientRegistration` (`src/oidc.cpp`): a registration is read into typed members and a remainder,
and an update is a full replacement, built from both.  What a read leaves out an update deletes,
so the two have to lose nothing between them.
-/

namespace Axiam.Oidc

open Axiam.Lib Axiam.Client

/-- Bytes compare as numbers. -/
instance linearOrderByte : LinearOrder UInt8 where
  le_refl := UInt8.le_refl
  le_trans _ _ _ := UInt8.le_trans
  lt_iff_le_not_ge _ _ := by rw [UInt8.not_le]; exact ⟨fun h => ⟨UInt8.le_of_lt h, h⟩, And.right⟩
  le_antisymm _ _ := UInt8.le_antisymm
  le_total := UInt8.le_total
  toDecidableLE := inferInstance

/-- The members of an object; keys compare as `std::map` compares them. -/
abbrev Members : Type := List (Str × Json)

/-- `ClientRegistration`. -/
structure ClientRegistration where
  clientId : Str
  clientIdIssuedAt : Option Int
  clientName : Option Str
  redirectUris : Option (List Str)
  grantTypes : Option (List Str)
  responseTypes : Option (List Str)
  tokenEndpointAuthMethod : Option Str
  scope : Option Str
  registrationClientUri : Option Str
  clientSecretExpiresAt : Option Int
  jwksJson : Option Str
  jwksUri : Option Str
  clientSecret : Option Str
  registrationAccessToken : Option Str
  extraJson : Str
  deriving DecidableEq

/-- `kServerStatedMembers`. -/
def kServerStatedMembers : List Str :=
  [str "registration_access_token", str "registration_client_uri",
    str "client_secret_expires_at", str "client_id_issued_at", str "client_secret"]

/-! ## Reading -/

/-- A member of a kind that is expected is taken out of the object, one of another kind is left
in its place. -/
def take {α : Type} (read : Json → Option (Option α)) (key : Str) :
    Prog Members Exc (Option α) := fun j =>
  match (j.lookup key).bind read with
  | none => (.ok none, j)
  | some value => (.ok value, Assoc.erase key j)

/-- A string, or `null`, which is no value. -/
def readString : Json → Option (Option Str)
  | .string s => some (some s)
  | .null => some none
  | _ => none

/-- An integer, or `null`; `get<std::int64_t>` of an unsigned one wraps around. -/
def readInt : Json → Option (Option Int)
  | .integer i => some (some (Json.wrapInt64 i))
  | .null => some none
  | _ => none

/-- An array of nothing but strings. -/
def readList : Json → Option (Option (List Str))
  | .array items => (items.mapM Json.string?).map some
  | _ => none

/-- `take_string`. -/
def takeString (key : Str) : Prog Members Exc (Option Str) := take readString key

/-- `take_int`. -/
def takeInt (key : Str) : Prog Members Exc (Option Int) := take readInt key

/-- `take_list`. -/
def takeList (key : Str) : Prog Members Exc (Option (List Str)) := take readList key

section

variable (env : Env)

/-- A value of any kind, as its text. -/
def readText (v : Json) : Option (Option Str) :=
  match v with
  | .null => some none
  | v => some (some (env.dump v))

/-- The key set, as its text. -/
def takeJwks : Prog Members Exc (Option Str) := fun j =>
  match j.lookup (str "jwks") with
  | none | some .null => take (readText env) "jwks" j
  | some v =>
      match dumpText env v with
      | .ok _ => take (readText env) "jwks" j
      | .error e => (.error e, j)

/-- The members of a registration, of which the first is already taken. -/
def readMembers (clientId : Str) : Prog Members Exc ClientRegistration := do
  let clientIdIssuedAt ← takeInt "client_id_issued_at"
  let clientName ← takeString "client_name"
  let redirectUris ← takeList "redirect_uris"
  let grantTypes ← takeList "grant_types"
  let responseTypes ← takeList "response_types"
  let tokenEndpointAuthMethod ← takeString "token_endpoint_auth_method"
  let scope ← takeString "scope"
  let registrationClientUri ← takeString "registration_client_uri"
  let clientSecretExpiresAt ← takeInt "client_secret_expires_at"
  let jwksJson ← takeJwks env
  let jwksUri ← takeString "jwks_uri"
  let clientSecret ← takeString "client_secret"
  let registrationAccessToken ← takeString "registration_access_token"
  let j ← Prog.read
  let extraJson ← Prog.lift (dumpText env (.object j))
  pure {
    clientId, clientIdIssuedAt, clientName, redirectUris, grantTypes, responseTypes,
    tokenEndpointAuthMethod, scope, registrationClientUri, clientSecretExpiresAt, jwksJson,
    jwksUri, clientSecret, registrationAccessToken, extraJson }

def readRegistration : Prog Members Exc ClientRegistration := do
  let clientId ← takeString "client_id"
  match clientId with
  | some (c :: rest) => readMembers env (c :: rest)
  | _ => throw (.network "a client registration response carries no client_id" "malformed_body")

/-- `ClientRegistration::from_json`. -/
def fromJson (text : Str) : Except Exc ClientRegistration :=
  match env.parse text with
  | some (.object j) => (readRegistration env j).1
  | _ => .error (.network "a client registration response is not a JSON object" "malformed_body")

/-! ## Writing -/

/-- A member that is sent when there is one. -/
def put (key : Str) (value : Option Json) (body : Members) : Members :=
  match value with
  | some v => Assoc.insert key v body
  | none => body

def listJson (items : List Str) : Json := .array (items.map .string)

/-- The members of the replacement. -/
def updateMembers (r : ClientRegistration) : Members :=
  let extra := match env.parse r.extraJson with
    | some (.object j) => j
    | _ => []
  let body := kServerStatedMembers.foldl (fun body key => Assoc.erase key body) extra
  let body := Assoc.insert (str "client_id") (.string r.clientId) body
  let body := put "client_name" (r.clientName.map .string) body
  let body := put "redirect_uris" (r.redirectUris.map listJson) body
  let body := put "grant_types" (r.grantTypes.map listJson) body
  let body := put "response_types" (r.responseTypes.map listJson) body
  let body := put "token_endpoint_auth_method" (r.tokenEndpointAuthMethod.map .string) body
  let body := put "scope" (r.scope.map .string) body
  let body := put "jwks" (r.jwksJson.bind env.parse) body
  put "jwks_uri" (r.jwksUri.map .string) body

/-- `ClientRegistration::update_body`. -/
def updateBody (r : ClientRegistration) : Except Exc Str :=
  dumpText env (.object (updateMembers env r))

end

/-! ## What a read takes out -/

/-- What is left of `d` in `j` when the members of `done` have been taken, each of its kind. -/
structure Left (done : List (Str × (Json → Bool))) (d j : Members) : Prop where
  sublist : j.Sublist d
  lookup : ∀ key, j.lookup key =
    (d.lookup key).filter fun v => !(done.lookup key).any fun kind => kind v

theorem Left.start (d : Members) : Left [] d d :=
  ⟨.refl d, fun key => by cases d.lookup key <;> rfl⟩

section

variable {α : Type} {done : List (Str × (Json → Bool))} {d j : Members}

/-- A member that is taken is as it was at first. -/
theorem Left.take (h : Left done d j) (read : Json → Option (Option α)) (key : Str)
    (hnew : (done.map (·.1)).contains key = false) :
    ∃ j', take read key j = (.ok ((d.lookup key).bind read).join, j') ∧
      Left ((key, fun v => (read v).isSome) :: done) d j' := by
  have hnone : done.lookup key = none := by
    rw [List.lookup_eq_none_iff]
    intro m hm
    rw [bne_iff_ne]
    rintro rfl
    rw [List.contains_iff_mem.mpr (List.mem_map_of_mem hm)] at hnew
    cases hnew
  have hsame : j.lookup key = d.lookup key := by
    rw [h.lookup key, hnone]
    cases d.lookup key <;> rfl
  have hother : ∀ k, k ≠ key →
      ((key, fun v => (read v).isSome) :: done).lookup k = done.lookup k := fun k hk => by
    rw [Assoc.lookup_cons_if, if_neg hk]
  have hself : ((key, fun v => (read v).isSome) :: done).lookup key =
      some fun v => (read v).isSome := by
    rw [Assoc.lookup_cons_if, if_pos rfl]
  unfold Oidc.take
  rw [hsame]
  cases hread : (d.lookup key).bind read with
  | none =>
      refine ⟨j, rfl, h.sublist, fun k => ?_⟩
      by_cases hk : k = key
      · subst hk
        rw [hself, hsame]
        cases hd : d.lookup k with
        | none => rfl
        | some v =>
            rw [hd, Option.bind_some] at hread
            simp [Option.filter, hread]
      · rw [hother k hk, h.lookup k]
  | some value =>
      refine ⟨Assoc.erase key j, rfl, List.filter_sublist.trans h.sublist, fun k => ?_⟩
      rw [Assoc.lookup_erase]
      by_cases hk : k = key
      · subst hk
        rw [if_pos rfl, hself]
        obtain ⟨v, hv, hvalue⟩ := Option.bind_eq_some_iff.mp hread
        simp [hv, hvalue, Option.filter]
      · rw [if_neg hk, hother k hk, h.lookup k]

end

section

variable {env : Env}

theorem takeJwks_ok {j j' : Members} {value : Option Str}
    (h : takeJwks env j = (.ok value, j')) : take (readText env) "jwks" j = (.ok value, j') := by
  unfold takeJwks at h
  split at h
  · exact h
  · exact h
  · split at h
    · exact h
    · cases h

/-- The kinds of member that a read takes out. -/
def takenKinds (env : Env) : List (Str × (Json → Bool)) :=
  let isString : Json → Bool := fun v => (readString v).isSome
  let isInt : Json → Bool := fun v => (readInt v).isSome
  let isList : Json → Bool := fun v => (readList v).isSome
  [(str "registration_access_token", isString), (str "client_secret", isString),
    (str "jwks_uri", isString), (str "jwks", fun v => (readText env v).isSome),
    (str "client_secret_expires_at", isInt), (str "registration_client_uri", isString),
    (str "scope", isString), (str "token_endpoint_auth_method", isString),
    (str "response_types", isList), (str "grant_types", isList), (str "redirect_uris", isList),
    (str "client_name", isString), (str "client_id_issued_at", isInt),
    (str "client_id", isString)]

/-- A registration that was read: the members that are sent again, and what is left. -/
structure Reads (env : Env) (d : Members) (r : ClientRegistration) (rest : Members) : Prop where
  clientId : d.lookup (str "client_id") = some (.string r.clientId)
  clientName : r.clientName = ((d.lookup (str "client_name")).bind readString).join
  redirectUris : r.redirectUris = ((d.lookup (str "redirect_uris")).bind readList).join
  grantTypes : r.grantTypes = ((d.lookup (str "grant_types")).bind readList).join
  responseTypes : r.responseTypes = ((d.lookup (str "response_types")).bind readList).join
  tokenEndpointAuthMethod : r.tokenEndpointAuthMethod =
    ((d.lookup (str "token_endpoint_auth_method")).bind readString).join
  scope : r.scope = ((d.lookup (str "scope")).bind readString).join
  jwksJson : r.jwksJson = ((d.lookup (str "jwks")).bind (readText env)).join
  jwksUri : r.jwksUri = ((d.lookup (str "jwks_uri")).bind readString).join
  extraJson : r.extraJson = env.dump (.object rest)
  left : Left (takenKinds env) d rest

theorem readString_eq_some {v : Json} {s : Str} (h : readString v = some (some s)) :
    v = .string s := by
  cases v <;> cases h
  rfl

/-- One read in a sequence of reads that returned. -/
theorem Left.next {α β : Type} {done : List (Str × (Json → Bool))} {d j u : Members}
    (hleft : Left done d j) {read : Json → Option (Option α)} {key : Str}
    (hnew : (done.map (·.1)).contains key = false) {k : Option α → Prog Members Exc β} {b : β}
    (h : (Oidc.take read key >>= k) j = (.ok b, u)) :
    ∃ j', Left ((key, fun v => (read v).isSome) :: done) d j' ∧
      k ((d.lookup key).bind read).join j' = (.ok b, u) := by
  obtain ⟨j', hrun, hleft'⟩ := hleft.take read key hnew
  rw [Prog.bind_run_ok hrun] at h
  exact ⟨j', hleft', h⟩

theorem readRegistration_ok {d u : Members} {r : ClientRegistration}
    (h : readRegistration env d = (.ok r, u)) : ∃ rest, Reads env d r rest := by
  unfold readRegistration takeString at h
  obtain ⟨j, hleft, h⟩ := (Left.start d).next rfl h
  rcases hid : ((d.lookup (str "client_id")).bind readString).join with _ | _ | ⟨c, tail⟩ <;>
    rw [hid] at h
  · cases h
  · cases h
  have hclient : d.lookup (str "client_id") = some (.string (c :: tail)) := by
    obtain ⟨v, hv, hread⟩ := Option.bind_eq_some_iff.mp (Option.join_eq_some_iff.mp hid)
    rw [hv, readString_eq_some hread]
  replace h : readMembers env (c :: tail) j = (.ok r, u) := h
  unfold readMembers takeString takeInt takeList at h
  obtain ⟨j, hleft, h⟩ := hleft.next rfl h
  obtain ⟨j, hleft, h⟩ := hleft.next rfl h
  obtain ⟨j, hleft, h⟩ := hleft.next rfl h
  obtain ⟨j, hleft, h⟩ := hleft.next rfl h
  obtain ⟨j, hleft, h⟩ := hleft.next rfl h
  obtain ⟨j, hleft, h⟩ := hleft.next rfl h
  obtain ⟨j, hleft, h⟩ := hleft.next rfl h
  obtain ⟨j, hleft, h⟩ := hleft.next rfl h
  obtain ⟨j, hleft, h⟩ := hleft.next rfl h
  obtain ⟨jwks, j', hjwks, h⟩ := Prog.bind_eq_ok.mp h
  obtain ⟨j'', hrun, hleft⟩ := hleft.take (readText env) (str "jwks") rfl
  have hsame := (takeJwks_ok hjwks).symm.trans hrun
  cases hsame
  obtain ⟨j, hleft, h⟩ := hleft.next rfl h
  obtain ⟨j, hleft, h⟩ := hleft.next rfl h
  obtain ⟨j, hleft, h⟩ := hleft.next rfl h
  obtain ⟨_, _, hread, h⟩ := Prog.bind_eq_ok.mp h
  cases hread
  obtain ⟨extra, _, hextra, h⟩ := Prog.bind_eq_ok.mp h
  rw [Prog.lift_run, Prod.mk.injEq] at hextra
  obtain ⟨hextra, rfl⟩ := hextra
  cases h
  have hdump : extra = env.dump (.object u) := by
    unfold dumpText at hextra
    split at hextra
    · exact (Except.ok.inj hextra).symm
    · cases hextra
  exact ⟨u, hclient, rfl, rfl, rfl, rfl, rfl, rfl, rfl, rfl, hdump, hleft⟩

/-! ## What a replacement has -/

/-- Members that are sent where there is one, first to last. -/
def putAll (slots : List (Str × Option Json)) (body : Members) : Members :=
  slots.foldl (fun body slot => put slot.1 slot.2 body) body

theorem lookup_put (key : Str) (value : Option Json) (body : Members) (k : Str) :
    (put key value body).lookup k = if k = key then value.or (body.lookup k) else body.lookup k := by
  cases value with
  | none => by_cases hk : k = key <;> simp [put, hk]
  | some v => by_cases hk : k = key <;> simp [put, Assoc.lookup_insert, hk]

theorem lookup_putAll {slots : List (Str × Option Json)} (hdistinct : (slots.map (·.1)).Nodup)
    (body : Members) (k : Str) :
    (putAll slots body).lookup k = ((slots.lookup k).join).or (body.lookup k) := by
  induction slots generalizing body with
  | nil => rfl
  | cons slot rest ih =>
      rw [List.map_cons, List.nodup_cons] at hdistinct
      show (putAll rest (put slot.1 slot.2 body)).lookup k = _
      rw [ih hdistinct.2, lookup_put, Assoc.lookup_cons_if]
      by_cases hk : k = slot.1
      · have hnone : rest.lookup k = none := by
          rw [List.lookup_eq_none_iff]
          intro m hm
          rw [bne_iff_ne, hk]
          exact fun heq => hdistinct.1 (heq ▸ List.mem_map_of_mem hm)
        rw [if_pos hk, if_pos hk, hnone]
        rfl
      · rw [if_neg hk, if_neg hk]

theorem ordered_putAll (slots : List (Str × Option Json)) {body : Members}
    (h : Assoc.Ordered body) : Assoc.Ordered (putAll slots body) := by
  induction slots generalizing body with
  | nil => exact h
  | cons slot rest ih =>
      refine ih ?_
      show Assoc.Ordered (put slot.1 slot.2 body)
      cases slot.2 with
      | none => exact h
      | some v => exact h.insert slot.1 v

theorem lookup_eraseAll (keys : List Str) (body : Members) (k : Str) :
    (keys.foldl (fun body key => Assoc.erase key body) body).lookup k =
      if k ∈ keys then none else body.lookup k := by
  induction keys generalizing body with
  | nil => simp
  | cons key rest ih =>
      rw [List.foldl_cons, ih, Assoc.lookup_erase]
      by_cases hrest : k ∈ rest
      · simp [hrest]
      · by_cases hk : k = key <;> simp [hrest, hk]

theorem ordered_eraseAll (keys : List Str) {body : Members} (h : Assoc.Ordered body) :
    Assoc.Ordered (keys.foldl (fun body key => Assoc.erase key body) body) := by
  induction keys generalizing body with
  | nil => exact h
  | cons key rest ih => exact ih (h.erase key)

/-- The members of an update beside the remainder. -/
def updateSlots (env : Env) (r : ClientRegistration) : List (Str × Option Json) :=
  [(str "client_id", some (.string r.clientId)), (str "client_name", r.clientName.map .string),
    (str "redirect_uris", r.redirectUris.map listJson),
    (str "grant_types", r.grantTypes.map listJson),
    (str "response_types", r.responseTypes.map listJson),
    (str "token_endpoint_auth_method", r.tokenEndpointAuthMethod.map .string),
    (str "scope", r.scope.map .string), (str "jwks", r.jwksJson.bind env.parse),
    (str "jwks_uri", r.jwksUri.map .string)]

theorem updateMembers_eq {r : ClientRegistration} {extra : Members}
    (h : env.parse r.extraJson = some (.object extra)) :
    updateMembers env r = putAll (updateSlots env r)
      (kServerStatedMembers.foldl (fun body key => Assoc.erase key body) extra) := by
  unfold updateMembers
  rw [h]
  rfl

/-- The members whose `null` a read takes for their absence. -/
def kNullable : List Str :=
  [str "client_name", str "token_endpoint_auth_method", str "scope", str "jwks", str "jwks_uri"]

/-- What an update keeps of a document. -/
def kept (m : Str × Json) : Bool :=
  !kServerStatedMembers.contains m.1 && !(m.2.isNull && kNullable.contains m.1)

/-- The JSON library reads back what it wrote of a document's members, and the document was
UTF-8. -/
structure ReadsBack (env : Env) (d : Members) : Prop where
  object : ∀ rest, rest.Sublist d → env.parse (env.dump (.object rest)) = some (.object rest)
  member : ∀ m ∈ d, env.parse (env.dump m.2) = some m.2
  utf8 : (Json.object d).dumpable = true

theorem dumpable_sublist {rest d : Members} (h : rest.Sublist d)
    (hd : (Json.object d).dumpable = true) : (Json.object rest).dumpable = true := by
  simp only [Json.dumpable] at hd ⊢
  induction h with
  | slnil => rfl
  | cons m _ ih =>
      rw [Json.dumpableMembers, Bool.and_eq_true] at hd
      exact ih hd.2
  | cons_cons m _ ih =>
      rw [Json.dumpableMembers, Bool.and_eq_true] at hd ⊢
      exact ⟨hd.1, ih hd.2⟩

/-- A member that was taken and is put back where it was, and one that stayed: what comes of both
is the member, and nothing of a `null` that was read. -/
theorem slot_restored {α : Type} {read : Json → Option (Option α)} {write : α → Option Json}
    {held : Option Json}
    (hwrite : ∀ v ∈ held, ∀ value, read v = some value →
      value.bind write = if v.isNull then none else some v) :
    (((held.bind read).join).bind write).or (held.filter fun v => !(read v).isSome) =
      held.filter fun v => !(v.isNull && (read v).isSome) := by
  cases held with
  | none => rfl
  | some v =>
      cases hread : read v with
      | none => simp [Option.filter, hread]
      | some value =>
          have hback := hwrite v rfl value hread
          simp only [Option.bind_some, hread, Option.join_some, hback, Option.filter]
          by_cases hnull : v.isNull = true <;> simp [hnull]

theorem readString_back {v : Json} {value : Option Str} (h : readString v = some value) :
    value.bind (fun s => some (Json.string s)) = if v.isNull then none else some v := by
  cases v <;> cases h <;> rfl

theorem mapM_string_back {items : List Json} {strings : List Str}
    (h : items.mapM Json.string? = some strings) : strings.map Json.string = items := by
  induction items generalizing strings with
  | nil =>
      cases h
      rfl
  | cons j rest ih =>
      rw [List.mapM_cons] at h
      obtain ⟨s, hs, h⟩ := Option.bind_eq_some_iff.mp h
      obtain ⟨ss, hss, h⟩ := Option.bind_eq_some_iff.mp h
      cases h
      cases j <;> cases hs
      rw [List.map_cons, ih hss]

theorem readList_back {v : Json} {value : Option (List Str)} (h : readList v = some value) :
    value.bind (fun items => some (listJson items)) = if v.isNull then none else some v := by
  cases v with
  | array items =>
      obtain ⟨strings, hstrings, rfl⟩ := Option.map_eq_some_iff.mp h
      rw [Option.bind_some, listJson, mapM_string_back hstrings]
      rfl
  | _ => cases h

/-- One slot of an update, beside what is left: the member as it was, unless it is `null` and
read for nothing. -/
theorem kept_slot {α : Type} {d rest : Members} {key : Str} {read : Json → Option (Option α)}
    {write : α → Option Json} {value : Option α} (hvalue : value = ((d.lookup key).bind read).join)
    (hleft : rest.lookup key = (d.lookup key).filter fun v => !(read v).isSome)
    (hplain : kServerStatedMembers.contains key = false)
    (hnull : (read .null).isSome = kNullable.contains key)
    (hwrite : ∀ v, d.lookup key = some v → ∀ value, read v = some value →
      value.bind write = if v.isNull then none else some v) :
    (value.bind write).or (if key ∈ kServerStatedMembers then none else rest.lookup key) =
      (d.lookup key).filter fun v => kept (key, v) := by
  have hnot : key ∉ kServerStatedMembers := fun hmem => by
    rw [List.contains_iff_mem.mpr hmem] at hplain
    cases hplain
  have hkept : ∀ v : Json, (v.isNull && (read v).isSome) = (v.isNull && kNullable.contains key) := by
    intro v
    cases v <;> simp [Json.isNull, hnull]
  rw [if_neg hnot, hvalue, hleft, slot_restored hwrite]
  simp only [kept, hplain, hkept, Bool.not_false, Bool.true_and]

/-- A list of members has none for a key that is none of theirs. -/
theorem lookup_of_notMem {ν : Type} {members : List (Str × ν)} {k : Str}
    (h : k ∉ members.map (·.1)) : members.lookup k = none := by
  rw [List.lookup_eq_none_iff]
  intro m hm
  rw [bne_iff_ne]
  rintro rfl
  exact h (List.mem_map_of_mem hm)

/-- What is looked up in an update. -/
theorem lookup_updateMembers {d rest : Members} {r : ClientRegistration}
    (hreads : Reads env d r rest) (hback : ReadsBack env d) (hordered : Assoc.Ordered d) (k : Str) :
    (updateMembers env r).lookup k = (d.lookup k).filter fun v => kept (k, v) := by
  have hextra : env.parse r.extraJson = some (.object rest) := by
    rw [hreads.extraJson]
    exact hback.object rest hreads.left.sublist
  have hdistinct : ((updateSlots env r).map (·.1)).Nodup := by
    show List.Nodup [str "client_id", str "client_name", str "redirect_uris", str "grant_types",
      str "response_types", str "token_endpoint_auth_method", str "scope", str "jwks",
      str "jwks_uri"]
    decide
  -- each kind of member is written back as it was read, but for a `null`
  have hjwks : ∀ v, d.lookup (str "jwks") = some v → ∀ value, readText env v = some value →
      value.bind env.parse = if v.isNull then none else some v := by
    intro v hv value hread
    have hparsed := hback.member (str "jwks", v) (hordered.lookup_iff.mp hv)
    cases v <;> cases hread
    case null => rfl
    all_goals exact hparsed
  have hleft := hreads.left.lookup k
  have hstrings : ∀ key, ∀ v, d.lookup key = some v → ∀ value, readString v = some value →
      value.bind (some ∘ Json.string) = if v.isNull then none else some v :=
    fun _ _ _ _ h => readString_back h
  have hlists : ∀ key, ∀ v, d.lookup key = some v → ∀ value, readList v = some value →
      value.bind (some ∘ listJson) = if v.isNull then none else some v :=
    fun _ _ _ _ h => readList_back h
  rw [updateMembers_eq hextra, lookup_putAll hdistinct, lookup_eraseAll]
  -- a member is one of the nine slots, or was left over
  by_cases hslot : k ∈ (updateSlots env r).map (·.1)
  · simp only [updateSlots, List.map_cons, List.map_nil, List.mem_cons, List.not_mem_nil,
      or_false] at hslot
    rcases hslot with rfl | rfl | rfl | rfl | rfl | rfl | rfl | rfl | rfl
    · rw [hreads.clientId]
      rfl
    · show (r.clientName.map Json.string).or _ = _
      rw [Option.map_eq_bind]
      exact kept_slot hreads.clientName hleft rfl rfl (hstrings _)
    · show (r.redirectUris.map listJson).or _ = _
      rw [Option.map_eq_bind]
      exact kept_slot hreads.redirectUris hleft rfl rfl (hlists _)
    · show (r.grantTypes.map listJson).or _ = _
      rw [Option.map_eq_bind]
      exact kept_slot hreads.grantTypes hleft rfl rfl (hlists _)
    · show (r.responseTypes.map listJson).or _ = _
      rw [Option.map_eq_bind]
      exact kept_slot hreads.responseTypes hleft rfl rfl (hlists _)
    · show (r.tokenEndpointAuthMethod.map Json.string).or _ = _
      rw [Option.map_eq_bind]
      exact kept_slot hreads.tokenEndpointAuthMethod hleft rfl rfl (hstrings _)
    · show (r.scope.map Json.string).or _ = _
      rw [Option.map_eq_bind]
      exact kept_slot hreads.scope hleft rfl rfl (hstrings _)
    · show (r.jwksJson.bind env.parse).or _ = _
      exact kept_slot hreads.jwksJson hleft rfl rfl hjwks
    · show (r.jwksUri.map Json.string).or _ = _
      rw [Option.map_eq_bind]
      exact kept_slot hreads.jwksUri hleft rfl rfl (hstrings _)
  · rw [lookup_of_notMem hslot]
    by_cases hserver : k ∈ kServerStatedMembers
    · have hdropped : ∀ v, kept (k, v) = false := fun v => by
        unfold kept
        rw [List.contains_iff_mem.mpr hserver]
        rfl
      rw [if_pos hserver]
      cases d.lookup k <;> simp [Option.filter, hdropped]
    · have hnames : ∀ key ∈ (takenKinds env).map (·.1) ++ kNullable,
          key ∈ (updateSlots env r).map (·.1) ∨ key ∈ kServerStatedMembers := by
        simp [takenKinds, updateSlots, kNullable, kServerStatedMembers]
      have hnot : ∀ key ∈ (takenKinds env).map (·.1) ++ kNullable, k ≠ key := by
        rintro key hkey rfl
        exact (hnames _ hkey).elim hslot hserver
      have hnone : (takenKinds env).lookup k = none :=
        lookup_of_notMem fun hmem => hnot k (List.mem_append_left _ hmem) rfl
      have hkept : ∀ v, kept (k, v) = true := fun v => by
        have hnullable : k ∉ kNullable := fun hmem => hnot k (List.mem_append_right _ hmem) rfl
        simp [kept, hserver, hnullable]
      rw [if_neg hserver, hleft, hnone]
      cases d.lookup k <;> simp [Option.filter, hkept]

/-- A registration that was read and is sent again unchanged is the document, less the members
that the server states and those of a `null` that says nothing. -/
theorem updateBody_fromJson {d : Members} {text : Str} {r : ClientRegistration}
    (hparse : env.parse text = some (.object d)) (hordered : Assoc.Ordered d)
    (hback : ReadsBack env d) (hread : fromJson env text = .ok r) :
    ∃ body, updateBody env r = .ok body ∧ env.parse body = some (.object (d.filter kept)) := by
  unfold fromJson at hread
  rw [hparse] at hread
  replace hread : (readRegistration env d).1 = .ok r := hread
  obtain ⟨rest, hreads⟩ : ∃ rest, Reads env d r rest := by
    rcases hrun : readRegistration env d with ⟨e | r', u⟩
    · rw [hrun] at hread
      cases hread
    · rw [hrun] at hread
      cases hread
      exact readRegistration_ok hrun
  have hextra : env.parse r.extraJson = some (.object rest) := by
    rw [hreads.extraJson]
    exact hback.object rest hreads.left.sublist
  have hrest : Assoc.Ordered rest := List.Pairwise.sublist hreads.left.sublist hordered
  have hmembers : updateMembers env r = d.filter kept := by
    refine Assoc.Ordered.ext ?_ (hordered.filter kept) fun k => ?_
    · rw [updateMembers_eq hextra]
      exact ordered_putAll _ (ordered_eraseAll _ hrest)
    · rw [lookup_updateMembers hreads hback hordered, hordered.lookup_filter]
  refine ⟨env.dump (.object (d.filter kept)), ?_, hback.object _ List.filter_sublist⟩
  unfold updateBody dumpText
  rw [hmembers, if_pos (dumpable_sublist List.filter_sublist hback.utf8)]

end

/-! ## A document -/

/-- A name of the wrong type, a secret, a `null` and a member of no name that is known. -/
def oddDocument : Members :=
  [(str "client_id", .string (str "c1")), (str "client_name", .integer 7),
    (str "client_secret", .string (str "s")), (str "scope", .null),
    (str "x", .array [.integer 1, .null])]

/-- The texts of the objects made of its members, and of its members. -/
def oddTexts : List (Str × Json) :=
  (oddDocument.sublists.map Json.object ++ oddDocument.map (·.2)).map fun j =>
    (Json.dumpWith (fun _ => []) j, j)

/-- An environment that reads those texts. -/
def oddEnv : Env where
  baseUrl := "https://axiam.example"
  tenantHeader := "acme"
  parse := tableParser oddTexts
  dump := Json.dumpWith fun _ => []
  transport := fun _ _ => .ok {}
  clock := fun _ => 0
  opaqueStart := fun _ _ => .ok []
  opaqueFinish := fun _ _ _ _ => .ok []

theorem oddEnv_parse {j : Json}
    (h : j ∈ oddDocument.sublists.map Json.object ++ oddDocument.map (·.2)) :
    oddEnv.parse (oddEnv.dump j) = some j := by
  have hdistinct : (oddTexts.map (·.1)).Nodup := by decide
  have hmem : (Json.dumpWith (fun _ => []) j, j) ∈ oddTexts := List.mem_map_of_mem h
  show oddTexts.lookup (Json.dumpWith (fun _ => []) j) = some j
  generalize oddTexts = table at hdistinct hmem
  induction table with
  | nil => cases hmem
  | cons entry rest ih =>
      rw [List.map_cons, List.nodup_cons] at hdistinct
      rw [Assoc.lookup_cons_if]
      rcases List.mem_cons.mp hmem with heq | hmem
      · rw [← heq, if_pos rfl]
      · have hne : Json.dumpWith (fun _ => []) j ≠ entry.1 := fun heq =>
          hdistinct.1 (heq ▸ List.mem_map_of_mem hmem)
        rw [if_neg hne]
        exact ih hdistinct.2 hmem

theorem oddDocument_readsBack : ReadsBack oddEnv oddDocument where
  object := fun _ hrest => oddEnv_parse
    (List.mem_append_left _ (List.mem_map_of_mem (List.mem_sublists.mpr hrest)))
  member := fun _ hm => oddEnv_parse (List.mem_append_right _ (List.mem_map_of_mem hm))
  utf8 := by decide

theorem oddDocument_kept : ∃ r body,
    fromJson oddEnv (oddEnv.dump (.object oddDocument)) = .ok r ∧ updateBody oddEnv r = .ok body ∧
      oddEnv.parse body = some (.object [(str "client_id", .string (str "c1")),
        (str "client_name", .integer 7), (str "x", .array [.integer 1, .null])]) := by
  have hok : (fromJson oddEnv (oddEnv.dump (.object oddDocument))).isOk = true := by
    decide
  cases hread : fromJson oddEnv (oddEnv.dump (.object oddDocument)) with
  | error e =>
      rw [hread] at hok
      cases hok
  | ok r =>
      have hparse := oddDocument_readsBack.object _ (.refl oddDocument)
      have hordered : Assoc.Ordered oddDocument := by
        unfold Assoc.Ordered
        decide
      obtain ⟨body, hbody, hback⟩ :=
        updateBody_fromJson hparse hordered oddDocument_readsBack hread
      exact ⟨r, body, rfl, hbody, hback⟩

end Axiam.Oidc
