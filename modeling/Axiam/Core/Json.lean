import Axiam.Core.Str

/-!
# JSON values

The values of the vendored JSON library and its typed accessors.  The accessors differ
in what they do with a member of the wrong type: `find` and the `is_*` tests look,
`value` throws.  A text the parser refuses is a *discarded* value; the parser itself is
a parameter of the development (`Parser`), so every result holds whatever it accepts.
-/

namespace Axiam

/-- A JSON value.  An object's members stand in key order, one for each key. -/
inductive Json where
  | null
  | boolean (b : Bool)
  | integer (i : Int)
  | float (x : Rat)
  | string (s : Str)
  | array (items : List Json)
  | object (members : List (Str × Json))

/-- What the JSON library throws. -/
inductive JsonError where
  /-- `type_error.302`: a value read as a type it does not have. -/
  | typeMustBe (expected actual : Str)
  /-- `type_error.306`: `value()` of something that is not an object. -/
  | cannotUseValue (actual : Str)
  /-- `out_of_range.403`: `at()` of a key the object does not have. -/
  | keyNotFound (key : Str)
  /-- `type_error.304`: `at()` of something that is not an object. -/
  | cannotUseAt (actual : Str)
  /-- `type_error.316`: a string that is not UTF-8, met by `dump()`. -/
  | invalidUtf8
  deriving DecidableEq

/-- `what()` of a JSON exception. -/
def JsonError.what : JsonError → Str
  | .typeMustBe expected actual =>
      "[json.exception.type_error.302] type must be " ++ expected ++ ", but is " ++ actual
  | .cannotUseValue actual =>
      "[json.exception.type_error.306] cannot use value() with " ++ actual
  | .keyNotFound key =>
      "[json.exception.out_of_range.403] key '" ++ key ++ "' not found"
  | .cannotUseAt actual =>
      "[json.exception.type_error.304] cannot use at() with " ++ actual
  | .invalidUtf8 => "[json.exception.type_error.316] invalid UTF-8 byte"

/-- `json::parse(text, nullptr, false)`: `none` is a discarded value. -/
abbrev Parser : Type := Str → Option Json

/-- The parser that knows the texts of a table, each with its value. -/
def tableParser (table : List (Str × Json)) : Parser :=
  fun text => table.lookup text

namespace Json

/-- `type_name()`. -/
def typeName : Json → Str
  | .null => "null"
  | .boolean _ => "boolean"
  | .integer _ => "number"
  | .float _ => "number"
  | .string _ => "string"
  | .array _ => "array"
  | .object _ => "object"

def isObject : Json → Bool
  | .object _ => true
  | _ => false

def isArray : Json → Bool
  | .array _ => true
  | _ => false

def isString : Json → Bool
  | .string _ => true
  | _ => false

def isNull : Json → Bool
  | .null => true
  | _ => false

/-- `is_number_integer()`: a signed or unsigned integer. -/
def isNumberInteger : Json → Bool
  | .integer _ => true
  | _ => false

/-- `find(key)`: the member, and nothing for a value that is not an object. -/
def find? (j : Json) (key : Str) : Option Json :=
  match j with
  | .object members => members.lookup key
  | _ => none

/-- `contains(key)`. -/
def contains (j : Json) (key : Str) : Bool := (j.find? key).isSome

/-- The string a value is, if it is one: `is_string()` followed by `get<std::string>()`. -/
def string? : Json → Option Str
  | .string s => some s
  | _ => none

/-- A member that is a string: `j.contains(key) && j[key].is_string()`. -/
def stringMember? (j : Json) (key : Str) : Option Str := (j.find? key).bind string?

/-- A member that is `true`: `j.contains(key) && j[key].is_boolean() && j[key].get<bool>()`. -/
def trueMember (j : Json) (key : Str) : Bool :=
  match j.find? key with
  | some (.boolean b) => b
  | _ => false

theorem trueMember_iff {j : Json} {key : Str} :
    j.trueMember key = true ↔ j.find? key = some (.boolean true) := by
  unfold trueMember
  rcases j.find? key with _ | member
  · simp
  · cases member <;> simp

theorem stringMember_eq_some {j : Json} {key s : Str} :
    j.stringMember? key = some s ↔ j.find? key = some (.string s) := by
  unfold stringMember?
  cases j.find? key with
  | none => simp
  | some member => cases member <;> simp [string?]

theorem stringMember_eq_none {j : Json} {key : Str} :
    j.stringMember? key = none ↔ ∀ s, j.find? key ≠ some (.string s) := by
  simp only [ne_eq, ← stringMember_eq_some]
  exact Option.eq_none_iff_forall_ne_some

theorem isObject_of_find {j : Json} {key : Str} {member : Json} (h : j.find? key = some member) :
    j.isObject = true := by
  cases j <;> first | rfl | cases h

theorem isObject_of_stringMember {j : Json} {key s : Str} (h : j.stringMember? key = some s) :
    j.isObject = true := by
  obtain ⟨member, hfind, -⟩ := Option.bind_eq_some_iff.mp h
  exact isObject_of_find hfind

/-- `get<std::string>()`. -/
def getString : Json → Except JsonError Str
  | .string s => .ok s
  | j => .error (.typeMustBe "string" j.typeName)

/-- `get<bool>()`. -/
def getBool : Json → Except JsonError Bool
  | .boolean b => .ok b
  | j => .error (.typeMustBe "boolean" j.typeName)

/-- An integer as a `std::int64_t`: an unsigned one past the signed range wraps. -/
def wrapInt64 (i : Int) : Int := i.bmod 18446744073709551616

/-- A floating-point number as a `std::int64_t`: its fraction is dropped.  What does not fit is
undefined; x86-64 makes it the least integer. -/
def castInt64 (x : Rat) : Int :=
  let whole := Int.tdiv x.num x.den
  if -9223372036854775808 ≤ whole ∧ whole < 9223372036854775808 then whole
  else -9223372036854775808

/-- The number a value is, as `get<std::int64_t>()` reads it. -/
def int64? : Json → Option Int
  | .integer i => some (wrapInt64 i)
  | .float x => some (castInt64 x)
  | _ => none

/-- `get<std::int64_t>()`. -/
def getInt (j : Json) : Except JsonError Int :=
  match j.int64? with
  | some i => .ok i
  | none => .error (.typeMustBe "number" j.typeName)

/-- `value(key, fallback)`: throws when the value is not an object, and when the member
is there with another type. -/
def valueWith {α : Type} (get : Json → Except JsonError α) (j : Json) (key : Str)
    (fallback : α) : Except JsonError α :=
  match j with
  | .object members =>
      match members.lookup key with
      | some member => get member
      | none => .ok fallback
  | other => .error (.cannotUseValue other.typeName)

/-- `value(key, std::string)`. -/
def valueString (j : Json) (key : Str) (fallback : Str) : Except JsonError Str :=
  j.valueWith getString key fallback

/-- `value(key, bool)`. -/
def valueBool (j : Json) (key : Str) (fallback : Bool) : Except JsonError Bool :=
  j.valueWith getBool key fallback

/-- `value(key, std::int64_t)`. -/
def valueInt (j : Json) (key : Str) (fallback : Int) : Except JsonError Int :=
  j.valueWith getInt key fallback

/-- A member `value(key, "")` reads without throwing: absent, or a string. -/
def StringOrAbsent (j : Json) (key : Str) : Prop :=
  ∀ member, j.find? key = some member → ∃ s, member = .string s

/-- A member `value(key, false)` reads: absent, or a boolean. -/
def BoolOrAbsent (j : Json) (key : Str) : Prop :=
  ∀ member, j.find? key = some member → ∃ b, member = .boolean b

/-- A member `value(key, 0)` reads: absent, or a number. -/
def NumberOrAbsent (j : Json) (key : Str) : Prop :=
  ∀ member, j.find? key = some member → (∃ i, member = .integer i) ∨ ∃ x, member = .float x

/-- `value` returns on an object whose member is absent or readable, and throws on everything
else. -/
theorem valueWith_ok_iff {α : Type} (get : Json → Except JsonError α) (j : Json) (key : Str)
    (fallback : α) : (∃ a, j.valueWith get key fallback = .ok a) ↔
      j.isObject = true ∧ ∀ member, j.find? key = some member → ∃ a, get member = .ok a := by
  cases j with
  | object members =>
      simp only [valueWith, find?, isObject, true_and]
      rcases members.lookup key with _ | member <;> simp
  | _ => simp [valueWith, isObject]

theorem valueString_ok_iff (j : Json) (key fallback : Str) :
    (∃ s, j.valueString key fallback = .ok s) ↔ j.isObject = true ∧ j.StringOrAbsent key := by
  have hget : ∀ m : Json, (∃ s, m.getString = .ok s) ↔ ∃ s, m = .string s := by
    intro m
    cases m <;> simp [getString]
  unfold valueString StringOrAbsent
  rw [valueWith_ok_iff]
  simp only [hget]

theorem valueBool_ok_iff (j : Json) (key : Str) (fallback : Bool) :
    (∃ b, j.valueBool key fallback = .ok b) ↔ j.isObject = true ∧ j.BoolOrAbsent key := by
  have hget : ∀ m : Json, (∃ b, m.getBool = .ok b) ↔ ∃ b, m = .boolean b := by
    intro m
    cases m <;> simp [getBool]
  unfold valueBool BoolOrAbsent
  rw [valueWith_ok_iff]
  simp only [hget]

theorem valueInt_ok_iff (j : Json) (key : Str) (fallback : Int) :
    (∃ i, j.valueInt key fallback = .ok i) ↔ j.isObject = true ∧ j.NumberOrAbsent key := by
  have hget : ∀ m : Json, (∃ i, m.getInt = .ok i) ↔
      (∃ i, m = .integer i) ∨ ∃ x, m = .float x := by
    intro m
    cases m <;> simp [getInt, int64?]
  unfold valueInt NumberOrAbsent
  rw [valueWith_ok_iff]
  simp only [hget]

/-- What `value(key, std::string)` returns when it returns. -/
theorem valueString_eq_ok {j : Json} {key fallback s : Str}
    (h : j.valueString key fallback = .ok s) :
    j.stringMember? key = some s ∨ (j.find? key = none ∧ s = fallback) := by
  cases j with
  | object members =>
      simp only [valueString, valueWith] at h
      simp only [stringMember?, find?]
      rcases hfound : members.lookup key with _ | member <;> rw [hfound] at h
      · cases h
        exact .inr ⟨rfl, rfl⟩
      · cases member <;> simp_all [getString, string?]
  | _ => simp [valueString, valueWith] at h

/-! ## What the claims of a token say -/

/-- `aud` is this text, or an array with it. -/
def NamesAudience (j : Json) (aud : Str) : Prop :=
  j.find? "aud" = some (.string aud) ∨
    ∃ items, j.find? "aud" = some (.array items) ∧ .string aud ∈ items

/-- `aud` is an array of several texts. -/
def SeveralAudiences (j : Json) : Prop :=
  ∃ items, j.find? "aud" = some (.array items) ∧ 1 < items.countP isString

/-- The member is a number, and these are its whole seconds in 64 bits. -/
inductive StatesTime (j : Json) (key : Str) : Int → Prop
  | integer {i : Int} : j.find? key = some (.integer i) → StatesTime j key (wrapInt64 i)
  | float {x : Rat} : j.find? key = some (.float x) → StatesTime j key (castInt64 x)

theorem statesTime_iff {j : Json} {key : Str} {time : Int} :
    j.StatesTime key time ↔ (j.find? key).bind int64? = some time := by
  constructor
  · intro h
    cases h with
    | integer hfind =>
        rw [hfind]
        rfl
    | float hfind =>
        rw [hfind]
        rfl
  · intro h
    obtain ⟨member, hfind, hread⟩ := Option.bind_eq_some_iff.mp h
    cases member with
    | integer i =>
        cases hread
        exact .integer hfind
    | float x =>
        cases hread
        exact .float hfind
    | _ => cases hread

mutual

/-- `==` of two values: numbers by value, whatever their type. -/
def same : Json → Json → Bool
  | .null, .null => true
  | .boolean a, .boolean b => a == b
  | .integer a, .integer b => a == b
  | .integer a, .float y => (a : Rat) == y
  | .float x, .integer b => x == (b : Rat)
  | .float x, .float y => x == y
  | .string a, .string b => a == b
  | .array xs, .array ys => sameItems xs ys
  | .object xs, .object ys => sameMembers xs ys
  | _, _ => false

def sameItems : List Json → List Json → Bool
  | [], [] => true
  | x :: xs, y :: ys => x.same y && sameItems xs ys
  | _, _ => false

def sameMembers : List (Str × Json) → List (Str × Json) → Bool
  | [], [] => true
  | (k, x) :: xs, (l, y) :: ys => k == l && x.same y && sameMembers xs ys
  | _, _ => false

end

mutual

theorem same_self : ∀ j : Json, j.same j = true
  | .null => rfl
  | .boolean b => by simp [same]
  | .integer i => by simp [same]
  | .float x => by simp [same]
  | .string s => by simp [same]
  | .array items => by rw [same]; exact sameItems_self items
  | .object members => by rw [same]; exact sameMembers_self members

theorem sameItems_self : ∀ items : List Json, sameItems items items = true
  | [] => rfl
  | j :: rest => by rw [sameItems, same_self j, sameItems_self rest]; rfl

theorem sameMembers_self : ∀ members : List (Str × Json), sameMembers members members = true
  | [] => rfl
  | (k, j) :: rest => by
      rw [sameMembers, same_self j, sameMembers_self rest, Bool.and_true, Bool.and_true]
      exact beq_self_eq_true k

end

mutual

/-- Whether `dump()` of a value succeeds: every string in it, keys included, is UTF-8. -/
def dumpable : Json → Bool
  | .string s => validUtf8 s
  | .array items => dumpableItems items
  | .object members => dumpableMembers members
  | .null | .boolean _ | .integer _ | .float _ => true

def dumpableItems : List Json → Bool
  | [] => true
  | j :: rest => j.dumpable && dumpableItems rest

def dumpableMembers : List (Str × Json) → Bool
  | [] => true
  | (key, j) :: rest => validUtf8 key && j.dumpable && dumpableMembers rest

end

end Json

end Axiam
