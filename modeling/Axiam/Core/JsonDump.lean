import Axiam.Core.Json

/-!
# Dumping JSON

`dump()` of the vendored JSON library (`third_party/nlohmann/json.hpp`): no space anywhere, and in
a string only what must be escaped.  How a floating-point number is written is a parameter.
-/

namespace Axiam.Json

/-- The digit of `%04x`. -/
def hexLower (d : UInt8) : UInt8 := if d < 10 then 48 + d else 87 + d

/-- `dump_escaped`, a byte at a time: of a longer code point every byte stands for itself. -/
def escapeByte (c : UInt8) : Str :=
  if c = 8 then [92, 98]
  else if c = 9 then [92, 116]
  else if c = 10 then [92, 110]
  else if c = 12 then [92, 102]
  else if c = 13 then [92, 114]
  else if c = 34 ∨ c = 92 then [92, c]
  else if c < 32 then [92, 117, 48, 48, hexLower (c / 16), hexLower (c % 16)]
  else [c]

/-- The `dump()` of a string. -/
def dumpString (s : Str) : Str := 34 :: (s.flatMap escapeByte ++ [34])

mutual

/-- `dump()`. -/
def dumpWith (float : Rat → Str) : Json → Str
  | .null => str "null"
  | .boolean b => if b then str "true" else str "false"
  | .integer i => toStr i
  | .float x => float x
  | .string s => dumpString s
  | .array items => 91 :: (dumpItems float items ++ [93])
  | .object members => 123 :: (dumpMembers float members ++ [125])

def dumpItems (float : Rat → Str) : List Json → Str
  | [] => []
  | j :: rest => dumpWith float j ++ match rest with
    | [] => []
    | _ :: _ => 44 :: dumpItems float rest

def dumpMembers (float : Rat → Str) : List (Str × Json) → Str
  | [] => []
  | (key, j) :: rest => dumpString key ++ 58 :: dumpWith float j ++ match rest with
    | [] => []
    | _ :: _ => 44 :: dumpMembers float rest

end

example : dumpWith (fun _ => []) (.object [(str "a", .array [.integer (-3), .null]),
    (str "b", .string (str "x\n\"y"))]) = str "\x7b\"a\":[-3,null],\"b\":\"x\\n\\\"y\"\x7d" := by
  decide

end Axiam.Json
