import Axiam.Core.Str

/-!
# Base64url

`base64url_decode` (`src/jwks.cpp`): the RFC 4648 §5 alphabet, bytes pushed out of a
masked 24-bit accumulator as soon as eight bits are there, and `=` ends the input; and the
encoding without padding that it undoes.
-/

namespace Axiam

/-- The value of a symbol of the alphabet. -/
def base64urlVal (c : UInt8) : Option UInt32 :=
  if 65 ≤ c ∧ c ≤ 90 then some (c - 65).toUInt32
  else if 97 ≤ c ∧ c ≤ 122 then some (c - 97 + 26).toUInt32
  else if 48 ≤ c ∧ c ≤ 57 then some (c - 48 + 52).toUInt32
  else if c = 45 then some 62
  else if c = 95 then some 63
  else none

/-- The decode loop, from an accumulator and the number of bits still owed. -/
def base64urlLoop (buffer : UInt32) (bits : Nat) (out : Str) : Str → Option Str
  | [] => some out
  | ch :: rest =>
      if ch = 61 then some out
      else match base64urlVal ch with
        | none => none
        | some v =>
            let buffer := ((buffer <<< 6) ||| v) &&& 0xFFFFFF
            let bits := bits + 6
            if 8 ≤ bits then
              let bits := bits - 8
              let byte := (buffer >>> (UInt32.ofNat bits)) &&& 0xFF
              base64urlLoop buffer bits (out ++ [byte.toUInt8]) rest
            else base64urlLoop buffer bits out rest

/-- `base64url_decode`. -/
def base64urlDecode (input : Str) : Option Str := base64urlLoop 0 0 [] input

/-- A symbol of the base64url alphabet. -/
def base64urlSymbol (v : Nat) : UInt8 :=
  if v < 26 then UInt8.ofNat (65 + v)
  else if v < 52 then UInt8.ofNat (97 + (v - 26))
  else if v < 62 then UInt8.ofNat (48 + (v - 52))
  else if v = 62 then 45
  else 95

/-- Base64url without padding, three bytes at a time. -/
def base64urlEncode : Str → Str
  | [] => []
  | [a] =>
      let v := a.toNat * 65536
      [base64urlSymbol (v / 262144 % 64), base64urlSymbol (v / 4096 % 64)]
  | [a, b] =>
      let v := a.toNat * 65536 + b.toNat * 256
      [base64urlSymbol (v / 262144 % 64), base64urlSymbol (v / 4096 % 64),
        base64urlSymbol (v / 64 % 64)]
  | a :: b :: c :: rest =>
      let v := a.toNat * 65536 + b.toNat * 256 + c.toNat
      [base64urlSymbol (v / 262144 % 64), base64urlSymbol (v / 4096 % 64),
        base64urlSymbol (v / 64 % 64), base64urlSymbol (v % 64)] ++ base64urlEncode rest

example : base64urlDecode "eyJhIjoxfQ" = some (str "\x7b\"a\":1\x7d") := by decide
example : base64urlDecode "a+b" = none := by decide
example : base64urlDecode (base64urlEncode "axiam") = some (str "axiam") := by decide

end Axiam
