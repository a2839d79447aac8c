import Axiam.Core.Http
import Axiam.Core.JsonDump
import Mathlib.Algebra.Group.Nat.Defs

/-!
# The texts of a signature header

The helpers of `src/webhook.cpp` that read a trimmed text, a number of seconds and a hexadecimal
MAC, each with what it accepts.
-/

namespace Axiam.Webhook

/-! ## Spaces and seconds -/

def isSpace (c : UInt8) : Bool := c == 32 || c == 9 || c == 13 || c == 10

/-- `trim`. -/
def trim (s : Str) : Str := ((s.dropWhile isSpace).reverse.dropWhile isSpace).reverse

theorem mem_dropWhile_iff {s : Str} {c : UInt8} (h : isSpace c = false) :
    c ∈ s.dropWhile isSpace ↔ c ∈ s := by
  induction s with
  | nil => rfl
  | cons d s ih =>
      rw [List.dropWhile_cons, List.mem_cons]
      split
      · rename_i hd
        have hne : c ≠ d := by
          intro heq
          rw [heq, hd] at h
          cases h
        simp [ih, hne]
      · exact List.mem_cons

/-- Trimming takes only spaces away. -/
theorem mem_trim_iff {s : Str} {c : UInt8} (h : isSpace c = false) : c ∈ trim s ↔ c ∈ s := by
  unfold trim
  rw [List.mem_reverse, mem_dropWhile_iff h, List.mem_reverse, mem_dropWhile_iff h]

/-- The digits of `parse_unix_seconds`, `value` being what those before have made. -/
def parseDigits (value : Int) : Str → Option Int
  | [] => some value
  | c :: rest =>
      if c < 48 || 57 < c then none
      else
        let digit : Int := (c - 48).toNat
        -- one more digit would pass the largest `int64_t`
        if (9223372036854775807 - digit) / 10 < value then none
        else parseDigits (value * 10 + digit) rest

/-- `parse_unix_seconds`. -/
def parseUnixSeconds (text : Str) : Option Int := if text = [] then none else parseDigits 0 text

/-- A text of decimal digits. -/
def IsDigits (text : Str) : Prop := text ≠ [] ∧ ∀ c ∈ text, 48 ≤ c ∧ c ≤ 57

/-- The number that digits behind `value` make. -/
def numberFrom (value : Nat) (text : Str) : Nat :=
  text.foldl (fun n c => n * 10 + (c - 48).toNat) value

theorem numberFrom_ge (value : Nat) (text : Str) : value ≤ numberFrom value text := by
  induction text generalizing value with
  | nil => exact Nat.le_refl value
  | cons c rest ih =>
      have hstep := ih (value * 10 + (c - 48).toNat)
      show value ≤ numberFrom (value * 10 + (c - 48).toNat) rest
      omega

/-- The check before each digit is that of the result. -/
theorem parseDigits_eq_some {text : Str} {value : Nat} {n : Int} (hvalue : value < 2 ^ 63) :
    parseDigits value text = some n ↔
      (∀ c ∈ text, 48 ≤ c ∧ c ≤ 57) ∧ numberFrom value text < 2 ^ 63 ∧
        n = numberFrom value text := by
  induction text generalizing value with
  | nil =>
      simp only [parseDigits, numberFrom, List.foldl_nil, Option.some.injEq]
      constructor
      · intro h
        exact ⟨by simp, hvalue, h.symm⟩
      · exact fun h => h.2.2.symm
  | cons c rest ih =>
      have hfold : numberFrom value (c :: rest) =
          numberFrom (value * 10 + (c - 48).toNat) rest := rfl
      rw [hfold]
      unfold parseDigits
      by_cases hdigit : 48 ≤ c ∧ c ≤ 57
      · have hin : ¬((decide (c < 48) || decide (57 < c)) = true) := by
          simp [UInt8.not_lt.mpr hdigit.1, UInt8.not_lt.mpr hdigit.2]
        rw [if_neg hin]
        have hpush : (value : Int) * 10 + ((c - 48).toNat : Int) =
            ((value * 10 + (c - 48).toNat : Nat) : Int) := by
          push_cast
          rfl
        by_cases hfits : value * 10 + (c - 48).toNat < 2 ^ 63
        · have hroom : ¬((9223372036854775807 - ((c - 48).toNat : Int)) / 10 < value) := by omega
          simp only [if_neg hroom]
          rw [hpush, ih hfits]
          simp only [List.mem_cons, forall_eq_or_imp]
          tauto
        · have hroom : (9223372036854775807 - ((c - 48).toNat : Int)) / 10 < value := by omega
          simp only [if_pos hroom]
          have hgrows := numberFrom_ge (value * 10 + (c - 48).toNat) rest
          constructor
          · intro h
            cases h
          · intro h
            have hbound := h.2.1
            omega
      · have hout : (decide (c < 48) || decide (57 < c)) = true := by
          rw [Bool.or_eq_true, decide_eq_true_eq, decide_eq_true_eq]
          rcases not_and_or.mp hdigit with hlow | hhigh
          · exact .inl (UInt8.not_le.mp hlow)
          · exact .inr (UInt8.not_le.mp hhigh)
        rw [if_pos hout]
        constructor
        · intro h
          cases h
        · exact fun h => absurd (h.1 c List.mem_cons_self) hdigit

/-- A timestamp is a text of digits whose number an `int64_t` can hold. -/
theorem parseUnixSeconds_eq_some {text : Str} {n : Int} :
    parseUnixSeconds text = some n ↔
      IsDigits text ∧ numberFrom 0 text < 2 ^ 63 ∧ n = numberFrom 0 text := by
  unfold parseUnixSeconds IsDigits
  by_cases hempty : text = []
  · rw [if_pos hempty]
    constructor
    · intro h
      cases h
    · exact fun h => absurd hempty h.1.1
  · rw [if_neg hempty]
    have hspec : parseDigits ((0 : Nat) : Int) text = some n ↔ _ := parseDigits_eq_some (by omega)
    rw [and_iff_right hempty]
    exact hspec

/-! ## Hexadecimal -/

def nibble (c : UInt8) : Option UInt8 :=
  if 48 ≤ c && c ≤ 57 then some (c - 48)
  else if 97 ≤ c && c ≤ 102 then some (c - 97 + 10)
  else if 65 ≤ c && c ≤ 70 then some (c - 65 + 10)
  else none

/-- The bytes of pairs of digits; one digit left over is none. -/
def hexPairs : Str → Option Str
  | [] => some []
  | [_] => none
  | a :: b :: rest => do
      let hi ← nibble a
      let lo ← nibble b
      let bytes ← hexPairs rest
      return ((hi <<< 4) ||| lo) :: bytes

/-- `hex_decode`. -/
def hexDecode (hex : Str) : Option Str := if hex = [] then none else hexPairs hex

/-- A byte as two lower-case digits. -/
def hexByte (c : UInt8) : Str := [Json.hexLower (c / 16), Json.hexLower (c % 16)]

/-- The lower-case hexadecimal text of bytes. -/
def hexText (bytes : Str) : Str := bytes.flatMap hexByte

/-- A digit's value, read back: the digit in lower case. -/
theorem nibble_spec (c : UInt8) :
    (nibble c).all (fun d => d < 16 && lower [c] == [Json.hexLower d]) = true := by
  revert c
  apply forall_byte
  decide +kernel

/-- The case of a digit is no part of its value. -/
theorem nibble_lower (c : UInt8) : (lower [c]).head?.bind nibble = nibble c := by
  revert c
  apply forall_byte
  decide +kernel

theorem nibble_hexLower {d : UInt8} (h : d < 16) : nibble (Json.hexLower d) = some d := by
  revert d
  apply forall_byte
  decide +kernel

/-- Two digits make one byte, and another byte has other digits. -/
theorem hexByte_spec (c : UInt8) : c / 16 < 16 ∧ c % 16 < 16 ∧ ((c / 16) <<< 4 ||| c % 16) = c := by
  revert c
  apply forall_byte
  decide +kernel

/-- What a digit decodes to is the digit whose lower case it is. -/
theorem nibble_eq_some {c d : UInt8} :
    nibble c = some d ↔ d < 16 ∧ lower [c] = [Json.hexLower d] := by
  constructor
  · intro h
    have hspec := nibble_spec c
    rw [h, Option.all_some, Bool.and_eq_true, decide_eq_true_eq, beq_iff_eq] at hspec
    exact hspec
  · intro h
    obtain ⟨hd, hlower⟩ := h
    rw [← nibble_lower, hlower, ← nibble_hexLower hd]
    rfl

/-- Two digits are one byte. -/
theorem pair_eq_byte {a b c : UInt8} :
    (∃ hi lo, nibble a = some hi ∧ nibble b = some lo ∧ (hi <<< 4 ||| lo) = c) ↔
      lower [a] ++ lower [b] = hexByte c := by
  have hlength (x : UInt8) : ∃ y, lower [x] = [y] := ⟨_, rfl⟩
  constructor
  · intro h
    obtain ⟨hi, lo, ha, hb, rfl⟩ := h
    obtain ⟨hhi, ha⟩ := nibble_eq_some.mp ha
    obtain ⟨hlo, hb⟩ := nibble_eq_some.mp hb
    have hsplit : ∀ i j : Fin 16,
        hexByte ((UInt8.ofNat i <<< 4) ||| .ofNat j) =
          [Json.hexLower (.ofNat i), Json.hexLower (.ofNat j)] := by
      decide +kernel
    have hbyte := hsplit ⟨hi.toNat, hhi⟩ ⟨lo.toNat, hlo⟩
    simp only [UInt8.ofNat_toNat] at hbyte
    rw [ha, hb, hbyte]
    rfl
  · intro h
    obtain ⟨hhi, hlo, hc⟩ := hexByte_spec c
    obtain ⟨x, hx⟩ := hlength a
    obtain ⟨y, hy⟩ := hlength b
    rw [hx, hy] at h
    obtain ⟨hxhi, hylo⟩ := List.cons.inj h
    refine ⟨c / 16, c % 16, nibble_eq_some.mpr ⟨hhi, ?_⟩, nibble_eq_some.mpr ⟨hlo, ?_⟩, hc⟩
    · rw [hx, hxhi]
    · rw [hy, (List.cons.inj hylo).1]

theorem hexPairs_eq_some {hex bytes : Str} :
    hexPairs hex = some bytes ↔ lower hex = hexText bytes := by
  induction hex using hexPairs.induct generalizing bytes with
  | case1 =>
      cases bytes with
      | nil => simp [hexPairs, hexText, lower]
      | cons c bytes => simp [hexPairs, hexText, hexByte, lower]
  | case2 c =>
      cases bytes with
      | nil => simp [hexPairs, hexText, lower]
      | cons d bytes => simp [hexPairs, hexText, hexByte, lower]
  | case3 a b rest ih =>
      have hlower : lower (a :: b :: rest) = (lower [a] ++ lower [b]) ++ lower rest := rfl
      have hstep : hexPairs (a :: b :: rest) = some bytes ↔
          ∃ hi lo tail, nibble a = some hi ∧ nibble b = some lo ∧ hexPairs rest = some tail ∧
            ((hi <<< 4) ||| lo) :: tail = bytes := by
        simp [hexPairs, Option.bind_eq_some_iff]
      rw [hstep, hlower]
      constructor
      · intro h
        obtain ⟨hi, lo, tail, ha, hb, htail, rfl⟩ := h
        rw [pair_eq_byte.mp ⟨hi, lo, ha, hb, rfl⟩, ih.mp htail]
        rfl
      · intro h
        cases bytes with
        | nil => cases h
        | cons c bytes =>
            have hpieces : lower [a] ++ lower [b] = hexByte c ∧ lower rest = hexText bytes :=
              List.append_inj h rfl
            obtain ⟨hi, lo, ha, hb, hc⟩ := pair_eq_byte.mpr hpieces.1
            exact ⟨hi, lo, bytes, ha, hb, ih.mpr hpieces.2, by rw [hc]⟩

/-- A text decodes to the bytes whose hexadecimal text it is, in either case. -/
theorem hexDecode_eq_some {hex bytes : Str} (h : bytes ≠ []) :
    hexDecode hex = some bytes ↔ lower hex = hexText bytes := by
  unfold hexDecode
  by_cases hempty : hex = []
  · rw [if_pos hempty, hempty]
    obtain ⟨c, rest, rfl⟩ := List.exists_cons_of_ne_nil h
    constructor
    · intro hsome
      cases hsome
    · intro hlower
      cases hlower
  · rw [if_neg hempty]
    exact hexPairs_eq_some

end Axiam.Webhook
