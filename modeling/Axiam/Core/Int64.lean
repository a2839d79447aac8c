import Mathlib.Data.Rat.Floor
import Axiam.Core.Json

/-!
# 64-bit integers

`std::int64_t` as the SDK computes with it.  A signed result that does not fit is undefined
behaviour, which is `none` here.  A JSON number is held in one of three representations, and
`get<std::int64_t>()` reads each of them in its own way.
-/

namespace Axiam

/-- The values of a `std::int64_t`. -/
def IsInt64 (i : Int) : Prop := -9223372036854775808 ≤ i ∧ i < 9223372036854775808

instance (i : Int) : Decidable (IsInt64 i) := inferInstanceAs (Decidable (_ ∧ _))

/-- A signed result; one that does not fit is undefined behaviour. -/
def int64 (i : Int) : Option Int := if IsInt64 i then some i else none

theorem int64_eq_some_iff {i v : Int} : int64 i = some v ↔ IsInt64 i ∧ i = v := by
  unfold int64
  split
  next h => simp [h]
  next h => simp [h]

theorem int64_of_isInt64 {i : Int} (h : IsInt64 i) : int64 i = some i := if_pos h

theorem int64_eq_none_iff {i : Int} : int64 i = none ↔ ¬IsInt64 i := by
  unfold int64
  split
  next h => simp [h]
  next h => simp [h]

/-! ## Rounding toward zero -/

/-- A floating-point number as an integer: its fraction is dropped. -/
def truncate (x : Rat) : Int := Int.tdiv x.num x.den

theorem truncate_of_nonneg {x : Rat} (h : 0 ≤ x) : truncate x = ⌊x⌋ := by
  rw [truncate, Rat.floor_def', Int.tdiv_eq_ediv_of_nonneg (Rat.num_nonneg.mpr h)]

theorem truncate_neg (x : Rat) : truncate (-x) = -truncate x := by
  rw [truncate, truncate, Rat.num_neg_eq_neg_num, Rat.den_neg_eq_den, Int.neg_tdiv]

theorem truncate_of_nonpos {x : Rat} (h : x ≤ 0) : truncate x = ⌈x⌉ := by
  have hneg := truncate_of_nonneg (neg_nonneg.mpr h)
  rw [truncate_neg, Int.floor_neg] at hneg
  omega

theorem truncate_intCast (i : Int) : truncate (i : Rat) = i := by
  simp [truncate]

/-! ## JSON numbers -/

/-- A JSON number, as it is held. -/
inductive JsonNumber where
  | integer (i : Int64)
  | unsigned (u : UInt64)
  /-- A finite one; every double is a rational number. -/
  | float (x : Rat)
  deriving DecidableEq

namespace JsonNumber

/-- The number itself. -/
def value : JsonNumber → Rat
  | integer i => i.toInt
  | unsigned u => u.toNat
  | float x => x

/-- The number without its fraction. -/
def truncated : JsonNumber → Int
  | integer i => i.toInt
  | unsigned u => u.toNat
  | float x => truncate x

/-- `get<std::int64_t>()`: an unsigned number wraps, and a floating-point one is converted, which
is undefined where its integer part does not fit. -/
def getInt64 : JsonNumber → Option Int
  | integer i => some i.toInt
  | unsigned u => some u.toInt64.toInt
  | float x => int64 (truncate x)

theorem isInt64_toInt (i : Int64) : IsInt64 i.toInt :=
  ⟨Int64.le_toInt i, Int64.toInt_lt i⟩

/-- An unsigned number past the signed range comes out negative. -/
theorem unsigned_wraps (u : UInt64) : u.toInt64.toInt =
    if u.toNat < 9223372036854775808 then (u.toNat : Int) else u.toNat - 18446744073709551616 := by
  have hbits : u.toInt64.toInt = u.toBitVec.toInt := rfl
  have hlt : u.toNat < 18446744073709551616 := u.toNat_lt
  rw [hbits, BitVec.toInt_eq_toNat_cond]
  simp only [UInt64.toNat_toBitVec]
  split
  next h => rw [if_pos (by omega)]
  next h =>
    rw [if_neg (by omega)]
    norm_num

/-- The conversion keeps exactly the numbers whose integer part fits. -/
theorem getInt64_eq_truncated_iff (n : JsonNumber) :
    n.getInt64 = some n.truncated ↔ IsInt64 n.truncated := by
  cases n with
  | integer i => simp [getInt64, truncated, isInt64_toInt]
  | unsigned u =>
    have hlt : u.toNat < 18446744073709551616 := u.toNat_lt
    simp only [getInt64, truncated, unsigned_wraps, IsInt64, Option.some.injEq]
    split <;> omega
  | float x => simp [getInt64, truncated, int64_eq_some_iff]

/-- Dropping a fraction moves a number by less than one. -/
theorem truncated_near (n : JsonNumber) :
    (n.truncated : Rat) - 1 < n.value ∧ n.value < n.truncated + 1 := by
  cases n with
  | integer i => simp [truncated, value]
  | unsigned u => simp [truncated, value]
  | float x =>
    simp only [truncated, value]
    rcases le_total 0 x with h | h
    · rw [truncate_of_nonneg h]
      have hle := Int.floor_le x
      exact ⟨by linarith, Int.lt_floor_add_one x⟩
    · rw [truncate_of_nonpos h]
      have hle := Int.le_ceil x
      have hlt := Int.ceil_lt_add_one x
      exact ⟨by linarith, by linarith⟩

/-- Below a bound and truncated below it are the same, but for a fraction dropped upward onto the
bound. -/
theorem truncated_lt_iff (n : JsonNumber) (i : Int) :
    (n.truncated < i ↔ n.value < i) ↔ ¬(n.value < n.truncated ∧ n.truncated = i) := by
  obtain ⟨hlow, hhigh⟩ := n.truncated_near
  constructor
  · rintro heq ⟨hup, rfl⟩
    exact absurd (heq.mpr hup) (lt_irrefl _)
  · intro hnot
    constructor
    · intro hlt
      have hstep : (n.truncated : Rat) + 1 ≤ i := by exact_mod_cast hlt
      linarith
    · intro hlt
      have hle : n.truncated ≤ i := by
        have : (n.truncated : Rat) < i + 1 := by linarith
        exact Int.lt_add_one_iff.mp (by exact_mod_cast this)
      rcases hle.lt_or_eq with h | h
      · exact h
      · exact absurd ⟨by rw [h]; exact hlt, h⟩ hnot

theorem truncated_gt_iff (n : JsonNumber) (i : Int) :
    (i < n.truncated ↔ i < n.value) ↔ ¬(n.truncated < n.value ∧ n.truncated = i) := by
  obtain ⟨hlow, hhigh⟩ := n.truncated_near
  constructor
  · rintro heq ⟨hdown, rfl⟩
    exact absurd (heq.mpr hdown) (lt_irrefl _)
  · intro hnot
    constructor
    · intro hlt
      have hstep : (i : Rat) + 1 ≤ n.truncated := by exact_mod_cast hlt
      linarith
    · intro hlt
      have hle : i ≤ n.truncated := by
        have : (i : Rat) < n.truncated + 1 := by linarith
        exact Int.lt_add_one_iff.mp (by exact_mod_cast this)
      rcases hle.lt_or_eq with h | h
      · exact h
      · exact absurd ⟨by rw [← h]; exact hlt, h.symm⟩ hnot

/-- A number that does not fit is undefined to convert, or a large one comes out negative. -/
theorem getInt64_of_wide {n : JsonNumber} (h : ¬IsInt64 n.truncated) : n.getInt64 = none ∨
    ∃ v < 0, n.getInt64 = some v ∧ 9223372036854775808 ≤ n.truncated := by
  cases n with
  | integer i => exact absurd (isInt64_toInt i) h
  | unsigned u =>
    have hlt : u.toNat < 18446744073709551616 := u.toNat_lt
    have hwide : ¬u.toNat < 9223372036854775808 := by
      unfold IsInt64 at h
      simp only [truncated] at h
      omega
    refine .inr ⟨u.toNat - 18446744073709551616, by omega, ?_, ?_⟩
    · rw [getInt64, unsigned_wraps, if_neg hwide]
    · simp only [truncated]
      omega
  | float x => exact .inl (int64_eq_none_iff.mpr h)

end JsonNumber

/-- `is_number()`: the number a value is.  A parser holds no integer past both ranges: it reads a
double there. -/
def Json.number? : Json → Option JsonNumber
  | .integer i =>
      if IsInt64 i then some (.integer (Int64.ofInt i))
      else if 0 ≤ i ∧ i < 18446744073709551616 then some (.unsigned (UInt64.ofNat i.toNat))
      else some (.float i)
  | .float x => some (.float x)
  | _ => none

/-- The number a member is. -/
def Json.numberMember? (j : Json) (key : Str) : Option JsonNumber :=
  (j.find? key).bind Json.number?

theorem wrapInt64_of_isInt64 {i : Int} (h : IsInt64 i) : Json.wrapInt64 i = i := by
  unfold IsInt64 at h
  exact Int.bmod_eq_of_le_mul_two (by omega) (by omega)

/-- An unsigned number past the signed range comes out below zero. -/
theorem wrapInt64_of_large {i : Int} (hlow : 9223372036854775808 ≤ i)
    (hhigh : i < 18446744073709551616) : Json.wrapInt64 i = i - 18446744073709551616 := by
  have hshift := Int.sub_bmod_right i 18446744073709551616
  unfold Json.wrapInt64
  rw [← hshift]
  exact Int.bmod_eq_of_le_mul_two (by omega) (by omega)

theorem Json.int64?_of_not_number {j : Json} (h : j.number? = none) : j.int64? = none := by
  cases j with
  | integer i =>
    simp only [Json.number?] at h
    split_ifs at h
  | float x => cases h
  | null | boolean | string | array | object => rfl

/-- Where the conversion is defined, the member is read as it says. -/
theorem Json.int64?_of_getInt64 {j : Json} {n : JsonNumber} {v : Int} (hn : j.number? = some n)
    (hv : n.getInt64 = some v) : j.int64? = some v := by
  cases j with
  | integer i =>
    simp only [Json.number?] at hn
    split_ifs at hn with hfits hwide
    · cases hn
      simp only [JsonNumber.getInt64, Option.some.injEq,
        Int64.toInt_ofInt_of_le hfits.1 hfits.2] at hv
      rw [Json.int64?, wrapInt64_of_isInt64 hfits, hv]
    · cases hn
      have hnat : (UInt64.ofNat i.toNat).toNat = i.toNat := by
        rw [UInt64.toNat_ofNat']
        omega
      have hlarge : 9223372036854775808 ≤ i := by
        unfold IsInt64 at hfits
        omega
      simp only [JsonNumber.getInt64, JsonNumber.unsigned_wraps, hnat, Option.some.injEq] at hv
      rw [Json.int64?, wrapInt64_of_large hlarge hwide.2, ← hv, if_neg (by omega)]
      simp only [Option.some.injEq]
      omega
    · cases hn
      simp only [JsonNumber.getInt64, truncate_intCast] at hv
      exact absurd (int64_eq_some_iff.mp hv).1 hfits
  | float x =>
    cases hn
    obtain ⟨hfits, rfl⟩ := int64_eq_some_iff.mp hv
    exact congrArg some (if_pos hfits)
  | null | boolean | string | array | object => cases hn

/-- The number in a member fits. -/
def MemberFits (j : Json) (key : Str) : Prop :=
  ∀ n, j.numberMember? key = some n → IsInt64 n.truncated

/-! ## Two arithmetics -/

/-- How a result is kept, if it is, and how a number is read. -/
structure Arithmetic where
  fit : Int → Option Int
  read : JsonNumber → Option Int
  kept : ∀ i v, fit i = some v → v = i
  fits : ∀ i, IsInt64 i → fit i = some i

/-- 64 bits. -/
def machine : Arithmetic where
  fit := int64
  read := JsonNumber.getInt64
  kept _ _ h := (int64_eq_some_iff.mp h).2.symm
  fits _ h := int64_of_isInt64 h

/-- Every integer. -/
def unbounded : Arithmetic where
  fit := some
  read n := some n.truncated
  kept _ _ h := (Option.some.inj h).symm
  fits _ _ := rfl

/-- `opt_int`: the outer `none` is undefined behaviour. -/
def Arithmetic.optInt (arith : Arithmetic) (j : Json) (key : Str) : Option (Option Int) :=
  match j.numberMember? key with
  | none => some none
  | some n => (arith.read n).map some

theorem unbounded_optInt (j : Json) (key : Str) :
    unbounded.optInt j key = some ((j.numberMember? key).map JsonNumber.truncated) := by
  unfold Arithmetic.optInt
  cases j.numberMember? key <;> rfl

/-- A member is read as it is exactly where its number fits. -/
theorem machine_optInt_iff {j : Json} {key : Str} :
    machine.optInt j key = unbounded.optInt j key ↔ MemberFits j key := by
  unfold MemberFits
  rw [unbounded_optInt]
  unfold Arithmetic.optInt
  cases j.numberMember? key with
  | none => simp
  | some n =>
    simp only [Option.map_some, Option.some.injEq, forall_eq']
    rw [← n.getInt64_eq_truncated_iff]
    cases h : n.getInt64 <;> simp [machine, h]

end Axiam
