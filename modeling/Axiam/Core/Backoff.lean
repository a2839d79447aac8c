import Axiam.Core.Http
import Axiam.Core.Status
import Mathlib.Data.Rat.Floor

/-!
# The waits between attempts

`retry_backoff`, `retry_delay` and `retry_after_from_header` (`src/retry.hpp`).  The jitter
multiplies the backoff by a fraction in floating point; here the fraction is rational and the
rounding a parameter, of which only this is used: it is monotone, and it leaves the whole numbers
a double holds as they are.
-/

namespace Axiam

/-- `retry_backoff`, in milliseconds. -/
def retryBackoff (attempt : Nat) : Int := min 5000 (200 * 2 ^ (attempt - 1))

theorem retryBackoff_nonneg (attempt : Nat) : 0 ≤ retryBackoff attempt := by
  have : (0 : Int) ≤ 2 ^ (attempt - 1) := by positivity
  unfold retryBackoff
  omega

theorem retryBackoff_le (attempt : Nat) : retryBackoff attempt ≤ 5000 := by
  unfold retryBackoff
  omega

/-- What the jitter leaves of a backoff: the fraction is clamped, and the product truncated. -/
def jitterOf (round : ℚ → ℚ) (fraction : ℚ) (backoff : Int) : Int :=
  ⌊round (backoff * min (max fraction 0) 1)⌋

/-- What is used of the rounding of a double. -/
structure Rounding (round : ℚ → ℚ) : Prop where
  mono : Monotone round
  whole : ∀ n : Int, 0 ≤ n → n ≤ 2 ^ 53 → round n = n

/-- The jitter leaves something between nothing and the whole backoff. -/
theorem jitterOf_bounds {round : ℚ → ℚ} (hround : Rounding round) (fraction : ℚ) (attempt : Nat) :
    0 ≤ jitterOf round fraction (retryBackoff attempt) ∧
      jitterOf round fraction (retryBackoff attempt) ≤ retryBackoff attempt := by
  have hnonneg := retryBackoff_nonneg attempt
  have hle := retryBackoff_le attempt
  generalize retryBackoff attempt = backoff at *
  have hcast : (0 : ℚ) ≤ backoff := by exact_mod_cast hnonneg
  have hlow : (0 : ℚ) ≤ min (max fraction 0) 1 := le_min (le_max_right _ _) zero_le_one
  have hhigh : min (max fraction 0) 1 ≤ (1 : ℚ) := min_le_right _ _
  have hzero : round 0 = 0 := by exact_mod_cast hround.whole 0 le_rfl (by norm_num)
  have hwhole : round backoff = backoff := hround.whole backoff hnonneg (by omega)
  constructor
  · refine Int.floor_nonneg.mpr ?_
    calc (0 : ℚ) = round 0 := hzero.symm
      _ ≤ round (backoff * min (max fraction 0) 1) := hround.mono (mul_nonneg hcast hlow)
  · have hproduct : round (backoff * min (max fraction 0) 1) ≤ backoff := by
      calc round (backoff * min (max fraction 0) 1)
          ≤ round backoff := hround.mono (mul_le_of_le_one_right hcast hhigh)
        _ = backoff := hwhole
    exact_mod_cast (Int.floor_le _).trans hproduct

/-- `retry_delay`, of what the jitter left of the backoff: a `Retry-After` is a floor. -/
def retryDelay (jittered : Int) : Option Int → Int
  | some floor => max jittered floor
  | none => jittered

/-- The number a text of digits is. -/
def digitsToNat (s : Str) : Nat := s.foldl (fun n c => n * 10 + (c.toNat - 48)) 0

/-- `retry_after_from_header`, in milliseconds; `httpDate` is `strptime` and `timegm`. -/
def retryAfterFromHeader (httpDate : Str → Option Int) (value : Str) (now : Int) : Option Int :=
  let raw := trim value
  if raw = [] then none
  else if raw.all fun c => 48 ≤ c && c ≤ 57 then some (min (digitsToNat raw) 3600 * 1000)
  else match httpDate raw with
    | none => none
    | some date => if date - now ≤ 0 then none else some (min (date - now) 3600 * 1000)

/-- A hint is an hour at most. -/
theorem retryAfterFromHeader_bounds {httpDate : Str → Option Int} {value : Str} {now hint : Int}
    (h : retryAfterFromHeader httpDate value now = some hint) : 0 ≤ hint ∧ hint ≤ 3600000 := by
  unfold retryAfterFromHeader at h
  extract_lets raw at h
  split_ifs at h with hempty hdigits
  · cases h
    omega
  · rcases hdate : httpDate raw with _ | date <;> simp only [hdate] at h
    · cases h
    · split_ifs at h with hpast
      cases h
      omega

end Axiam
