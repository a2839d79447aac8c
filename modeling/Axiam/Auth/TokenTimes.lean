import Axiam.Auth.Authenticator
import Axiam.Core.Int64
import Axiam.Oidc.IdToken
import Axiam.Oidc.Logout

/-!
# Token times in 64 bits

The `exp`, `nbf` and `iat` checks of `src/authenticator.cpp` and `src/oidc.cpp` as the machine
makes them: a claim is read as a `std::int64_t`, the skew is added to it or to the clock, and the
sums are compared.  The authenticator and the relying party add without bounds; their checks have
the outcome of these wherever these have one.
-/

namespace Axiam.Auth

open Axiam.Oidc

/-! ## The checks -/

/-- A check that refuses, or is undefined. -/
abbrev Checked : Type → Type := ExceptT Exc Option

/-- `read_numeric_claim`. -/
def readNumericClaim64 (payload : Json) (name : Str) : Option ClaimRead :=
  match payload.find? name with
  | none => some .absent
  | some member =>
      match member.number? with
      | none => some .malformed
      | some n => n.getInt64.map .ok

/-- `now > exp + skew`, which is refused. -/
def refusePast (refusal : Exc) (now exp skew : Int) : Checked Unit := do
  let limit ← liftM (int64 (exp + skew))
  if limit < now then throw refusal

/-- `now + skew < time`, which is refused. -/
def refuseAhead (refusal : Exc) (now time skew : Int) : Checked Unit := do
  let limit ← liftM (int64 (now + skew))
  if limit < time then throw refusal

def tokenFailed (why : Str) : Exc := .auth (str "authentication_failed: " ++ why)

/-- Step 3 of `authenticate`. -/
def checkExp64 (payload : Json) (now skew : Int) : Checked Unit := do
  match ← liftM (readNumericClaim64 payload "exp") with
  | .absent => throw (tokenFailed "token has no exp claim")
  | .malformed => throw (tokenFailed "token exp claim is not a number")
  | .ok exp => refusePast (tokenFailed "token has expired") now exp skew

/-- Step 4. -/
def checkNbf64 (payload : Json) (now skew : Int) : Checked Unit := do
  match ← liftM (readNumericClaim64 payload "nbf") with
  | .absent => pure ()
  | .malformed => throw (tokenFailed "token nbf claim is not a number")
  | .ok nbf => refuseAhead (tokenFailed "token is not yet valid") now nbf skew

def idTokenRefused (what : Str) : Exc := .axiam (.oidcValidation what .tokenExpired)

/-- Rule 5 of `check_id_claims`, on `exp`. -/
def checkIdExp64 (exp : Option Int) (now skew : Int) : Checked Int :=
  match exp with
  | none => throw (idTokenRefused "id_token has no usable exp claim")
  | some exp => do
      refusePast (idTokenRefused "id_token has expired") now exp skew
      return exp

/-- Rule 5, on `iat`. -/
def checkIdIat64 (iat : Option Int) (now skew : Int) : Checked Int :=
  match iat with
  | none => throw (idTokenRefused "id_token has no usable iat claim")
  | some iat => do
      refuseAhead (idTokenRefused "id_token was issued in the future") now iat skew
      return iat

/-- Rule 5, on `nbf`. -/
def checkIdNbf64 (j : Json) (now skew : Int) : Checked Unit :=
  if j.contains "nbf" then do
    match ← liftM (machine.optInt j "nbf") with
    | none => throw (idTokenRefused "id_token is not yet valid")
    | some nbf => refuseAhead (idTokenRefused "id_token is not yet valid") now nbf skew
  else pure ()

/-- Rule 5: `exp` and `iat` are both read before either is checked. -/
def checkTimes64 (j : Json) (now skew : Int) : Checked (Int × Int) := do
  let exp ← liftM (machine.optInt j "exp")
  let iat ← liftM (machine.optInt j "iat")
  let exp ← checkIdExp64 exp now skew
  let iat ← checkIdIat64 iat now skew
  checkIdNbf64 j now skew
  return (exp, iat)

/-- Rule 6 of `verify_logout_token`. -/
def checkLogoutExp64 (j : Json) (now skew : Int) : Checked Unit := do
  match ← liftM (machine.optInt j "exp") with
  | none => throw logoutExpired
  | some exp => refusePast logoutExpired now exp skew

/-! ## One comparison -/

theorem lift_some_bind {α β : Type} (a : α) (f : α → Checked β) :
    (liftM (some a) >>= f : Checked β) = f a := rfl

theorem lift_none_bind {α β : Type} (f : α → Checked β) :
    (liftM (none : Option α) >>= f : Checked β).run = none := rfl

/-- A check whose value is not looked at. -/
theorem discard_return {α : Type} {check : Checked Unit} {a : α} :
    (discard (check >>= fun _ => pure a) : Checked PUnit).run = check.run := by
  show ((fun _ => PUnit.unit) <$> (check >>= fun _ => pure a) : Checked PUnit).run = check.run
  simp

theorem bind_run_ok {α β : Type} {check : Checked α} {f : α → Checked β} {a : α}
    (h : check.run = some (.ok a)) : (check >>= f).run = (f a).run := by
  rw [ExceptT.run_bind, h]
  rfl

theorem bind_run_error {α β : Type} {check : Checked α} {f : α → Checked β} {e : Exc}
    (h : check.run = some (.error e)) : (check >>= f).run = some (.error e) := by
  rw [ExceptT.run_bind, h]
  rfl

section

variable {refusal : Exc} {now time skew : Int}

theorem refusePast_run (h : IsInt64 (time + skew)) :
    (refusePast refusal now time skew).run =
      some (if time + skew < now then .error refusal else .ok ()) := by
  unfold refusePast
  rw [int64_of_isInt64 h, lift_some_bind]
  split <;> rfl

theorem refusePast_undefined (h : ¬IsInt64 (time + skew)) :
    (refusePast refusal now time skew).run = none := by
  unfold refusePast
  rw [int64_eq_none_iff.mpr h, lift_none_bind]

theorem refuseAhead_run (h : IsInt64 (now + skew)) :
    (refuseAhead refusal now time skew).run =
      some (if now + skew < time then .error refusal else .ok ()) := by
  unfold refuseAhead
  rw [int64_of_isInt64 h, lift_some_bind]
  split <;> rfl

end

/-! ## The six checks -/

/-- A check of a time claim. -/
inductive TimeCheck where
  | tokenExp
  | tokenNbf
  | idTokenExp
  | idTokenIat
  | idTokenNbf
  | logoutExp
  deriving DecidableEq

namespace TimeCheck

/-- The claim it reads. -/
def claim : TimeCheck → Str
  | tokenExp | idTokenExp | logoutExp => "exp"
  | tokenNbf | idTokenNbf => "nbf"
  | idTokenIat => "iat"

/-- The claim is one the clock has not to pass, and not one it has to have reached. -/
def isDeadline : TimeCheck → Bool
  | tokenExp | idTokenExp | logoutExp => true
  | tokenNbf | idTokenIat | idTokenNbf => false

/-- What it throws. -/
def refusal : TimeCheck → Exc
  | tokenExp => tokenFailed "token has expired"
  | tokenNbf => tokenFailed "token is not yet valid"
  | idTokenExp => idTokenRefused "id_token has expired"
  | idTokenIat => idTokenRefused "id_token was issued in the future"
  | idTokenNbf => idTokenRefused "id_token is not yet valid"
  | logoutExp => logoutExpired

/-- The check on a token's claims: nothing, a refusal, or undefined behaviour. -/
def run (check : TimeCheck) (claims : Json) (now skew : Int) : Option (Except Exc Unit) :=
  match check with
  | tokenExp => (checkExp64 claims now skew).run
  | tokenNbf => (checkNbf64 claims now skew).run
  | idTokenExp => ExceptT.run do
      let exp ← liftM (machine.optInt claims "exp")
      discard (checkIdExp64 exp now skew)
  | idTokenIat => ExceptT.run do
      let iat ← liftM (machine.optInt claims "iat")
      discard (checkIdIat64 iat now skew)
  | idTokenNbf => (checkIdNbf64 claims now skew).run
  | logoutExp => (checkLogoutExp64 claims now skew).run

/-- The comparison it makes of a time that was read. -/
def compare (check : TimeCheck) (now time skew : Int) : Checked Unit :=
  if check.isDeadline then refusePast check.refusal now time skew
  else refuseAhead check.refusal now time skew

/-- The comparison it stands for: `now ≤ exp + skew`, or `time ≤ now + skew`. -/
def holds (check : TimeCheck) (time : Rat) (now skew : Int) : Bool :=
  if check.isDeadline then decide ((now : Rat) ≤ time + skew) else decide (time ≤ now + skew)

/-- The outcome of that comparison. -/
def verdict (check : TimeCheck) (time : Rat) (now skew : Int) : Except Exc Unit :=
  if check.holds time now skew then .ok () else .error check.refusal

theorem readNumericClaim64_of_number {payload : Json} {name : Str} {n : JsonNumber}
    (h : payload.numberMember? name = some n) :
    readNumericClaim64 payload name = n.getInt64.map .ok := by
  obtain ⟨member, hfind, hnumber⟩ := Option.bind_eq_some_iff.mp h
  simp only [readNumericClaim64, hfind, hnumber]

theorem machine_optInt_of_number {j : Json} {key : Str} {n : JsonNumber}
    (h : j.numberMember? key = some n) : machine.optInt j key = n.getInt64.map some := by
  simp only [Arithmetic.optInt, h]
  rfl

/-- Each check reads its claim and compares what it read. -/
theorem run_of_number {check : TimeCheck} {claims : Json} {n : JsonNumber} (now skew : Int)
    (h : claims.numberMember? check.claim = some n) :
    check.run claims now skew = n.getInt64.bind fun time => (check.compare now time skew).run := by
  cases check with
  | tokenExp =>
    have hread : readNumericClaim64 claims "exp" = _ := readNumericClaim64_of_number h
    simp only [run, checkExp64]
    rw [hread]
    cases n.getInt64 <;> rfl
  | tokenNbf =>
    have hread : readNumericClaim64 claims "nbf" = _ := readNumericClaim64_of_number h
    simp only [run, checkNbf64]
    rw [hread]
    cases n.getInt64 <;> rfl
  | idTokenExp =>
    have hread : machine.optInt claims "exp" = _ := machine_optInt_of_number h
    simp only [run]
    rw [hread]
    cases n.getInt64 with
    | none => rfl
    | some exp => exact discard_return
  | idTokenIat =>
    have hread : machine.optInt claims "iat" = _ := machine_optInt_of_number h
    simp only [run]
    rw [hread]
    cases n.getInt64 with
    | none => rfl
    | some iat => exact discard_return
  | idTokenNbf =>
    have hread : machine.optInt claims "nbf" = _ := machine_optInt_of_number h
    have hthere : claims.contains "nbf" = true := by
      obtain ⟨member, hfind, -⟩ := Option.bind_eq_some_iff.mp h
      exact Option.isSome_of_eq_some hfind
    simp only [run, checkIdNbf64]
    rw [if_pos hthere, hread]
    cases n.getInt64 <;> rfl
  | logoutExp =>
    have hread : machine.optInt claims "exp" = _ := machine_optInt_of_number h
    simp only [run, checkLogoutExp64]
    rw [hread]
    cases n.getInt64 <;> rfl

/-- The time is read as it is, the sum fits, and no fraction is dropped across the bound. -/
def Fits (check : TimeCheck) (time : JsonNumber) (now skew : Int) : Prop :=
  IsInt64 time.truncated ∧
    if check.isDeadline then
      IsInt64 (time.truncated + skew) ∧
        ¬(time.value < time.truncated ∧ time.truncated = now - skew)
    else ¬(time.truncated < time.value ∧ time.truncated = now + skew)

/-- Where the sum fits, the outcome is the verdict on the number without its fraction. -/
theorem compare_run {check : TimeCheck} {now time skew : Int} (hclock : IsInt64 (now + skew))
    (hsum : check.isDeadline = true → IsInt64 (time + skew)) :
    (check.compare now time skew).run = some (check.verdict time now skew) := by
  unfold compare verdict holds
  cases hd : check.isDeadline with
  | true =>
    simp only [if_true]
    rw [refusePast_run (hsum hd)]
    by_cases hlate : time + skew < now
    · have : ¬(now : Rat) ≤ time + skew := by rw [not_le]; exact_mod_cast hlate
      simp [hlate, this]
    · have : (now : Rat) ≤ time + skew := by exact_mod_cast not_lt.mp hlate
      simp [hlate, this]
  | false =>
    simp only [Bool.false_eq_true, if_false]
    rw [refuseAhead_run hclock]
    by_cases hearly : now + skew < time
    · have : ¬(time : Rat) ≤ now + skew := by rw [not_le]; exact_mod_cast hearly
      simp [hearly, this]
    · have : (time : Rat) ≤ now + skew := by exact_mod_cast not_lt.mp hearly
      simp [hearly, this]

end TimeCheck

/-! ## Against the mathematical values -/

/-- A clock, and a skew that an authenticator and a relying party accept. -/
structure Clock where
  now : Int
  skew : Int
  inRange : 0 ≤ now ∧ now < 4611686018427387904
  accepted : 0 ≤ skew ∧ skew ≤ kMaxClockSkew

/-- Claims that state a time as a number. -/
structure Timed (check : TimeCheck) where
  claims : Json
  time : JsonNumber
  stated : claims.numberMember? check.claim = some time

theorem Clock.sum_fits (clock : Clock) : IsInt64 (clock.now + clock.skew) := by
  have hnow := clock.inRange
  have hskew := clock.accepted
  unfold kMaxClockSkew at hskew
  unfold IsInt64
  omega

theorem verdict_eq_iff {check : TimeCheck} {x y : Rat} {now skew : Int} :
    check.verdict x now skew = check.verdict y now skew ↔
      check.holds x now skew = check.holds y now skew := by
  unfold TimeCheck.verdict
  cases check.holds x now skew <;> cases check.holds y now skew <;> simp

/-- The fraction makes no difference, but where it is dropped across the bound. -/
theorem holds_truncated_iff {check : TimeCheck} {time : JsonNumber} {now skew : Int} :
    check.holds time.truncated now skew = check.holds time.value now skew ↔
      if check.isDeadline then ¬(time.value < time.truncated ∧ time.truncated = now - skew)
      else ¬(time.truncated < time.value ∧ time.truncated = now + skew) := by
  unfold TimeCheck.holds
  cases check.isDeadline with
  | true =>
    simp only [if_true, decide_eq_decide]
    rw [← time.truncated_lt_iff, ← not_iff_not (a := (now : Rat) ≤ _)]
    have hshift : ∀ x : Rat, ¬(now : Rat) ≤ x + skew ↔ x < (now - skew : Int) := by
      intro x
      push_cast
      rw [not_le, lt_sub_iff_add_lt]
    rw [hshift, hshift, Int.cast_lt]
  | false =>
    simp only [Bool.false_eq_true, if_false, decide_eq_decide]
    rw [← time.truncated_gt_iff, ← not_iff_not (a := _ ≤ (now : Rat) + skew)]
    have hshift : ∀ x : Rat, ¬x ≤ (now : Rat) + skew ↔ ((now + skew : Int) : Rat) < x := by
      intro x
      push_cast
      rw [not_le]
    rw [hshift, hshift, Int.cast_lt]

/-- A time check has the outcome of the comparison it stands for exactly where its numbers fit. -/
theorem time_check_exact_iff (check : TimeCheck) (clock : Clock) (token : Timed check) :
    (token.time.getInt64 = some token.time.truncated ∧
        check.run token.claims clock.now clock.skew =
          some (check.verdict token.time.value clock.now clock.skew)) ↔
      check.Fits token.time clock.now clock.skew := by
  rw [token.time.getInt64_eq_truncated_iff, TimeCheck.Fits]
  refine and_congr_right fun hread => ?_
  rw [TimeCheck.run_of_number clock.now clock.skew token.stated,
    token.time.getInt64_eq_truncated_iff.mpr hread, Option.bind_some]
  by_cases hsum : check.isDeadline = true → IsInt64 (token.time.truncated + clock.skew)
  · rw [TimeCheck.compare_run clock.sum_fits hsum, Option.some.injEq, verdict_eq_iff,
      holds_truncated_iff]
    split
    next hd => simp [hsum hd]
    next => rfl
  · -- the sum that does not fit is a deadline's
    rw [Classical.not_imp] at hsum
    obtain ⟨hd, hwide⟩ := hsum
    rw [if_pos hd, TimeCheck.compare, if_pos hd, refusePast_undefined hwide]
    simp [hwide]

/-- A token of the far future is accepted today, one that never expires has no defined outcome,
and half a second is dropped where it counts. -/
theorem far_nbf_accepted :
    (TimeCheck.tokenNbf.run (.object [("nbf", .integer 9223372036854775808)]) 1000 30 =
        some (.ok ()) ∧
      TimeCheck.tokenNbf.holds 9223372036854775808 1000 30 = false) ∧
    (TimeCheck.tokenExp.run (.object [("exp", .integer 9223372036854775807)]) 1000 30 = none ∧
      TimeCheck.tokenExp.holds 9223372036854775807 1000 30 = true) ∧
    (TimeCheck.idTokenNbf.run (.object [("nbf", .float (2061 / 2))]) 1000 30 = some (.ok ()) ∧
      TimeCheck.idTokenNbf.holds (2061 / 2) 1000 30 = false) := by
  decide +kernel

/-! ## The checks of the flows -/

/-- Where the machine's check is defined, this is its outcome. -/
def Yields {α : Type} (check : Checked α) (outcome : Except Exc α) : Prop :=
  ∀ r, check.run = some r → r = outcome

theorem Yields.pure {α : Type} (a : α) : Yields (pure a) (.ok a) := by
  intro r h
  cases h
  rfl

theorem Yields.throw {α : Type} (e : Exc) : Yields (throw e : Checked α) (.error e) := by
  intro r h
  cases h
  rfl

/-- What a check reads first is defined, or nothing is. -/
theorem Yields.read {α β : Type} {read : Option α} {f : α → Checked β} {outcome : Except Exc β}
    (h : ∀ a, read = some a → Yields (f a) outcome) : Yields (liftM read >>= f) outcome := by
  rcases read with _ | a
  · intro r hrun
    rw [lift_none_bind] at hrun
    cases hrun
  · intro r hrun
    rw [lift_some_bind] at hrun
    exact h a rfl r hrun

theorem Yields.bind {α β : Type} {check : Checked α} {f : α → Checked β} {outcome : Except Exc α}
    {g : α → Except Exc β} (h : Yields check outcome)
    (hf : ∀ a, outcome = .ok a → Yields (f a) (g a)) : Yields (check >>= f) (outcome >>= g) := by
  intro r hrun
  rw [ExceptT.run_bind] at hrun
  obtain ⟨first, hfirst, hrest⟩ := Option.bind_eq_some_iff.mp hrun
  obtain rfl := h first hfirst
  cases first with
  | error e =>
      cases hrest
      rfl
  | ok a => exact hf a rfl r hrest

section

variable {now time skew : Int} {j : Json} {key : Str}

theorem refusePast_yields (refusal : Exc) : Yields (refusePast refusal now time skew)
    (if time + skew < now then .error refusal else .ok ()) := by
  unfold refusePast
  refine Yields.read fun limit hlimit => ?_
  obtain ⟨-, rfl⟩ := int64_eq_some_iff.mp hlimit
  split
  · exact Yields.throw _
  · exact Yields.pure _

theorem refuseAhead_yields (refusal : Exc) : Yields (refuseAhead refusal now time skew)
    (if now + skew < time then .error refusal else .ok ()) := by
  unfold refuseAhead
  refine Yields.read fun limit hlimit => ?_
  obtain ⟨-, rfl⟩ := int64_eq_some_iff.mp hlimit
  split
  · exact Yields.throw _
  · exact Yields.pure _

theorem readNumericClaim64_eq {claim : ClaimRead} (h : readNumericClaim64 j key = some claim) :
    readNumericClaim j key = claim := by
  unfold readNumericClaim64 at h
  unfold readNumericClaim
  rcases hfind : j.find? key with _ | member <;> rw [hfind] at h
  · cases h
    rfl
  · simp only at h ⊢
    rcases hnumber : member.number? with _ | n <;> rw [hnumber] at h
    · cases h
      rw [Json.int64?_of_not_number hnumber]
    · obtain ⟨v, hv, rfl⟩ := Option.map_eq_some_iff.mp h
      rw [Json.int64?_of_getInt64 hnumber hv]

theorem machine_optInt_eq {time : Option Int} (h : machine.optInt j key = some time) :
    Client.optInt j key = time := by
  unfold Arithmetic.optInt Json.numberMember? at h
  unfold Client.optInt
  rcases hfind : j.find? key with _ | member <;> rw [hfind] at h
  · cases h
    rfl
  · simp only [Option.bind_some] at h ⊢
    rcases hnumber : member.number? with _ | n <;> rw [hnumber] at h
    · cases h
      exact Json.int64?_of_not_number hnumber
    · obtain ⟨v, hv, rfl⟩ := Option.map_eq_some_iff.mp h
      exact Json.int64?_of_getInt64 hnumber hv

theorem checkExp64_yields : Yields (checkExp64 j now skew) (checkExp j now skew) := by
  unfold checkExp64 checkExp
  refine Yields.read fun claim hclaim => ?_
  rw [readNumericClaim64_eq hclaim]
  cases claim with
  | absent => exact Yields.throw _
  | malformed => exact Yields.throw _
  | ok exp => exact refusePast_yields _

theorem checkNbf64_yields : Yields (checkNbf64 j now skew) (checkNbf j now skew) := by
  unfold checkNbf64 checkNbf
  refine Yields.read fun claim hclaim => ?_
  rw [readNumericClaim64_eq hclaim]
  cases claim with
  | absent => exact Yields.pure _
  | malformed => exact Yields.throw _
  | ok nbf => exact refuseAhead_yields _

theorem checkIdExp64_yields {exp : Option Int} : Yields (checkIdExp64 exp now skew)
    (match exp with
      | none => .error (idTokenRefused "id_token has no usable exp claim")
      | some exp =>
          if exp + skew < now then .error (idTokenRefused "id_token has expired") else .ok exp) := by
  cases exp with
  | none => exact Yields.throw _
  | some exp =>
    have hcheck : Yields _ (if exp + skew < now then _ else _) :=
      refusePast_yields (idTokenRefused "id_token has expired")
    have hpast := hcheck.bind (f := fun _ => Pure.pure exp) (g := fun _ => .ok exp)
      fun _ _ => Yields.pure exp
    split at hpast
    next h =>
      simp only [if_pos h]
      exact hpast
    next h =>
      simp only [if_neg h]
      exact hpast

theorem checkIdIat64_yields {iat : Option Int} : Yields (checkIdIat64 iat now skew)
    (match iat with
      | none => .error (idTokenRefused "id_token has no usable iat claim")
      | some iat =>
          if now + skew < iat then .error (idTokenRefused "id_token was issued in the future")
          else .ok iat) := by
  cases iat with
  | none => exact Yields.throw _
  | some iat =>
    have hcheck : Yields _ (if now + skew < iat then _ else _) :=
      refuseAhead_yields (idTokenRefused "id_token was issued in the future")
    have hissued := hcheck.bind (f := fun _ => Pure.pure iat) (g := fun _ => .ok iat)
      fun _ _ => Yields.pure iat
    split at hissued
    next h =>
      simp only [if_pos h]
      exact hissued
    next h =>
      simp only [if_neg h]
      exact hissued

theorem checkIdNbf64_yields : Yields (checkIdNbf64 j now skew)
    (if (Client.optInt j "nbf").elim (j.contains "nbf") (fun nbf => decide (now + skew < nbf)) then
      .error (idTokenRefused "id_token is not yet valid") else .ok ()) := by
  unfold checkIdNbf64
  by_cases hthere : j.contains "nbf" = true
  · rw [if_pos hthere]
    refine Yields.read fun nbf hnbf => ?_
    rw [machine_optInt_eq hnbf]
    cases nbf with
    | none =>
        rw [Option.elim_none, if_pos hthere]
        exact Yields.throw _
    | some nbf =>
        simp only [Option.elim_some, decide_eq_true_eq]
        exact refuseAhead_yields _
  · have hnone : Client.optInt j "nbf" = none := by
      by_contra hsome
      obtain ⟨nbf, hnbf⟩ := Option.ne_none_iff_exists'.mp hsome
      exact hthere (contains_of_optInt hnbf)
    rw [if_neg hthere, hnone, Option.elim_none, if_neg hthere]
    exact Yields.pure _

/-- The time rules of an ID token, check after check. -/
theorem checkTimes64_yields : Yields (checkTimes64 j now skew) (checkTimes j now skew) := by
  unfold checkTimes64
  refine Yields.read fun exp hexp => Yields.read fun iat hiat => ?_
  have hexpires : Yields (checkIdExp64 exp now skew) _ := checkIdExp64_yields
  have hissued : Yields (checkIdIat64 iat now skew) _ := checkIdIat64_yields
  have hbegun : Yields (checkIdNbf64 j now skew) _ := checkIdNbf64_yields
  have hchain := hexpires.bind fun a _ => hissued.bind fun b _ => hbegun.bind fun _ _ =>
    Yields.pure (a, b)
  intro r hrun
  rw [hchain r hrun]
  unfold checkTimes
  rw [machine_optInt_eq hexp, machine_optInt_eq hiat]
  rcases exp with _ | exp
  · rfl
  by_cases hlate : exp + skew < now
  · simp only [if_pos hlate]
    rfl
  simp only [if_neg hlate]
  rcases iat with _ | iat
  · rfl
  by_cases hfuture : now + skew < iat
  · simp only [if_pos hfuture]
    rfl
  simp only [if_neg hfuture]
  rcases Client.optInt j "nbf" with _ | nbf
  · rcases j.contains "nbf" <;> rfl
  · by_cases hearly : now + skew < nbf
    · simp only [Option.elim_some, decide_eq_true hearly]
      rfl
    · simp only [Option.elim_some, decide_eq_false hearly]
      rfl

/-- The checks of the authenticator and of the relying party have the machine's outcome wherever
that one is defined. -/
theorem time_checks_refine (j : Json) (now skew : Int) :
    Yields (checkExp64 j now skew) (checkExp j now skew) ∧
      Yields (checkNbf64 j now skew) (checkNbf j now skew) ∧
      Yields (checkTimes64 j now skew) (checkTimes j now skew) :=
  ⟨checkExp64_yields, checkNbf64_yields, checkTimes64_yields⟩

end

end Axiam.Auth
