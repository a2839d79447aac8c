import Axiam.Client.Login
import Axiam.Opaque.Exchange

/-!
# The costs a server names

From the members of a start response (`json_cost`, `read_ksf`) to the constructor of the native
library (`build_ksf`).  On the way a cost of up to 64 bits becomes a C++ `unsigned`, and it is this
one that is compared with its band.
-/

namespace Axiam.Opaque

open Axiam.Lib Axiam.Lib.Prog

/-- The parameters `read_ksf` hands to an exchange. -/
def paramsOf (params : Client.OpaqueKsfParams) : OpaqueKsfParams where
  ksf := params.ksf
  memoryKib := params.memoryKib
  iterations := params.iterations
  parallelism := params.parallelism
  logN := params.logN
  r := params.r
  p := params.p

/-- A call that builds a key-stretching handle. -/
def NativeCall.buildsKsf : NativeCall → Bool
  | .ksfArgon2id _ _ _ | .ksfScrypt _ _ _ => true
  | _ => false

/-- The cost a response names, as the number it is. -/
def namedCost (j : Json) (name : Str) : Option Nat :=
  match j.find? name with
  | some (.integer (.ofNat n)) => some n
  | _ => none

def Band.holds (band : Band) (n : Nat) : Prop := band.lo ≤ n ∧ n ≤ band.hi

instance (band : Band) (n : Nat) : Decidable (band.holds n) := inferInstanceAs (Decidable (_ ∧ _))

/-- Three costs, each there and inside its band. -/
def banded (a b c : Band) (x y z : Option Nat) : Option (Nat × Nat × Nat) := do
  let x ← x.filter fun n => a.holds n
  let y ← y.filter fun n => b.holds n
  let z ← z.filter fun n => c.holds n
  some (x, y, z)

/-- The constructor call that costs come to, for the function named. -/
def constructorOf (ksf : Str) (cost : Str → Option Nat) : Option NativeCall :=
  if ksf = str "argon2id" then
    (banded kMemoryKib kIterations kParallelism (cost "memory_kib") (cost "iterations")
      (cost "parallelism")).map fun v => .ksfArgon2id v.1 v.2.1 v.2.2
  else if ksf = str "scrypt" then
    (banded kLogN kR kP (cost "log_n") (cost "r") (cost "p")).map fun v =>
      .ksfScrypt v.1 v.2.1 v.2.2
  else none

/-- The costs the named function takes, and their bands. -/
def costsOf (ksf : Str) : List (Str × Band) :=
  if ksf = str "argon2id" then
    [(str "memory_kib", kMemoryKib), (str "iterations", kIterations),
      (str "parallelism", kParallelism)]
  else if ksf = str "scrypt" then [(str "log_n", kLogN), (str "r", kR), (str "p", kP)]
  else []

/-- What a response is to come to: the constructor is called with the costs as they are named, once
and inside their bands, or not at all. -/
structure Bounded (j : Json) (before : World) (out : Except Exc Str × World) : Prop where
  calls : ∃ new, out.2.calls = before.calls ++ new ∧
    new.filter NativeCall.buildsKsf = (constructorOf (Client.jsonStr j "ksf") (namedCost j)).toList
  refused : constructorOf (Client.jsonStr j "ksf") (namedCost j) = none → ∃ e, out.1 = .error e

/-- Narrowed to 32 bits the costs are what they were, or one of them is missing or out of its
band. -/
def Narrowable (j : Json) : Prop :=
  (∀ cost ∈ costsOf (Client.jsonStr j "ksf"), ∀ n, namedCost j cost.1 = some n → n < 2 ^ 32) ∨
    ∃ cost ∈ costsOf (Client.jsonStr j "ksf"), ∀ n, namedCost j cost.1 = some n →
      ¬cost.2.holds (n % 2 ^ 32)

section

/-! ## Narrowing -/

theorem jsonCost_eq (j : Json) (name : Str) :
    Client.jsonCost j name = (namedCost j name).map (· % 2 ^ 32) := by
  unfold Client.jsonCost namedCost
  cases j.find? name with
  | none => rfl
  | some member =>
      cases member with
      | integer i => cases i <;> rfl
      | _ => rfl

theorem banded_eq_none_iff {a b c : Band} {x y z : Option Nat} : banded a b c x y z = none ↔
    (∀ n, x = some n → ¬a.holds n) ∨ (∀ n, y = some n → ¬b.holds n) ∨
      ∀ n, z = some n → ¬c.holds n := by
  have hfilter : ∀ (band : Band) (v : Option Nat), (v.filter fun n => band.holds n) = none ↔
      ∀ n, v = some n → ¬band.holds n := by
    intro band v
    rw [Option.filter_eq_none_iff]
    simp
  rw [← hfilter a x, ← hfilter b y, ← hfilter c z]
  unfold banded
  cases x.filter fun n => a.holds n with
  | none => simp
  | some x =>
      cases y.filter fun n => b.holds n with
      | none => simp
      | some y => cases z.filter fun n => c.holds n <;> simp

theorem banded_eq_some {a b c : Band} {x y z : Option Nat} {v : Nat × Nat × Nat}
    (h : banded a b c x y z = some v) : x = some v.1 ∧ a.holds v.1 ∧ y = some v.2.1 ∧
      b.holds v.2.1 ∧ z = some v.2.2 ∧ c.holds v.2.2 := by
  unfold banded at h
  simp only [Option.bind_eq_bind, Option.bind_eq_some_iff, Option.filter_eq_some_iff,
    decide_eq_true_eq] at h
  obtain ⟨x', ⟨hx, ha⟩, y', ⟨hy, hb⟩, z', ⟨hz, hc⟩, heq⟩ := h
  cases heq
  exact ⟨hx, ha, hy, hb, hz, hc⟩

/-- Narrowing three costs makes no difference exactly when it leaves them alone, or what it makes of
one is refused. -/
theorem banded_narrow_iff {a b c : Band} (ha : a.hi < 2 ^ 32) (hb : b.hi < 2 ^ 32)
    (hc : c.hi < 2 ^ 32) (x y z : Option Nat) :
    banded a b c (x.map (· % 2 ^ 32)) (y.map (· % 2 ^ 32)) (z.map (· % 2 ^ 32)) =
        banded a b c x y z ↔
      ((∀ n, x = some n → n < 2 ^ 32) ∧ (∀ n, y = some n → n < 2 ^ 32) ∧
          ∀ n, z = some n → n < 2 ^ 32) ∨
        (∀ n, x = some n → ¬a.holds (n % 2 ^ 32)) ∨ (∀ n, y = some n → ¬b.holds (n % 2 ^ 32)) ∨
          ∀ n, z = some n → ¬c.holds (n % 2 ^ 32) := by
  have hmap : ∀ (band : Band) (v : Option Nat),
      (∀ n, v.map (· % 2 ^ 32) = some n → ¬band.holds n) ↔
        ∀ n, v = some n → ¬band.holds (n % 2 ^ 32) := by
    intro band v
    cases v <;> simp
  have hsmall : ∀ {v : Option Nat}, (∀ n, v = some n → n < 2 ^ 32) → v.map (· % 2 ^ 32) = v := by
    intro v hv
    cases v with
    | none => rfl
    | some n => exact congrArg some (Nat.mod_eq_of_lt (hv n rfl))
  -- a cost inside its band is left alone
  have hkept : ∀ {band : Band} {v : Option Nat}, band.hi < 2 ^ 32 →
      (∀ n, v = some n → ¬band.holds (n % 2 ^ 32)) → ∀ n, v = some n → ¬band.holds n := by
    intro band v hband hv n hn hholds
    apply hv n hn
    rwa [Nat.mod_eq_of_lt (Nat.lt_of_le_of_lt hholds.2 hband)]
  rw [← hmap a x, ← hmap b y, ← hmap c z, ← banded_eq_none_iff]
  constructor
  · intro heq
    cases hnamed : banded a b c x y z with
    | none => exact .inr (heq.trans hnamed)
    | some v =>
        obtain ⟨rfl, hx, rfl, hy, rfl, hz⟩ := banded_eq_some hnamed
        refine .inl ⟨?_, ?_, ?_⟩
        · rintro n ⟨⟩
          exact Nat.lt_of_le_of_lt hx.2 ha
        · rintro n ⟨⟩
          exact Nat.lt_of_le_of_lt hy.2 hb
        · rintro n ⟨⟩
          exact Nat.lt_of_le_of_lt hz.2 hc
  · rintro (⟨hx, hy, hz⟩ | hnone)
    · rw [hsmall hx, hsmall hy, hsmall hz]
    · rw [hnone]
      symm
      rw [banded_eq_none_iff, hmap, hmap, hmap] at hnone
      rw [banded_eq_none_iff]
      rcases hnone with h | h | h
      · exact .inl (hkept ha h)
      · exact .inr (.inl (hkept hb h))
      · exact .inr (.inr (hkept hc h))

theorem buildsKsf_of_constructorOf {ksf : Str} {cost : Str → Option Nat} {c : NativeCall}
    (h : constructorOf ksf cost = some c) : c.buildsKsf = true := by
  unfold constructorOf at h
  split at h
  · obtain ⟨v, -, rfl⟩ := Option.map_eq_some_iff.mp h
    rfl
  · split at h
    · obtain ⟨v, -, rfl⟩ := Option.map_eq_some_iff.mp h
      rfl
    · cases h

/-- So a response's constructor call survives the narrowing exactly where the response is
narrowable. -/
theorem constructorOf_narrowed_iff (j : Json) :
    constructorOf (Client.jsonStr j "ksf") (Client.jsonCost j) =
        constructorOf (Client.jsonStr j "ksf") (namedCost j) ↔ Narrowable j := by
  have hmap : ∀ {f : Nat × Nat × Nat → NativeCall}, Function.Injective f →
      ∀ o o' : Option (Nat × Nat × Nat), o.map f = o'.map f ↔ o = o' := by
    intro f hf o o'
    exact (Option.map_injective hf).eq_iff
  unfold constructorOf Narrowable costsOf
  simp only [jsonCost_eq]
  by_cases hargon : Client.jsonStr j "ksf" = str "argon2id"
  · simp only [if_pos hargon]
    rw [hmap (by rintro ⟨a, b, c⟩ ⟨a', b', c'⟩ h; simpa using h),
      banded_narrow_iff (by decide) (by decide) (by decide)]
    simp
  · simp only [if_neg hargon]
    by_cases hscrypt : Client.jsonStr j "ksf" = str "scrypt"
    · simp only [if_pos hscrypt]
      rw [hmap (by rintro ⟨a, b, c⟩ ⟨a', b', c'⟩ h; simpa using h),
        banded_narrow_iff (by decide) (by decide) (by decide)]
      simp
    · simp [if_neg hscrypt]

end

section

/-! ## The exchange -/

variable (lib : Native)

theorem requireCost_eq (ksfName field : Str) (value : Option Nat) (band : Band) :
    (∃ n, value.filter (fun n => band.holds n) = some n ∧
        requireCost ksfName field value band = .ok n) ∨
      value.filter (fun n => band.holds n) = none ∧
        ∃ e, requireCost ksfName field value band = .error e := by
  unfold requireCost
  cases value with
  | none => exact .inr ⟨rfl, _, rfl⟩
  | some n =>
      by_cases h : band.holds n
      · have hnot : ¬(n < band.lo ∨ band.hi < n) := by
          rw [not_or, Nat.not_lt, Nat.not_lt]
          exact h
        exact .inl ⟨n, by simp [h], by simp only [if_neg hnot]⟩
      · have hout : n < band.lo ∨ band.hi < n := by
          by_contra hin
          rw [not_or, Nat.not_lt, Nat.not_lt] at hin
          exact h hin
        exact .inr ⟨by simp [h], _, by simp only [if_pos hout]; rfl⟩

/-- Three costs required one after the other. -/
theorem requireCosts_run {k : Nat → Nat → Nat → Prog World Exc Nat} (ksfName f g h : Str)
    (a b c : Band) (x y z : Option Nat) (w : World) :
    (∃ v, banded a b c x y z = some v ∧
      (do let x ← Prog.lift (requireCost ksfName f x a)
          let y ← Prog.lift (requireCost ksfName g y b)
          let z ← Prog.lift (requireCost ksfName h z c)
          k x y z : Prog World Exc Nat) w = k v.1 v.2.1 v.2.2 w) ∨
    banded a b c x y z = none ∧ ∃ e,
      (do let x ← Prog.lift (requireCost ksfName f x a)
          let y ← Prog.lift (requireCost ksfName g y b)
          let z ← Prog.lift (requireCost ksfName h z c)
          k x y z : Prog World Exc Nat) w = (.error e, w) := by
  unfold banded
  rcases requireCost_eq ksfName f x a with ⟨x', hx, hok⟩ | ⟨hx, e, herror⟩
  swap
  · rw [hx, herror]
    exact .inr ⟨rfl, e, rfl⟩
  rw [hx, hok]
  rcases requireCost_eq ksfName g y b with ⟨y', hy, hok⟩ | ⟨hy, e, herror⟩
  swap
  · rw [hy, herror]
    exact .inr ⟨rfl, e, rfl⟩
  rw [hy, hok]
  rcases requireCost_eq ksfName h z c with ⟨z', hz, hok⟩ | ⟨hz, e, herror⟩
  swap
  · rw [hz, herror]
    exact .inr ⟨rfl, e, rfl⟩
  rw [hz, hok]
  exact .inl ⟨(x', y', z'), rfl, rfl⟩

/-- The library is called once for a handle. -/
theorem obtainKsf_calls (c : NativeCall) (w : World) :
    (obtainKsf lib c w).2.calls = w.calls ++ [c] := by
  unfold obtainKsf call lastErrorOr
  simp only [bind_run, modify_run, read_run]
  by_cases h : lib.ksf (w.calls ++ [c]) = true
  · simp [h, bind_run]
  · simp [h, bind_run]

/-- `build_ksf` calls the constructor for the costs it was given, or throws. -/
theorem buildKsf_calls (params : OpaqueKsfParams) (cost : Str → Option Nat)
    (hm : params.memoryKib = cost "memory_kib") (hi : params.iterations = cost "iterations")
    (hpar : params.parallelism = cost "parallelism") (hn : params.logN = cost "log_n")
    (hr : params.r = cost "r") (hp : params.p = cost "p") (w : World) :
    (buildKsf lib params w).2.calls = w.calls ++ (constructorOf params.ksf cost).toList ∧
      (constructorOf params.ksf cost = none → ∃ e, (buildKsf lib params w).1 = .error e) := by
  unfold buildKsf constructorOf
  rw [← hm, ← hi, ← hpar, ← hn, ← hr, ← hp]
  by_cases hargon : params.ksf = str "argon2id"
  · rw [if_pos hargon, if_pos hargon]
    rcases requireCosts_run (k := fun x y z => obtainKsf lib (.ksfArgon2id x y z)) params.ksf
        "memory_kib" "iterations" "parallelism" kMemoryKib kIterations kParallelism
        params.memoryKib params.iterations params.parallelism w with ⟨v, hv, hrun⟩ | ⟨hv, e, hrun⟩
    · rw [hv, hrun]
      exact ⟨obtainKsf_calls lib _ w, fun h => by cases h⟩
    · rw [hv, hrun]
      exact ⟨(List.append_nil _).symm, fun _ => ⟨e, rfl⟩⟩
  · rw [if_neg hargon, if_neg hargon]
    by_cases hscrypt : params.ksf = str "scrypt"
    · rw [if_pos hscrypt, if_pos hscrypt]
      rcases requireCosts_run (k := fun x y z => obtainKsf lib (.ksfScrypt x y z)) params.ksf
          "log_n" "r" "p" kLogN kR kP params.logN params.r params.p w
        with ⟨v, hv, hrun⟩ | ⟨hv, e, hrun⟩
      · rw [hv, hrun]
        exact ⟨obtainKsf_calls lib _ w, fun h => by cases h⟩
      · rw [hv, hrun]
        exact ⟨(List.append_nil _).symm, fun _ => ⟨e, rfl⟩⟩
    · rw [if_neg hscrypt, if_neg hscrypt]
      exact ⟨(List.append_nil _).symm, fun _ => ⟨_, rfl⟩⟩

theorem complete_calls (kind : Kind) (state : Nat) (password response : Str) (ksf : Nat)
    (w : World) : (complete lib kind state password response ksf w).2.calls =
      w.calls ++ [.finish kind state password response ksf] := by
  unfold complete call lastErrorOr
  simp only [bind_run, modify_run, read_run]
  cases lib.finish (w.calls ++ [.finish kind state password response ksf]) with
  | some message => rfl
  | none => cases kind <;> rfl

/-- `finish` calls a constructor where `build_ksf` does, and where that throws so does `finish`. -/
theorem finish_calls (o : Nat) (e : Exchange) (password response : Str) (params : OpaqueKsfParams)
    (w : World) : (∃ new, (finish lib o e password response params w).2.calls =
        (buildKsf lib params w).2.calls ++ new ∧ new.filter NativeCall.buildsKsf = []) ∧
      ∀ x, (buildKsf lib params w).1 = .error x →
        (finish lib o e password response params w).1 = .error x := by
  unfold finish
  rcases hbuild : buildKsf lib params w with ⟨x | ksf, u⟩
  · rw [bind_run_error hbuild]
    refine ⟨⟨[], (List.append_nil _).symm, rfl⟩, fun _ h => ?_⟩
    cases h
    rfl
  · rw [bind_run_ok hbuild]
    refine ⟨?_, fun _ h => by cases h⟩
    unfold withKsf consume
    cases e.state with
    | none => exact ⟨[.ksfFree ksf], rfl, rfl⟩
    | some state =>
        refine ⟨[.finish e.kind state password response ksf, .ksfFree ksf], ?_, rfl⟩
        simp only [bind_run, modify_run, pure_run, complete_calls, List.append_assoc,
          List.singleton_append]

end

/-- The costs a start response names reach the constructor as they are named, within their bands, or
the response is refused: exactly when narrowing them to 32 bits makes no difference. -/
theorem costs_bounded_iff (lib : Native) (j : Json) (o : Nat) (e : Exchange)
    (password response : Str) (w : World) :
    Bounded j w (finish lib o e password response (paramsOf (Client.readKsf j)) w) ↔
      Narrowable j := by
  rw [← constructorOf_narrowed_iff]
  obtain ⟨hbuild, hrefused⟩ := buildKsf_calls lib (paramsOf (Client.readKsf j))
    (Client.jsonCost j) rfl rfl rfl rfl rfl rfl w
  obtain ⟨⟨new, hcalls, hnew⟩, hthrown⟩ :=
    finish_calls lib o e password response (paramsOf (Client.readKsf j)) w
  have hksf : (paramsOf (Client.readKsf j)).ksf = Client.jsonStr j "ksf" := rfl
  rw [hksf] at hbuild hrefused
  have hbuilds : ∀ c ∈ (constructorOf (Client.jsonStr j "ksf") (Client.jsonCost j)).toList,
      c.buildsKsf = true := by
    intro c hc
    exact buildsKsf_of_constructorOf (Option.mem_toList.mp hc)
  have hfilter : ((constructorOf (Client.jsonStr j "ksf") (Client.jsonCost j)).toList ++
      new).filter NativeCall.buildsKsf =
        (constructorOf (Client.jsonStr j "ksf") (Client.jsonCost j)).toList := by
    rw [List.filter_append, hnew, List.append_nil, List.filter_eq_self.mpr hbuilds]
  rw [hbuild, List.append_assoc] at hcalls
  constructor
  · rintro ⟨⟨new', hcalls', hnew'⟩, -⟩
    rw [hcalls] at hcalls'
    rw [← List.append_cancel_left hcalls', hfilter] at hnew'
    have hinj : ∀ a b : Option NativeCall, a.toList = b.toList → a = b := by
      intro a b h
      cases a <;> cases b <;> simp_all
    exact hinj _ _ hnew'
  · intro heq
    refine ⟨⟨_, hcalls, by rw [hfilter, heq]⟩, fun hnone => ?_⟩
    obtain ⟨x, hx⟩ := hrefused (heq.trans hnone)
    exact ⟨x, hthrown x hx⟩

/-- A memory cost of `2 ^ 32 + 65536` KiB. -/
def wrappedCost : Json :=
  .object [("iterations", .integer 3), ("ksf", .string "argon2id"),
    ("memory_kib", .integer 4295032832), ("parallelism", .integer 4)]

/-- It is far out of its band, and the constructor is called with `65536`. -/
theorem wrapped_cost_accepted :
    ¬∀ (lib : Native) (j : Json) (o : Nat) (e : Exchange) (password response : Str) (w : World),
      Bounded j w (finish lib o e password response (paramsOf (Client.readKsf j)) w) := by
  intro hclaim
  let lib : Native := ⟨true, fun _ => [], fun _ => true, fun _ => none, fun _ => none⟩
  obtain ⟨⟨new, hcalls, hnew⟩, -⟩ :=
    hclaim lib wrappedCost 0 ⟨.login, none, [], true⟩ "password" "ke2" {}
  have hcalled : (finish lib 0 ⟨.login, none, [], true⟩ "password" "ke2"
      (paramsOf (Client.readKsf wrappedCost)) {}).2.calls =
        [.ksfArgon2id 65536 3 4, .ksfFree 0] := by
    decide
  rw [hcalled] at hcalls
  rw [← show [NativeCall.ksfArgon2id 65536 3 4, .ksfFree 0] = new from hcalls] at hnew
  exact absurd hnew (by decide)

end Axiam.Opaque
