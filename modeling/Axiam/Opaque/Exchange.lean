import Axiam.Core.Error
import Axiam.Lib.Prog
import Axiam.Lib.Run
import Mathlib.Logic.Function.Basic

/-!
# OPAQUE exchanges

The objects of `src/opaque.cpp` that own something of the native library: an `Exchange` a state, a
`KsfHandle` a key-stretching handle.  States and handles are numbered in the order in which the
library hands them out, so a number stands for one of them, not for an address.  What the library
answers may depend on everything it was called with before.
-/

namespace Axiam.Opaque

open Axiam.Lib

/-- `RegistrationExchange` or `LoginExchange`. -/
inductive Kind where
  | registration | login
  deriving DecidableEq

/-- A call of the library that obtains, uses or ends something. -/
inductive NativeCall where
  | ksfArgon2id (memoryKib iterations parallelism : Nat)
  | ksfScrypt (logN r p : Nat)
  | ksfFree (ksf : Nat)
  | start (kind : Kind) (password : Str)
  | finish (kind : Kind) (state : Nat) (password response : Str) (ksf : Nat)
  | free (kind : Kind) (state : Nat)
  deriving DecidableEq

/-- The library: what it answers to the last call of a log. -/
structure Native where
  /-- The artifact was found. -/
  loaded : Bool
  lastError : List NativeCall → Str
  /-- Whether a handle is built. -/
  ksf : List NativeCall → Bool
  /-- The first message, beside a new state. -/
  start : List NativeCall → Option Str
  finish : List NativeCall → Option Str

/-- `OpaqueKsfParams`. -/
structure OpaqueKsfParams where
  ksf : Str
  memoryKib : Option Nat := none
  iterations : Option Nat := none
  parallelism : Option Nat := none
  logN : Option Nat := none
  r : Option Nat := none
  p : Option Nat := none

structure Exchange where
  /-- The class of the object, which a move does not change. -/
  kind : Kind
  state : Option Nat
  firstMessage : Str
  isLogin : Bool

/-- The objects alive, and what the library was called with. -/
structure World where
  calls : List NativeCall := []
  /-- The states handed out so far, and the key-stretching handles. -/
  states : Nat := 0
  ksfs : Nat := 0
  exchanges : Nat → Option Exchange := fun _ => none
  /-- The `KsfHandle`s a caller has, each with the handle in it. -/
  handles : Nat → Option (Option Nat) := fun _ => none

def call (c : NativeCall) : Prog World Exc Unit :=
  Prog.modify fun w => { w with calls := w.calls ++ [c] }

/-! ## Key stretching -/

structure Band where
  lo : Nat
  hi : Nat

def kMemoryKib : Band := ⟨8192, 1048576⟩
def kIterations : Band := ⟨1, 10⟩
def kParallelism : Band := ⟨1, 16⟩
def kLogN : Band := ⟨14, 20⟩
def kR : Band := ⟨1, 16⟩
def kP : Band := ⟨1, 16⟩

/-- `require_cost`: present, and inside its band. -/
def requireCost (ksfName field : Str) (value : Option Nat) (band : Band) : Except Exc Nat :=
  match value with
  | none =>
      .error (.network (str "OPAQUE: the server named ksf `" ++ ksfName ++ str "` without `" ++
        field ++ str "`") "opaque_ksf_incomplete")
  | some value =>
      if value < band.lo ∨ band.hi < value then
        .error (.network (str "OPAQUE: the server named " ++ field ++ str "=" ++ toStr value ++
          str " for `" ++ ksfName ++ str "`, outside the accepted " ++ toStr band.lo ++ str ".." ++
          toStr band.hi) "opaque_ksf_out_of_range")
      else .ok value

section

variable (lib : Native)

/-- `last_error_or`. -/
def lastErrorOr (fallback : Str) : Prog World Exc Str := do
  let w ← Prog.read
  pure (if lib.lastError w.calls = [] then fallback else lib.lastError w.calls)

/-- The library's handle, or its refusal. -/
def obtainKsf (c : NativeCall) : Prog World Exc Nat := do
  call c
  let w ← Prog.read
  if lib.ksf w.calls then
    Prog.modify fun w => { w with ksfs := w.ksfs + 1 }
    pure w.ksfs
  else
    let message ← lastErrorOr lib "invalid KSF parameters"
    throw (.network (str "OPAQUE: " ++ message) "opaque_ksf_rejected")

/-- `build_ksf`: a function the SDK does not know is refused, never substituted. -/
def buildKsf (params : OpaqueKsfParams) : Prog World Exc Nat :=
  if params.ksf = str "argon2id" then do
    let memoryKib ← Prog.lift (requireCost params.ksf "memory_kib" params.memoryKib kMemoryKib)
    let iterations ← Prog.lift (requireCost params.ksf "iterations" params.iterations kIterations)
    let parallelism ←
      Prog.lift (requireCost params.ksf "parallelism" params.parallelism kParallelism)
    obtainKsf lib (.ksfArgon2id memoryKib iterations parallelism)
  else if params.ksf = str "scrypt" then do
    let logN ← Prog.lift (requireCost params.ksf "log_n" params.logN kLogN)
    let r ← Prog.lift (requireCost params.ksf "r" params.r kR)
    let p ← Prog.lift (requireCost params.ksf "p" params.p kP)
    obtainKsf lib (.ksfScrypt logN r p)
  else
    throw (.network (str "OPAQUE: this SDK cannot perform the key-stretching function the server " ++
      str "named (`" ++ params.ksf ++ str "`)") "opaque_unsupported_ksf")

/-! ## Exchanges -/

/-- `start_registration` and `start_login`: the object `target`, with the state in it. -/
def start (kind : Kind) (password : Str) (target : Nat) : Prog World Exc Unit := do
  unless lib.loaded do
    throw (.network (str "OPAQUE is not available: the shared library `libaxiam_opaque_ffi` could " ++
      str "not be loaded. Download the asset for your platform, then put it on the system " ++
      str "library path or set AXIAM_OPAQUE_LIBRARY to its full path.") "opaque_library_missing")
  call (.start kind password)
  let w ← Prog.read
  match lib.start w.calls with
  | none =>
      match kind with
      | .registration =>
          let message ← lastErrorOr lib "registration could not be started"
          throw (.network (str "OPAQUE: " ++ message) "opaque_registration_start_failed")
      | .login =>
          let message ← lastErrorOr lib "login could not be started"
          throw (.network (str "OPAQUE: " ++ message) "opaque_login_start_failed")
  | some message =>
      Prog.modify fun w => { w with
        states := w.states + 1
        exchanges := Function.update w.exchanges target
          (some ⟨kind, some w.states, message, kind = .login⟩) }

/-- `consume`: the state out of its slot. -/
def consume (o : Nat) (e : Exchange) : Prog World Exc Nat :=
  match e.state with
  | none =>
      throw (.network "OPAQUE: this exchange has already been completed" "opaque_exchange_spent")
  | some state => do
      Prog.modify fun w => { w with
        exchanges := Function.update w.exchanges o (some { e with state := none }) }
      pure state

/-- A scope with a `KsfHandle` in it: whichever way it is left, the handle is released. -/
def withKsf {α : Type} (ksf : Nat) (body : Prog World Exc α) : Prog World Exc α := fun w =>
  ((body w).1, { (body w).2 with calls := (body w).2.calls ++ [.ksfFree ksf] })

/-- The library's `registration_finish` or `login_finish`, and what its refusal is reported as: of a
login, as invalid credentials. -/
def complete (kind : Kind) (state : Nat) (password response : Str) (ksf : Nat) :
    Prog World Exc Str := do
  call (.finish kind state password response ksf)
  let w ← Prog.read
  match lib.finish w.calls with
  | some message => pure message
  | none =>
      match kind with
      | .registration =>
          let message ← lastErrorOr lib "the envelope could not be sealed"
          throw (.network (str "OPAQUE: " ++ message) "opaque_registration_failed")
      | .login =>
          let message ← lastErrorOr lib "the OPAQUE envelope did not open"
          throw (.auth (str "OPAQUE: invalid credentials: " ++ message))

/-- `RegistrationExchange::finish` and `LoginExchange::finish` of the object `o`: the handle is
built before the state is spent. -/
def finish (o : Nat) (e : Exchange) (password response : Str) (params : OpaqueKsfParams) :
    Prog World Exc Str := do
  let ksf ← buildKsf lib params
  withKsf ksf do
    let state ← consume o e
    complete lib e.kind state password response ksf

end

/-- What `close` calls the library with. -/
def Exchange.release (e : Exchange) : List NativeCall :=
  match e.state with
  | none => []
  | some state => [.free (if e.isLogin then .login else .registration) state]

/-- A closed exchange, and one that was moved from. -/
def Exchange.spent (e : Exchange) : Exchange := { e with state := none, firstMessage := [] }

namespace World

/-- `Exchange::close`. -/
def close (w : World) (o : Nat) (e : Exchange) : World :=
  { w with
    calls := w.calls ++ e.release
    exchanges := Function.update w.exchanges o (some e.spent) }

/-- The destructor: `close`, and the object is gone. -/
def destroy (w : World) (o : Nat) (e : Exchange) : World :=
  { w.close o e with exchanges := Function.update (w.close o e).exchanges o none }

/-- The move constructor: what `source` holds goes into a new object. -/
def moveConstruct (w : World) (source target : Nat) (e : Exchange) : World :=
  { w with
    exchanges :=
      Function.update (Function.update w.exchanges target (some e)) source (some e.spent) }

/-- The move assignment of `e`, which `source` is, onto `target`, which is `t`. -/
def moveAssign (w : World) (source target : Nat) (e t : Exchange) : World :=
  if source = target then w
  else
    { w.close target t with
      exchanges := Function.update
        (Function.update (w.close target t).exchanges target (some { e with kind := t.kind }))
        source (some e.spent) }

/-- What the destructor of a `KsfHandle` calls the library with. -/
def releaseKsf : Option Nat → List NativeCall
  | none => []
  | some ksf => [.ksfFree ksf]

/-- A new `KsfHandle` with the handle that was built. -/
def keepKsf (w : World) (target : Nat) : Except Exc Nat → World
  | .ok ksf => { w with handles := Function.update w.handles target (some (some ksf)) }
  | .error _ => w

def destroyKsf (w : World) (o : Nat) (h : Option Nat) : World :=
  { w with
    calls := w.calls ++ releaseKsf h
    handles := Function.update w.handles o none }

def moveKsf (w : World) (source target : Nat) (h : Option Nat) : World :=
  { w with
    handles := Function.update (Function.update w.handles target (some h)) source (some none) }

def assignKsf (w : World) (source target : Nat) (h old : Option Nat) : World :=
  if source = target then w
  else
    { w with
      calls := w.calls ++ releaseKsf old
      handles := Function.update (Function.update w.handles target (some h)) source (some none) }

end World

/-! ## Runs -/

/-- Something a program does with exchanges and handles, which it names by numbers. -/
inductive Op where
  | start (kind : Kind) (password : Str) (target : Nat)
  | moveConstruct (source target : Nat)
  | moveAssign (source target : Nat)
  | finish (o : Nat) (password response : Str) (params : OpaqueKsfParams)
  | close (o : Nat)
  | destroy (o : Nat)
  | buildKsf (params : OpaqueKsfParams) (target : Nat)
  | moveKsf (source target : Nat)
  | assignKsf (source target : Nat)
  | destroyKsf (o : Nat)

/-- One operation on the objects that are there, and what came of it. -/
inductive Steps (lib : Native) : World → Op × Except Exc (Option Str) → World → Prop
  | start {w v : World} {kind : Kind} {password : Str} {target : Nat} {x : Except Exc Unit} :
      w.exchanges target = none → start lib kind password target w = (x, v) →
      Steps lib w (.start kind password target, x.map fun _ => none) v
  | moveConstruct {w : World} {source target : Nat} {e : Exchange} :
      w.exchanges source = some e → w.exchanges target = none →
      Steps lib w (.moveConstruct source target, .ok none) (w.moveConstruct source target e)
  | moveAssign {w : World} {source target : Nat} {e t : Exchange} :
      w.exchanges source = some e → w.exchanges target = some t →
      Steps lib w (.moveAssign source target, .ok none) (w.moveAssign source target e t)
  | finish {w v : World} {o : Nat} {e : Exchange} {password response : Str}
      {params : OpaqueKsfParams} {x : Except Exc Str} :
      w.exchanges o = some e → finish lib o e password response params w = (x, v) →
      Steps lib w (.finish o password response params, x.map some) v
  | close {w : World} {o : Nat} {e : Exchange} :
      w.exchanges o = some e → Steps lib w (.close o, .ok none) (w.close o e)
  | destroy {w : World} {o : Nat} {e : Exchange} :
      w.exchanges o = some e → Steps lib w (.destroy o, .ok none) (w.destroy o e)
  | buildKsf {w v : World} {params : OpaqueKsfParams} {target : Nat} {x : Except Exc Nat} :
      w.handles target = none → buildKsf lib params w = (x, v) →
      Steps lib w (.buildKsf params target, x.map fun _ => none) (v.keepKsf target x)
  | moveKsf {w : World} {source target : Nat} {h : Option Nat} :
      w.handles source = some h → w.handles target = none →
      Steps lib w (.moveKsf source target, .ok none) (w.moveKsf source target h)
  | assignKsf {w : World} {source target : Nat} {h old : Option Nat} :
      w.handles source = some h → w.handles target = some old →
      Steps lib w (.assignKsf source target, .ok none) (w.assignKsf source target h old)
  | destroyKsf {w : World} {o : Nat} {h : Option Nat} :
      w.handles o = some h → Steps lib w (.destroyKsf o, .ok none) (w.destroyKsf o h)

end Axiam.Opaque
