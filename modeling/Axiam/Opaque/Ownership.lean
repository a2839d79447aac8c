import Axiam.Lib.Ownership
import Axiam.Opaque.Exchange

/-!
# Who owns what

An exchange owns its state and a `KsfHandle` its handle, through any sequence of operations.  Every
state the library handed out is in one exchange, or it went into one `finish` or one `free`; every
key-stretching handle is in one `KsfHandle`, or it was freed once.
-/

namespace Axiam.Opaque

open Axiam.Lib

/-- The state a call ends. -/
def NativeCall.endsState : NativeCall → Option Nat
  | .finish _ state _ _ _ | .free _ state => some state
  | _ => none

/-- The key-stretching handle a call ends. -/
def NativeCall.endsKsf : NativeCall → Option Nat
  | .ksfFree ksf => some ksf
  | _ => none

namespace World

variable (w : World)

/-- The state an object has. -/
def stateSlots (o : Nat) : Option Nat := (w.exchanges o).bind Exchange.state

def ksfSlots (o : Nat) : Option Nat := (w.handles o).join

/-- How often a state went into a `finish`. -/
def finishes (state : Nat) : Nat :=
  w.calls.countP fun c => match c with
    | .finish _ s _ _ _ => s == state
    | _ => false

/-- How often a state was freed. -/
def frees (state : Nat) : Nat :=
  w.calls.countP fun c => match c with
    | .free _ s => s == state
    | _ => false

def ksfFrees (ksf : Nat) : Nat :=
  w.calls.countP fun c => match c with
    | .ksfFree k => k == ksf
    | _ => false

/-- Everything the library handed out has one owner, or ended once. -/
structure Sound : Prop where
  states : Owned w.stateSlots w.states (w.calls.filterMap NativeCall.endsState)
  ksfs : Owned w.ksfSlots w.ksfs (w.calls.filterMap NativeCall.endsKsf)

end World

/-! ## Counting -/

theorem count_endsState (w : World) (state : Nat) :
    (w.calls.filterMap NativeCall.endsState).count state = w.finishes state + w.frees state := by
  unfold World.finishes World.frees
  induction w.calls with
  | nil => rfl
  | cons c calls ih =>
      rw [List.countP_cons, List.countP_cons]
      cases c with
      | finish kind s password response ksf =>
          show (s :: calls.filterMap NativeCall.endsState).count state = _
          rw [List.count_cons, ih]
          simp only [Bool.false_eq_true, if_false]
          omega
      | free kind s =>
          show (s :: calls.filterMap NativeCall.endsState).count state = _
          rw [List.count_cons, ih]
          simp only [Bool.false_eq_true, if_false]
          omega
      | _ => exact ih

theorem count_endsKsf (w : World) (ksf : Nat) :
    (w.calls.filterMap NativeCall.endsKsf).count ksf = w.ksfFrees ksf := by
  unfold World.ksfFrees
  induction w.calls with
  | nil => rfl
  | cons c calls ih =>
      rw [List.countP_cons]
      cases c with
      | ksfFree k =>
          show (k :: calls.filterMap NativeCall.endsKsf).count ksf = _
          rw [List.count_cons, ih]
      | _ => exact ih

/-! ## What the operations come to -/

/-- Calls that end nothing. -/
def Quiet (calls : List NativeCall) : Prop :=
  calls.filterMap NativeCall.endsState = [] ∧ calls.filterMap NativeCall.endsKsf = []

/-- `build_ksf` refuses, or has a new handle built. -/
inductive Built (w : World) : Except Exc Nat × World → Prop
  | refused (e : Exc) {asked : List NativeCall} :
      Quiet asked → Built w (.error e, { w with calls := w.calls ++ asked })
  | obtained {asked : List NativeCall} :
      Quiet asked → Built w (.ok w.ksfs, { w with calls := w.calls ++ asked, ksfs := w.ksfs + 1 })

theorem obtainKsf_built (lib : Native) {c : NativeCall} (hc : Quiet [c]) (w : World) :
    Built w (obtainKsf lib c w) := by
  unfold obtainKsf
  rw [Prog.bind_run_ok (show call c w = (.ok (), { w with calls := w.calls ++ [c] }) from rfl),
    Prog.bind_run_ok (Prog.read_run _)]
  by_cases hbuilt : lib.ksf (w.calls ++ [c]) = true
  · simp only [hbuilt, if_true]
    exact .obtained hc
  · simp only [hbuilt, Bool.false_eq_true, if_false]
    exact .refused _ hc

/-- A cost is checked before the library is called. -/
theorem lift_built {w : World} {cost : Except Exc Nat} {next : Nat → Prog World Exc Nat}
    (hnext : ∀ n, Built w (next n w)) : Built w ((Prog.lift cost >>= next) w) := by
  cases cost with
  | ok n =>
      rw [Prog.bind_run_ok (Prog.lift_run _ _)]
      exact hnext n
  | error e =>
      rw [Prog.bind_run_error (Prog.lift_run _ _)]
      have hquiet : Built w (.error e, { w with calls := w.calls ++ [] }) := .refused e ⟨rfl, rfl⟩
      rwa [List.append_nil] at hquiet

theorem buildKsf_built (lib : Native) (params : OpaqueKsfParams) (w : World) :
    Built w (buildKsf lib params w) := by
  unfold buildKsf
  split
  · exact lift_built fun m => lift_built fun i => lift_built fun p =>
      obtainKsf_built lib ⟨rfl, rfl⟩ w
  · split
    · exact lift_built fun n => lift_built fun r => lift_built fun p =>
        obtainKsf_built lib ⟨rfl, rfl⟩ w
    · have hquiet : ∀ e, Built w (.error e, { w with calls := w.calls ++ [] }) :=
        fun e => .refused e ⟨rfl, rfl⟩
      simp only [List.append_nil] at hquiet
      exact hquiet _

/-- What `finish` does: nothing where the parameters are refused; it gives the handle back where the
exchange is spent; and else it hands the state over, once. -/
inductive Finished (lib : Native) (o : Nat) (e : Exchange) (params : OpaqueKsfParams) (w : World) :
    Except Exc Str × World → Prop
  | refused (exc : Exc) {asked : List NativeCall} :
      Quiet asked → (buildKsf lib params w).1 = .error exc →
      Finished lib o e params w (.error exc, { w with calls := w.calls ++ asked })
  | spent (exc : Exc) {asked : List NativeCall} :
      Quiet asked → (buildKsf lib params w).1 = .ok w.ksfs → e.state = none →
      Finished lib o e params w (.error exc,
        { w with calls := w.calls ++ asked ++ [.ksfFree w.ksfs], ksfs := w.ksfs + 1 })
  | consumed (x : Except Exc Str) (state : Nat) (password response : Str) {asked : List NativeCall} :
      Quiet asked → (buildKsf lib params w).1 = .ok w.ksfs → e.state = some state →
      Finished lib o e params w (x,
        { w with
          calls := w.calls ++ asked ++ [.finish e.kind state password response w.ksfs] ++
            [.ksfFree w.ksfs]
          ksfs := w.ksfs + 1
          exchanges := Function.update w.exchanges o (some { e with state := none }) })

theorem complete_run (lib : Native) (kind : Kind) (state : Nat) (password response : Str) (ksf : Nat)
    (w : World) : ∃ x, complete lib kind state password response ksf w =
      (x, { w with calls := w.calls ++ [.finish kind state password response ksf] }) := by
  unfold complete
  rw [Prog.bind_run_ok (show call (.finish kind state password response ksf) w =
      (.ok (), { w with calls := w.calls ++ [.finish kind state password response ksf] }) from rfl),
    Prog.bind_run_ok (Prog.read_run _)]
  cases lib.finish (w.calls ++ [.finish kind state password response ksf]) with
  | some message => exact ⟨.ok message, rfl⟩
  | none => cases kind <;> exact ⟨_, rfl⟩

theorem finish_finished (lib : Native) (o : Nat) (e : Exchange) (password response : Str)
    (params : OpaqueKsfParams) (w : World) :
    Finished lib o e params w (finish lib o e password response params w) := by
  unfold finish
  rcases hbuild : buildKsf lib params w with ⟨x, v⟩
  have hbuilt := buildKsf_built lib params w
  rw [hbuild] at hbuilt
  cases hbuilt with
  | refused exc hquiet =>
      rw [Prog.bind_run_error hbuild]
      exact .refused exc hquiet (by rw [hbuild])
  | obtained hquiet =>
      rw [Prog.bind_run_ok hbuild]
      unfold withKsf
      cases hstate : e.state with
      | none =>
          have hconsume : ∀ v, consume o e v = (.error (.network
              "OPAQUE: this exchange has already been completed" "opaque_exchange_spent"), v) := by
            intro v
            unfold consume
            rw [hstate]
            rfl
          simp only [Prog.bind_run_error (hconsume _)]
          exact .spent _ hquiet (by rw [hbuild]) hstate
      | some state =>
          have hconsume : ∀ v : World, consume o e v = (.ok state, { v with
              exchanges := Function.update v.exchanges o (some { e with state := none }) }) := by
            intro v
            unfold consume
            rw [hstate]
            rfl
          simp only [Prog.bind_run_ok (hconsume _)]
          obtain ⟨x, hx⟩ := complete_run lib e.kind state password response w.ksfs _
          rw [hx]
          exact .consumed x state password response hquiet (by rw [hbuild]) hstate

/-! ## One operation -/

namespace World

theorem stateSlots_update (w : World) (o : Nat) (x : Option Exchange) (calls : List NativeCall) :
    ({ w with calls := calls, exchanges := Function.update w.exchanges o x } : World).stateSlots =
      Function.update w.stateSlots o (x.bind Exchange.state) := by
  funext o'
  unfold stateSlots
  by_cases hsame : o' = o
  · subst hsame
    simp only [Function.update_self]
  · simp only [Function.update_of_ne hsame]

theorem ksfSlots_update (w : World) (o : Nat) (x : Option (Option Nat)) (calls : List NativeCall) :
    ({ w with calls := calls, handles := Function.update w.handles o x } : World).ksfSlots =
      Function.update w.ksfSlots o x.join := by
  funext o'
  unfold ksfSlots
  by_cases hsame : o' = o
  · subst hsame
    simp only [Function.update_self]
  · simp only [Function.update_of_ne hsame]

variable {w : World}

theorem stateSlots_of {o : Nat} {e : Exchange} (he : w.exchanges o = some e) :
    w.stateSlots o = e.state := by
  unfold stateSlots
  rw [he]
  rfl

theorem ksfSlots_of {o : Nat} {h : Option Nat} (he : w.handles o = some h) : w.ksfSlots o = h := by
  unfold ksfSlots
  rw [he]
  rfl

namespace Sound

/-- Calls that end nothing change nothing. -/
theorem quiet (h : w.Sound) {asked : List NativeCall} (hquiet : Quiet asked) :
    Sound { w with calls := w.calls ++ asked } := by
  refine ⟨?_, ?_⟩
  · show Owned w.stateSlots w.states ((w.calls ++ asked).filterMap _)
    rw [List.filterMap_append, hquiet.1, List.append_nil]
    exact h.states
  · show Owned w.ksfSlots w.ksfs ((w.calls ++ asked).filterMap _)
    rw [List.filterMap_append, hquiet.2, List.append_nil]
    exact h.ksfs

theorem filterMap_ksfFree (ksf : Nat) :
    [NativeCall.ksfFree ksf].filterMap NativeCall.endsState = [] := rfl

/-- A handle that lives for one call. -/
theorem passKsf (h : w.Sound) : Sound { w with
    calls := w.calls ++ [.ksfFree w.ksfs], ksfs := w.ksfs + 1 } := by
  refine ⟨?_, ?_⟩
  · show Owned w.stateSlots w.states ((w.calls ++ [NativeCall.ksfFree w.ksfs]).filterMap _)
    rw [List.filterMap_append, filterMap_ksfFree, List.append_nil]
    exact h.states
  · show Owned w.ksfSlots (w.ksfs + 1) ((w.calls ++ [NativeCall.ksfFree w.ksfs]).filterMap _)
    rw [List.filterMap_append]
    exact h.ksfs.pass

/-- The state of an object is ended by a call, and the object keeps none. -/
theorem endState (h : w.Sound) {o state : Nat} (ho : w.stateSlots o = some state)
    {c : NativeCall} (hc : c.endsState = some state) (hksf : c.endsKsf = none) {x : Option Exchange}
    (hx : x.bind Exchange.state = none) :
    Sound { w with calls := w.calls ++ [c], exchanges := Function.update w.exchanges o x } := by
  refine ⟨?_, ?_⟩
  · rw [stateSlots_update, hx, List.filterMap_append]
    simpa [hc] using h.states.finish ho
  · show Owned w.ksfSlots w.ksfs ((w.calls ++ [c]).filterMap _)
    rw [List.filterMap_append]
    simpa [hksf] using h.ksfs

/-- An object that has no state is replaced by one that has none, or by nothing. -/
theorem replace (h : w.Sound) {o : Nat} (ho : w.stateSlots o = none) {x : Option Exchange}
    (hx : x.bind Exchange.state = none) :
    Sound { w with exchanges := Function.update w.exchanges o x } := by
  refine ⟨?_, h.ksfs⟩
  rw [show ({ w with exchanges := Function.update w.exchanges o x } : World).stateSlots = w.stateSlots
    from by rw [stateSlots_update w o x w.calls, hx, ← ho, Function.update_eq_self]]
  exact h.states

theorem close (h : w.Sound) {o : Nat} {e : Exchange} (he : w.exchanges o = some e) :
    (w.close o e).Sound := by
  have hslot := stateSlots_of he
  unfold World.close Exchange.release
  cases hstate : e.state with
  | none =>
      simp only [List.append_nil]
      exact h.replace (hslot.trans hstate) rfl
  | some state => exact h.endState (hslot.trans hstate) rfl rfl rfl

theorem destroy (h : w.Sound) {o : Nat} {e : Exchange} (he : w.exchanges o = some e) :
    (w.destroy o e).Sound := by
  refine (h.close he).replace ?_ rfl
  exact stateSlots_of (e := e.spent) (Function.update_self ..)

/-- What an object has moves to another one that has nothing. -/
theorem move (h : w.Sound) {source target : Nat} {e : Exchange} {x y : Option Exchange}
    (hne : source ≠ target) (he : w.exchanges source = some e) (hfree : w.stateSlots target = none)
    (hx : x.bind Exchange.state = e.state) (hy : y.bind Exchange.state = none) :
    Sound { w with exchanges := Function.update (Function.update w.exchanges target x) source y } := by
  refine ⟨?_, h.ksfs⟩
  have hslots : ({ w with
      exchanges := Function.update (Function.update w.exchanges target x) source y } : World).stateSlots =
      Function.update (Function.update w.stateSlots target (w.stateSlots source)) source none := by
    have hfirst := stateSlots_update w target x w.calls
    have hsecond := stateSlots_update
      { w with exchanges := Function.update w.exchanges target x } source y w.calls
    rw [hy] at hsecond
    rw [hx, ← stateSlots_of he] at hfirst
    rw [← hfirst]
    exact hsecond
  rw [hslots]
  exact h.states.transfer hne hfree

theorem moveAssign (h : w.Sound) {source target : Nat} {e t : Exchange}
    (he : w.exchanges source = some e) (ht : w.exchanges target = some t) :
    (w.moveAssign source target e t).Sound := by
  unfold World.moveAssign
  by_cases hsame : source = target
  · rw [if_pos hsame]
    exact h
  · rw [if_neg hsame]
    -- the target gives up what it has first
    have hsource : (w.close target t).exchanges source = some e := by
      show Function.update w.exchanges target _ source = _
      rw [Function.update_of_ne hsame, he]
    have htarget : (w.close target t).stateSlots target = none :=
      stateSlots_of (e := t.spent) (Function.update_self ..)
    exact (h.close ht).move hsame hsource htarget rfl rfl

theorem destroyKsf (h : w.Sound) {o : Nat} {k : Option Nat} (hk : w.handles o = some k)
    {x : Option (Option Nat)} (hx : x.join = none) :
    Sound { w with
      calls := w.calls ++ releaseKsf k, handles := Function.update w.handles o x } := by
  have hslot := ksfSlots_of hk
  cases k with
  | none =>
      refine ⟨?_, ?_⟩
      · show Owned w.stateSlots w.states ((w.calls ++ []).filterMap _)
        rw [List.append_nil]
        exact h.states
      · have hsame : Function.update w.ksfSlots o none = w.ksfSlots := by
          rw [← hslot, Function.update_eq_self]
        rw [ksfSlots_update, hx, hsame]
        show Owned w.ksfSlots w.ksfs ((w.calls ++ []).filterMap _)
        rw [List.append_nil]
        exact h.ksfs
  | some ksf =>
      refine ⟨?_, ?_⟩
      · show Owned w.stateSlots w.states ((w.calls ++ [NativeCall.ksfFree ksf]).filterMap _)
        rw [List.filterMap_append, filterMap_ksfFree, List.append_nil]
        exact h.states
      · rw [ksfSlots_update, hx]
        show Owned _ w.ksfs ((w.calls ++ [NativeCall.ksfFree ksf]).filterMap _)
        rw [List.filterMap_append]
        exact h.ksfs.finish hslot

theorem moveKsf (h : w.Sound) {source target : Nat} {k : Option Nat} (hne : source ≠ target)
    (hk : w.handles source = some k) (hfree : w.ksfSlots target = none) :
    (w.moveKsf source target k).Sound := by
  refine ⟨h.states, ?_⟩
  have hslots : (w.moveKsf source target k).ksfSlots =
      Function.update (Function.update w.ksfSlots target (w.ksfSlots source)) source none := by
    have hfirst := ksfSlots_update w target (some k) w.calls
    have hsecond := ksfSlots_update
      { w with handles := Function.update w.handles target (some k) } source (some none) w.calls
    rw [show (some k : Option (Option Nat)).join = w.ksfSlots source from (ksfSlots_of hk).symm]
      at hfirst
    rw [← hfirst]
    exact hsecond
  rw [hslots]
  exact h.ksfs.transfer hne hfree

theorem assignKsf (h : w.Sound) {source target : Nat} {k old : Option Nat}
    (hk : w.handles source = some k) (ht : w.handles target = some old) :
    (w.assignKsf source target k old).Sound := by
  unfold World.assignKsf
  by_cases hsame : source = target
  · rw [if_pos hsame]
    exact h
  · rw [if_neg hsame]
    -- the target gives up what it has first
    have hended := h.destroyKsf ht (x := some none) rfl
    have hsource : Function.update w.handles target (some none) source = some k := by
      rw [Function.update_of_ne hsame, hk]
    have hmoved := hended.moveKsf hsame hsource (ksfSlots_of (Function.update_self ..))
    unfold World.moveKsf at hmoved
    simp only [Function.update_idem] at hmoved
    exact hmoved

end Sound

end World

/-! ## Any run -/

open World

/-- `start` refuses, or puts a new state into a new object. -/
inductive Started (kind : Kind) (target : Nat) (w : World) : Except Exc Unit × World → Prop
  | refused (e : Exc) {asked : List NativeCall} :
      Quiet asked → Started kind target w (.error e, { w with calls := w.calls ++ asked })
  | obtained (e : Exchange) {asked : List NativeCall} :
      Quiet asked → e.state = some w.states → Started kind target w (.ok (), { w with
        calls := w.calls ++ asked
        states := w.states + 1
        exchanges := Function.update w.exchanges target (some e) })

theorem start_started (lib : Native) (kind : Kind) (password : Str) (target : Nat) (w : World) :
    Started kind target w (start lib kind password target w) := by
  unfold start
  cases hloaded : lib.loaded with
  | false =>
      have hquiet : ∀ e, Started kind target w (.error e, { w with calls := w.calls ++ [] }) :=
        fun e => .refused e ⟨rfl, rfl⟩
      simp only [List.append_nil] at hquiet
      exact hquiet _
  | true =>
      simp only [if_true]
      rw [Prog.bind_run_ok (show call (.start kind password) w =
          (.ok (), { w with calls := w.calls ++ [.start kind password] }) from rfl),
        Prog.bind_run_ok (Prog.read_run _)]
      cases lib.start (w.calls ++ [.start kind password]) with
      | none => cases kind <;> exact .refused _ ⟨rfl, rfl⟩
      | some message =>
          exact .obtained ⟨kind, some w.states, message, kind = .login⟩ ⟨rfl, rfl⟩ rfl

theorem start_sound {kind : Kind} {target : Nat} {w v : World} {x : Except Exc Unit} (h : w.Sound)
    (hfree : w.exchanges target = none) (hstart : Started kind target w (x, v)) : v.Sound := by
  cases hstart with
  | refused e hquiet => exact h.quiet hquiet
  | obtained e hquiet hstate =>
      rename_i asked
      have hasked := h.quiet hquiet
      have hempty : w.stateSlots target = none := by
        unfold stateSlots
        rw [hfree]
        rfl
      refine ⟨?_, hasked.ksfs⟩
      have hslots := stateSlots_update w target (some e) (w.calls ++ asked)
      rw [Option.bind_some, hstate] at hslots
      show Owned ({ w with
        calls := w.calls ++ asked
        exchanges := Function.update w.exchanges target (some e) } : World).stateSlots _ _
      rw [hslots]
      exact hasked.states.acquire hempty

/-- A key-stretching handle in a new `KsfHandle`. -/
theorem buildKsf_sound {target : Nat} {w v : World} {x : Except Exc Nat} (h : w.Sound)
    (hfree : w.handles target = none) (hbuilt : Built w (x, v)) :
    (v.keepKsf target x).Sound := by
  cases hbuilt with
  | refused e hquiet => exact h.quiet hquiet
  | obtained hquiet =>
      rename_i asked
      have hasked := h.quiet hquiet
      have hempty : w.ksfSlots target = none := by
        unfold ksfSlots
        rw [hfree]
        rfl
      refine ⟨hasked.states, ?_⟩
      have hslots := ksfSlots_update w target (some (some w.ksfs)) (w.calls ++ asked)
      show Owned ({ w with
        calls := w.calls ++ asked
        handles := Function.update w.handles target (some (some w.ksfs)) } : World).ksfSlots _ _
      rw [hslots]
      exact hasked.ksfs.acquire hempty

theorem finish_sound {lib : Native} {o : Nat} {e : Exchange} {params : OpaqueKsfParams}
    {w v : World} {x : Except Exc Str} (h : w.Sound) (he : w.exchanges o = some e)
    (hfinish : Finished lib o e params w (x, v)) : v.Sound := by
  cases hfinish with
  | refused exc hquiet _ => exact h.quiet hquiet
  | spent exc hquiet _ _ => exact (h.quiet hquiet).passKsf
  | consumed x state password response hquiet _ hstate =>
      -- the state is ended first, and the handle behind it
      have hended := (h.quiet hquiet).endState (o := o) ((stateSlots_of he).trans hstate)
        (c := .finish e.kind state password response w.ksfs) rfl rfl
        (x := some { e with state := none }) rfl
      exact hended.passKsf

theorem steps_sound {lib : Native} {w v : World} {l : Op × Except Exc (Option Str)} (h : w.Sound)
    (hstep : Steps lib w l v) : v.Sound := by
  cases hstep with
  | start hfree hrun =>
      rename_i kind password target x
      have hstarted := start_started lib kind password target w
      rw [hrun] at hstarted
      exact start_sound h hfree hstarted
  | moveConstruct he hfree =>
      rename_i source target e
      have hne : source ≠ target := by
        rintro rfl
        rw [he] at hfree
        exact nomatch hfree
      have hempty : w.stateSlots target = none := by
        unfold stateSlots
        rw [hfree]
        rfl
      exact h.move hne he hempty rfl rfl
  | moveAssign he ht => exact h.moveAssign he ht
  | finish he hrun =>
      rename_i o e password response params x
      have hfinished := finish_finished lib o e password response params w
      rw [hrun] at hfinished
      exact finish_sound h he hfinished
  | close he => exact h.close he
  | destroy he => exact h.destroy he
  | buildKsf hfree hrun =>
      rename_i u params target x
      have hbuilt := buildKsf_built lib params w
      rw [hrun] at hbuilt
      exact buildKsf_sound h hfree hbuilt
  | moveKsf hk hfree =>
      rename_i source target k
      have hne : source ≠ target := by
        rintro rfl
        rw [hk] at hfree
        exact nomatch hfree
      have hempty : w.ksfSlots target = none := by
        unfold ksfSlots
        rw [hfree]
        rfl
      exact h.moveKsf hne hk hempty
  | assignKsf hk ht => exact h.assignKsf hk ht
  | destroyKsf hk => exact h.destroyKsf hk rfl

theorem sound_initial : Sound {} := ⟨Owned.empty, Owned.empty⟩

/-- What the invariant says about one state. -/
theorem state_held_or_ended {w : World} (h : w.Sound) {state : Nat} (hstate : state < w.states) :
    ((∃! o, w.stateSlots o = some state) ∧ w.finishes state = 0 ∧ w.frees state = 0) ∨
      ((∀ o, w.stateSlots o ≠ some state) ∧ w.finishes state + w.frees state = 1) := by
  have hcount := count_endsState w state
  obtain ⟨hheld, hzero⟩ | ⟨hnone, hone⟩ := h.states.held_or_ended hstate
  · exact .inl ⟨hheld, by omega, by omega⟩
  · exact .inr ⟨hnone, by omega⟩

/-- What was never handed out is never used. -/
theorem state_unused {w : World} (h : w.Sound) {state : Nat} (hstate : w.states ≤ state) :
    w.finishes state = 0 ∧ w.frees state = 0 := by
  have hcount := count_endsState w state
  have hzero : (w.calls.filterMap NativeCall.endsState).count state = 0 := by
    refine List.count_eq_zero.mpr fun hmem => ?_
    have hlt := h.states.known state hmem
    omega
  exact ⟨by omega, by omega⟩

theorem ksf_held_or_freed {w : World} (h : w.Sound) (ksf : Nat) :
    (ksf < w.ksfs → ((∃! o, w.ksfSlots o = some ksf) ∧ w.ksfFrees ksf = 0) ∨
        ((∀ o, w.ksfSlots o ≠ some ksf) ∧ w.ksfFrees ksf = 1)) ∧
      (w.ksfs ≤ ksf → w.ksfFrees ksf = 0) := by
  rw [← count_endsKsf]
  refine ⟨h.ksfs.held_or_ended, fun hksf => List.count_eq_zero.mpr fun hmem => ?_⟩
  have hlt := h.ksfs.known ksf hmem
  omega

/-- A `finish` whose parameters are refused leaves every object as it was; one whose parameters are
accepted hands over the state, once, and frees the handle. -/
theorem finish_effect {lib : Native} {w v : World} {o : Nat} {e : Exchange} {password response : Str}
    {params : OpaqueKsfParams} {result : Except Exc (Option Str)} (h : w.Sound)
    (he : w.exchanges o = some e)
    (hstep : Steps lib w (.finish o password response params, result) v) :
    (∀ exc u, buildKsf lib params w = (.error exc, u) →
      result = .error exc ∧ v.exchanges = w.exchanges) ∧
    (∀ ksf u state, buildKsf lib params w = (.ok ksf, u) → e.state = some state →
      v.finishes state = 1 ∧ v.ksfFrees ksf = 1) := by
  have hsound := steps_sound h hstep
  cases hstep with
  | finish he' hrun =>
      rename_i e' x
      rw [he] at he'
      cases he'
      have hfinished := finish_finished lib o e password response params w
      rw [hrun] at hfinished
      constructor
      · intro exc u hbuild
        cases hfinished with
        | refused exc' _ herror =>
            rw [hbuild] at herror
            cases herror
            exact ⟨rfl, rfl⟩
        | spent _ _ hok _ =>
            rw [hbuild] at hok
            exact nomatch hok
        | consumed _ _ _ _ _ hok _ =>
            rw [hbuild] at hok
            exact nomatch hok
      · intro ksf u state hbuild hstate
        cases hfinished with
        | refused _ _ herror =>
            rw [hbuild] at herror
            exact nomatch herror
        | spent _ _ _ hnone =>
            rw [hstate] at hnone
            exact nomatch hnone
        | consumed x state' password' response' hquiet hok hsome =>
            rw [hbuild] at hok
            cases hok
            rw [hstate] at hsome
            cases hsome
            -- the run freed each handle at least once, and no sound run frees one twice
            have hstates := state_held_or_ended hsound
              (h.states.obtained o state ((stateSlots_of he).trans hstate))
            have hksfs := (ksf_held_or_freed hsound w.ksfs).1 (Nat.lt_succ_self _)
            refine ⟨?_, ?_⟩
            · refine Nat.le_antisymm (by omega) (List.countP_pos_iff.mpr ?_)
              exact ⟨.finish e.kind state password' response' w.ksfs, by simp, beq_self_eq_true state⟩
            · refine Nat.le_antisymm (by omega) (List.countP_pos_iff.mpr ?_)
              exact ⟨.ksfFree w.ksfs, by simp, beq_self_eq_true w.ksfs⟩

/-- Whatever is done with exchanges and handles, what the library handed out has one owner or ended
once. -/
theorem exchange_ownership (lib : Native) {trace : List (Transition World (Op × Except Exc (Option Str)))}
    {w : World} (hrun : Run (Steps lib) {} trace w) :
    (∀ state < w.states,
      ((∃! o, w.stateSlots o = some state) ∧ w.finishes state = 0 ∧ w.frees state = 0) ∨
        ((∀ o, w.stateSlots o ≠ some state) ∧ w.finishes state + w.frees state = 1)) ∧
    (∀ state, w.states ≤ state → w.finishes state = 0 ∧ w.frees state = 0) ∧
    (∀ ksf, (ksf < w.ksfs → ((∃! o, w.ksfSlots o = some ksf) ∧ w.ksfFrees ksf = 0) ∨
        ((∀ o, w.ksfSlots o ≠ some ksf) ∧ w.ksfFrees ksf = 1)) ∧
      (w.ksfs ≤ ksf → w.ksfFrees ksf = 0)) ∧
    ∀ t ∈ trace, ∀ o password response params result e,
      t.label = (.finish o password response params, result) → t.pre.exchanges o = some e →
        (∀ exc u, buildKsf lib params t.pre = (.error exc, u) →
          result = .error exc ∧ t.post.exchanges = t.pre.exchanges) ∧
        (∀ ksf u state, buildKsf lib params t.pre = (.ok ksf, u) → e.state = some state →
          t.post.finishes state = 1 ∧ t.post.ksfFrees ksf = 1) := by
  obtain ⟨hend, hall⟩ := hrun.invariant (fun _ _ _ hs hstep => steps_sound hs hstep) sound_initial
  refine ⟨fun _ => state_held_or_ended hend, fun _ => state_unused hend, ksf_held_or_freed hend, ?_⟩
  intro t ht o password response params result e hlabel he
  have hstep := hrun.steps t ht
  rw [hlabel] at hstep
  exact finish_effect (hall t ht).1 he hstep

/-- A library that serves every call. -/
def servingLibrary : Native where
  loaded := true
  lastError := fun _ => []
  ksf := fun _ => true
  start := fun _ => some "ke1"
  finish := fun _ => some "ke3"

/-- The exchange of a login, as it was started. -/
def startedLogin : Exchange := ⟨.login, some 0, "ke1", true⟩

def startedWorld : World where
  calls := [.start .login "p"]
  states := 1
  exchanges := Function.update (fun _ => none) 0 (some startedLogin)

/-- Argon2id as an AXIAM server asks for it. -/
def servedParams : OpaqueKsfParams where
  ksf := "argon2id"
  memoryKib := some 19456
  iterations := some 2
  parallelism := some 1

/-- The login has moved, and is finished. -/
def finishedWorld : World :=
  { startedWorld.moveConstruct 0 1 startedLogin with
    calls := [.start .login "p", .ksfArgon2id 19456 2 1, .finish .login 0 "p" "ke2" 0, .ksfFree 0]
    ksfs := 1
    exchanges := Function.update (startedWorld.moveConstruct 0 1 startedLogin).exchanges 1
      (some { startedLogin with state := none }) }

/-- A login that is moved, refused a function the SDK does not know, finished with one it knows, and
given up. -/
theorem exchange_ownership_moved : ∃ trace w, Run (Steps servingLibrary) {} trace w ∧
    w.finishes 0 + w.frees 0 = 1 ∧ w.ksfFrees 0 = 1 := by
  have hstart : Steps servingLibrary {} (.start .login "p" 0, .ok none) startedWorld :=
    .start rfl rfl
  have hmove : Steps servingLibrary startedWorld (.moveConstruct 0 1, .ok none)
      (startedWorld.moveConstruct 0 1 startedLogin) := .moveConstruct rfl rfl
  have hrefused : Steps servingLibrary (startedWorld.moveConstruct 0 1 startedLogin)
      (.finish 1 "p" "ke2" { ksf := "bcrypt" }, .error (.network (str "OPAQUE: this SDK cannot " ++
        str "perform the key-stretching function the server named (`bcrypt`)")
        "opaque_unsupported_ksf"))
      (startedWorld.moveConstruct 0 1 startedLogin) :=
    .finish (e := startedLogin) rfl rfl
  have hfinish : Steps servingLibrary (startedWorld.moveConstruct 0 1 startedLogin)
      (.finish 1 "p" "ke2" servedParams, .ok (some "ke3")) finishedWorld :=
    .finish (e := startedLogin) rfl rfl
  have hdestroy : Steps servingLibrary finishedWorld (.destroy 1, .ok none)
      (finishedWorld.destroy 1 { startedLogin with state := none }) := .destroy rfl
  have hrun := Run.cons hstart (.cons hmove (.cons hrefused (.cons hfinish (.cons hdestroy (.nil _)))))
  obtain ⟨hstates, _, hksfs, _⟩ := exchange_ownership servingLibrary hrun
  refine ⟨_, _, hrun, ?_, ?_⟩
  · obtain ⟨_, hno, _⟩ | ⟨_, hone⟩ := hstates 0 Nat.one_pos
    · exact absurd hno (by decide)
    · exact hone
  · obtain ⟨_, hno⟩ | ⟨_, hone⟩ := (hksfs 0).1 Nat.one_pos
    · exact absurd hno (by decide)
    · exact hone

end Axiam.Opaque
