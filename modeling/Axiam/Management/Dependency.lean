import Mathlib.Logic.Relation
import Axiam.Management.Planned
import Axiam.Management.Report

/-!
# The order of dependencies

An entity's `depends_on` key is resolved three times: by `find_key` when cycles are looked for
and when depths are counted, and by `find_key_of_kind` when a resource is written.  The three
agree unless the key is also the key of an entity of another kind that stands earlier.  What
becomes of the order, of the cycle check and of the id lookups is settled by that.
-/

namespace Axiam.Management

open Axiam.Lib Axiam.Lib.Prog Relation

/-! ## Statements -/

/-- `p` is the entity of `e`'s own kind that `e` depends on. -/
def NamesOwn (m : Manifest) (e p : ManifestEntity) : Prop :=
  ∃ key ∈ e.dependsOn, findKeyOfKind m key e.kind = some p

/-- Whoever answers the calls throws no `ManifestError`: that is the engine's own exception. -/
def Api.Plain {σ : Type} (api : Api σ) : Prop :=
  ∀ c body s what, (api.handler c body s).1 ≠ .error (.axiam (.manifest what))

/-- The dependency order is respected: by the sort, by the cycle check, and by every apply. -/
structure InOrder (m : Manifest) : Prop where
  /-- A resource comes after its parent. -/
  parents : ∀ l, ordered m = .ok l → ∀ e ∈ m.entities, e.kind = .resource → ∀ p,
    NamesOwn m e p → l.idxOf p < l.idxOf e
  /-- No entity depends on itself, through entities of its kind. -/
  acyclic : ∀ e ∈ m.entities, ¬TransGen (NamesOwn m) e e
  /-- No apply meets an internal ordering error. -/
  performed : ∀ (σ : Type) (api : Api σ), api.Plain → ∀ s s₁ p, plan api m s = (.ok p, s₁) →
    ∀ a ∈ attempts api m p.pending (.start p s₁), ∀ what,
      a.outcome ≠ .error (.axiam (.manifest what))

/-- What a reference has to satisfy whose key `find_key` takes for an entity of another kind. -/
def Harmless (m : Manifest) (e p : ManifestEntity) : Prop :=
  if e.kind = .resource then depthOf m p = 0 ∧ strLess p.key e.key = true
  else ¬TransGen (NamesOwn m) p e

/-- Every reference whose key is found in another kind first is harmless. -/
def KeysClear (m : Manifest) : Prop :=
  ∀ e ∈ m.entities, ∀ p, NamesOwn m e p → findKey m p.key ≠ some p → Harmless m e p

section

variable {m : Manifest}

theorem NamesOwn.spec {e p : ManifestEntity} (h : NamesOwn m e p) :
    e.dependsOn = some p.key ∧ p ∈ m.entities ∧ p.kind = e.kind := by
  obtain ⟨key, hkey, hp⟩ := h
  obtain ⟨hmem, rfl, hkind⟩ := findKeyOfKind_eq_some hp
  exact ⟨hkey, hmem, hkind⟩

/-! ## The sort -/

/-- A resource sorts after its parent exactly when its reference is not a harmful one. -/
theorem sortKey_parent_iff (hm : Valid m) {e p : ManifestEntity} (he : e ∈ m.entities)
    (hkind : e.kind = .resource) (h : NamesOwn m e p) :
    sortKey m p < sortKey m e ↔ (findKey m p.key ≠ some p → Harmless m e p) := by
  obtain ⟨hdep, hp, hpkind⟩ := h.spec
  have hprofile : e.kind ≠ .networkProfile := by rw [hkind]; decide
  rw [sortKey_lt_iff hpkind hprofile]
  by_cases hfound : findKey m p.key = some p
  · have hdepth := hm.depthOf_succ hdep hfound hpkind
    exact ⟨fun _ hne => absurd hfound hne, fun _ => .inl (by omega)⟩
  · -- the key is found in another kind, so the child counts as a root
    obtain ⟨x, hx⟩ := Option.ne_none_iff_exists'.mp (hm.references e he p.key hdep)
    have hxkind : x.kind ≠ e.kind := by
      intro heq
      obtain ⟨hxmem, hxkey⟩ := findKey_eq_some hx
      have : x = p := List.inj_on_of_nodup_map hm.identities hxmem hp
        (Prod.ext (heq.trans hpkind.symm) hxkey)
      rw [this] at hx
      exact hfound hx
    have hroot : depthOf m e = 0 := depthOf_of_other hdep hx hxkind
    rw [hroot]
    simp [Harmless, hkind, hfound]

theorem idxOf_parent_iff (hm : Valid m) {l : List ManifestEntity} (hl : ordered m = .ok l)
    {e p : ManifestEntity} (he : e ∈ m.entities) (hkind : e.kind = .resource)
    (h : NamesOwn m e p) :
    l.idxOf p < l.idxOf e ↔ (findKey m p.key ≠ some p → Harmless m e p) := by
  obtain ⟨-, rfl⟩ := ordered_eq_ok hl
  rw [(stableSort_sorted hm).idxOf_lt_iff h.spec.2.1 he, sortKey_parent_iff hm he hkind h]

/-! ## Cycles -/

/-- No chain that ends goes round: each step of a cycle is a step of the cycle check. -/
theorem no_cycle_of_chainEnds (hclear : KeysClear m) {k : ManifestKind} (hk : k ≠ .resource)
    {steps : Nat} {e : ManifestEntity} (he : e ∈ m.entities) (hkind : e.kind = k)
    (hends : chainEnds m steps e = true) : ¬TransGen (NamesOwn m) e e := by
  induction steps generalizing e with
  | zero =>
      intro hcycle
      obtain ⟨p, hp, -⟩ := TransGen.head'_iff.mp hcycle
      simp [chainEnds, hp.spec.1] at hends
  | succ steps ih =>
      intro hcycle
      obtain ⟨p, hp, hback⟩ := TransGen.head'_iff.mp hcycle
      obtain ⟨hdep, hpmem, hpkind⟩ := hp.spec
      have hreturn : TransGen (NamesOwn m) p p := TransGen.tail' hback hp
      by_cases hfound : findKey m p.key = some p
      · have hnext : chainEnds m steps p = true := by
          simpa [chainEnds, hdep, hfound] using hends
        exact ih hpmem (hpkind.trans hkind) hnext hreturn
      · -- the check looked elsewhere, and the reference would be harmful
        have hharmless := hclear e he p hp hfound
        unfold Harmless at hharmless
        rw [if_neg (by rw [hkind]; exact hk)] at hharmless
        rcases reflTransGen_iff_eq_or_transGen.mp hback with heq | htrans
        · rw [heq] at hcycle
          rw [heq] at hharmless
          exact hharmless hcycle
        · exact hharmless htrans

/-- Resources that sort after their parents form no cycle. -/
theorem sortKey_lt_of_transGen (hm : Valid m) (hclear : KeysClear m) {e p : ManifestEntity}
    (he : e ∈ m.entities) (hkind : e.kind = .resource) (h : TransGen (NamesOwn m) e p) :
    p ∈ m.entities ∧ p.kind = .resource ∧ sortKey m p < sortKey m e := by
  induction h with
  | single h =>
      refine ⟨h.spec.2.1, h.spec.2.2.trans hkind, ?_⟩
      exact (sortKey_parent_iff hm he hkind h).mpr (hclear e he _ h)
  | tail _ h ih =>
      obtain ⟨hmem, hres, hlt⟩ := ih
      refine ⟨h.spec.2.1, h.spec.2.2.trans hres, ?_⟩
      exact ((sortKey_parent_iff hm hmem hres h).mpr (hclear _ hmem _ h)).trans hlt

theorem KeysClear.acyclic (hm : Valid m) (hclear : KeysClear m) :
    ∀ e ∈ m.entities, ¬TransGen (NamesOwn m) e e := by
  intro e he
  by_cases hkind : e.kind = .resource
  · intro hcycle
    exact absurd (sortKey_lt_of_transGen hm hclear he hkind hcycle).2.2 (lt_irrefl _)
  · exact no_cycle_of_chainEnds hclear hkind he rfl (hm.chains e he)

end

/-! ## The lookups of an apply -/

/-- Every key that is needed has its id, and every segment its version. -/
def Known {σ : Type} (N : Needs) (w : Work σ) : Prop :=
  (∀ kind key, N.resolved kind key → w.resolved kind key ≠ none) ∧
    ∀ key, N.version key → w.versions key ≠ none

/-- No `ManifestError`. -/
def Exc.Orderly (e : Exc) : Prop := ∀ what, e ≠ .axiam (.manifest what)

section

variable {σ : Type} {api : Api σ} {m : Manifest}

theorem Api.Plain.call (h : api.Plain) (c : Call) (s : σ) {e : Exc} {t : σ}
    (hrun : api.call c s = (.error e, t)) : Exc.Orderly e := by
  unfold Api.call at hrun
  rcases bind_eq_error.mp hrun with hbody | ⟨body, t', -, hcall⟩
  · obtain ⟨what, rfl⟩ := Call.body_error (congrArg Prod.fst hbody)
    intro what h
    cases h
  · intro what heq
    exact h c body t' what (by rw [hcall, heq])

theorem Edit.known {N : Needs} {g : Work σ → Work σ} (hg : Edit N g) {w : Work σ}
    (h : Known N w) : Known N (g w) := by
  cases hg with
  | resolve kind key id =>
      refine ⟨fun k n hN => ?_, h.2⟩
      show (if k = kind ∧ n = key then some id else w.resolved k n) ≠ none
      by_cases hown : k = kind ∧ n = key
      · rw [if_pos hown]
        nofun
      · rw [if_neg hown]
        exact h.1 k n hN
  | setVersion key version =>
      refine ⟨h.1, fun n hN => ?_⟩
      show (if n = key then some version else w.versions n) ≠ none
      by_cases hown : n = key
      · rw [if_pos hown]
        nofun
      · rw [if_neg hown]
        exact h.2 n hN
  | setSecret secret => exact h
  | setId id => exact h

/-- From where everything needed is known: it stays known, and no lookup fails. -/
def Safe {α : Type} (N : Needs) (p : Prog (Work σ) Exc α) : Prop :=
  Triple (Known N) p (fun _ => Known N) fun e w => Known N w ∧ Exc.Orderly e

/-- While what is needed is known, nothing meets an internal ordering error. -/
theorem safeRules (hplain : api.Plain) (N : Needs) : Rules api N fun _ p => Safe N p where
  ret a := Triple.ret fun _ h => h
  bind := Triple.bind
  ask c _ := by
    intro w hw
    rw [ask_run]
    rcases hcall : (api.call c w.world).1 with e | a
    · exact ⟨hw, hplain.call c w.world (Prod.ext hcall rfl)⟩
    · exact hw
  requireResolved {kind key what} hN := by
    intro w hw
    obtain ⟨id, hid⟩ := Option.ne_none_iff_exists'.mp (hw.1 kind key hN)
    unfold requireResolved
    rw [bind_run, read_run]
    simp only [hid]
    exact hw
  requireVersion {key} hN := by
    intro w hw
    obtain ⟨version, hversion⟩ := Option.ne_none_iff_exists'.mp (hw.2 key hN)
    unfold requireVersion
    rw [bind_run, read_run]
    simp only [hversion]
    exact hw
  catchAxiam hp hk := by
    refine Triple.tryCatch hp fun e => ?_
    cases e with
    | axiam e => exact (hk e).weaken (fun _ h => h.1) (fun _ _ h => h) fun _ _ h => h
    | _ => exact Triple.raise fun _ h => h
  raiseRebind what binding succeeded error := Triple.raise fun _ h => ⟨h, fun _ => nofun⟩
  edit hg := Triple.modify fun _ h => hg.known h

/-- The kinds whose entities get an id to be looked up. -/
def ManifestKind.isResolved (k : ManifestKind) : Bool := k != .networkPolicy && k != .networkProfile

/-- What is known of an entity once its change has been performed. -/
def Performed (c : PlannedChange) (w : Work σ) : Prop :=
  (c.entity.kind.isResolved = true → w.resolved c.entity.kind c.entity.key ≠ none) ∧
    (c.entity.kind = .networkSegment → w.versions c.entity.key ≠ none)

theorem Work.resolved_resolve (w : Work σ) (kind : ManifestKind) (key id : Str) :
    (w.resolve kind key id).resolved kind key = some id := by
  show (if kind = kind ∧ key = key then some id else _) = _
  rw [if_pos ⟨rfl, rfl⟩]

/-- Of the policy and of a profile nothing is ever looked up. -/
theorem Performed.of_not_resolved {c : PlannedChange} (h : c.entity.kind.isResolved = false)
    (w : Work σ) : Performed c w := by
  refine ⟨fun hres => ?_, fun hkind => ?_⟩
  · rw [h] at hres
    cases hres
  · rw [hkind] at h
    cases h

theorem perform_performed (c : PlannedChange) (hok : NetworkOk m c.entity) :
    Returns (perform api m c) fun _ w => Performed c w := by
  -- a change of a kind other than the segments' ends by resolving its key
  have hresolve : ∀ (id : Str), c.entity.kind ≠ .networkSegment →
      Returns (Prog.modify (fun w => w.resolve c.entity.kind c.entity.key id) :
        Prog (Work σ) Exc Unit) fun _ w => Performed c w := by
    intro id hne w _
    refine ⟨fun _ => ?_, fun h => absurd h hne⟩
    show (w.resolve c.entity.kind c.entity.key id).resolved _ _ ≠ none
    rw [w.resolved_resolve]
    nofun
  -- the bindings that follow look keys up and resolve none
  have hbindings : ∀ (id : Str), c.entity.kind ≠ .networkSegment →
      Returns (Prog.modify (fun w : Work σ => w.resolve c.entity.kind c.entity.key id) >>=
        fun _ => performBindings api m c id) fun _ w => Performed c w := by
    intro id hne
    have hkeeps : Keeps (fun w : Work σ => (w.resolved, w.versions)) (performBindings api m c id) :=
      (keepsRules api Needs.all (fun _ _ => rfl) fun _ _ => rfl).performBindings (fun _ _ _ => trivial)
        fun _ _ => ⟨trivial, fun _ _ => trivial⟩
    refine Returns.bind (hresolve id hne) fun _ w hw _ t hrun => ?_
    have hkept := hkeeps w
    rw [hrun] at hkept
    obtain ⟨hres, hver⟩ := Prod.mk.inj hkept
    exact ⟨fun h => by rw [hres]; exact hw.1 h, fun h => by rw [hver]; exact hw.2 h⟩
  unfold perform
  split
  next h => exact Returns.seq fun _ => Returns.seq fun id => h ▸ hresolve id (by rw [h]; decide)
  next h => exact Returns.seq fun id => h ▸ hresolve id (by rw [h]; decide)
  next h => exact Returns.seq fun id => h ▸ hresolve id (by rw [h]; decide)
  next h => exact Returns.seq fun id => h ▸ hbindings id (by rw [h]; decide)
  next h => exact Returns.seq fun id => h ▸ hbindings id (by rw [h]; decide)
  next h => exact Returns.always fun _ w => Performed.of_not_resolved (by rw [h]; rfl) w
  next h =>
    obtain ⟨spec, hspec, -⟩ := hok.segment h
    rw [hspec]
    refine Returns.seq fun written w _ => ⟨fun _ => ?_, fun _ => ?_⟩
    · show ((w.resolve .networkSegment c.entity.key written.id).setVersion c.entity.key
        written.version).resolved c.entity.kind c.entity.key ≠ none
      rw [h]
      show (w.resolve .networkSegment c.entity.key written.id).resolved _ _ ≠ none
      rw [w.resolved_resolve]
      nofun
    · show (if c.entity.key = c.entity.key then some written.version else _) ≠ none
      rw [if_pos rfl]
      nofun
  next h => exact Returns.always fun _ w => Performed.of_not_resolved (by rw [h]; rfl) w

/-! ## A whole apply -/

/-- Where an apply stands before `rest`: whatever is not still to come is known. -/
structure Ready (m : Manifest) (rest : List PlannedChange) (w : Work σ) : Prop where
  resolved : ∀ e ∈ m.entities, e.kind.isResolved = true →
    w.resolved e.kind e.key ≠ none ∨ ∃ c ∈ rest, c.entity = e
  versioned : ∀ e ∈ m.entities, e.kind = .networkSegment →
    w.versions e.key ≠ none ∨ ∃ c ∈ rest, c.entity = e

/-- What is known in a state. -/
def Work.needs (w : Work σ) : Needs where
  resolved kind key := w.resolved kind key ≠ none
  version key := w.versions key ≠ none
  call _ := True

/-- The changes that are left stand in the order of their entities. -/
def Queued (m : Manifest) (rest : List PlannedChange) : Prop :=
  (∀ c ∈ rest, c.entity ∈ m.entities) ∧
    rest.Pairwise fun c d => sortKey m c.entity < sortKey m d.entity

/-- An entity that sorts before the next change is not still to come. -/
theorem Queued.not_mem {c : PlannedChange} {rest : List PlannedChange} (h : Queued m (c :: rest))
    {e : ManifestEntity} (hlt : sortKey m e < sortKey m c.entity) :
    ¬∃ d ∈ c :: rest, d.entity = e := by
  rintro ⟨d, hd, rfl⟩
  rcases List.mem_cons.mp hd with rfl | hd
  · exact lt_irrefl _ hlt
  · exact lt_irrefl _ (hlt.trans ((List.pairwise_cons.mp h.2).1 d hd))

/-- Everything the next change looks up is known. -/
theorem Ready.cover (hm : Valid m) (hclear : KeysClear m) {c : PlannedChange}
    {rest : List PlannedChange} {w : Work σ} (h : Ready m (c :: rest) w)
    (hqueue : Queued m (c :: rest)) : w.needs.Cover m c := by
  have hc : c.entity ∈ m.entities := hqueue.1 c List.mem_cons_self
  have hearlier : ∀ e ∈ m.entities, e.kind.isResolved = true →
      sortKey m e < sortKey m c.entity → w.resolved e.kind e.key ≠ none := fun e he hres hlt =>
    (h.resolved e he hres).resolve_right (hqueue.not_mem hlt)
  -- a key that is found in a smaller kind
  have hkinds : ∀ key kind, findKeyOfKind m key kind ≠ none → kind.isResolved = true →
      kind.rank < c.entity.kind.rank → w.resolved kind key ≠ none := by
    intro key kind hfound hres hrank
    obtain ⟨e, he⟩ := Option.ne_none_iff_exists'.mp hfound
    obtain ⟨hmem, rfl, rfl⟩ := findKeyOfKind_eq_some he
    exact hearlier e hmem hres (sortKey_lt_of_kind hrank)
  refine ⟨?_, ?_, ?_, fun _ _ => trivial, trivial⟩
  · intro hkind key hkey hfound
    obtain ⟨p, hp⟩ := Option.ne_none_iff_exists'.mp hfound
    have hnames : NamesOwn m c.entity p := ⟨key, hkey, by rw [hkind]; exact hp⟩
    obtain ⟨hmem, rfl, hpkind⟩ := findKeyOfKind_eq_some hp
    have hlt := (sortKey_parent_iff hm hc hkind hnames).mpr (hclear _ hc p hnames)
    have := hearlier p hmem (by rw [hpkind]; rfl) hlt
    rwa [hpkind] at this
  · intro hholds b hb
    have hrank : 2 < c.entity.kind.rank := by
      cases hk : c.entity.kind with
      | group => decide
      | serviceAccount => decide
      | _ => rw [hk] at hholds; cases hholds
    have hbok := (hm.roles _ hc hholds).bindings b hb
    exact ⟨hkinds _ .role hbok.role rfl hrank, fun key hkey =>
      hkinds key .resource (hbok.resource key hkey) rfl (Nat.zero_lt_of_lt hrank)⟩
  · intro hkind spec hspec
    obtain ⟨p, hp, hfound⟩ := (hm.network _ hc).profile hkind
    rw [Option.mem_def.mp hspec] at hp
    cases hp
    have hrank : ManifestKind.networkSegment.rank < c.entity.kind.rank := by rw [hkind]; decide
    refine ⟨hkinds _ _ hfound rfl hrank, ?_⟩
    obtain ⟨e, he⟩ := Option.ne_none_iff_exists'.mp hfound
    obtain ⟨hmem, hkey, hekind⟩ := findKeyOfKind_eq_some he
    have hlt : sortKey m e < sortKey m c.entity := sortKey_lt_of_kind (by rw [hekind]; exact hrank)
    have hversion := (h.versioned e hmem hekind).resolve_right (hqueue.not_mem hlt)
    rwa [hkey] at hversion

/-- One change: no lookup fails, and once it has landed the next is ready. -/
theorem Ready.step (hm : Valid m) (hclear : KeysClear m) (hplain : api.Plain) {c : PlannedChange}
    {rest : List PlannedChange} {w : Work σ} (h : Ready m (c :: rest) w)
    (hqueue : Queued m (c :: rest)) :
    (∀ e, (perform api m c (w.take c)).1 = .error e → Exc.Orderly e) ∧
      ∀ u t, perform api m c (w.take c) = (.ok u, t) → Ready m rest t := by
  have hsafe : Safe w.needs (perform api m c) :=
    (safeRules hplain w.needs).perform (h.cover hm hclear hqueue)
  have hknown : Known w.needs (w.take c) := ⟨fun _ _ hN => hN, fun _ hN => hN⟩
  constructor
  · intro e he
    exact (hsafe.error hknown (Prod.ext he rfl)).2
  · intro u t hrun
    obtain ⟨hresolved, hversions⟩ := hsafe.ok hknown hrun
    have hown : Performed c t :=
      (perform_performed c (hm.network _ (hqueue.1 c List.mem_cons_self))).elim hrun
    refine ⟨fun e he hres => ?_, fun e he hkind => ?_⟩
    · rcases h.resolved e he hres with hold | ⟨d, hd, rfl⟩
      · exact .inl (hresolved _ _ hold)
      · rcases List.mem_cons.mp hd with rfl | hd
        · exact .inl (hown.1 hres)
        · exact .inr ⟨d, hd, rfl⟩
    · rcases h.versioned e he hkind with hold | ⟨d, hd, rfl⟩
      · exact .inl (hversions _ hold)
      · rcases List.mem_cons.mp hd with rfl | hd
        · exact .inl (hown.2 hkind)
        · exact .inr ⟨d, hd, rfl⟩

/-- A whole run: no attempt ends in an internal ordering error. -/
theorem Ready.attempts (hm : Valid m) (hclear : KeysClear m) (hplain : api.Plain)
    {rest : List PlannedChange} {w : Work σ} (h : Ready m rest w) (hqueue : Queued m rest) :
    ∀ a ∈ attempts api m rest w, ∀ e, a.outcome = .error e → Exc.Orderly e := by
  induction rest generalizing w with
  | nil => exact fun a ha => (List.not_mem_nil ha).elim
  | cons c rest ih =>
      obtain ⟨herror, hok⟩ := h.step hm hclear hplain hqueue
      intro a ha
      unfold Management.attempts at ha
      rcases List.mem_cons.mp ha with rfl | ha
      · exact herror
      · split at ha
        next u hu =>
          exact ih (hok u _ (Prod.ext hu rfl)) ⟨fun d hd => hqueue.1 d (List.mem_cons_of_mem _ hd),
            (List.pairwise_cons.mp hqueue.2).2⟩ a ha
        · cases ha

theorem seedResolved_ne_none {changes : List PlannedChange} {c : PlannedChange} (hc : c ∈ changes)
    (hid : c.id ≠ none) : seedResolved changes c.entity.kind c.entity.key ≠ none := by
  unfold seedResolved
  have hmem : c ∈ changes.filter fun d => d.entity.kind = c.entity.kind ∧
      d.entity.key = c.entity.key ∧ d.id.isSome := by
    simp [hc, Option.isSome_iff_ne_none, hid]
  obtain ⟨d, hd⟩ := Option.ne_none_iff_exists'.mp
    (mt List.getLast?_eq_none_iff.mp (List.ne_nil_of_mem hmem))
  have hlast := List.mem_of_getLast? hd
  simp only [List.mem_filter, decide_eq_true_eq] at hlast
  rw [hd]
  exact Option.isSome_iff_ne_none.mp hlast.2.2.2

theorem seedVersions_ne_none {changes : List PlannedChange} {c : PlannedChange} (hc : c ∈ changes)
    (hkind : c.entity.kind = .networkSegment) (hread : c.readSegment ≠ none) :
    seedVersions changes c.entity.key ≠ none := by
  unfold seedVersions
  have hmem : c ∈ changes.filter fun d => d.entity.kind = .networkSegment ∧
      d.entity.key = c.entity.key ∧ d.readSegment.isSome := by
    simp [hc, hkind, Option.isSome_iff_ne_none, hread]
  obtain ⟨d, hd⟩ := Option.ne_none_iff_exists'.mp
    (mt List.getLast?_eq_none_iff.mp (List.ne_nil_of_mem hmem))
  have hlast := List.mem_of_getLast? hd
  simp only [List.mem_filter, decide_eq_true_eq] at hlast
  obtain ⟨read, hsome⟩ := Option.isSome_iff_exists.mp hlast.2.2.2
  rw [hd]
  simp [hsome]

/-- The entities of a plan are the manifest's, in order. -/
theorem plan_entities {l : List ManifestEntity} {changes : List PlannedChange}
    (h : List.Forall₂ PlannedFor l changes) : changes.map PlannedChange.entity = l := by
  induction h with
  | nil => rfl
  | cons hc _ ih => rw [List.map_cons, hc.entity, ih]

theorem plan_queued {l : List ManifestEntity} {p : Plan} (hsorted : Sorted m l)
    (h : List.Forall₂ PlannedFor l p.changes) : Queued m p.changes := by
  have hentities := plan_entities h
  constructor
  · intro c hc
    refine hsorted.perm.mem_iff.mp ?_
    rw [← hentities]
    exact List.mem_map_of_mem hc
  · have := hsorted.sorted
    rw [← hentities] at this
    exact (List.pairwise_map (f := PlannedChange.entity)).mp this

/-- Every entity has its change. -/
theorem plan_complete {l : List ManifestEntity} {changes : List PlannedChange}
    (hsorted : Sorted m l) (h : List.Forall₂ PlannedFor l changes) {e : ManifestEntity}
    (he : e ∈ m.entities) : ∃ c ∈ changes, PlannedFor e c := by
  have hl : e ∈ l := hsorted.perm.mem_iff.mpr he
  clear hsorted
  induction h with
  | nil => cases hl
  | cons hc _ ih =>
      rcases List.mem_cons.mp hl with rfl | hl
      · exact ⟨_, List.mem_cons_self, hc⟩
      · obtain ⟨c, hmem, hplanned⟩ := ih hl
        exact ⟨c, List.mem_cons_of_mem _ hmem, hplanned⟩

theorem Ready.start {l : List ManifestEntity} {p : Plan} (hsorted : Sorted m l)
    (h : List.Forall₂ PlannedFor l p.changes) (s : σ) : Ready m p.pending (.start p s) := by
  have hcases : ∀ c ∈ p.changes, c.action = .unchanged ∨ c ∈ p.pending := by
    intro c hc
    by_cases haction : c.action = .unchanged
    · exact .inl haction
    · exact .inr (List.mem_filter.mpr ⟨hc, by simpa using haction⟩)
  constructor
  · intro e he hres
    obtain ⟨c, hc, hplanned⟩ := plan_complete hsorted h he
    rcases hcases c hc with haction | hpending
    · refine .inl ?_
      have hid := hplanned.known (by rw [haction]; decide) (by
        intro hkind
        rw [hkind] at hres
        cases hres)
      have := seedResolved_ne_none hc hid
      rwa [hplanned.entity] at this
    · exact .inr ⟨c, hpending, hplanned.entity⟩
  · intro e he hkind
    obtain ⟨c, hc, hplanned⟩ := plan_complete hsorted h he
    rcases hcases c hc with haction | hpending
    · refine .inl ?_
      have hread := hplanned.read (by rw [haction]; decide) hkind
      have := seedVersions_ne_none hc (by rw [hplanned.entity]; exact hkind) hread
      rwa [hplanned.entity] at this
    · exact .inr ⟨c, hpending, hplanned.entity⟩

end

/-- The dependency order of a valid manifest is respected exactly when every reference whose key
is found in another kind first is harmless. -/
theorem inOrder_iff (m : Manifest) (h : validate m = .ok ()) : InOrder m ↔ KeysClear m := by
  have hm := (validate_ok_iff m).mp h
  have hordered := ordered_of_valid hm
  constructor
  · intro horder e he p hnames hfound
    unfold Harmless
    by_cases hkind : e.kind = .resource
    · have hlt := horder.parents _ hordered e he hkind p hnames
      have := (idxOf_parent_iff hm hordered he hkind hnames).mp hlt hfound
      unfold Harmless at this
      rwa [if_pos hkind] at this ⊢
    · rw [if_neg hkind]
      intro hback
      exact horder.acyclic e he (TransGen.head hnames hback)
  · intro hclear
    refine ⟨fun l hl e he hkind p hnames => ?_, hclear.acyclic hm, ?_⟩
    · exact (idxOf_parent_iff hm hl he hkind hnames).mpr (hclear e he p hnames)
    · intro σ api hplain s s₁ p hplan a ha what houtcome
      obtain ⟨l, -, hsorted, -, hchanges⟩ := plan_returns api m hplan
      have hqueue := plan_queued hsorted hchanges
      have hpending : Queued m p.pending :=
        ⟨fun c hc => hqueue.1 c (List.mem_filter.mp hc).1, hqueue.2.filter _⟩
      exact (Ready.start hsorted hchanges s₁).attempts hm hclear hplain hpending a ha _ houtcome
        what rfl

/-- A permission and two resources, one of which depends on the other.  The parent has the key of
the permission. -/
def sharedKey : Manifest where
  entities := [
    { kind := .permission, key := str "root", action := str "read" },
    { kind := .resource, key := str "a", name := str "a", resourceType := str "folder",
      dependsOn := some (str "root") },
    { kind := .resource, key := str "root", name := str "root", resourceType := str "folder" }]

/-- The child is taken for a root and stands before its parent. -/
theorem sharedKey_not_inOrder : validate sharedKey = .ok () ∧ ¬InOrder sharedKey := by
  have hvalid : validate sharedKey = .ok () := by decide
  refine ⟨hvalid, fun h => ?_⟩
  have hm := (validate_ok_iff sharedKey).mp hvalid
  let parent : ManifestEntity :=
    { kind := .resource, key := str "root", name := str "root", resourceType := str "folder" }
  let child : ManifestEntity :=
    { kind := .resource, key := str "a", name := str "a", resourceType := str "folder",
      dependsOn := some (str "root") }
  have hchild : child ∈ sharedKey.entities := by decide
  have hnames : NamesOwn sharedKey child parent := ⟨str "root", by decide, by decide⟩
  have hlt := h.parents _ (ordered_of_valid hm) child hchild rfl parent hnames
  rw [idxOf_parent_iff hm (ordered_of_valid hm) hchild rfl hnames] at hlt
  have hharm := hlt (by decide)
  unfold Harmless at hharm
  rw [if_pos rfl] at hharm
  exact absurd hharm (by decide)

/-- A resource and its parent. -/
def parentAndChild : Manifest where
  entities := [
    { kind := .resource, key := str "a", name := str "a", resourceType := str "folder",
      dependsOn := some (str "root") },
    { kind := .resource, key := str "root", name := str "root", resourceType := str "folder" }]

theorem parentAndChild_inOrder : InOrder parentAndChild := by
  refine (inOrder_iff parentAndChild (by decide)).mpr fun e _ p hnames hfound => ?_
  obtain ⟨key, -, hp⟩ := hnames
  obtain ⟨hmem, -, -⟩ := findKeyOfKind_eq_some hp
  -- every key of this manifest is declared once
  have hall : ∀ q ∈ parentAndChild.entities, findKey parentAndChild q.key = some q := by
    decide
  exact absurd (hall p hmem) hfound

end Axiam.Management
