import Axiam.Management.Validate

/-!
# What validation establishes

`validate` as a property of the manifest, and the order its entities are put in: a strict linear
order, so that the list `ordered` returns is the one sorted list of the manifest's entities.
-/

namespace Axiam.Management

/-! ## Checks as properties -/

theorem forM_ok_iff {ε α : Type} (f : α → Except ε Unit) (l : List α) :
    l.forM f = .ok () ↔ ∀ x ∈ l, f x = .ok () := by
  induction l with
  | nil => simp [pure, Except.pure]
  | cons x rest ih =>
      show (f x >>= fun _ => rest.forM f) = .ok () ↔ _
      rw [List.forall_mem_cons, ← ih]
      rcases f x with e | u
      · simp [bind, Except.bind]
      · simp [bind, Except.bind]

theorem refuse_ne_ok {α : Type} {what : Str} {a : α} : refuse what ≠ .ok a := by
  rintro ⟨⟩

/-- A check that refuses when a condition holds. -/
theorem ite_refuse_ok_iff {α : Type} {c : Prop} [Decidable c] {what : Str} {x : Except Exc α}
    {a : α} : (if c then refuse what else x) = .ok a ↔ ¬c ∧ x = .ok a := by
  by_cases hc : c
  · simp [hc, refuse_ne_ok]
  · simp [hc]

/-- What identifies an entity. -/
def ManifestEntity.identity (e : ManifestEntity) : ManifestKind × Str := (e.kind, e.key)

theorem checkIdentities_ok_iff (seen : List (ManifestKind × Str)) (l : List ManifestEntity) :
    checkIdentities seen l = .ok () ↔
      (l.map ManifestEntity.identity).Nodup ∧ (∀ e ∈ l, e.identity ∉ seen) ∧
      (∀ e ∈ l, e.key ≠ []) ∧ ∀ e ∈ l, e.kind = .resource → e.resourceType ≠ [] := by
  induction l generalizing seen with
  | nil => simp [checkIdentities]
  | cons e rest ih =>
      unfold checkIdentities
      rw [ite_refuse_ok_iff, ite_refuse_ok_iff, ite_refuse_ok_iff, ih]
      simp only [List.map_cons, List.nodup_cons, List.mem_map, List.mem_cons, forall_eq_or_imp,
        not_and, not_or, not_exists]
      constructor
      · rintro ⟨hkey, hseen, htype, hnodup, hrest, hkeys, htypes⟩
        refine ⟨⟨fun x hx heq => (hrest x hx).1 heq, hnodup⟩, ⟨hseen, fun x hx => (hrest x hx).2⟩,
          ⟨hkey, hkeys⟩, ⟨htype, htypes⟩⟩
      · rintro ⟨⟨hnew, hnodup⟩, ⟨hseen, hrest⟩, ⟨hkey, hkeys⟩, htype, htypes⟩
        exact ⟨hkey, hseen, htype, hnodup, fun x hx => ⟨fun heq => hnew x hx heq, hrest x hx⟩,
          hkeys, htypes⟩

theorem checkReference_ok_iff (m : Manifest) (e : ManifestEntity) :
    checkReference m e = .ok () ↔ ∀ key ∈ e.dependsOn, findKey m key ≠ none := by
  unfold checkReference
  split
  next h => simp [h]
  next key h =>
    simp only [h, Option.mem_some, forall_eq']
    split
    next x hx => simp [hx]
    next hx => simp [hx, refuse_ne_ok]

theorem checkCycle_ok_iff (m : Manifest) (e : ManifestEntity) :
    checkCycle m e = .ok () ↔ chainEnds m m.entities.length e = true := by
  unfold checkCycle
  by_cases h : chainEnds m m.entities.length e = true
  · simp [h]
  · simp [h, refuse_ne_ok]

theorem checkFilterIds_ok_iff (key : Str) (names l : List Str) :
    checkFilterIds key names l = .ok () ↔ l.Nodup ∧ ∀ f ∈ l, f ∉ names := by
  induction l generalizing names with
  | nil => simp [checkFilterIds]
  | cons f rest ih =>
      unfold checkFilterIds
      rw [ite_refuse_ok_iff, ih]
      simp only [List.nodup_cons, List.mem_cons, forall_eq_or_imp, not_or]
      constructor
      · rintro ⟨hf, hnodup, hrest⟩
        exact ⟨⟨fun h => (hrest f h).1 rfl, hnodup⟩, hf, fun x hx => (hrest x hx).2⟩
      · rintro ⟨⟨hnew, hnodup⟩, hf, hrest⟩
        exact ⟨hf, hnodup, fun x hx => ⟨fun heq => hnew (heq ▸ hx), hrest x hx⟩⟩

/-- The natural key of a segment entity. -/
def segmentKeyOf (e : ManifestEntity) : Option Str :=
  if e.kind = .networkSegment then
    e.networkSegment.map fun s => segmentNaturalKey s.site s.kind s.name
  else none

/-- The segment a profile entity names. -/
def profileSegmentOf (e : ManifestEntity) : Option Str :=
  if e.kind = .networkProfile then e.networkProfile.map ManifestNetworkProfile.segment else none

/-- What the network checks ask of one entity. -/
@[mk_iff]
structure NetworkOk (m : Manifest) (e : ManifestEntity) : Prop where
  policy : e.kind = .networkPolicy → e.networkPolicy ≠ none
  segment : e.kind = .networkSegment →
    ∃ s, e.networkSegment = some s ∧ (s.filterIds.getD []).Nodup
  profile : e.kind = .networkProfile →
    ∃ p, e.networkProfile = some p ∧ findKeyOfKind m p.segment .networkSegment ≠ none

/-- What the network checks ask of one entity after others. -/
@[mk_iff]
structure NetworkFresh (seen : NetworkSeen) (e : ManifestEntity) : Prop where
  policy : e.kind = .networkPolicy → seen.policy = false
  segment : ∀ k ∈ segmentKeyOf e, k ∉ seen.segmentKeys
  profile : ∀ k ∈ profileSegmentOf e, k ∉ seen.profileSegments

/-- What was seen, and one entity more. -/
def NetworkSeen.add (seen : NetworkSeen) (e : ManifestEntity) : NetworkSeen where
  segmentKeys := (segmentKeyOf e).toList ++ seen.segmentKeys
  profileSegments := (profileSegmentOf e).toList ++ seen.profileSegments
  policy := seen.policy || decide (e.kind = .networkPolicy)

theorem checkNetworkEntity_ok_iff (m : Manifest) (seen next : NetworkSeen) (e : ManifestEntity) :
    checkNetworkEntity m seen e = .ok next ↔
      NetworkOk m e ∧ NetworkFresh seen e ∧ seen.add e = next := by
  rcases e with ⟨kind, key, _, _, _, _, _, _, _, _, seg, prof, pol⟩
  rw [networkOk_iff, networkFresh_iff]
  cases kind with
  | networkPolicy =>
      cases pol <;> cases hseen : seen.policy <;>
        simp [checkNetworkEntity, NetworkSeen.add, segmentKeyOf, profileSegmentOf, refuse_ne_ok,
          hseen]
  | networkSegment =>
      rcases seg with _ | spec
      · simp [checkNetworkEntity, refuse_ne_ok]
      · simp only [checkNetworkEntity, ite_refuse_ok_iff]
        rcases hfilter : checkFilterIds key [] (spec.filterIds.getD []) with e | u
        · have hdup : ¬(spec.filterIds.getD []).Nodup := by
            intro hnodup
            have := (checkFilterIds_ok_iff key [] _).mpr ⟨hnodup, by simp⟩
            rw [hfilter] at this
            cases this
          simp [hdup, bind, Except.bind]
        · have hnodup := ((checkFilterIds_ok_iff key [] _).mp hfilter).1
          simp [NetworkSeen.add, segmentKeyOf, profileSegmentOf, hnodup, bind, Except.bind]
  | networkProfile =>
      rcases prof with _ | spec
      · simp [checkNetworkEntity, refuse_ne_ok]
      · simp only [checkNetworkEntity, ite_refuse_ok_iff]
        simp [NetworkSeen.add, segmentKeyOf, profileSegmentOf, Option.isNone_iff_eq_none]
  | _ => simp [checkNetworkEntity, NetworkSeen.add, segmentKeyOf, profileSegmentOf]

/-- Two entities that are not both the policy, the same segment or the profile of one segment. -/
@[mk_iff]
structure NetworkApart (a b : ManifestEntity) : Prop where
  policy : a.kind = .networkPolicy → b.kind ≠ .networkPolicy
  segment : ∀ k ∈ segmentKeyOf a, k ∉ segmentKeyOf b
  profile : ∀ k ∈ profileSegmentOf a, k ∉ profileSegmentOf b

theorem NetworkApart.symm {a b : ManifestEntity} (h : NetworkApart a b) : NetworkApart b a where
  policy hb ha := h.policy ha hb
  segment k hb ha := h.segment k ha hb
  profile k hb ha := h.profile k ha hb

theorem networkFresh_add_iff (seen : NetworkSeen) (a b : ManifestEntity) :
    NetworkFresh (seen.add a) b ↔ NetworkFresh seen b ∧ NetworkApart a b := by
  constructor
  · rintro ⟨hpolicy, hsegment, hprofile⟩
    simp only [NetworkSeen.add, Bool.or_eq_false_iff, decide_eq_false_iff_not, List.mem_append,
      Option.mem_toList, not_or] at hpolicy hsegment hprofile
    exact ⟨⟨fun hb => (hpolicy hb).1, fun k hk => (hsegment k hk).2, fun k hk => (hprofile k hk).2⟩,
      ⟨fun ha hb => (hpolicy hb).2 ha, fun k ha hb => (hsegment k hb).1 ha,
        fun k ha hb => (hprofile k hb).1 ha⟩⟩
  · rintro ⟨⟨hpolicy, hsegment, hprofile⟩, ⟨hpolicy', hsegment', hprofile'⟩⟩
    refine ⟨fun hb => ?_, fun k hk => ?_, fun k hk => ?_⟩
    · rw [NetworkSeen.add, hpolicy hb, Bool.false_or, decide_eq_false_iff_not]
      exact fun ha => hpolicy' ha hb
    · simp only [NetworkSeen.add, List.mem_append, Option.mem_toList, not_or]
      exact ⟨fun ha => hsegment' k ha hk, hsegment k hk⟩
    · simp only [NetworkSeen.add, List.mem_append, Option.mem_toList, not_or]
      exact ⟨fun ha => hprofile' k ha hk, hprofile k hk⟩

theorem checkNetwork_ok_iff (m : Manifest) (seen : NetworkSeen) (l : List ManifestEntity) :
    checkNetwork m seen l = .ok () ↔
      (∀ e ∈ l, NetworkOk m e) ∧ l.Pairwise NetworkApart ∧ ∀ e ∈ l, NetworkFresh seen e := by
  induction l generalizing seen with
  | nil => simp [checkNetwork]
  | cons e rest ih =>
      have hstep : checkNetwork m seen (e :: rest) = .ok () ↔
          ∃ next, checkNetworkEntity m seen e = .ok next ∧ checkNetwork m next rest = .ok () := by
        show (checkNetworkEntity m seen e >>= fun next => checkNetwork m next rest) = .ok () ↔ _
        rcases checkNetworkEntity m seen e with e | next
        · simp [bind, Except.bind]
        · simp [bind, Except.bind]
      rw [hstep]
      simp only [checkNetworkEntity_ok_iff, ih, List.forall_mem_cons, List.pairwise_cons]
      constructor
      · rintro ⟨_, ⟨hok, hfresh, rfl⟩, hrest, hapart, hadd⟩
        simp only [networkFresh_add_iff] at hadd
        exact ⟨⟨hok, hrest⟩, ⟨fun x hx => (hadd x hx).2, hapart⟩, hfresh, fun x hx => (hadd x hx).1⟩
      · rintro ⟨⟨hok, hrest⟩, ⟨hnew, hapart⟩, hfresh, hseen⟩
        refine ⟨_, ⟨hok, hfresh, rfl⟩, hrest, hapart, fun x hx => ?_⟩
        rw [networkFresh_add_iff]
        exact ⟨hseen x hx, hnew x hx⟩

/-- What the binding checks ask of one binding. -/
@[mk_iff]
structure BindingOk (m : Manifest) (b : ManifestRoleBinding) : Prop where
  role : findKeyOfKind m b.role .role ≠ none
  resource : ∀ key ∈ b.resource, findKeyOfKind m key .resource ≠ none
  inheriting : b.narrowed = true → b.resource ≠ none ∧
    ∀ role ∈ findKeyOfKind m b.role .role, role.isGlobal = false

theorem checkBindings_ok_iff (m : Manifest) (key : Str) (seen : List Str)
    (l : List ManifestRoleBinding) :
    checkBindings m key seen l = .ok () ↔ (∀ b ∈ l, BindingOk m b) ∧
      (l.map ManifestRoleBinding.role).Nodup ∧ ∀ b ∈ l, b.role ∉ seen := by
  induction l generalizing seen with
  | nil => simp [checkBindings]
  | cons b rest ih =>
      unfold checkBindings
      split
      next hrole => simp [refuse_ne_ok, bindingOk_iff, hrole]
      next role hrole =>
        rw [ite_refuse_ok_iff, ite_refuse_ok_iff, ite_refuse_ok_iff, ite_refuse_ok_iff, ih]
        simp only [List.map_cons, List.nodup_cons, List.mem_map, List.mem_cons, forall_eq_or_imp,
          not_or, not_exists, not_and]
        have hb : BindingOk m b ↔ (¬(b.resource.any fun r =>
            (findKeyOfKind m r .resource).isNone) = true) ∧
            (b.narrowed = true → ¬role.isGlobal = true) ∧ (b.resource = none → ¬b.narrowed = true) := by
          rw [bindingOk_iff, hrole]
          cases hres : b.resource <;> cases hn : b.narrowed <;> cases hg : role.isGlobal <;>
            simp [hg, Option.isNone_iff_eq_none]
        rw [hb]
        constructor
        · rintro ⟨hseen, hres, hglobal, hplain, hok, hnodup, hrest⟩
          exact ⟨⟨⟨hres, hglobal, hplain⟩, hok⟩, ⟨fun x hx heq => (hrest x hx).1 heq, hnodup⟩, hseen,
            fun x hx => (hrest x hx).2⟩
        · rintro ⟨⟨⟨hres, hglobal, hplain⟩, hok⟩, ⟨hnew, hnodup⟩, hseen, hrest⟩
          exact ⟨hseen, hres, hglobal, hplain, hok, hnodup, fun x hx => ⟨fun heq => hnew x hx heq,
            hrest x hx⟩⟩

/-- What the binding checks ask of one entity. -/
@[mk_iff]
structure RolesOk (m : Manifest) (e : ManifestEntity) : Prop where
  bindings : ∀ b ∈ e.roles, BindingOk m b
  distinct : (e.roles.map ManifestRoleBinding.role).Nodup

theorem checkRoles_ok_iff (m : Manifest) (e : ManifestEntity) :
    checkRoles m e = .ok () ↔ (e.kind.holdsRoles = true → RolesOk m e) := by
  unfold checkRoles
  by_cases h : e.kind.holdsRoles = true
  · rw [if_pos h, checkBindings_ok_iff, rolesOk_iff]
    simp [h]
  · rw [if_neg h]
    simp [h]

/-- A manifest that `validate` accepts. -/
structure Valid (m : Manifest) : Prop where
  identities : (m.entities.map ManifestEntity.identity).Nodup
  keys : ∀ e ∈ m.entities, e.key ≠ []
  types : ∀ e ∈ m.entities, e.kind = .resource → e.resourceType ≠ []
  references : ∀ e ∈ m.entities, ∀ key ∈ e.dependsOn, findKey m key ≠ none
  chains : ∀ e ∈ m.entities, chainEnds m m.entities.length e = true
  network : ∀ e ∈ m.entities, NetworkOk m e
  apart : m.entities.Pairwise NetworkApart
  roles : ∀ e ∈ m.entities, e.kind.holdsRoles = true → RolesOk m e

theorem except_seq_ok_iff {ε : Type} {x y : Except ε Unit} :
    (x >>= fun _ => y) = .ok () ↔ x = .ok () ∧ y = .ok () := by
  rcases x with e | u
  · simp [bind, Except.bind]
  · simp [bind, Except.bind]

/-- `validate` accepts exactly the valid manifests. -/
theorem validate_ok_iff (m : Manifest) : validate m = .ok () ↔ Valid m := by
  show (checkIdentities [] m.entities >>= fun _ => m.entities.forM (checkReference m) >>= fun _ =>
    m.entities.forM (checkCycle m) >>= fun _ => checkNetwork m {} m.entities >>= fun _ =>
    m.entities.forM (checkRoles m)) = .ok () ↔ _
  simp only [except_seq_ok_iff, forM_ok_iff, checkIdentities_ok_iff, checkReference_ok_iff,
    checkCycle_ok_iff, checkNetwork_ok_iff, checkRoles_ok_iff]
  have hfresh : ∀ e, NetworkFresh {} e := fun e => ⟨fun _ => rfl, by simp, by simp⟩
  constructor
  · rintro ⟨⟨hids, -, hkeys, htypes⟩, hrefs, hchains, ⟨hnetwork, hapart, -⟩, hroles⟩
    exact ⟨hids, hkeys, htypes, hrefs, hchains, hnetwork, hapart, hroles⟩
  · rintro ⟨hids, hkeys, htypes, hrefs, hchains, hnetwork, hapart, hroles⟩
    exact ⟨⟨hids, by simp, hkeys, htypes⟩, hrefs, hchains, ⟨hnetwork, hapart, fun e _ => hfresh e⟩,
      hroles⟩

/-! ## The order -/

section

variable (m : Manifest)

/-- What `ordered` sorts by: the kind, the depth, a profile's segment, the key. -/
def sortKey (e : ManifestEntity) : ℕ ×ₗ ℕ ×ₗ List ℕ ×ₗ List ℕ :=
  toLex (e.kind.rank, toLex (depthOf m e,
    toLex (((profileSegmentOf e).getD []).map UInt8.toNat, e.key.map UInt8.toNat)))

theorem bytes_inj {s t : Str} (h : s.map UInt8.toNat = t.map UInt8.toNat) : s = t :=
  List.map_injective_iff.mpr (fun _ _ => UInt8.toNat_inj.mp) h

variable {m} in
/-- The comparison of `ordered` is the order of the sort keys. -/
theorem precedes_iff {a b : ManifestEntity} (ha : NetworkOk m a) (hb : NetworkOk m b) :
    precedes m a b = true ↔ sortKey m a < sortKey m b := by
  unfold sortKey precedes
  rw [Prod.Lex.toLex_lt_toLex]
  by_cases hkind : a.kind = b.kind
  · simp only [hkind, ne_eq, not_true_eq_false, if_false, lt_irrefl, true_and, false_or]
    rw [Prod.Lex.toLex_lt_toLex]
    by_cases hdepth : depthOf m a = depthOf m b
    · simp only [hdepth, not_true_eq_false, if_false, lt_irrefl, true_and, false_or]
      rw [Prod.Lex.toLex_lt_toLex]
      by_cases hprofile : b.kind = .networkProfile
      · obtain ⟨p, hp, -⟩ := ha.profile (hkind.trans hprofile)
        obtain ⟨q, hq, -⟩ := hb.profile hprofile
        simp only [hp, hq, profileSegmentOf, hkind, hprofile, true_and, if_true, Option.map_some,
          Option.getD_some, strLess]
        by_cases hseg : p.segment = q.segment
        · simp [hseg]
        · have hne : p.segment.map UInt8.toNat ≠ q.segment.map UInt8.toNat := fun h =>
            hseg (bytes_inj h)
          simp [hseg, hne]
      · have hna : profileSegmentOf a = none := if_neg (by rw [hkind]; exact hprofile)
        have hnb : profileSegmentOf b = none := if_neg hprofile
        simp only [hna, hnb, lt_irrefl, true_and, false_or]
        split
        · simp [hprofile, strLess]
        · simp [strLess]
    · simp [hdepth]
  · have hrank : a.kind.rank ≠ b.kind.rank := fun h => hkind (ManifestKind.rank_inj h)
    simp [hkind, hrank]

/-- Two entities that sort alike are of one kind and have one key. -/
theorem identity_of_sortKey {a b : ManifestEntity} (h : sortKey m a = sortKey m b) :
    a.identity = b.identity := by
  simp only [sortKey, EmbeddingLike.apply_eq_iff_eq, Prod.mk.injEq] at h
  exact Prod.ext (ManifestKind.rank_inj h.1) (bytes_inj h.2.2.2)

/-- The list of a manifest's entities in the order of their sort keys. -/
structure Sorted (l : List ManifestEntity) : Prop where
  perm : l.Perm m.entities
  sorted : l.Pairwise fun a b => sortKey m a < sortKey m b

end

section

variable {m : Manifest}

theorem Valid.nodup (h : Valid m) : m.entities.Nodup :=
  h.identities.of_map ManifestEntity.identity

/-- `ordered` refuses what `validate` refuses, and otherwise sorts. -/
theorem ordered_eq_ok {l : List ManifestEntity} (h : ordered m = .ok l) :
    Valid m ∧ l = stableSort (precedes m) m.entities := by
  unfold ordered at h
  rcases hvalid : validate m with e | u
  · rw [hvalid] at h
    cases h
  · rw [hvalid] at h
    cases h
    exact ⟨(validate_ok_iff m).mp hvalid, rfl⟩

theorem ordered_of_valid (h : Valid m) :
    ordered m = .ok (stableSort (precedes m) m.entities) := by
  unfold ordered
  rw [(validate_ok_iff m).mpr h]
  rfl

/-- The sort puts a valid manifest's entities in order. -/
theorem stableSort_sorted (h : Valid m) : Sorted m (stableSort (precedes m) m.entities) := by
  have hperm : (stableSort (precedes m) m.entities).Perm m.entities := List.perm_insertionSort _ _
  refine ⟨hperm, ?_⟩
  have hle : ∀ a ∈ m.entities, ∀ b ∈ m.entities,
      precedes m b a = false ↔ sortKey m (id a) ≤ sortKey m (id b) := by
    intro a ha b hb
    rw [← Bool.not_eq_true, precedes_iff (h.network b hb) (h.network a ha), not_lt]
    rfl
  have hsame := List.map_insertionSort (r := fun a b => precedes m b a = false)
    (s := fun a b => sortKey m a ≤ sortKey m b) id m.entities hle
  rw [List.map_id, List.map_id] at hsame
  have : Std.Total fun a b => sortKey m a ≤ sortKey m b := ⟨fun a b => le_total _ _⟩
  have : IsTrans ManifestEntity fun a b => sortKey m a ≤ sortKey m b := ⟨fun _ _ _ => le_trans⟩
  have hsorted : (stableSort (precedes m) m.entities).Pairwise fun a b =>
      sortKey m a ≤ sortKey m b := by
    unfold stableSort
    rw [hsame]
    exact List.pairwise_insertionSort _ _
  have hdistinct : (stableSort (precedes m) m.entities).Pairwise fun a b =>
      a.identity ≠ b.identity :=
    List.pairwise_map.mp ((hperm.map ManifestEntity.identity).nodup_iff.mpr h.identities)
  exact (hsorted.and hdistinct).imp fun hab =>
    lt_of_le_of_ne hab.1 fun heq => hab.2 (identity_of_sortKey m heq)

/-- There is one such list. -/
theorem Sorted.unique {l l' : List ManifestEntity} (h : Sorted m l) (h' : Sorted m l') : l = l' :=
  (h.perm.trans h'.perm.symm).eq_of_pairwise
    (fun _ _ _ _ hab hba => absurd (hab.trans hba) (lt_irrefl _)) h.sorted h'.sorted

/-- Of two entities the one with the smaller sort key comes first. -/
theorem Sorted.idxOf_lt_iff {l : List ManifestEntity} (h : Sorted m l) {a b : ManifestEntity}
    (ha : a ∈ m.entities) (hb : b ∈ m.entities) :
    l.idxOf a < l.idxOf b ↔ sortKey m a < sortKey m b := by
  have hforth : ∀ {a b : ManifestEntity}, a ∈ m.entities → b ∈ m.entities →
      l.idxOf a < l.idxOf b → sortKey m a < sortKey m b := by
    intro a b ha hb hlt
    have hia : l.idxOf a < l.length := List.idxOf_lt_length_of_mem (h.perm.mem_iff.mpr ha)
    have hib : l.idxOf b < l.length := List.idxOf_lt_length_of_mem (h.perm.mem_iff.mpr hb)
    have hkeys := List.pairwise_iff_getElem.mp h.sorted _ _ hia hib hlt
    rwa [List.getElem_idxOf hia, List.getElem_idxOf hib] at hkeys
  refine ⟨hforth ha hb, fun hlt => ?_⟩
  rcases lt_trichotomy (l.idxOf a) (l.idxOf b) with hidx | hidx | hidx
  · exact hidx
  · have heq : a = b := (List.idxOf_inj (h.perm.mem_iff.mpr ha)).mp hidx
    rw [heq] at hlt
    exact absurd hlt (lt_irrefl _)
  · exact absurd (hlt.trans (hforth hb ha hidx)) (lt_irrefl _)

/-! ## Keys and depths -/

theorem findKey_eq_some {key : Str} {e : ManifestEntity} (h : findKey m key = some e) :
    e ∈ m.entities ∧ e.key = key := by
  refine ⟨List.mem_of_find?_eq_some h, ?_⟩
  simpa using List.find?_some h

theorem findKeyOfKind_eq_some {key : Str} {kind : ManifestKind} {e : ManifestEntity}
    (h : findKeyOfKind m key kind = some e) : e ∈ m.entities ∧ e.key = key ∧ e.kind = kind := by
  have hfound := List.find?_some h
  simp only [Bool.and_eq_true, beq_iff_eq] at hfound
  exact ⟨List.mem_of_find?_eq_some h, hfound⟩

/-- An entity is found under its kind and key, when no two share both. -/
theorem findKeyOfKind_iff_of_nodup (hids : (m.entities.map ManifestEntity.identity).Nodup)
    {key : Str} {kind : ManifestKind} {e : ManifestEntity} :
    findKeyOfKind m key kind = some e ↔ e ∈ m.entities ∧ e.key = key ∧ e.kind = kind := by
  refine ⟨findKeyOfKind_eq_some, ?_⟩
  rintro ⟨he, rfl, rfl⟩
  cases hfound : findKeyOfKind m e.key e.kind with
  | none =>
      have := List.find?_eq_none.mp hfound e he
      simp at this
  | some x =>
      obtain ⟨hx, hkey, hkind⟩ := findKeyOfKind_eq_some hfound
      have : x = e := List.inj_on_of_nodup_map hids hx he (Prod.ext hkind hkey)
      rw [this]

/-- A chain that ends within `k` steps has its depth counted within `k` steps. -/
theorem depthFrom_of_chainEnds {k guard : Nat} {e : ManifestEntity}
    (hends : chainEnds m k e = true) (hle : k ≤ guard) : depthFrom m guard e = depthFrom m k e := by
  induction k generalizing e guard with
  | zero =>
      have hnone : e.dependsOn = none := by
        unfold chainEnds at hends
        split at hends
        · assumption
        · cases hends
        · contradiction
      cases guard with
      | zero => rfl
      | succ guard => simp [depthFrom, hnone]
  | succ k ih =>
      obtain ⟨guard, rfl⟩ := Nat.exists_eq_add_of_le' (show 1 ≤ guard by omega)
      unfold chainEnds at hends
      unfold depthFrom
      cases hdep : e.dependsOn with
      | none => rfl
      | some key =>
          rw [hdep] at hends
          cases hfound : findKey m key with
          | none => simp [hfound]
          | some next =>
              simp only [hfound] at hends
              simp only [Option.bind_some, hfound]
              rw [ih hends (by omega)]

/-- In a valid manifest an entity is one deeper than the entity of its kind it depends on. -/
theorem Valid.depthOf_succ (h : Valid m) {e parent : ManifestEntity} {key : Str}
    (hdep : e.dependsOn = some key) (hparent : findKey m key = some parent)
    (hkind : parent.kind = e.kind) : depthOf m e = depthOf m parent + 1 := by
  have hends := h.chains parent (findKey_eq_some hparent).1
  have hstep : depthOf m e = depthFrom m m.entities.length parent + 1 := by
    unfold depthOf
    simp only [depthFrom, hdep, Option.bind_some, hparent, hkind, if_true]
  rw [hstep]
  unfold depthOf
  rw [depthFrom_of_chainEnds hends (Nat.le_succ _)]

/-- An entity whose key is found in another kind has no depth. -/
theorem depthOf_of_other {e parent : ManifestEntity} {key : Str}
    (hdep : e.dependsOn = some key) (hparent : findKey m key = some parent)
    (hkind : parent.kind ≠ e.kind) : depthOf m e = 0 := by
  simp [depthOf, depthFrom, hdep, hparent, hkind]

/-- Entities of a smaller kind come first. -/
theorem sortKey_lt_of_kind {a b : ManifestEntity} (h : a.kind.rank < b.kind.rank) :
    sortKey m a < sortKey m b :=
  Prod.Lex.toLex_lt_toLex.mpr (.inl h)

/-- Entities of one kind, that is not the profiles', come by depth and then by key. -/
theorem sortKey_lt_iff {a b : ManifestEntity} (hkind : a.kind = b.kind)
    (hprofile : b.kind ≠ .networkProfile) :
    sortKey m a < sortKey m b ↔ depthOf m a < depthOf m b ∨
      (depthOf m a = depthOf m b ∧ strLess a.key b.key = true) := by
  have hna : profileSegmentOf a = none := if_neg (by rw [hkind]; exact hprofile)
  have hnb : profileSegmentOf b = none := if_neg hprofile
  unfold sortKey
  simp [Prod.Lex.toLex_lt_toLex, hkind, hna, hnb, strLess]

end

end Axiam.Management
