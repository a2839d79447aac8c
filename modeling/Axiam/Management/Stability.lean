import Mathlib.Logic.Relation
import Axiam.Management.Dependency

/-!
# Plans and the order a manifest is written in

`ordered` looks a `depends_on` key up with `find_key`, whose answer is the entity that was written
first.  Writing the entities in another order can therefore change depths, and close a cycle.  What
a permutation can do is choose, for every key, the entity that is found: the order is stable
exactly when no choice closes a cycle and no choice of one key moves two entities.
-/

namespace Axiam.Management

open Axiam.Lib Axiam.Lib.Prog Relation

/-! ## Statements -/

/-- Neither the order nor any plan depends on how the entities were listed. -/
structure Stable (m : Manifest) : Prop where
  order : ∀ m' : Manifest, m'.entities.Perm m.entities → ordered m' = ordered m
  plans : ∀ m' : Manifest, m'.entities.Perm m.entities → ∀ (σ : Type) (api : Api σ) (s : σ),
    plan api m' s = plan api m s

/-- `p` is one of the entities that `e`'s reference can be taken for. -/
def Refers (m : Manifest) (e p : ManifestEntity) : Prop :=
  p ∈ m.entities ∧ e.dependsOn = some p.key

/-- The key of an entity of this kind, and of one of another. -/
def DeclaredTwice (m : Manifest) (kind : ManifestKind) (key : Str) : Prop :=
  findKeyOfKind m key kind ≠ none ∧ ∃ k ≠ kind, findKeyOfKind m key k ≠ none

/-- How deep an entity lies when references stay in its kind, except those to the keys that are
cut: these are taken for entities of another kind. -/
def ownDepthFrom (m : Manifest) (cut : Str → Bool) : Nat → ManifestEntity → Nat
  | 0, _ => 0
  | guard + 1, e =>
      match e.dependsOn with
      | none => 0
      | some key =>
          if cut key then 0
          else match findKeyOfKind m key e.kind with
            | none => 0
            | some p => ownDepthFrom m cut guard p + 1

def ownDepth (m : Manifest) (cut : Str → Bool) (e : ManifestEntity) : Nat :=
  ownDepthFrom m cut (m.entities.length + 1) e

/-- What breaks a tie of depths: a profile's segment, then the key. -/
def tieKey (e : ManifestEntity) : List ℕ ×ₗ List ℕ :=
  toLex (((profileSegmentOf e).getD []).map UInt8.toNat, e.key.map UInt8.toNat)

/-- What the entities of one kind are sorted by. -/
def ownKey (m : Manifest) (cut : Str → Bool) (e : ManifestEntity) : ℕ ×ₗ List ℕ ×ₗ List ℕ :=
  toLex (ownDepth m cut e, tieKey e)

/-- No reference is left to the order of the list. -/
structure Settled (m : Manifest) : Prop where
  /-- No cycle, whatever entity each reference is taken for. -/
  acyclic : ∀ e ∈ m.entities, ¬TransGen (Refers m) e e
  /-- The order within a kind stays when one key is taken for an entity of another kind. -/
  order : ∀ a ∈ m.entities, ∀ b ∈ m.entities, a.kind = b.kind →
    ∀ key, DeclaredTwice m a.kind key →
      (ownKey m (· == key) a < ownKey m (· == key) b ↔
        ownKey m (fun _ => false) a < ownKey m (fun _ => false) b)

section

variable {m : Manifest}

/-! ## Depths -/

/-- The keys that `find_key` does not find in a kind. -/
def elsewhere (m : Manifest) (kind : ManifestKind) (key : Str) : Bool :=
  decide (findKey m key ≠ findKeyOfKind m key kind)

theorem findKeyOfKind_of_findKey {key : Str} {p : ManifestEntity} (h : findKey m key = some p) :
    findKeyOfKind m key p.kind = some p := by
  unfold findKey at h
  unfold findKeyOfKind
  obtain ⟨hp, l₁, l₂, hl, hfirst⟩ := List.find?_eq_some_iff_append.mp h
  refine List.find?_eq_some_iff_append.mpr ⟨by simpa using hp, l₁, l₂, hl, fun x hx => ?_⟩
  have := hfirst x hx
  simp only [Bool.not_eq_true', beq_eq_false_iff_ne, ne_eq] at this
  simp [this]

theorem findKeyOfKind_of_findKey_none {key : Str} (h : findKey m key = none)
    (kind : ManifestKind) : findKeyOfKind m key kind = none := by
  cases hown : findKeyOfKind m key kind with
  | none => rfl
  | some p =>
      obtain ⟨hp, hkey, -⟩ := findKeyOfKind_eq_some hown
      have := List.find?_eq_none.mp h p hp
      simp [hkey] at this

/-- The depth that `ordered` counts is the one with what `find_key` finds elsewhere cut. -/
theorem depthFrom_eq (guard : Nat) (e : ManifestEntity) :
    depthFrom m guard e = ownDepthFrom m (elsewhere m e.kind) guard e := by
  induction guard generalizing e with
  | zero => rfl
  | succ guard ih =>
      unfold depthFrom ownDepthFrom
      cases hdep : e.dependsOn with
      | none => rfl
      | some key =>
          simp only [Option.bind_some]
          cases hfound : findKey m key with
          | none => simp [findKeyOfKind_of_findKey_none hfound e.kind]
          | some p =>
              have hown := findKeyOfKind_of_findKey hfound
              by_cases hkind : p.kind = e.kind
              · rw [hkind] at hown
                simp [elsewhere, hfound, hown, hkind, ih p]
              · have hne : findKey m key ≠ findKeyOfKind m key e.kind := by
                  rw [hfound]
                  intro heq
                  exact hkind (findKeyOfKind_eq_some heq.symm).2.2
                simp [elsewhere, hkind, hne]

theorem sortKey_eq (e : ManifestEntity) :
    sortKey m e = toLex (e.kind.rank, ownKey m (elsewhere m e.kind) e) := by
  unfold sortKey ownKey tieKey ownDepth depthOf
  rw [depthFrom_eq]

/-- The more is cut, the smaller the depth. -/
theorem ownDepthFrom_anti {cut cut' : Str → Bool} (h : ∀ key, cut key = true → cut' key = true)
    (guard : Nat) (e : ManifestEntity) :
    ownDepthFrom m cut' guard e ≤ ownDepthFrom m cut guard e := by
  induction guard generalizing e with
  | zero => exact le_refl _
  | succ guard ih =>
      unfold ownDepthFrom
      cases e.dependsOn with
      | none => exact le_refl _
      | some key =>
          by_cases hcut' : cut' key = true
          · simp [hcut']
          · have hcut : ¬cut key = true := fun hc => hcut' (h key hc)
            simp only [hcut', hcut]
            cases findKeyOfKind m key e.kind with
            | none => exact le_refl _
            | some p => exact Nat.succ_le_succ (ih p)

/-- Only what is cut of the keys of the kind itself counts. -/
theorem ownDepthFrom_congr {kind : ManifestKind} {cut cut' : Str → Bool}
    (h : ∀ key, findKeyOfKind m key kind ≠ none → cut key = cut' key) (guard : Nat)
    {e : ManifestEntity} (he : e.kind = kind) :
    ownDepthFrom m cut guard e = ownDepthFrom m cut' guard e := by
  induction guard generalizing e with
  | zero => rfl
  | succ guard ih =>
      unfold ownDepthFrom
      cases e.dependsOn with
      | none => rfl
      | some key =>
          cases hown : findKeyOfKind m key e.kind with
          | none => simp [hown]
          | some p =>
              have hkey := h key (by rw [← he, hown]; nofun)
              simp only [hkey, hown, ih ((findKeyOfKind_eq_some hown).2.2.trans he)]

/-- Of all that is cut only the first key on an entity's own chain counts. -/
theorem ownDepthFrom_first (cut : Str → Bool) (guard : Nat) (e : ManifestEntity) :
    ownDepthFrom m cut guard e = ownDepthFrom m (fun _ => false) guard e ∨
      ∃ key, cut key = true ∧ findKeyOfKind m key e.kind ≠ none ∧
        ownDepthFrom m cut guard e = ownDepthFrom m (· == key) guard e := by
  induction guard generalizing e with
  | zero => exact .inl rfl
  | succ guard ih =>
      unfold ownDepthFrom
      cases e.dependsOn with
      | none => exact .inl rfl
      | some key =>
          cases hown : findKeyOfKind m key e.kind with
          | none => exact .inl (by simp [hown])
          | some p =>
              by_cases hcut : cut key = true
              · exact .inr ⟨key, hcut, by rw [hown]; nofun, by simp [hcut]⟩
              · have hkind := (findKeyOfKind_eq_some hown).2.2
                rcases ih p with hp | ⟨first, hfirst, hfound, hp⟩
                · exact .inl (by simp [hcut, hown, hp])
                · refine .inr ⟨first, hfirst, hkind ▸ hfound, ?_⟩
                  have hne : key ≠ first := fun heq => hcut (heq ▸ hfirst)
                  simp [hcut, hown, hp, hne]

theorem ownKey_lt_iff {cut : Str → Bool} {a b : ManifestEntity} :
    ownKey m cut a < ownKey m cut b ↔ ownDepth m cut a < ownDepth m cut b ∨
      ownDepth m cut a = ownDepth m cut b ∧ tieKey a < tieKey b :=
  Prod.Lex.toLex_lt_toLex

/-- When no single cut moves two entities, no cut does. -/
theorem ownKey_lt_of_cut {cut : Str → Bool} {a b : ManifestEntity}
    (hsingle : ∀ key, cut key = true → findKeyOfKind m key a.kind ≠ none →
      ownKey m (· == key) a < ownKey m (· == key) b →
        ownKey m (fun _ => false) a < ownKey m (fun _ => false) b)
    (h : ownKey m cut a < ownKey m cut b) :
    ownKey m (fun _ => false) a < ownKey m (fun _ => false) b := by
  -- what is cut less lets `a` stay where it is and can only push `b` down
  have hpush : ∀ cut' : Str → Bool, (∀ key, cut' key = true → cut key = true) →
      ownDepth m cut a = ownDepth m cut' a → ownKey m cut' a < ownKey m cut' b := by
    intro cut' hsub ha
    have hb : ownDepth m cut b ≤ ownDepth m cut' b := ownDepthFrom_anti hsub _ b
    rw [ownKey_lt_iff] at h ⊢
    rcases h with hlt | ⟨heq, htie⟩
    · exact .inl (by omega)
    · rcases Nat.lt_or_ge (ownDepth m cut' a) (ownDepth m cut' b) with hlt | hge
      · exact .inl hlt
      · exact .inr ⟨by omega, htie⟩
  rcases ownDepthFrom_first cut _ a with ha | ⟨key, hkey, hfound, ha⟩
  · exact hpush _ (fun _ h => by cases h) ha
  · refine hsingle key hkey hfound (hpush _ (fun k hk => ?_) ha)
    rw [eq_of_beq hk]
    exact hkey

/-- Two entities of one kind are ordered alike whatever is cut, when no single cut matters. -/
theorem ownKey_lt_cut_iff {cut : Str → Bool} {a b : ManifestEntity}
    (hne : a.key = b.key → a = b)
    (hab : ∀ key, cut key = true → findKeyOfKind m key a.kind ≠ none →
      (ownKey m (· == key) a < ownKey m (· == key) b ↔
        ownKey m (fun _ => false) a < ownKey m (fun _ => false) b))
    (hba : ∀ key, cut key = true → findKeyOfKind m key b.kind ≠ none →
      (ownKey m (· == key) b < ownKey m (· == key) a ↔
        ownKey m (fun _ => false) b < ownKey m (fun _ => false) a)) :
    ownKey m cut a < ownKey m cut b ↔
      ownKey m (fun _ => false) a < ownKey m (fun _ => false) b := by
  refine ⟨ownKey_lt_of_cut fun key hcut hown => (hab key hcut hown).mp, fun h => ?_⟩
  rcases lt_trichotomy (ownKey m cut a) (ownKey m cut b) with hlt | heq | hgt
  · exact hlt
  · -- what sorts alike is one entity
    simp only [ownKey, tieKey, EmbeddingLike.apply_eq_iff_eq, Prod.mk.injEq] at heq
    rw [hne (bytes_inj heq.2.2)] at h
    exact absurd h (lt_irrefl _)
  · have hback := ownKey_lt_of_cut (fun key hcut hown => (hba key hcut hown).mp) hgt
    exact absurd (h.trans hback) (lt_irrefl _)

/-! ## Cycles -/

/-- A chain of an acyclic relation has no more elements than there are. -/
theorem length_le_of_isChain {α : Type} {R : α → α → Prop} {all l : List α}
    (hacyclic : ∀ x ∈ all, ¬TransGen R x x) (hl : ∀ x ∈ l, x ∈ all) (hchain : l.IsChain R) :
    l.length ≤ all.length := by
  have hpairs : l.Pairwise (TransGen R) :=
    List.isChain_iff_pairwise.mp (hchain.imp fun _ _ => TransGen.single)
  have hnodup : l.Nodup := by
    refine hpairs.imp_of_mem fun {a b} ha _ hab heq => ?_
    rw [← heq] at hab
    exact hacyclic a (hl a ha) hab
  exact (List.subperm_of_subset hnodup hl).length_le

/-- The steps of the cycle check, when it does not come to an end. -/
theorem exists_isChain_of_not_chainEnds {steps : Nat} {e : ManifestEntity}
    (h : chainEnds m steps e = false) :
    ∃ l, l.length = steps ∧ (∀ p ∈ l, p ∈ m.entities) ∧ (e :: l).IsChain (Refers m) := by
  induction steps generalizing e with
  | zero => exact ⟨[], rfl, fun p hp => (List.not_mem_nil hp).elim, List.IsChain.singleton e⟩
  | succ steps ih =>
      unfold chainEnds at h
      cases hdep : e.dependsOn with
      | none => rw [hdep] at h; cases h
      | some key =>
          simp only [hdep] at h
          cases hfound : findKey m key with
          | none => rw [hfound] at h; cases h
          | some p =>
              rw [hfound] at h
              obtain ⟨l, hlength, hmem, hchain⟩ := ih h
              obtain ⟨hp, rfl⟩ := findKey_eq_some hfound
              refine ⟨p :: l, by simp [hlength], List.forall_mem_cons.mpr ⟨hp, hmem⟩, ?_⟩
              exact List.isChain_cons_cons.mpr ⟨⟨hp, hdep⟩, hchain⟩

/-- Without a cycle the check comes to an end. -/
theorem chainEnds_of_acyclic (hacyclic : ∀ e ∈ m.entities, ¬TransGen (Refers m) e e)
    {e : ManifestEntity} (he : e ∈ m.entities) : chainEnds m m.entities.length e = true := by
  rw [← Bool.not_eq_false]
  intro h
  obtain ⟨l, hlength, hmem, hchain⟩ := exists_isChain_of_not_chainEnds h
  have := length_le_of_isChain hacyclic (List.forall_mem_cons.mpr ⟨he, hmem⟩) hchain
  rw [List.length_cons] at this
  omega

/-- The entities from which references can be followed for ever. -/
def Endless (m : Manifest) (e : ManifestEntity) : Prop :=
  ∃ c ∈ m.entities, ReflTransGen (Refers m) e c ∧ TransGen (Refers m) c c

theorem Endless.next {e : ManifestEntity} (h : Endless m e) :
    ∃ p, Refers m e p ∧ Endless m p := by
  obtain ⟨c, hc, hreach, hcycle⟩ := h
  rcases reflTransGen_iff_eq_or_transGen.mp hreach with rfl | htrans
  · obtain ⟨p, hp, hback⟩ := TransGen.head'_iff.mp hcycle
    exact ⟨p, hp, c, hc, hback, hcycle⟩
  · obtain ⟨p, hp, hback⟩ := TransGen.head'_iff.mp htrans
    exact ⟨p, hp, c, hc, hback, hcycle⟩

/-- Where `find_key` prefers these entities, the cycle check refuses. -/
theorem Endless.not_chainEnds {e : ManifestEntity} (h : Endless m e)
    (hfind : ∀ key p, p ∈ m.entities → p.key = key → Endless m p →
      ∃ q, findKey m key = some q ∧ Endless m q) (steps : Nat) : chainEnds m steps e = false := by
  induction steps generalizing e with
  | zero =>
      obtain ⟨p, hp, -⟩ := h.next
      simp [chainEnds, hp.2]
  | succ steps ih =>
      obtain ⟨p, hp, hend⟩ := h.next
      obtain ⟨q, hq, hqend⟩ := hfind p.key p hp.1 rfl hend
      simp [chainEnds, hp.2, hq, ih hqend]

/-! ## Permutations -/

section

variable {m' : Manifest}

theorem findKeyOfKind_perm (hids : (m.entities.map ManifestEntity.identity).Nodup)
    (hperm : m'.entities.Perm m.entities) : findKeyOfKind m' = findKeyOfKind m := by
  have hids' := (hperm.map ManifestEntity.identity).nodup_iff.mpr hids
  funext key kind
  refine Option.ext fun e => ?_
  rw [findKeyOfKind_iff_of_nodup hids, findKeyOfKind_iff_of_nodup hids', hperm.mem_iff]

theorem refers_perm (hperm : m'.entities.Perm m.entities) : Refers m' = Refers m := by
  funext e p
  unfold Refers
  rw [hperm.mem_iff]

theorem findKey_ne_none_iff {key : Str} :
    findKey m key ≠ none ↔ ∃ e ∈ m.entities, e.key = key := by
  constructor
  · intro h
    obtain ⟨e, he⟩ := Option.ne_none_iff_exists'.mp h
    exact ⟨e, findKey_eq_some he⟩
  · rintro ⟨e, he, hkey⟩ hnone
    have := List.find?_eq_none.mp hnone e he
    simp [hkey] at this

/-- Of the manifest's checks only the one for cycles can tell two orders apart. -/
theorem Valid.perm (h : Valid m) (hperm : m'.entities.Perm m.entities)
    (hacyclic : ∀ e ∈ m.entities, ¬TransGen (Refers m) e e) : Valid m' := by
  have hfind := findKeyOfKind_perm h.identities hperm
  have hmem : ∀ {e}, e ∈ m'.entities → e ∈ m.entities := hperm.mem_iff.mp
  refine {
    identities := (hperm.map ManifestEntity.identity).nodup_iff.mpr h.identities
    keys := fun e he => h.keys e (hmem he)
    types := fun e he => h.types e (hmem he)
    references := fun e he key hkey => ?_
    chains := fun e he => ?_
    network := fun e he => ?_
    apart := (hperm.pairwise_iff NetworkApart.symm).mpr h.apart
    roles := fun e he hholds => ?_ }
  · obtain ⟨p, hp, hpkey⟩ := findKey_ne_none_iff.mp (h.references e (hmem he) key hkey)
    exact findKey_ne_none_iff.mpr ⟨p, hperm.mem_iff.mpr hp, hpkey⟩
  · refine chainEnds_of_acyclic (fun x hx => ?_) he
    rw [refers_perm hperm]
    exact hacyclic x (hmem hx)
  · obtain ⟨hpolicy, hsegment, hprofile⟩ := h.network e (hmem he)
    exact ⟨hpolicy, hsegment, by rwa [hfind]⟩
  · obtain ⟨hbindings, hdistinct⟩ := h.roles e (hmem he) hholds
    refine ⟨fun b hb => ?_, hdistinct⟩
    obtain ⟨hrole, hresource, hinherit⟩ := hbindings b hb
    exact ⟨by rwa [hfind], by rwa [hfind], by rwa [hfind]⟩

theorem ownDepth_perm (hids : (m.entities.map ManifestEntity.identity).Nodup)
    (hperm : m'.entities.Perm m.entities) : ownDepth m' = ownDepth m := by
  have hfind := findKeyOfKind_perm hids hperm
  have hfrom : ∀ cut guard e, ownDepthFrom m' cut guard e = ownDepthFrom m cut guard e := by
    intro cut guard
    induction guard with
    | zero => exact fun _ => rfl
    | succ guard ih =>
        intro e
        unfold ownDepthFrom
        rw [hfind]
        simp only [ih]
  funext cut e
  unfold ownDepth
  rw [hperm.length_eq, hfrom]

theorem ownKey_perm (hids : (m.entities.map ManifestEntity.identity).Nodup)
    (hperm : m'.entities.Perm m.entities) : ownKey m' = ownKey m := by
  funext cut e
  unfold ownKey
  rw [ownDepth_perm hids hperm]

/-- A key that `find_key` finds elsewhere, though the kind declares it, is declared twice. -/
theorem declaredTwice_of_elsewhere (hids : (m.entities.map ManifestEntity.identity).Nodup)
    (hperm : m'.entities.Perm m.entities) {kind : ManifestKind} {key : Str}
    (h : elsewhere m' kind key = true) (hown : findKeyOfKind m key kind ≠ none) :
    DeclaredTwice m kind key := by
  refine ⟨hown, ?_⟩
  have hne : findKey m' key ≠ findKeyOfKind m' key kind := of_decide_eq_true h
  have hfind := findKeyOfKind_perm hids hperm
  cases hfound : findKey m' key with
  | none =>
      rw [hfound, findKeyOfKind_of_findKey_none hfound kind] at hne
      exact absurd rfl hne
  | some p =>
      have hp := findKeyOfKind_of_findKey hfound
      refine ⟨p.kind, fun hkind => ?_, ?_⟩
      · rw [hkind] at hp
        rw [hfound, hp] at hne
        exact hne rfl
      · rw [← hfind, hp]
        nofun

/-- A settled manifest is sorted alike in every order. -/
theorem Settled.sortKey_lt_iff (hm : Valid m) (h : Settled m)
    (hperm : m'.entities.Perm m.entities) {a b : ManifestEntity} (ha : a ∈ m.entities)
    (hb : b ∈ m.entities) :
    sortKey m' a < sortKey m' b ↔
      toLex (a.kind.rank, ownKey m (fun _ => false) a) <
        toLex (b.kind.rank, ownKey m (fun _ => false) b) := by
  rw [sortKey_eq, sortKey_eq, Prod.Lex.toLex_lt_toLex, Prod.Lex.toLex_lt_toLex]
  by_cases hrank : a.kind.rank = b.kind.rank
  · have hkind := ManifestKind.rank_inj hrank
    have hne : a.key = b.key → a = b := fun hkey =>
      List.inj_on_of_nodup_map hm.identities ha hb (Prod.ext hkind hkey)
    have hown : ownKey m' (elsewhere m' a.kind) a < ownKey m' (elsewhere m' b.kind) b ↔
        ownKey m (fun _ => false) a < ownKey m (fun _ => false) b := by
      rw [ownKey_perm hm.identities hperm, ← hkind]
      refine ownKey_lt_cut_iff hne (fun key hcut hfound => ?_) fun key hcut hfound => ?_
      · exact h.order a ha b hb hkind key
          (declaredTwice_of_elsewhere hm.identities hperm hcut hfound)
      · rw [← hkind] at hfound
        have htwice := declaredTwice_of_elsewhere hm.identities hperm hcut hfound
        rw [hkind] at htwice
        exact h.order b hb a ha hkind.symm key htwice
    simp [hrank, hown]
  · simp [hrank]

theorem Settled.ordered_eq (hm : Valid m) (h : Settled m) (hperm : m'.entities.Perm m.entities) :
    ordered m' = ordered m := by
  have hm' := hm.perm hperm h.acyclic
  rw [ordered_of_valid hm, ordered_of_valid hm']
  have hsorted := stableSort_sorted hm
  have hsorted' := stableSort_sorted hm'
  congr 1
  refine Sorted.unique (m := m) ⟨hsorted'.perm.trans hperm, ?_⟩ hsorted
  refine hsorted'.sorted.imp_of_mem fun {a b} ha hb hab => ?_
  have ha := hperm.mem_iff.mp (hsorted'.perm.mem_iff.mp ha)
  have hb := hperm.mem_iff.mp (hsorted'.perm.mem_iff.mp hb)
  rw [h.sortKey_lt_iff hm hperm ha hb] at hab
  exact (h.sortKey_lt_iff hm (List.Perm.refl _) ha hb).mpr hab

/-- A plan looks nothing up but keys of a kind. -/
theorem planEntity_congr {σ : Type} (api : Api σ) (hfind : findKeyOfKind m' = findKeyOfKind m) :
    planEntity api m' = planEntity api m := by
  have hbinding : bindingDrifted m' = bindingDrifted m := by
    funext resources held b
    simp only [bindingDrifted, scopeOf, hfind]
  funext e
  simp only [planEntity, planNetworkEntity, findReadProfile, planFound, entityDrifted,
    bindingsDrifted, hbinding, hfind]

theorem plan_congr {σ : Type} (api : Api σ) (hfind : findKeyOfKind m' = findKeyOfKind m)
    (hordered : ordered m' = ordered m) : plan api m' = plan api m := by
  unfold plan
  rw [hordered, planEntity_congr api hfind]

end

/-! ## Choices -/

/-- An answer to every key: some entity that has it. -/
def IsChoice (m : Manifest) (r : Str → Option ManifestEntity) : Prop :=
  ∀ key, (∀ e ∈ r key, e ∈ m.entities ∧ e.key = key) ∧
    ((∃ e ∈ m.entities, e.key = key) → r key ≠ none)

/-- The manifest with the chosen entities first. -/
def chosenFirst (m : Manifest) (r : Str → Option ManifestEntity) : Manifest where
  entities := m.entities.filter (fun e => r e.key = some e) ++
    m.entities.filter fun e => !decide (r e.key = some e)

theorem chosenFirst_perm (m : Manifest) (r : Str → Option ManifestEntity) :
    (chosenFirst m r).entities.Perm m.entities :=
  List.filter_append_perm _ _

/-- There `find_key` finds what was chosen. -/
theorem findKey_chosenFirst {r : Str → Option ManifestEntity} (h : IsChoice m r) (key : Str) :
    findKey (chosenFirst m r) key = r key := by
  obtain ⟨hspec, hsome⟩ := h key
  cases hr : r key with
  | none =>
      by_contra hne
      obtain ⟨e, he, hkey⟩ := findKey_ne_none_iff.mp hne
      exact hsome ⟨e, (chosenFirst_perm m r).mem_iff.mp he, hkey⟩ hr
  | some e =>
      obtain ⟨he, hkey⟩ := hspec e hr
      unfold findKey chosenFirst
      rw [List.find?_append]
      have hfirst : (m.entities.filter fun e => r e.key = some e).find? (fun e => e.key == key) =
          some e := by
        cases hfound : (m.entities.filter fun e => r e.key = some e).find?
            (fun e => e.key == key) with
        | none =>
            have := List.find?_eq_none.mp hfound e (List.mem_filter.mpr
              ⟨he, by simp [hkey, hr]⟩)
            simp [hkey] at this
        | some x =>
            have hx := List.find?_some hfound
            have hmem := (List.mem_filter.mp (List.mem_of_find?_eq_some hfound)).2
            rw [beq_iff_eq] at hx
            rw [decide_eq_true_eq, hx, hr] at hmem
            exact hmem.symm
      rw [hfirst]
      rfl

/-- In a stable manifest every choice orders two entities as the manifest itself does. -/
theorem Stable.sortKey_lt_iff (hm : Valid m) (h : Stable m) {r : Str → Option ManifestEntity}
    {a b : ManifestEntity} (ha : a ∈ m.entities) (hb : b ∈ m.entities) :
    sortKey (chosenFirst m r) a < sortKey (chosenFirst m r) b ↔ sortKey m a < sortKey m b := by
  have hperm := chosenFirst_perm m r
  have hordered := h.order _ hperm
  rw [ordered_of_valid hm] at hordered
  obtain ⟨hm', heq⟩ := ordered_eq_ok hordered
  have hsorted := stableSort_sorted hm'
  rw [← heq] at hsorted
  rw [← hsorted.idxOf_lt_iff (hperm.mem_iff.mpr ha) (hperm.mem_iff.mpr hb),
    (stableSort_sorted hm).idxOf_lt_iff ha hb]

/-- A choice orders the entities of a kind by what it cuts of that kind's own keys. -/
theorem sortKey_chosenFirst (hm : Valid m) {r : Str → Option ManifestEntity} (hr : IsChoice m r)
    {cut : Str → Bool} {e : ManifestEntity}
    (hcut : ∀ key, findKeyOfKind m key e.kind ≠ none →
      cut key = decide (r key ≠ findKeyOfKind m key e.kind)) :
    sortKey (chosenFirst m r) e = toLex (e.kind.rank, ownKey m cut e) := by
  have hperm := chosenFirst_perm m r
  have hfind := findKeyOfKind_perm hm.identities hperm
  rw [sortKey_eq, ownKey_perm hm.identities hperm]
  unfold ownKey ownDepth
  rw [ownDepthFrom_congr (fun key hown => ?_) _ rfl]
  rw [hcut key hown]
  unfold elsewhere
  rw [findKey_chosenFirst hr, hfind]

/-- Any key, taken for an entity of this kind if it can be. -/
def preferring (m : Manifest) (kind : ManifestKind) (key : Str) : Option ManifestEntity :=
  (findKeyOfKind m key kind).or (findKey m key)

theorem isChoice_preferring (kind : ManifestKind) : IsChoice m (preferring m kind) := by
  intro key
  unfold preferring
  cases hown : findKeyOfKind m key kind with
  | some p =>
      obtain ⟨hp, hkey, -⟩ := findKeyOfKind_eq_some hown
      refine ⟨fun e he => ?_, fun _ => nofun⟩
      rw [Option.mem_def, Option.some_or] at he
      cases he
      exact ⟨hp, hkey⟩
  | none =>
      rw [Option.none_or]
      exact ⟨fun e he => findKey_eq_some he, findKey_ne_none_iff.mpr⟩

/-- The same but for one key, which is taken for an entity. -/
theorem isChoice_update {r : Str → Option ManifestEntity} (hr : IsChoice m r) {p : ManifestEntity}
    (hp : p ∈ m.entities) : IsChoice m fun key => if key = p.key then some p else r key := by
  intro key
  by_cases hkey : key = p.key
  · simp [hkey, hp]
  · simp only [hkey, if_false]
    exact hr key

/-- The chains of a stable manifest end however they are chosen. -/
theorem Stable.acyclic (hm : Valid m) (h : Stable m) :
    ∀ e ∈ m.entities, ¬TransGen (Refers m) e e := by
  classical
  intro e he hcycle
  have hend : Endless m e := ⟨e, he, .refl, hcycle⟩
  -- every key that can be is taken for an entity from which references go on for ever
  let r : Str → Option ManifestEntity := fun key =>
    if hkey : ∃ p ∈ m.entities, p.key = key ∧ Endless m p then some hkey.choose else findKey m key
  have hr : IsChoice m r := by
    intro key
    by_cases hkey : ∃ p ∈ m.entities, p.key = key ∧ Endless m p
    · have hchosen := hkey.choose_spec
      simp only [r, dif_pos hkey]
      refine ⟨fun p hp => ?_, fun _ => nofun⟩
      cases Option.mem_some.mp hp
      exact ⟨hchosen.1, hchosen.2.1⟩
    · simp only [r, dif_neg hkey]
      exact ⟨fun p hp => findKey_eq_some hp, findKey_ne_none_iff.mpr⟩
  have hperm := chosenFirst_perm m r
  have hordered := h.order _ hperm
  rw [ordered_of_valid hm] at hordered
  have hm' := (ordered_eq_ok hordered).1
  have hends := hm'.chains e (hperm.mem_iff.mpr he)
  have hrefers := refers_perm hperm
  have hendless : Endless (chosenFirst m r) = Endless m := by
    funext x
    unfold Endless
    rw [hrefers]
    simp only [hperm.mem_iff]
  rw [Endless.not_chainEnds (by rw [hendless]; exact hend)] at hends
  · cases hends
  · intro key p hp hkey hpend
    rw [hendless] at hpend ⊢
    have hex : ∃ p ∈ m.entities, p.key = key ∧ Endless m p :=
      ⟨p, hperm.mem_iff.mp hp, hkey, hpend⟩
    rw [findKey_chosenFirst hr]
    exact ⟨hex.choose, dif_pos hex, hex.choose_spec.2.2⟩

theorem Stable.settled (hm : Valid m) (h : Stable m) : Settled m := by
  refine ⟨h.acyclic hm, fun a ha b hb hkind key htwice => ?_⟩
  obtain ⟨hown, k, hk, hother⟩ := htwice
  obtain ⟨p, hp⟩ := Option.ne_none_iff_exists'.mp hother
  obtain ⟨hpmem, rfl, rfl⟩ := findKeyOfKind_eq_some hp
  have hprefer := isChoice_preferring (m := m) a.kind
  -- the order with the kind preferred throughout, and with the one key taken elsewhere
  have hnone : ∀ e ∈ m.entities, e.kind = a.kind →
      sortKey (chosenFirst m (preferring m a.kind)) e =
        toLex (e.kind.rank, ownKey m (fun _ => false) e) := by
    intro e _ hekind
    refine sortKey_chosenFirst hm hprefer fun key hfound => ?_
    obtain ⟨q, hq⟩ := Option.ne_none_iff_exists'.mp hfound
    rw [hekind] at hq ⊢
    simp [preferring, hq]
  have hone : ∀ e ∈ m.entities, e.kind = a.kind →
      sortKey (chosenFirst m fun key => if key = p.key then some p else preferring m a.kind key) e =
        toLex (e.kind.rank, ownKey m (· == p.key) e) := by
    intro e _ hekind
    refine sortKey_chosenFirst hm (isChoice_update hprefer hpmem) fun key hfound => ?_
    obtain ⟨q, hq⟩ := Option.ne_none_iff_exists'.mp hfound
    rw [hekind] at hq ⊢
    by_cases hkey : key = p.key
    · have hne : p ≠ q := fun heq => hk ((congrArg _ heq).trans (findKeyOfKind_eq_some hq).2.2)
      rw [hkey] at hq ⊢
      simp [hq, hne]
    · simp [hkey, preferring, hq]
  have hrank : a.kind.rank = b.kind.rank := by rw [hkind]
  have hleft := h.sortKey_lt_iff hm (r := fun key => if key = p.key then some p else
    preferring m a.kind key) ha hb
  have hright := h.sortKey_lt_iff hm (r := preferring m a.kind) ha hb
  rw [hone a ha rfl, hone b hb hkind.symm] at hleft
  rw [hnone a ha rfl, hnone b hb hkind.symm] at hright
  simp only [Prod.Lex.toLex_lt_toLex, hrank, lt_irrefl, true_and, false_or] at hleft hright
  rw [hleft, hright]

end

/-- Plans are stable exactly for the manifests that leave no reference to the order of the
list. -/
theorem stable_iff (m : Manifest) (h : validate m = .ok ()) : Stable m ↔ Settled m := by
  have hm := (validate_ok_iff m).mp h
  refine ⟨Stable.settled hm, fun hsettled => ⟨fun m' hperm => hsettled.ordered_eq hm hperm, ?_⟩⟩
  intro m' hperm σ api s
  rw [plan_congr api (findKeyOfKind_perm hm.identities hperm) (hsettled.ordered_eq hm hperm)]

/-- `sharedKey` with its entities in another order. -/
theorem sharedKey_not_stable : validate sharedKey = .ok () ∧ ¬Stable sharedKey := by
  refine ⟨by decide, fun h => ?_⟩
  have hperm : sharedKey.entities.reverse.Perm sharedKey.entities := List.reverse_perm _
  have := h.order ⟨sharedKey.entities.reverse⟩ hperm
  revert this
  decide

/-- A manifest in which no key is declared twice is settled. -/
theorem Settled.of_keys_nodup {m : Manifest} (hm : Valid m)
    (hkeys : (m.entities.map ManifestEntity.key).Nodup) : Settled m := by
  have hone : ∀ {a b}, a ∈ m.entities → b ∈ m.entities → a.key = b.key → a = b := fun ha hb =>
    List.inj_on_of_nodup_map hkeys ha hb
  constructor
  · -- each reference is the one the cycle check follows
    have hends : ∀ steps e, e ∈ m.entities → chainEnds m steps e = true →
        ¬TransGen (Refers m) e e := by
      intro steps
      induction steps with
      | zero =>
          intro e _ hends hcycle
          obtain ⟨p, hp, -⟩ := TransGen.head'_iff.mp hcycle
          simp [chainEnds, hp.2] at hends
      | succ steps ih =>
          intro e _ hends hcycle
          obtain ⟨p, hp, hback⟩ := TransGen.head'_iff.mp hcycle
          obtain ⟨q, hq⟩ := Option.ne_none_iff_exists'.mp
            (findKey_ne_none_iff.mpr ⟨p, hp.1, rfl⟩)
          obtain ⟨hqmem, hqkey⟩ := findKey_eq_some hq
          rw [hone hqmem hp.1 hqkey] at hq
          refine ih p hp.1 ?_ (TransGen.tail' hback hp)
          simpa [chainEnds, hp.2, hq] using hends
    exact fun e he => hends _ e he (hm.chains e he)
  · rintro a - b - - key ⟨hown, k, hk, hother⟩
    obtain ⟨p, hp⟩ := Option.ne_none_iff_exists'.mp hown
    obtain ⟨q, hq⟩ := Option.ne_none_iff_exists'.mp hother
    obtain ⟨hpmem, hpkey, hpkind⟩ := findKeyOfKind_eq_some hp
    obtain ⟨hqmem, hqkey, hqkind⟩ := findKeyOfKind_eq_some hq
    have heq := hone hqmem hpmem (hqkey.trans hpkey.symm)
    exact absurd (by rw [← hqkind, heq, hpkind]) hk

theorem parentAndChild_stable : Stable parentAndChild :=
  (stable_iff parentAndChild (by decide)).mpr
    (.of_keys_nodup ((validate_ok_iff _).mp (by decide)) (by decide))

end Axiam.Management
