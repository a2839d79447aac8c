import Axiam.Management.Order
import Axiam.Management.Plan

/-!
# What a plan holds

Whatever the tenant answers, a plan that is returned has one change for each entity of the
manifest, in the order of `ordered`; a change that is no create knows the object it is about.
-/

namespace Axiam.Management

open Axiam.Lib Axiam.Lib.Prog

/-- A planned change is about its entity, and knows what an apply needs of it. -/
structure PlannedFor (e : ManifestEntity) (c : PlannedChange) : Prop where
  entity : c.entity = e
  secret : c.serviceAccountSecret = none
  known : c.action ≠ .create → e.kind ≠ .networkPolicy → c.id ≠ none
  read : c.action ≠ .create → e.kind = .networkSegment → c.readSegment ≠ none

theorem PlannedFor.create (e : ManifestEntity) : PlannedFor e { entity := e, action := .create } where
  entity := rfl
  secret := rfl
  known h := absurd rfl h
  read h := absurd rfl h

/-- A change that is no segment's and knows its id. -/
theorem PlannedFor.found {e : ManifestEntity} (hkind : e.kind ≠ .networkSegment)
    {c : PlannedChange} (hentity : c.entity = e) (hsecret : c.serviceAccountSecret = none)
    (hid : c.id ≠ none) : PlannedFor e c where
  entity := hentity
  secret := hsecret
  known _ _ := hid
  read _ h := absurd h hkind

variable {σ : Type} (api : Api σ) (m : Manifest)

theorem planNetworkEntity_returns {e : ManifestEntity} (hok : NetworkOk m e)
    (hkind : e.kind.isNetwork = true) :
    Returns (planNetworkEntity api m e) fun c _ => PlannedFor e c := by
  unfold planNetworkEntity
  split
  next _ _ spec hpolicy _ =>
    exact Returns.seq fun policy => Returns.ret fun _ =>
      ⟨rfl, rfl, fun _ h => absurd hpolicy h, fun _ h => by rw [hpolicy] at h; cases h⟩
  next _ _ spec _ _ =>
    refine Returns.seq fun segments => Returns.ret fun _ => ?_
    cases findReadSegment segments spec with
    | none => exact .create e
    | some read => exact ⟨rfl, rfl, fun _ _ => nofun, fun _ _ => nofun⟩
  next _ _ spec hprofile _ =>
    refine Returns.seq fun segments => Returns.seq fun profiles => Returns.lift fun c _ hc => ?_
    cases hread : findReadProfile m spec segments profiles with
    | none =>
        rw [hread] at hc
        cases hc
        exact .create e
    | some pair =>
        obtain ⟨segment, read⟩ := pair
        rw [hread] at hc
        simp only [profileChange] at hc
        -- an update that cannot carry what it read is refused
        have hchange : PlannedChange.mk e (actionFor (profileDrifted spec read)) (some segment.id)
            none none (some read) none = c := by
          split at hc
          · rcases hcarried : refuseUnknownCarried spec read with e' | u
            · rw [hcarried] at hc
              cases hc
            · rw [hcarried] at hc
              cases hc
              rfl
          · cases hc
            rfl
        rw [← hchange]
        exact .found (by rw [hprofile]; decide) rfl rfl nofun
  next hpolicy hsegment hprofile =>
    exfalso
    cases hk : e.kind with
    | networkPolicy =>
        obtain ⟨spec, hspec⟩ := Option.ne_none_iff_exists'.mp (hok.policy hk)
        exact hpolicy _ hk hspec
    | networkSegment =>
        obtain ⟨spec, hspec, -⟩ := hok.segment hk
        exact hsegment _ hk hspec
    | networkProfile =>
        obtain ⟨spec, hspec, -⟩ := hok.profile hk
        exact hprofile _ hk hspec
    | _ => rw [hk] at hkind; cases hkind

theorem planEntity_returns {e : ManifestEntity} (hok : NetworkOk m e) :
    Returns (planEntity api m e) fun c _ => PlannedFor e c := by
  refine Returns.ite (fun hkind => planNetworkEntity_returns api m hok hkind) fun hkind => ?_
  have hplain : e.kind ≠ .networkSegment := by
    intro h
    rw [h] at hkind
    exact hkind rfl
  refine Returns.seq fun existing => ?_
  split
  · exact Returns.ret fun _ => .create e
  next found _ =>
    refine Returns.ite (fun _ => Returns.raise _) fun _ => ?_
    exact Returns.seq fun drifted => Returns.ret fun _ =>
      PlannedFor.found (e := e) hplain rfl rfl nofun

variable {api m} in
/-- A plan that is returned: the entities in order, each with a change that the loop body returned. -/
theorem plan_each {Q : ManifestEntity → PlannedChange → Prop}
    (hQ : ∀ e, NetworkOk m e → Returns (planEntity api m e) fun c _ => Q e c) {s t : σ} {p : Plan}
    (h : plan api m s = (.ok p, t)) :
    ∃ l, Valid m ∧ Sorted m l ∧ ordered m = .ok l ∧ List.Forall₂ Q l p.changes := by
  obtain ⟨l, s', hordered, h⟩ := bind_eq_ok.mp h
  obtain ⟨changes, t', hchanges, heq⟩ := bind_eq_ok.mp h
  cases heq
  have hl : ordered m = .ok l := congrArg Prod.fst hordered
  obtain ⟨hvalid, rfl⟩ := ordered_eq_ok hl
  have hsorted := stableSort_sorted hvalid
  refine ⟨_, hvalid, hsorted, hl, ?_⟩
  rcases hrun : Prog.each (planEntity api m) (stableSort (precedes m) m.entities)
    { world := s' } with ⟨r, u⟩
  have hr : r = .ok changes := by
    have := congrArg Prod.fst hchanges
    simpa [Prog.within, hrun] using this
  rw [hr] at hrun
  exact (Returns.each fun e he =>
    hQ e (hvalid.network e (hsorted.perm.mem_iff.mp he))).elim hrun

/-- The entities of a plan in order, each with its change. -/
theorem plan_returns {s t : σ} {p : Plan} (h : plan api m s = (.ok p, t)) :
    ∃ l, Valid m ∧ Sorted m l ∧ ordered m = .ok l ∧ List.Forall₂ PlannedFor l p.changes :=
  plan_each (fun _ hok => planEntity_returns api m hok) h

end Axiam.Management
