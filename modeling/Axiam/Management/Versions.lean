import Mathlib.Data.List.Pairwise
import Axiam.Management.Dependency
import Axiam.Management.Replacing

/-!
# The versions of network writes

A network object is written with the version it is known to have, and each write moves it on.
An apply knows versions from its plan and from the replies to its own writes.  As long as nobody
else writes, every version it sends is the one the server holds at that moment.
-/

namespace Axiam.Management

open Axiam.Lib Axiam.Lib.Prog

/-! ## A server with one writer -/

/-- A write of a network object. -/
def Call.writesNetwork : Call → Bool
  | .createSegment _ | .replaceSegment _ _ | .createProfile _ | .replaceProfile _ _
  | .replacePolicy _ => true
  | _ => false

/-- The network objects of a tenant; a profile is found by its segment's id. -/
structure Network where
  segment : Str → Option NetworkSegmentResponse
  profile : Str → Option NetworkReplyProfile
  policy : NetworkPolicyResponse

/-- Networks that may differ in one segment and its profile. -/
structure Network.SameBut (n n' : Network) (id : Str) : Prop where
  segment : ∀ i ≠ id, n'.segment i = n.segment i
  profile : ∀ i ≠ id, n'.profile i = n.profile i
  policy : n'.policy = n.policy

/-- A call whose versions are those the tenant holds. -/
def Network.Current (n : Network) : Call → Prop
  | .replacePolicy b => b.version = n.policy.version
  | .replaceSegment id b => ∃ r, n.segment id = some r ∧ b.version = r.version
  | .createProfile b => ∃ r, n.segment b.segmentId = some r ∧ b.segmentVersion = r.version
  | .replaceProfile id b => (∃ r, n.segment id = some r ∧ b.segmentVersion = r.version) ∧
      ∃ p, n.profile id = some p ∧ b.version = p.version
  | _ => True

/-- The refusal of a write whose version is not the one held. -/
def Exc.Stale (e : Exc) : Prop := ∃ what, e = .axiam (.conflict what (some (str "stale_version")))

/-- A server that nobody else writes to: it lists what it holds, a write that lands changes the
object it is about, whose version may be any other then, and what it refuses as stale is not
current.  A profile's write may move its segment too, and a write that fails may do anything. -/
structure NetworkServer {σ : Type} (api : Api σ) where
  network : σ → Network
  quiet : ∀ c body s, c.writesNetwork = false →
    network (api.handler c body s).2 = network s
  listsSegments : ∀ page body s rows t, api.handler (.listSegments page) body s = (.ok rows, t) →
    ∀ r ∈ rows.items, (network s).segment r.id = some r
  listsProfiles : ∀ page body s rows t, api.handler (.listProfiles page) body s = (.ok rows, t) →
    ∀ r ∈ rows.items, (network s).profile r.segmentId = some r
  getsPolicy : ∀ body s p t, api.handler .getPolicy body s = (.ok p, t) → p = (network s).policy
  createsSegment : ∀ b body s r t, api.handler (.createSegment b) body s = (.ok r, t) →
    (network s).segment r.id = none ∧ (network t).segment r.id = some r ∧
      (network s).SameBut (network t) r.id
  replacesSegment : ∀ id b body s r t, api.handler (.replaceSegment id b) body s = (.ok r, t) →
    r.id = id ∧ (network t).segment id = some r ∧ (network t).profile = (network s).profile ∧
      (network s).SameBut (network t) id
  createsProfile : ∀ b body s r t, api.handler (.createProfile b) body s = (.ok r, t) →
    (network s).SameBut (network t) b.segmentId
  replacesProfile : ∀ id b body s r t, api.handler (.replaceProfile id b) body s = (.ok r, t) →
    (network s).SameBut (network t) id
  replacesPolicy : ∀ b body s r t, api.handler (.replacePolicy b) body s = (.ok r, t) →
    (network t).segment = (network s).segment ∧ (network t).profile = (network s).profile
  refuses : ∀ c body s e t, api.handler c body s = (.error e, t) → Exc.Stale e → ¬(network s).Current c

/-- Every write of every apply carries the versions held when it is made, and none is refused as
stale. -/
def Disciplined {σ : Type} {api : Api σ} (S : NetworkServer api) (m : Manifest) : Prop :=
  ∀ s s₁ p, plan api m s = (.ok p, s₁) → ∀ a ∈ attempts api m p.pending (.start p s₁),
    ∀ x ∈ a.post.calls, (S.network x.2).Current x.1 ∧
      ∀ body e t, api.handler x.1 body x.2 = (.error e, t) → ¬Exc.Stale e

section

variable {σ : Type} {api : Api σ} {m : Manifest}

theorem Network.current_of_quiet {n : Network} {c : Call} (h : c.writesNetwork = false) :
    n.Current c := by
  cases c <;> trivial

/-- A call that returned was sent. -/
theorem Api.call_ok {c : Call} {s t : σ} {r : c.Reply} (h : api.call c s = (.ok r, t)) :
    ∃ body, api.handler c body s = (.ok r, t) := by
  obtain ⟨body, s', hbody, hrun⟩ := bind_eq_ok.mp h
  obtain rfl : s = s' := congrArg Prod.snd hbody
  exact ⟨body, hrun⟩

theorem NetworkServer.call_quiet (S : NetworkServer api) {c : Call} (h : c.writesNetwork = false) :
    Keeps S.network (api.call c) :=
  Keeps.bind (Keeps.lift _) fun body s => S.quiet c body s h

theorem Call.reads_quiet {c : Call} (h : c.reads = true) : c.writesNetwork = false := by
  cases c <;> first | rfl | cases h

theorem NetworkServer.readsKeep (S : NetworkServer api) : ReadsKeep api S.network :=
  ⟨fun _ h => S.call_quiet (Call.reads_quiet h)⟩

/-! ## What a plan has read -/

/-- A plan in progress over a network: what it read is what is held, and what was known before is
known still. -/
structure Looking (S : NetworkServer api) (n : Network)
    (known : Option (List NetworkSegmentResponse)) (w : Planning σ) : Prop where
  network : S.network w.world = n
  segments : ∀ all, w.segments = some all → ∀ r ∈ all, n.segment r.id = some r
  profiles : ∀ all, w.profiles = some all → ∀ r ∈ all, n.profile r.segmentId = some r
  policy : ∀ p, w.policy = some p → p = n.policy
  known : ∀ all, known = some all → w.segments = some all

/-- What a planned change has read of the network, given the segments that were listed. -/
structure HasRead (m : Manifest) (n : Network) (segments : Option (List NetworkSegmentResponse))
    (e : ManifestEntity) (c : PlannedChange) : Prop where
  policy : e.kind = .networkPolicy → ∀ read, c.readPolicy = some read → read = n.policy
  segment : e.kind = .networkSegment → ∀ spec, e.networkSegment = some spec →
    ∃ all, segments = some all ∧ c = segmentChange e spec (findReadSegment all spec)
  profile : e.kind = .networkProfile → ∀ spec, e.networkProfile = some spec →
    ∀ read, c.readProfile = some read → ∃ all owner segment row, segments = some all ∧
      findKeyOfKind m spec.segment .networkSegment = some owner ∧
      owner.networkSegment = some segment ∧ findReadSegment all segment = some row ∧
      n.profile row.id = some read

theorem HasRead.mono {n : Network} {segments segments' : Option (List NetworkSegmentResponse)}
    {e : ManifestEntity} {c : PlannedChange} (h : HasRead m n segments e c)
    (hmono : ∀ all, segments = some all → segments' = some all) : HasRead m n segments' e c where
  policy := h.policy
  segment hkind spec hspec := by
    obtain ⟨all, hall, hrest⟩ := h.segment hkind spec hspec
    exact ⟨all, hmono all hall, hrest⟩
  profile hkind spec hspec read hread := by
    obtain ⟨all, owner, segment, row, hall, hrest⟩ := h.profile hkind spec hspec read hread
    exact ⟨all, owner, segment, row, hmono all hall, hrest⟩

/-- An entity outside the network has read nothing of it. -/
theorem HasRead.outside {n : Network} {segments : Option (List NetworkSegmentResponse)}
    {e : ManifestEntity} (h : ¬e.kind.isNetwork = true) (c : PlannedChange) :
    HasRead m n segments e c where
  policy hkind := absurd (by rw [hkind]; rfl) h
  segment hkind := absurd (by rw [hkind]; rfl) h
  profile hkind := absurd (by rw [hkind]; rfl) h

section

variable {S : NetworkServer api} {n : Network} {known : Option (List NetworkSegmentResponse)}

/-- What a plan in progress has of the network. -/
def NetworkServer.seen (S : NetworkServer api) (w : Planning σ) :
    Network × Option (List NetworkSegmentResponse) × Option (List NetworkReplyProfile) ×
      Option NetworkPolicyResponse :=
  (S.network w.world, w.segments, w.profiles, w.policy)

theorem Looking.of_seen {w w' : Planning σ} (h : Looking S n known w)
    (hseen : S.seen w' = S.seen w) : Looking S n known w' := by
  obtain ⟨hnetwork, hsegments, hprofiles, hpolicy⟩ :
      S.network w'.world = S.network w.world ∧ w'.segments = w.segments ∧
        w'.profiles = w.profiles ∧ w'.policy = w.policy := by
    simpa [NetworkServer.seen] using hseen
  refine ⟨hnetwork.trans h.network, ?_, ?_, ?_, ?_⟩
  · rw [hsegments]
    exact h.segments
  · rw [hprofiles]
    exact h.profiles
  · rw [hpolicy]
    exact h.policy
  · rw [hsegments]
    exact h.known

theorem looking_of_keeps {α : Type} {p : Prog (Planning σ) Exc α} (hp : Keeps S.seen p) :
    Triple (Looking S n known) p (fun _ => Looking S n known) fun _ _ => True := by
  intro w hw
  have hkeep := hp w
  rcases hrun : p w with ⟨e | a, t⟩ <;> rw [hrun] at hkeep
  · trivial
  · exact hw.of_seen hkeep

theorem onTenant_seen {α : Type} {p : Prog σ Exc α} (hp : Keeps S.network p) :
    Keeps S.seen (onTenant p) := fun w =>
  congrArg (fun held => (held, w.segments, w.profiles, w.policy)) (hp w.world)

theorem existingOf_seen (kind : ManifestKind) : Keeps S.seen (existingOf api kind) := by
  refine Keeps.bind Keeps.read fun w => ?_
  split
  · exact Keeps.ret _
  · refine Keeps.bind (onTenant_seen (readExisting_keeps S.readsKeep kind)) fun _ => ?_
    exact Keeps.bind (Keeps.modify fun _ => rfl) fun _ => Keeps.ret _

theorem bindingsDrifted_seen (e : ManifestEntity) (subjectId : Str) :
    Keeps S.seen (bindingsDrifted api m e subjectId) := by
  have hcall : ∀ c : Call, c.reads = true → Keeps S.seen (onTenant (api.call c)) := fun c hc =>
    onTenant_seen (S.call_quiet (Call.reads_quiet hc))
  have hbound : Keeps S.seen
      (boundRoleBindings (fun c => onTenant (api.call c)) e.kind subjectId) := by
    unfold boundRoleBindings
    cases e.kind with
    | group => exact Keeps.bind (hcall (.groupRoles subjectId) rfl) fun _ => Keeps.ret _
    | serviceAccount =>
        exact Keeps.bind (hcall (.serviceAccountRoles subjectId) rfl) fun _ => Keeps.ret _
    | _ => exact Keeps.bind (Keeps.ret _) fun _ => Keeps.ret _
  exact Keeps.bind (existingOf_seen .resource) fun _ => Keeps.bind hbound fun _ => Keeps.ret _

/-- A program of the tenant that only reads, and what it comes to there. -/
theorem looking_onTenant {α : Type} {p : Prog σ Exc α} {Q : α → Prop}
    (hp : Triple (fun s => S.network s = n) p (fun a s => S.network s = n ∧ Q a) fun _ _ => True) :
    Triple (Looking S n known) (onTenant p) (fun a w => Looking S n known w ∧ Q a)
      fun _ _ => True := by
  intro w hw
  have hrun := hp w.world hw.network
  unfold onTenant Prog.zoom
  rcases h : p w.world with ⟨e | a, t⟩ <;> rw [h] at hrun
  · trivial
  · exact ⟨{ hw with network := hrun.1 }, hrun.2⟩

/-- A call that only reads, with what its reply is. -/
theorem reads_call {c : Call} (hc : c.reads = true) {Q : c.Reply → Prop}
    (hQ : ∀ s, S.network s = n → ∀ body r t, api.handler c body s = (.ok r, t) → Q r) :
    Triple (fun s => S.network s = n) (api.call c) (fun r s => S.network s = n ∧ Q r)
      fun _ _ => True := by
  intro s hs
  have hkeep := S.call_quiet (Call.reads_quiet hc) s
  rcases hrun : api.call c s with ⟨e | r, t⟩ <;> rw [hrun] at hkeep
  · trivial
  · obtain ⟨body, hhandler⟩ := Api.call_ok hrun
    exact ⟨hkeep.trans hs, hQ s hs body r t hhandler⟩

/-- Every row of a walk is a row of one of its pages. -/
theorem walk_rows {α : Type} {list : PageRequest → Prog σ Exc (Page α)} {Good : α → Prop}
    (hlist : ∀ r, Triple (fun s => S.network s = n) (list r)
      (fun page s => S.network s = n ∧ ∀ row ∈ page.items, Good row) fun _ _ => True)
    (pages : Nat) : ∀ (request : PageRequest) (out : List α), (∀ row ∈ out, Good row) →
      Triple (fun s => S.network s = n) (walk list pages request out)
        (fun rows s => S.network s = n ∧ ∀ row ∈ rows, Good row) fun _ _ => True := by
  induction pages with
  | zero => exact fun _ _ _ => Triple.raise fun _ _ => trivial
  | succ pages ih =>
      intro request out hout
      refine Triple.bind (hlist request) fun page => ?_
      refine Triple.ite (fun _ => Triple.ret fun s h => ⟨h.1, hout⟩) fun _ => ?_
      refine Triple.ite (fun _ => Triple.ret fun s h => ⟨h.1, ?_⟩) fun _ => ?_
      · exact List.forall_mem_append.mpr ⟨hout, h.2⟩
      · intro s h
        exact ih request.next (out ++ page.items) (List.forall_mem_append.mpr ⟨hout, h.2⟩) s h.1

/-- What is not there yet is read, and put beside the tenant. -/
theorem looking_put {α : Type} (known : Option (List NetworkSegmentResponse))
    (field : Planning σ → Option α) (put : α → Planning σ → Planning σ) {p : Prog σ Exc α}
    {Good : α → Prop} {R : α → Planning σ → Prop}
    (hread : Triple (fun s => S.network s = n) p (fun a s => S.network s = n ∧ Good a)
      fun _ _ => True)
    (hframe : ∀ w s, field { w with world := s } = field w)
    (hput : ∀ a w, Looking S n known w → field w = none → Good a →
      Looking S n known (put a w) ∧ R a (put a w)) :
    Triple (fun w => Looking S n known w ∧ field w = none) (do
        let a ← onTenant p
        Prog.modify (put a)
        pure a)
      (fun a w => Looking S n known w ∧ R a w) fun _ _ => True := by
  have hread' : Triple (fun w => Looking S n known w ∧ field w = none) (onTenant p)
      (fun a w => Looking S n known w ∧ field w = none ∧ Good a) fun _ _ => True := by
    intro w hw
    have hlook := looking_onTenant hread w hw.1
    have hfield : field (onTenant p w).2 = none := (hframe w _).trans hw.2
    rcases hrun : onTenant p w with ⟨e | a, t⟩ <;> rw [hrun] at hlook hfield
    · trivial
    · exact ⟨hlook.1, hfield, hlook.2⟩
  refine Triple.bind hread' fun a => ?_
  refine Triple.bind (Q := fun _ w => Looking S n known w ∧ R a w) ?_ fun _ => Triple.ret fun _ h => h
  exact Triple.modify fun w h => hput a w h.1 h.2.1 h.2.2

theorem looking_readPolicy : Triple (Looking S n known) (readPolicy api)
    (fun p w => Looking S n known w ∧ p = n.policy) fun _ _ => True := by
  refine Triple.bind (Q := fun p w => Looking S n known w ∧ p = w) (Triple.read fun w h => ⟨h, rfl⟩)
    fun p => ?_
  split
  next policy hpolicy =>
    refine Triple.ret fun w h => ⟨h.1, h.1.policy policy ?_⟩
    rw [← h.2, hpolicy]
  next hnone =>
    have hread : Triple (fun s => S.network s = n) (api.call .getPolicy)
        (fun p s => S.network s = n ∧ p = n.policy) fun _ _ => True :=
      reads_call rfl fun s hs body p t hrun =>
        (S.getsPolicy body s p t hrun).trans (congrArg Network.policy hs)
    have hput := looking_put known Planning.policy
      (fun policy w => { w with policy := some policy }) (R := fun p _ => p = n.policy) hread
      (fun _ _ => rfl) fun policy w h _ hpolicy =>
        ⟨{ h with policy := fun p hp => (Option.some.inj hp).symm.trans hpolicy }, hpolicy⟩
    refine hput.weaken (fun w h => ⟨h.1, ?_⟩) (fun _ _ h => h) fun _ _ h => h
    rw [← h.2, hnone]

theorem looking_readSegments : Triple (Looking S n known) (readSegments api)
    (fun all w => Looking S n known w ∧ w.segments = some all) fun _ _ => True := by
  refine Triple.bind (Q := fun p w => Looking S n known w ∧ p = w) (Triple.read fun w h => ⟨h, rfl⟩)
    fun p => ?_
  split
  next all hall => exact Triple.ret fun w h => ⟨h.1, h.2 ▸ hall⟩
  next hnone =>
    have hpage : ∀ request, Triple (fun s => S.network s = n) (api.call (.listSegments request))
        (fun page s => S.network s = n ∧ ∀ r ∈ page.items, n.segment r.id = some r)
        fun _ _ => True := fun request => by
      refine reads_call rfl fun s hs body page t hrun r hr => ?_
      rw [← hs]
      exact S.listsSegments request body s page t hrun r hr
    have hrows := walk_rows hpage api.pages .first [] fun _ h => (List.not_mem_nil h).elim
    have hput := looking_put known Planning.segments
      (fun all w => { w with segments := some all }) (R := fun all w => w.segments = some all) hrows
      (fun _ _ => rfl) fun all w h hunread hgood =>
        ⟨{ h with
          segments := fun all' heq => Option.some.inj heq ▸ hgood
          known := fun all' heq => by
            rw [h.known all' heq] at hunread
            cases hunread }, rfl⟩
    refine hput.weaken (fun w h => ⟨h.1, ?_⟩) (fun _ _ h => h) fun _ _ h => h
    rw [← h.2, hnone]

theorem looking_readProfiles : Triple (Looking S n known) (readProfiles api)
    (fun all w => Looking S n known w ∧ ∀ p ∈ all, n.profile p.segmentId = some p)
    fun _ _ => True := by
  refine Triple.bind (Q := fun p w => Looking S n known w ∧ p = w) (Triple.read fun w h => ⟨h, rfl⟩)
    fun p => ?_
  split
  next all hall => exact Triple.ret fun w h => ⟨h.1, h.1.profiles all (h.2 ▸ hall)⟩
  next hnone =>
    have hpage : ∀ request, Triple (fun s => S.network s = n) (api.call (.listProfiles request))
        (fun page s => S.network s = n ∧ ∀ p ∈ page.items, n.profile p.segmentId = some p)
        fun _ _ => True := fun request => by
      refine reads_call rfl fun s hs body page t hrun p hp => ?_
      rw [← hs]
      exact S.listsProfiles request body s page t hrun p hp
    have hrows := walk_rows hpage api.pages .first [] fun _ h => (List.not_mem_nil h).elim
    have hput := looking_put known Planning.profiles
      (fun all w => { w with profiles := some all })
      (R := fun all _ => ∀ p ∈ all, n.profile p.segmentId = some p) hrows (fun _ _ => rfl)
      fun all w h _ hgood =>
        ⟨{ h with profiles := fun all' heq => Option.some.inj heq ▸ hgood }, hgood⟩
    refine hput.weaken (fun w h => ⟨h.1, ?_⟩) (fun _ _ h => h) fun _ _ h => h
    rw [← h.2, hnone]

/-- What is read beside the segments leaves them known. -/
theorem looking_beside {α : Type} {p : Prog (Planning σ) Exc α} {Q : α → Prop}
    {all : List NetworkSegmentResponse}
    (hp : Triple (Looking S n (some all)) p (fun a w => Looking S n (some all) w ∧ Q a)
      fun _ _ => True) :
    Triple (fun w => Looking S n known w ∧ w.segments = some all) p
      (fun a w => Looking S n known w ∧ w.segments = some all ∧ Q a) fun _ _ => True := by
  intro w hw
  obtain ⟨hlook, hall⟩ := hw
  have hrun := hp w { hlook with known := fun _ h => h ▸ hall }
  rcases h : p w with ⟨e | a, t⟩ <;> rw [h] at hrun
  · trivial
  · have hkept : t.segments = some all := hrun.1.known all rfl
    refine ⟨{ hrun.1 with known := fun all' hall' => ?_ }, hkept, hrun.2⟩
    rw [hkept, ← hall, hlook.known all' hall']

theorem findReadProfile_eq_some {spec : ManifestNetworkProfile}
    {segments : List NetworkSegmentResponse} {profiles : List NetworkReplyProfile}
    {row : NetworkSegmentResponse} {read : NetworkReplyProfile}
    (h : findReadProfile m spec segments profiles = some (row, read)) :
    ∃ owner segment, findKeyOfKind m spec.segment .networkSegment = some owner ∧
      owner.networkSegment = some segment ∧ findReadSegment segments segment = some row ∧
      read ∈ profiles ∧ read.segmentId = row.id := by
  unfold findReadProfile at h
  simp only [Option.bind_eq_bind, Option.bind_eq_some_iff, Option.some.injEq, Prod.mk.injEq] at h
  obtain ⟨owner, howner, row', ⟨segment, hsegment, hrow⟩, read', hread, rfl, rfl⟩ := h
  exact ⟨owner, segment, howner, hsegment, hrow, List.mem_of_find?_eq_some hread,
    by simpa using List.find?_some hread⟩

theorem profileChange_read {e : ManifestEntity} {spec : ManifestNetworkProfile}
    {found : Option (NetworkSegmentResponse × NetworkReplyProfile)} {c : PlannedChange}
    {read : NetworkReplyProfile} (h : profileChange e spec found = .ok c)
    (hread : c.readProfile = some read) : ∃ row, found = some (row, read) := by
  cases found with
  | none =>
      cases h
      cases hread
  | some pair =>
      obtain ⟨row, read'⟩ := pair
      refine ⟨row, ?_⟩
      simp only [profileChange] at h
      split at h
      · rcases hcarried : refuseUnknownCarried spec read' with e' | u <;> rw [hcarried] at h <;> cases h
        cases hread
        rfl
      · cases h
        cases hread
        rfl

theorem looking_planNetworkEntity (e : ManifestEntity) :
    Triple (Looking S n known) (planNetworkEntity api m e)
      (fun c w => Looking S n known w ∧ HasRead m n w.segments e c) fun _ _ => True := by
  unfold planNetworkEntity
  split
  next hkind hspec =>
    refine Triple.bind looking_readPolicy fun policy => Triple.ret fun w h => ⟨h.1, ?_⟩
    refine ⟨fun _ read hread => ?_, fun h' => ?_, fun h' => ?_⟩
    · exact (Option.some.inj hread).symm.trans h.2
    · rw [hkind] at h'
      cases h'
    · rw [hkind] at h'
      cases h'
  next spec hkind hspec =>
    refine Triple.bind looking_readSegments fun all => Triple.ret fun w h => ⟨h.1, ?_⟩
    refine ⟨fun h' => ?_, fun _ spec' hspec' => ⟨all, h.2, ?_⟩, fun h' => ?_⟩
    · rw [hkind] at h'
      cases h'
    · cases hspec.symm.trans hspec'
      rfl
    · rw [hkind] at h'
      cases h'
  next spec hkind hspec =>
    refine Triple.bind looking_readSegments fun all => ?_
    refine Triple.bind (looking_beside looking_readProfiles) fun profiles => ?_
    refine Triple.lift (fun c w hc h => ⟨h.1, ?_⟩) fun _ _ _ _ => trivial
    refine ⟨fun h' => ?_, fun h' => ?_, fun _ spec' hspec' read hread => ?_⟩
    · rw [hkind] at h'
      cases h'
    · rw [hkind] at h'
      cases h'
    · cases hspec.symm.trans hspec'
      obtain ⟨row, hfound⟩ := profileChange_read hc hread
      obtain ⟨owner, segment, howner, hsegment, hrow, hmem, hid⟩ := findReadProfile_eq_some hfound
      refine ⟨all, owner, segment, row, h.2.1, howner, hsegment, hrow, ?_⟩
      rw [← hid]
      exact h.2.2 read hmem
  next _ hsegment _ =>
    refine Triple.ret fun w h => ⟨h, fun _ read hread => ?_, fun hkind spec hspec => ?_,
      fun _ _ _ read hread => ?_⟩
    · cases hread
    · exact absurd hspec (hsegment spec hkind)
    · cases hread

theorem looking_planEntity {e : ManifestEntity} :
    Triple (Looking S n known) (planEntity api m e)
      (fun c w => Looking S n known w ∧ HasRead m n w.segments e c) fun _ _ => True := by
  refine Triple.ite (fun _ => looking_planNetworkEntity e) fun hkind => ?_
  refine Triple.weaken (looking_of_keeps ?_) (fun _ h => h) (fun c w h => ⟨h, .outside hkind c⟩)
    fun _ _ h => h
  refine Keeps.bind (existingOf_seen e.kind) fun existing => ?_
  split
  · exact Keeps.ret _
  · refine Keeps.ite (Keeps.raise _) (Keeps.bind ?_ fun _ => Keeps.ret _)
    exact Keeps.ite (bindingsDrifted_seen e _) (Keeps.ret _)

theorem looking_each (l : List ManifestEntity) : ∀ known, Triple (Looking S n known)
    (Prog.each (planEntity api m) l)
    (fun changes w => Looking S n known w ∧ List.Forall₂ (HasRead m n w.segments) l changes)
    fun _ _ => True := by
  induction l with
  | nil => exact fun _ => Triple.ret fun w h => ⟨h, .nil⟩
  | cons e rest ih =>
      intro known
      refine Triple.bind looking_planEntity fun c w hw => ?_
      have hrest := ih w.segments w { hw.1 with known := fun _ h => h }
      rw [bind_run]
      rcases hrun : Prog.each (planEntity api m) rest w with ⟨e' | changes, t⟩ <;>
        rw [hrun] at hrest
      · trivial
      · refine ⟨{ hrest.1 with known := fun all h => ?_ }, ?_⟩
        · exact hrest.1.known all (hw.1.known all h)
        · exact .cons (hw.2.mono hrest.1.known) hrest.2

/-- What holds of the entities and their changes, change by change. -/
theorem each_change {R : ManifestEntity → PlannedChange → Prop} {l : List ManifestEntity}
    {changes : List PlannedChange} (hplanned : List.Forall₂ PlannedFor l changes)
    (h : List.Forall₂ R l changes) : ∀ c ∈ changes, R c.entity c := by
  induction hplanned with
  | nil => exact fun c hc => (List.not_mem_nil hc).elim
  | cons hc _ ih =>
      cases h with
      | cons hhead htail =>
          intro d hd
          rcases List.mem_cons.mp hd with rfl | hd
          · rw [hc.entity]
            exact hhead
          · exact ih htail d hd

/-- A plan leaves the network as it found it, and its changes have read one list of segments. -/
theorem plan_hasRead (S : NetworkServer api) {s s₁ : σ} {p : Plan}
    (h : plan api m s = (.ok p, s₁)) :
    S.network s₁ = S.network s ∧ ∃ l segments, Valid m ∧ Sorted m l ∧
      List.Forall₂ PlannedFor l p.changes ∧
      (∀ all, segments = some all → ∀ r ∈ all, (S.network s).segment r.id = some r) ∧
      ∀ c ∈ p.changes, HasRead m (S.network s) segments c.entity c := by
  have hkept : S.network s₁ = S.network s := by
    have := plan_keeps (m := m) S.readsKeep s
    rwa [h] at this
  refine ⟨hkept, ?_⟩
  obtain ⟨l, hvalid, hsorted, hordered, hplanned⟩ := plan_returns api m h
  obtain ⟨l', s', hl', hrest⟩ := bind_eq_ok.mp h
  obtain ⟨changes, t', hchanges, heq⟩ := bind_eq_ok.mp hrest
  cases heq
  have hl : l' = l := Except.ok.inj ((congrArg Prod.fst hl').symm.trans hordered)
  obtain rfl : s = s' := congrArg Prod.snd hl'
  subst hl
  have hstart : Looking S (S.network s) none ({ world := s } : Planning σ) := by
    refine ⟨rfl, ?_, ?_, ?_, ?_⟩
    all_goals
      intro x hx
      cases hx
  have hlook := looking_each (m := m) l' none { world := s } hstart
  rcases hrun : Prog.each (planEntity api m) l' { world := s } with ⟨e | found, w⟩ <;>
    rw [hrun] at hlook
  · simp [Prog.within, hrun] at hchanges
  · obtain rfl : found = changes := by simpa [Prog.within, hrun] using congrArg Prod.fst hchanges
    refine ⟨l', w.segments, hvalid, hsorted, hplanned, hlook.1.segments, ?_⟩
    exact each_change hplanned hlook.2

end

/-! ## What an apply knows -/

/-- A key whose segment may still be written, or its profile. -/
def Live (rest : List PlannedChange) (key : Str) : Prop :=
  (∃ c ∈ rest, c.entity.kind = .networkSegment) ∨ ∃ c ∈ rest, profileSegmentOf c.entity = some key

/-- Where an apply stands before `rest`: what it knows of the network is what is held. -/
structure Fresh (S : NetworkServer api) (rest : List PlannedChange) (w : Work σ) : Prop where
  policy : ∀ c ∈ rest, c.entity.kind = .networkPolicy → ∀ read, c.readPolicy = some read →
    read = (S.network w.world).policy
  segment : ∀ c ∈ rest, c.entity.kind = .networkSegment → ∀ spec,
    c.entity.networkSegment = some spec → ∃ read, c = segmentChange c.entity spec read ∧
      w.resolved .networkSegment c.entity.key = read.map NetworkSegmentResponse.id ∧
      ∀ r, read = some r → (S.network w.world).segment r.id = some r
  profile : ∀ c ∈ rest, c.entity.kind = .networkProfile → ∀ spec,
    c.entity.networkProfile = some spec → ∀ read, c.readProfile = some read →
      ∃ id, w.resolved .networkSegment spec.segment = some id ∧
        (S.network w.world).profile id = some read
  apart : ∀ key key' id, w.resolved .networkSegment key = some id →
    w.resolved .networkSegment key' = some id → key = key'
  held : ∀ key, Live rest key → ∀ id, w.resolved .networkSegment key = some id →
    ∃ r, (S.network w.world).segment id = some r ∧ w.versions key = some r.version

/-- The id a plan knows of a key is that of the key's one change. -/
theorem seedResolved_eq {changes : List PlannedChange} {c : PlannedChange} (hc : c ∈ changes)
    (hone : ∀ d ∈ changes, d.entity.kind = c.entity.kind → d.entity.key = c.entity.key → d = c) :
    seedResolved changes c.entity.kind c.entity.key = c.id := by
  unfold seedResolved
  rcases hlast : (changes.filter fun d => d.entity.kind = c.entity.kind ∧
    d.entity.key = c.entity.key ∧ d.id.isSome).getLast? with _ | d
  · have hempty := List.getLast?_eq_none_iff.mp hlast
    rw [hlast]
    by_contra hid
    have hmem : c ∈ changes.filter fun d => d.entity.kind = c.entity.kind ∧
        d.entity.key = c.entity.key ∧ d.id.isSome := by
      simpa [hc, Option.isSome_iff_ne_none] using fun hnone : c.id = none => hid hnone.symm
    rw [hempty] at hmem
    cases hmem
  · have hmem := List.mem_of_getLast? hlast
    simp only [List.mem_filter, decide_eq_true_eq] at hmem
    rw [hlast, hone d hmem.1 hmem.2.1 hmem.2.2.1]
    rfl

/-- And so is the version of a segment. -/
theorem seedVersions_eq {changes : List PlannedChange} {c : PlannedChange} (hc : c ∈ changes)
    (hkind : c.entity.kind = .networkSegment)
    (hone : ∀ d ∈ changes, d.entity.kind = c.entity.kind → d.entity.key = c.entity.key → d = c) :
    seedVersions changes c.entity.key = c.readSegment.map NetworkSegmentResponse.version := by
  unfold seedVersions
  rcases hlast : (changes.filter fun d => d.entity.kind = .networkSegment ∧
    d.entity.key = c.entity.key ∧ d.readSegment.isSome).getLast? with _ | d
  · have hempty := List.getLast?_eq_none_iff.mp hlast
    rw [hlast]
    rcases hread : c.readSegment with _ | r
    · rfl
    · have hmem : c ∈ changes.filter fun d => d.entity.kind = .networkSegment ∧
          d.entity.key = c.entity.key ∧ d.readSegment.isSome := by
        simp [hc, hkind, hread]
      rw [hempty] at hmem
      cases hmem
  · have hmem := List.mem_of_getLast? hlast
    simp only [List.mem_filter, decide_eq_true_eq] at hmem
    rw [hlast, hone d hmem.1 (hmem.2.1.trans hkind.symm) hmem.2.2.1]
    rfl

/-- A key that a plan knows is the key of a change with that id. -/
theorem seedResolved_eq_some {changes : List PlannedChange} {kind : ManifestKind} {key id : Str}
    (h : seedResolved changes kind key = some id) :
    ∃ d ∈ changes, d.entity.kind = kind ∧ d.entity.key = key ∧ d.id = some id := by
  unfold seedResolved at h
  obtain ⟨d, hlast, hid⟩ := Option.bind_eq_some_iff.mp h
  have hmem := List.mem_of_getLast? hlast
  simp only [List.mem_filter, decide_eq_true_eq] at hmem
  exact ⟨d, hmem.1, hmem.2.1, hmem.2.2.1, hid⟩

/-- Two changes of one kind and key are one. -/
theorem Queued.unique (hm : Valid m) {changes : List PlannedChange} (h : Queued m changes)
    {c d : PlannedChange} (hc : c ∈ changes) (hd : d ∈ changes)
    (hkind : d.entity.kind = c.entity.kind) (hkey : d.entity.key = c.entity.key) : d = c := by
  have hentity : d.entity = c.entity :=
    List.inj_on_of_nodup_map hm.identities (h.1 d hd) (h.1 c hc) (Prod.ext hkind hkey)
  have hnodup : (changes.map fun c => sortKey m c.entity).Nodup :=
    List.pairwise_map.mpr (h.2.imp ne_of_lt)
  exact List.inj_on_of_nodup_map hnodup hd hc (by rw [hentity])

/-- Any two entities of a valid manifest are apart. -/
theorem Valid.networkApart (hm : Valid m) {a b : ManifestEntity} (ha : a ∈ m.entities)
    (hb : b ∈ m.entities) (hne : a ≠ b) : NetworkApart a b := by
  have : Std.Symm NetworkApart := ⟨fun _ _ h => h.symm⟩
  exact hm.apart.forall ha hb hne

theorem segmentKeyOf_eq {e : ManifestEntity} {spec : ManifestNetworkSegment}
    (hkind : e.kind = .networkSegment) (hspec : e.networkSegment = some spec) :
    segmentKeyOf e = some (segmentNaturalKey spec.site spec.kind spec.name) := by
  unfold segmentKeyOf
  rw [if_pos hkind, hspec]
  rfl

theorem profileSegmentOf_eq {e : ManifestEntity} {spec : ManifestNetworkProfile}
    (hkind : e.kind = .networkProfile) (hspec : e.networkProfile = some spec) :
    profileSegmentOf e = some spec.segment := by
  unfold profileSegmentOf
  rw [if_pos hkind, hspec]
  rfl

/-- A segment that was read is the one that is declared. -/
theorem findReadSegment_eq_some {all : List NetworkSegmentResponse} {spec : ManifestNetworkSegment}
    {r : NetworkSegmentResponse} (h : findReadSegment all spec = some r) :
    r ∈ all ∧ segmentNaturalKey spec.site spec.kind spec.name =
      segmentNaturalKey r.siteKey r.kind.toWire r.name := by
  refine ⟨List.mem_of_find?_eq_some h, ?_⟩
  have hmatch := List.find?_some h
  simp only [Bool.and_eq_true, beq_iff_eq] at hmatch
  rw [hmatch.1.1, hmatch.1.2, hmatch.2]

theorem segmentChange_id (e : ManifestEntity) (spec : ManifestNetworkSegment)
    (read : Option NetworkSegmentResponse) :
    (segmentChange e spec read).id = read.map NetworkSegmentResponse.id := by
  cases read <;> rfl

theorem segmentChange_readSegment (e : ManifestEntity) (spec : ManifestNetworkSegment)
    (read : Option NetworkSegmentResponse) : (segmentChange e spec read).readSegment = read := by
  cases read <;> rfl

/-- A segment whose id a plan knows was read, and its version is known. -/
theorem plan_knows (hm : Valid m) {n : Network} {segments : Option (List NetworkSegmentResponse)}
    {changes : List PlannedChange} (hqueue : Queued m changes)
    (hheld : ∀ all, segments = some all → ∀ r ∈ all, n.segment r.id = some r)
    (hread : ∀ c ∈ changes, HasRead m n segments c.entity c) {key id : Str}
    (h : seedResolved changes .networkSegment key = some id) :
    ∃ r, r.id = id ∧ n.segment id = some r ∧ seedVersions changes key = some r.version ∧
      ∃ e ∈ m.entities, e.kind = .networkSegment ∧ e.key = key ∧
        segmentKeyOf e = some (segmentNaturalKey r.siteKey r.kind.toWire r.name) := by
  obtain ⟨d, hd, hkind, rfl, hid⟩ := seedResolved_eq_some h
  have hmem := hqueue.1 d hd
  obtain ⟨spec, hspec, -⟩ := (hm.network _ hmem).segment hkind
  obtain ⟨all, hall, hchange⟩ := (hread d hd).segment hkind spec hspec
  have hdid : d.id = (findReadSegment all spec).map NetworkSegmentResponse.id := by
    rw [hchange, segmentChange_id]
  obtain ⟨r, hfound, hrid⟩ := Option.map_eq_some_iff.mp (hdid.symm.trans hid)
  obtain ⟨hrmem, hnatural⟩ := findReadSegment_eq_some hfound
  refine ⟨r, hrid, hrid ▸ hheld all hall r hrmem, ?_, d.entity, hmem, hkind, rfl, ?_⟩
  · rw [seedVersions_eq hd hkind fun _ hd' => hqueue.unique hm hd hd']
    have hdread : d.readSegment = some r := by
      rw [hchange, segmentChange_readSegment, hfound]
    rw [hdread]
    rfl
  · rw [segmentKeyOf_eq hkind hspec, hnatural]

/-- An apply starts with what its plan read. -/
theorem Fresh.start (S : NetworkServer api) {s s₁ : σ} {p : Plan}
    (h : plan api m s = (.ok p, s₁)) : Fresh S p.pending (.start p s₁) := by
  obtain ⟨hkept, l, segments, hm, hsorted, hplanned, hheld, hread⟩ := plan_hasRead S h
  rw [← hkept] at hheld hread
  have hqueue := plan_queued hsorted hplanned
  have hpending : ∀ c ∈ p.pending, c ∈ p.changes := fun c hc => (List.mem_filter.mp hc).1
  have hseed : ∀ c ∈ p.changes, seedResolved p.changes c.entity.kind c.entity.key = c.id :=
    fun c hc => seedResolved_eq hc fun _ hd => hqueue.unique hm hc hd
  refine ⟨fun c hc hkind => (hread c (hpending c hc)).policy hkind, fun c hc hkind spec hspec => ?_,
    fun c hc hkind spec hspec read hprofile => ?_, fun key key' id hkey hkey' => ?_,
    fun key _ id hkey => ?_⟩
  · obtain ⟨all, hall, hchange⟩ := (hread c (hpending c hc)).segment hkind spec hspec
    have hid := hseed c (hpending c hc)
    rw [hkind] at hid
    refine ⟨_, hchange, hid.trans ?_, fun r hfound => ?_⟩
    · exact (congrArg PlannedChange.id hchange).trans (segmentChange_id _ _ _)
    · exact hheld all hall r (findReadSegment_eq_some hfound).1
  · obtain ⟨all, owner, segment, row, hall, howner, hsegment, hrow, hprofile⟩ :=
      (hread c (hpending c hc)).profile hkind spec hspec read hprofile
    obtain ⟨hmem, hkey, hownerkind⟩ := findKeyOfKind_eq_some howner
    obtain ⟨d, hd, hplanned'⟩ := plan_complete hsorted hplanned hmem
    -- the owner's change has read the same list
    have hdkind : d.entity.kind = .networkSegment := by rw [hplanned'.entity, hownerkind]
    obtain ⟨all', hall', hchange⟩ := (hread d hd).segment hdkind segment
      (by rw [hplanned'.entity, hsegment])
    cases hall.symm.trans hall'
    have hid := hseed d hd
    rw [hdkind, hplanned'.entity, hkey] at hid
    refine ⟨row.id, hid.trans ?_, hprofile⟩
    rw [hchange, segmentChange_id, hrow]
    rfl
  · obtain ⟨r, -, hr, -, e, he, -, rfl, hnatural⟩ := plan_knows hm hqueue hheld hread hkey
    obtain ⟨r', -, hr', -, e', he', -, rfl, hnatural'⟩ := plan_knows hm hqueue hheld hread hkey'
    obtain rfl : r = r' := Option.some.inj (hr.symm.trans hr')
    by_contra hne
    have hapart := hm.networkApart he he' fun heq => hne (congrArg ManifestEntity.key heq)
    exact hapart.segment _ hnatural hnatural'
  · obtain ⟨r, -, hr, hversion, -⟩ := plan_knows hm hqueue hheld hread hkey
    exact ⟨r, hr, hversion⟩

/-! ## One change -/

variable {S : NetworkServer api} {c : PlannedChange} {rest : List PlannedChange} {w : Work σ}

theorem Live.cons {key : Str} (h : Live rest key) : Live (c :: rest) key := by
  rcases h with ⟨d, hd, hkind⟩ | ⟨d, hd, hsegment⟩
  · exact .inl ⟨d, List.mem_cons_of_mem c hd, hkind⟩
  · exact .inr ⟨d, List.mem_cons_of_mem c hd, hsegment⟩

theorem Fresh.tail (h : Fresh S (c :: rest) w) : Fresh S rest w where
  policy d hd := h.policy d (List.mem_cons_of_mem c hd)
  segment d hd := h.segment d (List.mem_cons_of_mem c hd)
  profile d hd := h.profile d (List.mem_cons_of_mem c hd)
  apart := h.apart
  held key hlive := h.held key hlive.cons

/-- What an apply in progress knows of the network. -/
def NetworkServer.learnt (S : NetworkServer api) (w : Work σ) :
    Network × (Str → Option Str) × (Str → Option Int) :=
  (S.network w.world, w.resolved .networkSegment, w.versions)

theorem Fresh.of_learnt {w' : Work σ} (h : Fresh S rest w) (hsame : S.learnt w' = S.learnt w) :
    Fresh S rest w' := by
  obtain ⟨hnetwork, hresolved, hversions⟩ : S.network w'.world = S.network w.world ∧
      w'.resolved .networkSegment = w.resolved .networkSegment ∧ w'.versions = w.versions := by
    simpa [NetworkServer.learnt] using hsame
  refine ⟨?_, ?_, ?_, ?_, ?_⟩
  · rw [hnetwork]
    exact h.policy
  · rw [hnetwork, hresolved]
    exact h.segment
  · rw [hnetwork, hresolved]
    exact h.profile
  · rw [hresolved]
    exact h.apart
  · rw [hnetwork, hresolved, hversions]
    exact h.held

/-- No write of a network object, and no segment's id. -/
def Needs.offNetwork : Needs :=
  { Needs.all with
    call := fun c => c.writesNetwork = false
    writes := fun kind => kind ≠ .networkSegment }

theorem Call.quiet_of_binds {kind : ManifestKind} {c : Call} (h : c.binds kind = true) :
    c.writesNetwork = false := by
  cases c <;> first | rfl | cases h

theorem Needs.offNetwork_cover (hkind : ¬c.entity.kind.isNetwork = true) :
    Needs.offNetwork.Cover m c :=
  { Needs.all_cover c with
    call := fun call h => by
      cases h with
      | binding _ _ hbinds => exact Call.quiet_of_binds hbinds
      | replacePolicy _ _ h => exact absurd (by rw [h]; rfl) hkind
      | createSegment _ h => exact absurd (by rw [h]; rfl) hkind
      | replaceSegment _ _ h => exact absurd (by rw [h]; rfl) hkind
      | createProfile _ _ _ h => exact absurd (by rw [h]; rfl) hkind
      | replaceProfile _ _ _ _ h => exact absurd (by rw [h]; rfl) hkind
      | _ => rfl
    writes := fun h => hkind (by rw [h]; rfl) }

variable (S) in
/-- Off the network nothing is learnt of it. -/
theorem offNetworkRules : Rules api Needs.offNetwork fun _ p => Keeps S.learnt p where
  ret := Keeps.ret
  bind := Keeps.bind
  ask c hc := fun w =>
    congrArg (fun n => (n, w.resolved .networkSegment, w.versions)) (S.call_quiet hc w.world)
  requireResolved _ := by
    refine Keeps.bind Keeps.read fun w => ?_
    split
    · exact Keeps.ret _
    · exact Keeps.raise _
  requireVersion _ := by
    refine Keeps.bind Keeps.read fun w => ?_
    split
    · exact Keeps.ret _
    · exact Keeps.raise _
  catchAxiam hp hk := by
    refine Keeps.tryCatch hp fun e => ?_
    split
    · exact hk _
    · exact Keeps.raise _
  raiseRebind _ _ _ _ := Keeps.raise _
  edit hg := by
    refine Keeps.modify fun w => ?_
    cases hg with
    | resolve kind key id hne =>
        have hsame : (w.resolve kind key id).resolved .networkSegment =
            w.resolved .networkSegment :=
          funext fun n => if_neg fun h => hne h.1.symm
        exact congrArg (fun known => (S.network w.world, known, w.versions)) hsame
    | setVersion key version hne => exact absurd rfl hne
    | setSecret secret => rfl
    | setId id => rfl

variable (S rest) in
/-- A change that is made of current calls, and leaves the rest what it needs. -/
def Advances (r : Except Exc Unit × Work σ) : Prop :=
  (∀ x ∈ r.2.calls, (S.network x.2).Current x.1) ∧ ∀ u, r.1 = .ok u → Fresh S rest r.2

/-- A change off the network. -/
theorem Fresh.step_outside (h : Fresh S (c :: rest) w) (hkind : ¬c.entity.kind.isNetwork = true) :
    Advances S rest (perform api m c (w.take c)) := by
  have hcover : Needs.offNetwork.Cover m c := Needs.offNetwork_cover hkind
  obtain ⟨new, hlog, hquiet, -⟩ := (loggedRules api Needs.offNetwork).perform hcover (w.take c)
  have hkeep := (offNetworkRules S).perform hcover (w.take c)
  refine ⟨fun x hx => Network.current_of_quiet (hquiet x ?_), fun u hu => ?_⟩
  · have hcalls : (perform api m c (w.take c)).2.calls = new := hlog
    rwa [hcalls] at hx
  · exact h.tail.of_learnt hkeep

/-- A change that is one call and what is made of its reply. -/
theorem advances_ask {call : Call} {k : call.Reply → Prog (Work σ) Exc Unit} {w : Work σ}
    (hw : w.calls = []) (hcurrent : (S.network w.world).Current call)
    (hk : ∀ reply s' body, api.handler call body w.world = (.ok reply, s') →
      Advances S rest (k reply (w.noted call s'))) :
    Advances S rest ((ask api call >>= k) w) := by
  rw [bind_run, ask_run]
  rcases hcall : api.call call w.world with ⟨e | reply, s'⟩
  · refine ⟨fun x hx => ?_, fun u hu => by cases hu⟩
    have hx' : x ∈ w.calls ++ [(call, w.world)] := hx
    rw [hw, List.nil_append, List.mem_singleton] at hx'
    rw [hx']
    exact hcurrent
  · obtain ⟨body, hhandler⟩ := Api.call_ok hcall
    exact hk reply s' body hhandler

/-- The calls of a change that made one. -/
theorem current_noted {call : Call} (w : Work σ) (s' : σ) (hw : w.calls = [])
    (hcurrent : (S.network w.world).Current call) :
    ∀ x ∈ (w.noted call s').calls, (S.network x.2).Current x.1 := by
  intro x hx
  have hx' : x ∈ w.calls ++ [(call, w.world)] := hx
  rw [hw, List.nil_append, List.mem_singleton] at hx'
  rw [hx']
  exact hcurrent

/-- The policy. -/
theorem Fresh.step_policy (hm : Valid m) (hqueue : Queued m (c :: rest))
    (h : Fresh S (c :: rest) w) (hkind : c.entity.kind = .networkPolicy) :
    Advances S rest (perform api m c (w.take c)) := by
  obtain ⟨spec, hspec⟩ := Option.ne_none_iff_exists'.mp
    ((hm.network _ (hqueue.1 c List.mem_cons_self)).policy hkind)
  unfold perform
  simp only [hkind, hspec]
  cases hread : c.readPolicy with
  | none => exact ⟨fun x hx => (List.not_mem_nil hx).elim, fun _ _ => h.tail.of_learnt rfl⟩
  | some read =>
      have hcurrent : (S.network w.world).Current
          (.replacePolicy ⟨spec.sessionTimeoutMaxSecs, read.version⟩) := by
        have hheld := h.policy c List.mem_cons_self hkind read hread
        exact congrArg NetworkPolicyResponse.version hheld
      refine advances_ask rfl hcurrent fun reply s' body hhandler => ?_
      refine ⟨current_noted _ s' rfl hcurrent, fun u _ => ?_⟩
      obtain ⟨hsegment, hprofile⟩ := S.replacesPolicy _ body _ reply s' hhandler
      have htail := h.tail
      refine ⟨fun d hd hdkind => ?_, ?_, ?_, htail.apart, ?_⟩
      · -- there is one policy
        have hne : c.entity ≠ d.entity := by
          intro heq
          have hlt := (List.pairwise_cons.mp hqueue.2).1 d hd
          rw [heq] at hlt
          exact lt_irrefl _ hlt
        have hapart := hm.networkApart (hqueue.1 c List.mem_cons_self)
          (hqueue.1 d (List.mem_cons_of_mem c hd)) hne
        exact absurd hdkind (hapart.policy hkind)
      · show ∀ d ∈ rest, _ → ∀ spec, _ → ∃ read, _ ∧ _ ∧ ∀ r, _ → (S.network s').segment r.id = some r
        rw [hsegment]
        exact htail.segment
      · show ∀ d ∈ rest, _ → ∀ spec, _ → ∀ read, _ → ∃ id, _ ∧ (S.network s').profile id = some read
        rw [hprofile]
        exact htail.profile
      · show ∀ key, Live rest key → ∀ id, _ → ∃ r, (S.network s').segment id = some r ∧ _
        rw [hsegment]
        exact htail.held

/-- What a segment's write leaves of the network and of what is known. -/
structure SegmentWritten (S : NetworkServer api) (w v : Work σ) (key : Str)
    (r : NetworkSegmentResponse) : Prop where
  id : v.resolved .networkSegment key = some r.id
  version : v.versions key = some r.version
  stored : (S.network v.world).segment r.id = some r
  ids : ∀ key' ≠ key, v.resolved .networkSegment key' = w.resolved .networkSegment key'
  versions : ∀ key' ≠ key, v.versions key' = w.versions key'
  others : (S.network w.world).SameBut (S.network v.world) r.id

theorem segmentWritten (c : PlannedChange) {key : Str} {r : NetworkSegmentResponse} {call : Call} {s' : σ}
    (hstored : (S.network s').segment r.id = some r)
    (hothers : (S.network w.world).SameBut (S.network s') r.id) :
    SegmentWritten S w ((((w.take c).noted call s').resolve .networkSegment key r.id).setVersion key
      r.version) key r where
  id := if_pos ⟨rfl, rfl⟩
  version := if_pos rfl
  stored := hstored
  ids _ hne := if_neg fun h => hne h.2
  versions _ hne := if_neg hne
  others := hothers

/-- A segment was written under an id that no other key has. -/
theorem Fresh.written (hm : Valid m) (hqueue : Queued m (c :: rest)) (h : Fresh S (c :: rest) w)
    (hkind : c.entity.kind = .networkSegment) {v : Work σ} {r : NetworkSegmentResponse}
    (hwritten : SegmentWritten S w v c.entity.key r)
    (hown : ∀ key, w.resolved .networkSegment key = some r.id → key = c.entity.key)
    (hprofile : ∀ id, w.resolved .networkSegment c.entity.key = some id → id = r.id ∧
      (S.network v.world).profile id = (S.network w.world).profile id) : Fresh S rest v := by
  -- what another key has is not what was written
  have hother : ∀ key id, key ≠ c.entity.key → w.resolved .networkSegment key = some id →
      id ≠ r.id := fun key id hne hkey heq => hne (hown key (heq ▸ hkey))
  have hlive : ∀ key, Live (c :: rest) key := fun _ => .inl ⟨c, List.mem_cons_self, hkind⟩
  refine ⟨fun d hd hdkind read hread => ?_, fun d hd hdkind spec hspec => ?_,
    fun d hd hdkind spec hspec read hread => ?_, fun key key' id hkey hkey' => ?_,
    fun key _ id hkey => ?_⟩
  · rw [hwritten.others.policy]
    exact h.tail.policy d hd hdkind read hread
  · obtain ⟨read, hchange, hid, hheld⟩ := h.tail.segment d hd hdkind spec hspec
    have hne : d.entity.key ≠ c.entity.key := by
      intro hkey
      have heq : d = c := hqueue.unique hm List.mem_cons_self (List.mem_cons_of_mem c hd)
        (hdkind.trans hkind.symm) hkey
      have hlt := (List.pairwise_cons.mp hqueue.2).1 d hd
      rw [heq] at hlt
      exact lt_irrefl _ hlt
    refine ⟨read, hchange, (hwritten.ids _ hne).trans hid, fun r' hr' => ?_⟩
    rw [hr'] at hid
    rw [hwritten.others.segment r'.id (hother _ _ hne hid)]
    exact hheld r' hr'
  · obtain ⟨id, hid, hheld⟩ := h.tail.profile d hd hdkind spec hspec read hread
    by_cases hkey : spec.segment = c.entity.key
    · rw [hkey] at hid
      obtain ⟨rfl, hkept⟩ := hprofile id hid
      exact ⟨r.id, hkey ▸ hwritten.id, hkept.trans hheld⟩
    · refine ⟨id, (hwritten.ids _ hkey).trans hid, ?_⟩
      rw [hwritten.others.profile id (hother _ _ hkey hid)]
      exact hheld
  · by_cases hown' : key = c.entity.key
    · by_cases hown'' : key' = c.entity.key
      · exact hown'.trans hown''.symm
      · rw [hown', hwritten.id] at hkey
        rw [hwritten.ids key' hown'', ← hkey] at hkey'
        exact absurd (hown key' hkey') hown''
    · by_cases hown'' : key' = c.entity.key
      · rw [hown'', hwritten.id] at hkey'
        rw [hwritten.ids key hown', ← hkey'] at hkey
        exact absurd (hown key hkey) hown'
      · rw [hwritten.ids key hown'] at hkey
        rw [hwritten.ids key' hown''] at hkey'
        exact h.apart key key' id hkey hkey'
  · by_cases hkey' : key = c.entity.key
    · rw [hkey', hwritten.id] at hkey
      cases hkey
      exact ⟨r, hwritten.stored, hkey' ▸ hwritten.version⟩
    · rw [hwritten.ids key hkey'] at hkey
      obtain ⟨r', hr', hversion⟩ := h.held key (hlive key) id hkey
      refine ⟨r', ?_, (hwritten.versions key hkey').trans hversion⟩
      rw [hwritten.others.segment id (hother key id hkey' hkey)]
      exact hr'

/-- A segment. -/
theorem Fresh.step_segment (hm : Valid m) (hqueue : Queued m (c :: rest))
    (h : Fresh S (c :: rest) w) (hkind : c.entity.kind = .networkSegment) :
    Advances S rest (perform api m c (w.take c)) := by
  obtain ⟨spec, hspec, -⟩ := (hm.network _ (hqueue.1 c List.mem_cons_self)).segment hkind
  obtain ⟨read, hchange, hid, hheld⟩ := h.segment c List.mem_cons_self hkind spec hspec
  have hperform : perform api m c = performSegment api c spec := by
    unfold perform
    simp only [hkind, hspec]
  rw [hperform]
  unfold performSegment writeSegment
  cases read with
  | none =>
      have haction : c.action = .create := by rw [hchange]; rfl
      rw [if_pos haction]
      have hcurrent : (S.network w.world).Current (.createSegment (segmentCreateBody spec)) := trivial
      refine advances_ask rfl hcurrent fun r s' body hhandler => ?_
      obtain ⟨hnew, hstored, hothers⟩ := S.createsSegment _ body _ r s' hhandler
      refine ⟨current_noted (w.take c) s' rfl hcurrent, fun u _ => ?_⟩
      refine h.written hm hqueue hkind (segmentWritten c hstored hothers)
        (fun key hkey => ?_) fun id hkey => ?_
      · -- an id that is known is taken
        obtain ⟨r', hr', -⟩ := h.held key (.inl ⟨c, List.mem_cons_self, hkind⟩) _ hkey
        exact absurd (hr'.symm.trans hnew) (Option.some_ne_none r')
      · exact absurd (hkey.symm.trans hid) (Option.some_ne_none id)
  | some read =>
      have haction : c.action ≠ .create := by
        rw [hchange]
        show actionFor _ ≠ _
        cases segmentDrifted spec read <;> decide
      have hread : c.readSegment = some read := by rw [hchange, segmentChange_readSegment]
      have hknown : c.knownId = read.id := by
        unfold PlannedChange.knownId
        rw [hchange, segmentChange_id]
        rfl
      rw [if_neg haction, hread, hknown]
      have hcurrent : (S.network w.world).Current
          (.replaceSegment read.id (segmentReplaceBody spec read)) := ⟨read, hheld read rfl, rfl⟩
      refine advances_ask rfl hcurrent fun r s' body hhandler => ?_
      obtain ⟨hsame, hstored, hprofile, hothers⟩ := S.replacesSegment _ _ body _ r s' hhandler
      rw [← hsame] at hstored hothers
      refine ⟨current_noted (w.take c) s' rfl hcurrent, fun u _ => ?_⟩
      refine h.written hm hqueue hkind (segmentWritten c hstored hothers)
        (fun key hkey => ?_) fun id hkey => ⟨?_, congrFun hprofile id⟩
      · rw [hsame] at hkey
        exact h.apart key c.entity.key read.id hkey hid
      · rw [hsame]
        exact Option.some.inj (hkey.symm.trans hid)

theorem requireResolved_run {kind : ManifestKind} {key what : Str} {r : Option Str}
    (h : w.resolved kind key = r) : requireResolved kind key what w =
      (r.elim (.error (unresolved key what)) .ok, w) := by
  unfold requireResolved
  rw [bind_run, read_run]
  simp only [h]
  cases r <;> rfl

theorem requireVersion_run {key : Str} {version : Int} (h : w.versions key = some version) :
    requireVersion key w = (.ok version, w) := by
  unfold requireVersion
  rw [bind_run, read_run]
  simp only [h]
  rfl

/-- After a profile there are only profiles. -/
theorem Queued.after_profile (hqueue : Queued m (c :: rest)) (hkind : c.entity.kind = .networkProfile)
    {d : PlannedChange} (hd : d ∈ rest) : d.entity.kind = .networkProfile := by
  have hlt := (List.pairwise_cons.mp hqueue.2).1 d hd
  by_contra hne
  have hrank : d.entity.kind.rank < c.entity.kind.rank := by
    rw [hkind]
    cases hk : d.entity.kind with
    | networkProfile => exact absurd hk hne
    | _ => decide
  exact lt_asymm hlt (sortKey_lt_of_kind hrank)

/-- A profile was written, and perhaps its segment moved with it. -/
theorem Fresh.profileWritten (hm : Valid m) (hqueue : Queued m (c :: rest))
    (h : Fresh S (c :: rest) w) (hkind : c.entity.kind = .networkProfile)
    {spec : ManifestNetworkProfile} (hspec : c.entity.networkProfile = some spec) {id : Str}
    (hid : w.resolved .networkSegment spec.segment = some id) {v : Work σ}
    (hresolved : v.resolved .networkSegment = w.resolved .networkSegment)
    (hversions : v.versions = w.versions)
    (hothers : (S.network w.world).SameBut (S.network v.world) id) : Fresh S rest v := by
  have hkinds := fun d (hd : d ∈ rest) => hqueue.after_profile hkind hd
  -- the segments of the profiles that are left are other segments
  have hother : ∀ key, Live rest key → ∀ id', w.resolved .networkSegment key = some id' →
      id' ≠ id := by
    intro key hlive id' hkey heq
    have hsame : key = spec.segment := h.apart key spec.segment id (heq ▸ hkey) hid
    rcases hlive with ⟨d, hd, hdkind⟩ | ⟨d, hd, hsegment⟩
    · rw [hkinds d hd] at hdkind
      cases hdkind
    · have hne : c.entity ≠ d.entity := by
        intro hentity
        have hlt := (List.pairwise_cons.mp hqueue.2).1 d hd
        rw [hentity] at hlt
        exact lt_irrefl _ hlt
      have hapart := hm.networkApart (hqueue.1 c List.mem_cons_self)
        (hqueue.1 d (List.mem_cons_of_mem c hd)) hne
      exact hapart.profile _ (profileSegmentOf_eq hkind hspec) (hsame ▸ hsegment)
  refine ⟨fun d hd hdkind read hread => ?_, fun d hd hdkind => ?_,
    fun d hd hdkind spec' hspec' read hread => ?_, ?_, fun key hlive id' hkey => ?_⟩
  · rw [hothers.policy]
    exact h.tail.policy d hd hdkind read hread
  · rw [hkinds d hd] at hdkind
    cases hdkind
  · obtain ⟨id', hid', hheld⟩ := h.tail.profile d hd hdkind spec' hspec' read hread
    refine ⟨id', (congrFun hresolved _).trans hid', ?_⟩
    have hlive : Live rest spec'.segment := .inr ⟨d, hd, profileSegmentOf_eq hdkind hspec'⟩
    rw [hothers.profile id' (hother _ hlive id' hid')]
    exact hheld
  · rw [hresolved]
    exact h.apart
  · rw [hresolved] at hkey
    obtain ⟨r, hr, hversion⟩ := h.held key hlive.cons id' hkey
    refine ⟨r, ?_, (congrFun hversions key).trans hversion⟩
    rw [hothers.segment id' (hother key hlive id' hkey)]
    exact hr

/-- A profile. -/
theorem Fresh.step_profile (hm : Valid m) (hqueue : Queued m (c :: rest))
    (h : Fresh S (c :: rest) w) (hkind : c.entity.kind = .networkProfile) :
    Advances S rest (perform api m c (w.take c)) := by
  obtain ⟨spec, hspec, -⟩ := (hm.network _ (hqueue.1 c List.mem_cons_self)).profile hkind
  have hperform : perform api m c = performProfile api c spec := by
    unfold perform
    simp only [hkind, hspec]
  rw [hperform]
  unfold performProfile
  cases hid : w.resolved .networkSegment spec.segment with
  | none =>
      rw [bind_run, requireResolved_run (w := w.take c) hid]
      exact ⟨fun x hx => (List.not_mem_nil hx).elim, fun u hu => by cases hu⟩
  | some id =>
      have hlive : Live (c :: rest) spec.segment :=
        .inr ⟨c, List.mem_cons_self, profileSegmentOf_eq hkind hspec⟩
      obtain ⟨r, hr, hversion⟩ := h.held spec.segment hlive id hid
      have hfound : requireResolved .networkSegment spec.segment (str "network segment")
          (w.take c) = (.ok id, w.take c) := requireResolved_run (w := w.take c) hid
      rw [bind_run_ok hfound, bind_run_ok (requireVersion_run (w := w.take c) hversion)]
      -- whichever write it is, only this profile and its segment move
      have hwritten : ∀ (call : Call) (s' : σ),
          (S.network w.world).SameBut (S.network s') id →
            Fresh S rest (((w.take c).noted call s').setId id) := fun call s' hothers =>
        h.profileWritten hm hqueue hkind hspec hid rfl rfl hothers
      have hcreate : Advances S rest ((ask api (.createProfile ⟨profileCreateInput spec, id,
          r.version⟩) >>= fun _ => Prog.modify fun w => w.setId id) (w.take c)) := by
        have hcurrent : (S.network w.world).Current
            (.createProfile ⟨profileCreateInput spec, id, r.version⟩) := ⟨r, hr, rfl⟩
        refine advances_ask rfl hcurrent fun reply s' body hhandler => ?_
        refine ⟨current_noted (w.take c) s' rfl hcurrent, fun u _ => hwritten _ s' ?_⟩
        exact S.createsProfile _ body _ reply s' hhandler
      unfold writeProfile
      by_cases haction : c.action = .create
      · rw [if_pos haction]
        exact hcreate
      · rw [if_neg haction]
        cases hread : c.readProfile with
        | none => exact hcreate
        | some read =>
            obtain ⟨id', hid', hprofile⟩ := h.profile c List.mem_cons_self hkind spec hspec read hread
            obtain rfl : id = id' := Option.some.inj (hid.symm.trans hid')
            have hcurrent : (S.network w.world).Current (.replaceProfile id
                ⟨read.version, r.version, profileReplaceInput spec read⟩) :=
              ⟨⟨r, hr, rfl⟩, read, hprofile, rfl⟩
            refine advances_ask rfl hcurrent fun reply s' body hhandler => ?_
            refine ⟨current_noted (w.take c) s' rfl hcurrent, fun u _ => hwritten _ s' ?_⟩
            exact S.replacesProfile _ _ body _ reply s' hhandler

/-- Every change. -/
theorem Fresh.step (hm : Valid m) (hqueue : Queued m (c :: rest)) (h : Fresh S (c :: rest) w) :
    Advances S rest (perform api m c (w.take c)) := by
  cases hkind : c.entity.kind with
  | networkPolicy => exact h.step_policy hm hqueue hkind
  | networkSegment => exact h.step_segment hm hqueue hkind
  | networkProfile => exact h.step_profile hm hqueue hkind
  | _ =>
      refine h.step_outside ?_
      rw [hkind]
      decide

/-- A whole run. -/
theorem Fresh.attempts (hm : Valid m) (hqueue : Queued m rest) (h : Fresh S rest w) :
    ∀ a ∈ attempts api m rest w, ∀ x ∈ a.post.calls, (S.network x.2).Current x.1 := by
  induction rest generalizing w with
  | nil => exact fun a ha => (List.not_mem_nil ha).elim
  | cons c rest ih =>
      obtain ⟨hcurrent, hnext⟩ := h.step hm hqueue
      intro a ha
      unfold Management.attempts at ha
      rcases List.mem_cons.mp ha with rfl | ha
      · exact hcurrent
      · split at ha
        next u hu =>
          exact ih ⟨fun d hd => hqueue.1 d (List.mem_cons_of_mem _ hd),
            (List.pairwise_cons.mp hqueue.2).2⟩ (hnext u hu) a ha
        · cases ha

end

/-- Whatever the manifest and the tenant, an apply sends the versions that are held. -/
theorem writes_current {σ : Type} {api : Api σ} (S : NetworkServer api) (m : Manifest) :
    Disciplined S m := by
  intro s s₁ p hplan a ha x hx
  obtain ⟨l, hm, hsorted, -, hchanges⟩ := plan_returns api m hplan
  have hqueue := plan_queued hsorted hchanges
  have hpending : Queued m p.pending :=
    ⟨fun c hc => hqueue.1 c (List.mem_filter.mp hc).1, hqueue.2.filter _⟩
  have hcurrent := (Fresh.start S hplan).attempts hm hpending a ha x hx
  refine ⟨hcurrent, fun body e t hrefused hstale => ?_⟩
  exact S.refuses x.1 body x.2 e t hrefused hstale hcurrent

/-! ## A server that locks optimistically -/

/-- The network objects of a tenant, each with its version. -/
structure NetworkStore where
  segments : List NetworkSegmentResponse
  profiles : List NetworkReplyProfile
  policy : NetworkPolicyResponse

namespace NetworkStore

def network (s : NetworkStore) : Network where
  segment id := s.segments.find? fun r => r.id = id
  profile id := s.profiles.find? fun p => p.segmentId = id
  policy := s.policy

def putSegment (s : NetworkStore) (r : NetworkSegmentResponse) : NetworkStore :=
  { s with segments := r :: s.segments.filter fun r' => r'.id ≠ r.id }

def putProfile (s : NetworkStore) (p : NetworkReplyProfile) : NetworkStore :=
  { s with profiles := p :: s.profiles.filter fun p' => p'.segmentId ≠ p.segmentId }

end NetworkStore

/-- `409 stale_version`. -/
def staleVersion : Exc := .axiam (.conflict (str "stale version") (some (str "stale_version")))

def noSuchObject : Exc := .axiam (.notFound (str "no such object"))

/-- A profile as it is stored, with the server's defaults. -/
def storedProfile (segmentId : Str) (p : NetworkReplyProfileInput) (version : Int) :
    NetworkReplyProfile where
  segmentId := segmentId
  dictionary := p.dictionary.getD []
  sessionTimeoutSecs := p.sessionTimeoutSecs
  terminationAction := p.terminationAction.getD .radiusRequest
  idleTimeoutSecs := p.idleTimeoutSecs
  filterId := p.filterId
  serviceType := p.serviceType
  version := version
  terminationActionWire := none
  serviceTypeWire := none

/-- A page of rows. -/
def pageOf {α : Type} (page : PageRequest) (rows : List α) : Page α where
  items := (rows.drop page.offset).take page.limit
  total := rows.length

namespace NetworkStore

/-- What a write comes to, and what it leaves. -/
abbrev Written (α : Type) : Type := Except Exc α × NetworkStore

def createSegment (s : NetworkStore) (b : CreateNetworkSegmentRequest) :
    Written NetworkSegmentResponse :=
  match s.network.segment b.name with
  | some _ => (.error (.axiam (.conflict (str "taken") none)), s)
  | none =>
      let r : NetworkSegmentResponse :=
        { id := b.name, siteKey := b.siteKey, kind := b.kind, name := b.name, vlanId := b.vlanId,
          rank := b.rank, filterIds := b.filterIds.getD [], enabled := b.enabled.getD true,
          version := 1 }
      (.ok r, s.putSegment r)

def replaceSegment (s : NetworkStore) (id : Str) (b : ReplaceNetworkSegmentRequest) :
    Written NetworkSegmentResponse :=
  match s.network.segment id with
  | none => (.error noSuchObject, s)
  | some held =>
      if b.version = held.version then
        let r : NetworkSegmentResponse :=
          { held with
            vlanId := b.vlanId, rank := b.rank, filterIds := b.filterIds, enabled := b.enabled,
            version := held.version + 1 }
        (.ok r, s.putSegment r)
      else (.error staleVersion, s)

def createProfile (s : NetworkStore) (b : CreateNetworkReplyProfileRequest) :
    Written NetworkReplyProfile :=
  match s.network.segment b.segmentId with
  | none => (.error noSuchObject, s)
  | some held =>
      if b.segmentVersion = held.version then
        let p := storedProfile b.segmentId b.profile 1
        (.ok p, s.putProfile p)
      else (.error staleVersion, s)

def replaceProfile (s : NetworkStore) (id : Str) (b : ReplaceNetworkReplyProfileRequest) :
    Written NetworkReplyProfile :=
  match s.network.segment id, s.network.profile id with
  | some segment, some held =>
      if b.segmentVersion = segment.version ∧ b.version = held.version then
        let p := storedProfile id b.profile (held.version + 1)
        (.ok p, s.putProfile p)
      else (.error staleVersion, s)
  | _, _ => (.error noSuchObject, s)

def replacePolicy (s : NetworkStore) (b : ReplaceNetworkPolicyRequest) :
    Written NetworkPolicyResponse :=
  if b.version = s.policy.version then
    let p : NetworkPolicyResponse := ⟨b.sessionTimeoutMaxSecs, s.policy.version + 1⟩
    (.ok p, { s with policy := p })
  else (.error staleVersion, s)

/-- The server of a store: a write with another version than the one held is stale, and one that
lands moves its object to the next version. -/
def handler : Handler NetworkStore
  | .listSegments page, _ => fun s =>
      (.ok (pageOf page (s.segments.filter fun r => s.network.segment r.id = some r)), s)
  | .listProfiles page, _ => fun s =>
      (.ok (pageOf page (s.profiles.filter fun p => s.network.profile p.segmentId = some p)), s)
  | .getPolicy, _ => fun s => (.ok s.policy, s)
  | .createSegment b, _ => fun s => s.createSegment b
  | .replaceSegment id b, _ => fun s => s.replaceSegment id b
  | .createProfile b, _ => fun s => s.createProfile b
  | .replaceProfile id b, _ => fun s => s.replaceProfile id b
  | .replacePolicy b, _ => fun s => s.replacePolicy b
  | _, _ => fun s => (.error noSuchObject, s)

end NetworkStore

def NetworkStore.api : Api NetworkStore := ⟨fun _ => none, NetworkStore.handler, 1⟩

/-- Of the rows with one key only the one that was put is found. -/
theorem find?_put {α : Type} {key : α → Str} (rows : List α) (r : α) (i : Str) :
    (r :: rows.filter fun x => key x ≠ key r).find? (fun x => key x = i) =
      if key r = i then some r else rows.find? fun x => key x = i := by
  by_cases h : key r = i
  · rw [if_pos h, List.find?_cons_of_pos (by simpa using h)]
  · rw [if_neg h, List.find?_cons_of_neg (by simpa using h), List.find?_filter]
    refine congrArg (fun p => rows.find? p) (funext fun x => ?_)
    by_cases hx : key x = i
    · have hne : key x ≠ key r := fun heq => h (heq ▸ hx)
      simp [hx, hx ▸ hne]
    · simp [hx]

theorem NetworkStore.segment_putSegment (s : NetworkStore) (r : NetworkSegmentResponse) (id : Str) :
    (s.putSegment r).network.segment id = if r.id = id then some r else s.network.segment id :=
  find?_put s.segments r id

theorem NetworkStore.profile_putProfile (s : NetworkStore) (p : NetworkReplyProfile) (id : Str) :
    (s.putProfile p).network.profile id =
      if p.segmentId = id then some p else s.network.profile id :=
  find?_put s.profiles p id

theorem NetworkStore.putSegment_sameBut (s : NetworkStore) (r : NetworkSegmentResponse) :
    s.network.SameBut (s.putSegment r).network r.id where
  segment id hne := by rw [s.segment_putSegment, if_neg (Ne.symm hne)]
  profile _ _ := rfl
  policy := rfl

theorem NetworkStore.putProfile_sameBut (s : NetworkStore) (p : NetworkReplyProfile) :
    s.network.SameBut (s.putProfile p).network p.segmentId where
  segment _ _ := rfl
  profile id hne := by rw [s.profile_putProfile, if_neg (Ne.symm hne)]
  policy := rfl

theorem mem_pageOf {α : Type} {page : PageRequest} {rows : List α} {r : α}
    (h : r ∈ (pageOf page rows).items) : r ∈ rows :=
  List.mem_of_mem_drop (List.mem_of_mem_take h)

/-- The id a held segment has is the one it was found by. -/
theorem NetworkStore.segment_id {s : NetworkStore} {id : Str} {r : NetworkSegmentResponse}
    (h : s.network.segment id = some r) : r.id = id := by
  simpa using List.find?_some h

theorem not_stale {what : Str} : ¬Exc.Stale (.axiam (.conflict what none)) := by
  rintro ⟨_, h⟩
  cases h

theorem noSuchObject_not_stale : ¬Exc.Stale noSuchObject := by
  unfold noSuchObject
  rintro ⟨_, h⟩
  cases h

/-- The server of a store obeys the laws of a server. -/
def NetworkStore.server : NetworkServer NetworkStore.api where
  network := NetworkStore.network
  quiet c body s h := by
    cases c with
    | createSegment b => cases h
    | replaceSegment id b => cases h
    | createProfile b => cases h
    | replaceProfile id b => cases h
    | replacePolicy b => cases h
    | _ => rfl
  listsSegments page body s rows t h r hr := by
    cases h
    simpa using (List.mem_filter.mp (mem_pageOf hr)).2
  listsProfiles page body s rows t h p hp := by
    cases h
    simpa using (List.mem_filter.mp (mem_pageOf hp)).2
  getsPolicy body s p t h := by
    cases h
    rfl
  createsSegment b body s r t h := by
    replace h : s.createSegment b = (.ok r, t) := h
    unfold NetworkStore.createSegment at h
    split at h
    next => cases h
    next hnew =>
      cases h
      exact ⟨hnew, by rw [s.segment_putSegment, if_pos rfl], s.putSegment_sameBut _⟩
  replacesSegment id b body s r t h := by
    replace h : s.replaceSegment id b = (.ok r, t) := h
    unfold NetworkStore.replaceSegment at h
    split at h
    next => cases h
    next held hheld =>
      split at h
      next =>
        cases h
        have hid : held.id = id := NetworkStore.segment_id hheld
        refine ⟨hid, ?_, rfl, ?_⟩
        · rw [s.segment_putSegment, if_pos hid]
        · rw [← hid]
          exact s.putSegment_sameBut _
      next => cases h
  createsProfile b body s p t h := by
    replace h : s.createProfile b = (.ok p, t) := h
    unfold NetworkStore.createProfile at h
    split at h
    next => cases h
    next held hheld =>
      split at h
      next =>
        cases h
        exact s.putProfile_sameBut _
      next => cases h
  replacesProfile id b body s p t h := by
    replace h : s.replaceProfile id b = (.ok p, t) := h
    unfold NetworkStore.replaceProfile at h
    split at h
    next segment held hsegment hheld =>
      split at h
      next =>
        cases h
        exact s.putProfile_sameBut _
      next => cases h
    next => cases h
  replacesPolicy b body s p t h := by
    replace h : s.replacePolicy b = (.ok p, t) := h
    unfold NetworkStore.replacePolicy at h
    split at h
    next =>
      cases h
      exact ⟨rfl, rfl⟩
    next => cases h
  refuses c body s e t h hstale := by
    cases c with
    | createSegment b =>
        replace h : s.createSegment b = (.error e, t) := h
        unfold NetworkStore.createSegment at h
        split at h
        next =>
          cases h
          exact absurd hstale not_stale
        next => cases h
    | replaceSegment id b =>
        replace h : s.replaceSegment id b = (.error e, t) := h
        unfold NetworkStore.replaceSegment at h
        split at h
        next =>
          cases h
          exact absurd hstale noSuchObject_not_stale
        next held hheld =>
          split at h
          next => cases h
          next hversion =>
            rintro ⟨r, hr, hsame⟩
            cases hheld.symm.trans hr
            exact hversion hsame
    | createProfile b =>
        replace h : s.createProfile b = (.error e, t) := h
        unfold NetworkStore.createProfile at h
        split at h
        next =>
          cases h
          exact absurd hstale noSuchObject_not_stale
        next held hheld =>
          split at h
          next => cases h
          next hversion =>
            rintro ⟨r, hr, hsame⟩
            cases hheld.symm.trans hr
            exact hversion hsame
    | replaceProfile id b =>
        replace h : s.replaceProfile id b = (.error e, t) := h
        unfold NetworkStore.replaceProfile at h
        split at h
        next segment held hsegment hheld =>
          split at h
          next => cases h
          next hversion =>
            rintro ⟨⟨r, hr, hsame⟩, p, hp, hsame'⟩
            cases hsegment.symm.trans hr
            cases hheld.symm.trans hp
            exact hversion ⟨hsame, hsame'⟩
        next =>
          cases h
          exact absurd hstale noSuchObject_not_stale
    | replacePolicy b =>
        replace h : s.replacePolicy b = (.error e, t) := h
        unfold NetworkStore.replacePolicy at h
        split at h
        next => cases h
        next hversion => exact hversion
    | listSegments page => cases h
    | listProfiles page => cases h
    | getPolicy => cases h
    | _ =>
        cases h
        exact absurd hstale noSuchObject_not_stale

/-- The calls of an apply, in order. -/
def appliedCalls {σ : Type} (api : Api σ) (m : Manifest) (s : σ) : List Call :=
  match plan api m s with
  | (.ok p, s₁) => (attempts api m p.pending (.start p s₁)).flatMap fun a =>
      a.post.calls.map Prod.fst
  | _ => []

/-- A segment on another VLAN, with a shorter session in its profile. -/
def movedSegment : Manifest where
  entities := [
    { kind := .networkProfile, key := str "p",
      networkProfile := some { segment := str "s", sessionTimeoutSecs := 600 } },
    { kind := .networkSegment, key := str "s",
      networkSegment := some
        { site := str "hq", kind := str "access", name := str "office", vlanId := 20 } }]

def officeNetwork : NetworkStore where
  segments := [
    { id := str "1", siteKey := str "hq", kind := .access, name := str "office", vlanId := 10,
      rank := none, filterIds := [], enabled := true, version := 7 }]
  profiles := [storedProfile (str "1") ⟨none, 3600, none, none, none, none⟩ 4]
  policy := ⟨86400, 0⟩

/-- The profile is written against the version the segment came to. -/
theorem movedSegment_disciplined : Disciplined NetworkStore.server movedSegment ∧
    appliedCalls NetworkStore.api movedSegment officeNetwork =
      [.replaceSegment (str "1") ⟨7, 20, [], true, none⟩,
        .replaceProfile (str "1") ⟨4, 8, ⟨some [], 600, some .radiusRequest, none, none, none⟩⟩] :=
  ⟨writes_current NetworkStore.server movedSegment, by decide⟩

end Axiam.Management
