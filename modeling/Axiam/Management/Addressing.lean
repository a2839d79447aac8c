import Axiam.Core.Path
import Axiam.Management.Answers

/-!
# Where a management request goes

The templates of the management operations (`src/management_ops.cpp`) and the paths `substitute`
makes of them.  Between the path and the endpoint stands the removal of dot segments, which
percent-encoding does nothing about.
-/

namespace Axiam.Management

open Axiam.Lib Axiam.Lib.Prog Axiam.Client

/-- A segment of a template: a text, or the placeholder of a parameter. -/
inductive Segment where
  | lit (text : Str)
  | param (name : Str)
  deriving DecidableEq

namespace Segment

/-- Texts and names are of unreserved characters, and no text is a dot segment. -/
def wellFormed : Segment → Bool
  | .lit text => text.all Uri.isUnreserved && !isDots text
  | .param name => name.all Uri.isUnreserved

def name? : Segment → Option Str
  | .lit _ => none
  | .param name => some name

/-- The segment as it is written when some parameters have been put in. -/
def written (values : Str → Option Str) : Segment → Str
  | .lit text => text
  | .param name => match values name with
      | some v => urlEncode v
      | none => str "\x7b" ++ name ++ str "\x7d"

/-- The segment that is meant. -/
def meant (given : Str → Str) : Segment → Str
  | .lit text => text
  | .param name => given name

end Segment

/-- `/a/{b}/c`: a path with a place for each of its parameters. -/
structure Template where
  segments : List Segment
  nonempty : segments ≠ []
  wellFormed : ∀ s ∈ segments, s.wellFormed = true
  distinct : (segments.filterMap Segment.name?).Nodup

namespace Template

variable (t : Template) (given : Str → Str)

def params : List Str := t.segments.filterMap Segment.name?

/-- The text of the template. -/
def text : Str := t.segments.flatMap fun s => 47 :: s.written fun _ => none

/-- The `values` an operation passes: the string of each parameter, in the template's order. -/
def values : List (Str × Str) := t.params.map fun name => (name, given name)

/-- A target that addresses the template's endpoint for the values given. -/
structure Addressed (target : Str) : Prop where
  segments : Uri.segments target = some (t.segments.map (Segment.meant given))
  nonempty : ∀ name ∈ t.params, given name ≠ []

end Template

/-- A value that stays in its segment. -/
def isContained (value : Str) : Bool := value != [] && !isDots value

section

/-! ## Substitution -/

theorem notMem_of_unreserved {s : Str} {c : UInt8} (h : s.all Uri.isUnreserved = true)
    (hc : Uri.isUnreserved c = false) : c ∉ s := by
  intro hmem
  rw [List.all_eq_true] at h
  rw [h c hmem] at hc
  cases hc

theorem urlEncode_notMem {c : UInt8} (hc : Uri.isUnreserved c = false) (hne : c ≠ 37) (s : Str) :
    c ∉ urlEncode s := by
  intro hmem
  rcases Uri.mem_urlEncode hmem with h | h
  · rw [hc] at h
    cases h
  · exact hne h

/-- A placeholder is not found at the place of another. -/
theorem cutAt_other {n m : Str} (hn : n.all Uri.isUnreserved = true)
    (hm : m.all Uri.isUnreserved = true) (hne : m ≠ n) (s : Str) :
    cutAt (123 :: (n ++ [125])) (123 :: (m ++ 125 :: s)) =
      (cutAt (123 :: (n ++ [125])) s).map fun parts => (123 :: (m ++ 125 :: parts.1), parts.2) := by
  have hprefix : (123 :: (n ++ [125])).isPrefixOf (123 :: (m ++ 125 :: s)) = false := by
    rw [Bool.eq_false_iff]
    intro hprefix
    rw [List.isPrefixOf_iff_prefix, List.cons_prefix_cons] at hprefix
    obtain ⟨rest, hrest⟩ := hprefix.2
    rw [List.append_assoc, List.singleton_append] at hrest
    have hcut := cut_append rest (notMem_of_unreserved (c := 125) hn (by decide))
    rw [hrest, cut_append s (notMem_of_unreserved hm (by decide))] at hcut
    cases hcut
    exact hne rfl
  rw [cutAt, hprefix]
  have hskip := cutAt_skip (c := 123) (p := n ++ [125]) (x := m ++ [125])
    (by simp [notMem_of_unreserved (c := 123) hm (by decide)]) s
  rw [List.append_assoc, List.singleton_append] at hskip
  rw [hskip, Option.map_map]
  simp only [Bool.false_eq_true, if_false]
  congr 1
  funext parts
  simp

namespace Segment

variable {s : Segment} {name : Str} {values : Str → Option Str}

/-- A placeholder is not found in a segment that is none of its own. -/
theorem cutAt_written (hform : s.wellFormed = true) (hunreserved : name.all Uri.isUnreserved = true)
    (hne : s.name? ≠ some name) (r : Str) :
    cutAt (123 :: (name ++ [125])) (47 :: s.written values ++ r) =
      (cutAt (123 :: (name ++ [125])) r).map fun parts =>
        (47 :: s.written values ++ parts.1, parts.2) := by
  cases s with
  | lit text =>
      unfold wellFormed at hform
      rw [Bool.and_eq_true] at hform
      apply cutAt_skip
      rw [written, List.mem_cons, not_or]
      exact ⟨by decide, notMem_of_unreserved hform.1 (by decide)⟩
  | param m =>
      cases hvalue : values m with
      | some v =>
          have hwritten : (param m).written values = urlEncode v := by rw [written, hvalue]
          rw [hwritten]
          apply cutAt_skip
          rw [List.mem_cons, not_or]
          exact ⟨by decide, urlEncode_notMem (by decide) (by decide) v⟩
      | none =>
          have hwritten : (param m).written values = 123 :: (m ++ [125]) := by
            rw [written, hvalue]
            rfl
          have hother := cutAt_other hunreserved hform (fun h => hne (congrArg some h)) r
          have hslash := cutAt_skip (c := 123) (p := name ++ [125]) (x := [47]) (by decide)
            (123 :: (m ++ 125 :: r))
          rw [hwritten]
          simp only [List.cons_append, List.nil_append, List.append_assoc] at hslash ⊢
          rw [hslash, hother, Option.map_map]
          rfl

theorem written_update (hne : s.name? ≠ some name) (v : Option Str) :
    s.written (Function.update values name v) = s.written values := by
  cases s with
  | lit text => rfl
  | param m =>
      have hm : m ≠ name := fun h => hne (congrArg some h)
      rw [written, written, Function.update_of_ne hm]

end Segment

/-- One parameter is put in where its placeholder stands. -/
theorem cutAt_text {segs : List Segment} (hform : ∀ s ∈ segs, s.wellFormed = true)
    (hdistinct : (segs.filterMap Segment.name?).Nodup) {name : Str}
    (hname : name ∈ segs.filterMap Segment.name?) {values : Str → Option Str}
    (hnone : values name = none) (v : Str) :
    ∃ before after, cutAt (123 :: (name ++ [125]))
        (segs.flatMap fun s => 47 :: s.written values) = some (before, after) ∧
      before ++ urlEncode v ++ after =
        segs.flatMap fun s => 47 :: s.written (Function.update values name (some v)) := by
  have hunreserved : name.all Uri.isUnreserved = true := by
    obtain ⟨s, hs, hparam⟩ := List.mem_filterMap.mp hname
    have hs := hform s hs
    cases s with
    | lit text => cases hparam
    | param m =>
        cases hparam
        exact hs
  induction segs with
  | nil => exact absurd hname List.not_mem_nil
  | cons s segs ih =>
      rw [List.forall_mem_cons] at hform
      rw [List.filterMap_cons] at hdistinct hname
      by_cases hs : s.name? = some name
      · -- here it stands, and nowhere else
        rw [hs] at hdistinct
        have hrest : ∀ s' ∈ segs, s'.name? ≠ some name := by
          intro s' hs' heq
          exact (List.nodup_cons.mp hdistinct).1 (List.mem_filterMap.mpr ⟨s', hs', heq⟩)
        have htail : (segs.flatMap fun s => 47 :: s.written (Function.update values name (some v))) =
            segs.flatMap fun s => 47 :: s.written values := by
          refine List.flatMap_congr fun s' hs' => ?_
          rw [Segment.written_update (hrest s' hs')]
        obtain rfl : s = .param name := by
          cases s with
          | lit text => cases hs
          | param m =>
              cases hs
              rfl
        have hbefore : (Segment.param name).written values = 123 :: (name ++ [125]) := by
          rw [Segment.written, hnone]
          rfl
        have hafter : (Segment.param name).written (Function.update values name (some v)) =
            urlEncode v := by
          rw [Segment.written, Function.update_self]
        refine ⟨[47], segs.flatMap fun s => 47 :: s.written values, ?_, ?_⟩
        · have hslash := cutAt_skip (c := 123) (p := name ++ [125]) (x := [47]) (by decide)
            (123 :: (name ++ [125]) ++ segs.flatMap fun s => 47 :: s.written values)
          rw [cutAt_self] at hslash
          rw [List.flatMap_cons, hbefore]
          exact hslash
        · rw [List.flatMap_cons, hafter, htail]
          rfl
      -- it stands further on, and this segment does not hold its placeholder
      · have hmem : name ∈ segs.filterMap Segment.name? := by
          cases hparam : s.name? with
          | none => rwa [hparam] at hname
          | some m =>
              rw [hparam] at hname
              rcases List.mem_cons.mp hname with rfl | hmem
              · exact absurd hparam hs
              · exact hmem
        have hnodup : (segs.filterMap Segment.name?).Nodup := by
          cases hparam : s.name? with
          | none => rwa [hparam] at hdistinct
          | some m =>
              rw [hparam] at hdistinct
              exact (List.nodup_cons.mp hdistinct).2
        obtain ⟨before, after, hfound, htext⟩ := ih hform.2 hnodup hmem
        refine ⟨47 :: s.written values ++ before, after, ?_, ?_⟩
        · rw [List.flatMap_cons, Segment.cutAt_written hform.1 hunreserved hs, hfound]
          rfl
        · rw [List.flatMap_cons, Segment.written_update hs, ← htext]
          simp only [List.append_assoc]

/-- The parameters of a list, put in one after the other. -/
theorem substitute_text {segs : List Segment} (hform : ∀ s ∈ segs, s.wellFormed = true)
    (hdistinct : (segs.filterMap Segment.name?).Nodup) (given : Str → Str) (names : List Str)
    (values : Str → Option Str) (hnames : ∀ n ∈ names, n ∈ segs.filterMap Segment.name?)
    (hnodup : names.Nodup) (hnone : ∀ n ∈ names, values n = none) :
    substitute (segs.flatMap fun s => 47 :: s.written values)
        (names.map fun n => (n, given n)) =
      segs.flatMap fun s => 47 :: s.written fun n =>
        if n ∈ names then some (given n) else values n := by
  induction names generalizing values with
  | nil => simp [substitute]
  | cons n names ih =>
      rw [List.forall_mem_cons] at hnames hnone
      rw [List.nodup_cons] at hnodup
      obtain ⟨before, after, hfound, htext⟩ :=
        cutAt_text hform hdistinct hnames.1 hnone.1 (given n)
      have hrest := ih (Function.update values n (some (given n))) hnames.2 hnodup.2
        (by
          intro m hm
          have hne : m ≠ n := by
            rintro rfl
            exact hnodup.1 hm
          rw [Function.update_of_ne hne]
          exact hnone.2 m hm)
      have hstep : substitute (segs.flatMap fun s => 47 :: s.written values)
          ((n :: names).map fun n => (n, given n)) =
          substitute (before ++ urlEncode (given n) ++ after) (names.map fun n => (n, given n)) := by
        unfold substitute
        rw [List.map_cons, List.foldl_cons]
        have hpattern : str "\x7b" ++ n ++ str "\x7d" = 123 :: (n ++ [125]) := rfl
        simp only [hpattern, hfound]
      rw [hstep, htext, hrest]
      congr 1
      funext s
      congr 2
      funext m
      by_cases hm : m = n
      · rw [hm, Function.update_self]
        simp
      · rw [Function.update_of_ne hm]
        simp [hm]

end

section

/-! ## What the path addresses -/

variable (t : Template) (given : Str → Str)

/-- A segment of the path that is sent. -/
def Segment.sent (given : Str → Str) : Segment → Str
  | .lit text => text
  | .param name => urlEncode (given name)

theorem substitute_values :
    substitute t.text (t.values given) = t.segments.flatMap fun s => 47 :: s.sent given := by
  have htext := substitute_text t.wellFormed t.distinct given t.params (fun _ => none)
    (fun n hn => hn) t.distinct fun _ _ => rfl
  rw [Template.text, Template.values, htext]
  refine List.flatMap_congr fun s hs => ?_
  cases s with
  | lit text => rfl
  | param name =>
      have hname : name ∈ t.params := List.mem_filterMap.mpr ⟨_, hs, rfl⟩
      simp [Segment.written, Segment.sent, hname]

variable {t given}

/-- A segment that is sent holds nothing that would end it. -/
theorem Segment.sent_plain {s : Segment} (h : s.wellFormed = true) {c : UInt8}
    (hc : c ∈ s.sent given) : c ≠ 47 ∧ Uri.endsPath c = false := by
  have hcases : Uri.isUnreserved c = true ∨ c = 37 := by
    cases s with
    | lit text =>
        unfold wellFormed at h
        rw [Bool.and_eq_true, List.all_eq_true] at h
        exact .inl (h.1 c hc)
    | param name => exact Uri.mem_urlEncode hc
  rcases hcases with h | rfl
  · simp only [Uri.isUnreserved, Uri.isAlpha, Uri.isDigit, Uri.endsPath] at *
    grind
  · decide

theorem Segment.sent_decoded {s : Segment} (h : s.wellFormed = true) :
    Uri.percentDecode (s.sent given) = s.meant given := by
  cases s with
  | lit text =>
      unfold wellFormed at h
      rw [Bool.and_eq_true] at h
      exact Uri.percentDecode_of_unreserved h.1
  | param name => exact Uri.percentDecode_urlEncode _

theorem Segment.isDots_sent (s : Segment) : isDots (s.sent given) = isDots (s.meant given) := by
  cases s with
  | lit text => rfl
  | param name => exact Uri.isDots_urlEncode _

/-- The segments of a path, read back. -/
theorem fields_flatMap (first : Str) (rest : List Str) (h : ∀ s ∈ first :: rest, 47 ∉ s) :
    Uri.fields 47 (first ++ rest.flatMap fun s => 47 :: s) = first :: rest := by
  induction rest generalizing first with
  | nil => simpa using Uri.fields_of_notMem (h first (by simp))
  | cons second rest ih =>
      rw [List.forall_mem_cons] at h
      rw [List.flatMap_cons, List.cons_append, Uri.fields_append _ h.1, ih second h.2]

theorem withQuery_eq (path : Str) (query : List (Str × Option Str)) :
    ∃ q, withQuery path query = path ++ q ∧ (q = [] ∨ ∃ rest, q = 63 :: rest) := by
  unfold withQuery
  cases query.filterMap fun q => q.2.map fun v => q.1 ++ "=" ++ urlEncode v with
  | nil => exact ⟨[], (List.append_nil _).symm, .inl rfl⟩
  | cons first rest =>
      refine ⟨63 :: (first ++ rest.flatMap fun q => str "&" ++ q), ?_, .inr ⟨_, rfl⟩⟩
      have hmark : str "?" = [63] := rfl
      simp only [hmark, List.append_assoc, List.cons_append, List.nil_append]

/-- The segments a request target has: the ones that are sent, less the dot segments among them. -/
theorem segments_target (query : List (Str × Option Str)) :
    Uri.segments (withQuery (substitute t.text (t.values given)) query) =
      some ((Uri.removeDots [] (t.segments.map (Segment.sent given))).map Uri.percentDecode) := by
  obtain ⟨q, htarget, hq⟩ := withQuery_eq (substitute t.text (t.values given)) query
  rw [htarget, substitute_values]
  have hplain : ∀ c ∈ t.segments.flatMap (fun s => 47 :: s.sent given),
      (!Uri.endsPath c) = true := by
    intro c hc
    obtain ⟨s, hs, hc⟩ := List.mem_flatMap.mp hc
    rcases List.mem_cons.mp hc with rfl | hc
    · rfl
    · rw [(Segment.sent_plain (t.wellFormed s hs) hc).2]
      rfl
  have hpath : (t.segments.flatMap (fun s => 47 :: s.sent given) ++ q).takeWhile
      (!Uri.endsPath ·) = t.segments.flatMap fun s => 47 :: s.sent given := by
    rw [List.takeWhile_append_of_pos hplain]
    obtain rfl | ⟨rest, rfl⟩ := hq
    · rw [List.takeWhile_nil, List.append_nil]
    · rw [List.takeWhile_cons_of_neg (by decide), List.append_nil]
  have hslash : ∀ s ∈ t.segments.map (Segment.sent given), 47 ∉ s := by
    intro s hs hc
    obtain ⟨seg, hseg, rfl⟩ := List.mem_map.mp hs
    exact (Segment.sent_plain (t.wellFormed seg hseg) hc).1 rfl
  unfold Uri.segments
  rw [hpath]
  cases hsegs : t.segments with
  | nil => exact absurd hsegs t.nonempty
  | cons s rest =>
      rw [hsegs, List.map_cons] at hslash
      have hfields := fields_flatMap _ _ hslash
      rw [List.flatMap_map] at hfields
      rw [List.flatMap_cons, List.cons_append]
      simp only
      rw [hfields, List.map_cons]

variable (t given) in
/-- Where no value is empty or a dot segment, the endpoint is the template's, and nowhere else. -/
theorem addressed_iff (query : List (Str × Option Str)) :
    t.Addressed given (withQuery (substitute t.text (t.values given)) query) ↔
      ∀ name ∈ t.params, isContained (given name) = true := by
  have hmeant : t.segments.map (Segment.meant given) =
      (t.segments.map (Segment.sent given)).map Uri.percentDecode := by
    rw [List.map_map]
    refine List.map_congr_left fun s hs => ?_
    exact (Segment.sent_decoded (t.wellFormed s hs)).symm
  constructor
  · rintro ⟨hsegments, hnonempty⟩ name hname
    unfold isContained
    rw [Bool.and_eq_true, bne_iff_ne, Bool.not_eq_true']
    refine ⟨hnonempty name hname, ?_⟩
    by_contra hdots
    rw [Bool.not_eq_false] at hdots
    rw [segments_target, Option.some_inj] at hsegments
    obtain ⟨s, hs, hparam⟩ := List.mem_filterMap.mp hname
    have hmem : given name ∈ t.segments.map (Segment.meant given) := by
      refine List.mem_map.mpr ⟨s, hs, ?_⟩
      cases s with
      | lit text => cases hparam
      | param m =>
          cases hparam
          rfl
    -- no segment that the removal leaves stands for a dot segment
    rw [← hsegments] at hmem
    obtain ⟨raw, hraw, hdecoded⟩ := List.mem_map.mp hmem
    rcases Uri.mem_removeDots hraw with h | rfl | ⟨hraw, hplain⟩
    · exact List.not_mem_nil h
    · rw [← hdecoded] at hdots
      exact absurd hdots (by decide)
    · obtain ⟨s', hs', rfl⟩ := List.mem_map.mp hraw
      rw [Segment.sent_decoded (t.wellFormed s' hs')] at hdecoded
      rw [Segment.isDots_sent, hdecoded, hdots] at hplain
      cases hplain
  · intro h
    refine ⟨?_, fun name hname => ?_⟩
    · have hplain : ∀ s ∈ t.segments.map (Segment.sent given), isDots s = false := by
        intro s hs
        obtain ⟨seg, hseg, rfl⟩ := List.mem_map.mp hs
        rw [Segment.isDots_sent]
        cases seg with
        | lit text =>
            have hform := t.wellFormed _ hseg
            unfold Segment.wellFormed at hform
            rw [Bool.and_eq_true, Bool.not_eq_true'] at hform
            exact hform.2
        | param name =>
            have hname := h name (List.mem_filterMap.mpr ⟨_, hseg, rfl⟩)
            unfold isContained at hname
            rw [Bool.and_eq_true, Bool.not_eq_true'] at hname
            exact hname.2
      rw [segments_target, Uri.removeDots_of_plain hplain, hmeant]
      rfl
    · have hname := h name hname
      unfold isContained at hname
      rw [Bool.and_eq_true, bne_iff_ne] at hname
      exact hname.1

end

section

/-! ## What `send` sends -/

variable (env : Env)

/-- Every request of the attempts has the path that was built, and there is one at least. -/
theorem sendAttempts_sent (operation method path payload : Str) (retries : Nat) (s : Impl) :
    ∃ new, (sendAttempts env operation method path payload retries s).2.sent = s.sent ++ new ∧
      new ≠ [] ∧ ∀ req ∈ new, req.url = env.baseUrl ++ path := by
  induction retries generalizing s with
  | zero =>
      obtain ⟨-, hsent⟩ := keepNetworkError_sendBuilt_run env method path payload s
      refine ⟨[buildRequest env s method path payload], ?_, List.cons_ne_nil _ _, ?_⟩
      · unfold sendAttempts
        rw [bind_lift_run]
        exact hsent
      · intro req hreq
        rw [List.mem_singleton.mp hreq]
        rfl
  | succ retries ih =>
      obtain ⟨-, hsent⟩ := keepNetworkError_sendBuilt_run env method path payload s
      unfold sendAttempts
      rw [bind_run]
      rcases hrun : keepNetworkError (sendBuilt env method path payload) s with ⟨e | outcome, u⟩ <;>
        rw [hrun] at hsent <;> simp only
      · refine ⟨[buildRequest env s method path payload], hsent, List.cons_ne_nil _ _, ?_⟩
        intro req hreq
        rw [List.mem_singleton.mp hreq]
        rfl
      · by_cases hretry : retryShouldRetry (statusOf outcome) = true
        · rw [if_pos hretry]
          obtain ⟨new, hnew, -, hurl⟩ := ih u
          refine ⟨buildRequest env s method path payload :: new, ?_, List.cons_ne_nil _ _, ?_⟩
          · rw [hnew, hsent, List.append_assoc]
            rfl
          · rw [List.forall_mem_cons]
            exact ⟨rfl, hurl⟩
        · rw [if_neg hretry]
          refine ⟨[buildRequest env s method path payload], hsent, List.cons_ne_nil _ _, ?_⟩
          intro req hreq
          rw [List.mem_singleton.mp hreq]
          rfl

theorem payloadOf_isOk {env : Env} {body : Option Json} (h : ¬∃ e, payloadOf env body = .error e) :
    ∃ payload, payloadOf env body = .ok payload := by
  rcases hpayload : payloadOf env body with e | payload
  · exact absurd ⟨e, hpayload⟩ h
  · exact ⟨payload, rfl⟩

/-- A call that is not refused locally comes to its attempts. -/
theorem send_run_open (operation method template : Str) (values : List (Str × Str))
    (query : List (Str × Option Str)) {body : Option Json} {payload : Str} {s : Impl}
    (hopen : s.closed = false) (hsession : s.hasSession = true)
    (hpayload : payloadOf env body = .ok payload) :
    send env operation method template values query body s =
      sendAttempts env operation method (withQuery (substitute template values) query) payload
        (retriesOf env method) s := by
  have hcheck : sessionCheck operation s = (.ok (), s) := by
    unfold sessionCheck
    rw [bind_run, read_run]
    simp only
    rw [if_pos hsession]
    rfl
  unfold send
  rw [bind_run_ok (ensureOpen_run_open hopen), bind_run_ok hcheck, hpayload]
  rfl

/-- A call that is refused locally sends nothing. -/
theorem send_run_refused (operation method template : Str) (values : List (Str × Str))
    (query : List (Str × Option Str)) {body : Option Json} {s : Impl}
    (h : s.closed = true ∨ s.hasSession = false ∨ ∃ e, payloadOf env body = .error e) :
    (send env operation method template values query body s).2 = s := by
  unfold send
  by_cases hclosed : s.closed = true
  · rw [bind_run_error (ensureOpen_run_closed hclosed)]
  have hcheck : (sessionCheck operation s).2 = s := sessionCheck_keeps (f := id) operation s
  rw [bind_run_ok (ensureOpen_run_open (by simpa using hclosed))]
  rcases hrun : sessionCheck operation s with ⟨e | u, v⟩ <;> rw [hrun] at hcheck
  · rw [bind_run_error hrun]
    exact hcheck
  · obtain rfl : v = s := hcheck
    have hsession : v.hasSession = true := (sessionCheck_ok_iff operation v).mp (by rw [hrun])
    rw [bind_run_ok hrun]
    rcases h with h | h | ⟨e, hpayload⟩
    · exact absurd h hclosed
    · rw [hsession] at h
      cases h
    · rw [hpayload]
      rfl

end

/-- Every request of a management call addresses the endpoint of its template exactly when the call
is refused locally or no value of it is empty, `.` or `..`. -/
theorem send_addresses_iff (env : Env) (operation method : Str) (t : Template) (given : Str → Str)
    (query : List (Str × Option Str)) (body : Option Json) (s : Impl) :
    (∀ req ∈ (send env operation method t.text (t.values given) query body s).2.sent.drop
        s.sent.length, ∃ target, req.url = env.baseUrl ++ target ∧ t.Addressed given target) ↔
      (s.closed = true ∨ s.hasSession = false ∨ ∃ e, payloadOf env body = .error e) ∨
        ∀ name ∈ t.params, isContained (given name) = true := by
  by_cases hrefused : s.closed = true ∨ s.hasSession = false ∨ ∃ e, payloadOf env body = .error e
  · rw [send_run_refused env _ _ _ _ _ hrefused, List.drop_length]
    exact ⟨fun _ => .inl hrefused, fun _ _ h => absurd h List.not_mem_nil⟩
  · have hnot := hrefused
    rw [not_or, not_or, Bool.not_eq_true, Bool.not_eq_false] at hnot
    obtain ⟨payload, hpayload⟩ := payloadOf_isOk hnot.2.2
    rw [send_run_open env _ _ _ _ _ hnot.1 hnot.2.1 hpayload]
    obtain ⟨new, hsent, hne, hurl⟩ := sendAttempts_sent env operation method
      (withQuery (substitute t.text (t.values given)) query) payload (retriesOf env method) s
    rw [hsent, List.drop_left]
    constructor
    · intro h
      obtain ⟨req, hreq⟩ := List.exists_mem_of_ne_nil new hne
      obtain ⟨target, htarget, haddressed⟩ := h req hreq
      rw [hurl req hreq] at htarget
      rw [← List.append_cancel_left htarget] at haddressed
      exact .inr ((addressed_iff t given query).mp haddressed)
    · intro h req hreq
      exact ⟨_, hurl req hreq, (addressed_iff t given query).mpr (h.resolve_left hrefused)⟩

/-- `tenants.delete`. -/
def tenantPath : Template where
  segments := [.lit "api", .lit "v1", .lit "organizations", .param "org_id", .lit "tenants",
    .param "tenant_id"]
  nonempty := by decide
  wellFormed := by decide
  distinct := by decide

example : tenantPath.text = str "/api/v1/organizations/\x7borg_id\x7d/tenants/\x7btenant_id\x7d" := by
  decide

def quietServer : Env where
  baseUrl := "https://iam.example"
  tenantHeader := "acme"
  parse := tableParser []
  dump := fun _ => "\x7b\x7d"
  transport := fun _ _ => .ok { status := 204 }
  clock := fun n => n
  opaqueStart := fun _ _ => .error (.foreign "no library")
  opaqueFinish := fun _ _ _ _ => .error (.foreign "no library")

/-- A tenant called `..`: its deletion is addressed to the organization. -/
theorem dots_leave_segment :
    ¬∀ (env : Env) (operation method : Str) (t : Template) (given : Str → Str)
        (query : List (Str × Option Str)) (body : Option Json) (s : Impl),
      ∀ req ∈ (send env operation method t.text (t.values given) query body s).2.sent.drop
        s.sent.length, ∃ target, req.url = env.baseUrl ++ target ∧ t.Addressed given target := by
  intro hclaim
  let given : Str → Str := fun name => if name = str "org_id" then "acme" else ".."
  have hsent : ∃ req ∈ (send quietServer "tenants.delete" "DELETE" tenantPath.text
      (tenantPath.values given) [] none { session := true }).2.sent.drop 0,
      req.url = quietServer.baseUrl ++ str "/api/v1/organizations/acme/tenants/.." := by
    decide
  obtain ⟨req, hreq, hurl⟩ := hsent
  obtain ⟨target, htarget, haddressed⟩ := hclaim quietServer "tenants.delete" "DELETE" tenantPath
    given [] none { session := true } req hreq
  rw [hurl] at htarget
  have hsegments := haddressed.segments
  rw [← List.append_cancel_left htarget] at hsegments
  exact absurd hsegments (by decide)

end Axiam.Management
