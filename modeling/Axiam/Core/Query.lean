import Axiam.Core.Path

/-!
# Queries

RFC 3986, appendix B: every text divides into a scheme, an authority, a path, a query and a
fragment, of which all but the path may be missing.  A query divides into parameters, each with a
name and a value, which may be percent-encoded.
-/

namespace Axiam

namespace Uri

/-- A URI reference in its parts. -/
structure Reference where
  scheme : Option Str
  authority : Option Str
  path : Str
  query : Option Str
  fragment : Option Str
  deriving DecidableEq

/-- A scheme, and what follows it; before the colon stands no slash. -/
def schemeRest (hier : Str) : Option Str × Str :=
  match cut 58 hier with
  | some (scheme, rest) => if scheme = [] ∨ 47 ∈ scheme then (none, hier) else (some scheme, rest)
  | none => (none, hier)

def authorityPath : Str → Option Str × Str
  | 47 :: 47 :: rest => (some (rest.takeWhile (· != 47)), rest.dropWhile (· != 47))
  | path => (none, path)

/-- The division of appendix B. -/
def reference (url : Str) : Reference :=
  let (scheme, rest) := schemeRest (url.takeWhile (!endsPath ·))
  let (authority, path) := authorityPath rest
  let (query, fragment) := queryFragment (url.dropWhile (!endsPath ·))
  ⟨scheme, authority, path, query, fragment⟩

example : reference "https://a.b:1/c/d?e#f?g" =
    ⟨some "https", some "a.b:1", "/c/d", some "e", some "f?g"⟩ := by decide
example : reference "c:/d/?" = ⟨some "c", none, "/d/", some [], none⟩ := by decide
example : reference "a/b://c" = ⟨none, none, "a/b://c", none, none⟩ := by decide

/-- A part with its mark, where it is there. -/
def marked (mark : UInt8) : Option Str → Str
  | none => []
  | some part => mark :: part

/-- The parameters of a query; nothing between two `&` is no parameter. -/
def parameters (query : Option Str) : List Str :=
  (fields 38 (query.getD [])).filter fun p => p ≠ []

/-- The name of a parameter as it is spelled. -/
def spelledName (p : Str) : Str := p.takeWhile (· != 61)

def parameterName (p : Str) : Str := percentDecode (spelledName p)

def parameterValue (p : Str) : Str := percentDecode ((p.dropWhile (· != 61)).drop 1)

/-! ## Parts put together -/

/-- A text of bytes none of which stops a scan is passed over. -/
theorem takeWhile_append_of_stop {q : UInt8 → Bool} {a b : Str} (ha : ∀ c ∈ a, q c = true)
    (hb : b = [] ∨ ∃ c rest, b = c :: rest ∧ q c = false) :
    (a ++ b).takeWhile q = a ∧ (a ++ b).dropWhile q = b := by
  rw [List.takeWhile_append_of_pos ha, List.dropWhile_append_of_pos ha]
  rcases hb with rfl | ⟨c, rest, rfl, hc⟩
  · simp
  · simp [hc]

/-- Two texts that each pass over bytes and then stop agree on where. -/
theorem run_unique {q : UInt8 → Bool} {a b x y : Str} (ha : ∀ c ∈ a, q c = true)
    (hb : ∀ c ∈ b, q c = true) (hx : x = [] ∨ ∃ c rest, x = c :: rest ∧ q c = false)
    (hy : y = [] ∨ ∃ c rest, y = c :: rest ∧ q c = false) (h : a ++ x = b ++ y) :
    a = b ∧ x = y := by
  obtain ⟨htake, hdrop⟩ := takeWhile_append_of_stop ha hx
  obtain ⟨htake', hdrop'⟩ := takeWhile_append_of_stop hb hy
  rw [h] at htake hdrop
  exact ⟨htake.symm.trans htake', hdrop.symm.trans hdrop'⟩

/-- A text is cut at the mark of the part behind it. -/
theorem cut_marked {mark : UInt8} {text : Str} (h : mark ∉ text) (part : Option Str) :
    cut mark (text ++ marked mark part) = part.map (text, ·) := by
  cases part with
  | none => rw [marked, List.append_nil, cut_eq_none.mpr h, Option.map_none]
  | some part => rw [marked, cut_append part h, Option.map_some]

theorem notMem_marked {mark c : UInt8} {part : Option Str} (hne : c ≠ mark)
    (h : ∀ text ∈ part, c ∉ text) : c ∉ marked mark part := by
  cases part with
  | none => exact List.not_mem_nil
  | some text => exact List.not_mem_cons_of_ne_of_not_mem hne (h text rfl)

theorem queryFragment_marked {query fragment : Option Str} (h : ∀ q ∈ query, 35 ∉ q) :
    queryFragment (marked 63 query ++ marked 35 fragment) = (query, fragment) := by
  unfold queryFragment
  rw [cut_marked (notMem_marked (by decide) h)]
  cases fragment with
  | none => cases query <;> simp [marked, markedQuery]
  | some f => cases query <;> rfl

/-- The parts of a text that was put together. -/
theorem reference_marked {hier : Str} {query fragment : Option Str}
    (hhier : ∀ c ∈ hier, endsPath c = false) (hquery : ∀ q ∈ query, 35 ∉ q) :
    reference (hier ++ (marked 63 query ++ marked 35 fragment)) =
      { reference hier with query, fragment } := by
  have hplain : ∀ c ∈ hier, (!endsPath c) = true := fun c hc => by rw [hhier c hc]; rfl
  have hstop : marked 63 query ++ marked 35 fragment = [] ∨
      ∃ c rest, marked 63 query ++ marked 35 fragment = c :: rest ∧ (!endsPath c) = false := by
    cases query with
    | none =>
        cases fragment with
        | none => exact .inl rfl
        | some f => exact .inr ⟨35, f, rfl, rfl⟩
    | some q => exact .inr ⟨63, q ++ marked 35 fragment, rfl, rfl⟩
  obtain ⟨htake, hdrop⟩ := takeWhile_append_of_stop hplain hstop
  obtain ⟨htake', hdrop'⟩ := takeWhile_append_of_stop (b := []) hplain (.inl rfl)
  rw [List.append_nil] at htake' hdrop'
  unfold reference
  rw [htake, hdrop, htake', queryFragment_marked hquery]

/-- Every text is put together from its parts. -/
theorem exists_marked (url : Str) : ∃ hier query fragment,
    url = hier ++ (marked 63 query ++ marked 35 fragment) ∧
      (∀ c ∈ hier, endsPath c = false) ∧ ∀ q ∈ query, 35 ∉ q := by
  have hplain : ∀ c ∈ url.takeWhile (!endsPath ·), endsPath c = false := fun c hc => by
    simpa using List.mem_takeWhile_imp hc
  have hsplit : url = url.takeWhile (!endsPath ·) ++ url.dropWhile (!endsPath ·) :=
    List.takeWhile_append_dropWhile.symm
  rcases dropWhile_stops endsPath url with hnone | ⟨c, rest, hrest, hc⟩
  · refine ⟨_, none, none, ?_, hplain, fun q hq => by cases hq⟩
    rw [hnone] at hsplit
    exact hsplit
  · simp only [endsPath, Bool.or_eq_true, beq_iff_eq] at hc
    rw [hrest] at hsplit
    rcases hc with rfl | rfl
    · cases hcut : cut 35 rest with
      | none =>
          refine ⟨_, some rest, none, ?_, hplain, fun q hq => ?_⟩
          · rw [show marked 63 (some rest) ++ marked 35 none = 63 :: rest from
              List.append_nil _]
            exact hsplit
          · cases hq
            exact cut_eq_none.mp hcut
      | some parts =>
          obtain ⟨heq, hnot⟩ := cut_eq_some (a := parts.1) (b := parts.2) hcut
          refine ⟨_, some parts.1, some parts.2, ?_, hplain, fun q hq => ?_⟩
          · rw [show marked 63 (some parts.1) ++ marked 35 (some parts.2) = 63 :: rest from
              congrArg (List.cons 63) heq.symm]
            exact hsplit
          · cases hq
            exact hnot
    · exact ⟨_, none, some rest, hsplit, hplain, fun q hq => by cases hq⟩

/-! ## Parameters -/

/-- Parameters joined by `&` are the parameters of the query. -/
theorem fields_joined {pairs : List Str} {last : Str} (hpairs : ∀ p ∈ pairs, 38 ∉ p)
    (hlast : 38 ∉ last) :
    fields 38 (pairs.flatMap (fun p => p ++ [38]) ++ last) = pairs ++ [last] := by
  induction pairs with
  | nil => exact fields_of_notMem hlast
  | cons p rest ih =>
      rw [List.forall_mem_cons] at hpairs
      rw [List.flatMap_cons, List.append_assoc, List.append_assoc]
      exact (fields_append _ hpairs.1).trans (congrArg (List.cons p) (ih hpairs.2))

theorem mem_parameters {query : Option Str} {p : Str} (h : p ∈ parameters query) :
    p ≠ [] ∧ 38 ∉ p := by
  obtain ⟨hmem, hne⟩ := List.mem_filter.mp h
  exact ⟨by simpa using hne, notMem_of_mem_fields hmem⟩

theorem mem_of_mem_fields {sep c : UInt8} {s f : Str} (h : f ∈ fields sep s) (hc : c ∈ f) :
    c ∈ s := by
  induction s generalizing f with
  | nil =>
      rw [fields, List.mem_singleton] at h
      rwa [h] at hc
  | cons d s ih =>
      unfold fields at h
      by_cases hd : d = sep
      · rw [if_pos hd, List.mem_cons] at h
        rcases h with rfl | h
        · cases hc
        · exact List.mem_cons_of_mem d (ih h hc)
      · rw [if_neg hd] at h
        cases hfields : fields sep s with
        | nil =>
            rw [hfields] at h
            obtain rfl := List.mem_singleton.mp h
            exact List.mem_singleton.mp hc ▸ List.mem_cons_self
        | cons g gs =>
            rw [hfields] at h
            rcases List.mem_cons.mp h with rfl | h
            · rcases List.mem_cons.mp hc with rfl | hc
              · exact List.mem_cons_self
              · exact List.mem_cons_of_mem d (ih (hfields ▸ List.mem_cons_self) hc)
            · exact List.mem_cons_of_mem d (ih (hfields ▸ List.mem_cons_of_mem g h) hc)

/-- And every other byte of the text is one of a field. -/
theorem exists_mem_fields {sep c : UInt8} {s : Str} (hc : c ∈ s) (hne : c ≠ sep) :
    ∃ f ∈ fields sep s, c ∈ f := by
  induction s with
  | nil => cases hc
  | cons d s ih =>
      unfold fields
      by_cases hd : d = sep
      · rw [if_pos hd]
        have hrest : c ∈ s := (List.mem_cons.mp hc).resolve_left fun h => hne (h.trans hd)
        obtain ⟨f, hf, hcf⟩ := ih hrest
        exact ⟨f, List.mem_cons_of_mem _ hf, hcf⟩
      · rw [if_neg hd]
        cases hfields : fields sep s with
        | nil =>
            rw [hfields] at ih
            rcases List.mem_cons.mp hc with rfl | hrest
            · exact ⟨_, List.mem_cons_self, List.mem_cons_self⟩
            · obtain ⟨f, hf, -⟩ := ih hrest
              cases hf
        | cons g gs =>
            rw [hfields] at ih
            rcases List.mem_cons.mp hc with rfl | hrest
            · exact ⟨_, List.mem_cons_self, List.mem_cons_self⟩
            · obtain ⟨f, hf, hcf⟩ := ih hrest
              rcases List.mem_cons.mp hf with rfl | hf
              · exact ⟨_, List.mem_cons_self, List.mem_cons_of_mem d hcf⟩
              · exact ⟨f, List.mem_cons_of_mem _ hf, hcf⟩

/-- A byte of a parameter is one of the query. -/
theorem mem_query_of_mem_parameters {query : Option Str} {p : Str} (h : p ∈ parameters query)
    {c : UInt8} (hc : c ∈ p) : ∃ q ∈ query, c ∈ q := by
  obtain ⟨hmem, -⟩ := List.mem_filter.mp h
  have hbyte := mem_of_mem_fields hmem hc
  cases query with
  | none => cases hbyte
  | some q => exact ⟨q, rfl, hbyte⟩

/-- A parameter has the name `key` when it is `key`, or begins with it and an equals sign. -/
theorem spelledName_eq_iff {key p : Str} (hkey : 61 ∉ key) :
    spelledName p = key ↔ p = key ∨ (key ++ [61]) <+: p := by
  have hplain : ∀ c ∈ key, (c != 61) = true := fun c hc => by
    rw [bne_iff_ne]
    rintro rfl
    exact hkey hc
  unfold spelledName
  constructor
  · rintro rfl
    have hsplit : p = p.takeWhile (· != 61) ++ p.dropWhile (· != 61) :=
      List.takeWhile_append_dropWhile.symm
    rcases hdrop : p.dropWhile (· != 61) with _ | ⟨c, rest⟩
    · rw [hdrop, List.append_nil] at hsplit
      exact .inl hsplit
    · have hc : (c != 61) = false := by
        have := List.head?_dropWhile_not (· != 61) p
        simpa [hdrop] using this
      rw [bne_eq_false_iff_eq] at hc
      rw [hdrop, hc] at hsplit
      exact .inr ⟨rest, by rw [List.append_assoc]; exact hsplit.symm⟩
  · rintro (rfl | ⟨rest, rfl⟩)
    · exact List.takeWhile_eq_self_iff.mpr hplain
    · rw [List.append_assoc]
      exact (takeWhile_append_of_stop hplain (.inr ⟨61, rest, rfl, rfl⟩)).1

/-- The value of a parameter that was put together. -/
theorem parameterValue_joined {key : Str} (hkey : 61 ∉ key) (value : Str) :
    parameterValue (key ++ 61 :: value) = percentDecode value := by
  have hplain : ∀ c ∈ key, (c != 61) = true := fun c hc => by
    rw [bne_iff_ne]
    rintro rfl
    exact hkey hc
  unfold parameterValue
  rw [(takeWhile_append_of_stop hplain (.inr ⟨61, value, rfl, rfl⟩)).2]
  rfl

end Uri

end Axiam
