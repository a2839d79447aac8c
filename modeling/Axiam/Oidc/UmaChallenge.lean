import Axiam.Core.Backoff
import Axiam.Core.Uri

/-!
# The UMA challenge

`uma_challenge_header` and `uma_parse_challenge` (`src/client.cpp`): the header a resource server
refuses a request with, and what a client reads of it.  The parser cuts the header at every comma,
in a quoted value too, so what one half writes the other reads back exactly when no value has one.
-/

namespace Axiam

/-- `unquote`: one layer of surrounding double quotes, if there is one. -/
def unquote (s : Str) : Str :=
  if 2 ≤ s.length ∧ s.head? = some 34 ∧ s.getLast? = some 34 then (s.drop 1).dropLast else s

namespace Oidc

structure UmaChallenge where
  realm : Option Str := none
  asUri : Option Str := none
  ticket : Option Str := none
  deriving DecidableEq

/-- One part of the header: of two with one key the later stays, and an unknown key is ignored. -/
def UmaChallenge.read (challenge : UmaChallenge) (part : Str) : UmaChallenge :=
  match cut 61 part with
  | none => challenge
  | some (before, after) =>
      let key := trim before
      let value := unquote (trim after)
      if key = "realm" then { challenge with realm := some value }
      else if key = "as_uri" then { challenge with asUri := some value }
      else if key = "ticket" then { challenge with ticket := some value }
      else challenge

/-- `uma_parse_challenge`. -/
def umaParseChallenge (header : Str) : Option UmaChallenge :=
  let trimmed := trim header
  if (str "UMA").isPrefixOf trimmed then
    let rest := trimmed.drop 3
    if rest.head?.any (!isBlank ·) then none
    else some ((Uri.fields 44 rest).foldl UmaChallenge.read {})
  else none

/-- `uma_challenge_header`. -/
def umaChallengeHeader (realm asUri ticket : Str) : Str :=
  str "UMA realm=\"" ++ realm ++ str "\", as_uri=\"" ++ asUri ++ str "\", ticket=\"" ++ ticket ++
    str "\""

section

/-! ## Blanks and quotes -/

theorem trim_of_ends {c d : UInt8} (s : Str) (hc : isBlank c = false) (hd : isBlank d = false) :
    trim (c :: s ++ [d]) = c :: s ++ [d] := by
  unfold trim
  have hfront : (c :: s ++ [d]).dropWhile isBlank = c :: s ++ [d] := by
    rw [List.cons_append, List.dropWhile_cons_of_neg (by simp [hc])]
  rw [hfront, List.reverse_append, List.reverse_singleton, List.singleton_append,
    List.dropWhile_cons_of_neg (by simp [hd])]
  simp

theorem mem_of_mem_trim {c : UInt8} {s : Str} (h : c ∈ trim s) : c ∈ s := by
  unfold trim at h
  rw [List.mem_reverse] at h
  have h := (List.dropWhile_sublist isBlank).subset h
  rw [List.mem_reverse] at h
  exact (List.dropWhile_sublist isBlank).subset h

theorem mem_of_mem_unquote {c : UInt8} {s : Str} (h : c ∈ unquote s) : c ∈ s := by
  unfold unquote at h
  split at h
  · exact (List.drop_sublist 1 s).subset ((List.dropLast_sublist _).subset h)
  · exact h

/-- A value between quotes is read as it is, whatever it holds. -/
theorem unquote_trim_quoted (v : Str) : unquote (trim (34 :: v ++ [34])) = v := by
  rw [trim_of_ends v (by decide) (by decide)]
  unfold unquote
  rw [if_pos ⟨by simp, rfl, List.getLast?_concat⟩]
  simp

/-! ## Parts -/

/-- A part that states a value between quotes. -/
theorem read_stated (challenge : UmaChallenge) {name : Str} (v : Str) (h : 61 ∉ name) :
    challenge.read (name ++ 61 :: 34 :: v ++ [34]) =
      if trim name = "realm" then { challenge with realm := some v }
      else if trim name = "as_uri" then { challenge with asUri := some v }
      else if trim name = "ticket" then { challenge with ticket := some v }
      else challenge := by
  unfold UmaChallenge.read
  have hcut : cut 61 (name ++ 61 :: 34 :: v ++ [34]) = some (name, 34 :: v ++ [34]) := by
    rw [List.append_assoc, List.cons_append]
    exact cut_append _ h
  rw [hcut]
  simp only [unquote_trim_quoted]

/-- No value that was read holds a byte. -/
structure UmaChallenge.Without (c : UInt8) (challenge : UmaChallenge) : Prop where
  realm : ∀ v ∈ challenge.realm, c ∉ v
  asUri : ∀ v ∈ challenge.asUri, c ∉ v
  ticket : ∀ v ∈ challenge.ticket, c ∉ v

/-- What a part states is text of the part. -/
theorem UmaChallenge.Without.read {c : UInt8} {challenge : UmaChallenge} {part : Str}
    (h : challenge.Without c) (hpart : c ∉ part) : (challenge.read part).Without c := by
  unfold UmaChallenge.read
  cases hcut : cut 61 part with
  | none => exact h
  | some parts =>
      obtain ⟨before, after⟩ := parts
      have hvalue : ∀ v ∈ some (unquote (trim after)), c ∉ v := by
        intro v hv hmem
        rw [Option.mem_some] at hv
        rw [← hv] at hmem
        have hafter := mem_of_mem_trim (mem_of_mem_unquote hmem)
        rw [(cut_eq_some hcut).1] at hpart
        exact hpart (List.mem_append_right before (List.mem_cons_of_mem 61 hafter))
      simp only
      split_ifs
      · exact ⟨hvalue, h.asUri, h.ticket⟩
      · exact ⟨h.realm, hvalue, h.ticket⟩
      · exact ⟨h.realm, h.asUri, hvalue⟩
      · exact h

/-- The parts hold no comma, so no value read does. -/
theorem umaParseChallenge_without {header : Str} {challenge : UmaChallenge}
    (h : umaParseChallenge header = some challenge) : challenge.Without 44 := by
  have hrun : ∀ (parts : List Str) (start : UmaChallenge), (∀ part ∈ parts, (44 : UInt8) ∉ part) →
      start.Without 44 → (parts.foldl UmaChallenge.read start).Without 44 := by
    intro parts
    induction parts with
    | nil => exact fun _ _ hstart => hstart
    | cons part rest ih =>
        intro start hparts hstart
        rw [List.forall_mem_cons] at hparts
        exact ih _ hparts.2 (hstart.read hparts.1)
  unfold umaParseChallenge at h
  simp only at h
  split at h
  · split at h
    · cases h
    · cases h
      refine hrun _ {} (fun part hpart => Uri.notMem_of_mem_fields hpart) ⟨?_, ?_, ?_⟩ <;>
        exact fun v hv => absurd hv (by simp)
  · cases h

end

/-! ## The round trip -/

/-- What a client reads of a header when none of its values has a comma. -/
theorem umaParseChallenge_header {realm asUri ticket : Str} (hrealm : 44 ∉ realm)
    (huri : 44 ∉ asUri) (hticket : 44 ∉ ticket) :
    umaParseChallenge (umaChallengeHeader realm asUri ticket) =
      some ⟨some realm, some asUri, some ticket⟩ := by
  -- the three parts, each between its own quotes
  have hheader : umaChallengeHeader realm asUri ticket =
      str "UMA" ++ ((str " realm" ++ 61 :: 34 :: realm ++ [34]) ++
        44 :: ((str " as_uri" ++ 61 :: 34 :: asUri ++ [34]) ++
          44 :: (str " ticket" ++ 61 :: 34 :: ticket ++ [34]))) := by
    have hopen : str "UMA realm=\"" = str "UMA" ++ (str " realm" ++ [61, 34]) := by decide
    have huri : str "\", as_uri=\"" = [34, 44] ++ (str " as_uri" ++ [61, 34]) := by decide
    have hticket : str "\", ticket=\"" = [34, 44] ++ (str " ticket" ++ [61, 34]) := by decide
    unfold umaChallengeHeader
    rw [hopen, huri, hticket, show str "\"" = [34] by decide]
    simp
  have hpart : ∀ (name : Str) (v : Str), (44 : UInt8) ∉ name → (44 : UInt8) ∉ v →
      (44 : UInt8) ∉ name ++ 61 :: 34 :: v ++ [34] := by
    intro name v hname hv
    simp [hname, hv]
  have hfields : Uri.fields 44 ((str " realm" ++ 61 :: 34 :: realm ++ [34]) ++
      44 :: ((str " as_uri" ++ 61 :: 34 :: asUri ++ [34]) ++
        44 :: (str " ticket" ++ 61 :: 34 :: ticket ++ [34]))) =
      [str " realm" ++ 61 :: 34 :: realm ++ [34], str " as_uri" ++ 61 :: 34 :: asUri ++ [34],
        str " ticket" ++ 61 :: 34 :: ticket ++ [34]] := by
    rw [Uri.fields_append _ (hpart _ _ (by decide) hrealm),
      Uri.fields_append _ (hpart _ _ (by decide) huri),
      Uri.fields_of_notMem (hpart _ _ (by decide) hticket)]
  obtain ⟨body, hbody⟩ : ∃ body, (str " realm" ++ 61 :: 34 :: realm ++ [34]) ++
      44 :: ((str " as_uri" ++ 61 :: 34 :: asUri ++ [34]) ++
        44 :: (str " ticket" ++ 61 :: 34 :: ticket ++ [34])) = 32 :: body ++ [34] :=
    ⟨str "realm" ++ 61 :: 34 :: realm ++ 34 :: 44 :: (str " as_uri" ++ 61 :: 34 :: asUri ++
      34 :: 44 :: (str " ticket" ++ 61 :: 34 :: ticket)), by
        rw [show str " realm" = 32 :: str "realm" by decide]
        simp⟩
  unfold umaParseChallenge
  rw [hheader, hbody]
  have htrim : trim (str "UMA" ++ (32 :: body ++ [34])) = str "UMA" ++ (32 :: body ++ [34]) :=
    trim_of_ends (77 :: 65 :: 32 :: body) (by decide) (by decide)
  have hprefix : (str "UMA").isPrefixOf (str "UMA" ++ (32 :: body ++ [34])) = true :=
    List.isPrefixOf_iff_prefix.mpr (List.prefix_append _ _)
  have hdrop : List.drop 3 (str "UMA" ++ (32 :: body ++ [34])) = 32 :: body ++ [34] := rfl
  have hblank : ¬(32 :: body ++ [34]).head?.any (!isBlank ·) = true := by
    rw [List.cons_append, List.head?_cons]
    decide
  rw [htrim]
  simp only [if_pos hprefix]
  rw [hdrop, if_neg hblank, ← hbody, hfields]
  simp only [List.foldl_cons, List.foldl_nil]
  rw [read_stated _ realm (by decide), read_stated _ asUri (by decide),
    read_stated _ ticket (by decide)]
  rfl

/-- The round trip holds exactly when no value has a comma. -/
theorem uma_round_trip_iff (realm asUri ticket : Str) :
    umaParseChallenge (umaChallengeHeader realm asUri ticket) =
        some ⟨some realm, some asUri, some ticket⟩ ↔
      44 ∉ realm ∧ 44 ∉ asUri ∧ 44 ∉ ticket := by
  constructor
  · intro h
    have hwithout := umaParseChallenge_without h
    exact ⟨hwithout.realm realm rfl, hwithout.asUri asUri rfl, hwithout.ticket ticket rfl⟩
  · rintro ⟨hrealm, huri, hticket⟩
    exact umaParseChallenge_header hrealm huri hticket

/-- A realm with a comma comes back cut off, behind the quote that opened it. -/
theorem comma_cuts_realm :
    ¬∀ realm asUri ticket : Str, (∀ v ∈ [realm, asUri, ticket], 34 ∉ v ∧ 92 ∉ v) →
      umaParseChallenge (umaChallengeHeader realm asUri ticket) =
        some ⟨some realm, some asUri, some ticket⟩ := by
  intro hclaim
  have hread : umaParseChallenge (umaChallengeHeader "a,b" "https://id.example" "t1") =
      some ⟨some "\"a", some "https://id.example", some "t1"⟩ := by
    decide
  have hsame := hread.symm.trans (hclaim "a,b" "https://id.example" "t1" (by decide))
  revert hsame
  decide

end Oidc

end Axiam
