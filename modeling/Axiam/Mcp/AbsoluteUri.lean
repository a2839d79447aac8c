import Axiam.Core.Http
import Axiam.Core.Query

/-!
# Absolute URIs of a resource server

`parse_absolute_uri` and `require_absolute_uri` (`src/mcp.cpp`): a text is sliced and never
normalised, so that what passes is what was written.
-/

namespace Axiam.Mcp

/-- What `refuse` throws. -/
def refusal (field message : Str) : Str := field ++ str ": " ++ message ++ str " (CONTRACT.md §28)"

def isLoopbackHost (host : Str) : Bool :=
  host == str "127.0.0.1" || host == str "[::1]" || host == str "localhost"

def isNqchar (c : UInt8) : Bool := c == 0x21 || (0x23 ≤ c && c ≤ 0x5B) || (0x5D ≤ c && c ≤ 0x7E)

def isNqschar (c : UInt8) : Bool := c == 0x20 || isNqchar c

/-- `is_all`: one or more characters, each of a kind. -/
def isAll (value : Str) (predicate : UInt8 → Bool) : Bool := value != [] && value.all predicate

structure ParsedUri where
  scheme : Str
  authority : Str
  path : Str
  hasQuery : Bool := false
  hasFragment : Bool := false
  deriving DecidableEq

def isSchemeChar (c : UInt8) (first : Bool) : Bool :=
  Uri.isAlpha c || (!first && (Uri.isDigit c || c == 43 || c == 46 || c == 45))

/-- The characters in front of the `://`. -/
def isScheme : Str → Bool
  | [] => false
  | c :: rest => isSchemeChar c true && rest.all (isSchemeChar · false)

/-- What follows the path: whether there is a query, and whether a fragment. -/
def marks (tail : Str) : Bool × Bool :=
  let hasQuery := tail.head? == some 63
  let cursor := if hasQuery then tail.dropWhile (· != 35) else tail
  (hasQuery, cursor.head? == some 35)

/-- `parse_absolute_uri`. -/
def parseAbsoluteUri (raw : Str) : Option ParsedUri :=
  match cutAt "://" raw with
  | none => none
  | some (scheme, rest) =>
      let authority := rest.takeWhile (!Uri.endsAuthority ·)
      let rest := rest.dropWhile (!Uri.endsAuthority ·)
      let path := rest.takeWhile (!Uri.endsPath ·)
      let (hasQuery, hasFragment) := marks (rest.dropWhile (!Uri.endsPath ·))
      if isScheme scheme = false then none
      else if authority = [] then none
      else some ⟨scheme, authority, path, hasQuery, hasFragment⟩

/-- `host_of`: without user information and port; a bracketed host keeps its brackets. -/
def hostOf (authority : Str) : Str :=
  let hostport := afterLast 64 authority
  if hostport.head? = some 91 then
    match cut 93 hostport with
    | none => hostport
    | some (inside, _) => inside ++ [93]
  else match cut 58 hostport with
    | none => hostport
    | some (host, _) => host

structure UriPolicy where
  allowQuery : Bool
  allowFragment : Bool

def kIdentifier : UriPolicy := ⟨false, false⟩

def kLocator : UriPolicy := ⟨true, true⟩

/-- The scheme and host that are accepted. -/
def isSecure (parsed : ParsedUri) : Bool :=
  lower parsed.scheme == str "https" ||
    (lower parsed.scheme == str "http" && isLoopbackHost (lower (hostOf parsed.authority)))

/-- `require_absolute_uri`. -/
def requireAbsoluteUri (field raw : Str) (policy : UriPolicy) : Except Str ParsedUri :=
  if raw = [] then .error (refusal field "must be a non-empty absolute URI")
  else match parseAbsoluteUri raw with
  | none => .error (refusal field
      (str "must be an absolute URI with a scheme and an authority, not \"" ++ raw ++ str "\""))
  | some parsed =>
      if parsed.hasQuery && !policy.allowQuery then
        .error (refusal field "must carry no query — §28.3 derives the metadata path from it")
      else if parsed.hasFragment && !policy.allowFragment then
        .error (refusal field "must carry no fragment")
      else if isSecure parsed then .ok parsed
      else .error (refusal field
        (str ("must use https — http is accepted only on 127.0.0.1, [::1] or localhost, " ++
          "and \"") ++ raw ++ str "\" is neither"))

/-! ## What is parsed -/

/-- A URI of a scheme, an authority and a path, and nothing behind it. -/
structure ParsedUri.Bare (p : ParsedUri) : Prop where
  scheme : isScheme p.scheme = true
  authority_ne : p.authority ≠ []
  authority : ∀ c ∈ p.authority, Uri.endsAuthority c = false
  path : p.path = [] ∨ ∃ rest, p.path = 47 :: rest
  path_plain : ∀ c ∈ p.path, Uri.endsPath c = false
  noQuery : p.hasQuery = false
  noFragment : p.hasFragment = false

/-- The text of its three parts. -/
def ParsedUri.text (p : ParsedUri) : Str := p.scheme ++ (str "://" ++ (p.authority ++ p.path))

theorem colon_notMem_of_isScheme {scheme : Str} (h : isScheme scheme = true) : 58 ∉ scheme := by
  cases scheme with
  | nil => simp
  | cons c rest =>
      unfold isScheme at h
      rw [Bool.and_eq_true, List.all_eq_true] at h
      rw [List.mem_cons, not_or]
      constructor
      · rintro rfl
        exact absurd h.1 (by decide)
      · exact fun hmem => absurd (h.2 58 hmem) (by decide)

theorem cutAt_scheme {scheme : Str} (h : 58 ∉ scheme) (rest : Str) :
    cutAt "://" (scheme ++ (str "://" ++ rest)) = some (scheme, rest) := by
  have hmark : str "://" = 58 :: [47, 47] := by decide
  rw [hmark, cutAt_skip h, cutAt_self]
  simp

/-- Its parts are read back. -/
theorem ParsedUri.Bare.parse {p : ParsedUri} (h : p.Bare) : parseAbsoluteUri p.text = some p := by
  have hauthority : ∀ c ∈ p.authority, (!Uri.endsAuthority c) = true := by
    intro c hc
    rw [h.authority c hc]
    rfl
  have hstop : p.path = [] ∨ ∃ c rest, p.path = c :: rest ∧ (!Uri.endsAuthority c) = false := by
    rcases h.path with hpath | ⟨rest, hpath⟩
    · exact .inl hpath
    · exact .inr ⟨47, rest, hpath, by decide⟩
  have hpath : ∀ c ∈ p.path, (!Uri.endsPath c) = true := by
    intro c hc
    rw [h.path_plain c hc]
    rfl
  obtain ⟨htake, hdrop⟩ := Uri.takeWhile_append_of_stop hauthority hstop
  obtain ⟨htake', hdrop'⟩ := Uri.takeWhile_append_of_stop (b := []) hpath (.inl rfl)
  rw [List.append_nil] at htake' hdrop'
  unfold parseAbsoluteUri ParsedUri.text
  rw [cutAt_scheme (colon_notMem_of_isScheme h.scheme)]
  simp only [htake, hdrop, htake', hdrop']
  have hmarks : marks [] = (p.hasQuery, p.hasFragment) := by
    rw [h.noQuery, h.noFragment]
    rfl
  rw [hmarks, if_neg (by simp [h.scheme]), if_neg h.authority_ne]

/-- What is parsed without a query and a fragment is the text of its parts. -/
theorem bare_of_parse {raw : Str} {p : ParsedUri} (h : parseAbsoluteUri raw = some p)
    (hquery : p.hasQuery = false) (hfragment : p.hasFragment = false) : p.Bare ∧ raw = p.text := by
  unfold parseAbsoluteUri at h
  cases hcut : cutAt (str "://") raw with
  | none =>
      rw [hcut] at h
      cases h
  | some parts =>
      obtain ⟨scheme, rest⟩ := parts
      rw [hcut] at h
      simp only at h
      split_ifs at h with hscheme hauthority
      cases h
      have hraw := cutAt_eq_some hcut
      -- nothing stands behind the path
      have hend : (rest.dropWhile (!Uri.endsAuthority ·)).dropWhile (!Uri.endsPath ·) = [] := by
        rcases Uri.dropWhile_stops Uri.endsPath (rest.dropWhile (!Uri.endsAuthority ·)) with
          hnil | ⟨c, tail, hcons, hc⟩
        · exact hnil
        · simp only [hcons] at hquery hfragment
          unfold Uri.endsPath at hc
          rw [Bool.or_eq_true, beq_iff_eq, beq_iff_eq] at hc
          rcases hc with rfl | rfl
          · simp [marks] at hquery
          · simp [marks] at hfragment
      have hpath : (rest.dropWhile (!Uri.endsAuthority ·)).takeWhile (!Uri.endsPath ·) =
          rest.dropWhile (!Uri.endsAuthority ·) := by
        have hsplit := List.takeWhile_append_dropWhile (p := fun c => !Uri.endsPath c)
          (l := rest.dropWhile (!Uri.endsAuthority ·))
        rw [hend, List.append_nil] at hsplit
        exact hsplit
      refine ⟨⟨by simpa using hscheme, hauthority, ?_, ?_, ?_, hquery, hfragment⟩, ?_⟩
      · exact fun c hc => by simpa using List.mem_takeWhile_imp hc
      · rw [hpath]
        rcases Uri.dropWhile_stops Uri.endsAuthority rest with hnil | ⟨c, tail, hcons, hc⟩
        · exact .inl hnil
        · rw [hcons] at hend ⊢
          -- a query or a fragment would be left over
          unfold Uri.endsAuthority at hc
          simp only [Bool.or_eq_true, beq_iff_eq] at hc
          rcases hc with (rfl | rfl) | rfl
          · exact .inr ⟨tail, rfl⟩
          · exact absurd hend (by simp [Uri.endsPath])
          · exact absurd hend (by simp [Uri.endsPath])
      · exact fun c hc => by simpa using List.mem_takeWhile_imp hc
      · unfold ParsedUri.text
        simp only [hpath, List.takeWhile_append_dropWhile]
        exact hraw

/-- A member that passes is a text of its parts, and secure. -/
theorem requireAbsoluteUri_eq_ok {field raw : Str} {policy : UriPolicy} {p : ParsedUri} :
    requireAbsoluteUri field raw policy = .ok p ↔
      parseAbsoluteUri raw = some p ∧ (p.hasQuery = true → policy.allowQuery = true) ∧
        (p.hasFragment = true → policy.allowFragment = true) ∧ isSecure p = true := by
  unfold requireAbsoluteUri
  by_cases hempty : raw = []
  · have hnone : parseAbsoluteUri ([] : Str) = none := by decide
    simp [hempty, hnone]
  · rw [if_neg hempty]
    cases hparse : parseAbsoluteUri raw with
    | none => simp
    | some parsed =>
        simp only [Option.some.injEq]
        constructor
        · intro h
          split_ifs at h with hquery hfragment hsecure
          cases h
          simp only [Bool.and_eq_true, Bool.not_eq_true', not_and,
            Bool.not_eq_false] at hquery hfragment
          exact ⟨rfl, hquery, hfragment, hsecure⟩
        · rintro ⟨rfl, hquery, hfragment, hsecure⟩
          have hno : ¬((parsed.hasQuery && !policy.allowQuery) = true) := by
            simpa using hquery
          have hno' : ¬((parsed.hasFragment && !policy.allowFragment) = true) := by
            simpa using hfragment
          rw [if_neg hno, if_neg hno', if_pos hsecure]

end Axiam.Mcp
