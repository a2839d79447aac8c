import Axiam.Core.Str
import Mathlib.Data.List.TakeWhile

/-!
# The generic URI syntax

RFC 3986: how a URI with an authority divides into scheme, authority, path, query and fragment, and
the authority into userinfo, host and port, with the characters each of them may hold.
-/

namespace Axiam

/-- What stands before and after the last `sep`. -/
def cutLast (sep : UInt8) : Str → Option (Str × Str)
  | [] => none
  | c :: rest =>
      match cutLast sep rest with
      | some (a, b) => some (c :: a, b)
      | none => if c = sep then some ([], rest) else none

attribute [local simp] cut cutAt cutLast

theorem cut_eq_none {sep : UInt8} {s : Str} : cut sep s = none ↔ sep ∉ s := by
  induction s with
  | nil => simp
  | cons c rest ih =>
      by_cases hc : c = sep
      · simp [hc]
      · simp [hc, ih, Ne.symm hc]

theorem cut_append {sep : UInt8} {a : Str} (b : Str) (h : sep ∉ a) :
    cut sep (a ++ sep :: b) = some (a, b) := by
  induction a with
  | nil => simp
  | cons c a ih =>
      rw [List.mem_cons, not_or] at h
      simp [ih h.2, Ne.symm h.1]

theorem cutAt_eq_some {pattern s a b : Str} (h : cutAt pattern s = some (a, b)) :
    s = a ++ (pattern ++ b) := by
  induction s generalizing a with
  | nil =>
      unfold cutAt at h
      split at h
      · next hpattern =>
          cases h
          rw [hpattern]
          rfl
      · cases h
  | cons c rest ih =>
      unfold cutAt at h
      split at h
      · next hprefix =>
          cases h
          obtain ⟨tail, htail⟩ := List.isPrefixOf_iff_prefix.mp hprefix
          rw [← htail, List.drop_left]
          rfl
      · obtain ⟨⟨a', b'⟩, hrest, heq⟩ := Option.map_eq_some_iff.mp h
        cases heq
        rw [ih hrest]
        rfl

theorem cutAt_skip {c : UInt8} {p x : Str} (h : c ∉ x) (s : Str) :
    cutAt (c :: p) (x ++ s) = (cutAt (c :: p) s).map fun parts => (x ++ parts.1, parts.2) := by
  induction x with
  | nil => simp
  | cons d x ih =>
      rw [List.mem_cons, not_or] at h
      have hprefix : (c :: p).isPrefixOf (d :: (x ++ s)) = false := by
        simp [List.isPrefixOf, h.1]
      rw [List.cons_append, cutAt, hprefix, ih h.2, Option.map_map]
      rfl

theorem cutAt_self {c : UInt8} (p s : Str) : cutAt (c :: p) (c :: p ++ s) = some ([], s) := by
  have hprefix : (c :: p).isPrefixOf (c :: (p ++ s)) = true := by simp
  rw [List.cons_append, cutAt, if_pos hprefix]
  simp

theorem cutLast_eq_none {sep : UInt8} {s : Str} : cutLast sep s = none ↔ sep ∉ s := by
  induction s with
  | nil => simp
  | cons c rest ih =>
      cases hr : cutLast sep rest with
      | some parts =>
          have hmem : sep ∈ rest := by
            by_contra hnot
            rw [ih.mpr hnot] at hr
            exact nomatch hr
          simp [hr, hmem]
      | none =>
          have hnot : sep ∉ rest := ih.mp hr
          by_cases hc : c = sep
          · simp [hr, hc]
          · simp [hr, hc, hnot, Ne.symm hc]

theorem cutLast_append {sep : UInt8} (a : Str) {b : Str} (h : sep ∉ b) :
    cutLast sep (a ++ sep :: b) = some (a, b) := by
  induction a with
  | nil => simp [cutLast_eq_none.mpr h]
  | cons c a ih => simp [ih]

/-- The two halves, with `sep` between them, are the string, and the second has no `sep`. -/
theorem cutLast_eq_some {sep : UInt8} {s a b : Str} (h : cutLast sep s = some (a, b)) :
    s = a ++ sep :: b ∧ sep ∉ b := by
  induction s generalizing a with
  | nil => exact nomatch h
  | cons c rest ih =>
      simp only [cutLast] at h
      cases hr : cutLast sep rest with
      | some parts =>
          rw [hr] at h
          cases h
          obtain ⟨heq, hnot⟩ := ih hr
          exact ⟨by rw [heq, List.cons_append], hnot⟩
      | none =>
          rw [hr] at h
          by_cases hc : c = sep
          · simp only [if_pos hc] at h
            cases h
            exact ⟨by rw [hc, List.nil_append], cutLast_eq_none.mp hr⟩
          · simp only [if_neg hc] at h
            exact nomatch h

/-- What stands behind the last `sep`: the whole string when it has none. -/
def afterLast (sep : UInt8) (s : Str) : Str :=
  match cutLast sep s with
  | some (_, b) => b
  | none => s

theorem afterLast_of_notMem {sep : UInt8} {s : Str} (h : sep ∉ s) : afterLast sep s = s := by
  rw [afterLast, cutLast_eq_none.mpr h]

theorem notMem_afterLast (sep : UInt8) (s : Str) : sep ∉ afterLast sep s := by
  unfold afterLast
  cases h : cutLast sep s with
  | some parts => exact (cutLast_eq_some h).2
  | none => exact cutLast_eq_none.mp h

theorem afterLast_suffix (sep : UInt8) (s : Str) : afterLast sep s <:+ s := by
  unfold afterLast
  cases h : cutLast sep s with
  | some parts => exact ⟨parts.1 ++ [sep], by rw [(cutLast_eq_some h).1, List.append_assoc]; rfl⟩
  | none => exact List.suffix_refl s

/-- A text without `sep` stays behind what is cut off in front of it. -/
theorem afterLast_append {sep : UInt8} (a : Str) {b : Str} (h : sep ∉ b) :
    afterLast sep (a ++ b) = afterLast sep a ++ b := by
  by_cases ha : sep ∈ a
  · obtain ⟨parts, hparts⟩ := Option.ne_none_iff_exists'.mp fun hn => cutLast_eq_none.mp hn ha
    obtain ⟨heq, hnot⟩ := cutLast_eq_some hparts
    have hboth : sep ∉ parts.2 ++ b := by
      rw [List.mem_append, not_or]
      exact ⟨hnot, h⟩
    rw [afterLast, afterLast, hparts, heq, List.append_assoc, List.cons_append,
      cutLast_append parts.1 hboth]
  · have hab : sep ∉ a ++ b := by
      rw [List.mem_append, not_or]
      exact ⟨ha, h⟩
    rw [afterLast_of_notMem hab, afterLast_of_notMem ha]

namespace Uri

/-! ## Characters -/

def isAlpha (c : UInt8) : Bool := (65 ≤ c && c ≤ 90) || (97 ≤ c && c ≤ 122)

def isDigit (c : UInt8) : Bool := 48 ≤ c && c ≤ 57

def isHexDig (c : UInt8) : Bool := isDigit c || (65 ≤ c && c ≤ 70) || (97 ≤ c && c ≤ 102)

/-- Letters, digits and `- . _ ~`. -/
def isUnreserved (c : UInt8) : Bool :=
  isAlpha c || isDigit c || c == 45 || c == 46 || c == 95 || c == 126

/-- `! $ & ' ( ) * + , ; =`. -/
def isSubDelim (c : UInt8) : Bool :=
  c == 33 || c == 36 || (38 ≤ c && c ≤ 44) || c == 59 || c == 61

/-- A text of percent-encoded octets, unreserved characters, `sub-delims` and whatever `extra`
admits. -/
def encoded (extra : UInt8 → Bool) : Str → Bool
  | [] => true
  | 37 :: a :: b :: rest => isHexDig a && isHexDig b && encoded extra rest
  | c :: rest => (isUnreserved c || isSubDelim c || extra c) && encoded extra rest

/-- The number a text of digits writes. -/
def number (s : Str) : Nat := s.foldl (fun n c => n * 10 + (c - 48).toNat) 0

/-! ## Bracketed hosts -/

/-- The texts between the `sep`s. -/
def fields (sep : UInt8) : Str → List Str
  | [] => [[]]
  | c :: rest =>
      if c = sep then [] :: fields sep rest
      else match fields sep rest with
        | [] => [[c]]
        | f :: fs => (c :: f) :: fs

theorem fields_append_sep (sep : UInt8) (a b : Str) :
    fields sep (a ++ sep :: b) = fields sep a ++ fields sep b := by
  induction a with
  | nil => simp [fields]
  | cons c a ih =>
      by_cases hc : c = sep
      · simp [fields, hc, ih]
      · -- the first text goes on, and there is one
        rcases hfields : fields sep a with _ | ⟨f, fs⟩
        · cases a with
          | nil => cases hfields
          | cons d a =>
              rw [fields] at hfields
              split at hfields
              · cases hfields
              · split at hfields <;> cases hfields
        · simp [fields, hc, ih, hfields]

theorem fields_of_notMem {sep : UInt8} {s : Str} (h : sep ∉ s) : fields sep s = [s] := by
  induction s with
  | nil => rfl
  | cons c s ih =>
      rw [List.mem_cons, not_or] at h
      simp [fields, ih h.2, Ne.symm h.1]

theorem fields_append {sep : UInt8} {a : Str} (b : Str) (h : sep ∉ a) :
    fields sep (a ++ sep :: b) = a :: fields sep b := by
  rw [fields_append_sep, fields_of_notMem h, List.singleton_append]

theorem notMem_of_mem_fields {sep : UInt8} {s f : Str} (h : f ∈ fields sep s) : sep ∉ f := by
  induction s generalizing f with
  | nil => simp_all [fields]
  | cons c s ih =>
      unfold fields at h
      by_cases hc : c = sep
      · rw [if_pos hc, List.mem_cons] at h
        rcases h with rfl | h
        · exact List.not_mem_nil
        · exact ih h
      · rw [if_neg hc] at h
        cases hfields : fields sep s with
        | nil =>
            rw [hfields] at h
            obtain rfl := List.mem_singleton.mp h
            simp [Ne.symm hc]
        | cons g gs =>
            rw [hfields] at h ih
            rcases List.mem_cons.mp h with rfl | h
            · rw [List.mem_cons, not_or]
              exact ⟨Ne.symm hc, ih List.mem_cons_self⟩
            · exact ih (List.mem_cons_of_mem g h)

/-- `h16`: one to four hexadecimal digits. -/
def isH16 (s : Str) : Bool := 1 ≤ s.length && s.length ≤ 4 && s.all isHexDig

/-- `dec-octet`: `0` to `255`, with no zero in front. -/
def isDecOctet (s : Str) : Bool :=
  1 ≤ s.length && s.length ≤ 3 && s.all isDigit && number s ≤ 255 &&
    (s.length == 1 || s.head? != some 48)

def isIpv4 (s : Str) : Bool := (fields 46 s).length == 4 && (fields 46 s).all isDecOctet

/-- The 16-bit units a list of groups stands for; the last of them may be an IPv4 address. -/
def units : List Str → Option Nat
  | [] => some 0
  | [g] => if isH16 g then some 1 else if isIpv4 g then some 2 else none
  | g :: gs => if isH16 g then (units gs).map (· + 1) else none

/-- `IPv6address`: eight units, or fewer with one `::` for those left out. -/
def isIpv6 (s : Str) : Bool :=
  match cutAt "::" s with
  | none => units (fields 58 s) == some 8
  | some (left, right) =>
      let before := if left = [] then [] else fields 58 left
      let after := if right = [] then [] else fields 58 right
      before.all isH16 && match units after with
        | some n => before.length + n ≤ 7
        | none => false

/-- `IPvFuture`. -/
def isIpFuture (s : Str) : Bool :=
  match s with
  | [] => false
  | v :: rest =>
      (v == 118 || v == 86) && match cut 46 rest with
        | none => false
        | some (version, address) =>
            version != [] && version.all isHexDig && address != [] &&
              address.all fun c => isUnreserved c || isSubDelim c || c == 58

example : isIpv6 (str "::1") = true := by decide
example : isIpv6 (str "2001:db8::ffff:192.0.2.1") = true := by decide
example : isIpv6 (str "1:2:3:4:5:6:7::8") = false := by decide

/-! ## Authorities -/

/-- An authority in its parts. -/
structure Authority where
  userinfo : Option Str
  /-- The host stood between brackets: it is an address, and its colons are its own. -/
  bracketed : Bool
  host : Str
  port : Option Str
  deriving DecidableEq

/-- The host and port of what follows the userinfo. -/
def hostPort (s : Str) : Option (Bool × Str × Option Str) :=
  match s with
  | 91 :: rest => do
      let (host, after) ← cut 93 rest
      match after with
      | [] => some (true, host, none)
      | 58 :: port => some (true, host, some port)
      | _ => none
  | _ =>
      match cut 58 s with
      | none => some (false, s, none)
      | some (host, port) => some (false, host, some port)

/-- The userinfo ends at the last `@` of the authority. -/
def Authority.ofText (s : Str) : Option Authority := do
  let (bracketed, host, port) ← hostPort (afterLast 64 s)
  some ⟨(cutLast 64 s).map Prod.fst, bracketed, host, port⟩

def Authority.wellFormed (a : Authority) : Bool :=
  a.userinfo.all (encoded fun c => c == 58 || c == 64) &&
    (if a.bracketed then isIpv6 a.host || isIpFuture a.host else encoded (fun _ => false) a.host) &&
    a.port.all (·.all isDigit)

theorem Authority.ofText_eq_some {s : Str} {a : Authority} (h : Authority.ofText s = some a) :
    hostPort (afterLast 64 s) = some (a.bracketed, a.host, a.port) := by
  simp only [Authority.ofText, Option.bind_eq_bind, Option.bind_eq_some_iff] at h
  obtain ⟨⟨bracketed, host, port⟩, hparts, heq⟩ := h
  cases heq
  exact hparts

end Uri

/-! ## URIs -/

/-- A URI with an authority, in its parts. -/
structure Uri where
  scheme : Str
  authority : Uri.Authority
  path : Str
  query : Option Str
  fragment : Option Str
  deriving DecidableEq

namespace Uri

/-- `gen-delims` that end an authority, and those that end a path. -/
def endsAuthority (c : UInt8) : Bool := c == 47 || c == 63 || c == 35

def endsPath (c : UInt8) : Bool := c == 63 || c == 35

def markedQuery : Str → Option Str
  | 63 :: query => some query
  | _ => none

/-- The query and the fragment of what follows the path. -/
def queryFragment (s : Str) : Option Str × Option Str :=
  match cut 35 s with
  | none => (markedQuery s, none)
  | some (query, fragment) => (markedQuery query, some fragment)

/-- RFC 3986's division of a URI that has an authority. -/
def split (url : Str) : Option Uri := do
  let (scheme, hier) ← cut 58 url
  match hier with
  | 47 :: 47 :: rest =>
      let authority ← Authority.ofText (rest.takeWhile (!endsAuthority ·))
      let rest := rest.dropWhile (!endsAuthority ·)
      let (query, fragment) := queryFragment (rest.dropWhile (!endsPath ·))
      some ⟨scheme, authority, rest.takeWhile (!endsPath ·), query, fragment⟩
  | _ => none

/-- The query and the fragment as they stand in the text, with their marks. -/
def suffix (u : Uri) : Str :=
  (match u.query with | some query => 63 :: query | none => []) ++
    (match u.fragment with | some fragment => 35 :: fragment | none => [])

def wellFormed (u : Uri) : Bool :=
  (match u.scheme with
    | [] => false
    | c :: rest =>
        isAlpha c && rest.all fun c => isAlpha c || isDigit c || c == 43 || c == 45 || c == 46) &&
    u.authority.wellFormed &&
    encoded (fun c => c == 58 || c == 64 || c == 47) u.path &&
    u.query.all (encoded fun c => c == 58 || c == 64 || c == 47 || c == 63) &&
    u.fragment.all (encoded fun c => c == 58 || c == 64 || c == 47 || c == 63)

/-- `a` is the authority's text in `url`, and the parts of `u` are the others. -/
structure Divides (url : Str) (u : Uri) (a : Str) : Prop where
  text : url = u.scheme ++ 58 :: 47 :: 47 :: (a ++ (u.path ++ u.suffix))
  scheme : 58 ∉ u.scheme
  authority : Authority.ofText a = some u.authority
  plain : ∀ c ∈ a, endsAuthority c = false
  path : u.path = [] ∨ ∃ rest, u.path = 47 :: rest
  path_plain : ∀ c ∈ u.path, endsPath c = false
  suffix : u.suffix = [] ∨ ∃ c rest, u.suffix = c :: rest ∧ endsPath c = true

/-- A scan ends with the text or in front of what stops it. -/
theorem dropWhile_stops (p : UInt8 → Bool) (s : Str) :
    s.dropWhile (!p ·) = [] ∨ ∃ c rest, s.dropWhile (!p ·) = c :: rest ∧ p c = true := by
  induction s with
  | nil => exact .inl rfl
  | cons c s ih =>
      cases hc : p c with
      | true => exact .inr ⟨c, s, by simp [hc], hc⟩
      | false => simpa [hc] using ih

/-- What follows the path, put together again from its query and its fragment. -/
theorem suffix_queryFragment {s : Str} (hs : s = [] ∨ ∃ c rest, s = c :: rest ∧ endsPath c = true)
    (scheme path : Str) (authority : Authority) :
    (⟨scheme, authority, path, (queryFragment s).1, (queryFragment s).2⟩ : Uri).suffix = s := by
  have hquery : ∀ q : Str, (q = [] ∨ ∃ rest, q = 63 :: rest) →
      (match markedQuery q with | some query => 63 :: query | none => []) = q := by
    intro q hq
    obtain rfl | ⟨rest, rfl⟩ := hq <;> rfl
  unfold suffix queryFragment
  cases h : cut 35 s with
  | none =>
      have hmark : s = [] ∨ ∃ rest, s = 63 :: rest := by
        obtain rfl | ⟨c, rest, rfl, hc⟩ := hs
        · exact .inl rfl
        · have hne : c ≠ 35 := by
            intro heq
            exact cut_eq_none.mp h (by simp [heq])
          refine .inr ⟨rest, ?_⟩
          simp only [endsPath, Bool.or_eq_true, beq_iff_eq] at hc
          rw [hc.resolve_right hne]
      simp only [hquery s hmark, List.append_nil]
  | some parts =>
      obtain ⟨hcut, hnot⟩ := cut_eq_some (a := parts.1) (b := parts.2) h
      have hmark : parts.1 = [] ∨ ∃ rest, parts.1 = 63 :: rest := by
        cases hp : parts.1 with
        | nil => exact .inl rfl
        | cons c rest =>
            rw [hp] at hcut hnot
            have hc : endsPath c = true := by
              obtain rfl | ⟨d, rest', rfl, hd⟩ := hs
              · exact nomatch hcut
              · injection hcut with hhead
                rw [← hhead]
                exact hd
            simp only [endsPath, Bool.or_eq_true, beq_iff_eq] at hc
            have hne : c ≠ 35 := by
              intro heq
              exact hnot (by simp [heq])
            exact .inr ⟨rest, by rw [hc.resolve_right hne]⟩
      simp only [hquery parts.1 hmark]
      exact hcut.symm

theorem split_divides {url : Str} {u : Uri} (h : split url = some u) :
    ∃ a, Divides url u a := by
  simp only [split, Option.bind_eq_bind, Option.bind_eq_some_iff] at h
  obtain ⟨⟨scheme, hier⟩, hcut, h⟩ := h
  obtain ⟨hurl, hscheme⟩ := cut_eq_some hcut
  split at h
  next hier' rest hhier =>
    obtain ⟨authority, hauthority, hu⟩ := Option.bind_eq_some_iff.mp h
    cases hu
    -- what stands behind the authority, and behind the path
    have htail : rest.dropWhile (!endsAuthority ·) = [] ∨
        ∃ c tail, rest.dropWhile (!endsAuthority ·) = c :: tail ∧ endsAuthority c = true :=
      dropWhile_stops endsAuthority rest
    have hsuffix := suffix_queryFragment
      (dropWhile_stops endsPath (rest.dropWhile (!endsAuthority ·))) scheme
      ((rest.dropWhile (!endsAuthority ·)).takeWhile (!endsPath ·)) authority
    refine ⟨rest.takeWhile (!endsAuthority ·), ?_, hscheme, hauthority, ?_, ?_, ?_, ?_⟩
    · rw [hsuffix, List.takeWhile_append_dropWhile, List.takeWhile_append_dropWhile]
      rw [← show hier = _ from hhier]
      exact hurl
    · intro c hc
      simpa using List.mem_takeWhile_imp hc
    · obtain hnil | ⟨c, tail, hcons, hc⟩ := htail
      · left
        show (rest.dropWhile (!endsAuthority ·)).takeWhile _ = []
        rw [hnil, List.takeWhile_nil]
      · show (rest.dropWhile (!endsAuthority ·)).takeWhile _ = [] ∨
          ∃ p, (rest.dropWhile (!endsAuthority ·)).takeWhile _ = 47 :: p
        rw [hcons, List.takeWhile_cons]
        by_cases hslash : c = 47
        · right
          subst hslash
          exact ⟨_, if_pos rfl⟩
        · left
          simp only [endsAuthority, Bool.or_eq_true, beq_iff_eq, hslash, false_or] at hc
          obtain rfl | rfl := hc <;> rfl
    · intro c hc
      simpa using List.mem_takeWhile_imp hc
    · rw [hsuffix]
      exact dropWhile_stops endsPath _
  next => exact nomatch h

end Uri

end Axiam
