import Axiam.Core.Origin
import Axiam.Core.Query

/-!
# What an origin should be

RFC 3986's reading of the scheme, the host and the port of a text, beside the one of `origin_of`
(`src/url_origin.hpp`), which takes whatever stands before the first `://` for a scheme and which
forgets whether a host stood in brackets.
-/

namespace Axiam

open Uri

/-- The scheme and the authority of a text, by the division of appendix B. -/
def reading (url : Str) : Option (Str × Authority) := do
  let scheme ← (reference url).scheme
  let text ← (reference url).authority
  let authority ← Authority.ofText text
  some (scheme, authority)

/-- The port of an authority: its own, or the one its scheme has. -/
def assignedPort (scheme : Str) (a : Authority) : Nat :=
  match a.port with
  | none | some [] =>
      if lower scheme = str "https" then 443 else if lower scheme = str "http" then 80 else 0
  | some port => number port

/-- `o` is what a text reads as. -/
structure Assigns (url : Str) (o : Origin) (s : Str) (a : Authority) : Prop where
  reads : reading url = some (s, a)
  scheme : lower s = o.scheme
  host : lower a.host = o.host
  port : assignedPort s a = o.port
  noUserinfo : a.userinfo = none

/-- The two texts read as one scheme, host and port, the second without userinfo. -/
def SameOrigin (base uri : Str) : Prop :=
  ∃ s a t b, reading base = some (s, a) ∧ reading uri = some (t, b) ∧ lower t = lower s ∧
    b.bracketed = a.bracketed ∧ lower b.host = lower a.host ∧
      assignedPort t b = assignedPort s a ∧ b.userinfo = none

/-- What stands before the first `://` could be a scheme. -/
def PlainScheme (url : Str) : Prop :=
  ∀ parts, cutAt (str "://") url = some parts →
    58 ∉ parts.1 ∧ ∀ c ∈ parts.1, endsAuthority c = false

/-- The host stands in brackets. -/
def isBracketed (url : Str) : Bool :=
  (cutAt (str "://") url).any fun parts => parts.2.head? = some 91

/-- A byte that is no letter is where it was. -/
theorem mem_lower {c : UInt8} (hupper : (65 ≤ c && c ≤ 90) = false)
    (hlower : (97 ≤ c && c ≤ 122) = false) (s : Str) : c ∈ lower s ↔ c ∈ s := by
  unfold lower
  rw [List.mem_map]
  constructor
  · rintro ⟨d, hd, heq⟩
    by_cases hletter : (65 ≤ d && d ≤ 90) = true
    · rw [if_pos hletter] at heq
      subst heq
      simp only [Bool.and_eq_true, decide_eq_true_eq, Bool.and_eq_false_iff, decide_eq_false_iff_not,
        UInt8.le_iff_toNat_le] at hletter hlower
      have hvalue : (d - 65 + 97).toNat = d.toNat + 32 := by
        rw [UInt8.toNat_add, UInt8.toNat_sub_of_le _ _ (UInt8.le_iff_toNat_le.mpr hletter.1)]
        have h65 : (65 : UInt8).toNat = 65 := rfl
        have h97 : (97 : UInt8).toNat = 97 := rfl
        have h90 : (90 : UInt8).toNat = 90 := rfl
        omega
      have h65 : (65 : UInt8).toNat = 65 := rfl
      have h97 : (97 : UInt8).toNat = 97 := rfl
      have h90 : (90 : UInt8).toNat = 90 := rfl
      have h122 : (122 : UInt8).toNat = 122 := rfl
      omega
    · rw [if_neg hletter] at heq
      rwa [← heq]
  · intro hc
    refine ⟨c, hc, ?_⟩
    rw [hupper]
    rfl

/-! ## What `origin_of` accepted -/

/-- The parts that `origin_of` read. -/
structure Splits (url : Str) (o : Origin) (scheme rest host port : Str) : Prop where
  cut : cutAt (str "://") url = some (scheme, rest)
  scheme_ne : scheme ≠ []
  noUserinfo : 64 ∉ rest.takeWhile (fun c => c != 47 && c != 63 && c != 35)
  authority : splitAuthority (rest.takeWhile fun c => c != 47 && c != 63 && c != 35) =
    some (host, port)
  scheme_eq : o.scheme = lower scheme
  host_eq : o.host = lower host
  port_eq : portOf (lower scheme) port = some o.port

theorem originOf_eq_some {url : Str} {o : Origin} (h : originOf url = some o) :
    ∃ scheme rest host port, Splits url o scheme rest host port := by
  unfold originOf at h
  obtain ⟨⟨scheme, rest⟩, hcut, h⟩ := Option.bind_eq_some_iff.mp h
  by_cases hscheme : scheme = []
  · simp [hscheme] at h
  by_cases huser : 64 ∈ rest.takeWhile fun c => c != 47 && c != 63 && c != 35
  · simp [hscheme, huser] at h
  simp only [if_neg hscheme, if_neg huser] at h
  obtain ⟨⟨host, port⟩, hauthority, h⟩ := Option.bind_eq_some_iff.mp h
  by_cases hhost : host = []
  · simp [hhost] at h
  simp only [if_neg hhost] at h
  obtain ⟨value, hport, h⟩ := Option.bind_eq_some_iff.mp h
  cases h
  exact ⟨scheme, rest, host, port, hcut, hscheme, huser, hauthority, rfl, rfl, hport⟩

/-- The two readings of an authority without userinfo differ in the brackets only. -/
theorem hostPort_of_splitAuthority {text host port : Str}
    (h : splitAuthority text = some (host, port)) :
    ∃ given, hostPort text = some (decide (text.head? = some 91), host, given) ∧
      given.getD [] = port := by
  unfold splitAuthority at h
  by_cases hbracket : text.head? = some 91
  · rw [if_pos hbracket] at h
    obtain ⟨c, inner, rfl⟩ : ∃ c inner, text = c :: inner := by
      cases text with
      | nil => cases hbracket
      | cons c inner => exact ⟨c, inner, rfl⟩
    obtain rfl : c = 91 := by simpa using hbracket
    obtain ⟨⟨literal, after⟩, hcut, h⟩ := Option.bind_eq_some_iff.mp h
    have hcut' : cut 93 inner = some (literal, after) := hcut
    cases after with
    | nil =>
        cases h
        exact ⟨none, by simp [hostPort, hcut'], rfl⟩
    | cons d rest =>
        by_cases hcolon : d = 58
        · simp only [hcolon, if_true] at h
          cases h
          exact ⟨some port, by simp [hostPort, hcut', hcolon], rfl⟩
        · simp [hcolon] at h
  · rw [if_neg hbracket] at h
    have hplain : hostPort text = (cut 58 text).elim (some (false, text, none)) fun parts =>
        some (false, parts.1, some parts.2) := by
      unfold hostPort
      split
      · exact absurd rfl hbracket
      · cases cut 58 text <;> rfl
    rw [hplain, decide_eq_false hbracket]
    cases hcut : cut 58 text with
    | none =>
        rw [hcut] at h
        cases h
        exact ⟨none, rfl, rfl⟩
    | some parts =>
        rw [hcut] at h
        cases h
        exact ⟨some parts.2, rfl, rfl⟩

section

variable {url : Str} {o : Origin} {scheme rest host port : Str}

/-- Where a scheme may stand, the two divisions are at the same places. -/
theorem Splits.reference (h : Splits url o scheme rest host port) (hcolon : 58 ∉ scheme)
    (hplain : ∀ c ∈ scheme, endsAuthority c = false) :
    (reference url).scheme = some scheme ∧ (reference url).authority =
      some (rest.takeWhile fun c => c != 47 && c != 63 && c != 35) := by
  have hends : ∀ c ∈ scheme ++ str "://", (!endsPath c) = true := by
    intro c hc
    rcases List.mem_append.mp hc with hc | hc
    · have hnot := hplain c hc
      simp only [endsAuthority, endsPath, Bool.or_eq_false_iff] at hnot ⊢
      simp [hnot]
    · exact forall_mem_of_all (by decide : (str "://").all (fun d => decide ((!endsPath d) = true))) c hc
  have hslash : 47 ∉ scheme := fun hc => absurd (hplain 47 hc) (by decide)
  have htake : url.takeWhile (!endsPath ·) =
      scheme ++ 58 :: 47 :: 47 :: rest.takeWhile (!endsPath ·) := by
    rw [cutAt_eq_some h.cut, ← List.append_assoc, List.takeWhile_append_of_pos hends,
      List.append_assoc]
    rfl
  have hscheme : schemeRest (url.takeWhile (!endsPath ·)) =
      (some scheme, 47 :: 47 :: rest.takeWhile (!endsPath ·)) := by
    unfold schemeRest
    rw [htake, cut_append _ hcolon]
    simp [h.scheme_ne, hslash]
  have hauthority : (rest.takeWhile (!endsPath ·)).takeWhile (· != 47) =
      rest.takeWhile fun c => c != 47 && c != 63 && c != 35 := by
    rw [List.takeWhile_takeWhile]
    congr 1
    funext c
    cases h47 : c == 47 <;> cases h63 : c == 63 <;> cases h35 : c == 35 <;>
      simp [endsPath, bne, h47, h63, h35]
  unfold Uri.reference
  rw [hscheme]
  exact ⟨rfl, congrArg some hauthority⟩

theorem Splits.port_assigned (h : Splits url o scheme rest host port) {given : Option Str}
    (hgiven : given.getD [] = port) (user : Option Str) (bracketed : Bool) :
    assignedPort scheme ⟨user, bracketed, host, given⟩ = o.port := by
  have hport := h.port_eq
  unfold portOf at hport
  subst hgiven
  cases given with
  | none => exact Option.some.inj hport
  | some digits =>
      cases digits with
      | nil => exact Option.some.inj hport
      | cons c digits =>
          rw [Option.getD_some, if_neg (List.cons_ne_nil c digits)] at hport
          split at hport
          · cases hport
          · split at hport
            · exact Option.some.inj hport
            · cases hport

/-- What `origin_of` made of a text with a scheme is what the text reads as. -/
theorem Splits.assigns (h : Splits url o scheme rest host port) (hcolon : 58 ∉ scheme)
    (hplain : ∀ c ∈ scheme, endsAuthority c = false) :
    ∃ a, Assigns url o scheme a ∧ a.bracketed = isBracketed url := by
  obtain ⟨hscheme, hauthority⟩ := h.reference hcolon hplain
  obtain ⟨given, hhost, hgiven⟩ := hostPort_of_splitAuthority h.authority
  have huser : cutLast 64 (rest.takeWhile fun c => c != 47 && c != 63 && c != 35) = none :=
    cutLast_eq_none.mpr h.noUserinfo
  have hreads : reading url = some (scheme, ⟨none,
      decide ((rest.takeWhile fun c => c != 47 && c != 63 && c != 35).head? = some 91), host,
      given⟩) := by
    unfold reading Authority.ofText
    simp only [hscheme, hauthority, Option.bind_eq_bind, Option.bind_some,
      afterLast_of_notMem h.noUserinfo, huser, hhost, Option.map_none]
  refine ⟨_, ⟨hreads, h.scheme_eq.symm, h.host_eq.symm, h.port_assigned hgiven none _, rfl⟩, ?_⟩
  unfold isBracketed
  rw [h.cut]
  cases rest with
  | nil => rfl
  | cons c rest =>
      by_cases hc : c = 91
      · simp [hc]
      · by_cases hstop : (c != 47 && c != 63 && c != 35) = true <;> simp [hstop, hc]

/-- A scheme that is read has no colon in it and nothing that ends an authority. -/
theorem reading_scheme {s : Str} {a : Authority} (h : reading url = some (s, a)) :
    58 ∉ s ∧ ∀ c ∈ s, endsAuthority c = false := by
  obtain ⟨scheme', hscheme, h⟩ := Option.bind_eq_some_iff.mp h
  obtain ⟨text, -, h⟩ := Option.bind_eq_some_iff.mp h
  obtain ⟨a', -, h⟩ := Option.bind_eq_some_iff.mp h
  cases h
  have hread : (schemeRest (url.takeWhile (!endsPath ·))).1 = some s := hscheme
  unfold schemeRest at hread
  cases hcut : cut 58 (url.takeWhile (!endsPath ·)) with
  | none =>
      rw [hcut] at hread
      cases hread
  | some parts =>
      rw [hcut] at hread
      obtain ⟨heq, hcolon⟩ := cut_eq_some (a := parts.1) (b := parts.2) hcut
      by_cases hno : parts.1 = [] ∨ 47 ∈ parts.1
      · simp [hno] at hread
      · rw [not_or] at hno
        simp only [hno, or_self, if_false, Option.some.injEq] at hread
        subst hread
        refine ⟨hcolon, fun c hc => ?_⟩
        have hpath : endsPath c = false := by
          have hmem : c ∈ url.takeWhile (!endsPath ·) := by
            rw [heq]
            exact List.mem_append_left _ hc
          simpa using List.mem_takeWhile_imp hmem
        have hne : c ≠ 47 := by
          rintro rfl
          exact hno.2 hc
        simp only [endsPath, Bool.or_eq_false_iff] at hpath
        simp [endsAuthority, hpath, hne]

end

/-- `origin_of` reads a text it accepts as it should exactly when a scheme may stand where it
found one. -/
theorem originOf_assigns_iff {url : Str} {o : Origin} (h : originOf url = some o) :
    (∃ s a, Assigns url o s a) ↔ PlainScheme url := by
  obtain ⟨scheme, rest, host, port, hsplits⟩ := originOf_eq_some h
  constructor
  · rintro ⟨s, a, hassigns⟩ parts hparts
    rw [hsplits.cut] at hparts
    cases hparts
    obtain ⟨hcolon, hplain⟩ := reading_scheme hassigns.reads
    have hlower : lower s = lower scheme := hassigns.scheme.trans hsplits.scheme_eq
    have hback : ∀ c, (65 ≤ c && c ≤ 90) = false → (97 ≤ c && c ≤ 122) = false →
        c ∈ scheme → c ∈ s := fun c hupper hsmall hc => by
      rwa [← mem_lower hupper hsmall, hlower, mem_lower hupper hsmall]
    have hmark : ∀ c, endsAuthority c = true →
        (65 ≤ c && c ≤ 90) = false ∧ (97 ≤ c && c ≤ 122) = false := fun c hc => by
      simp only [endsAuthority, Bool.or_eq_true, beq_iff_eq] at hc
      rcases hc with (rfl | rfl) | rfl <;> decide
    refine ⟨fun hc => hcolon (hback 58 (by decide) (by decide) hc), fun c hc => ?_⟩
    cases hends : endsAuthority c with
    | false => rfl
    | true =>
        have hfree := hplain c (hback c (hmark c hends).1 (hmark c hends).2 hc)
        rw [hends] at hfree
        cases hfree
  · intro hplain
    obtain ⟨hcolon, hends⟩ := hplain _ hsplits.cut
    obtain ⟨a, hassigns, -⟩ := hsplits.assigns hcolon hends
    exact ⟨scheme, a, hassigns⟩

end Axiam
