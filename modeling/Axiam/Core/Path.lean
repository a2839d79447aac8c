import Axiam.Core.Uri

/-!
# The segments of a path

RFC 3986 on the path of a URI: its segments, the removal of `.` and `..`, and what a
percent-encoded segment stands for.
-/

namespace Axiam

/-- A text that a path cannot have as a segment: it is taken for where the path stands, or for what
it stands in. -/
def isDots (s : Str) : Bool := s == str "." || s == str ".."

/-- What `urlEncode` writes a byte as. -/
def encodeByte (c : UInt8) : Str :=
  let digit (d : UInt8) : UInt8 := if d < 10 then 48 + d else 55 + d
  if Uri.isUnreserved c then [c] else [37, digit (c / 16), digit (c % 16)]

theorem urlEncode_eq (s : Str) : urlEncode s = s.flatMap encodeByte := by
  refine congrArg (fun f => s.flatMap f) (funext fun c => ?_)
  simp only [encodeByte, Uri.isUnreserved, Uri.isAlpha, Uri.isDigit]
  exact if_congr (by grind) rfl rfl

namespace Uri

/-- `remove_dot_segments`, on the segments of an absolute path; `kept` is the output so far, its
last segment first. -/
def removeDots : List Str → List Str → List Str
  | kept, [] => kept.reverse
  | kept, [s] =>
      if s = str "." then ([] :: kept).reverse
      else if s = str ".." then ([] :: kept.tail).reverse
      else (s :: kept).reverse
  | kept, s :: rest =>
      if s = str "." then removeDots kept rest
      else if s = str ".." then removeDots kept.tail rest
      else removeDots (s :: kept) rest

def hexValue (c : UInt8) : UInt8 := if c ≤ 57 then c - 48 else if c ≤ 70 then c - 55 else c - 87

/-- The octets a percent-encoded text stands for. -/
def percentDecode : Str → Str
  | [] => []
  | 37 :: a :: b :: rest =>
      if isHexDig a && isHexDig b then (hexValue a * 16 + hexValue b) :: percentDecode rest
      else 37 :: percentDecode (a :: b :: rest)
  | c :: rest => c :: percentDecode rest

attribute [local simp] removeDots percentDecode

/-- The segments of the absolute path a request target begins with. -/
def segments (target : Str) : Option (List Str) :=
  match target.takeWhile (!endsPath ·) with
  | 47 :: rest => some ((removeDots [] (fields 47 rest)).map percentDecode)
  | _ => none

example : segments (str "/a/b/../c/.") = some [str "a", str "c", []] := by decide
example : segments (str "/a/%2e%2E/b?c=/..") = some [str "a", str "..", str "b"] := by decide

/-! ## Dot segments -/

/-- Nothing is removed where there is nothing to remove. -/
theorem removeDots_of_plain {segs : List Str} (h : ∀ s ∈ segs, isDots s = false)
    (kept : List Str) : removeDots kept segs = kept.reverse ++ segs := by
  induction segs generalizing kept with
  | nil => rw [removeDots, List.append_nil]
  | cons s rest ih =>
      rw [List.forall_mem_cons] at h
      have hs := h.1
      unfold isDots at hs
      rw [Bool.or_eq_false_iff, beq_eq_false_iff_ne, beq_eq_false_iff_ne] at hs
      cases rest with
      | nil => rw [removeDots, if_neg hs.1, if_neg hs.2, List.reverse_cons]
      | cons t rest =>
          rw [removeDots, if_neg hs.1, if_neg hs.2, ih h.2, List.reverse_cons, List.append_assoc]
          · rfl
          · exact fun h => nomatch h

/-- What is left was there before and is no dot segment, or is empty. -/
theorem mem_removeDots {segs kept : List Str} {s : Str} (h : s ∈ removeDots kept segs) :
    s ∈ kept ∨ s = [] ∨ (s ∈ segs ∧ isDots s = false) := by
  have hplain : ∀ t : Str, t ≠ str "." → t ≠ str ".." → isDots t = false := by
    intro t hdot hdots
    unfold isDots
    rw [beq_eq_false_iff_ne.mpr hdot, beq_eq_false_iff_ne.mpr hdots]
    rfl
  fun_induction removeDots kept segs with
  | case1 kept => exact .inl (List.mem_reverse.mp h)
  | case2 kept =>
      rcases List.mem_cons.mp (List.mem_reverse.mp h) with rfl | h
      · exact .inr (.inl rfl)
      · exact .inl h
  | case3 kept hdot =>
      rcases List.mem_cons.mp (List.mem_reverse.mp h) with rfl | h
      · exact .inr (.inl rfl)
      · exact .inl (List.mem_of_mem_tail h)
  | case4 kept t hdot hdots =>
      rcases List.mem_cons.mp (List.mem_reverse.mp h) with rfl | h
      · exact .inr (.inr ⟨List.mem_singleton_self _, hplain _ hdot hdots⟩)
      · exact .inl h
  | case5 kept rest hne ih =>
      rcases ih h with h | h | h
      · exact .inl h
      · exact .inr (.inl h)
      · exact .inr (.inr ⟨List.mem_cons_of_mem _ h.1, h.2⟩)
  | case6 kept rest hne hdot ih =>
      rcases ih h with h | h | h
      · exact .inl (List.mem_of_mem_tail h)
      · exact .inr (.inl h)
      · exact .inr (.inr ⟨List.mem_cons_of_mem _ h.1, h.2⟩)
  | case7 kept t rest hne hdot hdots ih =>
      rcases ih h with h | h | h
      · rcases List.mem_cons.mp h with rfl | h
        · exact .inr (.inr ⟨List.mem_cons_self, hplain _ hdot hdots⟩)
        · exact .inl h
      · exact .inr (.inl h)
      · exact .inr (.inr ⟨List.mem_cons_of_mem _ h.1, h.2⟩)

/-! ## Percent-encoding -/

/-- The two digits of a byte read as the byte. -/
theorem encoded_digits (c : UInt8) :
    let digit (d : UInt8) : UInt8 := if d < 10 then 48 + d else 55 + d
    isHexDig (digit (c / 16)) = true ∧ isHexDig (digit (c % 16)) = true ∧
      hexValue (digit (c / 16)) * 16 + hexValue (digit (c % 16)) = c := by
  revert c
  apply forall_byte
  decide +kernel

theorem percentDecode_cons {c : UInt8} (h : c ≠ 37) (s : Str) :
    percentDecode (c :: s) = c :: percentDecode s := by
  rw [percentDecode]
  intro a b rest heq
  exact absurd heq h

theorem percentDecode_encodeByte (c : UInt8) (s : Str) :
    percentDecode (encodeByte c ++ s) = c :: percentDecode s := by
  unfold encodeByte
  by_cases hc : isUnreserved c = true
  · have hne : c ≠ 37 := by
      rintro rfl
      exact absurd hc (by decide)
    simp only [if_pos hc]
    exact percentDecode_cons hne s
  · obtain ⟨hhigh, hlow, hvalue⟩ := encoded_digits c
    simp only [if_neg hc, List.cons_append, List.nil_append]
    rw [percentDecode, hhigh, hlow, hvalue]
    rfl

theorem percentDecode_urlEncode (s : Str) : percentDecode (urlEncode s) = s := by
  rw [urlEncode_eq]
  induction s with
  | nil => rfl
  | cons c s ih => rw [List.flatMap_cons, percentDecode_encodeByte, ih]

/-- A text of unreserved characters stands for itself. -/
theorem percentDecode_of_unreserved {s : Str} (h : s.all isUnreserved = true) :
    percentDecode s = s := by
  induction s with
  | nil => rfl
  | cons c s ih =>
      rw [List.all_cons, Bool.and_eq_true] at h
      have hne : c ≠ 37 := by
        rintro rfl
        exact absurd h.1 (by decide)
      rw [percentDecode_cons hne, ih h.2]

theorem isUnreserved_of_isHexDig {c : UInt8} (h : isHexDig c = true) : isUnreserved c = true := by
  simp only [isHexDig, isUnreserved, isAlpha, isDigit] at *
  grind

/-- What an encoded text is written with. -/
theorem mem_urlEncode {c : UInt8} {s : Str} (h : c ∈ urlEncode s) :
    isUnreserved c = true ∨ c = 37 := by
  rw [urlEncode_eq] at h
  obtain ⟨d, -, hc⟩ := List.mem_flatMap.mp h
  unfold encodeByte at hc
  by_cases hd : isUnreserved d = true
  · simp only [if_pos hd] at hc
    rw [List.mem_singleton.mp hc]
    exact .inl hd
  · obtain ⟨hhigh, hlow, -⟩ := encoded_digits d
    simp only [if_neg hd, List.mem_cons, List.not_mem_nil, or_false] at hc
    rcases hc with rfl | rfl | rfl
    · exact .inr rfl
    · exact .inl (isUnreserved_of_isHexDig hhigh)
    · exact .inl (isUnreserved_of_isHexDig hlow)

/-- A dot segment is what it is encoded as, and nothing else is encoded as one. -/
theorem isDots_urlEncode (s : Str) : isDots (urlEncode s) = isDots s := by
  have hback : ∀ d : Str, percentDecode d = d → urlEncode d = d → (urlEncode s = d ↔ s = d) := by
    intro d hdecode hencode
    constructor
    · intro h
      rw [← percentDecode_urlEncode s, h, hdecode]
    · rintro rfl
      exact hencode
  have hone := hback (str ".") (by decide) (by decide)
  have htwo := hback (str "..") (by decide) (by decide)
  unfold isDots
  rw [Bool.eq_iff_iff, Bool.or_eq_true, Bool.or_eq_true, beq_iff_eq, beq_iff_eq, beq_iff_eq,
    beq_iff_eq, hone, htwo]

end Uri

end Axiam
