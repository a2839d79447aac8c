import Axiam.Core.Str

/-!
# The extent of a JSON text

A JSON text closes every quote and every bracket it opens, and a comma in it stands between quotes
or inside brackets.  That much is enough to know where a text ends that a comma follows.
-/

namespace Axiam

/-- What may stand between quotes: a quote or a backslash only behind a backslash. -/
inductive Unquoted : Str → Prop
  | nil : Unquoted []
  | byte {c : UInt8} {rest : Str} : c ≠ 34 → c ≠ 92 → Unquoted rest → Unquoted (c :: rest)
  | escape (c : UInt8) {rest : Str} : Unquoted rest → Unquoted (92 :: c :: rest)

def isOpening (c : UInt8) : Bool := c == 91 || c == 123

def isClosing (c : UInt8) : Bool := c == 93 || c == 125

/-- A text whose quotes close and whose brackets match, with commas outside of the brackets only
where they are allowed. -/
inductive Enclosed : Bool → Str → Prop
  | nil {commas : Bool} : Enclosed commas []
  | byte {commas : Bool} {c : UInt8} {rest : Str} : c ≠ 34 → isOpening c = false →
      isClosing c = false → (c = 44 → commas = true) → Enclosed commas rest →
      Enclosed commas (c :: rest)
  | quotes {commas : Bool} {text rest : Str} : Unquoted text → Enclosed commas rest →
      Enclosed commas (34 :: (text ++ 34 :: rest))
  | brackets {commas : Bool} {o c : UInt8} {text rest : Str} : isOpening o = true →
      isClosing c = true → Enclosed true text → Enclosed commas rest →
      Enclosed commas (o :: (text ++ c :: rest))

/-- A JSON text: no comma outside of its brackets. -/
def JsonText (s : Str) : Prop := Enclosed false s

/-- What stands before the first comma outside of brackets and quotes; the text before it has
opened `depth` brackets, and a quote if `quoted`. -/
def beforeComma : Nat → Bool → Str → Str
  | _, _, [] => []
  | depth, true, 92 :: c :: rest => 92 :: c :: beforeComma depth true rest
  | depth, true, c :: rest => c :: beforeComma depth (c != 34) rest
  | depth, false, c :: rest =>
      if c = 44 ∧ depth = 0 then []
      else if c = 34 then c :: beforeComma depth true rest
      else if isOpening c then c :: beforeComma (depth + 1) false rest
      else if isClosing c then c :: beforeComma (depth - 1) false rest
      else c :: beforeComma depth false rest

theorem beforeComma_unquoted {text : Str} (h : Unquoted text) (depth : Nat) (r : Str) :
    beforeComma depth true (text ++ 34 :: r) = text ++ 34 :: beforeComma depth false r := by
  induction h with
  | nil => simp [beforeComma]
  | byte hquote hback _ ih =>
      rename_i c rest _
      rw [List.cons_append, beforeComma]
      · rw [bne_iff_ne.mpr hquote, ih]
        rfl
      · -- the byte is no backslash
        intro _ _ hc
        exact absurd hc hback
  | escape c _ ih =>
      simp only [List.cons_append]
      rw [beforeComma, ih]

/-- A text that is enclosed is passed over, and the reader is back where it was. -/
theorem beforeComma_enclosed {commas : Bool} {x : Str} (h : Enclosed commas x) (depth : Nat)
    (hdepth : commas = true → 0 < depth) (r : Str) :
    beforeComma depth false (x ++ r) = x ++ beforeComma depth false r := by
  induction h generalizing depth r with
  | nil => rfl
  | byte hquote hopen hclose hcomma _ ih =>
      rename_i c rest _
      have hnot : ¬(c = 44 ∧ depth = 0) := by
        rintro ⟨hc, hzero⟩
        have := hdepth (hcomma hc)
        omega
      rw [List.cons_append, beforeComma, if_neg hnot, if_neg hquote, hopen, hclose,
        if_neg Bool.false_ne_true, if_neg Bool.false_ne_true, ih depth hdepth]
      rfl
  | quotes htext _ ih =>
      rw [List.cons_append, beforeComma, if_neg (by simp), if_pos rfl, List.append_assoc,
        List.cons_append, beforeComma_unquoted htext, ih depth hdepth]
      simp
  | brackets hopen hclose _ _ ihtext ih =>
      rename_i o c text rest _ _
      have ho : o ≠ 44 ∧ o ≠ 34 := by
        constructor <;> rintro rfl <;> exact absurd hopen (by decide)
      have hc : c ≠ 44 ∧ c ≠ 34 ∧ isOpening c = false := by
        unfold isClosing at hclose
        rw [Bool.or_eq_true, beq_iff_eq, beq_iff_eq] at hclose
        rcases hclose with rfl | rfl <;> decide
      -- one bracket deeper through the text, and back at the closing one
      rw [List.cons_append, beforeComma, if_neg (fun h => ho.1 h.1), if_neg ho.2, if_pos hopen,
        List.append_assoc, ihtext (depth + 1) (fun _ => Nat.succ_pos depth), List.cons_append,
        beforeComma, if_neg (fun h => hc.1 h.1), if_neg hc.2.1, hc.2.2, if_neg Bool.false_ne_true,
        if_pos hclose, Nat.add_sub_cancel, ih depth hdepth]
      simp

/-- A JSON text ends at the comma behind it. -/
theorem JsonText.append_comma_inj {x y r r' : Str} (hx : JsonText x) (hy : JsonText y)
    (h : x ++ 44 :: r = y ++ 44 :: r') : x = y ∧ r = r' := by
  have hread {z : Str} (hz : JsonText z) (u : Str) : beforeComma 0 false (z ++ 44 :: u) = z := by
    rw [beforeComma_enclosed hz 0 nofun, beforeComma, if_pos ⟨rfl, rfl⟩, List.append_nil]
  have hxy : x = y := by rw [← hread hx r, h, hread hy]
  subst hxy
  exact ⟨rfl, (List.cons.inj (List.append_cancel_left h)).2⟩

example : beforeComma 0 false "\x7b\"a\":[1,\",]\"]\x7d,\"b\":2" = str "\x7b\"a\":[1,\",]\"]\x7d" := by
  decide

end Axiam
