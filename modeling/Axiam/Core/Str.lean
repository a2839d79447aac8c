import Mathlib.Data.List.Basic

/-!
# Strings

A `std::string` is the list of its bytes.  Nothing makes it text: it may hold a byte
sequence that is not UTF-8, and the JSON library's `dump` refuses such a string.
-/

namespace Axiam

/-- A `std::string`: the bytes it holds. -/
abbrev Str : Type := List UInt8

/-- The bytes of a literal. -/
def str (s : String) : Str := s.toByteArray.data.toList

instance : Coe String Str := ⟨str⟩

instance : LawfulBEq Str := inferInstance

/-- The bytes `0x80 .. 0xBF`, which continue a multi-byte character. -/
def isContinuation (c : UInt8) : Bool := 0x80 ≤ c && c ≤ 0xBF

/-- Whether a string is well-formed UTF-8: no stray or missing continuation byte, no
overlong form, no surrogate and nothing above U+10FFFF. -/
def validUtf8 : Str → Bool
  | [] => true
  | a :: rest =>
      if a < 0x80 then validUtf8 rest
      else match rest with
        | [] => false
        | b :: rest =>
            if 0xC2 ≤ a && a ≤ 0xDF then isContinuation b && validUtf8 rest
            else match rest with
              | [] => false
              | c :: rest =>
                  if 0xE0 ≤ a && a ≤ 0xEF then
                    isContinuation b && isContinuation c &&
                      (a != 0xE0 || 0xA0 ≤ b) && (a != 0xED || b ≤ 0x9F) && validUtf8 rest
                  else match rest with
                    | [] => false
                    | d :: rest =>
                        0xF0 ≤ a && a ≤ 0xF4 && isContinuation b && isContinuation c &&
                          isContinuation d && (a != 0xF0 || 0x90 ≤ b) &&
                          (a != 0xF4 || b ≤ 0x8F) && validUtf8 rest

example : validUtf8 (str "§27") = true := by decide
example : validUtf8 [0xC3] = false := by decide

/-- A check of each of the 256 bytes. -/
theorem forall_byte {P : UInt8 → Prop} (h : ∀ n : Fin 256, P (.ofNat n)) (c : UInt8) : P c := by
  have hc := h ⟨c.toNat, c.toNat_lt⟩
  rwa [UInt8.ofNat_toNat] at hc

/-- A check of each byte of a literal. -/
theorem forall_mem_of_all {s : Str} {P : UInt8 → Prop} [DecidablePred P]
    (h : s.all (fun c => decide (P c)) = true) : ∀ c ∈ s, P c :=
  fun c hc => of_decide_eq_true (List.all_eq_true.mp h c hc)

/-- `std::to_string` of an integer. -/
def toStr (i : Int) : Str := str (toString i)

/-- A value in a path or a query: everything but the unreserved characters as `%XX`. -/
def urlEncode (s : Str) : Str :=
  let digit (d : UInt8) : UInt8 := if d < 10 then 48 + d else 55 + d
  s.flatMap fun c =>
    if (65 ≤ c && c ≤ 90) || (97 ≤ c && c ≤ 122) || (48 ≤ c && c ≤ 57) || c == 45 || c == 95 ||
        c == 46 || c == 126 then [c]
    else [37, digit (c / 16), digit (c % 16)]

/-- What stands before and after the first `sep`: `find(sep)` and the two `substr`. -/
def cut (sep : UInt8) : Str → Option (Str × Str)
  | [] => none
  | c :: rest =>
      if c = sep then some ([], rest)
      else (cut sep rest).map fun parts => (c :: parts.1, parts.2)

/-- What stands before and after the first occurrence of `pattern`. -/
def cutAt (pattern : Str) : Str → Option (Str × Str)
  | [] => if pattern = [] then some ([], []) else none
  | c :: rest =>
      if pattern.isPrefixOf (c :: rest) then some ([], (c :: rest).drop pattern.length)
      else (cutAt pattern rest).map fun parts => (c :: parts.1, parts.2)

/-- The two halves, with `sep` between them, are the string, and the first has no `sep`. -/
theorem cut_eq_some {sep : UInt8} {s a b : Str} (h : cut sep s = some (a, b)) :
    s = a ++ sep :: b ∧ sep ∉ a := by
  induction s generalizing a with
  | nil => cases h
  | cons c rest ih =>
      simp only [cut] at h
      by_cases hc : c = sep
      · rw [if_pos hc] at h
        cases h
        exact ⟨by rw [hc]; rfl, by simp⟩
      · rw [if_neg hc, Option.map_eq_some_iff] at h
        obtain ⟨⟨a', b'⟩, hrest, heq⟩ := h
        cases heq
        obtain ⟨rfl, hnot⟩ := ih hrest
        refine ⟨rfl, ?_⟩
        rw [List.mem_cons, not_or]
        exact ⟨fun h => hc h.symm, hnot⟩

/-- A space or a tab. -/
def isBlank (c : UInt8) : Bool := c == 32 || c == 9

/-- `trim`: spaces and tabs at both ends. -/
def trim (s : Str) : Str := ((s.dropWhile isBlank).reverse.dropWhile isBlank).reverse

/-- The three parts of `a.b.c`: two dots and no third. -/
def threeParts (s : Str) : Option (Str × Str × Str) := do
  let (a, rest) ← cut 46 s
  let (b, c) ← cut 46 rest
  if 46 ∈ c then none else some (a, b, c)

end Axiam
