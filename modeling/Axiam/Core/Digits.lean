import Axiam.Core.Str
import Mathlib.Logic.Function.Basic

/-!
# Numbers as text

What `std::to_string` writes of an integer: digits and perhaps a sign, and of different integers
different texts.
-/

namespace Axiam

/-- The decimal digits of a number are its own. -/
theorem toDigits_injective : Function.Injective (Nat.toDigits 10) := by
  intro m n h
  rw [← Nat.ofDigitChars_ten_toDigits (n := m), h, Nat.ofDigitChars_ten_toDigits]

/-- The bytes of a text of characters, one behind the other. -/
theorem str_ofList (l : List Char) : str (String.ofList l) = l.flatMap String.utf8EncodeChar := by
  unfold str
  rw [String.toByteArray_ofList]
  unfold List.utf8Encode
  rw [List.data_toByteArray]

/-- A literal is determined by its bytes. -/
theorem str_injective : Function.Injective str := by
  intro s t h
  apply String.toByteArray_inj.mp
  apply ByteArray.ext
  exact Array.toList_inj.mp h

/-- The characters of an integer: a sign in front of a negative one, and digits. -/
def decimal (i : Int) : List Char :=
  if 0 ≤ i then Nat.toDigits 10 i.toNat else '-' :: Nat.toDigits 10 (-i).toNat

theorem toStr_eq (i : Int) : toStr i = (decimal i).flatMap String.utf8EncodeChar := by
  rw [← str_ofList]
  show str i.repr = _
  rw [Int.repr_eq_if]
  unfold decimal
  split
  · rw [Nat.repr_eq_ofList_toDigits]
  · rw [Nat.repr_eq_ofList_toDigits]
    congr 1
    apply String.toByteArray_inj.mp
    have hsign : "-" = String.ofList ['-'] := by decide
    simp only [hsign, String.toByteArray_append, String.toByteArray_ofList]
    exact List.utf8Encode_cons.symm

theorem mem_decimal {i : Int} {c : Char} (h : c ∈ decimal i) : c = '-' ∨ c.isDigit = true := by
  have hdigit {n : Nat} (hc : c ∈ Nat.toDigits 10 n) : c.isDigit = true :=
    Nat.isDigit_of_mem_toDigits (by omega) (by omega) hc
  unfold decimal at h
  split at h
  · exact .inr (hdigit h)
  · rcases List.mem_cons.mp h with h | h
    · exact .inl h
    · exact .inr (hdigit h)

theorem decimal_injective : Function.Injective decimal := by
  intro i j h
  -- a sign is no digit
  have hsign (m n : Nat) : Nat.toDigits 10 m ≠ '-' :: Nat.toDigits 10 n := by
    intro heq
    have hmem : '-' ∈ Nat.toDigits 10 m := by
      rw [heq]
      exact List.mem_cons_self
    have hdigit := Nat.isDigit_of_mem_toDigits (by omega) (by omega) hmem
    exact absurd hdigit (by decide)
  unfold decimal at h
  split at h <;> split at h
  · have hnat := toDigits_injective h
    omega
  · exact absurd h (hsign _ _)
  · exact absurd h.symm (hsign _ _)
  · have hnat := toDigits_injective (List.cons.inj h).2
    omega

theorem toStr_injective : Function.Injective toStr := by
  intro i j h
  have hrepr : toString i = toString j := str_injective h
  have hchars (k : Int) : toString k = String.ofList (decimal k) := by
    apply str_injective
    rw [str_ofList]
    exact toStr_eq k
  rw [hchars, hchars] at hrepr
  exact decimal_injective (String.ofList_injective hrepr)

/-- No byte of a number is below the sign's, nor a comma. -/
theorem comma_notMem_toStr (i : Int) : 44 ∉ toStr i := by
  intro h
  rw [toStr_eq] at h
  obtain ⟨c, hc, hbyte⟩ := List.mem_flatMap.mp h
  rcases mem_decimal hc with rfl | hdigit
  · exact absurd hbyte (by decide)
  · -- a digit is one byte, at least that of the zero
    unfold Char.isDigit at hdigit
    rw [Bool.and_eq_true, decide_eq_true_eq, decide_eq_true_eq] at hdigit
    have hlow : 48 ≤ c.val.toNat := hdigit.1
    have hhigh : c.val.toNat ≤ 57 := hdigit.2
    unfold String.utf8EncodeChar at hbyte
    simp only at hbyte
    rw [if_pos (by omega), List.mem_singleton] at hbyte
    have hvalue := congrArg UInt8.toNat hbyte
    rw [UInt8.toNat_ofNat'] at hvalue
    have hcomma : (44 : UInt8).toNat = 44 := rfl
    omega

end Axiam
