import Axiam.Core.Base64
import Axiam.Core.Uri
import Mathlib.Tactic.IntervalCases

/-!
# Base64url, both ways

The encoders of `src/jose.cpp`, `src/oidc.cpp` and `src/jwks.cpp`, each of them its own loop over
groups of three bytes, and the one decoder, `base64url_decode`.  The decoder keeps 24 bits of what it
has read; `exactDecode` keeps all of them, and the two agree on every text.
-/

namespace Axiam.Jose

/-! ## The encoders -/

def kAlphabet : Str := "ABCDEFGHIJKLMNOPQRSTUVWXYZabcdefghijklmnopqrstuvwxyz0123456789-_"

/-- `kAlphabet[v & 0x3F]`. -/
def symbol (v : UInt32) : UInt8 := kAlphabet.getD (v &&& 0x3F).toNat 0

/-- What one turn of the loops of `b64url_encode` and `b64url` pushes. -/
def group (bytes : Str) (i : Nat) : Str :=
  let v := (bytes.getD i 0).toUInt32 <<< 16
  let (v, got) :=
    if i + 1 < bytes.length then (v ||| (bytes.getD (i + 1) 0).toUInt32 <<< 8, 2) else (v, 1)
  let (v, got) :=
    if i + 2 < bytes.length then (v ||| (bytes.getD (i + 2) 0).toUInt32, 3) else (v, got)
  [symbol (v >>> 18), symbol (v >>> 12)] ++ (if 1 < got then [symbol (v >>> 6)] else []) ++
    (if 2 < got then [symbol v] else [])

/-- What one turn of the loop of `certificate_thumbprint_s256` pushes. -/
def digestGroup (digest : Str) (i : Nat) : Str :=
  let remaining := digest.length - i
  let v := (digest.getD i 0).toUInt32 <<< 16
  let v := if 1 < remaining then v ||| (digest.getD (i + 1) 0).toUInt32 <<< 8 else v
  let v := if 2 < remaining then v ||| (digest.getD (i + 2) 0).toUInt32 else v
  [symbol (v >>> 18), symbol (v >>> 12)] ++ (if 1 < remaining then [symbol (v >>> 6)] else []) ++
    (if 2 < remaining then [symbol v] else [])

/-- `for (i = 0; i < size; i += 3)`, with a turn for every byte at most. -/
def groups (push : Str → Nat → Str) (bytes : Str) : Nat → Nat → Str
  | 0, _ => []
  | turns + 1, i =>
      if i < bytes.length then push bytes i ++ groups push bytes turns (i + 3) else []

/-- `b64url_encode`. -/
def b64urlEncode (bytes : Str) : Str := groups group bytes bytes.length 0

/-- `b64url`, of the `len` bytes at `data`. -/
def b64url (data : Str) (len : Nat) : Str := groups group (data.take len) len 0

/-- The text of a digest, in `certificate_thumbprint_s256`. -/
def digestText (digest : Str) : Str := groups digestGroup digest digest.length 0

/-- `certificate_thumbprint_s256`; a digest that could not be made has no text. -/
def certificateThumbprintS256 (sha256 : Str → Option Str) (der : Str) : Str :=
  match sha256 der with
  | some digest => if digest.length = 32 then digestText digest else []
  | none => []

example : b64urlEncode "axiam!" = str "YXhpYW0h" := by decide
example : digestText [255, 254] = str "__4" := by decide

/-! ## The decoder, with nothing masked -/

/-- The decode loop, with every bit that was read in the accumulator. -/
def exactLoop (acc bits : Nat) (out : Str) : Str → Option Str
  | [] => some out
  | ch :: rest =>
      if ch = 61 then some out
      else match base64urlVal ch with
        | none => none
        | some v =>
            let acc := acc * 64 + v.toNat
            let bits := bits + 6
            if 8 ≤ bits then
              let bits := bits - 8
              exactLoop acc bits (out ++ [.ofNat (acc / 2 ^ bits % 256)]) rest
            else exactLoop acc bits out rest

def exactDecode (input : Str) : Option Str := exactLoop 0 0 [] input

theorem base64urlVal_lt {c : UInt8} {v : UInt32} (h : base64urlVal c = some v) : v.toNat < 64 := by
  have hall : ∀ c, (base64urlVal c).all (fun v => v.toNat < 64) = true := by
    apply forall_byte
    decide +kernel
  have hc := hall c
  rw [h, Option.all_some, decide_eq_true_eq] at hc
  exact hc

/-- A symbol goes in below the 24 bits that are kept. -/
theorem toNat_shiftIn {buffer v : UInt32} (hbuffer : buffer.toNat < 2 ^ 24) (hv : v.toNat < 64) :
    (((buffer <<< 6) ||| v) &&& 0xFFFFFF).toNat = (buffer.toNat * 64 + v.toNat) % 2 ^ 24 := by
  have hshift : (buffer <<< 6).toNat = 2 ^ 6 * buffer.toNat := by
    rw [UInt32.toNat_shiftLeft]
    simp only [UInt32.reduceToNat, Nat.shiftLeft_eq, Nat.reduceMod, Nat.reducePow]
    omega
  have hor : ((buffer <<< 6) ||| v).toNat = buffer.toNat * 64 + v.toNat := by
    rw [UInt32.toNat_or, hshift, ← Nat.two_pow_add_eq_or_of_lt (by omega)]
    omega
  have hmask : (0xFFFFFF : UInt32).toNat = 2 ^ 24 - 1 := rfl
  rw [UInt32.toNat_and, hor, hmask, Nat.and_two_pow_sub_one_eq_mod]

/-- A byte that is read back lies within the bits that are kept. -/
theorem byte_kept {buffer : UInt32} {acc bits : Nat} (hbuffer : buffer.toNat = acc % 2 ^ 24)
    (hbits : bits < 8) :
    ((buffer >>> UInt32.ofNat bits) &&& 0xFF).toUInt8 = .ofNat (acc / 2 ^ bits % 256) := by
  have hmask : (0xFF : UInt32).toNat = 2 ^ 8 - 1 := rfl
  have hshift : (buffer >>> UInt32.ofNat bits).toNat = buffer.toNat / 2 ^ bits := by
    rw [UInt32.toNat_shiftRight, UInt32.toNat_ofNat', Nat.shiftRight_eq_div_pow]
    congr 2
    omega
  apply UInt8.toNat_inj.mp
  rw [UInt32.toNat_toUInt8, UInt32.toNat_and, hmask, Nat.and_two_pow_sub_one_eq_mod, hshift, hbuffer,
    UInt8.toNat_ofNat']
  interval_cases bits <;> omega

/-- The mask drops no bit that is still owed: whatever was read, the loop with 24 bits goes on as the
one that keeps them all. -/
theorem base64urlLoop_eq {buffer : UInt32} {acc bits : Nat} (hbuffer : buffer.toNat = acc % 2 ^ 24)
    (hbits : bits < 8) (out s : Str) :
    base64urlLoop buffer bits out s = exactLoop acc bits out s := by
  induction s generalizing buffer acc bits out with
  | nil => rfl
  | cons ch rest ih =>
      rw [base64urlLoop, exactLoop]
      by_cases hpad : ch = 61
      · rw [if_pos hpad, if_pos hpad]
      · rw [if_neg hpad, if_neg hpad]
        cases hv : base64urlVal ch with
        | none => rfl
        | some v =>
            have hkept : (((buffer <<< 6) ||| v) &&& 0xFFFFFF).toNat =
                (acc * 64 + v.toNat) % 2 ^ 24 := by
              rw [toNat_shiftIn (by omega) (base64urlVal_lt hv), hbuffer]
              omega
            show (if 8 ≤ bits + 6 then _ else _) = if 8 ≤ bits + 6 then _ else _
            by_cases hfull : 8 ≤ bits + 6
            · have hleft : bits + 6 - 8 < 8 := by omega
              rw [if_pos hfull, if_pos hfull]
              dsimp only
              rw [byte_kept hkept hleft]
              exact ih hkept hleft _
            · rw [if_neg hfull, if_neg hfull]
              exact ih hkept (by omega) _

theorem base64urlDecode_eq (input : Str) : base64urlDecode input = exactDecode input :=
  base64urlLoop_eq rfl (by omega) [] input

/-! ## The encoders are one -/

theorem toNat_first (a : UInt8) : (a.toUInt32 <<< 16).toNat = a.toNat * 65536 := by
  have ha := UInt8.toNat_lt a
  rw [UInt32.toNat_shiftLeft, UInt8.toNat_toUInt32]
  simp only [UInt32.reduceToNat, Nat.shiftLeft_eq, Nat.reduceMod, Nat.reducePow]
  omega

theorem toNat_second (a b : UInt8) :
    (a.toUInt32 <<< 16 ||| b.toUInt32 <<< 8).toNat = a.toNat * 65536 + b.toNat * 256 := by
  have hb := UInt8.toNat_lt b
  have hlow : (b.toUInt32 <<< 8).toNat = b.toNat * 256 := by
    rw [UInt32.toNat_shiftLeft, UInt8.toNat_toUInt32]
    simp only [UInt32.reduceToNat, Nat.shiftLeft_eq, Nat.reduceMod, Nat.reducePow]
    omega
  have hhigh : a.toNat * 65536 = 2 ^ 16 * a.toNat := by omega
  rw [UInt32.toNat_or, toNat_first, hlow, hhigh, ← Nat.two_pow_add_eq_or_of_lt (by omega)]

theorem toNat_third (a b c : UInt8) :
    (a.toUInt32 <<< 16 ||| b.toUInt32 <<< 8 ||| c.toUInt32).toNat =
      a.toNat * 65536 + b.toNat * 256 + c.toNat := by
  have hc := UInt8.toNat_lt c
  have hhigh : a.toNat * 65536 + b.toNat * 256 = 2 ^ 8 * (a.toNat * 256 + b.toNat) := by omega
  rw [UInt32.toNat_or, toNat_second, UInt8.toNat_toUInt32, hhigh,
    ← Nat.two_pow_add_eq_or_of_lt (by omega)]

/-- The table of the loops is the one `revocation_entry_for` writes out. -/
theorem kAlphabet_eq : ∀ n < 64, kAlphabet.getD n 0 = base64urlSymbol n := by decide

theorem symbol_eq (v : UInt32) : symbol v = base64urlSymbol (v.toNat % 64) := by
  have hmask : (0x3F : UInt32).toNat = 2 ^ 6 - 1 := rfl
  rw [symbol, UInt32.toNat_and, hmask, Nat.and_two_pow_sub_one_eq_mod]
  exact kAlphabet_eq _ (Nat.mod_lt _ (by omega))

theorem symbol_shift (v : UInt32) {k : Nat} (hk : k < 32) :
    symbol (v >>> UInt32.ofNat k) = base64urlSymbol (v.toNat / 2 ^ k % 64) := by
  rw [symbol_eq, UInt32.toNat_shiftRight, UInt32.toNat_ofNat', Nat.shiftRight_eq_div_pow]
  congr 4
  omega

/-- A turn reads only what is left of the bytes. -/
theorem group_drop (bytes : Str) (i : Nat) : group bytes i = group (bytes.drop i) 0 := by
  have hsecond : i + 1 < bytes.length ↔ 0 + 1 < bytes.length - i := by omega
  have hthird : i + 2 < bytes.length ↔ 0 + 2 < bytes.length - i := by omega
  simp only [group, List.getD_eq_getElem?_getD, List.getElem?_drop, List.length_drop, hsecond,
    hthird, Nat.add_zero, Nat.zero_add]

theorem digestGroup_eq (bytes : Str) (i : Nat) : digestGroup bytes i = group bytes i := by
  have hsecond : 1 < bytes.length - i ↔ i + 1 < bytes.length := by omega
  have hthird : 2 < bytes.length - i ↔ i + 2 < bytes.length := by omega
  simp only [digestGroup, group, hsecond, hthird]
  by_cases h2 : i + 2 < bytes.length
  · have h1 : i + 1 < bytes.length := by omega
    simp [h1, h2]
  · by_cases h1 : i + 1 < bytes.length <;> simp [h1, h2]

/-- One turn writes the next three bytes. -/
theorem group_eq {bytes : Str} {i : Nat} (h : i < bytes.length) :
    group bytes i = base64urlEncode ((bytes.drop i).take 3) := by
  have hlength : 0 < (bytes.drop i).length := by
    rw [List.length_drop]
    omega
  rw [group_drop]
  match hs : bytes.drop i with
  | [] => simp [hs] at hlength
  | [a] =>
      show [symbol (_ >>> UInt32.ofNat 18), symbol (_ >>> UInt32.ofNat 12)] = _
      rw [symbol_shift _ (by omega), symbol_shift _ (by omega)]
      show [base64urlSymbol ((a.toUInt32 <<< 16).toNat / 2 ^ 18 % 64),
        base64urlSymbol ((a.toUInt32 <<< 16).toNat / 2 ^ 12 % 64)] = _
      rw [toNat_first]
      rfl
  | [a, b] =>
      show [symbol ((a.toUInt32 <<< 16 ||| b.toUInt32 <<< 8) >>> UInt32.ofNat 18),
        symbol ((a.toUInt32 <<< 16 ||| b.toUInt32 <<< 8) >>> UInt32.ofNat 12),
        symbol ((a.toUInt32 <<< 16 ||| b.toUInt32 <<< 8) >>> UInt32.ofNat 6)] = _
      rw [symbol_shift _ (by omega), symbol_shift _ (by omega), symbol_shift _ (by omega),
        toNat_second]
      rfl
  | a :: b :: c :: rest =>
      have hsecond : 0 + 1 < (a :: b :: c :: rest).length := by simp
      have hthird : 0 + 2 < (a :: b :: c :: rest).length := by simp
      simp only [group, if_pos hsecond, if_pos hthird]
      show [symbol ((a.toUInt32 <<< 16 ||| b.toUInt32 <<< 8 ||| c.toUInt32) >>> UInt32.ofNat 18),
        symbol ((a.toUInt32 <<< 16 ||| b.toUInt32 <<< 8 ||| c.toUInt32) >>> UInt32.ofNat 12),
        symbol ((a.toUInt32 <<< 16 ||| b.toUInt32 <<< 8 ||| c.toUInt32) >>> UInt32.ofNat 6),
        symbol (a.toUInt32 <<< 16 ||| b.toUInt32 <<< 8 ||| c.toUInt32)] = _
      rw [symbol_shift _ (by omega), symbol_shift _ (by omega), symbol_shift _ (by omega),
        symbol_eq, toNat_third]
      rfl

theorem base64urlEncode_split (s : Str) :
    base64urlEncode s = base64urlEncode (s.take 3) ++ base64urlEncode (s.drop 3) := by
  match s with
  | [] => rfl
  | [_] => rfl
  | [_, _] => rfl
  | _ :: _ :: _ :: _ => rfl

/-- A loop of turns writes all that is left. -/
theorem groups_eq {push : Str → Nat → Str} {bytes : Str}
    (hpush : ∀ i < bytes.length, push bytes i = base64urlEncode ((bytes.drop i).take 3))
    {turns i : Nat} (hturns : bytes.length ≤ turns + i) :
    groups push bytes turns i = base64urlEncode (bytes.drop i) := by
  induction turns generalizing i with
  | zero =>
      rw [List.drop_eq_nil_of_le (by omega)]
      rfl
  | succ turns ih =>
      show (if i < bytes.length then push bytes i ++ groups push bytes turns (i + 3) else []) = _
      by_cases hi : i < bytes.length
      · rw [if_pos hi, hpush i hi, ih (by omega), base64urlEncode_split (bytes.drop i),
          List.drop_drop]
      · rw [if_neg hi, List.drop_eq_nil_of_le (by omega)]
        rfl

theorem b64urlEncode_eq (x : Str) : b64urlEncode x = base64urlEncode x :=
  groups_eq (fun _ hi => group_eq hi) (by omega)

theorem b64url_eq (x : Str) : b64url x x.length = base64urlEncode x := by
  have h := b64urlEncode_eq x
  rw [b64url, List.take_length]
  exact h

theorem digestText_eq (x : Str) : digestText x = base64urlEncode x :=
  groups_eq (fun i hi => (digestGroup_eq x i).trans (group_eq hi)) (by omega)

/-! ## Reading back -/

theorem base64urlVal_symbol : ∀ n < 64,
    base64urlSymbol n ≠ 61 ∧ base64urlVal (base64urlSymbol n) = some (UInt32.ofNat n) ∧
      Uri.isUnreserved (base64urlSymbol n) = true := by
  decide

/-- What reading one symbol does. -/
theorem exactLoop_symbol {n : Nat} (hn : n < 64) (acc bits : Nat) (out rest : Str) :
    exactLoop acc bits out (base64urlSymbol n :: rest) =
      if 2 ≤ bits then
        exactLoop (acc * 64 + n) (bits - 2)
          (out ++ [.ofNat ((acc * 64 + n) / 2 ^ (bits - 2) % 256)]) rest
      else exactLoop (acc * 64 + n) (bits + 6) out rest := by
  obtain ⟨hpad, hval, -⟩ := base64urlVal_symbol n hn
  have hn' : (UInt32.ofNat n).toNat = n := by
    rw [UInt32.toNat_ofNat']
    omega
  rw [exactLoop, if_neg hpad, hval]
  show (if 8 ≤ bits + 6 then
      exactLoop (acc * 64 + (UInt32.ofNat n).toNat) (bits + 6 - 8)
        (out ++ [.ofNat ((acc * 64 + (UInt32.ofNat n).toNat) / 2 ^ (bits + 6 - 8) % 256)]) rest
    else exactLoop (acc * 64 + (UInt32.ofNat n).toNat) (bits + 6) out rest) = _
  rw [hn']
  by_cases hfull : 2 ≤ bits
  · have hleft : bits + 6 - 8 = bits - 2 := by omega
    rw [if_pos (by omega : 8 ≤ bits + 6), if_pos hfull, hleft]
  · rw [if_neg (by omega : ¬8 ≤ bits + 6), if_neg hfull]

theorem ofNat_of_eq {a : UInt8} {q : Nat} (h : q = a.toNat) : UInt8.ofNat q = a := by
  rw [h, UInt8.ofNat_toNat]

/-- A loop that owes no bit reads back what was written, and owes none after each whole group. -/
theorem exactLoop_encode (x : Str) (acc : Nat) (out : Str) :
    exactLoop acc 0 out (base64urlEncode x) = some (out ++ x) := by
  fun_induction base64urlEncode x generalizing acc out with
  | case1 => simp [exactLoop]
  | case2 a v =>
      have ha := UInt8.toNat_lt a
      have hv : v = a.toNat * 65536 := rfl
      clear_value v
      rw [exactLoop_symbol (by omega), if_neg (by omega), exactLoop_symbol (by omega),
        if_pos (by omega), exactLoop, ofNat_of_eq (a := a) (by omega)]
  | case3 a b v =>
      have ha := UInt8.toNat_lt a
      have hb := UInt8.toNat_lt b
      have hv : v = a.toNat * 65536 + b.toNat * 256 := rfl
      clear_value v
      rw [exactLoop_symbol (by omega), if_neg (by omega), exactLoop_symbol (by omega),
        if_pos (by omega), exactLoop_symbol (by omega), if_pos (by omega), exactLoop,
        ofNat_of_eq (a := a) (by omega), ofNat_of_eq (a := b) (by omega), List.append_assoc]
      rfl
  | case4 a b c rest v ih =>
      have ha := UInt8.toNat_lt a
      have hb := UInt8.toNat_lt b
      have hc := UInt8.toNat_lt c
      have hv : v = a.toNat * 65536 + b.toNat * 256 + c.toNat := rfl
      clear_value v
      simp only [List.cons_append, List.nil_append]
      -- the fourth symbol brings the loop back to no bit owed, where `ih` takes over
      rw [exactLoop_symbol (by omega), if_neg (by omega), exactLoop_symbol (by omega),
        if_pos (by omega), exactLoop_symbol (by omega), if_pos (by omega),
        exactLoop_symbol (by omega), if_pos (by omega), ofNat_of_eq (a := a) (by omega),
        ofNat_of_eq (a := b) (by omega), ofNat_of_eq (a := c) (by omega)]
      rw [ih]
      simp only [List.append_assoc, List.cons_append, List.nil_append]

theorem unreserved_base64urlEncode (x : Str) :
    ∀ c ∈ base64urlEncode x, Uri.isUnreserved c = true := by
  have hsymbol : ∀ v, Uri.isUnreserved (base64urlSymbol (v % 64)) = true := fun v =>
    (base64urlVal_symbol _ (Nat.mod_lt v (by omega))).2.2
  fun_induction base64urlEncode x with
  | case1 => simp
  | case2 a v => simp [hsymbol]
  | case3 a b v => simp [hsymbol]
  | case4 a b c rest v ih =>
      intro d hd
      rw [List.mem_append] at hd
      cases hd with
      | inl hgroup =>
          revert d
          simp [hsymbol]
      | inr hrest => exact ih d hrest

/-- The encoders of the SDK. -/
def encoders : List (Str → Str) :=
  [b64urlEncode, fun x => b64url x x.length, digestText, base64urlEncode]

theorem encoders_eq : ∀ encode ∈ encoders, ∀ x, encode x = base64urlEncode x := by
  simp only [encoders, List.forall_mem_cons, List.not_mem_nil, false_implies, implies_true, and_true]
  exact ⟨b64urlEncode_eq, b64url_eq, digestText_eq⟩

/-- Every encoder writes URL-safe symbols and no padding, the decoder gives back the bytes, and the
accumulator of 24 bits decodes any text as one that forgets nothing. -/
theorem base64url_agrees :
    (∀ encode ∈ encoders, ∀ x,
      base64urlDecode (encode x) = some x ∧ 61 ∉ encode x ∧
        ∀ c ∈ encode x, Uri.isUnreserved c = true) ∧
      ∀ input, base64urlDecode input = exactDecode input := by
  refine ⟨fun encode hencode x => ?_, base64urlDecode_eq⟩
  rw [encoders_eq encode hencode x, base64urlDecode_eq]
  refine ⟨exactLoop_encode x 0 [], fun hpad => ?_, unreserved_base64urlEncode x⟩
  exact absurd (unreserved_base64urlEncode x 61 hpad) (by decide)

end Axiam.Jose
