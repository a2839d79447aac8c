import Axiam.Core.JsonGrammar

/-!
# JSON that was written

A string that is dumped is read back, and is as much UTF-8 as it was.  A JSON text has no byte that
it could not: no control character but space, and nothing but ASCII outside of its strings.
-/

namespace Axiam

open Json

/-! ## UTF-8 -/

theorem validUtf8_append {a : Str} (h : validUtf8 a = true) (b : Str) :
    validUtf8 (a ++ b) = validUtf8 b := by
  fun_induction validUtf8 a with
  | case1 => rfl
  | case2 a rest hlow ih =>
      rw [List.cons_append, validUtf8.eq_def]
      simp only [if_pos hlow, ih h]
  | case3 => cases h
  | case4 a hlow c rest hlead ih =>
      rw [Bool.and_eq_true] at h
      rw [List.cons_append, List.cons_append, validUtf8.eq_def]
      simp only [if_neg hlow, if_pos hlead, h.1, ih h.2, Bool.true_and]
  | case5 => cases h
  | case6 a hlow c hlead d rest hlead' ih =>
      rw [Bool.and_eq_true] at h
      rw [List.cons_append, List.cons_append, List.cons_append, validUtf8.eq_def]
      simp only [if_neg hlow, if_neg hlead, if_pos hlead', h.1, ih h.2, Bool.true_and]
  | case7 => cases h
  | case8 a hlow c hlead d hlead' e rest ih =>
      rw [Bool.and_eq_true] at h
      rw [List.cons_append, List.cons_append, List.cons_append, List.cons_append, validUtf8.eq_def]
      simp only [if_neg hlow, if_neg hlead, if_neg hlead', h.1, ih h.2, Bool.true_and]

theorem validUtf8_ascii {s : Str} (h : ∀ c ∈ s, c < 128) : validUtf8 s = true := by
  induction s with
  | nil => rfl
  | cons c s ih =>
      obtain ⟨hc, hs⟩ := List.forall_mem_cons.mp h
      rw [validUtf8.eq_def]
      simp only [if_pos hc, ih hs]

/-- What an escape makes of a byte: of ASCII it makes ASCII, and other bytes it leaves alone. -/
theorem escapeByte_spec (c : UInt8) :
    (c < 128 → validUtf8 (escapeByte c) = true) ∧ (¬c < 128 → escapeByte c = [c]) := by
  revert c
  apply forall_byte
  decide +kernel

theorem escapeByte_of_isContinuation {c : UInt8} (h : isContinuation c = true) :
    escapeByte c = [c] := by
  unfold isContinuation at h
  rw [Bool.and_eq_true, decide_eq_true_eq] at h
  exact (escapeByte_spec c).2 (UInt8.not_lt.mpr h.1)

/-- Escapes do not break up a character. -/
theorem validUtf8_escaped {s : Str} (h : validUtf8 s = true) :
    validUtf8 (s.flatMap escapeByte) = true := by
  fun_induction validUtf8 s with
  | case1 => rfl
  | case2 a rest hlow ih =>
      rw [List.flatMap_cons, validUtf8_append ((escapeByte_spec a).1 hlow), ih h]
  | case3 => cases h
  | case4 a hlow c rest hlead ih =>
      rw [Bool.and_eq_true] at h
      rw [List.flatMap_cons, List.flatMap_cons, (escapeByte_spec a).2 hlow,
        escapeByte_of_isContinuation h.1, List.singleton_append, List.singleton_append,
        validUtf8.eq_def]
      simp only [if_neg hlow, if_pos hlead, h.1, ih h.2, Bool.true_and]
  | case5 => cases h
  | case6 a hlow c hlead d rest hlead' ih =>
      rw [Bool.and_eq_true] at h
      have hbytes := h.1
      simp only [Bool.and_eq_true] at hbytes
      rw [List.flatMap_cons, List.flatMap_cons, List.flatMap_cons, (escapeByte_spec a).2 hlow,
        escapeByte_of_isContinuation hbytes.1.1.1, escapeByte_of_isContinuation hbytes.1.1.2,
        List.singleton_append, List.singleton_append, List.singleton_append, validUtf8.eq_def]
      simp only [if_neg hlow, if_neg hlead, if_pos hlead', h.1, ih h.2, Bool.true_and]
  | case7 => cases h
  | case8 a hlow c hlead d hlead' e rest ih =>
      rw [Bool.and_eq_true] at h
      have hbytes := h.1
      simp only [Bool.and_eq_true] at hbytes
      rw [List.flatMap_cons, List.flatMap_cons, List.flatMap_cons, List.flatMap_cons,
        (escapeByte_spec a).2 hlow, escapeByte_of_isContinuation hbytes.1.1.1.1.2,
        escapeByte_of_isContinuation hbytes.1.1.1.2, escapeByte_of_isContinuation hbytes.1.1.2,
        List.singleton_append, List.singleton_append, List.singleton_append,
        List.singleton_append, validUtf8.eq_def]
      simp only [if_neg hlow, if_neg hlead, if_neg hlead', h.1, ih h.2, Bool.true_and]

namespace JsonText

/-! ## Strings -/

/-- What a byte is read back as. -/
def pieceOf (c : UInt8) : Piece :=
  if c < 32 ∧ c ≠ 8 ∧ c ≠ 9 ∧ c ≠ 10 ∧ c ≠ 12 ∧ c ≠ 13 then .unit c.toNat else .byte c

theorem hexUnit?_control {c : UInt8} (h : c < 32) :
    hexUnit? 48 48 (hexLower (c / 16)) (hexLower (c % 16)) = some c.toNat := by
  have hall : ∀ n : Fin 32, hexUnit? 48 48 (hexLower (UInt8.ofNat n / 16))
      (hexLower (UInt8.ofNat n % 16)) = some (UInt8.ofNat n).toNat := by
    decide
  have hc := hall ⟨c.toNat, h⟩
  simp only [UInt8.ofNat_toNat] at hc
  exact hc

/-- An escaped byte is one piece. -/
theorem pieces_escapeByte (c : UInt8) (r : Str) :
    pieces (escapeByte c ++ r) = (pieces r).map (pieceOf c :: ·) := by
  have hsimple {e d : UInt8} (he : e ≠ 117) (hd : simpleEscape e = some d) :
      pieces (92 :: e :: r) = (pieces r).map (.byte d :: ·) := by
    rw [pieces, hd]
    · cases pieces r <;> rfl
    · exact fun _ _ _ _ _ hunit => absurd hunit he
  unfold escapeByte
  split_ifs with h8 h9 h10 h12 h13 hself hcontrol
  · subst h8
    exact hsimple (by decide) rfl
  · subst h9
    exact hsimple (by decide) rfl
  · subst h10
    exact hsimple (by decide) rfl
  · subst h12
    exact hsimple (by decide) rfl
  · subst h13
    exact hsimple (by decide) rfl
  · rcases hself with rfl | rfl
    · exact hsimple (by decide) rfl
    · exact hsimple (by decide) rfl
  · have hpiece : pieceOf c = .unit c.toNat := if_pos ⟨hcontrol, h8, h9, h10, h12, h13⟩
    simp only [List.cons_append, List.nil_append]
    rw [pieces, hexUnit?_control hcontrol, hpiece]
    cases pieces r <;> rfl
  · have hpiece : pieceOf c = .byte c := if_neg fun hunit => hcontrol hunit.1
    rw [not_or] at hself
    have hplain : ¬(c < 32 ∨ c = 34 ∨ c = 92) := by
      rw [not_or, not_or]
      exact ⟨hcontrol, hself⟩
    rw [List.singleton_append, pieces, if_neg hplain, hpiece]
    · exact fun _ _ _ _ _ hback => absurd hback hself.2
    · exact fun _ _ hback => absurd hback hself.2

theorem joined_unit {u : Nat} (h : u < 128) (ps : List Piece) :
    joined (.unit u :: ps) = .ofNat u :: joined ps := by
  have hutf8 : utf8 u = [.ofNat u] := if_pos h
  have hhigh : isHighSurrogate u = false := by
    unfold isHighSurrogate
    rw [Bool.and_eq_false_iff]
    exact .inl (decide_eq_false (by omega))
  cases ps with
  | nil => simp [joined, hutf8]
  | cons p ps =>
      cases p with
      | byte c => simp [joined, hutf8]
      | unit v => simp [joined, hutf8, hhigh]

theorem joined_pieceOf (s : Str) : joined (s.map pieceOf) = s := by
  induction s with
  | nil => rfl
  | cons c s ih =>
      rw [List.map_cons]
      by_cases hcontrol : c < 32 ∧ c ≠ 8 ∧ c ≠ 9 ∧ c ≠ 10 ∧ c ≠ 12 ∧ c ≠ 13
      · have hsmall : c.toNat < 128 := Nat.lt_trans hcontrol.1 (by decide)
        rw [show pieceOf c = .unit c.toNat from if_pos hcontrol, joined_unit hsmall, ih,
          UInt8.ofNat_toNat]
      · rw [show pieceOf c = .byte c from if_neg hcontrol, joined, ih]

/-- A string that is dumped is read back. -/
theorem unescape_escaped (s : Str) : unescape (s.flatMap escapeByte) = some s := by
  have hpieces : pieces (s.flatMap escapeByte) = some (s.map pieceOf) := by
    induction s with
    | nil => rfl
    | cons c s ih => rw [List.flatMap_cons, pieces_escapeByte, ih, Option.map_some, List.map_cons]
  unfold unescape
  rw [hpieces, Option.map_some, joined_pieceOf]

theorem validUtf8_dumpString {s : Str} (h : validUtf8 s = true) :
    validUtf8 (dumpString s) = true := by
  have hquote : validUtf8 [34] = true := by decide
  show validUtf8 ([34] ++ (s.flatMap escapeByte ++ [34])) = true
  rw [validUtf8_append hquote, validUtf8_append (validUtf8_escaped h), hquote]

/-! ## The bytes of a value -/

/-- A byte of a JSON text: no control character but those of `ws`. -/
def isTextByte (c : UInt8) : Bool := 32 ≤ c || isWs c

theorem mem_commaJoin {parts : List Str} {c : UInt8} (h : c ∈ commaJoin parts) :
    c = 44 ∨ ∃ x ∈ parts, c ∈ x := by
  induction parts with
  | nil => cases h
  | cons x rest ih =>
      cases rest with
      | nil => exact .inr ⟨x, List.mem_cons_self, h⟩
      | cons y rest =>
          have hsplit : c ∈ x ++ 44 :: commaJoin (y :: rest) := h
          rw [List.mem_append, List.mem_cons] at hsplit
          rcases hsplit with hx | rfl | hrest
          · exact .inr ⟨x, List.mem_cons_self, hx⟩
          · exact .inl rfl
          · rcases ih hrest with rfl | ⟨z, hz, hc⟩
            · exact .inl rfl
            · exact .inr ⟨z, List.mem_cons_of_mem x hz, hc⟩

theorem Ws.textBytes {w : Str} (h : Ws w) : ∀ c ∈ w, isTextByte c = true := by
  intro c hc
  unfold isTextByte
  rw [h c hc, Bool.or_true]

theorem isTextByte_of_ge {c : UInt8} (h : 32 ≤ c) : isTextByte c = true := by
  unfold isTextByte
  rw [decide_eq_true h, Bool.true_or]

theorem textBytes_quoted {raw : Str} (h : (unescape raw).isSome = true) :
    ∀ c ∈ quoted raw, isTextByte c = true := by
  unfold unescape at h
  rw [Option.isSome_map] at h
  obtain ⟨ps, hps⟩ := Option.isSome_iff_exists.mp h
  intro c hc
  simp only [quoted, List.mem_cons, List.mem_append, List.not_mem_nil, or_false] at hc
  rcases hc with rfl | hc | rfl
  · rfl
  · exact isTextByte_of_ge ((unquoted_of_pieces hps).2 c hc)
  · rfl

theorem textBytes_member {m : Member} (h : m.Spaced)
    (hvalue : ∀ c ∈ m.value, isTextByte c = true) : ∀ c ∈ m.text, isTextByte c = true := by
  intro c hc
  simp only [Member.text, Member.label, List.mem_append, List.mem_cons] at hc
  rcases hc with (hc | hc | hc | rfl | hc) | hc | hc
  · exact h.before.textBytes c hc
  · exact textBytes_quoted h.name c hc
  · exact h.gap.textBytes c hc
  · rfl
  · exact h.gap'.textBytes c hc
  · exact hvalue c hc
  · exact h.after.textBytes c hc

theorem textBytes_commaJoin {parts : List Str} (h : ∀ x ∈ parts, ∀ c ∈ x, isTextByte c = true) :
    ∀ c ∈ commaJoin parts, isTextByte c = true := by
  intro c hc
  rcases mem_commaJoin hc with rfl | ⟨x, hx, hc⟩
  · rfl
  · exact h x hx c hc

theorem textBytes_bracketed {o c : UInt8} {inner : Str} (ho : isTextByte o = true)
    (hc : isTextByte c = true) (h : ∀ d ∈ inner, isTextByte d = true) :
    ∀ d ∈ o :: (inner ++ [c]), isTextByte d = true := by
  intro d hd
  simp only [List.mem_cons, List.mem_append, List.not_mem_nil, or_false] at hd
  rcases hd with rfl | hd | rfl
  · exact ho
  · exact h d hd
  · exact hc

theorem IsValue.textBytes {s : Str} (h : IsValue s) : ∀ c ∈ s, isTextByte c = true := by
  induction h with
  | scalar hscalar =>
      exact fun c hc => isTextByte_of_ge (isScalarByte_spec (hscalar.scalarBytes.2 c hc)).2.1
  | string hraw => exact textBytes_quoted hraw
  | emptyArray hw => exact textBytes_bracketed rfl rfl hw.textBytes
  | array _ hspaced _ ih =>
      refine textBytes_bracketed rfl rfl (textBytes_commaJoin fun x hx c hc => ?_)
      obtain ⟨e, he, rfl⟩ := List.mem_map.mp hx
      simp only [Element.text, List.mem_append] at hc
      rcases hc with hc | hc | hc
      · exact (hspaced e he).before.textBytes c hc
      · exact ih e he c hc
      · exact (hspaced e he).after.textBytes c hc
  | emptyObject hw => exact textBytes_bracketed rfl rfl hw.textBytes
  | object _ hspaced _ ih =>
      refine textBytes_bracketed rfl rfl (textBytes_commaJoin fun x hx => ?_)
      obtain ⟨m, hm, rfl⟩ := List.mem_map.mp hx
      exact textBytes_member (hspaced m hm) (ih m hm)

/-! ## Outside of strings -/

/-- An enclosed text with nothing but ASCII outside of its strings. -/
def BareAscii (s : Str) : Prop := Enclosed true s ∧ ∀ c ∈ bare false s, c < 128

theorem BareAscii.append {x y : Str} (hx : BareAscii x) (hy : BareAscii y) :
    BareAscii (x ++ y) := by
  refine ⟨enclosed_append hx.1 hy.1, ?_⟩
  rw [bare_enclosed hx.1]
  intro c hc
  rcases List.mem_append.mp hc with hc | hc
  · exact hx.2 c hc
  · exact hy.2 c hc

/-- Without a quote nothing is in a string. -/
theorem bare_of_plain {s : Str} (h : ∀ c ∈ s, isPlain c = true) : bare false s = s := by
  induction s with
  | nil => rfl
  | cons c s ih =>
      obtain ⟨hc, hs⟩ := List.forall_mem_cons.mp h
      have hquote : c ≠ 34 := by
        rintro rfl
        exact absurd hc (by decide)
      rw [bare, if_neg hquote, ih hs]

theorem bareAscii_of_plain {s : Str} (h : ∀ c ∈ s, isPlain c = true ∧ c < 128) : BareAscii s := by
  have hplain : ∀ c ∈ s, isPlain c = true := fun c hc => (h c hc).1
  refine ⟨enclosed_of_plain hplain, ?_⟩
  rw [bare_of_plain hplain]
  exact fun c hc => (h c hc).2

theorem Ws.bareAscii {w : Str} (h : Ws w) : BareAscii w :=
  bareAscii_of_plain fun c hc => isWs_spec (h c hc)

theorem bareAscii_comma : BareAscii [44] :=
  ⟨.byte (by decide) (by decide) (by decide) (fun _ => rfl) .nil, forall_mem_of_all (by decide)⟩

theorem bareAscii_quoted {raw : Str} (h : (unescape raw).isSome = true) :
    BareAscii (quoted raw) := by
  refine ⟨enclosed_quoted h, ?_⟩
  unfold unescape at h
  rw [Option.isSome_map] at h
  obtain ⟨ps, hps⟩ := Option.isSome_iff_exists.mp h
  rw [quoted, bare, if_pos rfl, bare_unquoted (unquoted_of_pieces hps).1]
  simp [bare]

theorem bareAscii_bracketed {o c : UInt8} {inner : Str} (ho : isOpening o = true)
    (hc : isClosing c = true) (h : BareAscii inner) : BareAscii (o :: (inner ++ [c])) := by
  have hopen : o ≠ 34 ∧ o < 128 := by
    unfold isOpening at ho
    rw [Bool.or_eq_true, beq_iff_eq, beq_iff_eq] at ho
    rcases ho with rfl | rfl <;> decide
  have hclose : c ≠ 34 ∧ c < 128 := by
    unfold isClosing at hc
    rw [Bool.or_eq_true, beq_iff_eq, beq_iff_eq] at hc
    rcases hc with rfl | rfl <;> decide
  refine ⟨.brackets ho hc h.1 .nil, ?_⟩
  rw [bare, if_neg hopen.1, bare_enclosed h.1, bare, if_neg hclose.1]
  intro d hd
  rcases List.mem_cons.mp hd with rfl | hd
  · exact hopen.2
  · rcases List.mem_append.mp hd with hd | hd
    · exact h.2 d hd
    · rw [bare, List.mem_singleton] at hd
      rw [hd]
      exact hclose.2

theorem bareAscii_commaJoin {parts : List Str} (h : ∀ x ∈ parts, BareAscii x) :
    BareAscii (commaJoin parts) := by
  induction parts with
  | nil => exact ⟨.nil, by simp [commaJoin, bare]⟩
  | cons x rest ih =>
      obtain ⟨hx, hrest⟩ := List.forall_mem_cons.mp h
      cases rest with
      | nil => exact hx
      | cons y rest => exact hx.append (bareAscii_comma.append (ih hrest))

theorem Member.Spaced.bareAscii_label {m : Member} (h : m.Spaced) : BareAscii m.label :=
  h.before.bareAscii.append ((bareAscii_quoted h.name).append (h.gap.bareAscii.append
    (bareAscii_of_plain (List.forall_mem_cons.mpr
      ⟨by decide, fun c hc => isWs_spec (h.gap' c hc)⟩))))

theorem IsValue.bareAscii {s : Str} (h : IsValue s) : BareAscii s := by
  induction h with
  | scalar hscalar =>
      refine bareAscii_of_plain fun c hc => ?_
      have hbyte := isScalarByte_spec (hscalar.scalarBytes.2 c hc)
      exact ⟨hbyte.1, hbyte.2.2.1⟩
  | string hraw => exact bareAscii_quoted hraw
  | emptyArray hw => exact bareAscii_bracketed rfl rfl hw.bareAscii
  | array _ hspaced _ ih =>
      refine bareAscii_bracketed rfl rfl (bareAscii_commaJoin fun x hx => ?_)
      obtain ⟨e, he, rfl⟩ := List.mem_map.mp hx
      exact (hspaced e he).before.bareAscii.append
        ((ih e he).append (hspaced e he).after.bareAscii)
  | emptyObject hw => exact bareAscii_bracketed rfl rfl hw.bareAscii
  | object _ hspaced _ ih =>
      refine bareAscii_bracketed rfl rfl (bareAscii_commaJoin fun x hx => ?_)
      obtain ⟨m, hm, rfl⟩ := List.mem_map.mp hx
      exact (hspaced m hm).bareAscii_label.append
        ((ih m hm).append (hspaced m hm).after.bareAscii)

/-- A JSON text has no control character but space, and only ASCII outside of its strings. -/
theorem IsObjectText.bytes {s : Str} {ms : List Member} (h : IsObjectText s ms) :
    (∀ c ∈ s, isTextByte c = true) ∧ BareAscii s := by
  obtain ⟨-, before, object, after, rfl, hbefore, hafter, hobject⟩ := h
  have hvalue := hobject.isValue
  refine ⟨fun c hc => ?_, hbefore.bareAscii.append (hvalue.bareAscii.append hafter.bareAscii)⟩
  simp only [List.mem_append] at hc
  rcases hc with hc | hc | hc
  · exact hbefore.textBytes c hc
  · exact hvalue.textBytes c hc
  · exact hafter.textBytes c hc

end JsonText

end Axiam
