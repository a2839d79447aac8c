import Axiam.Core.JsonDump
import Axiam.Core.JsonText
import Axiam.Core.Uri

/-!
# JSON texts

RFC 8259: the texts that are values, what a string stands for, and an object's members with the
space around them.  Outside of its strings a text has only ASCII in it, and a quote or a bracket
opens and closes what it should, so that a reader who counts both stays in step.
-/

namespace Axiam.JsonText

/-! ## Scalars and strings -/

/-- `ws`. -/
def isWs (c : UInt8) : Bool := c == 32 || c == 9 || c == 10 || c == 13

def Ws (s : Str) : Prop := ∀ c ∈ s, isWs c = true

def Digits (s : Str) : Prop := s ≠ [] ∧ ∀ c ∈ s, Uri.isDigit c = true

/-- `int`: a zero, or digits that do not begin with one. -/
def IsInt (s : Str) : Prop := s = [48] ∨ Digits s ∧ s.head? ≠ some 48

/-- `frac`. -/
def IsFrac (s : Str) : Prop := ∃ ds, s = 46 :: ds ∧ Digits ds

/-- `exp`. -/
def IsExp (s : Str) : Prop :=
  ∃ e sign ds, s = e :: (sign ++ ds) ∧ (e = 101 ∨ e = 69) ∧
    (sign = [] ∨ sign = [43] ∨ sign = [45]) ∧ Digits ds

/-- `number`. -/
def IsNumber (s : Str) : Prop :=
  ∃ minus int frac exp, s = minus ++ (int ++ (frac ++ exp)) ∧ (minus = [] ∨ minus = [45]) ∧
    IsInt int ∧ (frac = [] ∨ IsFrac frac) ∧ (exp = [] ∨ IsExp exp)

/-- A literal name or a number. -/
def IsScalar (s : Str) : Prop := s = "true" ∨ s = "false" ∨ s = "null" ∨ IsNumber s

/-- What a piece of a string is: a byte of it, or a UTF-16 unit behind `\u`. -/
inductive Piece where
  | byte (c : UInt8)
  | unit (u : Nat)
  deriving DecidableEq

/-- The character behind a backslash. -/
def simpleEscape (e : UInt8) : Option UInt8 :=
  if e = 34 ∨ e = 92 ∨ e = 47 then some e
  else if e = 98 then some 8
  else if e = 102 then some 12
  else if e = 110 then some 10
  else if e = 114 then some 13
  else if e = 116 then some 9
  else none

def hexDigit? (c : UInt8) : Option Nat :=
  if 48 ≤ c ∧ c ≤ 57 then some (c.toNat - 48)
  else if 97 ≤ c ∧ c ≤ 102 then some (c.toNat - 87)
  else if 65 ≤ c ∧ c ≤ 70 then some (c.toNat - 55)
  else none

/-- Four hexadecimal digits. -/
def hexUnit? (a b c d : UInt8) : Option Nat := do
  let a ← hexDigit? a
  let b ← hexDigit? b
  let c ← hexDigit? c
  let d ← hexDigit? d
  return ((a * 16 + b) * 16 + c) * 16 + d

/-- The pieces of what stands between quotes; `none` is no string. -/
def pieces : Str → Option (List Piece)
  | [] => some []
  | 92 :: 117 :: a :: b :: c :: d :: rest => do
      let u ← hexUnit? a b c d
      let tail ← pieces rest
      return .unit u :: tail
  | 92 :: e :: rest => do
      let c ← simpleEscape e
      let tail ← pieces rest
      return .byte c :: tail
  | c :: rest =>
      if c < 32 ∨ c = 34 ∨ c = 92 then none
      else (pieces rest).map (.byte c :: ·)

/-- UTF-8 of a code point. -/
def utf8 (p : Nat) : Str :=
  if p < 0x80 then [.ofNat p]
  else if p < 0x800 then [.ofNat (0xC0 + p / 64), .ofNat (0x80 + p % 64)]
  else if p < 0x10000 then
    [.ofNat (0xE0 + p / 4096), .ofNat (0x80 + p / 64 % 64), .ofNat (0x80 + p % 64)]
  else
    [.ofNat (0xF0 + p / 262144), .ofNat (0x80 + p / 4096 % 64), .ofNat (0x80 + p / 64 % 64),
      .ofNat (0x80 + p % 64)]

def isHighSurrogate (u : Nat) : Bool := 0xD800 ≤ u && u ≤ 0xDBFF

def isLowSurrogate (u : Nat) : Bool := 0xDC00 ≤ u && u ≤ 0xDFFF

/-- The text of pieces: two surrogates are one code point, and one by itself is written alone. -/
def joined : List Piece → Str
  | [] => []
  | .unit high :: .unit low :: rest =>
      if isHighSurrogate high && isLowSurrogate low then
        utf8 (0x10000 + (high - 0xD800) * 0x400 + (low - 0xDC00)) ++ joined rest
      else utf8 high ++ joined (.unit low :: rest)
  | .unit u :: rest => utf8 u ++ joined rest
  | .byte c :: rest => c :: joined rest

/-- The string that a text between quotes stands for. -/
def unescape (raw : Str) : Option Str := (pieces raw).map joined

def quoted (raw : Str) : Str := 34 :: (raw ++ [34])

attribute [local simp] pieces joined

example : unescape (str "\\u00e9\\n\\uD83D\\uDE00") = some (str "é\n😀") := by decide

/-! ## Values -/

/-- Texts with a comma between any two. -/
def commaJoin : List Str → Str
  | [] => []
  | [x] => x
  | x :: y :: rest => x ++ 44 :: commaJoin (y :: rest)

attribute [local simp] commaJoin

/-- A value in an array, with the space around it. -/
structure Element where
  before : Str
  value : Str
  after : Str

namespace Element

def text (e : Element) : Str := e.before ++ (e.value ++ e.after)

structure Spaced (e : Element) : Prop where
  before : Ws e.before
  after : Ws e.after

end Element

/-- A member of an object, with the space around its name and its value. -/
structure Member where
  before : Str
  name : Str
  gap : Str
  gap' : Str
  value : Str
  after : Str

namespace Member

/-- What stands in front of the value. -/
def label (m : Member) : Str := m.before ++ (quoted m.name ++ (m.gap ++ 58 :: m.gap'))

def text (m : Member) : Str := m.label ++ (m.value ++ m.after)

/-- The name, decoded. -/
def decoded (m : Member) : Option Str := unescape m.name

structure Spaced (m : Member) : Prop where
  before : Ws m.before
  gap : Ws m.gap
  gap' : Ws m.gap'
  after : Ws m.after
  name : m.decoded.isSome = true

end Member

/-- A member without spaces. -/
def tight (name value : Str) : Member := ⟨[], name, [], [], value, []⟩

theorem tight_text (name value : Str) : (tight name value).text = quoted name ++ 58 :: value := by
  simp [tight, Member.text, Member.label]

theorem tight_spaced {name value : Str} (h : (unescape name).isSome = true) :
    (tight name value).Spaced :=
  ⟨by simp [Ws, tight], by simp [Ws, tight], by simp [Ws, tight], by simp [Ws, tight], h⟩

/-- `value`. -/
inductive IsValue : Str → Prop where
  | scalar {s : Str} (h : IsScalar s) : IsValue s
  | string {raw : Str} (h : (unescape raw).isSome = true) : IsValue (quoted raw)
  | emptyArray {w : Str} (h : Ws w) : IsValue (91 :: (w ++ [93]))
  | array {es : List Element} (hne : es ≠ []) (hspaced : ∀ e ∈ es, e.Spaced)
      (h : ∀ e ∈ es, IsValue e.value) : IsValue (91 :: (commaJoin (es.map Element.text) ++ [93]))
  | emptyObject {w : Str} (h : Ws w) : IsValue (123 :: (w ++ [125]))
  | object {ms : List Member} (hne : ms ≠ []) (hspaced : ∀ m ∈ ms, m.Spaced)
      (h : ∀ m ∈ ms, IsValue m.value) : IsValue (123 :: (commaJoin (ms.map Member.text) ++ [125]))

/-- The members between the braces of an object; where there are none there may be space. -/
inductive Members : Str → List Member → Prop where
  | none {w : Str} (h : Ws w) : Members w []
  | some {ms : List Member} (hne : ms ≠ []) (hspaced : ∀ m ∈ ms, m.Spaced)
      (h : ∀ m ∈ ms, IsValue m.value) : Members (commaJoin (ms.map Member.text)) ms

/-- An object, with its members. -/
def IsObject (s : Str) (ms : List Member) : Prop :=
  ∃ inner, s = 123 :: (inner ++ [125]) ∧ Members inner ms

theorem IsObject.isValue {s : Str} {ms : List Member} (h : IsObject s ms) : IsValue s := by
  obtain ⟨inner, rfl, hmembers⟩ := h
  cases hmembers with
  | none hw => exact .emptyObject hw
  | some hne hspaced hvalues => exact .object hne hspaced hvalues

/-- A JSON text that is an object: UTF-8, and space on both sides. -/
def IsObjectText (s : Str) (ms : List Member) : Prop :=
  validUtf8 s = true ∧ ∃ before object after, s = before ++ (object ++ after) ∧
    Ws before ∧ Ws after ∧ IsObject object ms

theorem IsObjectText.isValue_of_mem {text : Str} {ms : List Member} (h : IsObjectText text ms) :
    ∀ m ∈ ms, IsValue m.value := by
  obtain ⟨-, _, _, _, -, -, -, _, -, hmembers⟩ := h
  cases hmembers with
  | none => simp
  | some _ _ hvalues => exact hvalues

/-! ## Bytes -/

/-- A byte of a number or of a literal name. -/
def isScalarByte (c : UInt8) : Bool :=
  Uri.isAlpha c || Uri.isDigit c || c == 43 || c == 45 || c == 46

/-- A byte that neither quotes nor brackets, and separates nothing. -/
def isPlain (c : UInt8) : Bool := c != 34 && !isOpening c && !isClosing c && c != 44

theorem isScalarByte_spec {c : UInt8} (h : isScalarByte c = true) :
    isPlain c = true ∧ 32 ≤ c ∧ c < 128 ∧ c ≠ 92 := by
  revert c
  apply forall_byte
  decide +kernel

theorem isWs_spec {c : UInt8} (h : isWs c = true) : isPlain c = true ∧ c < 128 := by
  unfold isWs at h
  simp only [Bool.or_eq_true, beq_iff_eq] at h
  rcases h with ((rfl | rfl) | rfl) | rfl <;> decide

theorem Digits.scalarBytes {s : Str} (h : Digits s) : ∀ c ∈ s, isScalarByte c = true := by
  intro c hc
  unfold isScalarByte
  rw [h.2 c hc]
  simp

theorem IsExp.scalarBytes {s : Str} (h : IsExp s) : ∀ c ∈ s, isScalarByte c = true := by
  obtain ⟨e, sign, ds, rfl, he, hsign, hds⟩ := h
  intro c hc
  rcases List.mem_cons.mp hc with rfl | hc
  · rcases he with rfl | rfl <;> decide
  · rcases List.mem_append.mp hc with hc | hc
    · rcases hsign with rfl | rfl | rfl
      · cases hc
      · rw [List.mem_singleton.mp hc]
        decide
      · rw [List.mem_singleton.mp hc]
        decide
    · exact hds.scalarBytes c hc

theorem IsNumber.scalarBytes {s : Str} (h : IsNumber s) :
    s ≠ [] ∧ ∀ c ∈ s, isScalarByte c = true := by
  obtain ⟨minus, int, frac, exp, rfl, hminus, hint, hfrac, hexp⟩ := h
  constructor
  · have hne : int ≠ [] := by
      rcases hint with rfl | ⟨hdigits, -⟩
      · simp
      · exact hdigits.1
    simp [hne]
  · intro c hc
    simp only [List.mem_append] at hc
    rcases hc with hc | hc | hc | hc
    · rcases hminus with rfl | rfl
      · cases hc
      · rw [List.mem_singleton.mp hc]
        decide
    · rcases hint with rfl | ⟨hdigits, -⟩
      · rw [List.mem_singleton.mp hc]
        decide
      · exact hdigits.scalarBytes c hc
    · rcases hfrac with rfl | ⟨ds, rfl, hdigits⟩
      · cases hc
      · rcases List.mem_cons.mp hc with rfl | hc
        · decide
        · exact hdigits.scalarBytes c hc
    · rcases hexp with rfl | hexp
      · cases hc
      · exact hexp.scalarBytes c hc

theorem IsScalar.scalarBytes {s : Str} (h : IsScalar s) :
    s ≠ [] ∧ ∀ c ∈ s, isScalarByte c = true := by
  rcases h with rfl | rfl | rfl | hnumber
  · exact ⟨by decide, forall_mem_of_all (by decide)⟩
  · exact ⟨by decide, forall_mem_of_all (by decide)⟩
  · exact ⟨by decide, forall_mem_of_all (by decide)⟩
  · exact hnumber.scalarBytes

theorem hexDigit?_spec {c : UInt8} {n : Nat} (h : hexDigit? c = some n) :
    c ≠ 34 ∧ c ≠ 92 ∧ 32 ≤ c := by
  unfold hexDigit? at h
  refine ⟨?_, ?_, ?_⟩
  · rintro rfl
    exact absurd h (by simp)
  · rintro rfl
    exact absurd h (by simp)
  · split_ifs at h with hdigit hlower hupper
    · exact UInt8.le_trans (by decide) hdigit.1
    · exact UInt8.le_trans (by decide) hlower.1
    · exact UInt8.le_trans (by decide) hupper.1

/-- The four digits of a unit. -/
theorem hexUnit?_spec {a b c d : UInt8} {u : Nat} (h : hexUnit? a b c d = some u) :
    ∀ e ∈ [a, b, c, d], e ≠ 34 ∧ e ≠ 92 ∧ 32 ≤ e := by
  unfold hexUnit? at h
  obtain ⟨x, ha, h⟩ := Option.bind_eq_some_iff.mp h
  obtain ⟨y, hb, h⟩ := Option.bind_eq_some_iff.mp h
  obtain ⟨z, hc, h⟩ := Option.bind_eq_some_iff.mp h
  obtain ⟨w, hd, -⟩ := Option.bind_eq_some_iff.mp h
  simp only [List.forall_mem_cons, List.not_mem_nil, IsEmpty.forall_iff, implies_true, and_true]
  exact ⟨hexDigit?_spec ha, hexDigit?_spec hb, hexDigit?_spec hc, hexDigit?_spec hd⟩

theorem simpleEscape_ge {e : UInt8} (h : (simpleEscape e).isSome = true) : 32 ≤ e := by
  revert e
  apply forall_byte
  decide +kernel

/-- What a string is made of closes no quote, and has no control character. -/
theorem unquoted_of_pieces {raw : Str} {ps : List Piece} (h : pieces raw = some ps) :
    Unquoted raw ∧ ∀ c ∈ raw, 32 ≤ c := by
  induction raw using pieces.induct generalizing ps with
  | case1 => exact ⟨.nil, by simp⟩
  | case2 a b c d rest ih =>
      rw [pieces] at h
      obtain ⟨u, hu, h⟩ := Option.bind_eq_some_iff.mp h
      obtain ⟨tail, htail, -⟩ := Option.bind_eq_some_iff.mp h
      have hdigits := hexUnit?_spec hu
      simp only [List.forall_mem_cons, List.not_mem_nil, IsEmpty.forall_iff, implies_true,
        and_true] at hdigits
      obtain ⟨ha, hb, hc, hd⟩ := hdigits
      obtain ⟨hrest, hbytes⟩ := ih htail
      refine ⟨.escape 117 (.byte ha.1 ha.2.1 (.byte hb.1 hb.2.1 (.byte hc.1 hc.2.1
        (.byte hd.1 hd.2.1 hrest)))), ?_⟩
      simp only [List.forall_mem_cons]
      exact ⟨by decide, by decide, ha.2.2, hb.2.2, hc.2.2, hd.2.2, hbytes⟩
  | case3 e rest hother ih =>
      rw [pieces] at h
      · obtain ⟨c, hc, h⟩ := Option.bind_eq_some_iff.mp h
        obtain ⟨tail, htail, -⟩ := Option.bind_eq_some_iff.mp h
        obtain ⟨hrest, hbytes⟩ := ih htail
        refine ⟨.escape e hrest, ?_⟩
        simp only [List.forall_mem_cons]
        exact ⟨by decide, simpleEscape_ge (Option.isSome_of_mem hc), hbytes⟩
      · exact hother
  | case4 c rest hunit hescape hno =>
      rw [pieces, if_pos hno] at h
      · cases h
      · exact hunit
      · exact hescape
  | case5 c rest hunit hescape hplain ih =>
      rw [pieces, if_neg hplain] at h
      · obtain ⟨tail, htail, -⟩ := Option.map_eq_some_iff.mp h
        obtain ⟨hrest, hbytes⟩ := ih htail
        simp only [not_or, UInt8.not_lt] at hplain
        refine ⟨.byte hplain.2.1 hplain.2.2 hrest, ?_⟩
        simp only [List.forall_mem_cons]
        exact ⟨hplain.1, hbytes⟩
      · exact hunit
      · exact hescape

/-- A text without a backslash stands for itself. -/
theorem unescape_plain {s : Str} (h : ∀ c ∈ s, 32 ≤ c ∧ c ≠ 34 ∧ c ≠ 92) : unescape s = some s := by
  have hpieces : pieces s = some (s.map .byte) := by
    induction s with
    | nil => rfl
    | cons c s ih =>
        obtain ⟨hc, hs⟩ := List.forall_mem_cons.mp h
        have hno : ¬(c < 32 ∨ c = 34 ∨ c = 92) := by
          simp [UInt8.not_lt.mpr hc.1, hc.2.1, hc.2.2]
        rw [pieces, if_neg hno, ih hs]
        · rfl
        · exact fun _ _ _ _ _ hback => absurd hback hc.2.2
        · exact fun _ _ hback => absurd hback hc.2.2
  have hjoined (t : Str) : joined (t.map .byte) = t := by
    induction t with
    | nil => rfl
    | cons c t ih => rw [List.map_cons, joined, ih]
  unfold unescape
  rw [hpieces, Option.map_some, hjoined]

/-! ## Quotes and brackets -/

theorem enclosed_append {commas : Bool} {x y : Str} (hx : Enclosed commas x)
    (hy : Enclosed commas y) : Enclosed commas (x ++ y) := by
  induction hx with
  | nil => exact hy
  | byte hquote hopen hclose hcomma _ ih => exact .byte hquote hopen hclose hcomma (ih hy)
  | quotes htext _ ih =>
      rw [List.cons_append, List.append_assoc, List.cons_append]
      exact .quotes htext (ih hy)
  | brackets hopen hclose htext _ _ ih =>
      rw [List.cons_append, List.append_assoc, List.cons_append]
      exact .brackets hopen hclose htext (ih hy)

/-- Where commas are not allowed there are none where they are. -/
theorem enclosed_commas {commas : Bool} {x : Str} (h : Enclosed commas x) : Enclosed true x := by
  induction h with
  | nil => exact .nil
  | byte hquote hopen hclose _ _ ih => exact .byte hquote hopen hclose (fun _ => rfl) ih
  | quotes htext _ ih => exact .quotes htext ih
  | brackets hopen hclose htext _ _ ih => exact .brackets hopen hclose htext ih

theorem enclosed_of_plain {commas : Bool} {s : Str} (h : ∀ c ∈ s, isPlain c = true) :
    Enclosed commas s := by
  induction s with
  | nil => exact .nil
  | cons c s ih =>
      obtain ⟨hc, hs⟩ := List.forall_mem_cons.mp h
      unfold isPlain at hc
      simp only [Bool.and_eq_true, bne_iff_ne, Bool.not_eq_true'] at hc
      obtain ⟨⟨⟨hquote, hopen⟩, hclose⟩, hcomma⟩ := hc
      exact .byte hquote hopen hclose (fun heq => absurd heq hcomma) (ih hs)

theorem Ws.plain {w : Str} (h : Ws w) : ∀ c ∈ w, isPlain c = true :=
  fun c hc => (isWs_spec (h c hc)).1

theorem enclosed_quoted {commas : Bool} {raw : Str} (h : (unescape raw).isSome = true) :
    Enclosed commas (quoted raw) := by
  unfold unescape at h
  rw [Option.isSome_map] at h
  obtain ⟨ps, hps⟩ := Option.isSome_iff_exists.mp h
  exact .quotes (unquoted_of_pieces hps).1 .nil

theorem enclosed_label {m : Member} (h : m.Spaced) {commas : Bool} : Enclosed commas m.label := by
  have hcolon : Enclosed commas (58 :: m.gap') :=
    enclosed_of_plain (List.forall_mem_cons.mpr ⟨by decide, h.gap'.plain⟩)
  exact enclosed_append (enclosed_of_plain h.before.plain)
    (enclosed_append (enclosed_quoted h.name)
      (enclosed_append (enclosed_of_plain h.gap.plain) hcolon))

theorem enclosed_commaJoin {parts : List Str} (h : ∀ x ∈ parts, Enclosed true x) :
    Enclosed true (commaJoin parts) := by
  induction parts with
  | nil => exact .nil
  | cons x rest ih =>
      obtain ⟨hx, hrest⟩ := List.forall_mem_cons.mp h
      cases rest with
      | nil => exact hx
      | cons y rest =>
          exact enclosed_append hx (.byte (by decide) (by decide) (by decide) (fun _ => rfl)
            (ih hrest))

theorem Element.Spaced.enclosed {e : Element} (h : e.Spaced) (hvalue : Enclosed true e.value) :
    Enclosed true e.text :=
  enclosed_append (enclosed_of_plain h.before.plain)
    (enclosed_append hvalue (enclosed_of_plain h.after.plain))

theorem Member.Spaced.enclosed {m : Member} (h : m.Spaced) (hvalue : Enclosed true m.value) :
    Enclosed true m.text :=
  enclosed_append (enclosed_label h) (enclosed_append hvalue (enclosed_of_plain h.after.plain))

/-- A value closes what it opens, and its commas stand inside. -/
theorem IsValue.enclosed {s : Str} (h : IsValue s) : Enclosed false s := by
  induction h with
  | scalar hscalar =>
      exact enclosed_of_plain fun c hc => (isScalarByte_spec (hscalar.scalarBytes.2 c hc)).1
  | string hraw => exact enclosed_quoted hraw
  | emptyArray hw =>
      exact .brackets (by decide) (by decide) (enclosed_of_plain hw.plain) .nil
  | array _ hspaced _ ih =>
      refine .brackets (by decide) (by decide) (enclosed_commaJoin fun x hx => ?_) .nil
      obtain ⟨e, he, rfl⟩ := List.mem_map.mp hx
      exact (hspaced e he).enclosed (enclosed_commas (ih e he))
  | emptyObject hw =>
      exact .brackets (by decide) (by decide) (enclosed_of_plain hw.plain) .nil
  | object _ hspaced _ ih =>
      refine .brackets (by decide) (by decide) (enclosed_commaJoin fun x hx => ?_) .nil
      obtain ⟨m, hm, rfl⟩ := List.mem_map.mp hx
      exact (hspaced m hm).enclosed (enclosed_commas (ih m hm))

theorem IsValue.ne_nil {s : Str} (h : IsValue s) : s ≠ [] := by
  cases h with
  | scalar hscalar => exact hscalar.scalarBytes.1
  | _ => exact List.cons_ne_nil _ _

/-! ## Bytes outside of strings -/

/-- The bytes that stand outside of strings; the text before has opened a quote if `quoted`. -/
def bare : Bool → Str → Str
  | _, [] => []
  | true, 92 :: _ :: rest => bare true rest
  | true, c :: rest => bare (c != 34) rest
  | false, c :: rest => if c = 34 then bare true rest else c :: bare false rest

attribute [local simp] bare

theorem bare_unquoted {text : Str} (h : Unquoted text) (r : Str) :
    bare true (text ++ 34 :: r) = bare false r := by
  induction h with
  | nil => simp
  | byte hquote hback _ ih =>
      rename_i c rest _
      rw [List.cons_append, bare]
      · rw [bne_iff_ne.mpr hquote, ih]
      · intro _ _ hc
        exact absurd hc hback
  | escape c _ ih =>
      simp only [List.cons_append]
      rw [bare, ih]

/-- An enclosed text is passed over, and the reader is outside of strings again. -/
theorem bare_enclosed {commas : Bool} {x : Str} (h : Enclosed commas x) (r : Str) :
    bare false (x ++ r) = bare false x ++ bare false r := by
  induction h generalizing r with
  | nil => rfl
  | byte hquote _ _ _ _ ih =>
      rw [List.cons_append, bare, if_neg hquote, bare, if_neg hquote, ih, List.cons_append]
  | quotes htext _ ih =>
      rw [List.cons_append, bare, if_pos rfl, bare, if_pos rfl, List.append_assoc, List.cons_append,
        bare_unquoted htext, bare_unquoted htext, ih]
  | brackets hopen hclose _ _ ihtext ih =>
      rename_i o c text rest _ _
      have ho : o ≠ 34 := by
        rintro rfl
        exact absurd hopen (by decide)
      have hc : c ≠ 34 := by
        rintro rfl
        exact absurd hclose (by decide)
      rw [List.cons_append, bare, if_neg ho, bare, if_neg ho, List.append_assoc, ihtext,
        List.cons_append, bare, if_neg hc, ih, ihtext, bare, if_neg hc]
      simp

end Axiam.JsonText
