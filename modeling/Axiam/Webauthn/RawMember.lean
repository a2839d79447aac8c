import Axiam.Core.JsonGrammar

/-!
# A member of a body, as it is written

`raw_member` (`src/webauthn.cpp`) lifts the text of a value out of a JSON object: it looks for the
quoted key at depth 1, and takes what stands behind it to the end of the value.  It does not tell
the name of a member from a string that is a value, it compares spellings, and of a number or a
literal name it takes the space behind it too.
-/

namespace Axiam.Webauthn

open Axiam.JsonText

/-! ## The scanner -/

/-- `std::isspace` of the classic locale. -/
def isspace (c : UInt8) : Bool := c == 32 || (9 ≤ c && c ≤ 13)

/-- What follows the needle where it is found outside of strings at depth 1. -/
def findKey (needle : Str) : Int → Bool → Str → Option Str
  | _, _, [] => none
  | depth, true, 92 :: _ :: rest => findKey needle depth true rest
  | depth, true, c :: rest => findKey needle depth (c != 34) rest
  | depth, false, c :: rest =>
      if c = 34 then
        if depth = 1 ∧ needle.isPrefixOf (c :: rest) then
          some ((c :: rest).drop needle.length)
        else findKey needle depth true rest
      else if isOpening c then findKey needle (depth + 1) false rest
      else if isClosing c then findKey needle (depth - 1) false rest
      else findKey needle depth false rest

/-- The value that begins here: to the quote or the bracket that closes it, or up to what ends
the member. -/
def takeValue : Int → Bool → Str → Str
  | _, _, [] => []
  | depth, true, 92 :: c :: rest => 92 :: c :: takeValue depth true rest
  | depth, true, c :: rest =>
      if c = 34 then
        if depth = 0 then [c] else c :: takeValue depth false rest
      else c :: takeValue depth true rest
  | depth, false, c :: rest =>
      if c = 34 then c :: takeValue depth true rest
      else if isOpening c then c :: takeValue (depth + 1) false rest
      else if isClosing c then
        if depth - 1 = 0 then [c]
        else if depth - 1 < 0 then []
        else c :: takeValue (depth - 1) false rest
      else if depth = 0 ∧ c = 44 then []
      else c :: takeValue depth false rest

/-- `raw_member`. -/
def rawMember (body key : Str) : Option Str :=
  match findKey (34 :: (key ++ [34])) 0 false body with
  | none => none
  | some rest =>
      let rest := rest.dropWhile fun c => isspace c || c == 58
      if rest = [] then none else some (takeValue 0 false rest)

attribute [local simp] findKey takeValue

example : rawMember (str "\x7b\"a\":\x7b\"k\":1\x7d, \"k\" : [2, 3] \x7d") (str "k") =
    some (str "[2, 3]") := by
  decide

/-! ## Passing over text -/

section

variable {needle key : Str}

theorem findKey_unquoted {text : Str} (h : Unquoted text) (depth : Int) (r : Str) :
    findKey needle depth true (text ++ 34 :: r) = findKey needle depth false r := by
  induction h with
  | nil => simp
  | byte hquote hback _ ih =>
      rename_i c rest _
      rw [List.cons_append, findKey]
      · rw [bne_iff_ne.mpr hquote, ih]
      · intro _ _ hc
        exact absurd hc hback
  | escape c _ ih =>
      simp only [List.cons_append]
      rw [findKey, ih]

theorem isPlain_spec {c : UInt8} (h : isPlain c = true) :
    c ≠ 34 ∧ isOpening c = false ∧ isClosing c = false ∧ c ≠ 44 := by
  unfold isPlain at h
  simp only [Bool.and_eq_true, bne_iff_ne, Bool.not_eq_true'] at h
  exact ⟨h.1.1.1, h.1.1.2, h.1.2, h.2⟩

/-- Outside of strings and brackets the scanner reads on; a comma is nothing to it. -/
theorem findKey_skip {c : UInt8} (hquote : c ≠ 34) (hopen : isOpening c = false)
    (hclose : isClosing c = false) (depth : Int) (r : Str) :
    findKey needle depth false (c :: r) = findKey needle depth false r := by
  rw [findKey, if_neg hquote, hopen, hclose, if_neg Bool.false_ne_true, if_neg Bool.false_ne_true]

theorem findKey_plain {s : Str} (h : ∀ c ∈ s, isPlain c = true) (depth : Int) (r : Str) :
    findKey needle depth false (s ++ r) = findKey needle depth false r := by
  induction s with
  | nil => rfl
  | cons c s ih =>
      obtain ⟨hc, hs⟩ := List.forall_mem_cons.mp h
      obtain ⟨hquote, hopen, hclose, -⟩ := isPlain_spec hc
      rw [List.cons_append, findKey_skip hquote hopen hclose, ih hs]

/-- Below the top level nothing is found. -/
theorem findKey_enclosed {commas : Bool} {x : Str} (h : Enclosed commas x) {depth : Int}
    (hdepth : 2 ≤ depth) (r : Str) :
    findKey needle depth false (x ++ r) = findKey needle depth false r := by
  induction h generalizing depth r with
  | nil => rfl
  | byte hquote hopen hclose _ _ ih =>
      rw [List.cons_append, findKey_skip hquote hopen hclose, ih hdepth]
  | quotes htext _ ih =>
      have hdeep : depth ≠ 1 := by omega
      rw [List.cons_append, List.append_assoc, List.cons_append, findKey, if_pos rfl,
        if_neg (fun htop => hdeep htop.1), findKey_unquoted htext, ih hdepth]
  | brackets hopen hclose _ _ ihtext ih =>
      rename_i o c text rest _ _
      have ho : o ≠ 34 := by
        rintro rfl
        exact absurd hopen (by decide)
      have hc : c ≠ 34 ∧ isOpening c = false := by
        unfold isClosing at hclose
        rw [Bool.or_eq_true, beq_iff_eq, beq_iff_eq] at hclose
        rcases hclose with rfl | rfl <;> decide
      rw [List.cons_append, findKey, if_neg ho, if_pos hopen, List.append_assoc,
        ihtext (by omega), List.cons_append, findKey, if_neg hc.1, hc.2, if_neg Bool.false_ne_true,
        if_pos hclose, Int.add_sub_cancel, ih hdepth]

/-- A key that stands for itself between quotes. -/
def PlainKey (key : Str) : Prop := ∀ c ∈ key, 32 ≤ c ∧ c ≠ 34 ∧ c ≠ 92

/-- A string begins with the quoted key when it is the quoted key. -/
theorem needle_isPrefixOf_iff (hkey : PlainKey key) {text : Str} (h : Unquoted text) (r : Str) :
    (34 :: (key ++ [34])).isPrefixOf (34 :: (text ++ 34 :: r)) = true ↔ text = key := by
  have hinner : (key ++ [34]).isPrefixOf (text ++ 34 :: r) = true ↔ text = key := by
    induction h generalizing key with
    | nil =>
        cases key with
        | nil => simp
        | cons d key =>
            have hd := (hkey d List.mem_cons_self).2.1
            simp [hd]
    | byte hquote _ _ ih =>
        cases key with
        | nil => simp [Ne.symm hquote]
        | cons d key =>
            have hrest := @ih key fun c hc => hkey c (List.mem_cons_of_mem d hc)
            simp only [List.cons_append, List.isPrefixOf, Bool.and_eq_true, beq_iff_eq, hrest,
              List.cons.injEq]
            exact and_congr eq_comm Iff.rfl
    | escape c _ _ =>
        cases key with
        | nil => simp
        | cons d key =>
            have hd := (hkey d List.mem_cons_self).2.2
            simp [hd, Ne.symm hd]
  rw [List.isPrefixOf, Bool.and_eq_true, hinner]
  simp

theorem unquoted_of_unescape {raw : Str} (h : (unescape raw).isSome = true) : Unquoted raw := by
  unfold unescape at h
  rw [Option.isSome_map] at h
  obtain ⟨ps, hps⟩ := Option.isSome_iff_exists.mp h
  exact (unquoted_of_pieces hps).1

/-- A string at the top level is the key, or is passed over. -/
theorem findKey_quoted (hkey : PlainKey key) {raw : Str} (h : (unescape raw).isSome = true)
    (r : Str) :
    findKey (34 :: (key ++ [34])) 1 false (quoted raw ++ r) =
      if raw = key then some r else findKey (34 :: (key ++ [34])) 1 false r := by
  have htext := unquoted_of_unescape h
  have hquoted : quoted raw ++ r = 34 :: (raw ++ 34 :: r) := by simp [quoted]
  rw [hquoted, findKey, if_pos rfl]
  by_cases hraw : raw = key
  · rw [if_pos ⟨rfl, (needle_isPrefixOf_iff hkey htext r).mpr hraw⟩, if_pos hraw, hraw]
    simp
  · rw [if_neg fun hfound => hraw ((needle_isPrefixOf_iff hkey htext r).mp hfound.2), if_neg hraw,
      findKey_unquoted htext]

/-! ## The members of an object -/

/-- The first byte of a value tells strings, arrays and objects from the rest. -/
theorem value_cases {s : Str} (h : IsValue s) :
    IsScalar s ∨ (∃ raw, (unescape raw).isSome = true ∧ s = quoted raw) ∨
      ∃ o text c, s = o :: (text ++ [c]) ∧ isOpening o = true ∧ isClosing c = true ∧
        Enclosed true text := by
  cases h with
  | scalar hscalar => exact .inl hscalar
  | string hraw => exact .inr (.inl ⟨_, hraw, rfl⟩)
  | emptyArray hw => exact .inr (.inr ⟨91, _, 93, rfl, rfl, rfl, enclosed_of_plain hw.plain⟩)
  | array hne hspaced hvalues =>
      refine .inr (.inr ⟨91, _, 93, rfl, rfl, rfl, enclosed_commaJoin fun x hx => ?_⟩)
      obtain ⟨e, he, rfl⟩ := List.mem_map.mp hx
      exact (hspaced e he).enclosed (enclosed_commas (hvalues e he).enclosed)
  | emptyObject hw => exact .inr (.inr ⟨123, _, 125, rfl, rfl, rfl, enclosed_of_plain hw.plain⟩)
  | object hne hspaced hvalues =>
      refine .inr (.inr ⟨123, _, 125, rfl, rfl, rfl, enclosed_commaJoin fun x hx => ?_⟩)
      obtain ⟨m, hm, rfl⟩ := List.mem_map.mp hx
      exact (hspaced m hm).enclosed (enclosed_commas (hvalues m hm).enclosed)

/-- A value at the top level is the quoted key, or is passed over. -/
theorem findKey_value (hkey : PlainKey key) {s : Str} (h : IsValue s) (r : Str) :
    findKey (34 :: (key ++ [34])) 1 false (s ++ r) =
      if s = quoted key then some r else findKey (34 :: (key ++ [34])) 1 false r := by
  rcases value_cases h with hscalar | ⟨raw, hraw, rfl⟩ | ⟨o, text, c, rfl, hopen, hclose, htext⟩
  · obtain ⟨hne, hbytes⟩ := hscalar.scalarBytes
    have hplain : ∀ c ∈ s, isPlain c = true := fun c hc => (isScalarByte_spec (hbytes c hc)).1
    have hother : s ≠ quoted key := by
      intro heq
      have hquote := hplain 34 (heq ▸ List.mem_cons_self)
      exact absurd hquote (by decide)
    rw [if_neg hother, findKey_plain hplain]
  · rw [findKey_quoted hkey hraw]
    refine if_congr ?_ rfl rfl
    simp [quoted]
  · have ho : o ≠ 34 := by
      rintro rfl
      exact absurd hopen (by decide)
    have hc : c ≠ 34 ∧ isOpening c = false := by
      unfold isClosing at hclose
      rw [Bool.or_eq_true, beq_iff_eq, beq_iff_eq] at hclose
      rcases hclose with rfl | rfl <;> decide
    have hother : o :: (text ++ [c]) ≠ quoted key := fun heq => ho (List.cons.inj heq).1
    rw [if_neg hother, List.cons_append, List.append_assoc, List.singleton_append, findKey,
      if_neg ho, if_pos hopen, findKey_enclosed htext (by omega), findKey, if_neg hc.1, hc.2,
      if_neg Bool.false_ne_true, if_pos hclose, Int.add_sub_cancel]

/-- What follows the needle in front of what a member's text is followed by. -/
def behind (key : Str) (m : Member) (r : Str) : Option Str :=
  if m.name = key then some (m.gap ++ 58 :: (m.gap' ++ (m.value ++ (m.after ++ r))))
  else if m.value = quoted key then some (m.after ++ r)
  else none

/-- The scanner finds the key in a member, or passes it over. -/
theorem findKey_member (hkey : PlainKey key) {m : Member} (hspaced : m.Spaced)
    (hvalue : IsValue m.value) (r : Str) :
    findKey (34 :: (key ++ [34])) 1 false (m.text ++ r) =
      (behind key m r).or (findKey (34 :: (key ++ [34])) 1 false r) := by
  have htext : m.text ++ r = m.before ++ (quoted m.name ++ (m.gap ++ 58 :: (m.gap' ++
      (m.value ++ (m.after ++ r))))) := by
    simp [Member.text, Member.label]
  unfold behind
  rw [htext, findKey_plain hspaced.before.plain, findKey_quoted hkey hspaced.name]
  by_cases hname : m.name = key
  · rw [if_pos hname, if_pos hname, Option.some_or]
  · rw [if_neg hname, if_neg hname, findKey_plain hspaced.gap.plain,
      findKey_skip (by decide) (by decide) (by decide), findKey_plain hspaced.gap'.plain,
      findKey_value hkey hvalue, findKey_plain hspaced.after.plain]
    by_cases hother : m.value = quoted key
    · rw [if_pos hother, if_pos hother, Option.some_or]
    · rw [if_neg hother, if_neg hother, Option.none_or]

/-- What the scanner finds in members, each behind a comma. -/
def found (key : Str) : List Member → Str → Option Str
  | [], _ => none
  | m :: rest, r => (behind key m (rest.flatMap (fun n => 44 :: n.text) ++ r)).or (found key rest r)

theorem findKey_members (hkey : PlainKey key) {ms : List Member} (hspaced : ∀ m ∈ ms, m.Spaced)
    (hvalues : ∀ m ∈ ms, IsValue m.value) (r : Str) :
    findKey (34 :: (key ++ [34])) 1 false (ms.flatMap (fun n => 44 :: n.text) ++ r) =
      (found key ms r).or (findKey (34 :: (key ++ [34])) 1 false r) := by
  induction ms with
  | nil => rfl
  | cons m rest ih =>
      obtain ⟨hm, hrest⟩ := List.forall_mem_cons.mp hspaced
      obtain ⟨hv, hvs⟩ := List.forall_mem_cons.mp hvalues
      rw [List.flatMap_cons, List.cons_append, List.cons_append,
        findKey_skip (by decide) (by decide) (by decide), List.append_assoc,
        findKey_member hkey hm hv, ih hrest hvs, found, Option.or_assoc]

theorem commaJoin_cons (m : Member) (rest : List Member) :
    commaJoin ((m :: rest).map Member.text) =
      m.text ++ rest.flatMap (fun n => 44 :: n.text) := by
  induction rest generalizing m with
  | nil => simp [commaJoin]
  | cons n rest ih =>
      have hstep : commaJoin ((m :: n :: rest).map Member.text) =
          m.text ++ 44 :: commaJoin ((n :: rest).map Member.text) := rfl
      rw [hstep, ih, List.flatMap_cons, List.cons_append]

/-- And what it finds in an object. -/
theorem findKey_object (hkey : PlainKey key) {text : Str} {ms : List Member}
    (h : IsObjectText text ms) :
    ∃ after, findKey (34 :: (key ++ [34])) 0 false text = found key ms (125 :: after) := by
  obtain ⟨-, before, object, after, rfl, hbefore, hafter, inner, rfl, hmembers⟩ := h
  refine ⟨after, ?_⟩
  have hend : findKey (34 :: (key ++ [34])) 1 false (125 :: after) = none := by
    rw [findKey, if_neg (by decide), if_neg (by decide), if_pos (by decide)]
    have hskip := @findKey_plain (34 :: (key ++ [34])) after hafter.plain 0 []
    rwa [List.append_nil] at hskip
  rw [findKey_plain hbefore.plain, List.cons_append, findKey, if_neg (by decide),
    if_pos (by decide), List.append_assoc, List.singleton_append]
  cases hmembers with
  | none hw =>
      rw [findKey_plain hw.plain]
      exact hend
  | some hne hspaced hvalues =>
      obtain ⟨m, rest, rfl⟩ := List.exists_cons_of_ne_nil hne
      obtain ⟨hm, hrest⟩ := List.forall_mem_cons.mp hspaced
      obtain ⟨hv, hvs⟩ := List.forall_mem_cons.mp hvalues
      have hdepth : (0 : Int) + 1 = 1 := rfl
      rw [commaJoin_cons, List.append_assoc, hdepth, findKey_member hkey hm hv,
        findKey_members hkey hrest hvs, hend, Option.or_none, found]

/-! ## The end of a value -/

theorem takeValue_unquoted {text : Str} (h : Unquoted text) (depth : Int) (r : Str) :
    takeValue depth true (text ++ 34 :: r) =
      text ++ 34 :: (if depth = 0 then [] else takeValue depth false r) := by
  induction h with
  | nil =>
      rw [List.nil_append, takeValue, if_pos rfl]
      · split <;> rfl
      · intro _ _ hc
        exact absurd hc (by decide)
  | byte hquote hback _ ih =>
      rw [List.cons_append, takeValue, if_neg hquote, ih]
      · rfl
      · intro _ _ hc
        exact absurd hc hback
  | escape c _ ih =>
      simp only [List.cons_append]
      rw [takeValue, ih]

/-- Inside of brackets everything is taken. -/
theorem takeValue_enclosed {commas : Bool} {x : Str} (h : Enclosed commas x) {depth : Int}
    (hdepth : 1 ≤ depth) (r : Str) :
    takeValue depth false (x ++ r) = x ++ takeValue depth false r := by
  induction h generalizing depth r with
  | nil => rfl
  | byte hquote hopen hclose _ _ ih =>
      have htop : depth ≠ 0 := by omega
      rw [List.cons_append, takeValue, if_neg hquote, hopen, hclose, if_neg Bool.false_ne_true,
        if_neg Bool.false_ne_true, if_neg (fun hend => htop hend.1), ih hdepth, List.cons_append]
  | quotes htext _ ih =>
      rw [List.cons_append, takeValue, if_pos rfl, List.append_assoc, List.cons_append,
        takeValue_unquoted htext, if_neg (by omega), ih hdepth]
      simp
  | brackets hopen hclose _ _ ihtext ih =>
      rename_i o c text rest _ _
      have ho : o ≠ 34 := by
        rintro rfl
        exact absurd hopen (by decide)
      have hc : c ≠ 34 ∧ isOpening c = false := by
        unfold isClosing at hclose
        rw [Bool.or_eq_true, beq_iff_eq, beq_iff_eq] at hclose
        rcases hclose with rfl | rfl <;> decide
      rw [List.cons_append, takeValue, if_neg ho, if_pos hopen, List.append_assoc,
        ihtext (by omega), List.cons_append, takeValue, if_neg hc.1, hc.2,
        if_neg Bool.false_ne_true, if_pos hclose, Int.add_sub_cancel, if_neg (by omega),
        if_neg (by omega), ih hdepth]
      simp

theorem takeValue_plain {s : Str} (h : ∀ c ∈ s, isPlain c = true) (r : Str) :
    takeValue 0 false (s ++ r) = s ++ takeValue 0 false r := by
  induction s with
  | nil => rfl
  | cons c s ih =>
      obtain ⟨hc, hs⟩ := List.forall_mem_cons.mp h
      obtain ⟨hquote, hopen, hclose, hcomma⟩ := isPlain_spec hc
      rw [List.cons_append, takeValue, if_neg hquote, hopen, hclose, if_neg Bool.false_ne_true,
        if_neg Bool.false_ne_true, if_neg (fun hend => hcomma hend.2), ih hs, List.cons_append]

/-- A text that begins with a byte of a number or of a literal name. -/
def isScalarText (s : Str) : Bool := s.head?.any isScalarByte

/-- What is taken of a member's value: the space behind it too, where nothing closes it. -/
def written (m : Member) : Str := if isScalarText m.value then m.value ++ m.after else m.value

/-- What may follow the text of a member. -/
def Ends (r : Str) : Prop := ∃ rest, r = 44 :: rest ∨ r = 125 :: rest

theorem takeValue_of_ends {r : Str} (h : Ends r) : takeValue 0 false r = [] := by
  obtain ⟨rest, rfl | rfl⟩ := h
  · rw [takeValue, if_neg (by decide), if_neg (by decide), if_neg (by decide), if_pos ⟨rfl, rfl⟩]
  · rw [takeValue, if_neg (by decide), if_neg (by decide), if_pos (by decide), if_neg (by decide),
      if_pos (by decide)]

theorem takeValue_member {m : Member} (hspaced : m.Spaced) (hvalue : IsValue m.value) {r : Str}
    (hr : Ends r) : takeValue 0 false (m.value ++ (m.after ++ r)) = written m := by
  unfold written
  rcases value_cases hvalue with hscalar | ⟨raw, hraw, heq⟩ | ⟨o, text, c, heq, hopen, hclose, htext⟩
  · obtain ⟨hne, hbytes⟩ := hscalar.scalarBytes
    obtain ⟨first, more, hfirst⟩ := List.exists_cons_of_ne_nil hne
    have hstart : isScalarText m.value = true := by
      rw [hfirst] at hbytes ⊢
      simp [isScalarText, hbytes first List.mem_cons_self]
    rw [takeValue_plain fun c hc => (isScalarByte_spec (hbytes c hc)).1,
      takeValue_plain hspaced.after.plain, takeValue_of_ends hr, hstart, if_pos rfl,
      List.append_nil]
  · have hstart : isScalarText m.value = false := by
      rw [heq]
      rfl
    have hquoted : m.value ++ (m.after ++ r) = 34 :: (raw ++ 34 :: (m.after ++ r)) := by
      simp [heq, quoted]
    rw [hquoted, takeValue, if_pos rfl, takeValue_unquoted (unquoted_of_unescape hraw), if_pos rfl,
      hstart, if_neg Bool.false_ne_true, heq]
    rfl
  · have ho : o ≠ 34 ∧ isScalarByte o = false := by
      unfold isOpening at hopen
      rw [Bool.or_eq_true, beq_iff_eq, beq_iff_eq] at hopen
      rcases hopen with rfl | rfl <;> decide
    have hc : c ≠ 34 ∧ isOpening c = false := by
      unfold isClosing at hclose
      rw [Bool.or_eq_true, beq_iff_eq, beq_iff_eq] at hclose
      rcases hclose with rfl | rfl <;> decide
    have hstart : isScalarText m.value = false := by
      rw [heq]
      simp [isScalarText, ho.2]
    rw [heq, List.cons_append, List.append_assoc, List.singleton_append, takeValue, if_neg ho.1,
      if_pos hopen, takeValue_enclosed htext (by omega), takeValue, if_neg hc.1, hc.2,
      if_neg Bool.false_ne_true, if_pos hclose, if_pos (by omega), ← heq, hstart,
      if_neg Bool.false_ne_true, heq]

/-! ## What is read -/

/-- What `raw_member` reads of members: the value of the one whose name is spelled as the key, and
nothing, but as a text, where a value before it is the key. -/
def readMember (key : Str) : List Member → Option Str
  | [] => none
  | m :: rest =>
      if m.name = key then some (written m)
      else if m.value = quoted key then some []
      else readMember key rest

theorem isspace_of_isWs {c : UInt8} (h : isWs c = true) : (isspace c || c == 58) = true := by
  unfold isWs at h
  simp only [Bool.or_eq_true, beq_iff_eq] at h
  rcases h with ((rfl | rfl) | rfl) | rfl <;> decide

theorem isScalarByte_stops {c : UInt8} (h : isScalarByte c = true) :
    (isspace c || c == 58) = false := by
  revert c
  apply forall_byte
  decide +kernel

/-- No value begins with a space or a colon. -/
theorem value_stops {s : Str} (h : IsValue s) :
    ∃ c rest, s = c :: rest ∧ (isspace c || c == 58) = false := by
  rcases value_cases h with hscalar | ⟨raw, -, rfl⟩ | ⟨o, text, c, rfl, hopen, -⟩
  · obtain ⟨hne, hbytes⟩ := hscalar.scalarBytes
    obtain ⟨c, rest, rfl⟩ := List.exists_cons_of_ne_nil hne
    exact ⟨c, rest, rfl, isScalarByte_stops (hbytes c List.mem_cons_self)⟩
  · exact ⟨34, _, rfl, by decide⟩
  · refine ⟨o, _, rfl, ?_⟩
    unfold isOpening at hopen
    rw [Bool.or_eq_true, beq_iff_eq, beq_iff_eq] at hopen
    rcases hopen with rfl | rfl <;> decide

/-- What is made of what the scanner finds. -/
def lift (rest : Str) : Option Str :=
  let rest := rest.dropWhile fun c => isspace c || c == 58
  if rest = [] then none else some (takeValue 0 false rest)

theorem lift_skip {w rest : Str} {c : UInt8} (hw : ∀ d ∈ w, (isspace d || d == 58) = true)
    (hc : (isspace c || c == 58) = false) :
    lift (w ++ c :: rest) = some (takeValue 0 false (c :: rest)) := by
  unfold lift
  rw [List.dropWhile_append_of_pos hw, List.dropWhile_cons_of_neg (by simp [hc])]
  simp

theorem rawMember_eq_bind (body key : Str) :
    rawMember body key = (findKey (34 :: (key ++ [34])) 0 false body).bind lift := by
  unfold rawMember
  cases findKey (34 :: (key ++ [34])) 0 false body <;> rfl

theorem behind_lift {m : Member} (hspaced : m.Spaced) (hvalue : IsValue m.value) {r : Str}
    (hr : Ends r) : (behind key m r).bind lift =
      if m.name = key then some (written m) else if m.value = quoted key then some [] else none := by
  unfold behind
  split
  · -- behind the name: a colon and spaces, then the value
    obtain ⟨c, rest, hvalueText, hc⟩ := value_stops hvalue
    have hskip : ∀ d ∈ m.gap ++ 58 :: m.gap', (isspace d || d == 58) = true := by
      intro d hd
      rcases List.mem_append.mp hd with hd | hd
      · exact isspace_of_isWs (hspaced.gap d hd)
      · rcases List.mem_cons.mp hd with rfl | hd
        · rfl
        · exact isspace_of_isWs (hspaced.gap' d hd)
    have htext : m.gap ++ 58 :: (m.gap' ++ (m.value ++ (m.after ++ r))) =
        (m.gap ++ 58 :: m.gap') ++ c :: (rest ++ (m.after ++ r)) := by
      simp [hvalueText]
    rw [Option.bind_some, htext, lift_skip hskip hc, ← takeValue_member hspaced hvalue hr,
      hvalueText, List.cons_append]
  · split
    · -- behind the value: spaces, and what ends the member
      have hspace : ∀ d ∈ m.after, (isspace d || d == 58) = true := fun d hd =>
        isspace_of_isWs (hspaced.after d hd)
      obtain ⟨rest, hrest⟩ := hr
      rcases hrest with rfl | rfl
      · rw [Option.bind_some, lift_skip hspace (by decide), takeValue_of_ends ⟨rest, .inl rfl⟩]
      · rw [Option.bind_some, lift_skip hspace (by decide), takeValue_of_ends ⟨rest, .inr rfl⟩]
    · rfl

theorem behind_eq_none_iff {m : Member} {r : Str} :
    behind key m r = none ↔ m.name ≠ key ∧ m.value ≠ quoted key := by
  unfold behind
  split
  next h => simp [h]
  next h =>
    split
    next h' => simp [h']
    next h' => simp [h, h']

theorem found_lift {ms : List Member} (hspaced : ∀ m ∈ ms, m.Spaced)
    (hvalues : ∀ m ∈ ms, IsValue m.value) {r : Str} (hr : Ends r) :
    (found key ms r).bind lift = readMember key ms := by
  induction ms with
  | nil => rfl
  | cons m rest ih =>
      obtain ⟨hm, hrest⟩ := List.forall_mem_cons.mp hspaced
      obtain ⟨hv, hvs⟩ := List.forall_mem_cons.mp hvalues
      have hends : Ends (rest.flatMap (fun n => 44 :: n.text) ++ r) := by
        cases rest with
        | nil => exact hr
        | cons n rest => exact ⟨_, .inl rfl⟩
      have hlift := @behind_lift key m hm hv _ hends
      rw [found, readMember]
      cases hbehind : behind key m (rest.flatMap (fun n => 44 :: n.text) ++ r) with
      | none =>
          obtain ⟨hname, hvalue⟩ := behind_eq_none_iff.mp hbehind
          rw [Option.none_or, ih hrest hvs, if_neg hname, if_neg hvalue]
      | some rest' =>
          rw [hbehind] at hlift
          rw [Option.some_or, hlift]
          by_cases hname : m.name = key
          · rw [if_pos hname, if_pos hname]
          · rw [if_neg hname, if_neg hname]
            by_cases hvalue : m.value = quoted key
            · rw [if_pos hvalue, if_pos hvalue]
            · rw [behind_eq_none_iff.mpr ⟨hname, hvalue⟩] at hbehind
              cases hbehind

/-- What `raw_member` reads of an object. -/
theorem rawMember_eq (hkey : PlainKey key) {text : Str} {ms : List Member}
    (h : IsObjectText text ms) : rawMember text key = readMember key ms := by
  obtain ⟨after, hfind⟩ := findKey_object hkey h
  obtain ⟨-, _, _, _, -, -, -, _, -, hmembers⟩ := h
  rw [rawMember_eq_bind, hfind]
  cases hmembers with
  | none => rfl
  | some _ hspaced hvalues => exact found_lift hspaced hvalues ⟨after, .inr rfl⟩

/-! ## When that is the member -/

/-- The text of the value of the member whose name is the key. -/
def valueOf (key : Str) (ms : List Member) : Option Str :=
  (ms.find? fun m => m.decoded == some key).map Member.value

/-- No value in front of the member is the key, its name is spelled without an escape, and nothing
stands behind it if no quote and no bracket ends it. -/
structure Readable (key : Str) (ms : List Member) : Prop where
  values : ∀ m ∈ ms.takeWhile fun m => m.decoded != some key, m.value ≠ quoted key
  spelled : ∀ m ∈ ms, m.decoded = some key → m.name = key
  unspaced : ∀ m ∈ ms, m.decoded = some key → isScalarText m.value = true → m.after = []

theorem readMember_of_unspelled {ms : List Member} (h : ∀ m ∈ ms, m.name ≠ key) :
    readMember key ms = none ∨ readMember key ms = some [] := by
  induction ms with
  | nil => exact .inl rfl
  | cons m rest ih =>
      obtain ⟨hm, hrest⟩ := List.forall_mem_cons.mp h
      rw [readMember, if_neg hm]
      split
      · exact .inr rfl
      · exact ih hrest

theorem written_eq_value_iff {m : Member} :
    written m = m.value ↔ (isScalarText m.value = true → m.after = []) := by
  unfold written
  split
  next h => simp [h]
  next h => simp [h]

/-- Reading a member alone, in front of members under other names. -/
theorem readable_cons_of_named {m : Member} {rest : List Member} (hm : m.decoded = some key)
    (hrest : ∀ n ∈ rest, n.decoded ≠ some key) :
    Readable key (m :: rest) ↔ m.name = key ∧ (isScalarText m.value = true → m.after = []) := by
  constructor
  · intro h
    exact ⟨h.spelled m List.mem_cons_self hm, h.unspaced m List.mem_cons_self hm⟩
  · intro h
    refine ⟨?_, ?_, ?_⟩
    · rw [List.takeWhile_cons_of_neg (by simp [hm])]
      simp
    · intro n hn hnamed
      rcases List.mem_cons.mp hn with rfl | hn
      · exact h.1
      · exact absurd hnamed (hrest n hn)
    · intro n hn hnamed
      rcases List.mem_cons.mp hn with rfl | hn
      · exact h.2
      · exact absurd hnamed (hrest n hn)

/-- A member under another name, in front. -/
theorem readable_cons_of_other {m : Member} {rest : List Member} (hm : m.decoded ≠ some key) :
    Readable key (m :: rest) ↔ m.value ≠ quoted key ∧ Readable key rest := by
  have htake : (m :: rest).takeWhile (fun m => m.decoded != some key) =
      m :: rest.takeWhile fun m => m.decoded != some key :=
    List.takeWhile_cons_of_pos (by simp [hm])
  constructor
  · intro h
    have hvalues := h.values
    rw [htake, List.forall_mem_cons] at hvalues
    exact ⟨hvalues.1, hvalues.2, fun n hn => h.spelled n (List.mem_cons_of_mem m hn),
      fun n hn => h.unspaced n (List.mem_cons_of_mem m hn)⟩
  · intro h
    refine ⟨?_, ?_, ?_⟩
    · rw [htake, List.forall_mem_cons]
      exact ⟨h.1, h.2.values⟩
    · intro n hn hnamed
      rcases List.mem_cons.mp hn with rfl | hn
      · exact absurd hnamed hm
      · exact h.2.spelled n hn hnamed
    · intro n hn hnamed
      rcases List.mem_cons.mp hn with rfl | hn
      · exact absurd hnamed hm
      · exact h.2.unspaced n hn hnamed

theorem valueOf_ne_nil {ms : List Member} (hvalues : ∀ m ∈ ms, IsValue m.value) :
    valueOf key ms ≠ some [] := by
  intro h
  obtain ⟨m, hfind, hvalue⟩ := Option.map_eq_some_iff.mp h
  exact (hvalues m (List.mem_of_find?_eq_some hfind)).ne_nil hvalue

theorem readMember_eq_valueOf_iff (hkey : PlainKey key) {ms : List Member}
    (hvalues : ∀ m ∈ ms, IsValue m.value) (hdistinct : (ms.map Member.decoded).Nodup) :
    readMember key ms = valueOf key ms ↔ Readable key ms := by
  induction ms with
  | nil => exact ⟨fun _ => ⟨by simp, by simp, by simp⟩, fun _ => rfl⟩
  | cons m rest ih =>
      obtain ⟨hv, hvs⟩ := List.forall_mem_cons.mp hvalues
      rw [List.map_cons, List.nodup_cons] at hdistinct
      by_cases hm : m.decoded = some key
      · have hrest : ∀ n ∈ rest, n.decoded ≠ some key := fun n hn heq =>
          hdistinct.1 (List.mem_map.mpr ⟨n, hn, heq.trans hm.symm⟩)
        have hvalue : valueOf key (m :: rest) = some m.value := by
          unfold valueOf
          rw [List.find?_cons_of_pos (by simp [hm]), Option.map_some]
        rw [hvalue, readable_cons_of_named hm hrest, readMember]
        by_cases hname : m.name = key
        · rw [if_pos hname, Option.some.injEq, written_eq_value_iff]
          simp [hname]
        · -- spelled with an escape: at most a value is found
          have hnone : readMember key rest = none ∨ readMember key rest = some [] :=
            readMember_of_unspelled fun n hn heq => hrest n hn (by
              show unescape n.name = some key
              rw [heq]
              exact unescape_plain hkey)
          rw [if_neg hname]
          constructor
          · intro h
            refine absurd h ?_
            split
            · exact fun h => hv.ne_nil (Option.some.inj h).symm
            · rcases hnone with hnone | hnone
              · rw [hnone]
                exact fun h => by cases h
              · rw [hnone]
                exact fun h => hv.ne_nil (Option.some.inj h).symm
          · exact fun h => absurd h.1 hname
      · have hname : m.name ≠ key := fun heq => hm (by
          show unescape m.name = some key
          rw [heq]
          exact unescape_plain hkey)
        have hvalue : valueOf key (m :: rest) = valueOf key rest := by
          unfold valueOf
          rw [List.find?_cons_of_neg (by simp [hm])]
        rw [readMember, if_neg hname, hvalue, readable_cons_of_other hm]
        by_cases hother : m.value = quoted key
        · rw [if_pos hother]
          constructor
          · exact fun h => absurd h.symm (valueOf_ne_nil hvs)
          · exact fun h => absurd hother h.1
        · rw [if_neg hother, ih hvs hdistinct.2]
          exact ⟨fun h => ⟨hother, h⟩, fun h => h.2⟩

end

/-- Of an object with distinct names `raw_member` gives the member's text exactly when no value in
front of it is the key, its name has no escape, and no space follows a value that nothing ends. -/
theorem rawMember_exact_iff {text key : Str} {ms : List Member} (htext : IsObjectText text ms)
    (hdistinct : (ms.map Member.decoded).Nodup) (hkey : PlainKey key) :
    rawMember text key = valueOf key ms ↔ Readable key ms := by
  rw [rawMember_eq hkey htext]
  exact readMember_eq_valueOf_iff hkey htext.isValue_of_mem hdistinct

/-! ## Samples -/

/-- An object whose first value is the name of its second member. -/
def shadowed : List Member := [tight "type" (quoted "challenge"), tight "challenge" "7"]

def shadowedText : Str := "\x7b\"type\":\"challenge\",\"challenge\":7\x7d"

theorem isValue_digit {d : UInt8} (h : 49 ≤ d ∧ d ≤ 57) : IsValue [d] := by
  refine .scalar (.inr (.inr (.inr ⟨[], [d], [], [], by simp, .inl rfl, .inr ⟨⟨by simp, ?_⟩, ?_⟩,
    .inl rfl, .inl rfl⟩)))
  · simp [Uri.isDigit, UInt8.le_trans (show 48 ≤ 49 by decide) h.1, h.2]
  · rintro heq
    cases heq
    exact absurd h.1 (by decide)

theorem shadowed_isObject : IsObjectText shadowedText shadowed := by
  refine ⟨by decide, [], shadowedText, [], by simp, by simp [Ws], by simp [Ws],
    commaJoin (shadowed.map Member.text), by decide, .some (by simp [shadowed]) ?_ ?_⟩
  · intro m hm
    simp only [shadowed, List.mem_cons, List.not_mem_nil, or_false] at hm
    rcases hm with rfl | rfl
    · exact tight_spaced (by decide)
    · exact tight_spaced (by decide)
  · intro m hm
    simp only [shadowed, List.mem_cons, List.not_mem_nil, or_false] at hm
    rcases hm with rfl | rfl
    · exact .string (by decide)
    · exact isValue_digit (by decide)

/-- The text is there, and what is given is no text. -/
theorem shadowed_lost : ¬∀ (text key : Str) (ms : List Member), IsObjectText text ms →
    (ms.map Member.decoded).Nodup → PlainKey key → rawMember text key = valueOf key ms := by
  intro h
  have hgiven := h shadowedText "challenge" shadowed shadowed_isObject (by decide)
    (forall_mem_of_all (by decide))
  have hread : rawMember shadowedText "challenge" = some [] := by decide
  have hvalue : valueOf "challenge" shadowed = some (str "7") := by decide
  rw [hread, hvalue] at hgiven
  cases hgiven

/-- The first member of the same object is read. -/
theorem shadowed_type_read : rawMember shadowedText "type" = some (quoted "challenge") := by
  have hreadable : Readable "type" shadowed := ⟨by decide, by decide, by
    decide⟩
  have hexact := (rawMember_exact_iff shadowed_isObject (by decide)
    (show PlainKey "type" from forall_mem_of_all (by decide))).mpr hreadable
  rw [hexact]
  decide

end Axiam.Webauthn
