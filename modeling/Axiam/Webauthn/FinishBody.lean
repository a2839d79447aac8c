import Axiam.Core.Error
import Axiam.Core.JsonReading
import Axiam.Core.JsonWritten
import Axiam.Lib.Prog
import Axiam.Webauthn.RawMember

/-!
# The body that finishes a ceremony

`finish_body` (`src/webauthn.cpp`) puts the authenticator's response into a JSON object as text.
What it checks is that the parser makes an object of the response, and the parser skips a byte order
mark in front of a text and ends at a NUL behind one: with either the body is no JSON text.
-/

namespace Axiam.Webauthn

open Axiam.JsonText Axiam.Json Axiam.Lib

/-! ## The body -/

/-- `json(s).dump()`. -/
def dumpText (s : Str) : Except JsonError Str :=
  if validUtf8 s then .ok (dumpString s) else .error .invalidUtf8

/-- A member whose value is a string. -/
def stringMember (name : Str) (s : Str) : Except Exc Str :=
  match dumpText s with
  | .error e => .error (.json e)
  | .ok text => .ok (str "\"" ++ name ++ str "\":" ++ text)

/-- The member in front of the state token, if it is given. -/
def setupPart : Option Str → Except Exc Str
  | none => .ok []
  | some token => (stringMember "setup_token" token).map (· ++ str ",")

/-- The member behind it. -/
def credentialPart : Option Str → Except Exc Str
  | none => .ok []
  | some name => (stringMember "credential_name" name).map (str "," ++ ·)

/-- What is spliced: the response from its first byte that is no space. -/
def trimmed (response : Str) : Str := response.dropWhile isspace

section

variable (parse : Parser)

/-- `finish_body`. -/
def finishBody (stateToken : Str) (credentialName : Option Str) (response operation : Str)
    (setupToken : Option Str) : Except Exc Str :=
  match parse (trimmed response) with
  | none => .error (.auth (operation ++
      str (": the authenticator response string is not valid JSON. Pass the " ++
        "platform's response JSON verbatim (CONTRACT.md §24.6a)")))
  | some parsed =>
      if parsed.isObject = false then
        .error (.auth (operation ++
          str (": the authenticator response must be a JSON object " ++
            "(CONTRACT.md §24.6a)")))
      else do
        let setup ← setupPart setupToken
        let state ← stringMember "state_token" stateToken
        let credential ← credentialPart credentialName
        return str "\x7b" ++ setup ++ state ++ credential ++ str ",\"response\":" ++
          trimmed response ++ str "\x7d"

end

example : finishBody (tableParser [("\x7b\x7d", .object [])]) "s" (some (str "k")) " \x7b\x7d" "op"
    none = .ok "\x7b\"state_token\":\"s\",\"credential_name\":\"k\",\"response\":\x7b\x7d\x7d" := by
  decide

/-! ## What is returned -/

/-- The members that are strings, in their order. -/
def givenStrings (stateToken : Str) (credentialName setupToken : Option Str) : List (Str × Str) :=
  setupToken.toList.map (str "setup_token", ·) ++ ((str "state_token", stateToken) ::
    credentialName.toList.map (str "credential_name", ·))

/-- What stands between the braces. -/
def spliced (strings : List (Str × Str)) (response : Str) : Str :=
  commaJoin (strings.map (fun p => (tight p.1 (dumpString p.2)).text) ++
    [quoted "response" ++ 58 :: response])

theorem stringMember_eq_ok {name s text : Str} :
    stringMember name s = .ok text ↔
      validUtf8 s = true ∧ text = (tight name (dumpString s)).text := by
  have hquote : str "\"" = [34] := by decide
  have hcolon : str "\":" = [34, 58] := by decide
  unfold stringMember dumpText
  rw [tight_text, hquote, hcolon]
  by_cases h : validUtf8 s = true
  · simp [h, quoted, eq_comm]
  · simp [h]

theorem map_stringMember_eq_ok {name s text : Str} {wrap : Str → Str} :
    (stringMember name s).map wrap = .ok text ↔
      validUtf8 s = true ∧ text = wrap (tight name (dumpString s)).text := by
  constructor
  · intro h
    cases hmember : stringMember name s with
    | error e =>
        rw [hmember] at h
        cases h
    | ok t =>
        obtain ⟨hvalid, rfl⟩ := stringMember_eq_ok.mp hmember
        rw [hmember] at h
        cases h
        exact ⟨hvalid, rfl⟩
  · intro h
    rw [stringMember_eq_ok.mpr ⟨h.1, rfl⟩, h.2]
    rfl

theorem setupPart_ok {text : Str} {setupToken : Option Str} (h : setupPart setupToken = .ok text) :
    (∀ s ∈ setupToken, validUtf8 s = true) ∧
      text = setupToken.toList.flatMap fun s =>
        (tight "setup_token" (dumpString s)).text ++ [44] := by
  have hcomma : str "," = [44] := by decide
  cases setupToken with
  | none =>
      cases h
      exact ⟨fun s hs => (by cases hs), rfl⟩
  | some token =>
      obtain ⟨hvalid, rfl⟩ := map_stringMember_eq_ok.mp h
      rw [hcomma]
      refine ⟨fun s hs => ?_, by simp⟩
      cases hs
      exact hvalid

theorem credentialPart_ok {text : Str} {credentialName : Option Str}
    (h : credentialPart credentialName = .ok text) :
    (∀ s ∈ credentialName, validUtf8 s = true) ∧
      text = credentialName.toList.flatMap fun s =>
        44 :: (tight "credential_name" (dumpString s)).text := by
  have hcomma : str "," = [44] := by decide
  cases credentialName with
  | none =>
      cases h
      exact ⟨fun s hs => (by cases hs), rfl⟩
  | some name =>
      obtain ⟨hvalid, rfl⟩ := map_stringMember_eq_ok.mp h
      rw [hcomma]
      refine ⟨fun s hs => ?_, by simp⟩
      cases hs
      exact hvalid

section

variable {parse : Parser} {stateToken response operation body : Str}
  {credentialName setupToken : Option Str}

/-- A body is the strings and the response, where the parser takes that for an object. -/
theorem finishBody_ok
    (h : finishBody parse stateToken credentialName response operation setupToken = .ok body) :
    (∃ parsed, parse (trimmed response) = some parsed ∧ parsed.isObject = true) ∧
      (∀ p ∈ givenStrings stateToken credentialName setupToken, validUtf8 p.2 = true) ∧
      body = 123 :: (spliced (givenStrings stateToken credentialName setupToken)
        (trimmed response) ++ [125]) := by
  have hopen : str "\x7b" = [123] := by decide
  have hclose : str "\x7d" = [125] := by decide
  have hresponse : str ",\"response\":" = 44 :: (quoted "response" ++ [58]) := by decide
  unfold finishBody at h
  cases hparse : parse (trimmed response) with
  | none =>
      rw [hparse] at h
      cases h
  | some parsed =>
      rw [hparse] at h
      simp only at h
      split_ifs at h with hobject
      obtain ⟨setup, hsetup, h⟩ := except_bind_eq_ok.mp h
      obtain ⟨state, hstate, h⟩ := except_bind_eq_ok.mp h
      obtain ⟨credential, hcredential, h⟩ := except_bind_eq_ok.mp h
      obtain ⟨hsetupValid, rfl⟩ := setupPart_ok hsetup
      obtain ⟨hstateValid, rfl⟩ := stringMember_eq_ok.mp hstate
      obtain ⟨hcredentialValid, rfl⟩ := credentialPart_ok hcredential
      cases h
      refine ⟨⟨parsed, rfl, by simpa using hobject⟩, ?_, ?_⟩
      · intro p hp
        simp only [givenStrings, List.mem_append, List.mem_cons, List.mem_map,
          Option.mem_toList] at hp
        rcases hp with ⟨s, hs, rfl⟩ | rfl | ⟨s, hs, rfl⟩
        · exact hsetupValid s hs
        · exact hstateValid
        · exact hcredentialValid s hs
      · rw [hopen, hclose, hresponse]
        cases setupToken <;> cases credentialName <;>
          simp [spliced, givenStrings, commaJoin]

end

/-! ## When it is JSON -/

/-- A response that is a JSON text by itself, an object. -/
def IsText (response : Str) : Prop := ∃ ms, IsObjectText response ms

/-- Members that are the strings, in their order, and behind them the response as it stands. -/
def Spliced (strings : List (Str × Str)) (response : Str) (ms : List Member) : Prop :=
  ∃ front last, ms = front ++ [last] ∧
    List.Forall₂ (fun m p => m.decoded = some p.1 ∧
      ∃ raw, m.value = quoted raw ∧ unescape raw = some p.2) front strings ∧
    last.decoded = some (str "response") ∧ last.value ++ last.after = response ∧
      ∃ inner, IsObject last.value inner

/-- A body that is a JSON text, and reads as the strings and the response. -/
def Faithful (body : Str) (strings : List (Str × Str)) (response : Str) : Prop :=
  IsText body ∧ ∀ ms, IsObjectText body ms → Spliced strings response ms

/-- What the parser makes an object of: a JSON text that is one, behind a byte order mark or not,
and up to a NUL if one stands behind it. -/
def Tolerant (parse : Parser) : Prop :=
  ∀ s parsed, parse s = some parsed → parsed.isObject = true →
    ∃ mark text rest ms, s = mark ++ (text ++ rest) ∧ (mark = [] ∨ mark = [0xEF, 0xBB, 0xBF]) ∧
      (rest = [] ∨ ∃ more, rest = 0 :: more) ∧ IsObjectText text ms

/-- Names that need no escape. -/
def PlainNames (strings : List (Str × Str)) : Prop := ∀ p ∈ strings, unescape p.1 = some p.1

theorem givenStrings_plain (stateToken : Str) (credentialName setupToken : Option Str) :
    PlainNames (givenStrings stateToken credentialName setupToken) ∧
      ∀ p ∈ givenStrings stateToken credentialName setupToken, ∀ c ∈ p.1, c < 128 := by
  have hnames : ∀ name ∈ [str "setup_token", str "state_token", str "credential_name"],
      unescape name = some name ∧ ∀ c ∈ name, c < 128 := by decide +kernel
  constructor
  · intro p hp
    simp only [givenStrings, List.mem_append, List.mem_cons, List.mem_map, Option.mem_toList] at hp
    rcases hp with ⟨_, _, rfl⟩ | rfl | ⟨_, _, rfl⟩ <;> exact (hnames _ (by simp)).1
  · intro p hp
    simp only [givenStrings, List.mem_append, List.mem_cons, List.mem_map, Option.mem_toList] at hp
    rcases hp with ⟨_, _, rfl⟩ | rfl | ⟨_, _, rfl⟩ <;> exact (hnames _ (by simp)).2

theorem unescape_response : unescape "response" = some (str "response") := by decide

theorem isSome_escaped (s : Str) : (unescape (s.flatMap escapeByte)).isSome = true := by
  rw [unescape_escaped]
  rfl

theorem commaJoin_concat (parts : List Str) (last : Str) :
    commaJoin (parts ++ [last]) = parts.flatMap (· ++ [44]) ++ last := by
  induction parts with
  | nil => rfl
  | cons x rest ih =>
      have hstep : commaJoin (x :: (rest ++ [last])) = x ++ 44 :: commaJoin (rest ++ [last]) := by
        cases rest <;> rfl
      rw [List.cons_append, hstep, ih, List.flatMap_cons]
      simp

/-- What is spliced in front of the response. -/
def lead (strings : List (Str × Str)) : Str :=
  (strings.map fun p => (tight p.1 (dumpString p.2)).text).flatMap (· ++ [44]) ++
    (quoted "response" ++ [58])

theorem spliced_eq (strings : List (Str × Str)) (response : Str) :
    spliced strings response = lead strings ++ response := by
  unfold spliced lead
  rw [commaJoin_concat]
  simp

theorem bareAscii_lead {strings : List (Str × Str)} (hnames : PlainNames strings) :
    BareAscii (lead strings) := by
  have hcolon : BareAscii [58] := bareAscii_of_plain (forall_mem_of_all (by decide))
  have hresponse : BareAscii (quoted "response" ++ [58]) :=
    (bareAscii_quoted (by rw [unescape_response]; rfl)).append hcolon
  unfold lead
  induction strings with
  | nil => exact hresponse
  | cons p rest ih =>
      obtain ⟨hp, hrest⟩ := List.forall_mem_cons.mp hnames
      rw [List.map_cons, List.flatMap_cons, List.append_assoc, tight_text]
      have hmember : BareAscii (quoted p.1 ++ 58 :: dumpString p.2) :=
        (bareAscii_quoted (by rw [hp]; rfl)).append
          (hcolon.append (bareAscii_quoted (isSome_escaped p.2)))
      exact (hmember.append bareAscii_comma).append (ih hrest)

/-- With a mark in front of it or a NUL in it the response makes no JSON text. -/
theorem not_isText_of_tolerated {strings : List (Str × Str)} (hnames : PlainNames strings)
    {mark text rest : Str} (hmark : mark = [] ∨ mark = [0xEF, 0xBB, 0xBF])
    (hrest : rest = [] ∨ ∃ more, rest = 0 :: more) (hstray : mark ≠ [] ∨ rest ≠ []) :
    ¬IsText (123 :: (spliced strings (mark ++ (text ++ rest)) ++ [125])) := by
  intro h
  obtain ⟨ms, hobject⟩ := h
  obtain ⟨hbytes, -, hascii⟩ := hobject.bytes
  rw [spliced_eq] at hbytes hascii
  rcases hmark with rfl | rfl
  · obtain ⟨more, rfl⟩ := hrest.resolve_left (hstray.resolve_left (by simp))
    have hnul := hbytes 0 (by simp)
    exact absurd hnul (by decide)
  · -- the mark stands outside of any string
    have hbare : bare false (123 :: (lead strings ++ ([0xEF, 0xBB, 0xBF] ++ (text ++ rest)) ++
        [125])) = 123 :: (bare false (lead strings) ++ 0xEF :: bare false
          (0xBB :: 0xBF :: (text ++ rest ++ [125]))) := by
      rw [bare, if_neg (by decide), List.append_assoc, bare_enclosed (bareAscii_lead hnames).1]
      simp [bare]
    rw [hbare] at hascii
    have hbyte := hascii 0xEF (by simp)
    exact absurd hbyte (by decide)

theorem validUtf8_lead {strings : List (Str × Str)}
    (hnames : ∀ p ∈ strings, ∀ c ∈ p.1, c < 128) (hvalid : ∀ p ∈ strings, validUtf8 p.2 = true) :
    validUtf8 (lead strings) = true := by
  have hresponse : validUtf8 (quoted "response" ++ [58]) = true := by decide
  unfold lead
  induction strings with
  | nil => exact hresponse
  | cons p rest ih =>
      obtain ⟨hname, hnames⟩ := List.forall_mem_cons.mp hnames
      obtain ⟨hp, hvalid⟩ := List.forall_mem_cons.mp hvalid
      have hlabel : validUtf8 (quoted p.1 ++ [58]) = true := by
        refine validUtf8_ascii fun c hc => ?_
        simp only [quoted, List.mem_append, List.mem_cons, List.not_mem_nil, or_false] at hc
        rcases hc with (rfl | hc | rfl) | rfl
        · decide
        · exact hname c hc
        · decide
        · decide
      have hmember : (tight p.1 (dumpString p.2)).text =
          (quoted p.1 ++ [58]) ++ dumpString p.2 := by
        rw [tight_text, List.append_assoc]
        rfl
      have hcomma : validUtf8 [44] = true := by decide
      rw [List.map_cons, List.flatMap_cons, hmember, List.append_assoc, List.append_assoc,
        List.append_assoc, validUtf8_append hlabel, validUtf8_append (validUtf8_dumpString hp),
        validUtf8_append hcomma]
      exact ih hnames hvalid

/-- No space is left in front of what is spliced. -/
theorem trimmed_stops {response w rest : Str} (h : trimmed response = w ++ rest) (hw : Ws w) :
    w = [] := by
  cases w with
  | nil => rfl
  | cons c w =>
      have hspace : isspace c = true := by
        have hc := hw c List.mem_cons_self
        unfold isWs at hc
        simp only [Bool.or_eq_true, beq_iff_eq] at hc
        rcases hc with ((rfl | rfl) | rfl) | rfl <;> decide
      have hstop := List.head?_dropWhile_not isspace response
      unfold trimmed at h
      rw [h] at hstop
      simp only [List.cons_append, List.head?_cons] at hstop
      rw [hspace] at hstop
      cases hstop

/-- A response that is a JSON text makes one. -/
theorem faithful_of_isText {strings : List (Str × Str)} {response : Str}
    (hnames : PlainNames strings) (hascii : ∀ p ∈ strings, ∀ c ∈ p.1, c < 128)
    (hvalid : ∀ p ∈ strings, validUtf8 p.2 = true) (h : IsText (trimmed response)) :
    Faithful (123 :: (spliced strings (trimmed response) ++ [125])) strings (trimmed response) := by
  obtain ⟨inner, hutf8, before, object, after, htext, hbefore, hafter, hobject⟩ := h
  obtain rfl := trimmed_stops htext hbefore
  rw [List.nil_append] at htext
  let ms := strings.map fun p => tight p.1 (dumpString p.2)
  let last : Member := ⟨[], "response", [], [], object, after⟩
  have hlast : last.text = quoted "response" ++ 58 :: trimmed response := by
    rw [htext]
    simp [last, Member.text, Member.label]
  -- the body is read as the strings spliced in, and the response as a last member
  have hparts : (ms ++ [last]).map Member.text =
      strings.map (fun p => (tight p.1 (dumpString p.2)).text) ++
        [quoted "response" ++ 58 :: trimmed response] := by
    rw [List.map_append, List.map_singleton, hlast, List.map_map]
    rfl
  have hmembers : Members (spliced strings (trimmed response)) (ms ++ [last]) := by
    unfold spliced
    rw [← hparts]
    refine .some (by simp) ?_ ?_
    · intro m hm
      rcases List.mem_append.mp hm with hm | hm
      · obtain ⟨p, hp, rfl⟩ := List.mem_map.mp hm
        exact tight_spaced (by rw [hnames p hp]; rfl)
      · obtain rfl := List.mem_singleton.mp hm
        refine ⟨by simp [Ws, last], by simp [Ws, last], by simp [Ws, last], hafter, ?_⟩
        show (unescape "response").isSome = true
        rw [unescape_response]
        rfl
    · intro m hm
      rcases List.mem_append.mp hm with hm | hm
      · obtain ⟨p, hp, rfl⟩ := List.mem_map.mp hm
        exact .string (isSome_escaped p.2)
      · obtain rfl := List.mem_singleton.mp hm
        exact hobject.isValue
  have hbody : validUtf8 (123 :: (spliced strings (trimmed response) ++ [125])) = true := by
    have hopen : validUtf8 [123] = true := by decide
    show validUtf8 ([123] ++ (spliced strings (trimmed response) ++ [125])) = true
    rw [validUtf8_append hopen, spliced_eq, List.append_assoc,
      validUtf8_append (validUtf8_lead hascii hvalid), validUtf8_append hutf8]
    decide
  have hread : IsObjectText (123 :: (spliced strings (trimmed response) ++ [125])) (ms ++ [last]) :=
    ⟨hbody, [], _, [], by simp, by simp [Ws], by simp [Ws], _, rfl, hmembers⟩
  refine ⟨⟨_, hread⟩, fun ns hns => ?_⟩
  rw [hns.unique hread]
  refine ⟨ms, last, rfl, ?_, unescape_response, htext.symm, inner, hobject⟩
  rw [List.forall₂_map_left_iff]
  exact List.forall₂_same.mpr fun p hp =>
    ⟨hnames p hp, _, rfl, unescape_escaped p.2⟩

section

variable {parse : Parser} {stateToken response operation body : Str}
  {credentialName setupToken : Option Str}

/-- A body has the members it should, the response among them as it stands, exactly when the
response is a JSON text by itself; where it is none the body is no JSON text. -/
theorem finishBody_faithful_iff (htolerant : Tolerant parse)
    (h : finishBody parse stateToken credentialName response operation setupToken = .ok body) :
    (Faithful body (givenStrings stateToken credentialName setupToken) (trimmed response) ↔
      IsText (trimmed response)) ∧ (IsText body ↔ IsText (trimmed response)) := by
  obtain ⟨⟨parsed, hparse, hobject⟩, hvalid, rfl⟩ := finishBody_ok h
  obtain ⟨hnames, hascii⟩ := givenStrings_plain stateToken credentialName setupToken
  have hfaithful (htext : IsText (trimmed response)) := faithful_of_isText hnames hascii hvalid htext
  have hisText (htext : IsText (123 :: (spliced
      (givenStrings stateToken credentialName setupToken) (trimmed response) ++ [125]))) :
      IsText (trimmed response) := by
    obtain ⟨mark, text, rest, ms, hresponse, hmark, hrest, htext'⟩ :=
      htolerant _ _ hparse hobject
    by_cases hstray : mark ≠ [] ∨ rest ≠ []
    · rw [hresponse] at htext
      exact absurd htext (not_isText_of_tolerated hnames hmark hrest hstray)
    · rw [not_or, not_not, not_not] at hstray
      rw [hresponse, hstray.1, hstray.2, List.append_nil]
      exact ⟨ms, htext'⟩
  exact ⟨⟨fun hfaith => hisText hfaith.1, hfaithful⟩, hisText, fun htext => (hfaithful htext).1⟩

end

/-! ## Samples -/

def emptyObject : Str := "\x7b\x7d"

def markedObject : Str := [0xEF, 0xBB, 0xBF] ++ emptyObject

/-- A parser that knows the empty object, with a byte order mark in front of it and without. -/
def sampleParser : Parser := tableParser [(emptyObject, .object []), (markedObject, .object [])]

theorem emptyObject_isObjectText : IsObjectText emptyObject [] :=
  ⟨by decide, [], emptyObject, [], by simp, by simp [Ws], by simp [Ws], [], by decide,
    .none (by simp [Ws])⟩

theorem sampleParser_tolerant : Tolerant sampleParser := by
  intro s parsed hparse _
  have hknown : s = emptyObject ∨ s = markedObject := by
    by_contra hno
    rw [not_or] at hno
    have hnone : sampleParser s = none := by
      simp [sampleParser, tableParser, List.lookup_cons, List.lookup_nil,
        beq_eq_false_iff_ne.mpr hno.1, beq_eq_false_iff_ne.mpr hno.2]
    rw [hnone] at hparse
    cases hparse
  rcases hknown with rfl | rfl
  · exact ⟨[], emptyObject, [], [], by simp, .inl rfl, .inl rfl, emptyObject_isObjectText⟩
  · exact ⟨[0xEF, 0xBB, 0xBF], emptyObject, [], [], by simp [markedObject], .inr rfl, .inl rfl,
      emptyObject_isObjectText⟩

/-- A response behind spaces. -/
theorem sample_faithful :
    Faithful "\x7b\"state_token\":\"s\",\"response\":\x7b\x7d\x7d" [(str "state_token", str "s")]
      emptyObject := by
  have hbody : finishBody sampleParser "s" none (str " \n" ++ emptyObject) "op" none =
      .ok "\x7b\"state_token\":\"s\",\"response\":\x7b\x7d\x7d" := by decide
  have htrimmed : trimmed (str " \n" ++ emptyObject) = emptyObject := by decide
  have hiff := (finishBody_faithful_iff sampleParser_tolerant hbody).1
  rw [htrimmed] at hiff
  exact hiff.mpr ⟨[], emptyObject_isObjectText⟩

/-- And one behind a byte order mark, which is accepted and makes no JSON text. -/
theorem marked_response_spliced : ¬∀ (parse : Parser) (stateToken response operation body : Str)
    (credentialName setupToken : Option Str), Tolerant parse →
    finishBody parse stateToken credentialName response operation setupToken = .ok body →
    Faithful body (givenStrings stateToken credentialName setupToken) (trimmed response) := by
  intro h
  have hbody : finishBody sampleParser "s" none markedObject "op" none =
      .ok (123 :: (spliced (givenStrings "s" none none) markedObject ++ [125])) := by
    decide
  have hfaithful := h sampleParser "s" markedObject "op" _ none none sampleParser_tolerant hbody
  refine @not_isText_of_tolerated _ (givenStrings_plain "s" none none).1 _ emptyObject []
    (.inr rfl) (.inl rfl) (.inl (by simp)) ?_
  rw [List.append_nil]
  exact hfaithful.1

end Axiam.Webauthn
