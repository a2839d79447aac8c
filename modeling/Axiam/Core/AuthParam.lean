import Axiam.Core.Query

/-!
# Parameters of a challenge

RFC 7235 on a challenge and its `auth-param`s, with the tokens and quoted strings of RFC 7230, as
relations between a text and what it says.  A list of parameters written with one comma and a space
between, each value quoted and none with a quote or a backslash in it, is read in one way only.
-/

namespace Axiam.AuthParam

/-! ## The grammar -/

/-- `tchar`. -/
def isTchar (c : UInt8) : Bool :=
  Uri.isAlpha c || Uri.isDigit c ||
    [33, 35, 36, 37, 38, 39, 42, 43, 45, 46, 94, 95, 96, 124, 126].contains c

/-- `token`. -/
def Token (s : Str) : Prop := s ≠ [] ∧ ∀ c ∈ s, isTchar c = true

/-- `OWS` and `BWS`. -/
def Blank (s : Str) : Prop := ∀ c ∈ s, isBlank c = true

/-- `qdtext`: no quote, no backslash, and of the controls only the tab. -/
def isQdtext (c : UInt8) : Bool :=
  c == 9 || c == 32 || c == 33 || (35 ≤ c && c ≤ 91) || (93 ≤ c && c ≤ 126) || 128 ≤ c

/-- What may follow the backslash of a `quoted-pair`. -/
def isQuotable (c : UInt8) : Bool := c == 9 || (32 ≤ c && c ≤ 126) || 128 ≤ c

/-- The content of a quoted string and the text it stands for. -/
inductive Quoted : Str → Str → Prop where
  | nil : Quoted [] []
  | text {c : UInt8} {raw value : Str} (hc : isQdtext c = true) (h : Quoted raw value) :
      Quoted (c :: raw) (c :: value)
  | pair {c : UInt8} {raw value : Str} (hc : isQuotable c = true) (h : Quoted raw value) :
      Quoted (92 :: c :: raw) (c :: value)

/-- The value of a parameter: a token, or a quoted string. -/
inductive Value : Str → Str → Prop where
  | token {s : Str} (h : Token s) : Value s s
  | quoted {raw value : Str} (h : Quoted raw value) : Value (34 :: (raw ++ [34])) value

/-- `auth-param`: a name and its value. -/
inductive Param : Str → Str × Str → Prop where
  | mk {name before after body value : Str} (hname : Token name) (hbefore : Blank before)
      (hafter : Blank after) (hvalue : Value body value) :
      Param (name ++ (before ++ 61 :: (after ++ body))) (name, value)

/-- An element of a list, which may be empty. -/
inductive Element : Str → List (Str × Str) → Prop where
  | empty {s : Str} (h : Blank s) : Element s []
  | param {before text after : Str} {p : Str × Str} (hbefore : Blank before) (h : Param text p)
      (hafter : Blank after) : Element (before ++ (text ++ after)) [p]

/-- `#auth-param`: elements with a comma between any two. -/
inductive Params : Str → List (Str × Str) → Prop where
  | last {text : Str} {ps : List (Str × Str)} (h : Element text ps) : Params text ps
  | comma {text rest : Str} {ps qs : List (Str × Str)} (h : Element text ps)
      (hrest : Params rest qs) : Params (text ++ 44 :: rest) (ps ++ qs)

/-- `challenge`, with parameters. -/
inductive Challenge : Str → Str → List (Str × Str) → Prop where
  | mk {scheme spaces rest : Str} {ps : List (Str × Str)} (hscheme : Token scheme)
      (hne : spaces ≠ []) (hspaces : ∀ c ∈ spaces, c = 32) (h : Params rest ps) :
      Challenge (scheme ++ (spaces ++ rest)) scheme ps

/-! ## Where a run of bytes ends -/

/-- A blank text in front of what does not begin with a blank is empty. -/
theorem Blank.eq_nil {w x : Str} {c : UInt8} {rest : Str} (hw : Blank w)
    (hc : isBlank c = false) (h : w ++ x = c :: rest) : w = [] ∧ x = c :: rest := by
  cases w with
  | nil => exact ⟨rfl, h⟩
  | cons d w =>
      cases h
      rw [hw _ List.mem_cons_self] at hc
      cases hc

theorem isTchar_spec {c : UInt8} (h : isTchar c = true) :
    isBlank c = false ∧ c ≠ 61 ∧ c ≠ 34 ∧ c ≠ 44 ∧ c ≠ 32 := by
  refine ⟨?_, ?_, ?_, ?_, ?_⟩
  · by_contra hblank
    rw [Bool.not_eq_false] at hblank
    unfold isBlank at hblank
    rw [Bool.or_eq_true, beq_iff_eq, beq_iff_eq] at hblank
    rcases hblank with rfl | rfl <;> exact absurd h (by decide)
  all_goals
    rintro rfl
    exact absurd h (by decide)

/-! ## Quoted strings -/

/-- A quoted string without an escape ends at its first quote. -/
theorem Quoted.unique {raw value text tail tail' : Str} (h : Quoted raw value)
    (htext : ∀ c ∈ text, isQdtext c = true) (hsame : raw ++ 34 :: tail = text ++ 34 :: tail') :
    value = text ∧ tail = tail' := by
  induction h generalizing text with
  | nil =>
      cases text with
      | nil =>
          cases hsame
          exact ⟨rfl, rfl⟩
      | cons d text =>
          cases hsame
          exact absurd (htext 34 List.mem_cons_self) (by decide)
  | @text c raw value hc _ ih =>
      cases text with
      | nil =>
          cases hsame
          exact absurd hc (by decide)
      | cons d text =>
          obtain ⟨rfl, hrest⟩ := List.cons.inj hsame
          obtain ⟨rfl, htail⟩ := ih (fun e he => htext e (List.mem_cons_of_mem c he)) hrest
          exact ⟨rfl, htail⟩
  | pair hc _ _ =>
      cases text with
      | nil => cases hsame
      | cons d text =>
          obtain ⟨rfl, -⟩ := List.cons.inj hsame
          exact absurd (htext 92 List.mem_cons_self) (by decide)

/-- A text without an escape is its own content. -/
theorem Quoted.plain {text : Str} (h : ∀ c ∈ text, isQdtext c = true) : Quoted text text := by
  induction text with
  | nil => exact .nil
  | cons c text ih =>
      exact .text (h c List.mem_cons_self) (ih fun d hd => h d (List.mem_cons_of_mem c hd))

/-! ## Lists that were written -/

/-- A parameter with its value quoted. -/
def writeParam (p : Str × Str) : Str := p.1 ++ 61 :: 34 :: (p.2 ++ [34])

/-- A comma and a space between two of them. -/
def writeParams : List (Str × Str) → Str
  | [] => []
  | [p] => writeParam p
  | p :: q :: rest => writeParam p ++ 44 :: 32 :: writeParams (q :: rest)

/-- Every byte written belongs to a name or a value, or stands around them. -/
theorem mem_writeParams {ps : List (Str × Str)} {c : UInt8} (h : c ∈ writeParams ps) :
    c ∈ ([32, 34, 44, 61] : Str) ∨ ∃ p ∈ ps, c ∈ p.1 ∨ c ∈ p.2 := by
  have hone {p : Str × Str} (hc : c ∈ writeParam p) :
      c ∈ ([32, 34, 44, 61] : Str) ∨ c ∈ p.1 ∨ c ∈ p.2 := by
    simp only [writeParam, List.mem_append, List.mem_cons, List.not_mem_nil, or_false] at hc ⊢
    tauto
  induction ps with
  | nil => cases h
  | cons p rest ih =>
      have hhead (hc : c ∈ writeParam p) :
          c ∈ ([32, 34, 44, 61] : Str) ∨ ∃ q ∈ p :: rest, c ∈ q.1 ∨ c ∈ q.2 := by
        rcases hone hc with hmark | hpart
        · exact .inl hmark
        · exact .inr ⟨p, List.mem_cons_self, hpart⟩
      cases rest with
      | nil => exact hhead h
      | cons q rest =>
          have hsplit : c ∈ writeParam p ++ 44 :: 32 :: writeParams (q :: rest) := h
          rw [List.mem_append, List.mem_cons, List.mem_cons] at hsplit
          rcases hsplit with hp | rfl | rfl | hrest
          · exact hhead hp
          · exact .inl (by decide)
          · exact .inl (by decide)
          · rcases ih hrest with hmark | ⟨r, hr, hpart⟩
            · exact .inl hmark
            · exact .inr ⟨r, List.mem_cons_of_mem p hr, hpart⟩

/-- A name that is a token, and a value that needs no escape. -/
def Plain (p : Str × Str) : Prop := Token p.1 ∧ ∀ c ∈ p.2, isQdtext c = true

/-- An element that reads into a parameter reads all of it, and nothing more. -/
theorem Element.unique {w text : Str} {p : Str × Str} {qs : List (Str × Str)}
    (h : Element text qs) (tail tail' : Str) (hw : Blank w) (hp : Plain p)
    (htail : tail = [] ∨ ∃ rest, tail = 44 :: rest)
    (htail' : tail' = [] ∨ ∃ rest, tail' = 44 :: rest)
    (hsame : text ++ tail = w ++ (writeParam p ++ tail')) : qs = [p] ∧ tail = tail' := by
  obtain ⟨hname, hvalue⟩ := hp
  obtain ⟨name, value⟩ := p
  obtain ⟨first, letters, rfl⟩ := List.exists_cons_of_ne_nil hname.1
  have hfirst := isTchar_spec (hname.2 first List.mem_cons_self)
  have hstops {t : Str} (ht : t = [] ∨ ∃ rest, t = 44 :: rest) :
      t = [] ∨ ∃ c rest, t = c :: rest ∧ isBlank c = false := by
    rcases ht with rfl | ⟨rest, rfl⟩
    · exact .inl rfl
    · exact .inr ⟨44, rest, rfl, by decide⟩
  have hwritten : writeParam (first :: letters, value) ++ tail' =
      first :: (letters ++ 61 :: 34 :: (value ++ 34 :: tail')) := by
    simp [writeParam]
  rw [hwritten] at hsame
  have hword : first :: (letters ++ 61 :: 34 :: (value ++ 34 :: tail')) = [] ∨
      ∃ c rest, first :: (letters ++ 61 :: 34 :: (value ++ 34 :: tail')) = c :: rest ∧
        isBlank c = false := .inr ⟨first, _, rfl, hfirst.1⟩
  cases h with
  | empty hblank =>
      obtain ⟨-, htails⟩ := Uri.run_unique hblank hw (hstops htail) hword hsame
      rcases htail with rfl | ⟨rest, rfl⟩
      · cases htails
      · cases htails
        exact absurd rfl hfirst.2.2.2.1
  | @param before body after q hbefore hparam hafter =>
  cases hparam with
  | @mk name' gap gap' text' value' hname' hgap hgap' hvalue' =>
  obtain ⟨first', letters', rfl⟩ := List.exists_cons_of_ne_nil hname'.1
  have hfirst' := isTchar_spec (hname'.2 first' List.mem_cons_self)
  simp only [List.append_assoc, List.cons_append] at hsame
  -- the blanks in front, then the name
  obtain ⟨-, hparams⟩ := Uri.run_unique hbefore hw (.inr ⟨first', _, rfl, hfirst'.1⟩) hword hsame
  have hstop : gap ++ 61 :: (gap' ++ (text' ++ (after ++ tail))) = [] ∨
      ∃ c rest, gap ++ 61 :: (gap' ++ (text' ++ (after ++ tail))) = c :: rest ∧
        isTchar c = false := by
    cases gap with
    | nil => exact .inr ⟨61, _, rfl, by decide⟩
    | cons c gap =>
        refine .inr ⟨c, _, rfl, ?_⟩
        by_contra htchar
        rw [Bool.not_eq_false] at htchar
        have hc := hgap c List.mem_cons_self
        rw [(isTchar_spec htchar).1] at hc
        cases hc
  obtain ⟨hnames, hrest⟩ := Uri.run_unique (a := first' :: letters') (b := first :: letters)
    hname'.2 hname.2 hstop (.inr ⟨61, _, rfl, by decide⟩) hparams
  -- no blanks around the sign
  obtain ⟨-, hsign⟩ := hgap.eq_nil (by decide) hrest
  obtain ⟨-, hbody⟩ := hgap'.eq_nil (by decide) (List.cons.inj hsign).2
  cases hvalue' with
  | token htoken =>
      obtain ⟨c, word, rfl⟩ := List.exists_cons_of_ne_nil htoken.1
      have hc : c = 34 := (List.cons.inj hbody).1
      exact absurd hc (isTchar_spec (htoken.2 c List.mem_cons_self)).2.2.1
  | @quoted raw _ hquoted =>
      have hinner : raw ++ 34 :: (after ++ tail) = value ++ 34 :: tail' := by
        simpa using hbody
      obtain ⟨rfl, hend⟩ := hquoted.unique hvalue hinner
      obtain ⟨-, htails⟩ := Uri.run_unique (b := []) hafter (by simp) (hstops htail) (hstops htail') hend
      rw [hnames]
      exact ⟨rfl, htails⟩

/-- A parameter that was written is an element, behind blanks too. -/
theorem Element.written {w : Str} {p : Str × Str} (hw : Blank w) (hp : Plain p) :
    Element (w ++ writeParam p) [p] := by
  have hparam : Param (writeParam p) p := by
    exact @Param.mk p.1 [] [] _ p.2 hp.1 (by simp [Blank]) (by simp [Blank])
      (.quoted (Quoted.plain hp.2))
  have helement := @Element.param w _ [] p hw hparam (by simp [Blank])
  rwa [List.append_nil] at helement

/-- A list that was written is read as it was meant, and in no other way. -/
theorem params_writeParams_iff {ps qs : List (Str × Str)} {w : Str} (hw : Blank w) (hne : ps ≠ [])
    (hps : ∀ p ∈ ps, Plain p) : Params (w ++ writeParams ps) qs ↔ qs = ps := by
  induction ps generalizing qs w with
  | nil => exact absurd rfl hne
  | cons p rest ih =>
      have hp := hps p List.mem_cons_self
      cases rest with
      | nil =>
          constructor
          · intro h
            generalize hsame : w ++ writeParams [p] = text at h
            cases h with
            | last helement =>
                exact (helement.unique [] [] hw hp (.inl rfl) (.inl rfl)
                  (by simpa [writeParams] using hsame.symm)).1
            | @comma text rest _ _ helement hrest =>
                have hfound := helement.unique (44 :: rest) [] hw hp
                  (.inr ⟨rest, rfl⟩) (.inl rfl) (by simpa [writeParams] using hsame.symm)
                cases hfound.2
          · rintro rfl
            exact .last (.written hw hp)
      | cons q rest =>
          have hblank : Blank [32] := by simp [Blank, isBlank]
          have hrest (qs' : List (Str × Str)) :
              Params ([32] ++ writeParams (q :: rest)) qs' ↔ qs' = q :: rest :=
            ih hblank (by simp) fun r hr => hps r (List.mem_cons_of_mem p hr)
          constructor
          · intro h
            generalize hsame : w ++ writeParams (p :: q :: rest) = text at h
            cases h with
            | last helement =>
                have hfound := helement.unique [] _ hw hp (.inl rfl) (.inr ⟨_, rfl⟩)
                  (by simpa [writeParams] using hsame.symm)
                cases hfound.2
            | @comma text tail _ _ helement htail =>
                obtain ⟨rfl, hrestText⟩ := helement.unique (44 :: tail) _ hw hp
                  (.inr ⟨tail, rfl⟩) (.inr ⟨_, rfl⟩) (by simpa [writeParams] using hsame.symm)
                rw [(List.cons.inj hrestText).2] at htail
                rw [(hrest _).mp htail]
                rfl
          · rintro rfl
            have hstep := Params.comma (.written hw hp) ((hrest (q :: rest)).mpr rfl)
            simpa [writeParams] using hstep

/-- The same behind the scheme, which one space ends. -/
theorem challenge_writeParams_iff {scheme scheme' : Str} {ps qs : List (Str × Str)}
    (hscheme : Token scheme) (hne : ps ≠ []) (hps : ∀ p ∈ ps, Plain p) :
    Challenge (scheme ++ 32 :: writeParams ps) scheme' qs ↔ scheme' = scheme ∧ qs = ps := by
  have hread {qs' : List (Str × Str)} : Params (writeParams ps) qs' ↔ qs' = ps :=
    params_writeParams_iff (w := []) (by simp [Blank]) hne hps
  constructor
  · intro h
    generalize hsame : scheme ++ 32 :: writeParams ps = text at h
    cases h with
    | @mk _ spaces rest _ htoken hspaces hall hparams =>
        obtain ⟨space, spaces, rfl⟩ := List.exists_cons_of_ne_nil hspaces
        obtain rfl := hall space List.mem_cons_self
        obtain ⟨hschemes, hrest⟩ := Uri.run_unique hscheme.2 htoken.2 (.inr ⟨32, _, rfl, by decide⟩)
          (.inr ⟨32, _, rfl, by decide⟩) hsame
        -- the list does not begin with a space
        obtain ⟨p, tail, rfl⟩ := List.exists_cons_of_ne_nil hne
        obtain ⟨first, letters, hfirst⟩ :=
          List.exists_cons_of_ne_nil (hps p List.mem_cons_self).1.1
        have hletter := isTchar_spec ((hps p List.mem_cons_self).1.2 first (by simp [hfirst]))
        have hbegins : ∃ more, writeParams (p :: tail) = first :: more := by
          cases tail <;> simp [writeParams, writeParam, hfirst]
        obtain ⟨more, hmore⟩ := hbegins
        cases spaces with
        | nil =>
            have hlist : writeParams (p :: tail) = rest := (List.cons.inj hrest).2
            rw [← hlist] at hparams
            exact ⟨hschemes.symm, hread.mp hparams⟩
        | cons c spaces =>
            rw [hmore] at hrest
            have hc := hall c (List.mem_cons_of_mem 32 List.mem_cons_self)
            have heq : first = c := (List.cons.inj (List.cons.inj hrest).2).1
            exact absurd (heq.trans hc) hletter.2.2.2.2
  · rintro ⟨rfl, rfl⟩
    exact @Challenge.mk _ [32] _ _ hscheme (by simp) (by simp) (hread.mpr rfl)

end Axiam.AuthParam
