import Axiam.Core.AuthParam
import Axiam.Lib.Prog
import Axiam.Mcp.AbsoluteUri

/-!
# Bearer challenges

`bearer_challenge` (`src/mcp.cpp`): the value of a `WWW-Authenticate` header.  Every value is quoted
and none is escaped, so the characters a value may have are checked, and what passes is read back
as it was given.
-/

namespace Axiam.Mcp

open Axiam.AuthParam Axiam.Lib

/-- A code of RFC 6750, or a value of the enumeration that names none. -/
inductive BearerChallengeError where
  | invalidRequest
  | invalidToken
  | insufficientScope
  | unnamed (value : Int)
  deriving DecidableEq

structure BearerChallengeOptions where
  resourceMetadataUrl : Str
  error : Option BearerChallengeError := none
  errorDescription : Option Str := none
  scope : Option Str := none

/-- `error_wire_name`. -/
def errorWireName : BearerChallengeError → Except Str Str
  | .invalidRequest => .ok "invalid_request"
  | .invalidToken => .ok "invalid_token"
  | .insufficientScope => .ok "insufficient_scope"
  | .unnamed _ =>
      .error (refusal "error" "must be one of invalid_request, invalid_token, insufficient_scope")

/-- `append`. -/
def append (params name value : Str) : Str :=
  (if params = [] then [] else params ++ str ", ") ++ name ++ str "=\"" ++ value ++ str "\""

/-- What is appended of an option, when it is given and passes. -/
def appendGiven {α : Type} (params name : Str) (check : α → Except Str Str) :
    Option α → Except Str Str
  | none => .ok params
  | some given => (check given).map (append params name)

def checkDescription (description : Str) : Except Str Str :=
  if isAll description isNqschar then .ok description
  else .error (refusal "error_description"
    (str "must be one or more NQSCHAR (no '\"', no '\\', no control character, no " ++
      "non-ASCII) — a value needing an escape does not belong in a challenge"))

def checkScope (scope : Str) : Except Str Str :=
  if scope = [] then
    .error (refusal "scope" "must be one or more scope tokens joined by a single space")
  else if (Uri.fields 32 scope).all (isAll · isNqchar) then .ok scope
  else .error (refusal "scope"
    (str "\"" ++ scope ++ str ("\" is not a space-joined list of scope tokens — no " ++
      "leading, trailing or doubled space, and no empty token")))

def checkMetadataUrl (url : Str) : Except Str Str :=
  match requireAbsoluteUri "resource_metadata" url kLocator with
  | .error e => .error e
  | .ok _ =>
      if isAll url isNqchar then .ok url
      else .error (refusal "resource_metadata"
        (str "must carry no '\"', no '\\', no space and no control character — a correctly " ++
          "encoded URL cannot, so one that does has not been encoded"))

/-- `bearer_challenge`. -/
def bearerChallenge (options : BearerChallengeOptions) : Except Str Str := do
  let params ← appendGiven [] "error" errorWireName options.error
  let params ← appendGiven params "error_description" checkDescription options.errorDescription
  let params ← appendGiven params "scope" checkScope options.scope
  let url ← checkMetadataUrl options.resourceMetadataUrl
  return str "Bearer " ++ append params "resource_metadata" url

example : bearerChallenge { resourceMetadataUrl := "https://rs/m", scope := some (str "a b") } =
    .ok (str "Bearer scope=\"a b\", resource_metadata=\"https://rs/m\"") := by
  rfl

/-! ## What is given -/

/-- The name of a code. -/
def BearerChallengeError.name? : BearerChallengeError → Option Str
  | .invalidRequest => some "invalid_request"
  | .invalidToken => some "invalid_token"
  | .insufficientScope => some "insufficient_scope"
  | .unnamed _ => none

namespace BearerChallengeOptions

/-- The parameters that are given, under their names and in their order. -/
def params (options : BearerChallengeOptions) : List (Str × Str) :=
  (options.error.bind BearerChallengeError.name?).toList.map (str "error", ·) ++
    (options.errorDescription.toList.map (str "error_description", ·) ++
      (options.scope.toList.map (str "scope", ·) ++
        [(str "resource_metadata", options.resourceMetadataUrl)]))

/-- What RFC 6750 lets a challenge say: a named code, a description without a quote or an escape,
scope tokens with one space between, and the URL of a document. -/
structure Representable (options : BearerChallengeOptions) : Prop where
  error : ∀ e ∈ options.error, ∃ name, e.name? = some name
  description : ∀ d ∈ options.errorDescription, d ≠ [] ∧ ∀ c ∈ d, isNqschar c = true
  scope : ∀ s ∈ options.scope,
    ∀ token ∈ Uri.fields 32 s, token ≠ [] ∧ ∀ c ∈ token, isNqchar c = true
  url : ∃ p, parseAbsoluteUri options.resourceMetadataUrl = some p ∧ isSecure p = true
  url_chars : ∀ c ∈ options.resourceMetadataUrl, isNqchar c = true

end BearerChallengeOptions

theorem isAll_iff {value : Str} {q : UInt8 → Bool} :
    isAll value q = true ↔ value ≠ [] ∧ ∀ c ∈ value, q c = true := by
  unfold isAll
  rw [Bool.and_eq_true, bne_iff_ne, List.all_eq_true]

/-! ## What is emitted -/

theorem writeParams_cons_ne_nil (p : Str × Str) (rest : List (Str × Str)) :
    writeParams (p :: rest) ≠ [] := by
  cases rest <;> simp [writeParams, writeParam]

/-- A parameter is appended behind those before it. -/
theorem append_writeParams (qs : List (Str × Str)) (name value : Str) :
    append (writeParams qs) name value = writeParams (qs ++ [(name, value)]) := by
  have hmark : str "=\"" = [61, 34] := by decide
  have hquote : str "\"" = [34] := by decide
  have hcomma : str ", " = [44, 32] := by decide
  unfold append
  rw [hmark, hquote, hcomma]
  induction qs with
  | nil => simp [writeParams, writeParam]
  | cons p rest ih =>
      rw [if_neg (writeParams_cons_ne_nil p rest)]
      cases rest with
      | nil => simp [writeParams, writeParam]
      | cons q rest =>
          rw [if_neg (writeParams_cons_ne_nil q rest)] at ih
          have hstep (more : List (Str × Str)) : writeParams (p :: q :: rest ++ more) =
              writeParam p ++ 44 :: 32 :: writeParams (q :: rest ++ more) := rfl
          rw [hstep, ← ih]
          simp [writeParams]

/-- What is given is checked, and appended as the check passes it. -/
theorem appendGiven_eq_ok {α : Type} {qs : List (Str × Str)} {name out : Str}
    {check : α → Except Str Str} {given : Option α} :
    appendGiven (writeParams qs) name check given = .ok out ↔
      (∀ g ∈ given, ∃ value, check g = .ok value) ∧
        out = writeParams
          (qs ++ (given.bind fun g => (check g).toOption).toList.map (name, ·)) := by
  cases given with
  | none => simp [appendGiven, eq_comm]
  | some g =>
      cases hcheck : check g with
      | error e => simp [appendGiven, hcheck, Except.map]
      | ok value =>
          have happend := append_writeParams qs name value
          simp [appendGiven, hcheck, Except.map, Except.toOption, happend, eq_comm]

theorem errorWireName_eq_ok {e : BearerChallengeError} {v : Str} :
    errorWireName e = .ok v ↔ e.name? = some v := by
  cases e <;> simp [errorWireName, BearerChallengeError.name?]

theorem checkDescription_eq_ok {d v : Str} :
    checkDescription d = .ok v ↔ (d ≠ [] ∧ ∀ c ∈ d, isNqschar c = true) ∧ d = v := by
  unfold checkDescription
  rw [← isAll_iff]
  split
  next h => simp [h]
  next h => simp [h]

theorem checkScope_eq_ok {s v : Str} :
    checkScope s = .ok v ↔
      (∀ token ∈ Uri.fields 32 s, token ≠ [] ∧ ∀ c ∈ token, isNqchar c = true) ∧ s = v := by
  have hall : (Uri.fields 32 s).all (isAll · isNqchar) = true ↔
      ∀ token ∈ Uri.fields 32 s, token ≠ [] ∧ ∀ c ∈ token, isNqchar c = true := by
    rw [List.all_eq_true]
    simp only [isAll_iff]
  unfold checkScope
  rw [← hall]
  by_cases hempty : s = []
  · have hnone : (Uri.fields 32 ([] : Str)).all (isAll · isNqchar) = false := by decide
    simp [hempty, hnone]
  · rw [if_neg hempty]
    split
    next h => simp [h]
    next h => simp [h]

theorem checkMetadataUrl_eq_ok {url v : Str} :
    checkMetadataUrl url = .ok v ↔
      ((∃ p, parseAbsoluteUri url = some p ∧ isSecure p = true) ∧ ∀ c ∈ url, isNqchar c = true) ∧
        url = v := by
  unfold checkMetadataUrl
  cases hrequire : requireAbsoluteUri "resource_metadata" url kLocator with
  | error e =>
      have hno : ¬∃ p, parseAbsoluteUri url = some p ∧ isSecure p = true := by
        rintro ⟨p, hparse, hsecure⟩
        rw [requireAbsoluteUri_eq_ok.mpr ⟨hparse, fun _ => rfl, fun _ => rfl, hsecure⟩] at hrequire
        cases hrequire
      simp [hno]
  | ok p =>
      obtain ⟨hparse, -, -, hsecure⟩ := requireAbsoluteUri_eq_ok.mp hrequire
      have hne : url ≠ [] := by
        intro hempty
        have hnone : parseAbsoluteUri ([] : Str) = none := by decide
        rw [hempty, hnone] at hparse
        cases hparse
      by_cases hchars : isAll url isNqchar = true
      · have hall := (isAll_iff.mp hchars).2
        simp only [hchars, hparse, if_true, Option.some.injEq, exists_eq_left', hsecure, true_and,
          Except.ok.injEq]
        exact ⟨fun h => ⟨hall, h⟩, fun h => h.2⟩
      · have hno : ¬∀ c ∈ url, isNqchar c = true := fun h => hchars (isAll_iff.mpr ⟨hne, h⟩)
        simp [hchars, hno]

/-- The options that pass their checks are the representable ones, and are appended as given. -/
theorem representable_iff {options : BearerChallengeOptions} :
    options.Representable ↔
      (∀ e ∈ options.error, ∃ v, errorWireName e = .ok v) ∧
        (∀ d ∈ options.errorDescription, ∃ v, checkDescription d = .ok v) ∧
        (∀ s ∈ options.scope, ∃ v, checkScope s = .ok v) ∧
        ∃ v, checkMetadataUrl options.resourceMetadataUrl = .ok v := by
  simp only [errorWireName_eq_ok, checkDescription_eq_ok, checkScope_eq_ok, checkMetadataUrl_eq_ok,
    exists_and_left, exists_eq', and_true]
  constructor
  · intro h
    exact ⟨h.error, h.description, h.scope, h.url, h.url_chars⟩
  · intro h
    obtain ⟨herror, hdescription, hscope, hurl, hchars⟩ := h
    exact ⟨herror, hdescription, hscope, hurl, hchars⟩

/-- The parameters, as the checks pass them. -/
theorem params_eq {options : BearerChallengeOptions} (h : options.Representable) :
    options.params =
      (options.error.bind fun e => (errorWireName e).toOption).toList.map (str "error", ·) ++
        (options.errorDescription.bind fun d => (checkDescription d).toOption).toList.map
          (str "error_description", ·) ++
        (options.scope.bind fun s => (checkScope s).toOption).toList.map (str "scope", ·) ++
        [(str "resource_metadata", options.resourceMetadataUrl)] := by
  have herror : (options.error.bind fun e => (errorWireName e).toOption) =
      options.error.bind BearerChallengeError.name? := by
    refine congrArg options.error.bind (funext fun e => ?_)
    cases e <;> rfl
  have hdescription : (options.errorDescription.bind fun d => (checkDescription d).toOption) =
      options.errorDescription := by
    cases hgiven : options.errorDescription with
    | none => rfl
    | some d =>
        have hok := checkDescription_eq_ok.mpr ⟨h.description d hgiven, rfl⟩
        rw [Option.bind_some, hok]
        rfl
  have hscope : (options.scope.bind fun s => (checkScope s).toOption) = options.scope := by
    cases hgiven : options.scope with
    | none => rfl
    | some s =>
        have hok := checkScope_eq_ok.mpr ⟨h.scope s hgiven, rfl⟩
        rw [Option.bind_some, hok]
        rfl
  rw [herror, hdescription, hscope, List.append_assoc, List.append_assoc]
  rfl

/-- A challenge is what is representable, written with every value quoted. -/
theorem bearerChallenge_eq_ok {options : BearerChallengeOptions} {out : Str} :
    bearerChallenge options = .ok out ↔
      options.Representable ∧ out = str "Bearer " ++ writeParams options.params := by
  have hempty : ([] : Str) = writeParams [] := rfl
  constructor
  · intro h
    unfold bearerChallenge at h
    rw [hempty] at h
    obtain ⟨first, hfirst, h⟩ := except_bind_eq_ok.mp h
    obtain ⟨herror, rfl⟩ := appendGiven_eq_ok.mp hfirst
    obtain ⟨second, hsecond, h⟩ := except_bind_eq_ok.mp h
    obtain ⟨hdescription, rfl⟩ := appendGiven_eq_ok.mp hsecond
    obtain ⟨third, hthird, h⟩ := except_bind_eq_ok.mp h
    obtain ⟨hscope, rfl⟩ := appendGiven_eq_ok.mp hthird
    obtain ⟨url, hurl, h⟩ := except_bind_eq_ok.mp h
    have hrepresentable := representable_iff.mpr ⟨herror, hdescription, hscope, url, hurl⟩
    obtain ⟨-, rfl⟩ := checkMetadataUrl_eq_ok.mp hurl
    cases h
    rw [append_writeParams, params_eq hrepresentable]
    exact ⟨hrepresentable, rfl⟩
  · rintro ⟨hrepresentable, rfl⟩
    obtain ⟨herror, hdescription, hscope, url, hurl⟩ := representable_iff.mp hrepresentable
    obtain ⟨-, rfl⟩ := checkMetadataUrl_eq_ok.mp hurl
    unfold bearerChallenge
    rw [hempty, except_bind_eq_ok]
    refine ⟨_, appendGiven_eq_ok.mpr ⟨herror, rfl⟩, ?_⟩
    rw [except_bind_eq_ok]
    refine ⟨_, appendGiven_eq_ok.mpr ⟨hdescription, rfl⟩, ?_⟩
    rw [except_bind_eq_ok]
    refine ⟨_, appendGiven_eq_ok.mpr ⟨hscope, rfl⟩, ?_⟩
    rw [except_bind_eq_ok]
    refine ⟨_, hurl, ?_⟩
    rw [append_writeParams, params_eq hrepresentable]
    rfl

/-! ## What is read -/

theorem isQdtext_of_isNqschar {c : UInt8} (h : isNqschar c = true) :
    isQdtext c = true ∧ 0x20 ≤ c ∧ c ≤ 0x7E := by
  revert c
  apply forall_byte
  decide +kernel

theorem printable_of_isTchar {c : UInt8} (h : isTchar c = true) : 0x20 ≤ c ∧ c ≤ 0x7E := by
  revert c
  apply forall_byte
  decide +kernel

theorem isNqschar_of_isNqchar {c : UInt8} (h : isNqchar c = true) : isNqschar c = true := by
  unfold isNqschar
  rw [h, Bool.or_true]

/-- Every value given is made of `NQSCHAR`. -/
theorem nqschar_of_mem_params {options : BearerChallengeOptions} (h : options.Representable)
    {p : Str × Str} (hp : p ∈ options.params) : ∀ c ∈ p.2, isNqschar c = true := by
  unfold BearerChallengeOptions.params at hp
  simp only [List.mem_append, List.mem_map, Option.mem_toList, List.mem_singleton] at hp
  rcases hp with ⟨name, hname, rfl⟩ | ⟨d, hd, rfl⟩ | ⟨s, hs, rfl⟩ | rfl
  · obtain ⟨e, -, hname⟩ := Option.bind_eq_some_iff.mp hname
    cases e with
    | unnamed => cases hname
    | _ =>
        cases hname
        exact forall_mem_of_all (by decide)
  · exact (h.description d hd).2
  · intro c hc
    by_cases hspace : c = 32
    · rw [hspace]
      rfl
    · obtain ⟨token, htoken, hmem⟩ := Uri.exists_mem_fields hc hspace
      exact isNqschar_of_isNqchar ((h.scope s hs token htoken).2 c hmem)
  · exact fun c hc => isNqschar_of_isNqchar (h.url_chars c hc)

theorem plain_of_mem_params {options : BearerChallengeOptions} (h : options.Representable) :
    ∀ p ∈ options.params, Plain p := by
  intro p hp
  refine ⟨?_, fun c hc => (isQdtext_of_isNqschar (nqschar_of_mem_params h hp c hc)).1⟩
  unfold BearerChallengeOptions.params at hp
  simp only [List.mem_append, List.mem_map, Option.mem_toList, List.mem_singleton] at hp
  have hnames : ∀ name ∈ [str "error", str "error_description", str "scope",
      str "resource_metadata"], Token name := by
    simp only [List.forall_mem_cons, List.not_mem_nil, false_implies, implies_true, and_true]
    exact ⟨⟨by decide, forall_mem_of_all (by decide)⟩, ⟨by decide, forall_mem_of_all (by decide)⟩,
      ⟨by decide, forall_mem_of_all (by decide)⟩, ⟨by decide, forall_mem_of_all (by decide)⟩⟩
  rcases hp with ⟨_, _, rfl⟩ | ⟨_, _, rfl⟩ | ⟨_, _, rfl⟩ | rfl <;> exact hnames _ (by simp)

/-- No name is given twice. -/
theorem params_nodup (options : BearerChallengeOptions) :
    (options.params.map Prod.fst).Nodup := by
  unfold BearerChallengeOptions.params
  cases options.error.bind BearerChallengeError.name? <;> cases options.errorDescription <;>
    cases options.scope <;>
      simp only [Option.toList_none, Option.toList_some, List.map_nil, List.map_cons,
        List.nil_append, List.cons_append] <;> decide

/-- A challenge that is emitted reads as the parameters given and in no other way, and nothing
else is emitted. -/
theorem bearerChallenge_reads (options : BearerChallengeOptions) :
    ((∃ out, bearerChallenge options = .ok out) ↔ options.Representable) ∧
      ∀ out, bearerChallenge options = .ok out →
        (∀ scheme ps, Challenge out scheme ps ↔ scheme = "Bearer" ∧ ps = options.params) ∧
          (options.params.map Prod.fst).Nodup ∧ ∀ c ∈ out, 0x20 ≤ c ∧ c ≤ 0x7E := by
  constructor
  · constructor
    · intro h
      obtain ⟨out, h⟩ := h
      exact (bearerChallenge_eq_ok.mp h).1
    · exact fun h => ⟨_, bearerChallenge_eq_ok.mpr ⟨h, rfl⟩⟩
  · intro out h
    obtain ⟨hrepresentable, rfl⟩ := bearerChallenge_eq_ok.mp h
    have hscheme : str "Bearer " = str "Bearer" ++ [32] := by decide
    have hne : options.params ≠ [] := by
      unfold BearerChallengeOptions.params
      simp
    refine ⟨fun scheme ps => ?_, params_nodup options, ?_⟩
    · rw [hscheme, List.append_assoc]
      exact challenge_writeParams_iff ⟨by decide, forall_mem_of_all (by decide)⟩ hne
        (plain_of_mem_params hrepresentable)
    · intro c hc
      rcases List.mem_append.mp hc with hbearer | hparams
      · have hbytes : ∀ d ∈ str "Bearer ", 0x20 ≤ d ∧ d ≤ 0x7E := forall_mem_of_all (by decide)
        exact hbytes c hbearer
      · rcases mem_writeParams hparams with hmark | ⟨p, hp, hname | hvalue⟩
        · have hmarks : ∀ d ∈ ([32, 34, 44, 61] : Str), 0x20 ≤ d ∧ d ≤ 0x7E :=
            forall_mem_of_all (by decide)
          exact hmarks c hmark
        · exact printable_of_isTchar ((plain_of_mem_params hrepresentable p hp).1.2 c hname)
        · exact (isQdtext_of_isNqschar (nqschar_of_mem_params hrepresentable hp c hvalue)).2

end Axiam.Mcp
