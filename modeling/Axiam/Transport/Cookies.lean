import Axiam.Core.Http
import Axiam.Core.Uri

/-!
# Cookies carried into the shared jar

`host_from_url` and `set_cookie_to_netscape_line` (`src/http_curl.cpp`): a `Set-Cookie` value of an
isolated exchange becomes a line of seven fields, which libcurl takes into the jar of the pooled
handles without asking what host it came from.

`Cookie.ofText` reads the same value by the grammar that RFC 6265 gives servers (section 4.1.1), and
`InScope` says what host may set a cookie for a domain.  `scoped_iff` compares the two.
-/

namespace Axiam.Transport

/-! ## The line -/

/-- `host_from_url`. -/
def hostFromUrl (url : Str) : Str :=
  let rest := match cutAt "://" url with | some (_, rest) => rest | none => url
  rest.takeWhile fun c => c != 47 && c != 58 && c != 63

/-- What the attributes of a cookie settle. -/
structure Scope where
  domain : Str
  includeSubdomains : Bool := false
  path : Str := "/"
  secure : Bool := false

/-- One turn of the attribute loop. -/
def Scope.attribute (scope : Scope) (text : Str) : Scope :=
  let attr := trim text
  let attrLower := lower attr
  if (str "domain=").isPrefixOf attrLower then
    { scope with domain := trim (attr.drop 7), includeSubdomains := true }
  else if (str "path=").isPrefixOf attrLower then
    let path := trim (attr.drop 5)
    { scope with path := if path = [] then "/" else path }
  else if attrLower = "secure" then { scope with secure := true }
  else scope

/-- The attribute loop, with a turn for every byte at most. -/
def attributeLoop : Nat → Scope → Str → Scope
  | 0, scope, _ => scope
  | turns + 1, scope, rest =>
      if rest = [] then scope
      else match cut 59 rest with
        | none => scope.attribute rest
        | some (attr, rest) => attributeLoop turns (scope.attribute attr) rest

def flag (b : Bool) : Str := if b then "TRUE" else "FALSE"

/-- The seven fields, with tabs between them. -/
def netscapeLine (scope : Scope) (name value : Str) : Str :=
  scope.domain ++ 9 :: (flag scope.includeSubdomains ++ 9 :: (scope.path ++ 9 ::
    (flag scope.secure ++ 9 :: (str "0" ++ 9 :: (name ++ 9 :: value)))))

/-- `set_cookie_to_netscape_line`. -/
def setCookieToNetscapeLine (requestHost rawSetCookie : Str) : Str :=
  let (nameValue, rest) :=
    match cut 59 rawSetCookie with
    | some (nameValue, rest) => (nameValue, rest)
    | none => (rawSetCookie, [])
  match cut 61 nameValue with
  | none => []
  | some (name, value) =>
      let name := trim name
      let value := trim value
      if name = [] then []
      else
        let scope := attributeLoop rest.length { domain := requestHost } rest
        if scope.domain = [] then [] else netscapeLine scope name value

example : setCookieToNetscapeLine "a.example" (str "sid=1; Path=/x; Secure; HttpOnly") =
    str "a.example\tFALSE\t/x\tTRUE\t0\tsid\t1" := by decide

/-! ## Cookies, as their grammar has them -/

/-- What a `Set-Cookie` value says of its cookie. -/
structure Cookie where
  name : Str
  value : Str
  /-- What the `Domain` attribute says, when there is one. -/
  domain : Option Str
  path : Str
  secure : Bool

/-- What stands behind `key` in an attribute. -/
def valueOf (key attr : Str) : Option Str :=
  if key.isPrefixOf (lower attr) then some (trim (attr.drop key.length)) else none

/-- Of attributes of one name, the last one counts. -/
def lastOf (key : Str) (attrs : List Str) : Option Str := (attrs.filterMap (valueOf key)).getLast?

/-- The attributes of a value: its fields behind the first `;`. -/
def attributes (raw : Str) : List Str := ((Uri.fields 59 raw).drop 1).map trim

/-- An empty path is `/`. -/
def pathOf (fallback : Str) : Option Str → Str
  | some path => if path = [] then "/" else path
  | none => fallback

/-- The cookie of a value that is written as section 4.1.1 has it: named, with its pair in front of
the first `;`, and of `Domain=`, `Path=` and `Secure` the last.  It is not what section 5.2 has a user
agent make of other texts (`Secure=1`, a space around the `=`, a path taken from the URL). -/
def Cookie.ofText (raw : Str) : Option Cookie := do
  let (name, value) ← cut 61 (raw.takeWhile (· != 59))
  if trim name = [] then none
  else some {
    name := trim name
    value := trim value
    domain := lastOf "domain=" (attributes raw)
    path := pathOf "/" (lastOf "path=" (attributes raw))
    secure := (attributes raw).any fun attr => lower attr == "secure" }

/-- A domain that the cookies of a URL's host may have: the host itself, as RFC 3986 divides the URL,
or, where that is a name and not an address, a suffix of it in front of which a dot stands.  A dot in
front of the domain is not read. -/
def InScope (domain url : Str) : Prop :=
  ∃ u, Uri.split url = some u ∧
    let host := lower u.authority.host
    let name := lower (if domain.head? = some 46 then domain.drop 1 else domain)
    name ≠ [] ∧ (name = host ∨
      (u.authority.bracketed = false ∧ Uri.isIpv4 host = false ∧ (46 :: name) <:+ host))

/-- A line is absent, or it is one line of the cookie's own fields, for a domain of the URL's host. -/
def Scoped (url raw line : Str) : Prop :=
  line = [] ∨
    ∃ cookie domain, Cookie.ofText raw = some cookie ∧
      Uri.fields 9 line = [domain, flag cookie.domain.isSome, cookie.path, flag cookie.secure,
        str "0", cookie.name, cookie.value] ∧
      10 ∉ line ∧ InScope domain url

/-! ## What the loop settles -/

/-- The loop takes the fields of what it is given, one after the other. -/
theorem attributeLoop_eq {turns : Nat} {rest : Str} (h : rest.length ≤ turns) (scope : Scope) :
    attributeLoop turns scope rest = (Uri.fields 59 rest).foldl Scope.attribute scope := by
  induction turns generalizing rest scope with
  | zero =>
      have hrest : rest = [] := List.eq_nil_of_length_eq_zero (by omega)
      rw [hrest]
      rfl
  | succ turns ih =>
      rw [attributeLoop]
      by_cases hrest : rest = []
      · rw [if_pos hrest, hrest]
        rfl
      · rw [if_neg hrest]
        cases hcut : cut 59 rest with
        | none =>
            rw [Uri.fields_of_notMem (cut_eq_none.mp hcut)]
            rfl
        | some parts =>
            obtain ⟨heq, hnot⟩ := cut_eq_some (a := parts.1) (b := parts.2) hcut
            have hlength : parts.2.length ≤ turns := by
              rw [heq] at h
              simp only [List.length_append, List.length_cons] at h
              omega
            rw [heq, Uri.fields_append _ hnot, List.foldl_cons]
            exact ih hlength _

/-- Texts that begin differently do not both begin `s`. -/
theorem head_of_isPrefixOf {c : UInt8} {key s : Str} (h : (c :: key).isPrefixOf s = true) :
    s.head? = some c := by
  cases s with
  | nil => exact nomatch h
  | cons d s =>
      simp only [List.isPrefixOf, Bool.and_eq_true, beq_iff_eq] at h
      rw [List.head?_cons, h.1]

/-- What one attribute settles: its domain or its path, or that the cookie is secure. -/
theorem attribute_eq (scope : Scope) (text : Str) :
    scope.attribute text =
      { domain := (valueOf "domain=" (trim text)).getD scope.domain
        includeSubdomains := scope.includeSubdomains || (valueOf "domain=" (trim text)).isSome
        path := pathOf scope.path (valueOf "path=" (trim text))
        secure := scope.secure || lower (trim text) == "secure" } := by
  have hseven : (str "domain=").length = 7 := by decide
  have hfive : (str "path=").length = 5 := by decide
  simp only [Scope.attribute, valueOf, hseven, hfive]
  by_cases hdomain : (str "domain=").isPrefixOf (lower (trim text)) = true
  · have hhead := head_of_isPrefixOf (c := 100) hdomain
    have hpath : ¬(str "path=").isPrefixOf (lower (trim text)) = true := fun h => by
      rw [head_of_isPrefixOf (c := 112) h] at hhead
      exact absurd hhead (by decide)
    have hsecure : lower (trim text) ≠ "secure" := fun h => by
      rw [h] at hhead
      exact absurd hhead (by decide)
    simp only [if_pos hdomain, if_neg hpath, beq_eq_false_iff_ne.mpr hsecure, Bool.or_false,
      Option.getD_some, Option.isSome_some, Bool.or_true]
    rfl
  · by_cases hpath : (str "path=").isPrefixOf (lower (trim text)) = true
    · have hsecure : lower (trim text) ≠ "secure" := fun h => by
        have hhead := head_of_isPrefixOf (c := 112) hpath
        rw [h] at hhead
        exact absurd hhead (by decide)
      simp only [if_neg hdomain, if_pos hpath, beq_eq_false_iff_ne.mpr hsecure, Bool.or_false,
        Option.getD_none, Option.isSome_none]
      rfl
    · simp only [if_neg hdomain, if_neg hpath, Option.getD_none, Option.isSome_none, Bool.or_false]
      by_cases hsecure : lower (trim text) = "secure"
      · rw [if_pos hsecure, beq_iff_eq.mpr hsecure, Bool.or_true]
        rfl
      · rw [if_neg hsecure, beq_eq_false_iff_ne.mpr hsecure, Bool.or_false]
        rfl

theorem lastOf_cons (key attr : Str) (attrs : List Str) :
    lastOf key (attr :: attrs) = (lastOf key attrs).or (valueOf key attr) := by
  rw [lastOf, lastOf, List.filterMap_cons]
  cases valueOf key attr with
  | none => rw [Option.or_none]
  | some v =>
      show (v :: attrs.filterMap (valueOf key)).getLast? = _
      rw [List.getLast?_cons]
      cases (attrs.filterMap (valueOf key)).getLast? <;> rfl

/-- What the loop leaves: of each attribute the last one. -/
theorem foldl_attribute (fields : List Str) (scope : Scope) :
    fields.foldl Scope.attribute scope =
      { domain := (lastOf "domain=" (fields.map trim)).getD scope.domain
        includeSubdomains := scope.includeSubdomains || (lastOf "domain=" (fields.map trim)).isSome
        path := pathOf scope.path (lastOf "path=" (fields.map trim))
        secure := scope.secure || (fields.map trim).any fun attr => lower attr == "secure" } := by
  induction fields generalizing scope with
  | nil => simp [lastOf, pathOf]
  | cons text fields ih =>
      rw [List.foldl_cons, ih, attribute_eq, List.map_cons, lastOf_cons, lastOf_cons, List.any_cons]
      congr 1
      · cases lastOf "domain=" (fields.map trim) <;> rfl
      · cases lastOf "domain=" (fields.map trim) <;> simp
      · cases lastOf "path=" (fields.map trim) <;> rfl
      · rw [Bool.or_assoc]

theorem takeWhile_cut {raw a b : Str} (h : cut 59 raw = some (a, b)) :
    raw.takeWhile (· != 59) = a := by
  obtain ⟨rfl, hnot⟩ := cut_eq_some h
  rw [List.takeWhile_append_of_pos]
  · simp
  · intro c hc
    simp only [bne_iff_ne, ne_eq]
    rintro rfl
    exact hnot hc

/-- The line is made of the cookie that the value has, for its `Domain` or else for the text that was
given for the host. -/
theorem setCookieToNetscapeLine_eq (requestHost raw : Str) :
    setCookieToNetscapeLine requestHost raw =
      match Cookie.ofText raw with
      | none => []
      | some cookie =>
          if cookie.domain.getD requestHost = [] then []
          else netscapeLine
            { domain := cookie.domain.getD requestHost
              includeSubdomains := cookie.domain.isSome
              path := cookie.path
              secure := cookie.secure } cookie.name cookie.value := by
  -- the pair and the attributes are the same texts on both sides
  have hparts : ∀ nameValue rest : Str, raw.takeWhile (· != 59) = nameValue →
      attributeLoop rest.length { domain := requestHost } rest =
        { domain := (lastOf "domain=" (attributes raw)).getD requestHost
          includeSubdomains := (lastOf "domain=" (attributes raw)).isSome
          path := pathOf "/" (lastOf "path=" (attributes raw))
          secure := (attributes raw).any fun attr => lower attr == "secure" } →
      (match cut 61 nameValue with
        | none => []
        | some (name, value) =>
            let name := trim name
            let value := trim value
            if name = [] then []
            else
              let scope := attributeLoop rest.length { domain := requestHost } rest
              if scope.domain = [] then [] else netscapeLine scope name value) =
      match Cookie.ofText raw with
      | none => []
      | some cookie =>
          if cookie.domain.getD requestHost = [] then []
          else netscapeLine
            { domain := cookie.domain.getD requestHost
              includeSubdomains := cookie.domain.isSome
              path := cookie.path
              secure := cookie.secure } cookie.name cookie.value := by
    intro nameValue rest htake hloop
    simp only [Cookie.ofText, htake, hloop]
    cases cut 61 nameValue with
    | none => rfl
    | some pair =>
        obtain ⟨name, value⟩ := pair
        by_cases hname : trim name = [] <;> simp [hname]
  rw [setCookieToNetscapeLine]
  cases hcut : cut 59 raw with
  | none =>
      have hnot := cut_eq_none.mp hcut
      have hattributes : attributes raw = [] := by
        rw [attributes, Uri.fields_of_notMem hnot]
        rfl
      apply hparts raw []
      · rw [List.takeWhile_eq_self_iff]
        intro c hc
        simp only [bne_iff_ne, ne_eq]
        rintro rfl
        exact hnot hc
      · rw [hattributes]
        rfl
  | some parts =>
      obtain ⟨a, b⟩ := parts
      obtain ⟨heq, hnot⟩ := cut_eq_some hcut
      have hattributes : attributes raw = (Uri.fields 59 b).map trim := by
        rw [attributes, heq, Uri.fields_append b hnot]
        rfl
      apply hparts a b (takeWhile_cut hcut)
      rw [attributeLoop_eq (le_refl _), foldl_attribute, hattributes]
      rfl

/-! ## When the line is the cookie's -/

/-- A text that can be a field of the line. -/
def Plain (s : Str) : Prop := 9 ∉ s ∧ 10 ∉ s

theorem length_fields (sep : UInt8) (s : Str) : (Uri.fields sep s).length = s.count sep + 1 := by
  induction s with
  | nil => rfl
  | cons c rest ih =>
      rw [Uri.fields]
      by_cases hc : c = sep
      · rw [if_pos hc, List.length_cons, ih, hc, List.count_cons_self]
      · rw [if_neg hc, List.count_cons_of_ne hc]
        cases hfields : Uri.fields sep rest with
        | nil =>
            rw [hfields, List.length_nil] at ih
            omega
        | cons f fs =>
            rw [hfields] at ih
            exact ih

theorem plain_flag (b : Bool) : Plain (flag b) := by
  cases b <;> exact ⟨by decide, by decide⟩

/-- Six tabs divide the line, and every other tab in it stands in one of the four texts. -/
theorem count_netscapeLine (scope : Scope) (name value : Str) :
    (netscapeLine scope name value).count 9 =
      6 + (scope.domain.count 9 + scope.path.count 9 + name.count 9 + value.count 9) := by
  have hflag : ∀ b, (flag b).count 9 = 0 := fun b => List.count_eq_zero.mpr (plain_flag b).1
  have hzero : (str "0").count 9 = 0 := by decide
  simp only [netscapeLine, List.count_append, List.count_cons_self, hflag, hzero]
  omega

theorem fields_netscapeLine {scope : Scope} {name value : Str} (hdomain : 9 ∉ scope.domain)
    (hpath : 9 ∉ scope.path) (hname : 9 ∉ name) (hvalue : 9 ∉ value) :
    Uri.fields 9 (netscapeLine scope name value) =
      [scope.domain, flag scope.includeSubdomains, scope.path, flag scope.secure, str "0", name,
        value] := by
  have hzero : 9 ∉ str "0" := by decide
  rw [netscapeLine, Uri.fields_append _ hdomain, Uri.fields_append _ (plain_flag _).1,
    Uri.fields_append _ hpath, Uri.fields_append _ (plain_flag _).1, Uri.fields_append _ hzero,
    Uri.fields_append _ hname, Uri.fields_of_notMem hvalue]

theorem newline_netscapeLine (scope : Scope) (name value : Str) :
    10 ∈ netscapeLine scope name value ↔
      10 ∈ scope.domain ∨ 10 ∈ scope.path ∨ 10 ∈ name ∨ 10 ∈ value := by
  have hflag : ∀ b, 10 ∉ flag b := fun b => (plain_flag b).2
  have hzero : 10 ∉ str "0" := by decide
  have htab : (10 : UInt8) ≠ 9 := by decide
  simp only [netscapeLine, List.mem_append, List.mem_cons, hflag, hzero, htab, false_or]

/-- The line is one line of the cookie's own fields, for a domain of the host that was asked, exactly
when no text of the cookie has a tab or a newline, and its `Domain` (without one, what
`host_from_url` cuts out of the URL) is a domain of that host. -/
theorem scoped_iff (url raw : Str) :
    Scoped url raw (setCookieToNetscapeLine (hostFromUrl url) raw) ↔
      ∀ cookie, Cookie.ofText raw = some cookie →
        cookie.domain.getD (hostFromUrl url) = [] ∨
          (Plain cookie.name ∧ Plain cookie.value ∧ Plain cookie.path ∧
            Plain (cookie.domain.getD (hostFromUrl url)) ∧
            InScope (cookie.domain.getD (hostFromUrl url)) url) := by
  rw [setCookieToNetscapeLine_eq]
  cases hcookie : Cookie.ofText raw with
  | none => exact ⟨fun _ _ h => (Option.some_ne_none _ h.symm).elim, fun _ => .inl rfl⟩
  | some cookie =>
      show Scoped url raw (if cookie.domain.getD (hostFromUrl url) = [] then [] else _) ↔ _
      by_cases hempty : cookie.domain.getD (hostFromUrl url) = []
      · rw [if_pos hempty]
        refine ⟨fun _ c hc => ?_, fun _ => .inl rfl⟩
        obtain rfl := Option.some.inj hc
        exact .inl hempty
      · rw [if_neg hempty]
        constructor
        · intro hscoped c hc
          obtain rfl := Option.some.inj hc
          obtain hnone | ⟨c, domain, hc', hfields, hnewline, hin⟩ := hscoped
          · exact absurd (congrArg (List.count 9) hnone) (by rw [count_netscapeLine]; simp)
          · rw [hcookie] at hc'
            obtain rfl := Option.some.inj hc'
            -- seven fields leave no tab for the texts
            have hcount := congrArg List.length hfields
            rw [length_fields, count_netscapeLine] at hcount
            simp only [List.length_cons, List.length_nil] at hcount
            have hdomain := List.count_eq_zero.mp
              (show (cookie.domain.getD (hostFromUrl url)).count 9 = 0 by omega)
            have hpath := List.count_eq_zero.mp (show cookie.path.count 9 = 0 by omega)
            have hname := List.count_eq_zero.mp (show cookie.name.count 9 = 0 by omega)
            have hvalue := List.count_eq_zero.mp (show cookie.value.count 9 = 0 by omega)
            rw [newline_netscapeLine] at hnewline
            simp only [not_or] at hnewline
            rw [fields_netscapeLine hdomain hpath hname hvalue] at hfields
            obtain ⟨rfl, -⟩ := List.cons.inj hfields
            exact .inr ⟨⟨hname, hnewline.2.2.1⟩, ⟨hvalue, hnewline.2.2.2⟩, ⟨hpath, hnewline.2.1⟩,
              ⟨hdomain, hnewline.1⟩, hin⟩
        · intro hplain
          obtain hdomain | ⟨hname, hvalue, hpath, hdomain, hin⟩ := hplain cookie rfl
          · exact absurd hdomain hempty
          · refine .inr ⟨cookie, _, hcookie,
              fields_netscapeLine hdomain.1 hpath.1 hname.1 hvalue.1, ?_, hin⟩
            rw [newline_netscapeLine]
            simp only [not_or]
            exact ⟨hdomain.2, hpath.2, hname.2, hvalue.2⟩

/-- A server of one host gives its cookie to another: the line names the host that the attribute
names. -/
theorem elsewhere_notScoped :
    ¬Scoped "https://api.example.com/v1" "sid=1; Domain=other.example; Path=/"
      (setCookieToNetscapeLine (hostFromUrl "https://api.example.com/v1")
        "sid=1; Domain=other.example; Path=/") := by
  have hline : setCookieToNetscapeLine (hostFromUrl "https://api.example.com/v1")
      "sid=1; Domain=other.example; Path=/" =
        str "other.example\tTRUE\t/\tFALSE\t0\tsid\t1" := by decide
  have hfields : (Uri.fields 9 (str "other.example\tTRUE\t/\tFALSE\t0\tsid\t1")).head? =
      some "other.example" := by decide
  have hurl : (Uri.split "https://api.example.com/v1").map (·.authority) =
      some ⟨none, false, "api.example.com", none⟩ := by decide
  rw [hline]
  intro hscoped
  obtain hnone | ⟨cookie, domain, -, hsplit, -, u, hu, -, hin⟩ := hscoped
  · exact absurd hnone (by decide)
  · rw [hsplit] at hfields
    obtain rfl := Option.some.inj hfields
    rw [hu] at hurl
    have hauthority : u.authority = ⟨none, false, "api.example.com", none⟩ := Option.some.inj hurl
    rw [hauthority] at hin
    exact absurd hin (by decide)

/-! ## Ordinary URLs -/

/-- Where the URL names no user and its host is not in brackets, `host_from_url` cuts out the host,
unless a fragment follows it at once. -/
theorem hostFromUrl_eq {url : Str} {u : Uri} (hu : Uri.split url = some u)
    (huser : u.authority.userinfo = none) (hname : u.authority.bracketed = false)
    (hends : u.path ≠ [] ∨ u.authority.port ≠ none ∨ u.query ≠ none ∨ u.fragment = none) :
    hostFromUrl url = u.authority.host := by
  obtain ⟨a, htext, hscheme, hauthority, hplain, hpath, -, -⟩ := Uri.split_divides hu
  -- no user, so the authority is the host and the port
  have hnone : cutLast 64 a = none := by
    simp only [Uri.Authority.ofText, Option.bind_eq_bind, Option.bind_eq_some_iff] at hauthority
    obtain ⟨parts, -, heq⟩ := hauthority
    have hmap := congrArg Uri.Authority.userinfo (Option.some.inj heq)
    rw [huser] at hmap
    exact Option.map_eq_none_iff.mp hmap
  have hhost : ∃ tail, a = u.authority.host ++ tail ∧ 58 ∉ u.authority.host ∧
      (tail = [] ∧ u.authority.port = none ∨ ∃ port, tail = 58 :: port) := by
    have hparts := Uri.Authority.ofText_eq_some hauthority
    rw [afterLast_of_notMem (cutLast_eq_none.mp hnone), hname] at hparts
    unfold Uri.hostPort at hparts
    split at hparts
    · simp only [Option.bind_eq_bind, Option.bind_eq_some_iff] at hparts
      obtain ⟨parts, -, hafter⟩ := hparts
      split at hafter <;> simp at hafter
    · cases hcut : cut 58 a with
      | none =>
          rw [hcut] at hparts
          simp only [Option.some.injEq, Prod.mk.injEq, true_and] at hparts
          rw [← hparts.1]
          exact ⟨[], (List.append_nil a).symm, cut_eq_none.mp hcut, .inl ⟨rfl, hparts.2.symm⟩⟩
      | some parts =>
          rw [hcut] at hparts
          simp only [Option.some.injEq, Prod.mk.injEq, true_and] at hparts
          obtain ⟨heq, hnot⟩ := cut_eq_some (a := parts.1) (b := parts.2) hcut
          rw [← hparts.1]
          exact ⟨58 :: parts.2, heq, hnot, .inr ⟨parts.2, rfl⟩⟩
  obtain ⟨tail, ha, hcolon, htail⟩ := hhost
  have hcutAt : cutAt "://" url = some (u.scheme, a ++ (u.path ++ u.suffix)) := by
    rw [htext]
    show cutAt (58 :: [47, 47]) _ = _
    rw [cutAt_skip hscheme]
    have hself := cutAt_self (c := 58) [47, 47] (a ++ (u.path ++ u.suffix))
    rw [List.cons_append] at hself
    show Option.map _ (cutAt (58 :: [47, 47]) (58 :: ([47, 47] ++ (a ++ (u.path ++ u.suffix))))) = _
    rw [hself]
    simp
  have hstop : tail ++ (u.path ++ u.suffix) = [] ∨
      ∃ c rest, tail ++ (u.path ++ u.suffix) = c :: rest ∧ (c = 47 ∨ c = 58 ∨ c = 63) := by
    obtain ⟨rfl, hport⟩ | ⟨port, rfl⟩ := htail
    · obtain hempty | ⟨rest, hrest⟩ := hpath
      · rw [hempty, Uri.suffix]
        cases hquery : u.query with
        | some query => exact .inr ⟨63, _, rfl, by simp⟩
        | none =>
            have hfragment : u.fragment = none := by
              simpa [hempty, hport, hquery] using hends
            rw [hfragment]
            exact .inl rfl
      · rw [hrest]
        exact .inr ⟨47, _, rfl, by simp⟩
    · exact .inr ⟨58, _, rfl, by simp⟩
  have htake : ∀ c ∈ u.authority.host, (c != 47 && c != 58 && c != 63) = true := by
    intro c hc
    have hends := hplain c (by rw [ha]; exact List.mem_append_left _ hc)
    simp only [Uri.endsAuthority, Bool.or_eq_false_iff, beq_eq_false_iff_ne] at hends
    simp only [Bool.and_eq_true, bne_iff_ne]
    refine ⟨⟨hends.1.1, ?_⟩, hends.1.2⟩
    rintro rfl
    exact hcolon hc
  show (match cutAt "://" url with | some (_, rest) => rest | none => url).takeWhile _ = _
  rw [hcutAt]
  show (a ++ (u.path ++ u.suffix)).takeWhile _ = _
  rw [ha, List.append_assoc, List.takeWhile_append_of_pos htake]
  obtain hnil | ⟨c, rest, hcons, hc⟩ := hstop
  · rw [hnil, List.takeWhile_nil, List.append_nil]
  · rw [hcons, List.takeWhile_cons_of_neg, List.append_nil]
    obtain rfl | rfl | rfl := hc <;> decide

end Axiam.Transport
