import Axiam.Core.Uri
import Axiam.Transport.Cookies

/-!
# One transfer

What `CurlTransport::transfer` sets on a libcurl handle for a request, and what `header_cb` makes of
the lines that come back (`src/http_curl.cpp`).  A handle is used for one request after another and
forgets nothing by itself, so that whatever an earlier request left on it has to be set again.
-/

namespace Axiam.Transport

/-! ## The lines of a response -/

/-- `headers[name] = value`: a name that is there keeps its spelling. -/
def setHeader (headers : HeaderMap) (name value : Str) : HeaderMap :=
  if headers.any (fun h => lower h.1 == lower name) then
    headers.map fun h => if lower h.1 == lower name then (h.1, value) else h
  else headers ++ [(name, value)]

def isLineEnd (c : UInt8) : Bool := c == 13 || c == 10

/-- The trailing CR and LF are stripped. -/
def stripLine (line : Str) : Str := (line.reverse.dropWhile isLineEnd).reverse

/-- `header_cb`. -/
def headerCb (resp : HttpResponse) (buffer : Str) : HttpResponse :=
  match cut 58 (stripLine buffer) with
  | none => resp
  | some (name, value) =>
      let value := value.dropWhile isBlank
      { resp with
        setCookies :=
          if lower name = "set-cookie" then resp.setCookies ++ [value] else resp.setCookies
        headers := setHeader resp.headers name value }

/-- A name and a value that a line can hold. -/
structure Field (name value : Str) : Prop where
  name : 58 ∉ name
  start : ∀ c, value.head? = some c → isBlank c = false
  stop : ∀ c, value.getLast? = some c → isLineEnd c = false

/-- The line of a field. -/
def fieldLine (field : Str × Str) : Str := field.1 ++ str ": " ++ field.2 ++ [13, 10]

theorem find?_setHeader (headers : HeaderMap) (name value n : Str) :
    (setHeader headers name value).find? n =
      if lower n = lower name then some value else headers.find? n := by
  unfold setHeader HeaderMap.find?
  by_cases hany : headers.any (fun h => lower h.1 == lower name) = true
  · -- what is replaced keeps its name, so the same entry is found
    have hnames : (fun h : Str × Str => lower h.1 == lower n) ∘
        (fun h => if lower h.1 == lower name then (h.1, value) else h) =
        fun h => lower h.1 == lower n := by
      funext h
      show (lower (if lower h.1 == lower name then (h.1, value) else h).1 == lower n) = _
      split <;> rfl
    rw [if_pos hany, List.find?_map, hnames, Option.map_map]
    by_cases hn : lower n = lower name
    · rw [if_pos hn, hn]
      obtain ⟨h, hh, hname⟩ := List.any_eq_true.mp hany
      cases hfind : List.find? (fun h => lower h.1 == lower name) headers with
      | none => exact absurd hname (List.find?_eq_none.mp hfind h hh)
      | some found =>
          have hfound : (lower found.1 == lower name) = true :=
            List.find?_some (p := fun h : Str × Str => lower h.1 == lower name) hfind
          exact congrArg (fun h : Str × Str => some h.2) (if_pos hfound)
    · rw [if_neg hn]
      cases hfind : List.find? (fun h => lower h.1 == lower n) headers with
      | none => rfl
      | some found =>
          have hfound : (lower found.1 == lower n) = true :=
            List.find?_some (p := fun h : Str × Str => lower h.1 == lower n) hfind
          have hother : ¬(lower found.1 == lower name) = true := fun heq =>
            hn ((beq_iff_eq.mp hfound).symm.trans (beq_iff_eq.mp heq))
          exact congrArg (fun h : Str × Str => some h.2) (if_neg hother)
  · rw [if_neg hany, List.find?_append]
    by_cases hn : lower n = lower name
    · have hnone : List.find? (fun h => lower h.1 == lower n) headers = none := by
        refine List.find?_eq_none.mpr fun h hh heq => hany (List.any_eq_true.mpr ⟨h, hh, ?_⟩)
        rw [← hn]
        exact heq
      have hnew : List.find? (fun h => lower h.1 == lower n) [(name, value)] = some (name, value) :=
        List.find?_cons_of_pos (by simpa using hn.symm)
      rw [if_pos hn, hnone, Option.none_or, hnew]
      rfl
    · have hnew : List.find? (fun h => lower h.1 == lower n) [(name, value)] = none :=
        List.find?_cons_of_neg (by simpa using fun heq => hn (Eq.symm heq))
      rw [if_neg hn, hnew, Option.or_none]

theorem stripLine_fieldLine {name value : Str} (h : Field name value) :
    stripLine (fieldLine (name, value)) = name ++ str ": " ++ value := by
  have hkept : ∀ text : Str, (∀ c, text.getLast? = some c → isLineEnd c = false) →
      stripLine (text ++ [13, 10]) = text := by
    intro text htext
    unfold stripLine
    rw [List.reverse_append]
    show ((13 :: text.reverse).dropWhile isLineEnd).reverse = text
    show (text.reverse.dropWhile isLineEnd).reverse = text
    cases hreverse : text.reverse with
    | nil => rw [List.reverse_eq_nil_iff.mp hreverse]; rfl
    | cons c rest =>
        have hlast : text.getLast? = some c := by
          rw [List.getLast?_eq_head?_reverse, hreverse]
          rfl
        rw [List.dropWhile_cons_of_neg (by rw [htext c hlast]; decide), ← hreverse,
          List.reverse_reverse]
  refine hkept _ fun c hc => ?_
  cases hvalue : value.getLast? with
  | some d =>
      rw [List.getLast?_append, hvalue] at hc
      obtain rfl : d = c := Option.some.inj hc
      exact h.stop d hvalue
  | none =>
      rw [List.getLast?_eq_none_iff.mp hvalue, List.append_nil, List.getLast?_append] at hc
      cases hc
      decide

/-- What a line adds to a response. -/
theorem headerCb_fieldLine {name value : Str} (h : Field name value) (resp : HttpResponse) :
    headerCb resp (fieldLine (name, value)) =
      { resp with
        setCookies := resp.setCookies ++ (if lower name = "set-cookie" then [value] else [])
        headers := setHeader resp.headers name value } := by
  have hcut : cut 58 (stripLine (fieldLine (name, value))) = some (name, 32 :: value) := by
    rw [stripLine_fieldLine h, List.append_assoc]
    exact cut_append (32 :: value) h.name
  have hvalue : (32 :: value).dropWhile isBlank = value := by
    show value.dropWhile isBlank = value
    cases value with
    | nil => rfl
    | cons c rest => exact List.dropWhile_cons_of_neg (by rw [h.start c rfl]; decide)
  unfold headerCb
  rw [hcut]
  simp only [hvalue]
  by_cases hname : lower name = "set-cookie"
  · rw [if_pos hname, if_pos hname]
  · rw [if_neg hname, if_neg hname, List.append_nil]

/-- What `c_str` gives of a text: a NUL ends it. -/
def cString (s : Str) : Str := s.takeWhile (· != 0)

/-- An option, as `curl_easy_setopt` takes it. -/
inductive Setting where
  | url (text : Str)
  | customRequest (method : Option Str)
  | postFields (body : Option Str)
  | postFieldSize (n : Int)
  | httpGet
  | httpHeader (lines : List Str)
  | sslVerifyPeer (on : Bool)
  | sslVerifyHost (on : Bool)
  | freshConnect (on : Bool)
  | forbidReuse (on : Bool)
  | followLocation (on : Bool)

/-- The options of a handle, as they stand. -/
structure Options where
  /-- The handle has a cookie engine, on the share of the pool. -/
  engine : Bool := false
  url : Str := []
  customRequest : Option Str := none
  postFields : Option Str := none
  postFieldSize : Int := -1
  /-- What the last of `POSTFIELDS` and `HTTPGET` made of the request. -/
  post : Bool := false
  httpHeader : List Str := []
  sslVerifyPeer : Bool := true
  sslVerifyHost : Bool := true
  freshConnect : Bool := false
  forbidReuse : Bool := false
  followLocation : Bool := false

/-- `curl_easy_setopt`. -/
def Options.apply (o : Options) : Setting → Options
  | .url text => { o with url := text }
  | .customRequest method => { o with customRequest := method }
  | .postFields body => { o with postFields := body, post := true }
  | .postFieldSize n => { o with postFieldSize := n }
  | .httpGet => { o with post := false }
  | .httpHeader lines => { o with httpHeader := lines }
  | .sslVerifyPeer on => { o with sslVerifyPeer := on }
  | .sslVerifyHost on => { o with sslVerifyHost := on }
  | .freshConnect on => { o with freshConnect := on }
  | .forbidReuse on => { o with forbidReuse := on }
  | .followLocation on => { o with followLocation := on }

/-- The header lines of a request; `Expect` and the `Content-Type` that libcurl would add by itself
are taken out. -/
def headerLines (req : HttpRequest) : List Str :=
  req.headers.map (fun h => cString (h.1 ++ str ": " ++ h.2)) ++ [str "Expect:"] ++
    if req.method ≠ str "GET" ∧ req.body = [] ∧ req.headers.find? "Content-Type" = none then
      [str "Content-Type:"] else []

/-- A write that the SDK never sends again. -/
def neverResent (req : HttpRequest) : Bool := req.method != "GET" && !req.replayable

/-- What `transfer` sets for a request, in its order. -/
def settings (req : HttpRequest) : List Setting :=
  .url (cString req.url) ::
    (if req.method = str "GET" then
      [.customRequest none, .postFields none, .postFieldSize (-1), .httpGet]
    else
      [.customRequest (some (cString req.method)), .postFields (some req.body),
        .postFieldSize req.body.length]) ++
    [.httpHeader (headerLines req), .sslVerifyPeer true, .sslVerifyHost true,
      .freshConnect (neverResent req), .forbidReuse (neverResent req), .followLocation false]

/-! ## What goes out -/

/-- A request on the wire. -/
structure Wire where
  method : Str
  url : Str
  headers : List Str
  body : Str
  /-- The cookies of the jar that go with it. -/
  cookies : List Str
  /-- The certificate and its host are checked. -/
  checked : Bool
  /-- Over a connection of its own, that nothing uses afterwards. -/
  alone : Bool
  redirected : Bool
  deriving DecidableEq

/-- What libcurl sends over a handle. -/
def Options.wire (o : Options) (cookies : List Str) : Wire where
  method := o.customRequest.getD (if o.post then "POST" else "GET")
  url := o.url
  headers := o.httpHeader
  body :=
    if o.post then
      let body := o.postFields.getD []
      if o.postFieldSize < 0 then cString body else body.take o.postFieldSize.toNat
    else []
  cookies := if o.engine then cookies else []
  checked := o.sslVerifyPeer && o.sslVerifyHost
  alone := o.freshConnect && o.forbidReuse
  redirected := o.followLocation

/-- The wire form of a request: a `GET` has no body. -/
def wireOf (req : HttpRequest) (cookies : List Str) : Wire where
  method := cString req.method
  url := cString req.url
  headers := headerLines req
  body := if req.method = str "GET" then [] else req.body
  cookies := cookies
  checked := true
  alone := neverResent req
  redirected := false

@[simp] theorem apply_engine (o : Options) (setting : Setting) :
    (o.apply setting).engine = o.engine := by
  cases setting <;> rfl

theorem foldl_apply_engine (o : Options) (done : List Setting) :
    (done.foldl Options.apply o).engine = o.engine := by
  induction done generalizing o with
  | nil => rfl
  | cons setting rest ih => rw [List.foldl_cons, ih, apply_engine]

/-- Whatever stood on the handle before, what goes out is the request. -/
theorem wire_settings (o : Options) (req : HttpRequest) (cookies : List Str) :
    ((settings req).foldl Options.apply o).wire cookies =
      wireOf req (if o.engine then cookies else []) := by
  unfold settings
  by_cases hget : req.method = str "GET"
  · have hmethod : cString req.method = str "GET" := by
      rw [hget]
      decide
    rw [if_pos hget]
    simp only [List.cons_append, List.nil_append, List.foldl_cons, List.foldl_nil, Options.apply,
      Options.wire, wireOf, hmethod, if_pos hget, Wire.mk.injEq]
    exact ⟨rfl, trivial, trivial, rfl, rfl, rfl, Bool.and_self _, trivial⟩
  · rw [if_neg hget]
    simp only [List.cons_append, List.nil_append, List.foldl_cons, List.foldl_nil, Options.apply,
      Options.wire, wireOf, if_neg hget, Wire.mk.injEq]
    have hsize : ¬(req.body.length : Int) < 0 := by omega
    refine ⟨rfl, trivial, trivial, ?_, rfl, rfl, Bool.and_self _, trivial⟩
    show (if (req.body.length : Int) < 0 then cString req.body
      else req.body.take (req.body.length : Int).toNat) = req.body
    rw [if_neg hsize, Int.toNat_natCast, List.take_length]

end Axiam.Transport
