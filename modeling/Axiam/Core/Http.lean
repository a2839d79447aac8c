import Axiam.Core.Error

/-!
# The transport seam

The client hands an `HttpRequest` to a function and gets an `HttpResponse` back
(`axiam/transport.hpp`); nothing below that function is modelled, and the function is
the caller's to supply.
-/

namespace Axiam

/-- A header map: `std::map` with case-insensitive keys. -/
abbrev HeaderMap : Type := List (Str × Str)

/-- `CaseInsensitiveLess::lower`. -/
def lower (s : Str) : Str := s.map fun c => if 65 ≤ c && c ≤ 90 then c - 65 + 97 else c

/-- `headers.find(name)`. -/
def HeaderMap.find? (headers : HeaderMap) (name : Str) : Option Str :=
  (List.find? (fun h => lower h.1 == lower name) headers).map Prod.snd

structure HttpRequest where
  method : Str
  url : Str
  headers : HeaderMap := []
  body : Str := []
  /-- Replay no cookie the jar holds. -/
  noStoredCookies : Bool := false
  /-- Replay no cookie and adopt none. -/
  sessionless : Bool := false
  /-- The SDK itself may send it again. -/
  replayable : Bool := false
  deriving DecidableEq

structure HttpResponse where
  status : Int := 0
  headers : HeaderMap := []
  setCookies : List Str := []
  body : Str := []
  /-- Non-empty when no HTTP exchange completed. -/
  transportError : Str := []
  deriving DecidableEq

/-- A `2xx` status. -/
def HttpResponse.isSuccess (r : HttpResponse) : Bool := 200 ≤ r.status && r.status < 300

/-- What a call of the transport comes to: a response, or an exception of its own. -/
abbrev Answer : Type := Except Exc HttpResponse

end Axiam
