import Axiam.Core.Http

/-!
# Origins

`origin_of` (`src/url_origin.hpp`): the scheme, host and port of an absolute URL, split
out and never normalised.
-/

namespace Axiam

structure Origin where
  scheme : Str
  host : Str
  port : Nat
  deriving DecidableEq

/-- The host and the port text of an authority; a bracketed host is an IPv6 literal. -/
def splitAuthority (authority : Str) : Option (Str × Str) :=
  if authority.head? = some 91 then do
    let (host, rest) ← cut 93 (authority.drop 1)
    match rest with
    | [] => some (host, [])
    | c :: port => if c = 58 then some (host, port) else none
  else
    match cut 58 authority with
    | none => some (authority, [])
    | some (host, port) => some (host, port)

/-- The port a text names: the scheme's own when empty, at most five digits otherwise. -/
def portOf (scheme port : Str) : Option Nat :=
  if port = [] then
    some (if scheme = str "https" then 443 else if scheme = str "http" then 80 else 0)
  else if 5 < port.length then none
  else if port.all fun c => 48 ≤ c && c ≤ 57 then
    some (port.foldl (fun value c => value * 10 + (c - 48).toNat) 0)
  else none

/-- `origin_of`. -/
def originOf (url : Str) : Option Origin := do
  let (scheme, rest) ← cutAt "://" url
  if scheme = [] then none
  let authority := rest.takeWhile fun c => c != 47 && c != 63 && c != 35
  -- the part before '@' is what a confusable URL hides its real host behind
  if 64 ∈ authority then none
  let (host, port) ← splitAuthority authority
  if host = [] then none
  let port ← portOf (lower scheme) port
  some ⟨lower scheme, lower host, port⟩

def isLoopbackHost (host : Str) : Bool :=
  host == str "localhost" || host == str "127.0.0.1" || host == str "::1"

/-- `https`, or `http` on a loopback host. -/
def isSecureOrLoopback (o : Origin) : Bool :=
  o.scheme == str "https" || (o.scheme == str "http" && isLoopbackHost o.host)

example : originOf "HTTPS://[::1]:8443/x" = some ⟨"https", "::1", 8443⟩ := by decide
example : originOf "https://user@host/" = none := by decide

end Axiam
