import Axiam.Core.Int64
import Axiam.Core.Uri
import Axiam.Webhook.Text

/-!
# Verifying a webhook delivery

`webhook::verify` (`src/webhook.cpp`): the `X-Axiam-Signature` header is cut at its commas, its
`t` and `v1` elements are read, and a delivery is accepted when one of the signatures is the MAC of
`<t>.<raw_body>` and `t` is near the clock.  `HMAC` is a parameter; `none` is its null result.
-/

namespace Axiam.Webhook

inductive VerifyError where
  | emptySecret
  | malformedHeader
  | missingSignature
  | malformedTimestamp
  | timestampHeaderMismatch
  | signatureMismatch
  | timestampOutOfTolerance
  deriving DecidableEq

/-- `to_string`. -/
def VerifyError.toString : VerifyError → Str
  | .emptySecret => "webhook_verify_failed: no signing secret configured"
  | .malformedHeader => "webhook_verify_failed: malformed X-Axiam-Signature header"
  | .missingSignature => "webhook_verify_failed: X-Axiam-Signature carried no v1 signature"
  | .malformedTimestamp =>
      "webhook_verify_failed: X-Axiam-Signature timestamp is not a unix-seconds integer"
  | .timestampHeaderMismatch =>
      "webhook_verify_failed: X-Axiam-Timestamp does not match the signed timestamp"
  | .signatureMismatch => "webhook_verify_failed: signature does not match"
  | .timestampOutOfTolerance =>
      "webhook_verify_failed: timestamp is outside the freshness window"

/-- The length of a SHA-256 MAC. -/
def kMacLen : Nat := 32

structure Event where
  timestamp : Int
  eventType : Str
  deliveryId : Str
  body : Str
  deriving DecidableEq

/-- The optional inputs; an empty `now` is the system's clock. -/
structure Options where
  tolerance : Int := 300
  now : Option Int := none
  timestampHeader : Option Str := none
  eventType : Str := ""
  deliveryId : Str := ""

/-! ## The header -/

/-- What the loop over the elements keeps. -/
structure Scan where
  sawElement : Bool := false
  tCount : Nat := 0
  timestampText : Str := []
  v1Hex : List Str := []

structure ParsedHeader where
  timestampText : Str
  v1Hex : List Str

/-- One element; what is left blank between two commas is none, and an unknown key is ignored. -/
def Scan.read (scan : Scan) (field : Str) : Except VerifyError Scan :=
  let element := trim field
  if element = [] then .ok scan
  else match cut 61 element with
    | none => .error .malformedHeader
    | some (before, after) =>
        let key := trim before
        let value := trim after
        let scan := { scan with sawElement := true }
        if key = "t" then .ok { scan with tCount := scan.tCount + 1, timestampText := value }
        else if key = "v1" then
          if value = [] then .error .malformedHeader
          else .ok { scan with v1Hex := scan.v1Hex ++ [value] }
        else .ok scan

/-- `parse_signature_header`. -/
def parseSignatureHeader (header : Str) : Except VerifyError ParsedHeader := do
  let scan ← (Uri.fields 44 header).foldlM Scan.read {}
  if scan.sawElement = false ∨ scan.tCount ≠ 1 then throw .malformedHeader
  if scan.v1Hex = [] then throw .missingSignature
  return ⟨scan.timestampText, scan.v1Hex⟩

/-! ## The delivery -/

/-- What the MAC is taken of. -/
def signedPayload (timestampText body : Str) : Str := timestampText ++ str "." ++ body

/-- One candidate of the comparison; whether one before it has matched is kept. -/
def matchCandidate (expected : Str) (found : Bool) (candidateHex : Str) : Bool :=
  match hexDecode candidateHex with
  | none => found
  | some candidate =>
      if candidate.length ≠ kMacLen then found
      else found || candidate == expected

/-- Whether some candidate decodes to the MAC; the loop takes every one. -/
def matched (expected : Str) (v1Hex : List Str) : Bool :=
  v1Hex.foldl (matchCandidate expected) false

section

variable (hmac : Str → Str → Option Str) (systemNowSeconds : Int)

/-- `verify`; a difference that no `int64_t` holds is undefined behaviour, which is `none`. -/
def verify (secret signatureHeader body : Str) (options : Options) :
    Option (Except VerifyError Event) :=
  if secret = [] then some (.error .emptySecret)
  else if options.tolerance < 0 then some (.error .timestampOutOfTolerance)
  else match parseSignatureHeader signatureHeader with
  | .error e => some (.error e)
  | .ok parsed =>
  match parseUnixSeconds parsed.timestampText with
  | none => some (.error .malformedTimestamp)
  | some timestamp =>
  if options.timestampHeader.any (trim · != parsed.timestampText) then
    some (.error .timestampHeaderMismatch)
  else match hmac secret (signedPayload parsed.timestampText body) with
  | none => some (.error .signatureMismatch)
  | some expected =>
  if expected.length ≠ kMacLen then some (.error .signatureMismatch)
  else if matched expected parsed.v1Hex = false then some (.error .signatureMismatch)
  else
    let now := options.now.getD systemNowSeconds
    match int64 (now - timestamp) with
    | none => none
    | some delta =>
        if options.tolerance < delta ∨ delta < -options.tolerance then
          some (.error .timestampOutOfTolerance)
        else some (.ok {
          timestamp := timestamp
          eventType := options.eventType
          deliveryId := options.deliveryId
          body := body })

/-- `verify_or_throw`: a failure is thrown with its description. -/
def verifyOrThrow (secret signatureHeader body : Str) (options : Options) :
    Option (Except (VerifyError × Str) Event) :=
  (verify hmac systemNowSeconds secret signatureHeader body options).map fun result =>
    result.mapError fun e => (e, e.toString)

end

end Axiam.Webhook
