import Axiam.Core.Json

/-!
# Exceptions

The SDK's error taxonomy (`axiam/errors.hpp`, rooted at `AxiamError`), and beside it the
exceptions that are *not* an `AxiamError` and so pass every `catch (const AxiamError&)`.
-/

namespace Axiam

/-- Why a Security Event Token was refused: the step that failed. -/
inductive SetFailureReason where
  | malformed | invalidType | invalidKey | invalidIssuer | invalidAudience | invalidRequest
  | replayed
  deriving DecidableEq

/-- Why an ID token was refused. -/
inductive OidcValidationReason where
  | invalidAlg | unknownKid | invalidSignature | invalidIssuer | invalidAudience | tokenExpired
  | nonceMismatch
  deriving DecidableEq

/-- The exceptions derived from `AxiamError`. -/
inductive AxiamError where
  | base (what : Str)
  | auth (what : Str)
  | authz (what : Str) (action resourceId : Option Str)
  /-- `404` on the management surface, a kind of `AuthzError`. -/
  | notFound (what : Str)
  /-- `409` on the management surface, with the conflict the body named. -/
  | conflict (what : Str) (reasonCode : Option Str)
  /-- `400` and `422` on the management surface, a kind of `NetworkError`. -/
  | validation (what : Str)
  | network (what cause : Str)
  /-- A manifest refused. -/
  | manifest (what : Str)
  /-- A Security Event Token refused, a kind of `AuthError`. -/
  | setVerification (what : Str) (reason : SetFailureReason)
  /-- An ID token refused, a kind of `AuthError`. -/
  | oidcValidation (what : Str) (reason : OidcValidationReason)
  /-- A refusal an OAuth2 endpoint named, a kind of `AuthError`: the code, and what came with it. -/
  | oauthProtocol (what errorCode : Str) (errorDescription : Option Str)
      (retryAfter httpStatus : Option Int)
  /-- The re-assign leg of a role rebinding failed; what became of the restore. -/
  | rebind (what binding : Str) (restoreSucceeded : Bool) (restoreError : Option Str)
  deriving DecidableEq

def AxiamError.what : AxiamError → Str
  | .base w | .auth w | .authz w _ _ | .notFound w | .conflict w _ | .validation w
  | .network w _ | .manifest w | .setVerification w _ | .rebind w _ _ _
  | .oidcValidation w _ | .oauthProtocol w _ _ _ _ => w

/-- Every exception that can leave a function of the SDK. -/
inductive Exc where
  | axiam (e : AxiamError)
  /-- `std::invalid_argument`: a local refusal. -/
  | invalidArgument (what : Str)
  /-- `nlohmann::json::exception`, which is no `AxiamError`. -/
  | json (e : JsonError)
  /-- Whatever a function the caller supplied (the transport) throws. -/
  | foreign (what : Str)
  deriving DecidableEq

namespace Exc

/-- `what()`. -/
def what : Exc → Str
  | .axiam e => e.what
  | .invalidArgument w | .foreign w => w
  | .json e => e.what

/-- `catch (const AxiamError&)` takes it. -/
def isAxiam : Exc → Bool
  | .axiam _ => true
  | _ => false

/-- `catch (const AuthError&)` takes it. -/
def isAuth : Exc → Bool
  | .axiam (.auth _) | .axiam (.setVerification _ _) | .axiam (.oidcValidation _ _)
  | .axiam (.oauthProtocol _ _ _ _ _) => true
  | _ => false

/-- `catch (const NetworkError&)` takes it. -/
def isNetwork : Exc → Bool
  | .axiam (.network _ _) | .axiam (.validation _) => true
  | _ => false

/-- An `AxiamError` or a local refusal: what `ManifestApi::apply` catches. -/
def reported : Exc → Bool
  | .axiam _ | .invalidArgument _ => true
  | _ => false

def auth (what : Str) : Exc := .axiam (.auth what)

def network (what cause : Str) : Exc := .axiam (.network what cause)

end Exc

/-- A JSON accessor's result as a result of the SDK. -/
def liftJson {α : Type} : Except JsonError α → Except Exc α
  | .ok a => .ok a
  | .error e => .error (.json e)

theorem liftJson_eq_ok {α : Type} {x : Except JsonError α} {a : α} :
    liftJson x = .ok a ↔ x = .ok a := by
  cases x with
  | ok b => simp [liftJson]
  | error e => simp [liftJson]

theorem ok_of_toOption {α : Type} {x : Except Exc α} {a : α} (h : x.toOption = some a) :
    x = .ok a := by
  cases x with
  | ok _ => exact congrArg _ (Option.some.inj h)
  | error _ => cases h

theorem ok_of_isSome {α : Type} {x : Except Exc α} (h : x.toOption.isSome = true) :
    x = .ok (x.toOption.get h) := ok_of_toOption (Option.some_get h).symm

theorem returned_of_toOption {α σ : Type} {x : Except Exc α × σ} {a : α}
    (h : x.1.toOption = some a) : x = (.ok a, x.2) := Prod.ext (ok_of_toOption h) rfl

end Axiam
