import Polyglot.BuildError
import Polyglot.Http.Message

/-!
# Errors of the service

Why the service does not do what it is asked to. The causes of an internal error are not shown to
the one who asks.
-/

namespace Polyglot

inductive ServiceError where
  | badRequest (message : String)
  | payloadTooLarge (message : String)
  | detector (error : BuildError)
  | internal (cause : String)
deriving DecidableEq, Inhabited

namespace ServiceError

/-- What is known of an error. -/
def description : ServiceError → String
  | badRequest message => "Bad request: " ++ message
  | payloadTooLarge message => "Payload too large: " ++ message
  | detector error => "Detector error: " ++ error.message
  | internal cause => "Internal error: " ++ cause

/-- What is shown of an error. -/
def shown : ServiceError → String
  | internal _ => "Internal server error"
  | e => e.description

def status : ServiceError → Nat
  | badRequest _ => 400
  | payloadTooLarge _ => 413
  | detector _ | internal _ => 500

/-- The body that reports a failure. -/
def body (message : String) (status : Nat) : Json.Value :=
  .object [("error", .string message), ("status", .ofNat status)]

def response (e : ServiceError) : Http.Response := .json e.status (body e.shown e.status)

/-- A text of more bytes than are allowed. -/
def oversized (bytes limit : Nat) : ServiceError :=
  .payloadTooLarge
    ("Code is " ++ toString bytes ++ " bytes. Maximum allowed is " ++ toString limit ++ ".")

/-- More texts in one request than are allowed. -/
def tooManyItems (count limit : Nat) : ServiceError :=
  .badRequest
    ("Batch has " ++ toString count ++ " items. Maximum allowed is " ++ toString limit ++ ".")

end ServiceError

end Polyglot
