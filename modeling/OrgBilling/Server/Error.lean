import OrgBilling.Error
import OrgBilling.Json.Printer

/-!
# Errors of the HTTP interface

What a client is told when a request fails. Errors of the client are explained; those of the
provider, the database and the application itself are only named, since their wording is not for
outsiders.
-/

namespace OrgBilling.Server

/-- An error that a request is answered with. -/
inductive ApiError where
  /-- What was asked for does not exist. -/
  | notFound
  /-- The request is understood but cannot be followed. -/
  | validation (text : String)
  /-- The request is not understood. -/
  | badRequest (text : String)
  /-- The payment provider failed. -/
  | provider (text : String)
  /-- The database failed. -/
  | database (text : String)
  /-- The application failed. -/
  | internal
  deriving DecidableEq

namespace ApiError

/-- The error that a failed billing operation is answered with. -/
def ofBilling : BillingError → ApiError
  | .notFound _ => notFound
  | .invalidInput cause => validation cause.message
  | .signatureInvalid => badRequest "Invalid webhook signature"
  | .eventNotSupported cause => badRequest cause.message
  | .provider cause => provider cause.message
  | .database cause => database cause.message
  | .config _ => internal
  | .internal _ => internal

/-- The wording of an error for the log. -/
def message : ApiError → String
  | notFound => "Not found"
  | validation text => "Validation error: " ++ text
  | badRequest text => "Bad request: " ++ text
  | provider text => "Payment provider error: " ++ text
  | database text => "Database error: " ++ text
  | internal => "Internal error"

/-- The status of the answer. -/
def status : ApiError → Nat
  | notFound => 404
  | validation _ => 422
  | badRequest _ => 400
  | provider _ => 502
  | database _ => 500
  | internal => 500

/-- What the client is told. -/
def explanation : ApiError → String
  | notFound => "Not found"
  | validation text => text
  | badRequest text => text
  | provider _ => "Payment provider request failed"
  | database _ => "Internal server error"
  | internal => "Internal server error"

/-- The body of the answer. -/
def body (e : ApiError) : Json :=
  .object [("error", .string e.explanation), ("code", .int e.status)]

end ApiError

end OrgBilling.Server
