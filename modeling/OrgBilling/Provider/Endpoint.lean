import OrgBilling.Error

/-!
# The endpoint of a REST interface

Requests, the answers to them, and the part of the world on the other side of the wire: an endpoint
is described by what will happen to the next requests and by the requests that have reached it. This
is all that a client of the interface can depend on, so statements about every endpoint are
statements about every script of answers.
-/

namespace OrgBilling.Provider

/-- How a request acts on the object it names. -/
inductive Method where
  /-- Read. -/
  | get
  /-- Make or change. -/
  | post
  /-- Delete. -/
  | delete
  deriving DecidableEq

/-- The name of a method. -/
def Method.name : Method → String
  | get => "GET"
  | post => "POST"
  | delete => "DELETE"

/-- A request as it reaches the endpoint. -/
structure Request where
  /-- The method. -/
  method : Method
  /-- The path. -/
  path : String
  /-- The parameters behind the path. -/
  query : List (String × String)
  /-- The parameters of the form in the body. -/
  form : List (String × String)
  /-- The credentials. -/
  authorization : String
  /-- The version of the interface that the client speaks. -/
  version : String
  deriving DecidableEq

/-- What becomes of a request. -/
inductive Outcome where
  /-- It is answered with a status and a body. -/
  | answered (status : Nat) (body : String)
  /-- It does not reach the endpoint. -/
  | unreachable (reason : String)
  deriving DecidableEq

/-- An endpoint. -/
structure Endpoint where
  /-- What becomes of the next requests, in order. -/
  pending : List Outcome
  /-- What becomes of every request after those. -/
  afterwards : Outcome
  /-- The requests that have reached it, oldest first. -/
  received : List Request

namespace Endpoint

/-- What becomes of the next request. -/
def nextOutcome (e : Endpoint) : Outcome :=
  e.pending.headD e.afterwards

/-- The endpoint after a request. -/
def accept (e : Endpoint) (r : Request) : Endpoint where
  pending := e.pending.drop 1
  afterwards := e.afterwards
  received :=
    match e.nextOutcome with
    | .answered _ _ => e.received ++ [r]
    | .unreachable _ => e.received

/-- A request that is answered is the last one received. -/
theorem received_accept_of_answered {e : Endpoint} {status : Nat} {body : String}
    (h : e.nextOutcome = .answered status body) (r : Request) :
    (e.accept r).received = e.received ++ [r] := by
  simp [accept, h]

end Endpoint

end OrgBilling.Provider
