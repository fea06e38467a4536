import OrgBilling.Text.Percent
import OrgBilling.Text.Split
import OrgBilling.Uuid

/-!
# Routes

The paths that the server answers. A path is split at its slashes and what follows a question mark
or a number sign is left out; a route with an organization takes any text in the organization's
place, percent-encoded or not, and whether the text is an id is found out afterwards.
-/

namespace OrgBilling.Server

/-- A path that the server answers. `organization` is the text in the organization's place. -/
inductive Route where
  /-- The state of the server. -/
  | health
  /-- Deliveries of webhook events. -/
  | webhook
  /-- Starting a checkout. -/
  | checkout (organization : List Char)
  /-- Starting a visit to the billing pages. -/
  | portal (organization : List Char)
  /-- The subscriptions of an organization. -/
  | subscriptions (organization : List Char)
  /-- Completing a checkout of the provider in memory. -/
  | completeCheckout (organization : List Char)
  deriving DecidableEq

namespace Route

/-- The parts of a path between its slashes. -/
def parts (path : String) : List String :=
  (Text.splitAtEach '/' (path.toList.takeWhile fun c => c != '?' && c != '#')).map String.ofList

/-- The route that a path leads to. -/
def ofPath? (path : String) : Option Route :=
  match parts path with
  | ["", "health"] => some health
  | ["", "billing", "webhook"] => some webhook
  | ["", "organizations", id, "billing", "checkout"] => some (checkout id.toList)
  | ["", "organizations", id, "billing", "portal"] => some (portal id.toList)
  | ["", "organizations", id, "billing", "subscriptions"] => some (subscriptions id.toList)
  | ["", "mock", "billing", id, "checkout-session-completed"] => some (completeCheckout id.toList)
  | _ => none

/-- The route is for reading. The others are for posting. -/
def isRead : Route → Bool
  | health => true
  | subscriptions _ => true
  | _ => false

/-- A method that a route answers. A route for reading also answers a request for its head. -/
def allows (r : Route) (method : String) : Bool :=
  if r.isRead then method == "GET" || method == "HEAD" else method == "POST"

/-- The id that a part of a path stands for. -/
def organizationId? (part : List Char) : Option Uuid := do
  let text ← Text.ofUtf8? (Text.Percent.decode part)
  Uuid.parse? text

end Route

end OrgBilling.Server
