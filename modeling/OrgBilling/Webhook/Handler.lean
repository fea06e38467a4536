import OrgBilling.Service.Records
import OrgBilling.Store.Ledger
import OrgBilling.Webhook.Action

/-!
# Handling webhook events

An event is claimed in the ledger, so that it is applied at most once however often it is delivered;
then its action is applied, and the ledger records how that went. An event whose attempt failed can
be claimed again by the next delivery.

Each step is a transaction of its own: what an action did before it failed can stay done, as when
the default price has been made for a subscription that then could not be recorded.
-/

namespace OrgBilling

/-- Record a new subscription of the organization that holds a customer, on the default price, which
is made first if there is none. -/
def addSubscription (customer subscription : String) : Call Store Subscription := do
  let price ← Records.getOrCreateDefaultPrice
  Records.insertLinkedSubscription customer subscription price.id

namespace Webhook

/-- How handling an event ended. -/
inductive HandlingResult where
  /-- The event's action has been applied. -/
  | applied (action : Action)
  /-- The event has been handled before, or is being handled. -/
  | duplicate
  deriving DecidableEq

/-- Set the status of a subscription that is known; otherwise do nothing. -/
def setStatusIfKnown (subscription : String) (status : SubscriptionStatus) : Call Store Unit := do
  match ← commit (Store.findSubscription subscription) with
  | some id => Records.setStatus id status
  | none => pure ()

/-- Do what an event asks for. -/
def Action.apply : Action → Call Store Unit
  | completeCheckout customer subscription => do
    match ← commit (Store.findSubscription subscription) with
    | some id => Records.setStatus id .active
    | none => do
      let _ ← addSubscription customer subscription
      pure ()
  | updateStatus subscription status => setStatusIfKnown subscription status
  | cancelSubscription subscription => setStatusIfKnown subscription .canceled
  | deleteCustomer customer => do
    let _ ← Records.deleteCustomer customer
    pure ()
  | ignore _ => pure ()

/-- Find out what an event asks for and do it. -/
def process (e : Event) : Call Store Action := do
  match Action.ofEvent e with
  | .ok action => do
    action.apply
    pure action
  | .error err => throw err

/-- Record how an attempt went. Recording is tried twice; a failure of the second try is what the
attempt then ends with. -/
def record (eventId : String) (state : DeliveryState) (errorMessage : Option String) :
    Call Store Unit :=
  tryCatch (commit (Store.Ledger.recordResult eventId state errorMessage)) fun _ =>
    commit (Store.Ledger.recordResult eventId state errorMessage)

/-- Handle an event at a given time, in microseconds. -/
def handle (now : Int) (e : Event) : Call Store HandlingResult := do
  if ← commit (Store.Ledger.claim now e.id e.type) then
    match ← (process e).attempt with
    | .ok action => do
      record e.id .success none
      pure (.applied action)
    | .error err => do
      record e.id .failed (some err.message)
      throw err
  else pure .duplicate

end Webhook

end OrgBilling
