import OrgBilling.Webhook.Event

/-!
# What an event asks for

The type of an event decides what the application has to do, and the event's object says with what.
An event of a type that the application acts on is refused if a field it needs is missing, empty or
not a text, or if the object is not in the state that the type promises. All other types are
ignored.
-/

namespace OrgBilling.Webhook

/-- What an event asks the application to do. -/
inductive Action where
  /-- A checkout is complete: the subscription is active and belongs to the customer. -/
  | completeCheckout (customer subscription : String)
  /-- A subscription is in a new state. -/
  | updateStatus (subscription : String) (status : SubscriptionStatus)
  /-- A subscription has ended at the provider. -/
  | cancelSubscription (subscription : String)
  /-- A customer is gone at the provider. -/
  | deleteCustomer (customer : String)
  /-- Nothing. -/
  | ignore (eventType : String)
  deriving DecidableEq

/-- The type of a finished checkout. -/
def checkoutCompleted : String := "checkout.session.completed"
/-- The type of a new subscription. -/
def subscriptionCreated : String := "customer.subscription.created"
/-- The type of a changed subscription. -/
def subscriptionUpdated : String := "customer.subscription.updated"
/-- The type of an ended subscription. -/
def subscriptionDeleted : String := "customer.subscription.deleted"
/-- The type of a deleted customer. -/
def customerDeleted : String := "customer.deleted"

namespace Action

/-- A field of the object that has to be a text and not empty. -/
def requiredText (e : Event) (field : String) : Except BillingError String :=
  match (e.object.get? field).bind Json.asString? with
  | some text =>
    if text.isEmpty then .error (.eventNotSupported (.missingField e.type field)) else .ok text
  | none => .error (.eventNotSupported (.missingField e.type field))

/-- The field `status` of the object, which has to name a status. -/
def requiredStatus (e : Event) : Except BillingError SubscriptionStatus := do
  let name ← requiredText e "status"
  match SubscriptionStatus.parse name with
  | .ok status => pure status
  | .error _ => throw (.eventNotSupported (.unknownStatus e.type name))

/-- What an event asks for. -/
def ofEvent (e : Event) : Except BillingError Action :=
  if e.type = checkoutCompleted then do
    let status ← requiredText e "status"
    if status ≠ "complete" then throw (.eventNotSupported (.checkoutNotComplete status))
    let customer ← requiredText e "customer"
    let subscription ← requiredText e "subscription"
    pure (.completeCheckout customer subscription)
  else if e.type = subscriptionCreated ∨ e.type = subscriptionUpdated then do
    let status ← requiredStatus e
    let id ← requiredText e "id"
    pure (.updateStatus id status)
  else if e.type = subscriptionDeleted then do
    let status ← requiredStatus e
    if status ≠ .canceled then throw (.eventNotSupported (.deletedNotCanceled status.name))
    let id ← requiredText e "id"
    pure (.cancelSubscription id)
  else if e.type = customerDeleted then do
    let id ← requiredText e "id"
    pure (.deleteCustomer id)
  else pure (.ignore e.type)

/-- An action as a JSON object. -/
def toJson : Action → Json
  | completeCheckout customer subscription =>
    .object
      [("action", .string "CompleteCheckout"), ("customer_id", .string customer),
       ("subscription_id", .string subscription)]
  | updateStatus subscription status =>
    .object
      [("action", .string "UpdateStatus"), ("subscription_id", .string subscription),
       ("status", status.toJson)]
  | cancelSubscription subscription =>
    .object [("action", .string "CancelSubscription"), ("subscription_id", .string subscription)]
  | deleteCustomer customer =>
    .object [("action", .string "DeleteCustomer"), ("customer_id", .string customer)]
  | ignore eventType =>
    .object [("action", .string "Ignore"), ("event_type", .string eventType)]

end Action

end OrgBilling.Webhook
