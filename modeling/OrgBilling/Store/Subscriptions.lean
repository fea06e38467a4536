import OrgBilling.Store.Order
import OrgBilling.Store.Organizations

/-!
# Subscriptions in the database

Subscriptions with their links and line items. A subscription refers to a customer that some
organization holds and to a price; links and items refer to it. When subscriptions are removed,
their links and items go with them.
-/

namespace OrgBilling.Store

open Transaction

/-- The subscription with an id. -/
def subscription? (id : Uuid) (s : Store) : Option Subscription :=
  s.subscriptions.rows.find? (·.id == id)

/-- The store without the subscriptions with the given ids and what hangs on them. -/
def dropSubscriptions (ids : List Uuid) (s : Store) : Store :=
  { s with
    subscriptions := s.subscriptions.filter fun sub => !ids.contains sub.id
    links := s.links.filter fun l => !ids.contains l.subscription
    items := s.items.filter fun i => !ids.contains i.subscription }

/-- Put a subscription in. -/
def insertSubscription (customer subscription : String) (price : Uuid)
    (status : SubscriptionStatus) : Transaction Subscription := do
  requireTexts [customer, subscription]
  let s ← get
  require
    (!s.subscriptions.rows.any fun sub =>
      sub.customerId == customer && sub.subscriptionId == subscription)
    (.duplicateKey subscriptionIndex)
  requireIndexable subscriptionIndex [customer, subscription]
  require (s.holder? customer).isSome
    (.danglingReference "subscriptions" "subscriptions_customer_id_fkey")
  require (s.prices.rows.any (·.id == price))
    (.danglingReference "subscriptions" "subscriptions_subscription_price_id_fkey")
  let row (id : Uuid) : Subscription := ⟨id, customer, subscription, price, status⟩
  set { s with subscriptions := s.subscriptions.insert subscriptionTag row }
  pure (s.subscriptions.nextRow subscriptionTag row)

/-- Link an organization to a subscription. -/
def insertLink (organization subscription : Uuid) : Transaction Unit := do
  let s ← get
  require
    (!s.links.rows.any fun l => l.organization == organization && l.subscription == subscription)
    (.duplicateKey "_organization_subscription_uc")
  require (s.organization? organization).isSome
    (.danglingReference "organization_subscriptions"
      "organization_subscriptions_organization_id_fkey")
  require (s.subscription? subscription).isSome
    (.danglingReference "organization_subscriptions"
      "organization_subscriptions_subscription_id_fkey")
  set { s with links := s.links.insert linkTag fun id => ⟨id, organization, subscription⟩ }

/-- Put a line item in. -/
def insertItem (subscription price : Uuid) (quantity : Int) : Transaction Unit := do
  let s ← get
  require (0 ≤ quantity)
    (.checkViolated "subscription_items" "subscription_items_quantity_check")
  require (s.subscription? subscription).isSome
    (.danglingReference "subscription_items" "subscription_items_subscription_id_fkey")
  require (s.prices.rows.any (·.id == price))
    (.danglingReference "subscription_items" "subscription_items_subscription_price_id_fkey")
  set { s with items := s.items.insert itemTag fun id => ⟨id, none, subscription, price, quantity⟩ }

/-- Remove the links of the subscriptions of a customer. -/
def deleteLinksOf (customer : String) : Transaction Unit := do
  requireTexts [customer]
  let s ← get
  let ids := (s.subscriptions.rows.filter (·.customerId == customer)).map (·.id)
  set { s with links := s.links.filter fun l => !ids.contains l.subscription }

/-- Remove the links of a subscription and count them. -/
def deleteLinks (subscription : Uuid) : Transaction Nat := do
  let s ← get
  let isGone (l : OrganizationLink) : Bool := l.subscription == subscription
  set { s with links := s.links.filter fun l => !isGone l }
  pure (s.links.rows.countP isGone)

/-- Remove the line items of a subscription and count them. -/
def deleteItems (subscription : Uuid) : Transaction Nat := do
  let s ← get
  let isGone (i : SubscriptionItem) : Bool := i.subscription == subscription
  set { s with items := s.items.filter fun i => !isGone i }
  pure (s.items.rows.countP isGone)

/-- Read the subscription with an id. -/
def getSubscription (id : Uuid) : Transaction (Option Subscription) := do
  return (← get).subscription? id

/-- The id of the row for a provider subscription. Several rows may have the same provider id, as
long as they belong to different customers; then none of them is meant. -/
def findSubscription (subscription : String) : Transaction (Option Uuid) := do
  requireTexts [subscription]
  match (← get).subscriptions.rows.filter (·.subscriptionId == subscription) with
  | [] => pure none
  | [sub] => pure (some sub.id)
  | _ => throw (.invalidInput (.ambiguousSubscription subscription))

/-- Set the status of the subscription with an id, and count the rows. -/
def updateStatus (id : Uuid) (status : SubscriptionStatus) : Transaction Nat := do
  let s ← get
  set
    { s with
      subscriptions :=
        s.subscriptions.map fun sub => if sub.id = id then { sub with status } else sub }
  pure (s.subscriptions.rows.countP (·.id == id))

/-- Remove the subscriptions that pass a test with their links and items, and count them. -/
def removeSubscriptions (isGone : Subscription → Bool) : Transaction Nat := do
  let s ← get
  let gone := s.subscriptions.rows.filter isGone
  set (s.dropSubscriptions (gone.map (·.id)))
  pure gone.length

/-- Remove the subscriptions of a customer with their links and items, and count them. -/
def removeSubscriptionsOf (customer : String) : Transaction Nat := do
  requireTexts [customer]
  removeSubscriptions (·.customerId == customer)

section Lists

variable {c : Collation} (order : c.Arrangement Subscription.subscriptionId)

/-- The subscriptions of a customer, in the order of the provider's ids. -/
def subscriptionsByCustomer (customer : String) : Transaction (List Subscription) := do
  requireTexts [customer]
  return order.arrange ((← get).subscriptions.rows.filter (·.customerId == customer))

/-- The subscriptions that an organization is linked to, once for each link, in the order of the
provider's ids. -/
def subscriptionsByOrganization (organization : Uuid) : Transaction (List Subscription) := do
  let s ← get
  let linked (sub : Subscription) : List Subscription :=
    (s.links.rows.filter fun l => l.subscription == sub.id && l.organization == organization).map
      fun _ => sub
  return order.arrange (s.subscriptions.rows.flatMap linked)

end Lists

/-- The links of a subscription. -/
def linksOf (subscription : Uuid) : Transaction (List OrganizationLink) := do
  return (← get).links.rows.filter (·.subscription == subscription)

/-- The line items of a subscription. -/
def itemsOf (subscription : Uuid) : Transaction (List SubscriptionItem) := do
  return (← get).items.rows.filter (·.subscription == subscription)
end OrgBilling.Store
