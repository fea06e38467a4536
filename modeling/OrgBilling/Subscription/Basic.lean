import OrgBilling.Subscription.Status

/-!
# Subscriptions and what hangs on them

A subscription belongs to a customer of the payment provider and is on one price of the catalog. It
is linked to the organization that pays for it and has line items.
-/

namespace OrgBilling

/-- A subscription of a customer. -/
structure Subscription where
  /-- The row's id. -/
  id : Uuid
  /-- The customer of the provider. -/
  customerId : String
  /-- The provider's id of the subscription. -/
  subscriptionId : String
  /-- The row of the price it is on. -/
  price : Uuid
  /-- Its state. -/
  status : SubscriptionStatus
  deriving DecidableEq

namespace Subscription

/-- Paid features are withheld. -/
def isRestricted (s : Subscription) : Bool :=
  s.status.isRestricted

/-- A subscription as a JSON object. -/
def toJson (s : Subscription) : Json :=
  .object
    [("id", s.id.toJson),
     ("customer_id", .string s.customerId),
     ("subscription_id", .string s.subscriptionId),
     ("subscription_price_id", s.price.toJson),
     ("status", s.status.toJson)]

/-- Read a subscription from JSON. -/
def decode : Decoder Subscription :=
  Decoder.record ["id", "customer_id", "subscription_id", "subscription_price_id", "status"]
    fun m => do
      some
        { id := ← m.required "id" Uuid.decode
          customerId := ← m.required "customer_id" Decoder.text
          subscriptionId := ← m.required "subscription_id" Decoder.text
          price := ← m.required "subscription_price_id" Uuid.decode
          status := ← m.required "status" SubscriptionStatus.decode }

end Subscription

/-- The link between an organization and a subscription. -/
structure OrganizationLink where
  /-- The row's id. -/
  id : Uuid
  /-- The organization. -/
  organization : Uuid
  /-- The row of the subscription. -/
  subscription : Uuid
  deriving DecidableEq

namespace OrganizationLink

/-- A link as a JSON object. -/
def toJson (l : OrganizationLink) : Json :=
  .object
    [("id", l.id.toJson),
     ("organization_id", l.organization.toJson),
     ("subscription_id", l.subscription.toJson)]

/-- Read a link from JSON. -/
def decode : Decoder OrganizationLink :=
  Decoder.record ["id", "organization_id", "subscription_id"] fun m => do
    some
      { id := ← m.required "id" Uuid.decode
        organization := ← m.required "organization_id" Uuid.decode
        subscription := ← m.required "subscription_id" Uuid.decode }

end OrganizationLink

/-- A line item of a subscription. -/
structure SubscriptionItem where
  /-- The row's id. -/
  id : Uuid
  /-- The provider's id of the item. -/
  itemId : Option String
  /-- The row of the subscription. -/
  subscription : Uuid
  /-- The row of the price. -/
  price : Uuid
  /-- How many units. -/
  quantity : Int
  deriving DecidableEq

namespace SubscriptionItem

/-- An item as a JSON object. -/
def toJson (i : SubscriptionItem) : Json :=
  .object
    [("id", i.id.toJson),
     ("subscription_item_id", .ofOption i.itemId),
     ("subscription_id", i.subscription.toJson),
     ("subscription_price_id", i.price.toJson),
     ("quantity", .int i.quantity)]

/-- Read an item from JSON. -/
def decode : Decoder SubscriptionItem :=
  Decoder.record
    ["id", "subscription_item_id", "subscription_id", "subscription_price_id", "quantity"]
    fun m => do
      some
        { id := ← m.required "id" Uuid.decode
          itemId := ← m.nullable "subscription_item_id" Decoder.text
          subscription := ← m.required "subscription_id" Uuid.decode
          price := ← m.required "subscription_price_id" Uuid.decode
          quantity := ← m.required "quantity" Decoder.int32 }

end SubscriptionItem

end OrgBilling
