import OrgBilling.Catalog.Interval

/-!
# Prices of the catalog

A price at which a product of the catalog is sold, as the application keeps it, and the partial
update of one. As with products, the provider's id is there once the price has been pushed to the
provider.
-/

namespace OrgBilling

/-- A price of the local catalog. -/
structure CatalogPrice where
  /-- The row's id. -/
  id : Uuid
  /-- The provider's id, once the price has been pushed there. -/
  priceId : Option String
  /-- The currency. -/
  currency : String
  /-- The row of the product that is sold at this price. -/
  product : Uuid
  /-- The amount of one interval in cents. -/
  unitAmount : Int
  /-- New subscriptions may be put on this price. -/
  isActive : Bool
  /-- How often the amount is charged. -/
  recurring : Interval
  /-- Whether tax is part of the amount. -/
  taxBehavior : Option String
  deriving DecidableEq

/-- A partial update of a price. An absent field stays as it is. -/
structure PriceChanges where
  /-- A new provider id, or none at all. -/
  priceId : Option (Option String) := none
  /-- A new currency. -/
  currency : Option String := none
  /-- Another product. -/
  product : Option Uuid := none
  /-- A new amount. -/
  unitAmount : Option Int := none
  /-- Whether new subscriptions may be put on the price. -/
  isActive : Option Bool := none
  /-- A new interval. -/
  recurring : Option Interval := none
  /-- A new tax behavior, or none at all. -/
  taxBehavior : Option (Option String) := none

namespace PriceChanges

/-- The price after the update. -/
def apply (c : PriceChanges) (p : CatalogPrice) : CatalogPrice where
  id := p.id
  priceId := c.priceId.getD p.priceId
  currency := c.currency.getD p.currency
  product := c.product.getD p.product
  unitAmount := c.unitAmount.getD p.unitAmount
  isActive := c.isActive.getD p.isActive
  recurring := c.recurring.getD p.recurring
  taxBehavior := c.taxBehavior.getD p.taxBehavior

/-- Read an update from JSON. A field that is missing or `null` stays as it is, so an update that
empties a field cannot be written in JSON. -/
def decode : Decoder PriceChanges :=
  Decoder.record
    ["price_id", "currency", "subscription_product_id", "unit_amount", "is_active", "recurring",
     "tax_behavior"]
    fun m => do
      some
        { priceId := (← m.nullable "price_id" Decoder.text).map some
          currency := ← m.nullable "currency" Decoder.text
          product := ← m.nullable "subscription_product_id" Uuid.decode
          unitAmount := ← m.nullable "unit_amount" Decoder.int32
          isActive := ← m.nullable "is_active" Decoder.bool
          recurring := ← m.nullable "recurring" Interval.decode
          taxBehavior := (← m.nullable "tax_behavior" Decoder.text).map some }

/-- An update that says nothing changes nothing. -/
@[simp] theorem apply_empty (p : CatalogPrice) : apply {} p = p := rfl

/-- No update changes which row it is. -/
@[simp] theorem apply_id (c : PriceChanges) (p : CatalogPrice) : (c.apply p).id = p.id := rfl

end PriceChanges

namespace CatalogPrice

/-- A price as a JSON object. -/
def toJson (p : CatalogPrice) : Json :=
  .object
    [("id", p.id.toJson),
     ("price_id", .ofOption p.priceId),
     ("currency", .string p.currency),
     ("subscription_product_id", p.product.toJson),
     ("unit_amount", .int p.unitAmount),
     ("is_active", .bool p.isActive),
     ("recurring", p.recurring.toJson),
     ("tax_behavior", .ofOption p.taxBehavior)]

/-- Read a price from JSON. -/
def decode : Decoder CatalogPrice :=
  Decoder.record
    ["id", "price_id", "currency", "subscription_product_id", "unit_amount", "is_active",
     "recurring", "tax_behavior"]
    fun m => do
      some
        { id := ← m.required "id" Uuid.decode
          priceId := ← m.nullable "price_id" Decoder.text
          currency := ← m.required "currency" Decoder.text
          product := ← m.required "subscription_product_id" Uuid.decode
          unitAmount := ← m.required "unit_amount" Decoder.int32
          isActive := ← m.required "is_active" Decoder.bool
          recurring := ← m.required "recurring" Interval.decode
          taxBehavior := ← m.nullable "tax_behavior" Decoder.text }

end CatalogPrice

end OrgBilling
