import OrgBilling.Json.Decoder
import OrgBilling.Json.Printer

/-!
# Objects of the payment provider

The records that the provider answers with, reduced to the fields that are used, and their form in
JSON. Most fields may be missing from an answer; each record says what a missing field then means.
-/

namespace OrgBilling.Provider

/-- A product at the provider. -/
structure Product where
  /-- Its id. -/
  id : String
  /-- It can be sold. -/
  active : Bool
  /-- When it was made. -/
  created : Int
  /-- Its name. -/
  name : String
  /-- Its description. -/
  description : Option String
  /-- Its tax category. -/
  taxCode : Option String
  deriving DecidableEq

namespace Product

/-- A product as a JSON object. -/
def toJson (p : Product) : Json :=
  .object
    [("id", .string p.id),
     ("active", .bool p.active),
     ("created", .int p.created),
     ("name", .string p.name),
     ("description", .ofOption p.description),
     ("tax_code", .ofOption p.taxCode)]

/-- Read a product from JSON. -/
def decode : Decoder Product :=
  Decoder.record ["id", "active", "created", "name", "description", "tax_code"] fun m => do
    some
      { id := ← m.required "id" Decoder.text
        active := ← m.withDefault "active" false Decoder.bool
        created := ← m.withDefault "created" 0 Decoder.int64
        name := ← m.withDefault "name" "" Decoder.text
        description := ← m.withDefault "description" none (Decoder.option Decoder.text)
        taxCode := ← m.withDefault "tax_code" none (Decoder.option Decoder.text) }

end Product

/-- How often a price recurs, in the provider's words. -/
structure Recurring where
  /-- The name of the interval. -/
  interval : String
  deriving DecidableEq

namespace Recurring

/-- A recurrence as a JSON object. -/
def toJson (r : Recurring) : Json :=
  .object [("interval", .string r.interval)]

/-- Read a recurrence from JSON. -/
def decode : Decoder Recurring :=
  Decoder.record ["interval"] fun m => do
    some { interval := ← m.required "interval" Decoder.text }

end Recurring

/-- A price at the provider. -/
structure Price where
  /-- Its id. -/
  id : String
  /-- It can be used for new purchases. -/
  active : Bool
  /-- When it was made. -/
  created : Int
  /-- Its currency. -/
  currency : String
  /-- The amount in cents. -/
  unitAmount : Option Int
  /-- The product that is sold at it. -/
  product : String
  /-- How often it recurs. -/
  recurring : Option Recurring
  /-- Whether tax is part of the amount. -/
  taxBehavior : Option String
  deriving DecidableEq

namespace Price

/-- A price as a JSON object. -/
def toJson (p : Price) : Json :=
  .object
    [("id", .string p.id),
     ("active", .bool p.active),
     ("created", .int p.created),
     ("currency", .string p.currency),
     ("unit_amount", (p.unitAmount.map Json.int).getD .null),
     ("product", .string p.product),
     ("recurring", (p.recurring.map Recurring.toJson).getD .null),
     ("tax_behavior", .ofOption p.taxBehavior)]

/-- Read a price from JSON. -/
def decode : Decoder Price :=
  Decoder.record
    ["id", "active", "created", "currency", "unit_amount", "product", "recurring", "tax_behavior"]
    fun m => do
      some
        { id := ← m.required "id" Decoder.text
          active := ← m.withDefault "active" false Decoder.bool
          created := ← m.withDefault "created" 0 Decoder.int64
          currency := ← m.withDefault "currency" "" Decoder.text
          unitAmount := ← m.withDefault "unit_amount" none (Decoder.option Decoder.int64)
          product := ← m.withDefault "product" "" Decoder.text
          recurring := ← m.withDefault "recurring" none (Decoder.option Recurring.decode)
          taxBehavior := ← m.withDefault "tax_behavior" none (Decoder.option Decoder.text) }

end Price

/-- A customer at the provider. -/
structure Customer where
  /-- The id. -/
  id : String
  /-- The name. -/
  name : Option String
  /-- The description. -/
  description : Option String
  /-- The address for invoices. -/
  email : Option String
  deriving DecidableEq

namespace Customer

/-- A customer as a JSON object. -/
def toJson (c : Customer) : Json :=
  .object
    [("id", .string c.id),
     ("name", .ofOption c.name),
     ("description", .ofOption c.description),
     ("email", .ofOption c.email)]

/-- Read a customer from JSON. -/
def decode : Decoder Customer :=
  Decoder.record ["id", "name", "description", "email"] fun m => do
    some
      { id := ← m.required "id" Decoder.text
        name := ← m.withDefault "name" none (Decoder.option Decoder.text)
        description := ← m.withDefault "description" none (Decoder.option Decoder.text)
        email := ← m.withDefault "email" none (Decoder.option Decoder.text) }

end Customer

/-- One page of a listing. -/
structure Page (α : Type) where
  /-- The objects on the page. -/
  data : List α
  /-- There are more behind the page. -/
  hasMore : Bool
  deriving DecidableEq

namespace Page

/-- A page as a JSON object. -/
def toJson {α : Type} (item : α → Json) (p : Page α) : Json :=
  .object [("data", .array (p.data.map item)), ("has_more", .bool p.hasMore)]

/-- Read a page from JSON. -/
def decode {α : Type} (item : Decoder α) : Decoder (Page α) :=
  Decoder.record ["data", "has_more"] fun m => do
    some
      { data := ← m.required "data" (Decoder.list item)
        hasMore := ← m.withDefault "has_more" false Decoder.bool }

end Page

/-- A line of a checkout. -/
structure LineItem where
  /-- Its id. -/
  id : String
  /-- The price that is bought. -/
  price : Option String
  /-- How many units. -/
  quantity : Option Nat
  deriving DecidableEq

namespace LineItem

/-- A line as a JSON object. -/
def toJson (l : LineItem) : Json :=
  .object
    [("id", .string l.id),
     ("price", .ofOption l.price),
     ("quantity", (l.quantity.map fun n => Json.int n).getD .null)]

/-- Read a line from JSON. -/
def decode : Decoder LineItem :=
  Decoder.record ["id", "price", "quantity"] fun m => do
    some
      { id := ← m.required "id" Decoder.text
        price := ← m.withDefault "price" none Decoder.reference
        quantity := ← m.withDefault "quantity" none (Decoder.option Decoder.nat64) }

end LineItem

/-- A checkout on the provider's pages. -/
structure CheckoutSession where
  /-- Its id. -/
  id : String
  /-- Where the customer is sent. -/
  url : Option String
  /-- Who buys. -/
  customer : Option String
  /-- The subscription that came out of it. -/
  subscription : Option String
  /-- How far it has got. -/
  status : Option String
  /-- What kind of checkout it is. -/
  mode : Option String
  /-- What is bought. -/
  lineItems : Option (Page LineItem)
  deriving DecidableEq

namespace CheckoutSession

/-- A session as a JSON object. -/
def toJson (s : CheckoutSession) : Json :=
  .object
    [("id", .string s.id),
     ("url", .ofOption s.url),
     ("customer", .ofOption s.customer),
     ("subscription", .ofOption s.subscription),
     ("status", .ofOption s.status),
     ("mode", .ofOption s.mode),
     ("line_items", (s.lineItems.map (Page.toJson LineItem.toJson)).getD .null)]

/-- Read a session from JSON. -/
def decode : Decoder CheckoutSession :=
  Decoder.record ["id", "url", "customer", "subscription", "status", "mode", "line_items"]
    fun m => do
      some
        { id := ← m.required "id" Decoder.text
          url := ← m.withDefault "url" none (Decoder.option Decoder.text)
          customer := ← m.withDefault "customer" none Decoder.reference
          subscription := ← m.withDefault "subscription" none Decoder.reference
          status := ← m.withDefault "status" none (Decoder.option Decoder.text)
          mode := ← m.withDefault "mode" none (Decoder.option Decoder.text)
          lineItems :=
            ← m.withDefault "line_items" none (Decoder.option (Page.decode LineItem.decode)) }

end CheckoutSession

/-- A visit to the pages where a customer manages billing. -/
structure PortalSession where
  /-- Its id. -/
  id : String
  /-- Where the customer is sent. -/
  url : String
  /-- Who visits. -/
  customer : Option String
  /-- Where the customer comes back to. -/
  returnUrl : Option String
  deriving DecidableEq

namespace PortalSession

/-- A visit as a JSON object. -/
def toJson (s : PortalSession) : Json :=
  .object
    [("id", .string s.id),
     ("url", .string s.url),
     ("customer", .ofOption s.customer),
     ("return_url", .ofOption s.returnUrl)]

/-- Read a visit from JSON. -/
def decode : Decoder PortalSession :=
  Decoder.record ["id", "url", "customer", "return_url"] fun m => do
    some
      { id := ← m.required "id" Decoder.text
        url := ← m.required "url" Decoder.text
        customer := ← m.withDefault "customer" none (Decoder.option Decoder.text)
        returnUrl := ← m.withDefault "return_url" none (Decoder.option Decoder.text) }

end PortalSession

/-- The answer to a deletion. -/
structure Deleted where
  /-- What was deleted. -/
  id : String
  /-- It is gone. -/
  deleted : Bool
  deriving DecidableEq

namespace Deleted

/-- The answer as a JSON object. -/
def toJson (d : Deleted) : Json :=
  .object [("id", .string d.id), ("deleted", .bool d.deleted)]

/-- Read the answer from JSON. -/
def decode : Decoder Deleted :=
  Decoder.record ["id", "deleted"] fun m => do
    some
      { id := ← m.required "id" Decoder.text
        deleted := ← m.withDefault "deleted" false Decoder.bool }

end Deleted

/-- Read the customer out of a subscription that carries it in full. -/
def decodeSubscriptionCustomer : Decoder Customer :=
  Decoder.record ["customer"] fun m => m.required "customer" Customer.decode

end OrgBilling.Provider
