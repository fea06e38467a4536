import OrgBilling.Call
import OrgBilling.Catalog.Price
import OrgBilling.Catalog.Product
import OrgBilling.Provider.Basic
import OrgBilling.Provider.SearchQuery

/-!
# What is asked of a payment provider

`PaymentProvider σ` lists the requests that the application makes, for a provider whose side of the
exchange is described by a state `σ`: the objects of a provider that lives in memory
(`Provider.Sandbox`), or what an endpoint has been sent and will still answer
(`Provider.Connection`). A request may fail, and what it did before it failed stays done.

The rules that combine requests are written once, over any provider:

* `createOrUpdateProduct` changes the newest product of a name, or makes one;
* `createOrUpdatePrice` takes every price of a product and currency out of use, one after the other,
  and then makes the new one;
* `syncProduct` and `syncPrice` push a row of the catalog by these rules and put the provider's id
  on it.
-/

namespace OrgBilling

namespace Provider

/-- What a product at the provider is made from. -/
structure ProductDetails where
  /-- The name. -/
  name : String
  /-- The description. -/
  description : String
  /-- The tax category. -/
  taxCode : Option String
  deriving DecidableEq

/-- What a price at the provider is made from. -/
structure PriceTerms where
  /-- The amount in cents. -/
  unitAmount : Int
  /-- The currency. -/
  currency : String
  /-- How often it recurs. -/
  recurring : Interval
  /-- The provider's id of the product. -/
  product : String
  /-- Whether tax is part of the amount. -/
  taxBehavior : Option String
  deriving DecidableEq

/-- The length of a page where the caller names none. -/
def defaultPageLength : Nat := 10

end Provider

open Provider

/-- The requests that the application makes of a payment provider. -/
class PaymentProvider (σ : Type) where
  /-- The checkout session with an id. -/
  getCheckoutSession : String → Call σ CheckoutSession
  /-- The customer of a subscription. -/
  getCustomer : String → Call σ Customer
  /-- Make a customer with a name and a description. -/
  createCustomer : String → String → Call σ Customer
  /-- Start a checkout of one unit: the customer, the price, and where the customer is sent after
  success and after giving up. -/
  createCheckoutSession : String → String → String → String → Call σ CheckoutSession
  /-- Start a visit to the billing pages: the customer and where the customer comes back to. -/
  createPortalSession : String → String → Call σ PortalSession
  /-- Make a product. -/
  createProduct : ProductDetails → Call σ Product
  /-- The product with an id. -/
  retrieveProduct : String → Call σ Product
  /-- Give the product with an id new details. -/
  updateProduct : String → ProductDetails → Call σ Product
  /-- The first products, at most as many as given. -/
  listProducts : Nat → Call σ (Page Product)
  /-- Delete the product with an id. -/
  deleteProduct : String → Call σ Deleted
  /-- The first products that match a query. -/
  searchProducts : String → Nat → Call σ (Page Product)
  /-- Make a price. -/
  createPrice : PriceTerms → Call σ Price
  /-- The price with an id. -/
  retrievePrice : String → Call σ Price
  /-- Take the price with an id into or out of use. -/
  updatePrice : String → Bool → Call σ Price
  /-- The first prices. -/
  listPrices : Nat → Call σ (Page Price)
  /-- The first prices that match a query. -/
  searchPrices : String → Nat → Call σ (Page Price)
  /-- Note that a subscription belongs to a customer, where the provider is one that can be told. -/
  recordSubscription? : Option (String → String → σ → σ)

namespace Provider

variable {σ : Type} [PaymentProvider σ]

/-- The one made last; of several made at the same time, the one listed last. -/
def newest : List Product → Option Product
  | [] => none
  | p :: ps =>
    match newest ps with
    | some q => if q.created < p.created then some p else some q
    | none => some p

/-- The query for the products in use with a name. -/
def productQuery (name : String) : String :=
  "active:\"true\" name:" ++ SearchQuery.quoteValue name

/-- The query for the prices in use of a product in a currency. -/
def priceQuery (product currency : String) : String :=
  "active:\"true\" product:" ++ SearchQuery.quoteValue product ++
    " currency:" ++ SearchQuery.quoteValue currency

/-- Give the newest product in use with this name the new details, or make one. -/
def createOrUpdateProduct (d : ProductDetails) : Call σ Product := do
  let found ← PaymentProvider.searchProducts (productQuery d.name) defaultPageLength
  match newest found.data with
  | some existing => PaymentProvider.updateProduct existing.id d
  | none => PaymentProvider.createProduct d

/-- Take prices out of use, one after the other. -/
def deactivate : List Price → Call σ Unit
  | [] => pure ()
  | p :: ps => do
    let _ ← PaymentProvider.updatePrice p.id false
    deactivate ps

/-- Take the prices in use of the same product and currency out of use and make a new one. -/
def createOrUpdatePrice (t : PriceTerms) : Call σ Price := do
  let found ← PaymentProvider.searchPrices (priceQuery t.product t.currency) defaultPageLength
  deactivate found.data
  PaymentProvider.createPrice t

/-- What a product of the catalog is at the provider. -/
def detailsOf (p : CatalogProduct) : ProductDetails :=
  ⟨p.name, p.description, p.taxCode⟩

/-- Push a product of the catalog; the result carries the provider's id. -/
def syncProduct (p : CatalogProduct) : Call σ CatalogProduct := do
  let synced ← createOrUpdateProduct (σ := σ) (detailsOf p)
  pure { p with productId := some synced.id }

/-- Push a price of the catalog; the result carries the provider's id. The product has to have been
pushed before. -/
def syncPrice (p : CatalogPrice) (product : CatalogProduct) : Call σ CatalogPrice := do
  match product.productId with
  | none => throw (.invalidInput (.unsyncedProduct product.id))
  | some productId =>
    let synced ← createOrUpdatePrice
      ⟨p.unitAmount, p.currency, p.recurring, productId, p.taxBehavior⟩
    pure { p with priceId := some synced.id }

end Provider

end OrgBilling
