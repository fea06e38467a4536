import OrgBilling.Provider.Api
import OrgBilling.Text.Decimal

/-!
# A payment provider in memory

`Sandbox` is a payment provider that keeps its objects in memory, so that the whole flow of
checkouts and webhooks can be run without a network. Its checkout and billing pages lead straight
back to the application.

Every object gets the next number of one sequence, which shows in its id and in the time it was
made. Products and prices stand in the order in which they were made.
-/

namespace OrgBilling.Provider

/-- The objects of a provider in memory. -/
structure Sandbox where
  /-- The number that the next object gets. -/
  next : Nat
  /-- The customers. -/
  customers : List Customer
  /-- The products, oldest first. -/
  products : List Product
  /-- The prices, oldest first. -/
  prices : List Price
  /-- The checkout sessions. -/
  sessions : List CheckoutSession
  /-- The customer of each subscription. -/
  owners : List (String × String)

namespace Sandbox

/-- A provider without objects. -/
def fresh : Sandbox :=
  ⟨1, [], [], [], [], []⟩

/-- The id of the object with a number. -/
def objectId (kind : String) (n : Nat) : String :=
  kind ++ "_mock" ++ Text.Decimal.padded 8 n

/-- The time at which the object with a number counts as made. -/
def createdAt (n : Nat) : Int :=
  1600000000 + n

/-- Take the next number of the sequence. -/
def takeNumber : Call Sandbox Nat :=
  modifyGet fun s => (s.next, { s with next := s.next + 1 })

/-- Put a customer in, in place of one with the same id. -/
def putCustomer (c : Customer) : List Customer → List Customer
  | [] => [c]
  | d :: ds => if d.id = c.id then c :: ds else d :: putCustomer c ds

/-- Set the customer of a subscription. -/
def putOwner (subscription customer : String) : List (String × String) → List (String × String)
  | [] => [(subscription, customer)]
  | (s, c) :: rest =>
    if s = subscription then (subscription, customer) :: rest
    else (s, c) :: putOwner subscription customer rest

/-- Note that a subscription belongs to a customer. A customer that is not known yet is added. -/
def recordSubscription (subscription customer : String) (s : Sandbox) : Sandbox :=
  { s with
    customers :=
      if s.customers.any (·.id == customer) then s.customers
      else s.customers ++ [⟨customer, none, none, none⟩]
    owners := putOwner subscription customer s.owners }

/-- The first items, at least one and at most a hundred of them. -/
def page {α : Type} (items : List α) (limit : Nat) : Page α :=
  let limit := max 1 (min limit 100)
  ⟨items.take limit, limit < items.length⟩

/-- The text of a truth value. -/
def flag (b : Bool) : String :=
  if b then "true" else "false"

/-- A product has the value that a clause asks for. -/
def productMatches (p : Product) : SearchQuery.Clause → Bool
  | ("active", value) => flag p.active == value
  | ("name", value) => p.name == value
  | ("description", value) => p.description == some value
  | _ => false

/-- A price has the value that a clause asks for. -/
def priceMatches (p : Price) : SearchQuery.Clause → Bool
  | ("active", value) => flag p.active == value
  | ("product", value) => p.product == value
  | ("currency", value) => p.currency == value
  | _ => false

/-- The products that match a query. -/
def findProducts (s : Sandbox) (query : String) : List Product :=
  s.products.filter fun p => (SearchQuery.parse query).all (productMatches p)

/-- The prices that match a query. -/
def findPrices (s : Sandbox) (query : String) : List Price :=
  s.prices.filter fun p => (SearchQuery.parse query).all (priceMatches p)

/-- What is found, or the error that says what is missing. -/
def orMissing {α : Type} (what : Missing) : Option α → Call Sandbox α
  | some a => pure a
  | none => throw (.notFound what)

/-- The checkout session with an id. -/
def getCheckoutSession (id : String) : Call Sandbox CheckoutSession := do
  orMissing (.checkoutSession id) ((← get).sessions.find? (·.id == id))

/-- The customer of a subscription. -/
def getCustomer (subscription : String) : Call Sandbox Customer := do
  let s ← get
  orMissing (.subscriptionCustomer subscription) do
    let customer ← s.owners.lookup subscription
    s.customers.find? (·.id == customer)

/-- Make a customer. -/
def createCustomer (name description : String) : Call Sandbox Customer := do
  let n ← takeNumber
  let c : Customer := ⟨objectId "cus" n, some name, some description, none⟩
  modify fun s => { s with customers := putCustomer c s.customers }
  pure c

/-- Start a checkout of one unit. Customer and price are not looked up: the ids that the application
has stored outlive the objects kept here. -/
def createCheckoutSession (customer price successUrl _cancelUrl : String) :
    Call Sandbox CheckoutSession := do
  let n ← takeNumber
  let m ← takeNumber
  let id := objectId "cs" n
  let session : CheckoutSession :=
    { id
      url := some (successUrl ++ "?session_id=" ++ id)
      customer := some customer
      subscription := none
      status := some "open"
      mode := some "subscription"
      lineItems := some ⟨[⟨objectId "li" m, some price, some 1⟩], false⟩ }
  modify fun s => { s with sessions := s.sessions ++ [session] }
  pure session

/-- Start a visit to the billing pages, which lead straight back. -/
def createPortalSession (customer returnUrl : String) : Call Sandbox PortalSession := do
  let n ← takeNumber
  pure ⟨objectId "bps" n, returnUrl, some customer, some returnUrl⟩

/-- Make a product. -/
def createProduct (d : ProductDetails) : Call Sandbox Product := do
  let n ← takeNumber
  let p : Product :=
    ⟨objectId "prod" n, true, createdAt n, d.name, some d.description, d.taxCode⟩
  modify fun s => { s with products := s.products ++ [p] }
  pure p

/-- The product with an id. -/
def retrieveProduct (id : String) : Call Sandbox Product := do
  orMissing (.product id) ((← get).products.find? (·.id == id))

/-- Change the first item that passes a test. -/
def changeFirst {α : Type} (test : α → Bool) (change : α → α) : List α → List α
  | [] => []
  | a :: as => if test a then change a :: as else a :: changeFirst test change as

/-- Give the product with an id new details. -/
def updateProduct (id : String) (d : ProductDetails) : Call Sandbox Product := do
  let p ← retrieveProduct id
  let change (p : Product) : Product :=
    { p with name := d.name, description := some d.description, taxCode := d.taxCode }
  modify fun s => { s with products := changeFirst (·.id == id) change s.products }
  pure (change p)

/-- Delete the product with an id. -/
def deleteProduct (id : String) : Call Sandbox Deleted := do
  let _ ← retrieveProduct id
  modify fun s => { s with products := s.products.filter (·.id != id) }
  pure ⟨id, true⟩

/-- Make a price. Its product has to exist. -/
def createPrice (t : PriceTerms) : Call Sandbox Price := do
  let _ ← retrieveProduct t.product
  let n ← takeNumber
  let p : Price :=
    { id := objectId "price" n
      active := true
      created := createdAt n
      currency := t.currency
      unitAmount := some t.unitAmount
      product := t.product
      recurring := some ⟨t.recurring.name⟩
      taxBehavior := t.taxBehavior }
  modify fun s => { s with prices := s.prices ++ [p] }
  pure p

/-- The price with an id. -/
def retrievePrice (id : String) : Call Sandbox Price := do
  orMissing (.price id) ((← get).prices.find? (·.id == id))

/-- Take the price with an id into or out of use. -/
def updatePrice (id : String) (active : Bool) : Call Sandbox Price := do
  let p ← retrievePrice id
  modify fun s =>
    { s with prices := changeFirst (·.id == id) (fun p => { p with active }) s.prices }
  pure { p with active }

instance : PaymentProvider Sandbox where
  getCheckoutSession := getCheckoutSession
  getCustomer := getCustomer
  createCustomer := createCustomer
  createCheckoutSession := createCheckoutSession
  createPortalSession := createPortalSession
  createProduct := createProduct
  retrieveProduct := retrieveProduct
  updateProduct := updateProduct
  listProducts limit := do return page (← get).products limit
  deleteProduct := deleteProduct
  searchProducts query limit := do return page ((← get).findProducts query) limit
  createPrice := createPrice
  retrievePrice := retrievePrice
  updatePrice := updatePrice
  listPrices limit := do return page (← get).prices limit
  searchPrices query limit := do return page ((← get).findPrices query) limit
  recordSubscription? := some recordSubscription

end Sandbox

end OrgBilling.Provider
