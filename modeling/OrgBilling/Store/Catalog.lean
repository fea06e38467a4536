import OrgBilling.Store.Subscriptions

/-!
# The catalog in the database

Products and their prices. A price refers to its product, and subscriptions and line items to their
price; what refers to a removed row is removed with it.
-/

namespace OrgBilling.Store

open Transaction

/-- The product with an id. -/
def product? (id : Uuid) (s : Store) : Option CatalogProduct :=
  s.products.rows.find? (·.id == id)

/-- The price with an id. -/
def price? (id : Uuid) (s : Store) : Option CatalogPrice :=
  s.prices.rows.find? (·.id == id)

/-- The store without the prices with the given ids and what hangs on them. -/
def dropPrices (ids : List Uuid) (s : Store) : Store :=
  let gone := (s.subscriptions.rows.filter fun sub => ids.contains sub.price).map (·.id)
  dropSubscriptions gone
    { s with
      prices := s.prices.filter fun p => !ids.contains p.id
      items := s.items.filter fun i => !ids.contains i.price }

/-- The store without the products with the given ids and what hangs on them. -/
def dropProducts (ids : List Uuid) (s : Store) : Store :=
  let gone := (s.prices.rows.filter fun p => ids.contains p.product).map (·.id)
  dropPrices gone { s with products := s.products.filter fun p => !ids.contains p.id }

/-! ## Products -/

/-- Put an active product in. -/
def insertProduct (name description : String) (productId taxCode : Option String) :
    Transaction CatalogProduct := do
  requireTexts (name :: description :: productId.toList ++ taxCode.toList)
  let s ← get
  let row (id : Uuid) : CatalogProduct :=
    { id, productId, name, description, isActive := true, taxCode }
  set { s with products := s.products.insert productTag row }
  pure (s.products.nextRow productTag row)

/-- Read the product with an id. -/
def getProduct (id : Uuid) : Transaction (Option CatalogProduct) := do
  return (← get).product? id

/-- All products, in the order of their names. -/
def listProducts {c : Collation} (order : c.Arrangement CatalogProduct.name) :
    Transaction (List CatalogProduct) := do
  return order.arrange (← get).products.rows

/-- The id of the product with a name or a provider id. -/
def findProduct (term : String) : Transaction (Option Uuid) := do
  requireTexts [term]
  let isMeant (p : CatalogProduct) : Bool := p.name == term || p.productId == some term
  match (← get).products.rows.filter isMeant with
  | [] => pure none
  | [p] => pure (some p.id)
  | _ => throw (.invalidInput (.ambiguousProduct term))

/-- Write a product over the row with its id, which has to be there. -/
def overwriteProduct (p : CatalogProduct) : Transaction CatalogProduct := do
  requireTexts (p.name :: p.description :: p.productId.toList ++ p.taxCode.toList)
  let s ← get
  require (s.product? p.id).isSome .noRow
  set { s with products := s.products.map fun q => if q.id = p.id then p else q }
  pure p

/-- Remove the product with an id and what hangs on it, and count the products. -/
def removeProduct (id : Uuid) : Transaction Nat := do
  let s ← get
  let gone := s.products.rows.filter (·.id == id)
  set (s.dropProducts (gone.map (·.id)))
  pure gone.length

/-! ## Prices -/

/-- The texts of a price. -/
def priceTexts (p : CatalogPrice) : List String :=
  p.currency :: p.priceId.toList ++ p.taxBehavior.toList

/-- What the price table demands of a row: an amount that is not negative, and a product that
exists. -/
def requirePrice (p : CatalogPrice) : Transaction Unit := do
  require (0 ≤ p.unitAmount)
    (.checkViolated "subscription_prices" "subscription_prices_unit_amount_check")
  require ((← get).product? p.product).isSome
    (.danglingReference "subscription_prices" "subscription_prices_subscription_product_id_fkey")

/-- Put an active price in. -/
def insertPrice (priceId : Option String) (currency : String) (product : Uuid) (unitAmount : Int)
    (recurring : Interval) (taxBehavior : Option String) : Transaction CatalogPrice := do
  let s ← get
  let row (id : Uuid) : CatalogPrice :=
    { id, priceId, currency, product, unitAmount, isActive := true, recurring, taxBehavior }
  requireTexts (priceTexts (s.prices.nextRow priceTag row))
  requirePrice (s.prices.nextRow priceTag row)
  set { s with prices := s.prices.insert priceTag row }
  pure (s.prices.nextRow priceTag row)

/-- Read the price with an id. -/
def getPrice (id : Uuid) : Transaction (Option CatalogPrice) := do
  return (← get).price? id

/-- Prices in the order of their ids. -/
def sortPrices (prices : List CatalogPrice) : List CatalogPrice :=
  prices.mergeSort fun p q => decide (p.id.value ≤ q.id.value)

theorem perm_sortPrices (prices : List CatalogPrice) : (sortPrices prices).Perm prices :=
  List.mergeSort_perm _ _

theorem pairwise_sortPrices (prices : List CatalogPrice) :
    (sortPrices prices).Pairwise fun p q => p.id.value ≤ q.id.value := by
  have sorted : (sortPrices prices).Pairwise fun p q => decide (p.id.value ≤ q.id.value) = true :=
    List.pairwise_mergeSort (fun p q r => by simpa using Nat.le_trans)
      (fun p q => by simpa using Nat.le_total _ _) prices
  exact sorted.imp fun h => by simpa using h

/-- Prices that stand in the order of their ids are left alone. -/
theorem sortPrices_of_pairwise {prices : List CatalogPrice}
    (h : prices.Pairwise fun p q => p.id.value ≤ q.id.value) : sortPrices prices = prices :=
  List.mergeSort_of_pairwise (h.imp fun hle => by simpa using hle)

/-- All prices, in the order of their ids. -/
def listPrices : Transaction (List CatalogPrice) := do
  return sortPrices (← get).prices.rows

/-- The id of the price with a provider id. -/
def findPrice (priceId : String) : Transaction (Option Uuid) := do
  requireTexts [priceId]
  match (← get).prices.rows.filter (·.priceId == some priceId) with
  | [] => pure none
  | [p] => pure (some p.id)
  | _ => throw (.invalidInput (.ambiguousPrice priceId))

/-- Write a price over the row with its id, which has to be there. -/
def overwritePrice (p : CatalogPrice) : Transaction CatalogPrice := do
  requireTexts (priceTexts p)
  let s ← get
  require (s.price? p.id).isSome .noRow
  requirePrice p
  set { s with prices := s.prices.map fun q => if q.id = p.id then p else q }
  pure p

/-- Remove the price with an id and what hangs on it, and count the prices. -/
def removePrice (id : Uuid) : Transaction Nat := do
  let s ← get
  let gone := s.prices.rows.filter (·.id == id)
  set (s.dropPrices (gone.map (·.id)))
  pure gone.length

/-- The active prices. -/
def activePrices (s : Store) : List CatalogPrice :=
  s.prices.rows.filter (·.isActive)

/-- The first ones of the active prices, up to a number. -/
def listActivePrices (limit : Nat) : Transaction (List CatalogPrice) := do
  return (← get).activePrices.take limit

end OrgBilling.Store
