import OrgBilling.Store.Catalog
import OrgBilling.Store.Ledger

/-!
# What operations on the records come to

The operations on the records take several statements. Seen from outside, each of them happens in
one piece or not at all, and here is for each of them what it comes to then, as a `Transaction`: it
looks first at all that could go wrong, and then makes its changes. That the statements of an
operation come to this is shown with the operation (`Records.deleteCustomer_eq` and its kind), and
whatever else is to be known of an operation is read off its net effect.
-/

namespace OrgBilling.Store

open Transaction

/-- The net effect of setting the status of a subscription. -/
def setStatus (id : Uuid) (status : SubscriptionStatus) : Transaction Unit := do
  let s ← get
  if (s.subscription? id).isNone then throw (.notFound (.subscriptionRow id))
  set
    { s with
      subscriptions :=
        s.subscriptions.map fun sub => if sub.id = id then { sub with status } else sub }

/-- The net effect of removing a subscription. -/
def deleteSubscription (id : Uuid) : Transaction Unit := do
  let s ← get
  if (s.subscription? id).isNone then throw (.notFound (.subscriptionRow id))
  set (s.dropSubscriptions [id])

/-- The net effect of removing a customer. -/
def deleteCustomer (customer : String) : Transaction Nat := do
  requireTexts [customer]
  let s ← get
  let gone := s.subscriptions.rows.filter (·.customerId == customer)
  set (s.dropSubscriptions (gone.map (·.id)))
  releaseCustomer customer
  pure gone.length

/-- The net effect of letting an organization hold a customer. -/
def setOrganizationCustomer (id : Uuid) (customer : String) : Transaction Unit := do
  requireTexts [customer]
  let s ← get
  match s.organization? id with
  | none => throw (.notFound (.organizationRow id))
  | some o =>
    require (s.organizations.rows.all fun p => p.id == id || !holds customer p)
      (.duplicateKey customerIndex)
    requireIndexable customerIndex [customer]
    let subscriptions :=
      match o.customerId with
      | some old => renameCustomer old customer s.subscriptions
      | none => s.subscriptions
    require (hasUniqueSubscriptions subscriptions) (.duplicateKey subscriptionIndex)
    (subscriptions.rows.filter (·.customerId == customer)).forM fun sub =>
      requireIndexable subscriptionIndex [customer, sub.subscriptionId]
    set
      { s with
        organizations :=
          s.organizations.map fun p =>
            if p.id = id then { p with customerId := some customer } else p
        subscriptions }

/-- The net effect of updating a product. -/
def updateProduct (id : Uuid) (changes : ProductChanges) : Transaction CatalogProduct := do
  let s ← get
  match s.product? id with
  | none => throw (.notFound (.productRow id))
  | some old =>
    let p := changes.apply old
    requireTexts (p.name :: p.description :: p.productId.toList ++ p.taxCode.toList)
    set { s with products := s.products.map fun q => if q.id = id then p else q }
    pure p

/-- The net effect of removing a product. -/
def deleteProduct (id : Uuid) : Transaction Unit := do
  let s ← get
  if (s.product? id).isNone then throw (.notFound (.productRow id))
  set (s.dropProducts [id])

/-- The net effect of updating a price. -/
def updatePrice (id : Uuid) (changes : PriceChanges) : Transaction CatalogPrice := do
  let s ← get
  match s.price? id with
  | none => throw (.notFound (.priceRow id))
  | some old =>
    let p := changes.apply old
    requireTexts (priceTexts p)
    requirePrice p
    set { s with prices := s.prices.map fun q => if q.id = id then p else q }
    pure p

/-- The net effect of removing a price. -/
def deletePrice (id : Uuid) : Transaction Unit := do
  let s ← get
  if (s.price? id).isNone then throw (.notFound (.priceRow id))
  set (s.dropPrices [id])

/-- The net effect of asking for the default price. -/
def getOrCreateDefaultPrice : Transaction CatalogPrice := do
  match (← get).activePrices with
  | [] =>
    let product ← insertProduct "PyPI" "Organization account for companies" none
      (some "txcd_10103001")
    insertPrice none "usd" product.id 5000 .month (some "inclusive")
  | [price] => pure price
  | _ => throw (.internal .severalActivePrices)

/-- The net effect of recording a new subscription. -/
def insertLinkedSubscription (customer subscription : String) (price : Uuid) :
    Transaction Subscription := do
  requireTexts [customer]
  match (← get).holder? customer with
  | none => throw (.notFound (.customerHolder customer))
  | some organization =>
    let sub ← insertSubscription customer subscription price .active
    insertLink organization.id sub.id
    insertItem sub.id price 1
    pure sub

end OrgBilling.Store
