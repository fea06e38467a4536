import OrgBilling.Proofs.Transaction

/-!
# Questions to the database

`Query` lists what the database can be asked. A question changes nothing, whatever the answer is
(`Query.reads`).
-/

namespace OrgBilling.Store

open Transaction

/-- What the database can be asked. -/
inductive Query
  /-- The organization with an id. -/
  | organization (id : Uuid)
  /-- The organization that holds a customer. -/
  | holder (customer : String)
  /-- The customer of an organization. -/
  | customerOf (organization : Uuid)
  /-- The subscription with an id. -/
  | subscription (id : Uuid)
  /-- The row for a provider subscription. -/
  | findSubscription (subscription : String)
  /-- The subscriptions of a customer. -/
  | subscriptionsByCustomer {c : Collation} (order : c.Arrangement Subscription.subscriptionId)
      (customer : String)
  /-- The subscriptions that an organization is linked to. -/
  | subscriptionsByOrganization {c : Collation} (order : c.Arrangement Subscription.subscriptionId)
      (organization : Uuid)
  /-- The links of a subscription. -/
  | linksOf (subscription : Uuid)
  /-- The items of a subscription. -/
  | itemsOf (subscription : Uuid)
  /-- The product with an id. -/
  | product (id : Uuid)
  /-- All products. -/
  | products {c : Collation} (order : c.Arrangement CatalogProduct.name)
  /-- The product with a name or a provider id. -/
  | findProduct (term : String)
  /-- The price with an id. -/
  | price (id : Uuid)
  /-- All prices. -/
  | prices
  /-- The price with a provider id. -/
  | findPrice (priceId : String)
  /-- A page of the ledger. -/
  | deliveries (order : Arrangement fun d d' => Ledger.isNewer d d' = true) (state : Option String)
      (limit offset : Int)

/-- A transaction of which only the effect counts. -/
def silent {α : Type} (t : Transaction α) : Transaction Unit := do
  let _ ← t
  pure ()

/-- Ask the database. -/
def Query.ask : Query → Transaction Unit
  | organization id => silent (getOrganization id)
  | holder customer => silent (getOrganizationByCustomer customer)
  | customerOf id => silent (lockOrganizationCustomer id)
  | subscription id => silent (getSubscription id)
  | findSubscription id => silent (Store.findSubscription id)
  | subscriptionsByCustomer order customer => silent (Store.subscriptionsByCustomer order customer)
  | subscriptionsByOrganization order id => silent (Store.subscriptionsByOrganization order id)
  | linksOf id => silent (Store.linksOf id)
  | itemsOf id => silent (Store.itemsOf id)
  | product id => silent (getProduct id)
  | products order => silent (listProducts order)
  | findProduct term => silent (Store.findProduct term)
  | price id => silent (getPrice id)
  | prices => silent listPrices
  | findPrice priceId => silent (Store.findPrice priceId)
  | deliveries order state limit offset => silent (Ledger.list order state limit offset)

theorem reads_lookup {α : Type} (f : Store → α) : Reads (do return f (← get)) :=
  reads_get.bind fun _ => reads_pure _

theorem reads_lockOrganizationCustomer (id : Uuid) : Reads (lockOrganizationCustomer id) := by
  refine reads_get.bind fun s => ?_
  cases s.organization? id with
  | some o => exact reads_pure _
  | none => exact reads_throw _

theorem reads_findSubscription (subscription : String) :
    Reads (findSubscription subscription) := by
  refine (reads_requireTexts _).bind fun _ => reads_get.bind fun s => ?_
  generalize s.subscriptions.rows.filter (·.subscriptionId == subscription) = found
  match found with
  | [] => exact reads_pure _
  | [x] => exact reads_pure _
  | _ :: _ :: _ => exact reads_throw _

theorem reads_subscriptionsByCustomer {c : Collation}
    (order : c.Arrangement Subscription.subscriptionId) (customer : String) :
    Reads (subscriptionsByCustomer order customer) :=
  (reads_requireTexts _).bind fun _ => reads_lookup _

theorem reads_findProduct (term : String) : Reads (findProduct term) := by
  refine (reads_requireTexts _).bind fun _ => reads_get.bind fun s => ?_
  generalize s.products.rows.filter _ = found
  match found with
  | [] => exact reads_pure _
  | [x] => exact reads_pure _
  | _ :: _ :: _ => exact reads_throw _

theorem reads_findPrice (priceId : String) : Reads (findPrice priceId) := by
  refine (reads_requireTexts _).bind fun _ => reads_get.bind fun s => ?_
  generalize s.prices.rows.filter _ = found
  match found with
  | [] => exact reads_pure _
  | [x] => exact reads_pure _
  | _ :: _ :: _ => exact reads_throw _

theorem reads_list (order : Arrangement fun d d' => Ledger.isNewer d d' = true)
    (state : Option String) (limit offset : Int) : Reads (Ledger.list order state limit offset) :=
  (reads_requireTexts _).bind fun _ => (reads_require _ _).bind fun _ =>
    (reads_require _ _).bind fun _ => reads_lookup _

theorem reads_silent {α : Type} {t : Transaction α} (h : Reads t) : Reads (silent t) :=
  h.bind fun _ => reads_pure _

theorem Query.reads (q : Query) : Reads q.ask := by
  cases q <;> refine reads_silent ?_
  case organization id => exact reads_lookup _
  case holder customer => exact (reads_requireTexts _).bind fun _ => reads_lookup _
  case customerOf id => exact reads_lockOrganizationCustomer id
  case subscription id => exact reads_lookup _
  case findSubscription subscription => exact reads_findSubscription subscription
  case subscriptionsByCustomer order customer => exact reads_subscriptionsByCustomer order customer
  case subscriptionsByOrganization order id => exact reads_lookup _
  case linksOf id => exact reads_lookup _
  case itemsOf id => exact reads_lookup _
  case product id => exact reads_lookup _
  case products order => exact reads_lookup _
  case findProduct term => exact reads_findProduct term
  case price id => exact reads_lookup _
  case prices => exact reads_lookup _
  case findPrice priceId => exact reads_findPrice priceId
  case deliveries order state limit offset => exact reads_list order state limit offset

end OrgBilling.Store
