import OrgBilling.Store.Catalog
import OrgBilling.Store.Session

/-!
# Operations on the records

What the application does with its subscriptions, organizations, products and prices, statement by
statement. An operation of one statement is committed with it; one that has to make several changes
makes them in a transaction. That a row was missing shows in the number of rows that a statement
affected, and is noticed after the statement.

One price is the default: the only active one. If no price is active, a default product and price
are made on the first request (`getOrCreateDefaultPrice`), and if several are, none can be chosen.
-/

namespace OrgBilling.Records

open Session (execute)

/-- Fail if a statement affected no row. -/
def requireRows {m : Type → Type} [Monad m] [MonadExcept BillingError m] (rows : Nat)
    (what : Missing) : m Unit :=
  if rows = 0 then throw (.notFound what) else pure ()

/-! ## Subscriptions -/

/-- Set the status of a subscription. -/
def setStatus (id : Uuid) (status : SubscriptionStatus) : Call Store Unit := do
  let rows ← commit (Store.updateStatus id status)
  requireRows rows (.subscriptionRow id)

/-- Remove a subscription with its link and items. -/
def deleteSubscription (id : Uuid) : Call Store Unit :=
  transaction do
    let _ ← execute (Store.deleteLinks id)
    let rows ← execute (Store.removeSubscriptions (·.id == id))
    requireRows rows (.subscriptionRow id)
    Session.commit

/-- Remove a customer: its subscriptions with their links and items go, and then the organization
that holds it lets it go. The result counts the subscriptions. -/
def deleteCustomer (customer : String) : Call Store Nat :=
  transaction do
    execute (Store.deleteLinksOf customer)
    let rows ← execute (Store.removeSubscriptionsOf customer)
    execute (Store.releaseCustomer customer)
    Session.commit
    pure rows

/-- Record a new subscription of the organization that holds a customer: active, on the given price,
linked to the organization, and with one line item of one unit. -/
def insertLinkedSubscription (customer subscription : String) (price : Uuid) :
    Call Store Subscription :=
  transaction do
    match ← execute (Store.getOrganizationByCustomer customer) with
    | none => throw (.notFound (.customerHolder customer))
    | some organization =>
      let sub ← execute (Store.insertSubscription customer subscription price .active)
      execute (Store.insertLink organization.id sub.id)
      execute (Store.insertItem sub.id price 1)
      Session.commit
      pure sub

/-! ## Organizations -/

/-- Let an organization hold a customer, in an open transaction. -/
def setOrganizationCustomer (id : Uuid) (customer : String) : Call Session Unit := do
  let rows ← execute (Store.holdCustomer id customer)
  requireRows rows (.organizationRow id)

/-- Let an organization hold a customer, in a transaction of its own. -/
def attachCustomer (id : Uuid) (customer : String) : Call Store Unit :=
  transaction do
    setOrganizationCustomer id customer
    Session.commit

/-! ## Products and prices -/

/-- Update a product. -/
def updateProduct (id : Uuid) (changes : ProductChanges) : Call Store CatalogProduct := do
  match ← commit (Store.getProduct id) with
  | none => throw (.notFound (.productRow id))
  | some p => commit (Store.overwriteProduct (changes.apply p))

/-- Remove a product with what hangs on it. -/
def deleteProduct (id : Uuid) : Call Store Unit := do
  let rows ← commit (Store.removeProduct id)
  requireRows rows (.productRow id)

/-- Update a price. -/
def updatePrice (id : Uuid) (changes : PriceChanges) : Call Store CatalogPrice := do
  match ← commit (Store.getPrice id) with
  | none => throw (.notFound (.priceRow id))
  | some p => commit (Store.overwritePrice (changes.apply p))

/-- Remove a price with what hangs on it. -/
def deletePrice (id : Uuid) : Call Store Unit := do
  let rows ← commit (Store.removePrice id)
  requireRows rows (.priceRow id)

/-- The only active price. If there is none, the default product and a price for it are made. -/
def getOrCreateDefaultPrice : Call Store CatalogPrice :=
  transaction do
    match ← execute (Store.listActivePrices 2) with
    | [] =>
      let product ← execute <| Store.insertProduct "PyPI" "Organization account for companies" none
        (some "txcd_10103001")
      let price ← execute <| Store.insertPrice none "usd" product.id 5000 .month (some "inclusive")
      Session.commit
      pure price
    | [price] =>
      Session.commit
      pure price
    | _ => throw (.internal .severalActivePrices)

end OrgBilling.Records
