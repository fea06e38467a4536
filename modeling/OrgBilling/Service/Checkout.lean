import OrgBilling.Service.World

/-!
# What a checkout needs

A checkout needs a customer and a price that the provider knows. Both are made on first use: the
customer when its organization has none, and the provider's price when the default price has not
been pushed yet.
-/

namespace OrgBilling.Checkout

variable {σ : Type} [PaymentProvider σ]

/-- The customer of an organization, made at the provider and attached on first use. The given row
may be out of date: if it shows no customer, the database is asked again, and the row stays locked
until the customer has been attached. -/
def organizationCustomer (o : Organization) : Billing σ String := do
  match o.customerId with
  | some customer => pure customer
  | none =>
    Billing.transaction do
      match ← Billing.inSession (Session.execute (Store.lockOrganizationCustomer o.id)) with
      | some customer =>
        Billing.inSession Session.commit
        pure customer
      | none =>
        let customer ← Billing.besideSession (PaymentProvider.createCustomer o.name o.displayName)
        Billing.inSession (Records.setOrganizationCustomer o.id customer.id)
        Billing.inSession Session.commit
        pure customer.id

/-- The product of a price with a provider id, pushed first if it has none. -/
def pushedProduct (price : CatalogPrice) : Billing σ CatalogProduct := do
  match ← Billing.transact (Store.getProduct price.product) with
  | none => throw (.notFound (.productRow price.product))
  | some product =>
    if product.productId.isNone then
      let pushed ← Billing.onProvider (Provider.syncProduct product)
      Billing.onStore (Records.updateProduct product.id { productId := some pushed.productId })
    else pure product

/-- Push a price to the provider, and note the provider's id. -/
def pushPrice (price : CatalogPrice) : Billing σ CatalogPrice := do
  let product ← pushedProduct price
  let pushed ← Billing.onProvider (Provider.syncPrice price product)
  Billing.onStore (Records.updatePrice price.id { priceId := some pushed.priceId })

/-- The default price, pushed to the provider first if it has not been pushed yet. Prices are pushed
one at a time: whoever had to wait for that looks at the price again, which may have been pushed
meanwhile. -/
def defaultPrice : Billing σ CatalogPrice := do
  let price ← Billing.onStore Records.getOrCreateDefaultPrice
  if price.priceId.isSome then pure price
  else
    let price ← Billing.onStore Records.getOrCreateDefaultPrice
    if price.priceId.isSome then pure price
    else pushPrice price

end OrgBilling.Checkout
