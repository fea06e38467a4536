import OrgBilling.Service.World

/-!
# Pushing the catalog to the provider

A sync run pushes every active product and then its active prices by their ids, product by product
in the order of their names, and notes the provider's ids on the rows. A price that has been pushed
before is left alone unless the run is forced, since pushing a price replaces it at the provider. The
run ends at the first failure; what it has pushed and noted until then stays.
-/

namespace OrgBilling

/-- What a sync run did. -/
structure SyncSummary where
  /-- The products that were pushed. -/
  productsSynced : Nat
  /-- The prices that were pushed. -/
  pricesSynced : Nat
  /-- The active prices that were left alone. -/
  pricesSkipped : Nat
  deriving DecidableEq

namespace CatalogSync

variable {σ : Type} [PaymentProvider σ]

/-- Push a product and note the provider's id. -/
def pushProduct (p : CatalogProduct) : Billing σ CatalogProduct := do
  let pushed ← Billing.onProvider (Provider.syncProduct p)
  let _ ← Billing.onStore (Records.updateProduct p.id { productId := some pushed.productId })
  pure pushed

/-- Push a price of a pushed product and note the provider's id. -/
def pushPrice (product : CatalogProduct) (p : CatalogPrice) : Billing σ Unit := do
  let pushed ← Billing.onProvider (Provider.syncPrice p product)
  let _ ← Billing.onStore (Records.updatePrice p.id { priceId := some pushed.priceId })
  pure ()

/-- Push the prices of a product that are to be pushed. -/
def pushPrices (force : Bool) (product : CatalogProduct) (summary : SyncSummary) :
    List CatalogPrice → Billing σ SyncSummary
  | [] => pure summary
  | p :: ps =>
    if p.priceId.isSome && !force then
      pushPrices force product { summary with pricesSkipped := summary.pricesSkipped + 1 } ps
    else do
      pushPrice product p
      pushPrices force product { summary with pricesSynced := summary.pricesSynced + 1 } ps

/-- The active prices of a product. -/
def activePricesOf (product : Uuid) (prices : List CatalogPrice) : List CatalogPrice :=
  prices.filter fun p => p.product == product && p.isActive

/-- Push the active ones among products, each followed by its prices. -/
def pushProducts (force : Bool) (prices : List CatalogPrice) (summary : SyncSummary) :
    List CatalogProduct → Billing σ SyncSummary
  | [] => pure summary
  | p :: ps =>
    if p.isActive then do
      let pushed ← pushProduct p
      let summary ←
        pushPrices force pushed { summary with productsSynced := summary.productsSynced + 1 }
          (activePricesOf p.id prices)
      pushProducts force prices summary ps
    else pushProducts force prices summary ps

/-- Run a sync. The prices are read once, before the first push. -/
def run {c : Store.Collation} (order : c.Arrangement CatalogProduct.name) (force : Bool) :
    Billing σ SyncSummary := do
  let prices ← Billing.transact Store.listPrices
  let products ← Billing.transact (Store.listProducts order)
  pushProducts force prices ⟨0, 0, 0⟩ products

end CatalogSync

/-- A summary as a JSON object. -/
def SyncSummary.toJson (s : SyncSummary) : Json :=
  .object
    [("products_synced", .int s.productsSynced),
     ("prices_synced", .int s.pricesSynced),
     ("prices_skipped", .int s.pricesSkipped)]

end OrgBilling
