import OrgBilling.Proofs.CatalogSync
import OrgBilling.Proofs.Checkout

/-!
# What a checkout sells

A checkout sells the default price. On the way there the database and the provider take turns: the
row is found or made, its product is pushed and gets its id, the price is pushed and gets its id, and
each of these steps is left out where an earlier checkout has come as far as that. Whichever of them
are taken, the database then has one active price, which carries a provider id, and the rows are what
they were but for ids that were missing (`sells_default_price`).

A price that was pushed for this checkout is offered on the terms of its row, for the product that
the row of its product names (`offers_defaultPrice`). A row that has an id is taken at its word: the
provider is not asked.
-/

namespace OrgBilling

open Store Transaction
open Provider (Sandbox)
open CatalogSync (Offers)

namespace Store

variable {s : Store}

/-- The default price has no provider id if its row had none: a new one has none. -/
theorem priceId_of_bootstrapped (hd : (s.prices.rows.map (·.id)).Nodup) {p : CatalogPrice}
    (hp : s.bootstrapped.activePrices = [p])
    (unpushed : ∀ old, s.price? p.id = some old → old.priceId = none) : p.priceId = none := by
  by_cases h : s.activePrices = []
  · rw [bootstrapped_of_eq_nil h, activePrices_withDefaultPrice h] at hp
    cases hp
    rfl
  · rw [bootstrapped_of_ne_nil h] at hp
    have row : p ∈ s.activePrices := hp ▸ List.mem_singleton_self p
    exact unpushed p (find?_of_nodup hd (List.mem_filter.1 row).1)

end Store

namespace Checkout

variable {w w' : World Sandbox} {price : CatalogPrice}

theorem ProductKnown.sound {q : CatalogProduct} {productId : String} {v v' : Sandbox}
    (h : ProductKnown q productId v v') (hv : v.Sound) : v'.Sound := by
  cases h with
  | already => exact hv
  | pushed _ push => exact (Sandbox.createOrUpdateProduct_ok hv push).1

/-- A price that the provider has just made is offered on its terms. -/
theorem offers_newPrice {v v' : Sandbox} (h : v.Sound) {p : CatalogPrice} {productId : String}
    {made : Provider.Price}
    (hon : (Provider.createOrUpdatePrice (CatalogSync.termsOf p productId)).on v = (.ok made, v'))
    (priceId : Option String) :
    v'.price? made.id = some made ∧ made.active = true ∧ Offers made productId { p with priceId } := by
  obtain ⟨rfl, rfl⟩ := Sandbox.createOrUpdatePrice_ok h hon
  have mem : Sandbox.newPrice (CatalogSync.termsOf p productId) v.next ∈
      (v.replacePrice (CatalogSync.termsOf p productId)).prices :=
    List.mem_append_right _ (List.mem_singleton_self _)
  exact ⟨(h.replacePrice _).price? mem, rfl, ⟨rfl, rfl, rfl, rfl, rfl⟩⟩

/-- A price that had no provider id is offered under the one that it has got. -/
theorem offers_defaultPrice (hs : Schema w.store) (hf : Fresh w.store) (hr : w.provider.Sound)
    (h : (Checkout.defaultPrice).on w = (.ok price, w'))
    (unpushed : ∀ old, w.store.price? price.id = some old → old.priceId = none) :
    ∃ q productId r, w'.store.product? price.product = some q ∧ q.productId = some productId ∧
      price.priceId = some r.id ∧ w'.provider.price? r.id = some r ∧ r.active = true ∧
      Offers r productId price := by
  obtain ⟨p, default,
    ⟨rfl, ⟨_, hid⟩, -⟩ | ⟨-, q, productId, made, v, hq, known, hmade, rfl, hstore⟩⟩ :=
    defaultPrice_cases hs hf h
  · rw [priceId_of_bootstrapped hs.prices default unpushed] at hid
    cases hid
  have product : w'.store.product? p.product =
      some { q with productId := q.productId.or (some productId) } := by
    rw [hstore]
    refine (product?_labelProduct p.product p.product (some productId) _).trans ?_
    rw [hq, Option.map_some, if_pos rfl]
  obtain ⟨found, inUse, offers⟩ := offers_newPrice (known.sound hr) hmade (some made.id)
  exact ⟨_, productId, made, product, known.or_eq, rfl, found, inUse, offers⟩

/-- The default price can be sold. Let the database keep its schema and have free ids for new rows,
and let the provider in memory be one that requests have led to. If the default price is had, then the
result is its row, it is the only active price, and it carries a provider id. If its row had none
before, the provider has a price with that id, which is in use, on the terms of the row, and for the
product that the row of its product names. The database is as it was, but for a default product and
price that are made if no price was active, and for the provider ids of the price and of its product,
which are put where there was none. Asking again gives the same price and changes nothing, neither in
the database nor at the provider. -/
theorem sells_default_price (hs : Schema w.store) (hf : Fresh w.store) (hr : w.provider.Reachable)
    (h : (Checkout.defaultPrice).on w = (.ok price, w')) :
    (w'.store.price? price.id = some price ∧ w'.store.activePrices = [price]) ∧
    (∃ priceId, price.priceId = some priceId ∧
      ((∀ old, w.store.price? price.id = some old → old.priceId = none) →
        ∃ q productId r, w'.store.product? price.product = some q ∧ q.productId = some productId ∧
          w'.provider.price? priceId = some r ∧ r.active = true ∧ Offers r productId price)) ∧
    (∃ productId priceId, w'.store =
      (w.store.bootstrapped.labelProduct price.product productId).labelPrice price.id priceId) ∧
    (Checkout.defaultPrice).on w' = (.ok price, w') := by
  obtain ⟨active, ⟨priceId, hid⟩, -⟩ := defaultPrice_ok hs hf h
  have steps : ServiceSteps w.store w'.store := by simpa [h] using moves_defaultPrice.on w
  have schema : Schema w'.store := hs.evolves hf steps.changes.evolves
  have row : price ∈ w'.store.activePrices := active ▸ List.mem_singleton_self price
  refine ⟨⟨find?_of_nodup schema.prices (List.mem_filter.1 row).1, active⟩,
    ⟨priceId, hid, fun unpushed => ?_⟩, ?_, defaultPrice_on_of_some active hid⟩
  · obtain ⟨q, productId, r, product, label, hprice, offered⟩ :=
      offers_defaultPrice hs hf hr.sound h unpushed
    obtain rfl := Option.some.inj (hid.symm.trans hprice)
    exact ⟨q, productId, r, product, label, offered⟩
  · obtain ⟨p, -, ⟨rfl, -, hstore, -⟩ | ⟨-, q, productId, made, v, -, -, -, rfl, hstore⟩⟩ :=
      defaultPrice_cases hs hf h
    · exact ⟨none, none, by rw [labelProduct_none, labelPrice_none, hstore]⟩
    · exact ⟨some productId, some made.id, hstore⟩

/-- A product that the provider knows, with a price that it does not know yet. -/
def halfSynced : World Sandbox :=
  afterAll ⟨.empty, (Sandbox.Request.createProduct ⟨"Pro", "For teams", none⟩).after .fresh⟩
    [.insertProduct "Pro" "For teams" (some "prod_mock00000001") none,
      .insertPrice none "usd" (.row 2 1) 500 .month none]

theorem on_halfSynced :
    ((Checkout.defaultPrice).on halfSynced).1 =
      .ok ⟨.row 3 1, some "price_mock00000002", "usd", .row 2 1, 500, true, .month, none⟩ ∧
    ((Checkout.defaultPrice).on halfSynced).2.store.product? (.row 2 1) =
      some ⟨.row 2 1, some "prod_mock00000001", "Pro", "For teams", true, none⟩ := by
  decide +kernel

/-- Only the price is pushed, for the product that is there. -/
theorem sells_default_price_of_halfSynced :
    let w' := ((Checkout.defaultPrice).on halfSynced).2
    ∃ r, w'.provider.price? "price_mock00000002" = some r ∧ r.active = true ∧
      r.product = "prod_mock00000001" ∧ r.unitAmount = some 500 ∧
      ((Checkout.defaultPrice).on w').2 = w' := by
  intro w'
  have reachable : Reachable halfSynced := (Reachable.empty _).afterAll _
  have schema : Schema halfSynced.store := Schema.empty.evolves .empty reachable.evolves
  have fresh : Fresh halfSynced.store := Fresh.empty.evolves reachable.evolves
  have known : halfSynced.provider.Reachable := .after .fresh (.createProduct _)
  have unpushed : ∀ old, halfSynced.store.price? (.row 3 1) = some old → old.priceId = none := by
    intro old hold
    cases hold
    rfl
  obtain ⟨price, product⟩ := on_halfSynced
  obtain ⟨-, ⟨priceId, hid, offered⟩, -, again⟩ :=
    sells_default_price schema fresh known (Prod.ext price rfl)
  cases hid
  obtain ⟨q, productId, r, hq, hid, hr, active, offers⟩ := offered unpushed
  obtain rfl := Option.some.inj (product.symm.trans hq)
  cases hid
  exact ⟨r, hr, active, offers.product, offers.unitAmount, congrArg (·.2) again⟩

end Checkout

end OrgBilling
