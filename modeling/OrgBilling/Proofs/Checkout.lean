import OrgBilling.Proofs.Keys
import OrgBilling.Proofs.Operation
import OrgBilling.Proofs.Provider.Sessions
import OrgBilling.Proofs.Store.Schema

/-!
# Checkouts

A checkout makes what it needs on first use: a customer of the organization, a default price, and
the provider's ids of the price and its product (`defaultPrice_cases`). Whatever it found, before it
starts its session the database is `Prepared`: the organization holds a customer, and the only active
price carries a provider id (`prepared_of_checkout`). From a prepared database a checkout does nothing
but start a session (`run_checkout`), so the next one finds it prepared again, for the same customer
and the same price (`checkout_then_again`).
-/

namespace OrgBilling

open Store Transaction
open Provider (Sandbox CheckoutSession)

namespace Store

variable {s s' : Store} {id : Uuid}

/-! ### Provider ids on rows -/

/-- The store with a provider id on a product, unless the product has one already. -/
def labelProduct (id : Uuid) (productId : Option String) (s : Store) : Store :=
  { s with
    products := s.products.map fun q =>
      if q.id = id then { q with productId := q.productId.or productId } else q }

/-- The store with a provider id on a price, unless the price has one already. -/
def labelPrice (id : Uuid) (priceId : Option String) (s : Store) : Store :=
  { s with
    prices := s.prices.map fun p =>
      if p.id = id then { p with priceId := p.priceId.or priceId } else p }

section Labels

variable {q r : CatalogProduct} {productId : String}

theorem product?_labelProduct (id j : Uuid) (productId : Option String) (s : Store) :
    (s.labelProduct id productId).product? j = (s.product? j).map fun q =>
      if j = id then { q with productId := q.productId.or productId } else q :=
  find?_map_change (f := CatalogProduct.id)
    (fun q => { q with productId := q.productId.or productId }) (fun _ hq => hq) j

theorem labelProduct_none (id : Uuid) (s : Store) : s.labelProduct id none = s := by
  simp [labelProduct, Table.map]

theorem labelProduct_of_some (hd : (s.products.rows.map (·.id)).Nodup) (hq : s.product? id = some q)
    (has : q.productId = some productId) (other : Option String) : s.labelProduct id other = s := by
  have fixed : { q with productId := q.productId.or other } = q := by
    rw [has, Option.some_or, ← has]
  have rows := map_change_eq_self (f := CatalogProduct.id) hd hq
    (fun q => { q with productId := q.productId.or other }) fixed
  exact congrArg (fun rows => { s with products := ⟨rows, s.products.issued⟩ }) rows

/-- Noting the provider's id of a product that has none. -/
theorem labelProduct_of_commits (hd : (s.products.rows.map (·.id)).Nodup)
    (hq : s.product? id = some q) (has : q.productId = none)
    (h : Commits (updateProduct id { productId := some (some productId) }) s r s') :
    r = { q with productId := some productId } ∧ s' = s.labelProduct id (some productId) := by
  obtain ⟨old, hold, rfl, -, rfl⟩ := commits_updateProduct.1 h
  obtain rfl : old = q := Option.some.inj (hold.symm.trans hq)
  have rows := map_replace_eq_change (f := CatalogProduct.id) hd hq
    fun q => { q with productId := q.productId.or (some productId) }
  rw [has] at rows
  exact ⟨rfl, congrArg (fun rows => { s with products := ⟨rows, s.products.issued⟩ }) rows⟩

end Labels

theorem labelPrice_none (id : Uuid) (s : Store) : s.labelPrice id none = s := by
  simp [labelPrice, Table.map]

theorem activePrices_labelPrice (id : Uuid) (priceId : Option String) (s : Store) :
    (s.labelPrice id priceId).activePrices = s.activePrices.map fun p =>
      if p.id = id then { p with priceId := p.priceId.or priceId } else p := by
  have same : (·.isActive) ∘ (fun p : CatalogPrice =>
      if p.id = id then { p with priceId := p.priceId.or priceId } else p) = (·.isActive) := by
    funext p
    simp only [Function.comp]
    split <;> rfl
  rw [activePrices, labelPrice, Table.rows_map, List.filter_map, same]
  rfl

/-- Noting the provider's id of a price that has none. -/
theorem labelPrice_of_commits (hd : (s.prices.rows.map (·.id)).Nodup) {p r : CatalogPrice}
    {priceId : String} (hp : s.price? id = some p) (has : p.priceId = none)
    (h : Commits (updatePrice id { priceId := some (some priceId) }) s r s') :
    r = { p with priceId := some priceId } ∧ s' = s.labelPrice id (some priceId) := by
  obtain ⟨old, hold, rfl, -, rfl⟩ := commits_updatePrice.1 h
  obtain rfl : old = p := Option.some.inj (hold.symm.trans hp)
  have rows := map_replace_eq_change (f := CatalogPrice.id) hd hp
    fun p => { p with priceId := p.priceId.or (some priceId) }
  rw [has] at rows
  exact ⟨rfl, congrArg (fun rows => { s with prices := ⟨rows, s.prices.issued⟩ }) rows⟩

end Store

namespace Checkout

variable {s s' : Store}

/-- A checkout of the organization needs to make nothing but its session. -/
structure Prepared (id : Uuid) (customer priceId : String) (s : Store) : Prop where
  organization : ∃ o, s.organization? id = some o ∧ o.customerId = some customer
  price : ∃ p, s.activePrices = [p] ∧ p.priceId = some priceId

/-! ### Making what is needed -/

theorem organization?_moveCustomer (o : Organization) (customer : String) (s : Store) :
    (s.moveCustomer o customer).organization? o.id =
      (s.organization? o.id).map fun p => { p with customerId := some customer } := by
  let hold (p : Organization) : Organization := { p with customerId := some customer }
  show (s.organizations.rows.map fun p => if p.id = o.id then hold p else p).find? _ = _
  rw [find?_map_change (f := Organization.id) hold fun _ hp => hp]
  simp only [if_true]
  rfl

section Services

variable {σ : Type} [PaymentProvider σ] {w w' : World σ}

theorem organizationCustomer_on_of_some {o : Organization} {customer : String}
    (h : o.customerId = some customer) : (organizationCustomer o).on w = (.ok customer, w) := by
  rw [organizationCustomer, h]
  rfl

/-- Afterwards the organization holds the customer. -/
theorem organizationCustomer_ok {o : Organization} {customer : String}
    (ho : w.store.organization? o.id = some o)
    (h : (organizationCustomer o).on w = (.ok customer, w')) :
    ∃ o', w'.store.organization? o.id = some o' ∧ o'.customerId = some customer := by
  cases hheld : o.customerId with
  | some held =>
    rw [organizationCustomer_on_of_some hheld] at h
    cases h
    exact ⟨o, ho, hheld⟩
  | none =>
    have hlock : Commits (lockOrganizationCustomer o.id) w.store none w.store := by
      rw [lockOrganizationCustomer, commits_get_bind, ho, ← hheld]
      exact commits_pure.2 ⟨rfl, rfl⟩
    rw [organizationCustomer_eq, hheld] at h
    dsimp only at h
    rw [Call.on_bind, transact_on_ok hlock] at h
    obtain ⟨made, _, -, hset, rfl⟩ := noted_ok h
    obtain ⟨-, o', ho', -, -, -, -, hstore⟩ := commits_setOrganizationCustomer.1 hset
    obtain rfl : o' = o := Option.some.inj (ho'.symm.trans ho)
    exact ⟨_, by rw [hstore, organization?_moveCustomer, ho]; rfl, rfl⟩

/-- The provider knows a product under an id. -/
inductive ProductKnown (q : CatalogProduct) : String → σ → σ → Prop
  /-- The row says so. -/
  | already {productId : String} {v : σ} (has : q.productId = some productId) :
      ProductKnown q productId v v
  /-- It has been pushed just now. -/
  | pushed {made : Provider.Product} {v v' : σ} (has : q.productId = none)
      (push : (Provider.createOrUpdateProduct (Provider.detailsOf q)).on v = (.ok made, v')) :
      ProductKnown q made.id v v'

theorem ProductKnown.or_eq {q : CatalogProduct} {productId : String} {v v' : σ}
    (h : ProductKnown q productId v v') : q.productId.or (some productId) = some productId := by
  cases h with
  | already has => rw [has]; rfl
  | pushed has => rw [has]; rfl

/-- The product of a price has a provider id, or it gets one. -/
theorem pushedProduct_ok (hd : (w.store.products.rows.map (·.id)).Nodup) {price : CatalogPrice}
    {product : CatalogProduct} (h : (pushedProduct price).on w = (.ok product, w')) :
    ∃ q productId, w.store.product? price.product = some q ∧
      product = { q with productId := some productId } ∧
      w'.store = w.store.labelProduct price.product (some productId) ∧
      ProductKnown q productId w.provider w'.provider := by
  rw [pushedProduct_eq] at h
  obtain ⟨found, u, hfound, h⟩ := Call.on_bind_ok h
  obtain ⟨hget, hprovider⟩ := transact_ok hfound
  obtain ⟨rfl, hstore⟩ : found = w.store.product? price.product ∧ u.store = w.store := by
    rw [getProduct, commits_get_bind] at hget
    exact commits_pure.1 hget
  obtain rfl : u = w := by
    cases u; cases w; cases hstore; cases hprovider; rfl
  cases hq : u.store.product? price.product with
  | none => rw [hq] at h; cases h
  | some q =>
    rw [hq] at h
    dsimp only at h
    cases has : q.productId with
    | some productId =>
      rw [has] at h
      cases h
      refine ⟨_, productId, rfl, ?_, (labelProduct_of_some hd hq has _).symm, .already has⟩
      rw [← has]
    | none =>
      rw [has] at h
      obtain ⟨pushed, v, hpushed, h⟩ := Call.on_bind_ok h
      obtain ⟨hsync, hv⟩ := onProvider_ok hpushed
      obtain ⟨made, hmade, rfl⟩ := Provider.syncProduct_ok hsync
      obtain ⟨hnote, hprovider⟩ := transact_ok h
      obtain ⟨-, hid⟩ := mem_of_product? hq
      rw [hv, hid] at hnote
      obtain ⟨rfl, hlabel⟩ := labelProduct_of_commits hd hq has hnote
      exact ⟨q, made.id, rfl, rfl, hlabel, .pushed has (hprovider ▸ hmade)⟩

theorem defaultPrice_on_of_some {p : CatalogPrice} {priceId : String}
    (hp : w.store.activePrices = [p]) (hid : p.priceId = some priceId) :
    (Checkout.defaultPrice).on w = (.ok p, w) := by
  have hdefault : Commits getOrCreateDefaultPrice w.store p w.store :=
    commits_getOrCreateDefaultPrice.2 (.inl ⟨hp, rfl⟩)
  rw [Checkout.defaultPrice_eq, Call.on_bind, transact_on_ok hdefault]
  dsimp only
  rw [hid]
  rfl

/-- The default price has a provider id and nothing more happens; or the provider makes a price on its
terms, for the product that it knows or has been told, and the rows get their ids. -/
theorem defaultPrice_cases (hs : Schema w.store) (hf : Fresh w.store) {price : CatalogPrice}
    (h : (Checkout.defaultPrice).on w = (.ok price, w')) :
    ∃ p, w.store.bootstrapped.activePrices = [p] ∧
      ((price = p ∧ (∃ priceId, p.priceId = some priceId) ∧ w'.store = w.store.bootstrapped ∧
          w'.provider = w.provider) ∨
        p.priceId = none ∧ ∃ q productId made v,
          w.store.bootstrapped.product? p.product = some q ∧
          ProductKnown q productId w.provider v ∧
          (Provider.createOrUpdatePrice
            ⟨p.unitAmount, p.currency, p.recurring, productId, p.taxBehavior⟩).on v =
              (.ok made, w'.provider) ∧
          price = { p with priceId := some made.id } ∧
          w'.store = (w.store.bootstrapped.labelProduct p.product (some productId)).labelPrice p.id
            (some made.id)) := by
  rw [Checkout.defaultPrice_eq] at h
  obtain ⟨p, u, hp, h⟩ := Call.on_bind_ok h
  obtain ⟨hcommits, hprovider⟩ := transact_ok hp
  have hu : Schema u.store := hs.evolves hf (changes_getOrCreateDefaultPrice hcommits).evolves
  obtain ⟨hactive, hstore⟩ := commits_default_iff.1 hcommits
  rw [← hstore] at hactive ⊢
  refine ⟨p, hactive, ?_⟩
  have hrow : p ∈ u.store.prices.rows :=
    (List.mem_filter.1 (hactive ▸ List.mem_singleton_self p : p ∈ u.store.activePrices)).1
  cases hid : p.priceId with
  | some priceId =>
    rw [hid] at h
    cases h
    exact .inl ⟨rfl, ⟨priceId, rfl⟩, rfl, hprovider⟩
  | none =>
    rw [hid] at h
    obtain ⟨product, v, hproduct, h⟩ := Call.on_bind_ok h
    obtain ⟨q, productId, hq, rfl, hv, hpushed⟩ := pushedProduct_ok hu.products hproduct
    obtain ⟨pushed, x, hsync, h⟩ := Call.on_bind_ok h
    obtain ⟨hsync, hx⟩ := onProvider_ok hsync
    obtain ⟨made, hmade, rfl⟩ := Provider.syncPrice_ok rfl hsync
    obtain ⟨hnote, hlast⟩ := transact_ok h
    rw [hx, hv] at hnote
    have hfind : (u.store.labelProduct p.product (some productId)).price? p.id = some p :=
      find?_of_nodup hu.prices hrow
    obtain ⟨rfl, hlabel⟩ := labelPrice_of_commits
      (s := u.store.labelProduct p.product (some productId)) hu.prices hfind hid hnote
    rw [hprovider] at hpushed
    exact .inr ⟨rfl, q, productId, made, v.provider, hq, hpushed, hlast ▸ hmade, rfl, hlabel⟩

/-- Afterwards the price is the only active one, and it carries a provider id. -/
theorem defaultPrice_ok (hs : Schema w.store) (hf : Fresh w.store) {price : CatalogPrice}
    (h : (Checkout.defaultPrice).on w = (.ok price, w')) :
    w'.store.activePrices = [price] ∧ (∃ priceId, price.priceId = some priceId) ∧
      w'.store.organizations = w.store.organizations := by
  obtain ⟨products, prices, tables⟩ := w.store.bootstrapped_eq
  have organizations : w.store.bootstrapped.organizations = w.store.organizations := by rw [tables]
  obtain ⟨p, hactive, ⟨rfl, hid, hstore, -⟩ | ⟨hid, q, productId, made, v, -, -, -, rfl, hstore⟩⟩ :=
    defaultPrice_cases hs hf h
  · rw [hstore]
    exact ⟨hactive, hid, organizations⟩
  · have active : (w.store.bootstrapped.labelProduct p.product (some productId)).activePrices = [p] :=
      hactive
    rw [hstore, activePrices_labelPrice, active]
    refine ⟨?_, ⟨made.id, rfl⟩, organizations⟩
    rw [List.map_singleton, if_pos rfl, hid, Option.none_or]

end Services

end Checkout

namespace Server

open Checkout

/-! ### Checkouts with the provider in memory -/

section Handler

variable {w w' : World Sandbox} {app : App} {id : Uuid} {customer priceId : String} {body : Json}

/-- What a checkout tells of its session. -/
def sessionJson (session : CheckoutSession) : Json :=
  .object [("session_id", .string session.id), ("url", .ofOption session.url)]

/-- The world with one session more. -/
def withSession (customer priceId url : String) (w : World Sandbox) : World Sandbox :=
  { w with provider := w.provider.addSession customer priceId url }

theorem on_createCheckoutSession (customer priceId url cancelUrl : String) (w : World Sandbox) :
    (Billing.onProvider
        (PaymentProvider.createCheckoutSession customer priceId url cancelUrl)).on w =
      (.ok (Sandbox.newSession customer priceId url w.provider.next),
        withSession customer priceId url w) :=
  rfl

/-- A checkout that has found or made its customer and its price starts its session. -/
theorem run_checkout_of_steps {o : Organization} {price : CatalogPrice} {v u : World Sandbox}
    (ho : w.store.organization? id = some o)
    (hcustomer : (organizationCustomer o).on w = (.ok customer, v))
    (hprice : (Checkout.defaultPrice).on v = (.ok price, u)) (hid : price.priceId = some priceId) :
    (Handler.checkout app id).run.run w =
      (.ok (sessionJson (Sandbox.newSession customer priceId (Handler.billingUrl app id)
          u.provider.next)),
        withSession customer priceId (Handler.billingUrl app id) u) := by
  have horganization := run_organization (w := w) id
  rw [ho] at horganization
  rw [Handler.checkout, run_bind_ok horganization, run_bind_ok (run_billing_ok.2 hcustomer),
    run_bind_ok (run_billing_ok.2 hprice), hid]
  dsimp only
  rw [run_bind_ok (run_billing_ok.2 (on_createCheckoutSession ..))]
  rfl

/-- A checkout that needs to make nothing starts its session. -/
theorem run_checkout (h : Prepared id customer priceId w.store) :
    (Handler.checkout app id).run.run w =
      (.ok (sessionJson (Sandbox.newSession customer priceId (Handler.billingUrl app id)
          w.provider.next)),
        withSession customer priceId (Handler.billingUrl app id) w) := by
  obtain ⟨o, ho, hcustomer⟩ := h.organization
  obtain ⟨p, hp, hid⟩ := h.price
  exact run_checkout_of_steps ho (organizationCustomer_on_of_some hcustomer)
    (defaultPrice_on_of_some hp hid) hid

/-- A checkout that succeeds comes to a world in which it needs to make nothing more, and starts its
session there. -/
theorem prepared_of_checkout (hs : Schema w.store) (hf : Fresh w.store)
    (h : (Handler.checkout app id).run.run w = (.ok body, w')) :
    ∃ customer priceId u, Prepared id customer priceId u.store ∧
      w.provider.KeepsSessions u.provider ∧
      body = sessionJson (Sandbox.newSession customer priceId (Handler.billingUrl app id)
        u.provider.next) ∧
      w' = withSession customer priceId (Handler.billingUrl app id) u := by
  obtain ⟨o, found, horganization, hrest⟩ := ok_of_run_bind h
  obtain ⟨ho, hfound⟩ := organization_ok horganization
  subst found
  obtain ⟨-, rfl⟩ := mem_of_organization? ho
  obtain ⟨customer, v, hcustomer, hrest⟩ := ok_of_run_bind hrest
  obtain ⟨price, u, hprice, -⟩ := ok_of_run_bind hrest
  rw [run_billing_ok] at hcustomer hprice
  have hwv : Both ServiceSteps Sandbox.KeepsSessions w v := by
    have hcreate := Sandbox.keeps_createCustomer o.name o.displayName
    simpa [hcustomer] using (both_organizationCustomer hcreate).on w
  have hvu : Both ServiceSteps Sandbox.KeepsSessions v u := by
    simpa [hprice] using (both_defaultPrice Sandbox.keeps_syncProduct Sandbox.keeps_syncPrice).on v
  have hv : Schema v.store := hs.evolves hf hwv.store.changes.evolves
  have hfv : Fresh v.store := hf.evolves hwv.store.changes.evolves
  obtain ⟨o', ho', hheld⟩ := organizationCustomer_ok ho hcustomer
  obtain ⟨hactive, ⟨priceId, hid⟩, horganizations⟩ := defaultPrice_ok hv hfv hprice
  have prepared : Prepared o.id customer priceId u.store := by
    refine ⟨⟨o', ?_, hheld⟩, price, hactive, hid⟩
    rw [organization?, horganizations]
    exact ho'
  rw [run_checkout_of_steps ho hcustomer hprice hid] at h
  cases h
  exact ⟨customer, priceId, u, prepared, (trans_of (Both _ _) hwv hvu).provider, rfl, rfl⟩

end Handler

/-! ### Requests for a checkout -/

/-- The request is for a checkout of the organization with an id. -/
structure IsCheckout (r : HttpRequest) (id : Uuid) : Prop where
  method : r.method = "POST"
  route : ∃ part, Route.ofPath? r.path = some (.checkout part) ∧
    Route.organizationId? part = some id

theorem run_answer_of_isCheckout {σ : Type} [PaymentProvider σ] {r : HttpRequest} {id : Uuid}
    (hr : IsCheckout r id) (app : App) (o : Occasion) (w : World σ) :
    (answer app o r).run w = (respond (Handler.checkout app id)).run w := by
  obtain ⟨part, hroute, hid⟩ := hr.route
  have hallows : (Route.checkout part).allows r.method = true := by
    simp [hr.method, Route.allows, Route.isRead]
  rw [run_answer hroute hallows (by simp [hr.method]), follow, respondFor, hid]

/-- The session is for one unit of a price, and leads the customer back to a page. -/
structure IsSessionFor (customer priceId url : String) (session : CheckoutSession) : Prop where
  customer : session.customer = some customer
  lines : ∃ line, session.lineItems = some ⟨[⟨line, some priceId, some 1⟩], false⟩
  url : session.url = some (url ++ "?session_id=" ++ session.id)

theorem isSessionFor_newSession (customer priceId url : String) (n : Nat) :
    IsSessionFor customer priceId url (Sandbox.newSession customer priceId url n) :=
  ⟨rfl, ⟨_, rfl⟩, rfl⟩

/-- A checkout, and another one after it. Let a checkout succeed, on a database that keeps its schema
and has free ids for new rows, and with a provider in memory that requests have led to. Then the
organization holds a customer, exactly one price is active and it carries a provider id, and the
provider has the session that the answer names: for this customer and one unit of this price, and
leading back to the organization's billing page. Another checkout of the organization then succeeds
as well, with another session for the same customer and price, and that session is all that has
changed. -/
theorem checkout_then_again {app : App} {o : Occasion} {r : HttpRequest} {id : Uuid}
    {w w' : World Sandbox} {response : HttpResponse} (hs : Schema w.store) (hf : Fresh w.store)
    (hp : w.provider.Reachable) (hr : IsCheckout r id)
    (h : (answer app o r).run w = (response, w')) (hok : response.status = 200) :
    ∃ customer priceId session,
      (∃ org, w'.store.organization? id = some org ∧ org.customerId = some customer) ∧
      (∃ price, w'.store.activePrices = [price] ∧ price.priceId = some priceId) ∧
      response.body =
        some (.object [("session_id", .string session.id), ("url", .ofOption session.url)]) ∧
      (Sandbox.getCheckoutSession session.id).on w'.provider = (.ok session, w'.provider) ∧
      IsSessionFor customer priceId (app.baseUrl ++ "/organizations/" ++ id.text ++ "/billing")
        session ∧
      ∀ o₂ r₂, IsCheckout r₂ id → ∃ session₂,
        IsSessionFor customer priceId (app.baseUrl ++ "/organizations/" ++ id.text ++ "/billing")
          session₂ ∧
        (answer app o₂ r₂).run w' =
          (.ok (.object [("session_id", .string session₂.id), ("url", .ofOption session₂.url)]),
            { store := w'.store
              provider :=
                { w'.provider with
                  next := w'.provider.next + 2
                  sessions := w'.provider.sessions ++ [session₂] } }) := by
  rw [run_answer_of_isCheckout hr] at h
  obtain ⟨body, hbody, rfl⟩ := ok_of_run_respond h hok
  obtain ⟨customer, priceId, u, prepared, keeps, rfl, rfl⟩ := prepared_of_checkout hs hf hbody
  have again : Prepared id customer priceId
      (withSession customer priceId (Handler.billingUrl app id) u).store := prepared
  refine ⟨customer, priceId, _, again.organization, again.price, rfl,
    Sandbox.getCheckoutSession_new (hp.numberedSessions.keeps keeps) _ _ _,
    isSessionFor_newSession _ _ _ _, fun o₂ r₂ hr₂ => ?_⟩
  rw [run_answer_of_isCheckout hr₂, run_respond_ok (run_checkout again)]
  exact ⟨_, isSessionFor_newSession _ _ _ _, rfl⟩

/-- An organization that has never been to a checkout. -/
def acme : World Sandbox :=
  (Operation.insertOrganization ⟨"acme", "Acme", "Company", true, none, none, 0⟩).after
    ⟨.empty, .fresh⟩

/-- A checkout of that organization. -/
def acmeCheckout : StateM (World Sandbox) HttpResponse :=
  answer ⟨.mock, "secret", "http://localhost", .codePoints, Store.Collation.codePoints.stable _⟩
    ⟨0, "evt_1", "sub_1"⟩
    ⟨"POST", "/organizations/00000001-0000-4000-8000-000000000001/billing/checkout", none, []⟩

theorem status_acmeCheckout : (acmeCheckout.run acme).1.status = 200 := by
  decide +kernel

theorem customer_acmeCheckout :
    ((acmeCheckout.run acme).2.store.organization? (.row 1 1)).map (·.customerId) =
      some (some "cus_mock00000001") := by
  decide +kernel

/-- The first checkout makes the customer, and the second one changes nothing in the database. -/
theorem checkout_then_again_of_acme :
    ∃ response w', acmeCheckout.run acme = (response, w') ∧
      (w'.store.organization? (.row 1 1)).map (·.customerId) = some (some "cus_mock00000001") ∧
      (acmeCheckout.run w').1.status = 200 ∧ (acmeCheckout.run w').2.store = w'.store := by
  have hreachable : Reachable acme := .after (.empty Sandbox.fresh) _
  have hs : Schema acme.store := Schema.empty.evolves .empty hreachable.evolves
  have hf : Fresh acme.store := Fresh.empty.evolves hreachable.evolves
  have hr : IsCheckout
      ⟨"POST", "/organizations/00000001-0000-4000-8000-000000000001/billing/checkout", none, []⟩
      (.row 1 1) :=
    ⟨rfl, "00000001-0000-4000-8000-000000000001".toList, by decide, by decide⟩
  have hok := status_acmeCheckout
  have hcustomer := customer_acmeCheckout
  cases hrun : acmeCheckout.run acme with | _ response w' => ?_
  rw [hrun] at hok hcustomer
  obtain ⟨_, _, _, -, -, -, -, -, again⟩ := checkout_then_again hs hf .fresh hr hrun hok
  obtain ⟨_, -, hagain⟩ := again ⟨0, "evt_1", "sub_1"⟩ _ hr
  exact ⟨response, w', rfl, hcustomer, congrArg (·.1.status) hagain, congrArg (·.2.store) hagain⟩

end Server

end OrgBilling
