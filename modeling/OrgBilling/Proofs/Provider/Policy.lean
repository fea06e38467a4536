import OrgBilling.Proofs.Provider.Sandbox
import OrgBilling.Proofs.Provider.SearchQuery

/-!
# Creating or updating at the provider in memory

What the create-or-update rules do to a provider in memory whose objects are sound: a product in use
with the name gets new details, or there is a new product (`on_createOrUpdateProduct`); prices in
use of the product and the currency are taken out of use, as many as a page of the search shows, and
there is a new price if there is the product (`on_createOrUpdatePrice`).
-/

namespace OrgBilling.Provider.Sandbox

open SearchQuery

variable {s : Sandbox}

/-! ### What the queries find -/

/-- The products in use with a name. -/
def productsNamed (name : String) (s : Sandbox) : List Product :=
  s.products.filter fun p => p.active && p.name == name

/-- The prices in use of a product in a currency. -/
def pricesFor (product currency : String) (s : Sandbox) : List Price :=
  s.prices.filter fun p => p.active && p.product == product && p.currency == currency

theorem flag_eq_true (b : Bool) : (flag b == "true") = b := by
  cases b <;> rfl

theorem findProducts_productQuery (name : String) (s : Sandbox) :
    s.findProducts (productQuery name) = s.productsNamed name := by
  simp only [findProducts, parse_productQuery, List.all_cons, List.all_nil, productMatches,
    flag_eq_true, Bool.and_true, productsNamed]

theorem findPrices_priceQuery (product currency : String) (s : Sandbox) :
    s.findPrices (priceQuery product currency) = s.pricesFor product currency := by
  simp only [findPrices, parse_priceQuery, List.all_cons, List.all_nil, priceMatches,
    flag_eq_true, Bool.and_true, Bool.and_assoc, pricesFor]

theorem data_page {α : Type} (items : List α) :
    (page items defaultPageLength).data = items.take 10 := rfl

/-! ### Products -/

theorem mem_of_newest {ps : List Product} {p : Product} (h : newest ps = some p) : p ∈ ps := by
  induction ps with
  | nil => cases h
  | cons q ps ih =>
    rw [newest] at h
    cases hn : newest ps with
    | none =>
      rw [hn] at h
      exact Option.some.inj h ▸ List.mem_cons_self ..
    | some r =>
      rw [hn] at h
      dsimp only at h
      split at h
      · exact Option.some.inj h ▸ List.mem_cons_self ..
      · exact List.mem_cons_of_mem q (ih (hn.trans h))

theorem newest_eq_none {ps : List Product} (h : newest ps = none) : ps = [] := by
  cases ps with
  | nil => rfl
  | cons p ps =>
    rw [newest] at h
    split at h
    · split at h <;> cases h
    · cases h

/-- The product that new details of a name go to. -/
def target? (name : String) (s : Sandbox) : Option Product :=
  newest ((s.productsNamed name).take 10)

theorem mem_of_target? {name : String} {p : Product} (h : s.target? name = some p) :
    p ∈ s.products ∧ p.active = true ∧ p.name = name := by
  have := List.mem_filter.1 (List.mem_of_mem_take (mem_of_newest h))
  simpa using this

theorem on_createOrUpdateProduct (h : s.Sound) (d : ProductDetails) :
    (createOrUpdateProduct d).on s =
      match s.target? d.name with
      | some p => (.ok (revised d p), s.reviseProduct p.id d)
      | none => (.ok (newProduct d s.next), s.addProduct d) := by
  have search : (PaymentProvider.searchProducts (productQuery d.name) defaultPageLength).on s =
      (.ok (page (s.productsNamed d.name) defaultPageLength), s) := by
    rw [← findProducts_productQuery]
    rfl
  rw [createOrUpdateProduct, Call.on_bind, search]
  dsimp only
  rw [data_page]
  show (match s.target? d.name with | some p => _ | none => _ : Call Sandbox Product).on s = _
  cases hp : s.target? d.name with
  | none => exact on_createProduct d s
  | some p =>
    refine (on_updateProduct h p.id d).trans ?_
    rw [h.product? (mem_of_target? hp).1]
    rfl

/-- A product of the provider has an id and a name. -/
def Names (id name : String) (s : Sandbox) : Prop :=
  ∃ p ∈ s.products, p.id = id ∧ p.name = name

theorem Names.unique (h : s.Sound) {id name name' : String} (hn : s.Names id name)
    (hn' : s.Names id name') : name = name' := by
  obtain ⟨p, hp, hid, rfl⟩ := hn
  obtain ⟨q, hq, hid', rfl⟩ := hn'
  rw [List.inj_on_of_nodup_map h.products.nodup hp hq (hid.trans hid'.symm)]

/-- The product that is created or updated has the name that it is to have, and all other products
keep their names. -/
theorem createOrUpdateProduct_ok (h : s.Sound) {d : ProductDetails} {p : Product} {s' : Sandbox}
    (hon : (createOrUpdateProduct d).on s = (.ok p, s')) :
    s'.Sound ∧ s'.prices = s.prices ∧ s'.Names p.id d.name ∧
      ∀ id name, s.Names id name → s'.Names id name := by
  rw [on_createOrUpdateProduct h] at hon
  cases htarget : s.target? d.name with
  | none =>
    rw [htarget] at hon
    cases hon
    refine ⟨h.addProduct d, rfl, ?_, ?_⟩
    · exact ⟨_, List.mem_append_right _ (List.mem_singleton_self _), rfl, rfl⟩
    · rintro id name ⟨q, hq, hid, hname⟩
      exact ⟨q, List.mem_append_left _ hq, hid, hname⟩
  | some old =>
    rw [htarget] at hon
    cases hon
    obtain ⟨hold, -, hname⟩ := mem_of_target? htarget
    refine ⟨h.reviseProduct old.id d, rfl, ?_, ?_⟩
    · refine ⟨_, List.mem_map_of_mem hold, ?_⟩
      rw [if_pos rfl]
      exact ⟨rfl, rfl⟩
    · rintro id name ⟨q, hq, rfl, rfl⟩
      refine ⟨_, List.mem_map_of_mem hq, ?_⟩
      split
      · next hid =>
        rw [List.inj_on_of_nodup_map h.products.nodup hq hold hid]
        exact ⟨rfl, hname.symm⟩
      · exact ⟨rfl, rfl⟩

/-! ### Prices -/

theorem switchPrices_nil (active : Bool) (s : Sandbox) : s.switchPrices [] active = s := by
  simp [switchPrices]

theorem switchPrices_switchPrices (ids ids' : List String) (active : Bool) (s : Sandbox) :
    (s.switchPrices ids active).switchPrices ids' active = s.switchPrices (ids ++ ids') active := by
  simp only [switchPrices, List.map_map]
  congr 1
  refine List.map_congr_left fun p _ => ?_
  by_cases hp : p.id ∈ ids <;> by_cases hp' : p.id ∈ ids' <;> simp [hp, hp']

theorem on_deactivate (h : s.Sound) {ps : List Price}
    (known : ∀ p ∈ ps, ∃ q ∈ s.prices, q.id = p.id) :
    (deactivate ps).on s = (.ok (), s.switchPrices (ps.map (·.id)) false) := by
  induction ps generalizing s with
  | nil => simp [deactivate, switchPrices_nil]
  | cons p ps ih =>
    obtain ⟨⟨q, hq, hqp⟩, hps⟩ := List.forall_mem_cons.1 known
    have update : (PaymentProvider.updatePrice p.id false).on s =
        (.ok { q with active := false }, s.switchPrices [p.id] false) := by
      refine (on_updatePrice h p.id false).trans ?_
      rw [← hqp, h.price? hq]
      rfl
    have rest : ∀ r ∈ ps, ∃ q ∈ (s.switchPrices [p.id] false).prices, q.id = r.id := by
      intro r hr
      obtain ⟨q, hq, hqr⟩ := hps r hr
      refine ⟨_, List.mem_map_of_mem hq, ?_⟩
      split <;> exact hqr
    rw [deactivate, Call.on_bind, update]
    dsimp only
    rw [ih (h.switchPrices [p.id] false) rest, switchPrices_switchPrices]
    rfl

/-- The prices that a new price takes the place of: as many as a page of the search shows. -/
def supersededIds (t : PriceTerms) (s : Sandbox) : List String :=
  ((s.pricesFor t.product t.currency).take 10).map (·.id)

/-- The provider with a new price in the place of those. -/
def replacePrice (t : PriceTerms) (s : Sandbox) : Sandbox :=
  (s.switchPrices (s.supersededIds t) false).addPrice t

theorem Sound.replacePrice (h : s.Sound) (t : PriceTerms) : (s.replacePrice t).Sound :=
  (h.switchPrices _ _).addPrice t

theorem on_createOrUpdatePrice (h : s.Sound) (t : PriceTerms) :
    (createOrUpdatePrice t).on s =
      match s.product? t.product with
      | some _ => (.ok (newPrice t s.next), s.replacePrice t)
      | none => (.error (.notFound (.product t.product)),
          s.switchPrices (s.supersededIds t) false) := by
  have search :
      (PaymentProvider.searchPrices (priceQuery t.product t.currency) defaultPageLength).on s =
        (.ok (page (s.pricesFor t.product t.currency) defaultPageLength), s) := by
    rw [← findPrices_priceQuery]
    rfl
  have known : ∀ p ∈ (s.pricesFor t.product t.currency).take 10, ∃ q ∈ s.prices, q.id = p.id :=
    fun p hp => ⟨p, (List.mem_filter.1 (List.mem_of_mem_take hp)).1, rfl⟩
  rw [createOrUpdatePrice, Call.on_bind, search]
  dsimp only
  rw [data_page, Call.on_bind, on_deactivate h known]
  exact on_createPrice t _

theorem createOrUpdatePrice_ok (h : s.Sound) {t : PriceTerms} {p : Price} {s' : Sandbox}
    (hon : (createOrUpdatePrice t).on s = (.ok p, s')) :
    p = newPrice t s.next ∧ s' = s.replacePrice t := by
  rw [on_createOrUpdatePrice h] at hon
  cases hp : s.product? t.product with
  | none => rw [hp] at hon; cases hon
  | some q => rw [hp] at hon; cases hon; exact ⟨rfl, rfl⟩

/-- A price stays when there is a new one, and it stays in use unless it is of the same product and
currency. -/
theorem mem_prices_replacePrice (h : s.Sound) (t : PriceTerms) {p : Price} (hp : p ∈ s.prices) :
    ∃ active, { p with active } ∈ (s.replacePrice t).prices ∧
      (active = p.active ∨ p.product = t.product ∧ p.currency = t.currency) := by
  have stays : (if p.id ∈ s.supersededIds t then { p with active := false } else p) ∈
      (s.replacePrice t).prices :=
    List.mem_append_left _ (List.mem_map_of_mem hp)
  by_cases hid : p.id ∈ s.supersededIds t
  · rw [if_pos hid] at stays
    obtain ⟨q, hq, hqp⟩ := List.mem_map.1 hid
    obtain ⟨hq, hmatch⟩ := List.mem_filter.1 (List.mem_of_mem_take hq)
    rw [List.inj_on_of_nodup_map h.prices.nodup hq hp hqp] at hmatch
    simp only [Bool.and_eq_true, beq_iff_eq] at hmatch
    exact ⟨false, stays, .inr ⟨hmatch.1.2, hmatch.2⟩⟩
  · rw [if_neg hid] at stays
    exact ⟨p.active, stays, .inl rfl⟩

end OrgBilling.Provider.Sandbox
