import OrgBilling.Proofs.Keys
import OrgBilling.Provider.Sandbox

/-!
# What requests do to the provider in memory

For each request of the provider in memory that writes products or prices: what it answers and what
the provider is afterwards, as a function of what it was (`on_createProduct`, `on_updateProduct` and
so on). Nothing after this module looks into the requests themselves.

A provider is `Reachable` if requests lead to it from one without objects. Its products and prices
then are `Sound`: each was made with a number of its own, later ones with higher numbers, so that
no two of a kind have the same id or were made at the same time.
-/

namespace OrgBilling.Provider.Sandbox

variable {s s' : Sandbox}

/-! ### Ids -/

theorem ofDigitChars_padded (width n : Nat) :
    Nat.ofDigitChars 10 (Text.Decimal.padded width n).toList 0 = n := by
  simp [Text.Decimal.padded, Text.Decimal.writeNat, Nat.ofDigitChars_append,
    Nat.ofDigitChars_ten_toDigits]

theorem padded_inj {width n m : Nat}
    (h : Text.Decimal.padded width n = Text.Decimal.padded width m) : n = m := by
  rw [← ofDigitChars_padded width n, h, ofDigitChars_padded]

theorem objectId_inj {kind : String} {n m : Nat} (h : objectId kind n = objectId kind m) : n = m :=
  padded_inj ((String.append_right_inj _).1 h)

/-- Objects of one kind that have been made one after another, with numbers below `next`. -/
structure Series {α : Type} (kind : String) (next : Nat) (id : α → String) (created : α → Int)
    (xs : List α) : Prop where
  made : ∀ x ∈ xs, ∃ n < next, id x = objectId kind n ∧ created x = createdAt n
  order : xs.Pairwise fun x y => created x < created y

namespace Series

variable {α : Type} {kind : String} {next : Nat} {id : α → String} {created : α → Int} {xs : List α}

theorem nil : Series kind next id created [] := ⟨by simp, .nil⟩

theorem mono {next' : Nat} (h : Series kind next id created xs) (hn : next ≤ next') :
    Series kind next' id created xs where
  made x hx := by
    obtain ⟨n, hlt, hid⟩ := h.made x hx
    exact ⟨n, Nat.lt_of_lt_of_le hlt hn, hid⟩
  order := h.order

theorem map {f : α → α} (h : Series kind next id created xs) (hid : ∀ x, id (f x) = id x)
    (hcreated : ∀ x, created (f x) = created x) : Series kind next id created (xs.map f) where
  made x hx := by
    obtain ⟨y, hy, rfl⟩ := List.mem_map.1 hx
    rw [hid, hcreated]
    exact h.made y hy
  order := List.pairwise_map.2 (by simpa only [hcreated] using h.order)

theorem filter (h : Series kind next id created xs) (p : α → Bool) :
    Series kind next id created (xs.filter p) where
  made x hx := h.made x (List.mem_filter.1 hx).1
  order := h.order.filter p

/-- The next object is made after the others. -/
theorem concat {x : α} (h : Series kind next id created xs) (hid : id x = objectId kind next)
    (hcreated : created x = createdAt next) : Series kind (next + 1) id created (xs ++ [x]) where
  made y hy := by
    rcases List.mem_append.1 hy with hy | hy
    · exact (h.mono (Nat.le_succ next)).made y hy
    · rw [List.mem_singleton.1 hy]
      exact ⟨next, Nat.lt_succ_self next, hid, hcreated⟩
  order := by
    refine List.pairwise_append.2 ⟨h.order, List.pairwise_singleton _ _, fun y hy z hz => ?_⟩
    obtain ⟨n, hn, -, hy⟩ := h.made y hy
    rw [List.mem_singleton.1 hz, hcreated, hy, createdAt, createdAt]
    omega

theorem nodup (h : Series kind next id created xs) : (xs.map id).Nodup := by
  refine List.pairwise_map.2 (h.order.imp_of_mem fun hx hy hlt hid => ?_)
  obtain ⟨n, -, hxid, hxcreated⟩ := h.made _ hx
  obtain ⟨m, -, hyid, hycreated⟩ := h.made _ hy
  rw [hxid, hyid] at hid
  rw [hxcreated, hycreated, objectId_inj hid] at hlt
  exact Int.lt_irrefl _ hlt

end Series

/-- Products and prices have been made one after another. -/
structure Sound (s : Sandbox) : Prop where
  products : Series "prod" s.next (·.id) (·.created) s.products
  prices : Series "price" s.next (·.id) (·.created) s.prices

/-! ### Objects -/

/-- The product that is made with a number. -/
def newProduct (d : ProductDetails) (n : Nat) : Product :=
  ⟨objectId "prod" n, true, createdAt n, d.name, some d.description, d.taxCode⟩

/-- A product with new details. -/
def revised (d : ProductDetails) (p : Product) : Product :=
  { p with name := d.name, description := some d.description, taxCode := d.taxCode }

/-- The price that is made with a number. -/
def newPrice (t : PriceTerms) (n : Nat) : Price :=
  ⟨objectId "price" n, true, createdAt n, t.currency, some t.unitAmount, t.product,
    some ⟨t.recurring.name⟩, t.taxBehavior⟩

/-- The provider with one product more. -/
def addProduct (d : ProductDetails) (s : Sandbox) : Sandbox :=
  { s with next := s.next + 1, products := s.products ++ [newProduct d s.next] }

/-- The provider with new details of the product with an id. -/
def reviseProduct (id : String) (d : ProductDetails) (s : Sandbox) : Sandbox :=
  { s with products := s.products.map fun p => if p.id = id then revised d p else p }

/-- The provider without the product with an id. -/
def dropProduct (id : String) (s : Sandbox) : Sandbox :=
  { s with products := s.products.filter (·.id != id) }

/-- The provider with one price more. -/
def addPrice (t : PriceTerms) (s : Sandbox) : Sandbox :=
  { s with next := s.next + 1, prices := s.prices ++ [newPrice t s.next] }

/-- The provider with prices taken into or out of use. -/
def switchPrices (ids : List String) (active : Bool) (s : Sandbox) : Sandbox :=
  { s with prices := s.prices.map fun p => if p.id ∈ ids then { p with active } else p }

namespace Sound

/-- Other objects do not matter. -/
theorem congr (h : s.Sound) (hn : s.next ≤ s'.next) (hproducts : s'.products = s.products)
    (hprices : s'.prices = s.prices) : s'.Sound := by
  refine ⟨?_, ?_⟩
  · rw [hproducts]
    exact h.products.mono hn
  · rw [hprices]
    exact h.prices.mono hn

theorem addProduct (h : s.Sound) (d : ProductDetails) : (s.addProduct d).Sound :=
  ⟨h.products.concat rfl rfl, h.prices.mono (Nat.le_succ _)⟩

theorem reviseProduct (h : s.Sound) (id : String) (d : ProductDetails) :
    (s.reviseProduct id d).Sound :=
  ⟨h.products.map (fun p => by split <;> rfl) (fun p => by split <;> rfl), h.prices⟩

theorem dropProduct (h : s.Sound) (id : String) : (s.dropProduct id).Sound :=
  ⟨h.products.filter _, h.prices⟩

theorem addPrice (h : s.Sound) (t : PriceTerms) : (s.addPrice t).Sound :=
  ⟨h.products.mono (Nat.le_succ _), h.prices.concat rfl rfl⟩

theorem switchPrices (h : s.Sound) (ids : List String) (active : Bool) :
    (s.switchPrices ids active).Sound :=
  ⟨h.products, h.prices.map (fun p => by split <;> rfl) (fun p => by split <;> rfl)⟩

end Sound

/-! ### Requests one by one -/

/-- The product with an id. -/
def product? (id : String) (s : Sandbox) : Option Product :=
  s.products.find? (·.id == id)

/-- The price with an id. -/
def price? (id : String) (s : Sandbox) : Option Price :=
  s.prices.find? (·.id == id)

theorem Sound.product? (h : s.Sound) {p : Product} (hp : p ∈ s.products) :
    s.product? p.id = some p :=
  find?_of_nodup h.products.nodup hp

theorem Sound.price? (h : s.Sound) {p : Price} (hp : p ∈ s.prices) : s.price? p.id = some p :=
  find?_of_nodup h.prices.nodup hp

/-- What there is, or the error that says what is missing. -/
def found {α : Type} (what : Missing) (o : Option α) : Except BillingError α :=
  o.elim (.error (.notFound what)) .ok

/-- Changing the first item with a key is changing the item with the key. -/
theorem changeFirst_eq_map {α κ : Type} [DecidableEq κ] {f : α → κ} {xs : List α}
    (h : (xs.map f).Nodup) (k : κ) (change : α → α) :
    changeFirst (f · == k) change xs = xs.map fun x => if f x = k then change x else x := by
  induction xs with
  | nil => rfl
  | cons x xs ih =>
    rw [List.map_cons, List.nodup_cons] at h
    by_cases hx : f x = k
    · have none : xs.find? (f · == k) = none := by
        refine List.find?_eq_none.2 fun y hy hyk => h.1 (List.mem_map.2 ⟨y, hy, ?_⟩)
        exact (beq_iff_eq.1 hyk).trans hx.symm
      simp [changeFirst, hx, map_eq_self_of_find?_eq_none none]
    · simp [changeFirst, hx, ih h.2]

theorem on_orMissing {α : Type} (what : Missing) (o : Option α) (s : Sandbox) :
    (orMissing what o).on s = (found what o, s) := by
  cases o <;> rfl

theorem on_retrieveProduct (id : String) (s : Sandbox) :
    (retrieveProduct id).on s = (found (.product id) (s.product? id), s) := by
  rw [retrieveProduct, Call.on_bind]
  exact on_orMissing _ _ s

theorem on_retrievePrice (id : String) (s : Sandbox) :
    (retrievePrice id).on s = (found (.price id) (s.price? id), s) := by
  rw [retrievePrice, Call.on_bind]
  exact on_orMissing _ _ s

theorem on_createProduct (d : ProductDetails) (s : Sandbox) :
    (createProduct d).on s = (.ok (newProduct d s.next), s.addProduct d) := rfl

theorem on_updateProduct (h : s.Sound) (id : String) (d : ProductDetails) :
    (updateProduct id d).on s =
      (found (.product id) ((s.product? id).map (revised d)), s.reviseProduct id d) := by
  rw [updateProduct, Call.on_bind, on_retrieveProduct]
  cases hp : s.product? id with
  | none => simp [found, reviseProduct, map_eq_self_of_find?_eq_none hp]
  | some p =>
    have change := changeFirst_eq_map h.products.nodup id (revised d)
    simp [found, reviseProduct, ← change]
    rfl

theorem on_deleteProduct (id : String) (s : Sandbox) :
    ((deleteProduct id).on s).2 = s.dropProduct id := by
  rw [deleteProduct, Call.on_bind, on_retrieveProduct]
  cases hp : s.product? id with
  | none =>
    have : s.products.filter (·.id != id) = s.products := by
      refine List.filter_eq_self.2 fun p hmem => ?_
      simpa using List.find?_eq_none.1 hp p hmem
    simp [found, dropProduct, this]
  | some p => rfl

theorem on_createPrice (t : PriceTerms) (s : Sandbox) :
    (createPrice t).on s =
      match s.product? t.product with
      | some _ => (.ok (newPrice t s.next), s.addPrice t)
      | none => (.error (.notFound (.product t.product)), s) := by
  rw [createPrice, Call.on_bind, on_retrieveProduct]
  cases s.product? t.product <;> rfl

theorem on_updatePrice (h : s.Sound) (id : String) (active : Bool) :
    (updatePrice id active).on s =
      (found (.price id) ((s.price? id).map fun p => { p with active }),
        s.switchPrices [id] active) := by
  rw [updatePrice, Call.on_bind, on_retrievePrice]
  cases hp : s.price? id with
  | none => simp [found, switchPrices, map_eq_self_of_find?_eq_none hp]
  | some p =>
    have change := changeFirst_eq_map h.prices.nodup id fun p => { p with active }
    simp [found, switchPrices, ← change]
    rfl

/-! ### Reachable providers -/

/-- What the provider can be asked. -/
inductive Request
  /-- A checkout session. -/
  | getCheckoutSession (id : String)
  /-- The customer of a subscription. -/
  | getCustomer (subscription : String)
  /-- A new customer. -/
  | createCustomer (name description : String)
  /-- A new checkout session. -/
  | createCheckoutSession (customer price successUrl cancelUrl : String)
  /-- A visit to the billing pages. -/
  | createPortalSession (customer returnUrl : String)
  /-- A new product. -/
  | createProduct (d : ProductDetails)
  /-- A product. -/
  | retrieveProduct (id : String)
  /-- New details of a product. -/
  | updateProduct (id : String) (d : ProductDetails)
  /-- The first products. -/
  | listProducts (limit : Nat)
  /-- A product to be deleted. -/
  | deleteProduct (id : String)
  /-- The products that match a query. -/
  | searchProducts (query : String) (limit : Nat)
  /-- A new price. -/
  | createPrice (t : PriceTerms)
  /-- A price. -/
  | retrievePrice (id : String)
  /-- A price to be taken into or out of use. -/
  | updatePrice (id : String) (active : Bool)
  /-- The first prices. -/
  | listPrices (limit : Nat)
  /-- The prices that match a query. -/
  | searchPrices (query : String) (limit : Nat)
  /-- The owner of a subscription to be noted. -/
  | recordSubscription (subscription customer : String)

/-- The provider after a request. -/
def Request.after (s : Sandbox) : Request → Sandbox
  | getCheckoutSession id => ((Sandbox.getCheckoutSession id).on s).2
  | getCustomer subscription => ((Sandbox.getCustomer subscription).on s).2
  | createCustomer name description => ((Sandbox.createCustomer name description).on s).2
  | createCheckoutSession customer price successUrl cancelUrl =>
    ((Sandbox.createCheckoutSession customer price successUrl cancelUrl).on s).2
  | createPortalSession customer returnUrl =>
    ((Sandbox.createPortalSession customer returnUrl).on s).2
  | createProduct d => ((Sandbox.createProduct d).on s).2
  | retrieveProduct id => ((Sandbox.retrieveProduct id).on s).2
  | updateProduct id d => ((Sandbox.updateProduct id d).on s).2
  | listProducts limit => ((PaymentProvider.listProducts limit).on s).2
  | deleteProduct id => ((Sandbox.deleteProduct id).on s).2
  | searchProducts query limit => ((PaymentProvider.searchProducts query limit).on s).2
  | createPrice t => ((Sandbox.createPrice t).on s).2
  | retrievePrice id => ((Sandbox.retrievePrice id).on s).2
  | updatePrice id active => ((Sandbox.updatePrice id active).on s).2
  | listPrices limit => ((PaymentProvider.listPrices limit).on s).2
  | searchPrices query limit => ((PaymentProvider.searchPrices query limit).on s).2
  | recordSubscription subscription customer => Sandbox.recordSubscription subscription customer s

/-- Requests lead to the provider from one without objects. -/
inductive Reachable : Sandbox → Prop
  /-- There are no objects. -/
  | fresh : Reachable .fresh
  /-- One request more. -/
  | after {s : Sandbox} (h : Reachable s) (r : Request) : Reachable (r.after s)

theorem sound_fresh : Sound .fresh := ⟨.nil, .nil⟩

theorem Sound.after (h : s.Sound) (r : Request) : (r.after s).Sound := by
  cases r with
  | getCheckoutSession id =>
    rw [Request.after, Sandbox.getCheckoutSession, Call.on_bind]
    simpa [on_orMissing] using h
  | getCustomer subscription =>
    rw [Request.after, Sandbox.getCustomer, Call.on_bind]
    simpa [on_orMissing] using h
  | createCustomer name description => exact h.congr (Nat.le_succ _) rfl rfl
  | createCheckoutSession customer price successUrl cancelUrl =>
    exact h.congr (Nat.le_add_right _ 2) rfl rfl
  | createPortalSession customer returnUrl => exact h.congr (Nat.le_succ _) rfl rfl
  | createProduct d => exact h.addProduct d
  | retrieveProduct id => rwa [Request.after, on_retrieveProduct]
  | updateProduct id d =>
    rw [Request.after, on_updateProduct h]
    exact h.reviseProduct id d
  | listProducts limit => exact h
  | deleteProduct id =>
    rw [Request.after, on_deleteProduct]
    exact h.dropProduct id
  | searchProducts query limit => exact h
  | createPrice t =>
    rw [Request.after, on_createPrice]
    split
    · exact h.addPrice t
    · exact h
  | retrievePrice id => rwa [Request.after, on_retrievePrice]
  | updatePrice id active =>
    rw [Request.after, on_updatePrice h]
    exact h.switchPrices [id] active
  | listPrices limit => exact h
  | searchPrices query limit => exact h
  | recordSubscription subscription customer => exact h.congr (Nat.le_refl _) rfl rfl

theorem Reachable.sound (h : Reachable s) : s.Sound := by
  induction h with
  | fresh => exact sound_fresh
  | after _ r ih => exact ih.after r

end OrgBilling.Provider.Sandbox
