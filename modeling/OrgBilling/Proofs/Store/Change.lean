import OrgBilling.Proofs.Store.Effect

/-!
# The changes that a database goes through

Every operation takes the database through a row of changes, each of one of the kinds that
`Store.Change` lists, and writes to the ledger as `Ledger.Change` says. A change says all that it
does to the tables and all that was checked before, so that what is to hold in every state of the
database is proved once for each kind of change and never for an operation.

Deletions are of one kind: rows are selected, and the selection is closed under the references
between the tables (`Selection.Closed`).
-/

namespace OrgBilling.Store

open Transaction Relation

/-! ### Selecting rows -/

/-- Which rows are kept. -/
structure Selection where
  /-- The products that are kept. -/
  product : CatalogProduct → Bool := fun _ => true
  /-- The prices that are kept. -/
  price : CatalogPrice → Bool := fun _ => true
  /-- The subscriptions that are kept. -/
  subscription : Subscription → Bool
  /-- The links that are kept. -/
  link : OrganizationLink → Bool
  /-- The items that are kept. -/
  item : SubscriptionItem → Bool

/-- The store with the selected rows. -/
def select (k : Selection) (s : Store) : Store :=
  { s with
    products := s.products.filter k.product
    prices := s.prices.filter k.price
    subscriptions := s.subscriptions.filter k.subscription
    links := s.links.filter k.link
    items := s.items.filter k.item }

/-- A row that refers to a row that goes, goes too; and a link goes only with its subscription, an
item only with its subscription or its price. -/
structure Selection.Closed (k : Selection) (s : Store) : Prop where
  price : ∀ p ∈ s.prices.rows, k.price p → ∀ q ∈ s.products.rows, q.id = p.product → k.product q
  subscription : ∀ x ∈ s.subscriptions.rows, k.subscription x →
    ∀ p ∈ s.prices.rows, p.id = x.price → k.price p
  link : ∀ l ∈ s.links.rows, ∀ x ∈ s.subscriptions.rows, x.id = l.subscription →
    (k.link l ↔ k.subscription x)
  item : ∀ i ∈ s.items.rows, ∀ x ∈ s.subscriptions.rows, x.id = i.subscription →
    ∀ p ∈ s.prices.rows, p.id = i.price → (k.item i ↔ k.subscription x ∧ k.price p)

/-! ### Changes -/

/-- What can happen to the tables besides the ledger. -/
inductive Change : Store → Store → Prop
  /-- A new organization, with a customer that nobody holds or none. -/
  | addOrganization {s : Store} (n : NewOrganization) (t : OrganizationType)
      (free : ∀ c, n.customerId = some c → s.holder? c = none ∧ isStorable c = true) :
      Change s { s with organizations := s.organizations.insert organizationTag (n.row t) }
  /-- The organization `o` holds another customer, and its subscriptions move on with it. -/
  | moveCustomer {s : Store} {o : Organization} {c : String} (mem : o ∈ s.organizations.rows)
      (free : ∀ p ∈ s.organizations.rows, p.id = o.id ∨ p.customerId ≠ some c)
      (unique : hasUniqueSubscriptions (s.moveCustomer o c).subscriptions = true)
      (storable : isStorable c = true) : Change s (s.moveCustomer o c)
  /-- A customer that no subscription has is taken from whoever holds it. -/
  | freeCustomer {s : Store} {c : String} (unused : ∀ x ∈ s.subscriptions.rows, x.customerId ≠ c) :
      Change s (s.freeCustomer c)
  /-- A new product. -/
  | addProduct {s : Store} (row : Uuid → CatalogProduct) (id : ∀ id, (row id).id = id) :
      Change s { s with products := s.products.insert productTag row }
  /-- Products have other contents. -/
  | editProducts {s : Store} (f : CatalogProduct → CatalogProduct) (id : ∀ p, (f p).id = p.id) :
      Change s { s with products := s.products.map f }
  /-- A new price of a product. -/
  | addPrice {s : Store} (row : Uuid → CatalogPrice) (id : ∀ id, (row id).id = id)
      (sound : ∀ id, 0 ≤ (row id).unitAmount ∧ ∃ q ∈ s.products.rows, q.id = (row id).product) :
      Change s { s with prices := s.prices.insert priceTag row }
  /-- Prices have other contents; of each it is checked that its product exists. -/
  | editPrices {s : Store} (f : CatalogPrice → CatalogPrice) (id : ∀ p, (f p).id = p.id)
      (sound : ∀ p ∈ s.prices.rows,
        f p = p ∨ 0 ≤ (f p).unitAmount ∧ ∃ q ∈ s.products.rows, q.id = (f p).product) :
      Change s { s with prices := s.prices.map f }
  /-- The organization `o` gets a subscription of the customer that it holds. -/
  | subscribe {s : Store} {o : Organization} {c x : String} {p : CatalogPrice}
      (mem : o ∈ s.organizations.rows) (holds : o.customerId = some c) (price : p ∈ s.prices.rows)
      (fresh : ∀ y ∈ s.subscriptions.rows, y.customerId = c → y.subscriptionId ≠ x) :
      Change s (s.subscribe c x p.id o.id)
  /-- Subscriptions have other statuses. -/
  | editStatus {s : Store} (f : Subscription → Subscription)
      (only : ∀ x, ∃ status, f x = { x with status }) :
      Change s { s with subscriptions := s.subscriptions.map f }
  /-- Rows go. -/
  | select {s : Store} {k : Selection} (closed : k.Closed s) : Change s (s.select k)

/-- A row of changes. -/
abbrev Changes : Store → Store → Prop := ReflTransGen Change

/-- What can happen to the ledger. -/
inductive Ledger.Change : Store → Store → Prop
  /-- A first delivery. -/
  | first {s : Store} {d : Delivery} (id : d.id = Ledger.nextId s)
      (new : Ledger.row? d.eventId s = none)
      (storable : isStorable d.eventId = true)
      (fits : Index.refusal? Ledger.eventIndex [d.eventId] = none) (state : d.state = .processing) :
      Ledger.Change s { s with deliveries := s.deliveries ++ [d] }
  /-- The rows of an event have another state. -/
  | edit {s : Store} (eventId : String) (f : Delivery → Delivery) (id : ∀ d, (f d).id = d.id)
      (event : ∀ d, (f d).eventId = d.eventId)
      (state : ∀ d name, (f d).state ≠ .other name) :
      Ledger.Change s { s with deliveries := Ledger.change eventId f s.deliveries }

/-- A row of changes of the tables and the ledger. -/
abbrev Evolves : Store → Store → Prop :=
  ReflTransGen fun s s' => Change s s' ∨ Ledger.Change s s'

/-! ### Deletions -/

theorem filter_true {α : Type} (t : Table α) : t.filter (fun _ => true) = t := by
  rw [Table.filter, List.filter_eq_self.2 fun _ _ => rfl]

theorem filter_filter {α : Type} (p q : α → Bool) (t : Table α) :
    (t.filter p).filter q = t.filter fun x => q x && p x := by
  simp [Table.filter, List.filter_filter]

/-- Keep what does not hang on the given subscriptions. -/
def Selection.withoutSubscriptions (ids : List Uuid) : Selection where
  subscription x := !ids.contains x.id
  link l := !ids.contains l.subscription
  item i := !ids.contains i.subscription

theorem dropSubscriptions_eq (ids : List Uuid) (s : Store) :
    s.dropSubscriptions ids = s.select (.withoutSubscriptions ids) := by
  simp only [dropSubscriptions, select, Selection.withoutSubscriptions, filter_true]

theorem Selection.closed_withoutSubscriptions (ids : List Uuid) (s : Store) :
    (Selection.withoutSubscriptions ids).Closed s where
  price _ _ _ _ _ _ := rfl
  subscription _ _ _ _ _ _ := rfl
  link l _ x _ h := by simp [withoutSubscriptions, h]
  item i _ x _ h _ _ _ := by simp [withoutSubscriptions, h]

/-- The ids of the subscriptions on the given prices. -/
def subscriptionsOn (ids : List Uuid) (s : Store) : List Uuid :=
  (s.subscriptions.rows.filter fun x => ids.contains x.price).map (·.id)

theorem price_notMem_of_notMem_subscriptionsOn {ids : List Uuid} {s : Store} {x : Subscription}
    (hx : x ∈ s.subscriptions.rows) (h : x.id ∉ s.subscriptionsOn ids) : x.price ∉ ids := by
  intro hp
  refine h (List.mem_map_of_mem (List.mem_filter.2 ⟨hx, ?_⟩))
  simpa using hp

/-- Keep what does not hang on the given prices, of which `gone` are the subscriptions. -/
def Selection.withoutPrices (ids gone : List Uuid) : Selection where
  price p := !ids.contains p.id
  subscription x := !gone.contains x.id
  link l := !gone.contains l.subscription
  item i := !gone.contains i.subscription && !ids.contains i.price

theorem dropPrices_eq (ids : List Uuid) (s : Store) :
    s.dropPrices ids = s.select (.withoutPrices ids (s.subscriptionsOn ids)) := by
  simp only [dropPrices, dropSubscriptions, select, subscriptionsOn, Selection.withoutPrices,
    filter_true, filter_filter]

theorem Selection.closed_withoutPrices (ids : List Uuid) (s : Store) :
    (Selection.withoutPrices ids (s.subscriptionsOn ids)).Closed s where
  price _ _ _ _ _ _ := rfl
  subscription x hx hk p _ hp := by
    have := price_notMem_of_notMem_subscriptionsOn hx (by simpa [withoutPrices] using hk)
    simpa [withoutPrices, hp] using this
  link l _ x _ h := by simp [withoutPrices, h]
  item i _ x _ hx p _ hp := by simp [withoutPrices, hx, hp]

/-- The ids of the prices of the given products. -/
def pricesOf (ids : List Uuid) (s : Store) : List Uuid :=
  (s.prices.rows.filter fun p => ids.contains p.product).map (·.id)

/-- Keep what does not hang on the given products, of which `gone` are the prices. -/
def Selection.withoutProducts (ids gone : List Uuid) (s : Store) : Selection :=
  { Selection.withoutPrices gone (s.subscriptionsOn gone) with product := fun q => !ids.contains q.id }

theorem dropProducts_eq (ids : List Uuid) (s : Store) :
    s.dropProducts ids = s.select (.withoutProducts ids (s.pricesOf ids) s) := by
  simp only [dropProducts, dropPrices, dropSubscriptions, select, subscriptionsOn, pricesOf,
    Selection.withoutProducts, Selection.withoutPrices, filter_filter]

theorem Selection.closed_withoutProducts (ids : List Uuid) (s : Store) :
    (Selection.withoutProducts ids (s.pricesOf ids) s).Closed s :=
  { Selection.closed_withoutPrices (s.pricesOf ids) s with
    price := fun p hp hk q _ hq => by
      have : p.product ∉ ids := fun hm => by
        have : p.id ∈ s.pricesOf ids :=
          List.mem_map_of_mem (List.mem_filter.2 ⟨hp, by simpa using hm⟩)
        simp [withoutProducts, withoutPrices, this] at hk
      simpa [withoutProducts, hq] using this }

/-! ### What transactions change -/

section Transactions

variable {s s' : Store}

theorem changes_insertOrganization {n : NewOrganization} {id : Uuid}
    (h : Commits (insertOrganization n) s id s') : Changes s s' := by
  obtain ⟨t, free, rfl⟩ := commits_insertOrganization h
  exact .single (.addOrganization n t free)

theorem changes_setOrganizationCustomer {id : Uuid} {customer : String} {r : Unit}
    (h : Commits (setOrganizationCustomer id customer) s r s') : Changes s s' := by
  obtain ⟨storable, o, ho, free, -, unique, -, rfl⟩ := commits_setOrganizationCustomer.1 h
  obtain ⟨mem, rfl⟩ := mem_of_organization? ho
  exact .single (.moveCustomer mem free unique storable)

theorem changes_insertLinkedSubscription {customer subscription : String} {price : Uuid}
    {sub : Subscription}
    (h : Commits (insertLinkedSubscription customer subscription price) s sub s') :
    Changes s s' := by
  obtain ⟨-, -, o, ho, fresh, -, ⟨p, hp, rfl⟩, -, -, rfl⟩ := commits_insertLinkedSubscription.1 h
  obtain ⟨mem, holds⟩ := mem_of_holder? ho
  exact .single (.subscribe mem holds hp fresh)

theorem changes_setStatus {id : Uuid} {status : SubscriptionStatus} {r : Unit}
    (h : Commits (setStatus id status) s r s') : Changes s s' := by
  obtain ⟨-, rfl⟩ := commits_setStatus.1 h
  refine .single (.editStatus _ fun x => ?_)
  split
  · exact ⟨status, rfl⟩
  · exact ⟨x.status, rfl⟩

theorem changes_deleteSubscription {id : Uuid} {r : Unit}
    (h : Commits (deleteSubscription id) s r s') : Changes s s' := by
  obtain ⟨-, rfl⟩ := commits_deleteSubscription.1 h
  rw [dropSubscriptions_eq]
  exact .single (.select (Selection.closed_withoutSubscriptions _ _))

theorem changes_deleteCustomer {customer : String} {n : Nat}
    (h : Commits (deleteCustomer customer) s n s') : Changes s s' := by
  obtain ⟨-, -, rfl⟩ := commits_deleteCustomer.1 h
  have unused : ∀ sub ∈ (s.dropSubscriptions (s.subscriptionsOf customer)).subscriptions.rows,
      sub.customerId ≠ customer := fun _ => customerId_ne_of_mem_drop
  rw [forgetCustomer]
  rw [dropSubscriptions_eq] at unused ⊢
  exact .tail (.single (.select (Selection.closed_withoutSubscriptions _ _))) (.freeCustomer unused)

theorem changes_insertProduct {name description : String} {productId taxCode : Option String}
    {p : CatalogProduct} (h : Commits (insertProduct name description productId taxCode) s p s') :
    Changes s s' := by
  obtain ⟨-, -, rfl⟩ := commits_insertProduct.1 h
  exact .single (.addProduct _ fun _ => rfl)

theorem changes_updateProduct {id : Uuid} {changes : ProductChanges} {p : CatalogProduct}
    (h : Commits (updateProduct id changes) s p s') : Changes s s' := by
  obtain ⟨old, ho, rfl, -, rfl⟩ := commits_updateProduct.1 h
  obtain ⟨-, rfl⟩ := mem_of_product? ho
  refine .single (.editProducts _ fun q => ?_)
  split
  · next h => exact h.symm
  · rfl

theorem changes_deleteProduct {id : Uuid} {r : Unit} (h : Commits (deleteProduct id) s r s') :
    Changes s s' := by
  obtain ⟨-, rfl⟩ := commits_deleteProduct.1 h
  rw [dropProducts_eq]
  exact .single (.select (Selection.closed_withoutProducts _ _))

theorem changes_insertPrice {priceId : Option String} {currency : String} {product : Uuid}
    {unitAmount : Int} {recurring : Interval} {taxBehavior : Option String} {p : CatalogPrice}
    (h : Commits (insertPrice priceId currency product unitAmount recurring taxBehavior) s p s') :
    Changes s s' := by
  obtain ⟨⟨-, sound⟩, rfl, rfl⟩ := commits_insertPrice.1 h
  exact .single (.addPrice _ (fun _ => rfl) fun _ => sound)

theorem changes_updatePrice {id : Uuid} {changes : PriceChanges} {p : CatalogPrice}
    (h : Commits (updatePrice id changes) s p s') : Changes s s' := by
  obtain ⟨old, ho, rfl, ⟨-, sound⟩, rfl⟩ := commits_updatePrice.1 h
  obtain ⟨-, rfl⟩ := mem_of_price? ho
  refine .single (.editPrices _ (fun q => ?_) fun q _ => ?_)
  · split
    · next h => exact h.symm
    · rfl
  · split
    · exact .inr sound
    · exact .inl rfl

theorem changes_deletePrice {id : Uuid} {r : Unit} (h : Commits (deletePrice id) s r s') :
    Changes s s' := by
  obtain ⟨-, rfl⟩ := commits_deletePrice.1 h
  rw [dropPrices_eq]
  exact .single (.select (Selection.closed_withoutPrices _ _))

theorem changes_withDefaultPrice (s : Store) : Changes s s.withDefaultPrice := by
  refine .tail (.single (.addProduct defaultProduct fun _ => rfl)) ?_
  refine .addPrice _ (fun _ => rfl) fun _ => ⟨Int.natCast_nonneg 5000, ?_⟩
  exact ⟨_, List.mem_append_right _ (List.mem_singleton_self _), rfl⟩

theorem changes_getOrCreateDefaultPrice {p : CatalogPrice}
    (h : Commits getOrCreateDefaultPrice s p s') : Changes s s' := by
  rcases commits_getOrCreateDefaultPrice.1 h with ⟨-, rfl⟩ | ⟨-, rfl, -⟩
  · exact .refl
  · exact changes_withDefaultPrice s

theorem Changes.evolves (h : Changes s s') : Evolves s s' :=
  ReflTransGen.mono (fun _ _ => .inl) _ _ h

theorem evolves_claim {now : Int} {eventId eventType : String} {r : Bool}
    (h : Commits (Ledger.claim now eventId eventType) s r s') : Evolves s s' := by
  rcases commits_claim.1 h with ⟨hid, -, ⟨hnew, hfit, -, rfl⟩ | ⟨d, -, ⟨-, -, rfl⟩ | ⟨-, -, rfl⟩⟩⟩
  · exact .single (.inr (.first rfl hnew hid hfit rfl))
  · exact .single (.inr (.edit _ _ (fun _ => rfl) (fun _ => rfl) fun _ _ => nofun))
  · exact .refl

theorem evolves_recorded (eventId : String) {state : DeliveryState} (errorMessage : Option String)
    (h : ∀ name, state ≠ .other name) (s : Store) :
    Evolves s (Ledger.recorded eventId state errorMessage s) :=
  .single (.inr (.edit _ _ (fun _ => rfl) (fun _ => rfl) fun _ => h))

end Transactions

/-! ### The ledger apart -/

theorem Change.deliveries {s s' : Store} (h : Change s s') : s'.deliveries = s.deliveries := by
  cases h <;> rfl

theorem Changes.deliveries {s s' : Store} (h : Changes s s') : s'.deliveries = s.deliveries := by
  induction h with
  | refl => rfl
  | tail _ h ih => exact h.deliveries.trans ih

end OrgBilling.Store
