import OrgBilling.Proofs.Transaction

/-!
# What each transaction of the database does

For each transaction that writes: when it commits, and what it has then done to the store. Nothing
after this module looks into the transactions themselves.
-/

namespace OrgBilling.Store

open Transaction

variable {s s' : Store}

/-! ### Looking for rows -/

theorem mem_of_holder? {customer : String} {o : Organization} (h : s.holder? customer = some o) :
    o ∈ s.organizations.rows ∧ o.customerId = some customer :=
  ⟨List.mem_of_find?_eq_some h, by simpa [holds] using List.find?_some h⟩

theorem holder?_eq_none {customer : String} :
    s.holder? customer = none ↔ ∀ o ∈ s.organizations.rows, o.customerId ≠ some customer := by
  simp [holder?, holds]

theorem mem_of_organization? {id : Uuid} {o : Organization} (h : s.organization? id = some o) :
    o ∈ s.organizations.rows ∧ o.id = id :=
  ⟨List.mem_of_find?_eq_some h, by simpa using List.find?_some h⟩

theorem mem_of_subscription? {id : Uuid} {sub : Subscription} (h : s.subscription? id = some sub) :
    sub ∈ s.subscriptions.rows ∧ sub.id = id :=
  ⟨List.mem_of_find?_eq_some h, by simpa using List.find?_some h⟩

theorem mem_of_product? {id : Uuid} {p : CatalogProduct} (h : s.product? id = some p) :
    p ∈ s.products.rows ∧ p.id = id :=
  ⟨List.mem_of_find?_eq_some h, by simpa using List.find?_some h⟩

theorem mem_of_price? {id : Uuid} {p : CatalogPrice} (h : s.price? id = some p) :
    p ∈ s.prices.rows ∧ p.id = id :=
  ⟨List.mem_of_find?_eq_some h, by simpa using List.find?_some h⟩

/-! ### Organizations -/

/-- The row that a new organization becomes. -/
def NewOrganization.row (n : NewOrganization) (orgtype : OrganizationType) (id : Uuid) :
    Organization where
  id := id
  name := n.name
  displayName := n.displayName
  orgtype := orgtype
  isActive := n.isActive
  isApproved := n.isApproved
  dateApproved := none
  customerId := n.customerId
  created := n.created

theorem commits_insertOrganization {n : NewOrganization} {id : Uuid}
    (h : Commits (insertOrganization n) s id s') :
    ∃ orgtype, (∀ c, n.customerId = some c → s.holder? c = none ∧ isStorable c = true) ∧
      s' = { s with organizations := s.organizations.insert organizationTag (n.row orgtype) } := by
  simp only [insertOrganization, commits_requireTexts_bind, commits_fit_bind,
    commits_require_bind] at h
  obtain ⟨texts, -, -, h⟩ := h
  split at h
  · exact absurd h commits_fail
  · next orgtype _ =>
    have free : ∀ c r u v, Commits (do
        require (s.holder? c).isNone (.duplicateKey customerIndex)
        requireIndexable customerIndex [c]) u r v ↔
          (s.holder? c = none ∧ Index.refusal? customerIndex [c] = none) ∧ v = u := fun c r u v => by
      simp [commits_require_bind, commits_requireIndexable, and_assoc]
    simp only [commits_get_bind, commits_option_forM_bind free, commits_set_bind, commits_pure] at h
    exact ⟨orgtype, fun c hc => ⟨(h.1 c hc).1, texts c (by simp [hc])⟩, h.2.2⟩

/-- An organization when the one with the given id holds a customer. -/
def holdRow (id : Uuid) (customer : String) (p : Organization) : Organization :=
  if p.id = id then { p with customerId := some customer } else p

/-- A subscription when another customer takes the place of its customer. -/
def renameRow (old : Option String) (new : String) (x : Subscription) : Subscription :=
  if old = some x.customerId then { x with customerId := new } else x

@[simp] theorem holdRow_id (id : Uuid) (customer : String) (p : Organization) :
    (holdRow id customer p).id = p.id := by
  unfold holdRow
  split <;> rfl

@[simp] theorem renameRow_id (old : Option String) (new : String) (x : Subscription) :
    (renameRow old new x).id = x.id := by
  unfold renameRow
  split <;> rfl

@[simp] theorem renameRow_subscriptionId (old : Option String) (new : String) (x : Subscription) :
    (renameRow old new x).subscriptionId = x.subscriptionId := by
  unfold renameRow
  split <;> rfl

@[simp] theorem renameRow_price (old : Option String) (new : String) (x : Subscription) :
    (renameRow old new x).price = x.price := by
  unfold renameRow
  split <;> rfl

theorem holdRow_eq (id : Uuid) (customer : String) :
    holdRow id customer = fun p => if p.id = id then { p with customerId := some customer } else p :=
  rfl

theorem renameRow_some (old new : String) :
    renameRow (some old) new =
      fun x => if x.customerId = old then { x with customerId := new } else x := by
  funext x
  simp [renameRow, eq_comm]

theorem renameRow_none (new : String) : renameRow none new = id := by
  funext x
  simp [renameRow]

/-- The store after the customer of an organization became `customer`. -/
def moveCustomer (o : Organization) (customer : String) (s : Store) : Store :=
  { s with
    organizations := s.organizations.map (holdRow o.id customer)
    subscriptions := s.subscriptions.map (renameRow o.customerId customer) }

theorem commits_setOrganizationCustomer {id : Uuid} {customer : String} {r : Unit} :
    Commits (setOrganizationCustomer id customer) s r s' ↔
      isStorable customer = true ∧
      ∃ o, s.organization? id = some o ∧
        (∀ p ∈ s.organizations.rows, p.id = id ∨ p.customerId ≠ some customer) ∧
        Index.refusal? customerIndex [customer] = none ∧
        hasUniqueSubscriptions (s.moveCustomer o customer).subscriptions = true ∧
        (∀ sub ∈ (s.moveCustomer o customer).subscriptions.rows, sub.customerId = customer →
          Index.refusal? subscriptionIndex [customer, sub.subscriptionId] = none) ∧
        s' = s.moveCustomer o customer := by
  unfold setOrganizationCustomer
  rw [commits_requireTexts_bind, commits_get_bind]
  cases ho : s.organization? id with
  | none => simp [commits_throw]
  | some o =>
    obtain ⟨-, rfl⟩ := mem_of_organization? ho
    simp only [commits_require_bind, commits_requireIndexable_bind, commits_set,
      commits_forM_bind (fun _ _ _ _ => commits_requireIndexable)]
    cases hc : o.customerId with
    | some old =>
      have renamed : renameCustomer old customer s.subscriptions =
          s.subscriptions.map (renameRow (some old) customer) := by
        simp only [renameCustomer, renameRow_some]
      simp [moveCustomer, holds, holdRow_eq, hc, renamed]
    | none => simp [moveCustomer, holds, holdRow_eq, hc, renameRow_none, Table.map]

/-- An organization when nobody holds the customer any more. -/
def freeRow (customer : String) (o : Organization) : Organization :=
  if holds customer o then { o with customerId := none } else o

@[simp] theorem freeRow_id (customer : String) (o : Organization) :
    (freeRow customer o).id = o.id := by
  unfold freeRow
  split <;> rfl

/-- An organization that still holds a customer is as it was. -/
theorem freeRow_of_customerId {customer c : String} {o : Organization}
    (h : (freeRow customer o).customerId = some c) : freeRow customer o = o := by
  unfold freeRow at h ⊢
  split at h
  · cases h
  · next ho => rw [if_neg ho]

theorem freeRow_of_ne {customer : String} {o : Organization} (h : o.customerId ≠ some customer) :
    freeRow customer o = o :=
  if_neg (by simpa [holds] using h)

theorem holds_freeRow (k c : String) (o : Organization) :
    holds k (freeRow c o) = (holds k o && k != c) := by
  by_cases ho : o.customerId = some c
  · by_cases hk : k = c
    · simp [freeRow, holds, ho, hk]
    · simp [freeRow, holds, ho, Ne.symm hk]
  · rw [freeRow_of_ne ho]
    by_cases hk : k = c
    · simp [holds, ho, hk]
    · simp [hk]

/-- The store after the customer was taken from whoever held it. -/
def freeCustomer (customer : String) (s : Store) : Store :=
  { s with organizations := s.organizations.map (freeRow customer) }

theorem commits_releaseCustomer {customer : String} {r : Unit} :
    Commits (releaseCustomer customer) s r s' ↔
      isStorable customer = true ∧
        (s.holder? customer = none ∨ ∀ sub ∈ s.subscriptions.rows, sub.customerId ≠ customer) ∧
        s' = s.freeCustomer customer := by
  simp only [releaseCustomer, commits_requireTexts_bind, commits_get_bind, commits_require_bind,
    commits_set]
  have : freeRow customer =
      fun o => if holds customer o then { o with customerId := none } else o := rfl
  simp [freeCustomer, this]

/-! ### Subscriptions -/

theorem commits_findSubscription {subscription : String} {r : Option Uuid} :
    Commits (findSubscription subscription) s r s' ↔
      isStorable subscription = true ∧ s' = s ∧
      ((s.subscriptions.rows.filter (·.subscriptionId == subscription) = [] ∧ r = none) ∨
        ∃ x, s.subscriptions.rows.filter (·.subscriptionId == subscription) = [x] ∧
          r = some x.id) := by
  unfold findSubscription
  rw [commits_requireTexts_bind, commits_get_bind]
  generalize s.subscriptions.rows.filter (·.subscriptionId == subscription) = found
  match found with
  | [] => simp [commits_pure, and_comm]
  | [x] => simp [commits_pure, and_comm]
  | _ :: _ :: _ => simp [commits_throw]

/-- The id of the subscription that is inserted next. -/
def nextSubscription (s : Store) : Uuid :=
  Uuid.row subscriptionTag (s.subscriptions.issued + 1)

/-- The store with a new active subscription, its link to an organization, and its line item. -/
def subscribe (customer subscription : String) (price organization : Uuid) (s : Store) : Store :=
  { s with
    subscriptions :=
      s.subscriptions.insert subscriptionTag fun id => ⟨id, customer, subscription, price, .active⟩
    links := s.links.insert linkTag fun id => ⟨id, organization, s.nextSubscription⟩
    items := s.items.insert itemTag fun id => ⟨id, none, s.nextSubscription, price, 1⟩ }

theorem commits_insertSubscription {customer subscription : String} {price : Uuid}
    {status : SubscriptionStatus} {sub : Subscription} :
    Commits (insertSubscription customer subscription price status) s sub s' ↔
      (isStorable customer = true ∧ isStorable subscription = true ∧
        (∀ x ∈ s.subscriptions.rows, x.customerId = customer → x.subscriptionId ≠ subscription) ∧
        Index.refusal? subscriptionIndex [customer, subscription] = none ∧
        (s.holder? customer).isSome ∧ ∃ p ∈ s.prices.rows, p.id = price) ∧
      sub = ⟨s.nextSubscription, customer, subscription, price, status⟩ ∧
      s' = { s with
        subscriptions := s.subscriptions.insert subscriptionTag fun id =>
          ⟨id, customer, subscription, price, status⟩ } := by
  simp only [insertSubscription, commits_requireTexts_bind, commits_get_bind, commits_require_bind,
    commits_requireIndexable_bind, commits_set_bind, commits_pure]
  simp [nextSubscription, Table.nextRow, and_assoc]

theorem commits_insertLink {organization subscription : Uuid} {r : Unit} :
    Commits (insertLink organization subscription) s r s' ↔
      ((∀ l ∈ s.links.rows, l.organization = organization → l.subscription ≠ subscription) ∧
        (s.organization? organization).isSome ∧ (s.subscription? subscription).isSome) ∧
      s' = { s with links := s.links.insert linkTag fun id => ⟨id, organization, subscription⟩ } := by
  simp only [insertLink, commits_get_bind, commits_require_bind, commits_set]
  simp [and_assoc]

theorem commits_insertItem {subscription price : Uuid} {quantity : Int} {r : Unit} :
    Commits (insertItem subscription price quantity) s r s' ↔
      (0 ≤ quantity ∧ (s.subscription? subscription).isSome ∧ ∃ p ∈ s.prices.rows, p.id = price) ∧
      s' = { s with
        items := s.items.insert itemTag fun id => ⟨id, none, subscription, price, quantity⟩ } := by
  simp only [insertItem, commits_get_bind, commits_require_bind, commits_set]
  simp [and_assoc]

theorem commits_insertLinkedSubscription {customer subscription : String} {price : Uuid}
    {sub : Subscription} :
    Commits (insertLinkedSubscription customer subscription price) s sub s' ↔
      isStorable customer = true ∧ isStorable subscription = true ∧
      ∃ o, s.holder? customer = some o ∧
        (∀ x ∈ s.subscriptions.rows, x.customerId = customer → x.subscriptionId ≠ subscription) ∧
        Index.refusal? subscriptionIndex [customer, subscription] = none ∧
        (∃ p ∈ s.prices.rows, p.id = price) ∧
        (∀ l ∈ s.links.rows, l.organization = o.id → l.subscription ≠ s.nextSubscription) ∧
        sub = ⟨s.nextSubscription, customer, subscription, price, .active⟩ ∧
        s' = s.subscribe customer subscription price o.id := by
  unfold insertLinkedSubscription
  rw [commits_requireTexts_bind, commits_get_bind]
  cases ho : s.holder? customer with
  | none => simp [commits_throw]
  | some o =>
    have horg : (s.organization? o.id).isSome := by
      simpa [organization?] using ⟨o, (mem_of_holder? ho).1, rfl⟩
    simp only [commits_step_bind fun _ _ => commits_insertSubscription,
      commits_unit_bind fun _ _ => commits_insertLink,
      commits_unit_bind fun _ _ => commits_insertItem, commits_pure]
    have hsub : ∀ (links : Table OrganizationLink), (subscription? s.nextSubscription
        { s with
          subscriptions := s.subscriptions.insert subscriptionTag fun id =>
            ⟨id, customer, subscription, price, .active⟩
          links }).isSome := fun _ => by
      simp [subscription?, nextSubscription, Table.nextRow]
    constructor
    · rintro ⟨-, ⟨hc, hs, hnew, hfit, -, hp⟩, ⟨hl, -, -⟩, -, rfl, rfl⟩
      exact ⟨hc, hs, o, rfl, hnew, hfit, hp, hl, rfl, rfl⟩
    · rintro ⟨hc, hs, o', ho', hnew, hfit, hp, hl, rfl, rfl⟩
      cases ho'
      exact ⟨by simpa using hc, ⟨hc, hs, hnew, hfit, by simp [ho], hp⟩, ⟨hl, horg, hsub _⟩,
        ⟨by decide, hsub _, hp⟩, rfl, rfl⟩

theorem commits_setStatus {id : Uuid} {status : SubscriptionStatus} {r : Unit} :
    Commits (setStatus id status) s r s' ↔
      s.subscription? id ≠ none ∧ s' = { s with
        subscriptions :=
          s.subscriptions.map fun sub => if sub.id = id then { sub with status } else sub } := by
  simp only [setStatus, commits_get_bind, commits_set, commits_ite, commits_throw_bind, and_false,
    false_or]
  simp

theorem commits_deleteSubscription {id : Uuid} {r : Unit} :
    Commits (deleteSubscription id) s r s' ↔
      s.subscription? id ≠ none ∧ s' = s.dropSubscriptions [id] := by
  simp only [deleteSubscription, commits_get_bind, commits_set, commits_ite, commits_throw_bind,
    and_false, false_or]
  simp

/-- The ids of a customer's subscriptions. -/
def subscriptionsOf (customer : String) (s : Store) : List Uuid :=
  (s.subscriptions.rows.filter (·.customerId == customer)).map (·.id)

/-- The store without a customer: its subscriptions are gone and nobody holds it. -/
def forgetCustomer (customer : String) (s : Store) : Store :=
  (s.dropSubscriptions (s.subscriptionsOf customer)).freeCustomer customer

/-- Once a customer's subscriptions are dropped, no subscription has the customer. -/
theorem customerId_ne_of_mem_drop {customer : String} {sub : Subscription}
    (h : sub ∈ (s.dropSubscriptions (s.subscriptionsOf customer)).subscriptions.rows) :
    sub.customerId ≠ customer := by
  simp only [dropSubscriptions, Table.rows_filter, List.mem_filter, Bool.not_eq_true',
    List.contains_eq_mem, decide_eq_false_iff_not] at h
  intro hc
  refine h.2 (List.mem_map_of_mem ?_)
  simpa [hc] using h.1

theorem commits_deleteCustomer {customer : String} {n : Nat} :
    Commits (deleteCustomer customer) s n s' ↔
      isStorable customer = true ∧ n = (s.subscriptionsOf customer).length ∧
        s' = s.forgetCustomer customer := by
  simp only [deleteCustomer, commits_requireTexts_bind, commits_get_bind, commits_set_bind,
    commits_unit_bind fun _ _ => commits_releaseCustomer.trans and_assoc.symm, commits_pure]
  constructor
  · rintro ⟨-, ⟨hc, -⟩, rfl, rfl⟩
    exact ⟨hc, by simp [subscriptionsOf], rfl⟩
  · rintro ⟨hc, rfl, rfl⟩
    exact ⟨by simpa using hc, ⟨hc, .inr fun sub => customerId_ne_of_mem_drop⟩,
      by simp [subscriptionsOf], rfl⟩

/-! ### The catalog -/

theorem commits_insertProduct {name description : String} {productId taxCode : Option String}
    {p : CatalogProduct} :
    Commits (insertProduct name description productId taxCode) s p s' ↔
      (∀ text ∈ name :: description :: productId.toList ++ taxCode.toList, isStorable text = true) ∧
      p = ⟨Uuid.row productTag (s.products.issued + 1), productId, name, description, true, taxCode⟩ ∧
      s' = { s with
        products := s.products.insert productTag fun id =>
          ⟨id, productId, name, description, true, taxCode⟩ } := by
  simp only [insertProduct, commits_requireTexts_bind, commits_get_bind, commits_set_bind,
    commits_pure, Table.nextRow]

theorem commits_updateProduct {id : Uuid} {changes : ProductChanges} {p : CatalogProduct} :
    Commits (updateProduct id changes) s p s' ↔
      ∃ old, s.product? id = some old ∧ p = changes.apply old ∧
        (∀ text ∈ p.name :: p.description :: p.productId.toList ++ p.taxCode.toList,
          isStorable text = true) ∧
        s' = { s with products := s.products.map fun q => if q.id = id then p else q } := by
  unfold updateProduct
  rw [commits_get_bind]
  cases s.product? id with
  | none => simp [commits_throw]
  | some old =>
    simp only [commits_requireTexts_bind, commits_set_bind, commits_pure]
    constructor
    · rintro ⟨ht, rfl, rfl⟩
      exact ⟨old, rfl, rfl, ht, rfl⟩
    · rintro ⟨_, ho, rfl, ht, rfl⟩
      cases ho
      exact ⟨ht, rfl, rfl⟩

theorem commits_deleteProduct {id : Uuid} {r : Unit} :
    Commits (deleteProduct id) s r s' ↔ s.product? id ≠ none ∧ s' = s.dropProducts [id] := by
  simp only [deleteProduct, commits_get_bind, commits_set, commits_ite, commits_throw_bind,
    and_false, false_or]
  simp

/-- What the price table demands of a row. -/
def AcceptsPrice (s : Store) (p : CatalogPrice) : Prop :=
  (∀ text ∈ p.currency :: p.priceId.toList ++ p.taxBehavior.toList, isStorable text = true) ∧
    0 ≤ p.unitAmount ∧ ∃ q ∈ s.products.rows, q.id = p.product

theorem commits_requirePrice {p : CatalogPrice} {r : Unit} :
    Commits (requirePrice p) s r s' ↔
      (0 ≤ p.unitAmount ∧ ∃ q ∈ s.products.rows, q.id = p.product) ∧ s' = s := by
  simp only [requirePrice, commits_require_bind, commits_get_bind, commits_require]
  simp [product?, and_assoc]

theorem commits_requirePrice_bind {β : Type} {p : CatalogPrice} {b : β} {f : Unit → Transaction β} :
    Commits (requireTexts (priceTexts p) >>= fun _ => requirePrice p >>= f) s b s' ↔
      s.AcceptsPrice p ∧ Commits (f ()) s b s' := by
  rw [commits_requireTexts_bind, commits_unit_bind fun _ _ => commits_requirePrice, AcceptsPrice,
    priceTexts, ← and_assoc]

theorem commits_insertPrice {priceId : Option String} {currency : String} {product : Uuid}
    {unitAmount : Int} {recurring : Interval} {taxBehavior : Option String} {p : CatalogPrice} :
    Commits (insertPrice priceId currency product unitAmount recurring taxBehavior) s p s' ↔
      s.AcceptsPrice p ∧
      p = ⟨Uuid.row priceTag (s.prices.issued + 1), priceId, currency, product, unitAmount, true,
        recurring, taxBehavior⟩ ∧
      s' = { s with
        prices := s.prices.insert priceTag fun id =>
          ⟨id, priceId, currency, product, unitAmount, true, recurring, taxBehavior⟩ } := by
  simp only [insertPrice, commits_get_bind, commits_requirePrice_bind,
    commits_set_bind, commits_pure, Table.nextRow]
  constructor
  · rintro ⟨hp, rfl, rfl⟩
    exact ⟨hp, rfl, rfl⟩
  · rintro ⟨hp, rfl, rfl⟩
    exact ⟨hp, rfl, rfl⟩

theorem commits_updatePrice {id : Uuid} {changes : PriceChanges} {p : CatalogPrice} :
    Commits (updatePrice id changes) s p s' ↔
      ∃ old, s.price? id = some old ∧ p = changes.apply old ∧ s.AcceptsPrice p ∧
        s' = { s with prices := s.prices.map fun q => if q.id = id then p else q } := by
  unfold updatePrice
  rw [commits_get_bind]
  cases s.price? id with
  | none => simp [commits_throw]
  | some old =>
    simp only [commits_requirePrice_bind, commits_set_bind, commits_pure]
    constructor
    · rintro ⟨hp, rfl, rfl⟩
      exact ⟨old, rfl, rfl, hp, rfl⟩
    · rintro ⟨_, ho, rfl, hp, rfl⟩
      cases ho
      exact ⟨hp, rfl, rfl⟩

theorem commits_deletePrice {id : Uuid} {r : Unit} :
    Commits (deletePrice id) s r s' ↔ s.price? id ≠ none ∧ s' = s.dropPrices [id] := by
  simp only [deletePrice, commits_get_bind, commits_set, commits_ite, commits_throw_bind,
    and_false, false_or]
  simp

/-- The product that the default price is for. -/
def defaultProduct (id : Uuid) : CatalogProduct :=
  ⟨id, none, "PyPI", "Organization account for companies", true, some "txcd_10103001"⟩

/-- The default price of a product. -/
def defaultPrice (product id : Uuid) : CatalogPrice :=
  ⟨id, none, "usd", product, 5000, true, .month, some "inclusive"⟩

/-- The store with a default product and its price. -/
def withDefaultPrice (s : Store) : Store :=
  { s with
    products := s.products.insert productTag defaultProduct
    prices :=
      s.prices.insert priceTag (defaultPrice (Uuid.row productTag (s.products.issued + 1))) }

theorem activePrices_withDefaultPrice (h : s.activePrices = []) :
    s.withDefaultPrice.activePrices =
      [defaultPrice (Uuid.row productTag (s.products.issued + 1))
        (Uuid.row priceTag (s.prices.issued + 1))] := by
  have none : s.prices.rows.filter (·.isActive) = [] := h
  simp [activePrices, withDefaultPrice, Table.nextRow, defaultPrice, none]

theorem commits_getOrCreateDefaultPrice {p : CatalogPrice} :
    Commits getOrCreateDefaultPrice s p s' ↔
      (s.activePrices = [p] ∧ s' = s) ∨
      (s.activePrices = [] ∧ s' = s.withDefaultPrice ∧
        p = defaultPrice (Uuid.row productTag (s.products.issued + 1))
          (Uuid.row priceTag (s.prices.issued + 1))) := by
  unfold getOrCreateDefaultPrice
  rw [commits_get_bind]
  match s.activePrices with
  | [] =>
    have hproduct : ∀ text ∈ ["PyPI", "Organization account for companies", "txcd_10103001"],
        isStorable text = true := by decide
    have hprice : ∀ text ∈ ["usd", "inclusive"], isStorable text = true := by decide
    simp only [commits_step_bind fun _ _ => commits_insertProduct, commits_insertPrice]
    constructor
    · rintro ⟨-, -, rfl, rfl⟩
      exact .inr ⟨trivial, rfl, rfl⟩
    · rintro (⟨h, -⟩ | ⟨-, rfl, rfl⟩)
      · cases h
      · refine ⟨hproduct, ⟨hprice, (by decide : (0 : Int) ≤ 5000), ?_⟩, rfl, rfl⟩
        exact ⟨_, List.mem_append_right _ (List.mem_singleton_self _), rfl⟩
  | [q] => simp [commits_pure, eq_comm]
  | _ :: _ :: _ => simp [commits_throw]

/-- The store with the default product and its price if no price was active. -/
def bootstrapped (s : Store) : Store :=
  if s.activePrices = [] then s.withDefaultPrice else s

theorem bootstrapped_of_ne_nil (h : s.activePrices ≠ []) : s.bootstrapped = s := if_neg h

theorem bootstrapped_of_eq_nil (h : s.activePrices = []) : s.bootstrapped = s.withDefaultPrice :=
  if_pos h

/-- Making the default price touches the catalog only. -/
theorem bootstrapped_eq (s : Store) :
    ∃ products prices, s.bootstrapped = { s with products, prices } := by
  by_cases h : s.activePrices = []
  · exact ⟨_, _, bootstrapped_of_eq_nil h⟩
  · exact ⟨_, _, bootstrapped_of_ne_nil h⟩

theorem exists_activePrices_bootstrapped (h : s.activePrices.length ≤ 1) :
    ∃ p, s.bootstrapped.activePrices = [p] := by
  match hp : s.activePrices with
  | [] => exact ⟨_, by rw [bootstrapped_of_eq_nil hp, activePrices_withDefaultPrice hp]⟩
  | [p] => exact ⟨p, by rw [bootstrapped_of_ne_nil (by simp [hp]), hp]⟩
  | _ :: _ :: _ => simp [hp] at h

/-- The default price can be had if it is the only active one once it has been made where there was
none. -/
theorem commits_default_iff {p : CatalogPrice} :
    Commits getOrCreateDefaultPrice s p s' ↔
      s.bootstrapped.activePrices = [p] ∧ s' = s.bootstrapped := by
  rw [commits_getOrCreateDefaultPrice]
  by_cases h : s.activePrices = []
  · simp [bootstrapped_of_eq_nil h, activePrices_withDefaultPrice h, h, eq_comm, and_comm]
  · simp [bootstrapped_of_ne_nil h, h]

/-- The default price is the only active one. -/
theorem activePrices_of_default {p : CatalogPrice} (h : Commits getOrCreateDefaultPrice s p s') :
    s'.activePrices = [p] := by
  obtain ⟨hp, rfl⟩ := commits_default_iff.1 h
  exact hp

/-- Finding or making the default price touches the catalog only. -/
theorem catalog_of_default {p : CatalogPrice} (h : Commits getOrCreateDefaultPrice s p s') :
    ∃ products prices, s' = { s with products, prices } := by
  obtain ⟨-, rfl⟩ := commits_default_iff.1 h
  exact s.bootstrapped_eq

/-! ### The ledger -/

/-- A delivery whose processing begins again. -/
def Ledger.restart (now : Int) (d : Delivery) : Delivery :=
  { d with state := .processing, errorMessage := none, startedAt := now }

theorem commits_claim {now : Int} {eventId eventType : String} {r : Bool} :
    Commits (Ledger.claim now eventId eventType) s r s' ↔
      isStorable eventId = true ∧ isStorable eventType = true ∧
      ((Ledger.row? eventId s = none ∧ Index.refusal? Ledger.eventIndex [eventId] = none ∧ r = true ∧
          s' = { s with
            deliveries := s.deliveries ++
              [⟨Ledger.nextId s, eventId, eventType, .processing, none, now, now⟩] }) ∨
        ∃ d, Ledger.row? eventId s = some d ∧
          ((Ledger.isClaimable now d = true ∧ r = true ∧
            s' = { s with
              deliveries := Ledger.change eventId (Ledger.restart now) s.deliveries }) ∨
          (Ledger.isClaimable now d = false ∧ r = false ∧ s' = s))) := by
  unfold Ledger.claim
  rw [commits_requireTexts_bind, commits_get_bind]
  cases Ledger.row? eventId s with
  | none =>
    simp only [commits_requireIndexable_bind, commits_set_bind, commits_pure]
    simp [and_assoc]
  | some d =>
    have hrestart : Ledger.restart now =
        fun d => { d with state := .processing, errorMessage := none, startedAt := now } := rfl
    simp only [commits_ite, commits_set_bind, commits_pure]
    simp [and_assoc, hrestart]

/-- The store after the result of an attempt was recorded. -/
def Ledger.recorded (eventId : String) (state : DeliveryState) (errorMessage : Option String)
    (s : Store) : Store :=
  { s with
    deliveries := Ledger.change eventId (fun d => { d with state, errorMessage }) s.deliveries }

theorem commits_recordResult {eventId : String} {state : DeliveryState} {errorMessage : Option String}
    {r : Unit} :
    Commits (Ledger.recordResult eventId state errorMessage) s r s' ↔
      (isStorable eventId = true ∧ ∀ text, errorMessage = some text → isStorable text = true) ∧
      s' = Ledger.recorded eventId state errorMessage s := by
  simp only [Ledger.recordResult, commits_requireTexts_bind, commits_modify]
  simp [Ledger.recorded]

end OrgBilling.Store
