import OrgBilling.Proofs.Store.Schema

/-!
# What refers to what

A row refers to other rows by their ids, and a subscription refers to an organization by the customer
that it holds (`Refers`). A row that is removed takes along what refers to it, and that in turn takes
along what refers to it: a row hangs on another one if references lead from it to that one
(`HangsOn`). References never lead back, so what hangs on a row can be read off table by table
(`Schema.hangsOn_price`, `Schema.hangsOn_subscription`, `Schema.hangsOn_link`, `Schema.hangsOn_item`).
-/

namespace OrgBilling.Store

open Relation

/-- A row of a table that is referred to or refers, by its id. -/
inductive Row where
  /-- An organization. -/
  | organization (id : Uuid)
  /-- A product. -/
  | product (id : Uuid)
  /-- A price. -/
  | price (id : Uuid)
  /-- A subscription. -/
  | subscription (id : Uuid)
  /-- A link. -/
  | link (id : Uuid)
  /-- An item. -/
  | item (id : Uuid)

/-- The row exists. -/
def Has (s : Store) : Row → Prop
  | .organization id => ∃ o ∈ s.organizations.rows, o.id = id
  | .product id => ∃ q ∈ s.products.rows, q.id = id
  | .price id => ∃ p ∈ s.prices.rows, p.id = id
  | .subscription id => ∃ x ∈ s.subscriptions.rows, x.id = id
  | .link id => ∃ l ∈ s.links.rows, l.id = id
  | .item id => ∃ i ∈ s.items.rows, i.id = id

/-- The first row refers to the second one: one constructor for each reference of the schema. -/
inductive Refers (s : Store) : Row → Row → Prop
  | priceProduct {p : CatalogPrice} (hp : p ∈ s.prices.rows) :
      Refers s (.price p.id) (.product p.product)
  | subscriptionPrice {x : Subscription} (hx : x ∈ s.subscriptions.rows) :
      Refers s (.subscription x.id) (.price x.price)
  | subscriptionCustomer {x : Subscription} {o : Organization} (hx : x ∈ s.subscriptions.rows)
      (ho : o ∈ s.organizations.rows) (hc : o.customerId = some x.customerId) :
      Refers s (.subscription x.id) (.organization o.id)
  | linkSubscription {l : OrganizationLink} (hl : l ∈ s.links.rows) :
      Refers s (.link l.id) (.subscription l.subscription)
  | linkOrganization {l : OrganizationLink} (hl : l ∈ s.links.rows) :
      Refers s (.link l.id) (.organization l.organization)
  | itemSubscription {i : SubscriptionItem} (hi : i ∈ s.items.rows) :
      Refers s (.item i.id) (.subscription i.subscription)
  | itemPrice {i : SubscriptionItem} (hi : i ∈ s.items.rows) :
      Refers s (.item i.id) (.price i.price)

/-- References lead from the row to the root, or it is the root itself. -/
def HangsOn (s : Store) (root row : Row) : Prop :=
  ReflTransGen (Refers s) row root

/-- The store without the rows that are gone. -/
def without (gone : Row → Prop) [DecidablePred gone] (s : Store) : Store :=
  { s with
    organizations := s.organizations.filter fun o => !decide (gone (.organization o.id))
    products := s.products.filter fun q => !decide (gone (.product q.id))
    prices := s.prices.filter fun p => !decide (gone (.price p.id))
    subscriptions := s.subscriptions.filter fun x => !decide (gone (.subscription x.id))
    links := s.links.filter fun l => !decide (gone (.link l.id))
    items := s.items.filter fun i => !decide (gone (.item i.id)) }

section HangsOn

variable {s : Store} {root row : Row} {id : Uuid}

theorem hangsOn_iff : HangsOn s root row ↔ row = root ∨ ∃ r, Refers s row r ∧ HangsOn s root r :=
  ReflTransGen.cases_head_iff

/-! ### Rows with an id -/

/-- A row without references hangs on itself only. -/
theorem hangsOn_of_not_refers (h : ∀ r, ¬ Refers s row r) : HangsOn s root row ↔ root = row := by
  rw [hangsOn_iff]
  constructor
  · rintro (rfl | ⟨r, hr, -⟩)
    · rfl
    · exact absurd hr (h r)
  · rintro rfl
    exact .inl rfl

theorem hangsOn_organization : HangsOn s root (.organization id) ↔ root = .organization id :=
  hangsOn_of_not_refers fun _ => nofun

theorem hangsOn_product : HangsOn s root (.product id) ↔ root = .product id :=
  hangsOn_of_not_refers fun _ => nofun

theorem hangsOn_price :
    HangsOn s root (.price id) ↔
      root = .price id ∨ ∃ p ∈ s.prices.rows, p.id = id ∧ root = .product p.product := by
  rw [hangsOn_iff]
  constructor
  · rintro (rfl | ⟨r, hr, h⟩)
    · exact .inl rfl
    · cases hr with
      | priceProduct hp => exact .inr ⟨_, hp, rfl, hangsOn_product.1 h⟩
  · rintro (rfl | ⟨p, hp, rfl, rfl⟩)
    · exact .inl rfl
    · exact .inr ⟨_, .priceProduct hp, .refl⟩

theorem hangsOn_subscription :
    HangsOn s root (.subscription id) ↔
      root = .subscription id ∨ ∃ x ∈ s.subscriptions.rows, x.id = id ∧
        (HangsOn s root (.price x.price) ∨
          ∃ o ∈ s.organizations.rows, o.customerId = some x.customerId ∧
            root = .organization o.id) := by
  rw [hangsOn_iff]
  constructor
  · rintro (rfl | ⟨r, hr, h⟩)
    · exact .inl rfl
    · cases hr with
      | subscriptionPrice hx => exact .inr ⟨_, hx, rfl, .inl h⟩
      | subscriptionCustomer hx ho hc =>
        exact .inr ⟨_, hx, rfl, .inr ⟨_, ho, hc, hangsOn_organization.1 h⟩⟩
  · rintro (rfl | ⟨x, hx, rfl, h | ⟨o, ho, hc, rfl⟩⟩)
    · exact .inl rfl
    · exact .inr ⟨_, .subscriptionPrice hx, h⟩
    · exact .inr ⟨_, .subscriptionCustomer hx ho hc, .refl⟩

theorem hangsOn_subscription_subscription {other : Uuid} :
    HangsOn s (.subscription other) (.subscription id) ↔ id = other := by
  simp [hangsOn_subscription, hangsOn_price, eq_comm (a := other)]

/-! ### Lists of ids -/

theorem mem_pricesOf {product : Uuid} :
    id ∈ s.pricesOf [product] ↔ HangsOn s (.product product) (.price id) := by
  simp only [hangsOn_price, pricesOf, List.mem_map, List.mem_filter, List.contains_eq_mem,
    List.mem_singleton, decide_eq_true_eq, reduceCtorEq, false_or, Row.product.injEq]
  refine exists_congr fun p => ?_
  rw [and_assoc, and_comm (a := p.product = product), eq_comm (a := product)]

theorem mem_subscriptionsOn {ids : List Uuid} :
    id ∈ s.subscriptionsOn ids ↔ ∃ x ∈ s.subscriptions.rows, x.id = id ∧ x.price ∈ ids := by
  simp only [subscriptionsOn, List.mem_map, List.mem_filter, List.contains_eq_mem,
    decide_eq_true_eq]
  refine exists_congr fun x => ?_
  rw [and_assoc, and_comm (a := x.price ∈ ids)]

theorem mem_subscriptionsOn_price {price : Uuid} :
    id ∈ s.subscriptionsOn [price] ↔ HangsOn s (.price price) (.subscription id) := by
  rw [mem_subscriptionsOn, hangsOn_subscription]
  simp [hangsOn_price, eq_comm]

theorem mem_subscriptionsOn_pricesOf {product : Uuid} :
    id ∈ s.subscriptionsOn (s.pricesOf [product]) ↔
      HangsOn s (.product product) (.subscription id) := by
  rw [mem_subscriptionsOn, hangsOn_subscription]
  simp [mem_pricesOf]

end HangsOn

/-! ### Rows of tables with unique ids -/

namespace Schema

variable {s : Store} {root : Row}

theorem hangsOn_price (h : Schema s) {p : CatalogPrice} (hp : p ∈ s.prices.rows) :
    HangsOn s root (.price p.id) ↔ root = .price p.id ∨ root = .product p.product := by
  rw [Store.hangsOn_price]
  refine or_congr_right ⟨?_, fun hroot => ⟨p, hp, rfl, hroot⟩⟩
  rintro ⟨q, hq, hid, hroot⟩
  rwa [← List.inj_on_of_nodup_map h.prices hq hp hid]

theorem hangsOn_subscription (h : Schema s) {x : Subscription} (hx : x ∈ s.subscriptions.rows) :
    HangsOn s root (.subscription x.id) ↔
      root = .subscription x.id ∨ HangsOn s root (.price x.price) ∨
        ∃ o ∈ s.organizations.rows, o.customerId = some x.customerId ∧
          root = .organization o.id := by
  rw [Store.hangsOn_subscription]
  refine or_congr_right ⟨?_, fun hroot => ⟨x, hx, rfl, hroot⟩⟩
  rintro ⟨y, hy, hid, hroot⟩
  rwa [← List.inj_on_of_nodup_map h.subscriptions hy hx hid]

theorem refers_link (h : Schema s) {l : OrganizationLink} (hl : l ∈ s.links.rows) {row : Row} :
    Refers s (.link l.id) row ↔
      row = .subscription l.subscription ∨ row = .organization l.organization := by
  constructor
  · intro hr
    generalize hlink : Row.link l.id = link at hr
    cases hr with
    | linkSubscription hk =>
      cases List.inj_on_of_nodup_map h.links hk hl (Row.link.inj hlink).symm
      exact .inl rfl
    | linkOrganization hk =>
      cases List.inj_on_of_nodup_map h.links hk hl (Row.link.inj hlink).symm
      exact .inr rfl
    | _ => cases hlink
  · rintro (rfl | rfl)
    · exact .linkSubscription hl
    · exact .linkOrganization hl

theorem refers_item (h : Schema s) {i : SubscriptionItem} (hi : i ∈ s.items.rows) {row : Row} :
    Refers s (.item i.id) row ↔ row = .subscription i.subscription ∨ row = .price i.price := by
  constructor
  · intro hr
    generalize hitem : Row.item i.id = item at hr
    cases hr with
    | itemSubscription hj =>
      cases List.inj_on_of_nodup_map h.items hj hi (Row.item.inj hitem).symm
      exact .inl rfl
    | itemPrice hj =>
      cases List.inj_on_of_nodup_map h.items hj hi (Row.item.inj hitem).symm
      exact .inr rfl
    | _ => cases hitem
  · rintro (rfl | rfl)
    · exact .itemSubscription hi
    · exact .itemPrice hi

theorem hangsOn_link (h : Schema s) {l : OrganizationLink} (hl : l ∈ s.links.rows) :
    HangsOn s root (.link l.id) ↔
      root = .link l.id ∨ HangsOn s root (.subscription l.subscription) ∨
        root = .organization l.organization := by
  rw [hangsOn_iff, eq_comm]
  simp only [h.refers_link hl, or_and_right, exists_or, exists_eq_left, hangsOn_organization]

/-- An item goes on either of two ways. -/
theorem hangsOn_item (h : Schema s) {i : SubscriptionItem} (hi : i ∈ s.items.rows) :
    HangsOn s root (.item i.id) ↔
      root = .item i.id ∨ HangsOn s root (.subscription i.subscription) ∨
        HangsOn s root (.price i.price) := by
  rw [hangsOn_iff, eq_comm]
  simp only [h.refers_item hi, or_and_right, exists_or, exists_eq_left]

end Schema

end OrgBilling.Store
