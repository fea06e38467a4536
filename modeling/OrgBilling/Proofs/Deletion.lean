import OrgBilling.Proofs.Operation
import OrgBilling.Proofs.Store.References
import OrgBilling.Provider.Sandbox

/-!
# What deletions remove

Deleting a product, a price or a subscription removes the row and what hangs on it: prices go with
their product, subscriptions with their price, links with their subscription, and items with their
subscription or their price, whichever goes. Nothing else is different, and no reference is left to a
row that is gone (`deletes_cascade`).

Deleting a customer takes three steps: links, subscriptions, and the customer's organization. Together
with what the references between the tables let go, the steps come to `forgetCustomer`: the
customer's subscriptions are gone, and so is what refers to them, and the organization that holds the
customer holds none. All other rows are as they were, and deleting the customer again changes nothing
(`deletes_customer`).
-/

namespace OrgBilling

open Store Transaction

namespace Store

variable {s : Store} {c : String}

/-! ### Nothing is left to remove -/

theorem subscriptionsOf_forgetCustomer (s : Store) (c : String) :
    (s.forgetCustomer c).subscriptionsOf c = [] := by
  have none : (s.forgetCustomer c).subscriptions.rows.filter (·.customerId == c) = [] := by
    refine List.filter_eq_nil_iff.2 fun x hx => ?_
    simpa using customerId_ne_of_mem_drop (s := s) hx
  rw [subscriptionsOf, none]
  rfl

theorem freeRow_freeRow (c : String) (o : Organization) : freeRow c (freeRow c o) = freeRow c o := by
  by_cases hc : o.customerId = some c <;> simp [freeRow, holds, hc]

theorem freeCustomer_freeCustomer (s : Store) (c : String) :
    (s.freeCustomer c).freeCustomer c = s.freeCustomer c := by
  simp only [freeCustomer, Table.map, List.map_map, Function.comp_def, freeRow_freeRow]

/-- A customer that has been removed can be removed once more; that changes nothing. -/
theorem forgetCustomer_forgetCustomer (s : Store) (c : String) :
    (s.forgetCustomer c).forgetCustomer c = s.forgetCustomer c := by
  rw [forgetCustomer, subscriptionsOf_forgetCustomer, dropSubscriptions_nil]
  exact freeCustomer_freeCustomer _ c

end Store

variable {s : Store} {c : String}

/-- At most one organization holds a customer. -/
theorem Store.Schema.countP_holds_le_one (h : Schema s) (c : String) :
    s.organizations.rows.countP (holds c) ≤ 1 := by
  rw [List.countP_eq_length_filter]
  match hfound : s.organizations.rows.filter (holds c) with
  | [] => exact Nat.zero_le 1
  | [o] => exact Nat.le_refl 1
  | o :: p :: rest =>
    have found : ∀ q ∈ [o, p], q ∈ s.organizations.rows ∧ q.customerId = some c := by
      intro q hq
      have mem : q ∈ s.organizations.rows.filter (holds c) := by
        rw [hfound]
        exact List.mem_append_left rest hq
      exact ⟨(List.mem_filter.1 mem).1, by simpa [holds] using (List.mem_filter.1 mem).2⟩
    obtain ⟨ho, hoc⟩ := found o (by simp)
    obtain ⟨hp, hpc⟩ := found p (by simp)
    have distinct := nodup_map_filter (holds c) h.organizations
    rw [hfound, h.customer o ho p hp c hoc hpc] at distinct
    simp at distinct

/-- Deleting a customer removes what belongs to it, and nothing else. It always succeeds and counts
the customer's subscriptions. These are gone afterwards, and so are the links and items that refer to
them; the organization that holds the customer, of which there is at most one, holds none; and that
is all that is different. Deleting the customer once more counts none and changes nothing. -/
theorem deletes_customer (h : Schema s) (hc : isStorable c = true) :
    ∃ s', (Records.deleteCustomer c).on s =
        (.ok (s.subscriptions.rows.countP (·.customerId == c)), s') ∧
      s' = { s with
        organizations := s.organizations.map fun o =>
          if holds c o then { o with customerId := none } else o
        subscriptions := s.subscriptions.filter (·.customerId != c)
        links := s.links.filter fun l => !(s.subscriptionsOf c).contains l.subscription
        items := s.items.filter fun i => !(s.subscriptionsOf c).contains i.subscription } ∧
      s.organizations.rows.countP (holds c) ≤ 1 ∧
      (Records.deleteCustomer c).on s' = (.ok 0, s') := by
  have count : (s.subscriptionsOf c).length = s.subscriptions.rows.countP (·.customerId == c) := by
    rw [subscriptionsOf, List.length_map, List.countP_eq_length_filter]
  have first : Commits (deleteCustomer c) s _ (s.forgetCustomer c) :=
    commits_deleteCustomer.2 ⟨hc, rfl, rfl⟩
  have again : Commits (deleteCustomer c) (s.forgetCustomer c) 0 (s.forgetCustomer c) :=
    commits_deleteCustomer.2 ⟨hc, by rw [subscriptionsOf_forgetCustomer]; rfl,
      (forgetCustomer_forgetCustomer s c).symm⟩
  rw [count] at first
  rw [Records.deleteCustomer_eq]
  refine ⟨s.forgetCustomer c, commit_ok first, ?_, h.countP_holds_le_one c, commit_ok again⟩
  rw [← h.subscriptions_forgetCustomer c]
  rfl

/-- An organization with two subscriptions, beside another one with a subscription of the same
provider id. -/
def neighbours : World Provider.Sandbox :=
  afterAll ⟨.empty, .fresh⟩
    [.insertOrganization ⟨"acme", "Acme", "Company", true, none, some "cus_1", 0⟩,
      .insertOrganization ⟨"apex", "Apex", "Company", true, none, some "cus_2", 0⟩,
      .addSubscription "cus_1" "sub_1", .addSubscription "cus_2" "sub_1",
      .addSubscription "cus_1" "sub_2"]

/-- Deleting the customer of the first one leaves the other one its subscription, link and item. -/
theorem deletes_customer_of_neighbours :
    ∃ s', (Records.deleteCustomer "cus_1").on neighbours.store = (.ok 2, s') ∧
      s'.organizations.rows.map (·.customerId) = [none, some "cus_2"] ∧
      s'.subscriptions.rows = [⟨.row 4 2, "cus_2", "sub_1", .row 3 1, .active⟩] ∧
      s'.links.rows = [⟨.row 5 2, .row 1 2, .row 4 2⟩] ∧
      s'.items.rows = [⟨.row 6 2, none, .row 4 2, .row 3 1, 1⟩] := by
  have reachable : Reachable neighbours := (Reachable.empty _).afterAll _
  have schema : Schema neighbours.store := Schema.empty.evolves .empty reachable.evolves
  obtain ⟨s', hon, rfl, -, -⟩ := deletes_customer schema (by decide : isStorable "cus_1" = true)
  have count : neighbours.store.subscriptions.rows.countP (·.customerId == "cus_1") = 2 := by
    decide +kernel
  rw [count] at hon
  exact ⟨_, hon, by decide +kernel, by decide +kernel, by decide +kernel, by decide +kernel⟩

/-! ### Rows and what hangs on them -/

namespace Store

variable {root : Row} {id : Uuid}

/-- The selection keeps exactly the rows that are not gone. -/
structure Selection.Spares (k : Selection) (gone : Row → Prop) (s : Store) : Prop where
  organization : ∀ o ∈ s.organizations.rows, ¬ gone (.organization o.id)
  product : ∀ q ∈ s.products.rows, k.product q = true ↔ ¬ gone (.product q.id)
  price : ∀ p ∈ s.prices.rows, k.price p = true ↔ ¬ gone (.price p.id)
  subscription : ∀ x ∈ s.subscriptions.rows, k.subscription x = true ↔ ¬ gone (.subscription x.id)
  link : ∀ l ∈ s.links.rows, k.link l = true ↔ ¬ gone (.link l.id)
  item : ∀ i ∈ s.items.rows, k.item i = true ↔ ¬ gone (.item i.id)

theorem filter_congr {α : Type} {t : Table α} {p q : α → Bool} (h : ∀ x ∈ t.rows, p x = q x) :
    t.filter p = t.filter q :=
  congrArg (Table.mk · t.issued) (List.filter_congr h)

theorem Selection.Spares.select_eq {k : Selection} {gone : Row → Prop} [DecidablePred gone]
    (h : k.Spares gone s) : s.select k = s.without gone := by
  have same {b : Bool} {p : Prop} [Decidable p] (hb : b = true ↔ ¬ p) : b = !decide p := by
    rw [Bool.eq_iff_iff, hb, Bool.not_eq_true', decide_eq_false_iff_not]
  have organizations : s.organizations =
      s.organizations.filter fun o => !decide (gone (.organization o.id)) := by
    rw [← filter_congr fun o ho => same (iff_of_true rfl (h.organization o ho)), filter_true]
  rw [select, without, ← organizations, filter_congr fun q hq => same (h.product q hq),
    filter_congr fun p hp => same (h.price p hp),
    filter_congr fun x hx => same (h.subscription x hx),
    filter_congr fun l hl => same (h.link l hl), filter_congr fun i hi => same (h.item i hi)]

/-! What is left when a row is removed, in two ways: by the references of the rows themselves, and by
the ids that deletions collect. -/

theorem Schema.spares_product (h : Schema s) :
    Selection.Spares
      { product q := q.id != id
        price p := p.product != id
        subscription x := !(s.pricesOf [id]).contains x.price
        link l := !(s.subscriptionsOn (s.pricesOf [id])).contains l.subscription
        item i := !(s.subscriptionsOn (s.pricesOf [id])).contains i.subscription &&
          !(s.pricesOf [id]).contains i.price }
      (HangsOn s (.product id)) s where
  organization o _ := by simp [hangsOn_organization]
  product q _ := by simp [hangsOn_product, eq_comm (a := id)]
  price p hp := by simp [h.hangsOn_price hp, eq_comm (a := id)]
  subscription x hx := by simp [h.hangsOn_subscription hx, mem_pricesOf]
  link l hl := by simp [h.hangsOn_link hl, mem_subscriptionsOn_pricesOf]
  item i hi := by simp [h.hangsOn_item hi, mem_subscriptionsOn_pricesOf, mem_pricesOf]

theorem Schema.spares_withoutProducts (h : Schema s) :
    (Selection.withoutProducts [id] (s.pricesOf [id]) s).Spares (HangsOn s (.product id)) s where
  organization o _ := by simp [hangsOn_organization]
  product q _ := by simp [Selection.withoutProducts, hangsOn_product, eq_comm (a := id)]
  price p _ := by simp [Selection.withoutProducts, Selection.withoutPrices, mem_pricesOf]
  subscription x _ := by
    simp [Selection.withoutProducts, Selection.withoutPrices, mem_subscriptionsOn_pricesOf]
  link l hl := by
    simp [Selection.withoutProducts, Selection.withoutPrices, h.hangsOn_link hl,
      mem_subscriptionsOn_pricesOf]
  item i hi := by
    simp [Selection.withoutProducts, Selection.withoutPrices, h.hangsOn_item hi,
      mem_subscriptionsOn_pricesOf, mem_pricesOf]

theorem Schema.spares_price (h : Schema s) :
    Selection.Spares
      { price p := p.id != id
        subscription x := x.price != id
        link l := !(s.subscriptionsOn [id]).contains l.subscription
        item i := !(s.subscriptionsOn [id]).contains i.subscription && i.price != id }
      (HangsOn s (.price id)) s where
  organization o _ := by simp [hangsOn_organization]
  product q _ := by simp [hangsOn_product]
  price p hp := by simp [h.hangsOn_price hp, eq_comm (a := id)]
  subscription x hx := by
    simp [h.hangsOn_subscription hx, Store.hangsOn_price, eq_comm (a := id)]
  link l hl := by simp [h.hangsOn_link hl, mem_subscriptionsOn_price]
  item i hi := by
    simp [h.hangsOn_item hi, mem_subscriptionsOn_price, Store.hangsOn_price, eq_comm (a := id)]

theorem Schema.spares_withoutPrices (h : Schema s) :
    (Selection.withoutPrices [id] (s.subscriptionsOn [id])).Spares (HangsOn s (.price id)) s where
  organization o _ := by simp [hangsOn_organization]
  product q _ := by simp [Selection.withoutPrices, hangsOn_product]
  price p hp := by simp [Selection.withoutPrices, h.hangsOn_price hp, eq_comm (a := id)]
  subscription x _ := by simp [Selection.withoutPrices, mem_subscriptionsOn_price]
  link l hl := by simp [Selection.withoutPrices, h.hangsOn_link hl, mem_subscriptionsOn_price]
  item i hi := by
    simp [Selection.withoutPrices, h.hangsOn_item hi, mem_subscriptionsOn_price,
      Store.hangsOn_price, eq_comm (a := id)]

theorem Schema.spares_subscription (h : Schema s) :
    Selection.Spares
      { subscription x := x.id != id
        link l := l.subscription != id
        item i := i.subscription != id }
      (HangsOn s (.subscription id)) s where
  organization o _ := by simp [hangsOn_organization]
  product q _ := by simp [hangsOn_product]
  price p hp := by simp [h.hangsOn_price hp]
  subscription x _ := by simp [hangsOn_subscription_subscription]
  link l hl := by simp [h.hangsOn_link hl, hangsOn_subscription_subscription]
  item i hi := by
    simp [h.hangsOn_item hi, hangsOn_subscription_subscription, Store.hangsOn_price]

theorem Schema.spares_withoutSubscriptions (h : Schema s) :
    (Selection.withoutSubscriptions [id]).Spares (HangsOn s (.subscription id)) s where
  organization o _ := by simp [hangsOn_organization]
  product q _ := by simp [Selection.withoutSubscriptions, hangsOn_product]
  price p hp := by simp [Selection.withoutSubscriptions, h.hangsOn_price hp]
  subscription x _ := by
    simp [Selection.withoutSubscriptions, hangsOn_subscription_subscription]
  link l hl := by
    simp [Selection.withoutSubscriptions, h.hangsOn_link hl, hangsOn_subscription_subscription]
  item i hi := by
    simp [Selection.withoutSubscriptions, h.hangsOn_item hi, hangsOn_subscription_subscription,
      Store.hangsOn_price]

/-! ### How deletions end -/

theorem run_deleteProduct (id : Uuid) (s : Store) :
    (deleteProduct id).run s =
      if (s.product? id).isNone then .error (.notFound (.productRow id))
      else .ok ((), s.dropProducts [id]) := by
  rw [deleteProduct, run_get_bind]
  split <;> rfl

theorem run_deletePrice (id : Uuid) (s : Store) :
    (deletePrice id).run s =
      if (s.price? id).isNone then .error (.notFound (.priceRow id))
      else .ok ((), s.dropPrices [id]) := by
  rw [deletePrice, run_get_bind]
  split <;> rfl

theorem run_deleteSubscription (id : Uuid) (s : Store) :
    (deleteSubscription id).run s =
      if (s.subscription? id).isNone then .error (.notFound (.subscriptionRow id))
      else .ok ((), s.dropSubscriptions [id]) := by
  rw [deleteSubscription, run_get_bind]
  split <;> rfl

theorem isNone_product? : (s.product? id).isNone = true ↔ ¬ s.Has (.product id) := by
  simp [product?, Has]

theorem isNone_price? : (s.price? id).isNone = true ↔ ¬ s.Has (.price id) := by
  simp [price?, Has]

theorem isNone_subscription? : (s.subscription? id).isNone = true ↔ ¬ s.Has (.subscription id) := by
  simp [subscription?, Has]

end Store

open Classical in
/-- A deletion removes a row with what hangs on it, and `kept` says which rows are left. -/
structure Deletes (c : Call Store Unit) (root : Row) (missing : Missing) (kept : Selection)
    (s : Store) : Prop where
  /-- A row that exists is removed. -/
  known : s.Has root → c.on s = (.ok (), s.select kept)
  /-- What is not left hangs on the row, and what hangs on it is not left. -/
  cascade : s.select kept = s.without (HangsOn s root)
  /-- What is left keeps the rules, of which one for each reference says that it leads to a row. -/
  schema : Schema (s.select kept)
  /-- A row that does not exist cannot be removed, and the attempt changes nothing. -/
  unknown : ¬ s.Has root → c.on s = (.error (.notFound missing), s)

/-- A deletion that selects by ids what hangs on a row, and a second way to say what is left. -/
theorem Store.Schema.deletes (h : Schema s) {c : Call Store Unit} {t : Transaction Unit}
    {root : Row} {missing : Missing} {absent : Bool} {k kept : Selection} (hc : c = commit t)
    (habsent : absent = true ↔ ¬ s.Has root)
    (run : t.run s = if absent then .error (.notFound missing) else .ok ((), s.select k))
    (closed : k.Closed s) (hk : k.Spares (HangsOn s root) s)
    (hkept : kept.Spares (HangsOn s root) s) : Deletes c root missing kept s := by
  classical
  subst hc
  have same : s.select k = s.select kept := hk.select_eq.trans hkept.select_eq.symm
  rw [same] at run
  refine ⟨fun has => commit_ok ?_, hkept.select_eq, same ▸ h.select closed,
    fun has => commit_error ?_⟩
  · rw [run, if_neg fun ha => habsent.1 ha has]
  · rw [run, if_pos (habsent.2 has)]

/-- Deleting a product removes it, its prices, the subscriptions on these prices, the links of these
subscriptions, and the items that belong to these subscriptions or are on these prices; deleting a
price or a subscription removes the part of this that hangs on it. All other rows are as they were,
none of them refers to a row that is gone, and it is the references of the schema alone that say what
goes. What does not exist is reported as missing, and nothing changes. -/
theorem deletes_cascade (h : Schema s) (id : Uuid) :
    Deletes (Records.deleteProduct id) (.product id) (.productRow id)
      { product q := q.id != id
        price p := p.product != id
        subscription x := !(s.pricesOf [id]).contains x.price
        link l := !(s.subscriptionsOn (s.pricesOf [id])).contains l.subscription
        item i := !(s.subscriptionsOn (s.pricesOf [id])).contains i.subscription &&
          !(s.pricesOf [id]).contains i.price } s ∧
    Deletes (Records.deletePrice id) (.price id) (.priceRow id)
      { price p := p.id != id
        subscription x := x.price != id
        link l := !(s.subscriptionsOn [id]).contains l.subscription
        item i := !(s.subscriptionsOn [id]).contains i.subscription && i.price != id } s ∧
    Deletes (Records.deleteSubscription id) (.subscription id) (.subscriptionRow id)
      { subscription x := x.id != id
        link l := l.subscription != id
        item i := i.subscription != id } s := by
  refine ⟨h.deletes (Records.deleteProduct_eq id) isNone_product? ?_
      (Selection.closed_withoutProducts [id] s) h.spares_withoutProducts h.spares_product,
    h.deletes (Records.deletePrice_eq id) isNone_price? ?_
      (Selection.closed_withoutPrices [id] s) h.spares_withoutPrices h.spares_price,
    h.deletes (Records.deleteSubscription_eq id) isNone_subscription? ?_
      (Selection.closed_withoutSubscriptions [id] s) h.spares_withoutSubscriptions
      h.spares_subscription⟩
  · rw [run_deleteProduct, dropProducts_eq]
  · rw [run_deletePrice, dropPrices_eq]
  · rw [run_deleteSubscription, dropSubscriptions_eq]

/-- Two products with a price each, and a subscription of the same customer on each price. -/
def twoProducts : World Provider.Sandbox :=
  afterAll ⟨.empty, .fresh⟩
    [.insertOrganization ⟨"acme", "Acme", "Company", true, none, some "cus_1", 0⟩,
      .addSubscription "cus_1" "sub_1",
      .updatePrice (.row 3 1) { isActive := some false },
      .insertProduct "Pro" "For teams" none none,
      .insertPrice none "usd" (.row 2 2) 900 .month none,
      .addSubscription "cus_1" "sub_2"]

/-- Deleting the first product leaves the second one with all that hangs on it. There is no price with
the product's id, so deleting one changes nothing. -/
theorem deletes_cascade_of_twoProducts :
    (∃ s', (Records.deleteProduct (.row 2 1)).on twoProducts.store = (.ok (), s') ∧
      s'.products.rows.map (·.id) = [.row 2 2] ∧ s'.prices.rows.map (·.id) = [.row 3 2] ∧
      s'.subscriptions.rows = [⟨.row 4 2, "cus_1", "sub_2", .row 3 2, .active⟩] ∧
      s'.links.rows = [⟨.row 5 2, .row 1 1, .row 4 2⟩] ∧
      s'.items.rows = [⟨.row 6 2, none, .row 4 2, .row 3 2, 1⟩]) ∧
    (Records.deletePrice (.row 2 1)).on twoProducts.store =
      (.error (.notFound (.priceRow (.row 2 1))), twoProducts.store) := by
  have reachable : Reachable twoProducts := (Reachable.empty _).afterAll _
  have schema : Schema twoProducts.store := Schema.empty.evolves .empty reachable.evolves
  obtain ⟨product, price, -⟩ := deletes_cascade schema (.row 2 1)
  have has : twoProducts.store.Has (.product (.row 2 1)) := by
    have ids : twoProducts.store.products.rows.map (·.id) = [.row 2 1, .row 2 2] := by
      decide +kernel
    exact List.mem_map.1 (ids ▸ List.mem_cons_self)
  have none : ¬ twoProducts.store.Has (.price (.row 2 1)) := by
    have ids : twoProducts.store.prices.rows.map (·.id) = [.row 3 1, .row 3 2] := by decide +kernel
    intro has
    have mem : Uuid.row 2 1 ∈ twoProducts.store.prices.rows.map (·.id) := List.mem_map.2 has
    rw [ids] at mem
    revert mem
    decide
  exact ⟨⟨_, product.known has, by decide +kernel, by decide +kernel, by decide +kernel,
    by decide +kernel, by decide +kernel⟩, price.unknown none⟩

end OrgBilling
