import OrgBilling.Proofs.Operation
import OrgBilling.Proofs.Store.Schema

/-!
# The database stays sound

Whatever the application is asked to do, and whether it succeeds or fails, the database keeps the
constraints of its tables (`integrity_afterAll`).

An operation that fails leaves the database as it was: it is `Atomic`. Where it takes several
statements, the ones before the failure have done something, which is undone because nothing is
committed before the last of them has succeeded: the operation comes to one piece
(`Records.deleteSubscription_eq` and its kind), and one piece is atomic (`atomic_of_eq_commit`). Of a
computation of several parts only the last part that can fail may have written something
(`Quiet.bind_atomic`). Recording a subscription takes two transactions, and the first may have made
the default price when the second one fails (`failure_unchanged`).
-/

namespace OrgBilling

open Store Transaction

variable {σ α β : Type}

/-! ### Constraints -/

/-- Whatever is done with a database that was empty at first,

* the rows of a table have different ids, and the events of the ledger are different;
* no two organizations hold the same customer, no customer has a subscription twice, and no
  organization is linked to a subscription twice;
* prices lead to products, subscriptions to prices and to holders of their customers, links to
  organizations and subscriptions, items to subscriptions and prices;
* no amount and no quantity is negative. -/
theorem integrity_afterAll [PaymentProvider σ] (p : σ) (ops : List (Operation σ)) :
    let s := (afterAll ⟨Store.empty, p⟩ ops).store
    ((s.organizations.rows.map (·.id)).Nodup ∧ (s.products.rows.map (·.id)).Nodup ∧
      (s.prices.rows.map (·.id)).Nodup ∧ (s.subscriptions.rows.map (·.id)).Nodup ∧
      (s.links.rows.map (·.id)).Nodup ∧ (s.items.rows.map (·.id)).Nodup ∧
      (s.deliveries.map (·.id)).Nodup ∧ (s.deliveries.map (·.eventId)).Nodup) ∧
    ((s.organizations.rows.filterMap (·.customerId)).Nodup ∧
      (s.subscriptions.rows.map fun x => (x.customerId, x.subscriptionId)).Nodup ∧
      (s.links.rows.map fun l => (l.organization, l.subscription)).Nodup) ∧
    ((∀ p ∈ s.prices.rows, ∃ q ∈ s.products.rows, q.id = p.product) ∧
      (∀ x ∈ s.subscriptions.rows, ∃ p ∈ s.prices.rows, p.id = x.price) ∧
      (∀ x ∈ s.subscriptions.rows, ∃ o ∈ s.organizations.rows, o.customerId = some x.customerId) ∧
      (∀ l ∈ s.links.rows, ∃ o ∈ s.organizations.rows, o.id = l.organization) ∧
      (∀ l ∈ s.links.rows, ∃ x ∈ s.subscriptions.rows, x.id = l.subscription) ∧
      (∀ i ∈ s.items.rows, ∃ x ∈ s.subscriptions.rows, x.id = i.subscription) ∧
      ∀ i ∈ s.items.rows, ∃ p ∈ s.prices.rows, p.id = i.price) ∧
    (∀ p ∈ s.prices.rows, 0 ≤ p.unitAmount) ∧ ∀ i ∈ s.items.rows, 0 ≤ i.quantity := by
  have h : Schema (afterAll ⟨Store.empty, p⟩ ops).store :=
    Schema.empty.evolves .empty (evolves_afterAll ⟨Store.empty, p⟩ ops)
  exact ⟨⟨h.organizations, h.products, h.prices, h.subscriptions,
    h.links, h.items, h.deliveries, h.eventKey⟩, ⟨h.customers_nodup, h.subscriptionKey, h.linkKey⟩,
    ⟨h.priceProduct, h.subscriptionPrice, h.subscriptionCustomer, h.linkOrganization,
      h.linkSubscription, h.itemSubscription, h.itemPrice⟩, h.amount, h.quantity⟩

/-! ### Failures -/

/-- Where the computation fails, `R` leads from the database that it found to the one it leaves. -/
def FailsInto (R : Store → Store → Prop) (c : Billing σ α) : Prop :=
  ∀ w e w', c.on w = (.error e, w') → R w.store w'.store

/-- Where the computation fails, the database is as before. -/
abbrev Atomic (c : Billing σ α) : Prop :=
  FailsInto (fun s s' => s' = s) c

/-- The computation leaves the database as it is, whether it fails or not. -/
def Quiet (c : Billing σ α) : Prop :=
  ∀ w, (c.on w).2.store = w.store

theorem FailsInto.onStore {R : Store → Store → Prop} {c : Call Store α}
    (h : ∀ s e s', c.on s = (.error e, s') → R s s') :
    FailsInto R (Billing.onStore c : Billing σ α) := by
  intro w e w' hc
  obtain ⟨he, rfl⟩ := Prod.mk.inj hc
  exact h w.store e _ (Prod.ext he rfl)

theorem atomic_transact (t : Transaction α) : Atomic (Billing.transact t : Billing σ α) :=
  .onStore fun _ _ _ => commit_on_error

theorem atomic_of_eq_commit {c : Call Store α} {t : Transaction α} (hc : c = commit t) :
    Atomic (Billing.onStore c : Billing σ α) :=
  .onStore fun _ _ _ => unchanged_of_eq_commit hc

theorem atomic_pure (a : α) : Atomic (pure a : Billing σ α) :=
  fun _ _ _ h => by cases h

theorem quiet_onProvider (c : Call σ α) : Quiet (Billing.onProvider c : Billing σ α) :=
  fun _ => rfl

theorem quiet_read {t : Transaction α} (h : Reads t) :
    Quiet (Billing.transact t : Billing σ α) := by
  intro w
  show ((commit t).on w.store).2 = w.store
  rcases commit_cases t w.store with ⟨a, s', hc, hs'⟩ | ⟨e, -, hs⟩
  · rw [hs']
    exact h _ _ _ hc
  · rw [hs]

/-- The first part writes nothing to the database. -/
theorem Quiet.bind_atomic {c : Billing σ α} {f : α → Billing σ β} (hc : Quiet c)
    (hf : ∀ a, Atomic (f a)) : Atomic (c >>= f) := by
  intro w e w' h
  have hw := hc w
  rcases Call.on_bind_error h with h | ⟨a, u, hu, h⟩
  · rwa [h] at hw
  · rw [hu] at hw
    exact (hf a u e w' h).trans hw

/-- Nothing can fail after the first part. -/
theorem Atomic.bind_pure {c : Billing σ α} (hc : Atomic c) (b : β) :
    Atomic (c >>= fun _ => (pure b : Billing σ β)) := by
  intro w e w' h
  rcases Call.on_bind_error h with h | ⟨_, u, -, h⟩
  · exact hc w e w' h
  · cases h

variable [PaymentProvider σ]

/-- The provider is asked while a transaction is open that has only read, and everything is written
after that. -/
theorem atomic_organizationCustomer (o : Organization) :
    Atomic (Checkout.organizationCustomer o : Billing σ String) := by
  rw [Checkout.organizationCustomer_eq]
  cases o.customerId with
  | some customer => exact atomic_pure customer
  | none =>
    refine (quiet_read (reads_lockOrganizationCustomer o.id)).bind_atomic fun held => ?_
    cases held with
    | some customer => exact atomic_pure customer
    | none =>
      exact (quiet_onProvider _).bind_atomic fun customer =>
        (atomic_transact (Store.setOrganizationCustomer o.id customer.id)).bind_pure customer.id

/-- Operations that fail leave no trace. Whatever database and provider they find,

* changes of the catalog, of subscriptions, of customers and of their holders that fail leave the
  database as it was, and so do finding or making the default price or an organization's customer;
* recording a subscription, when it fails, leaves the database as it was, unless there was no active
  price: then it may have made the default product and price. -/
theorem failure_unchanged :
    ((∀ name description productId taxCode,
        Atomic (σ := σ) (Billing.transact (insertProduct name description productId taxCode))) ∧
      (∀ id changes, Atomic (σ := σ) (Billing.onStore (Records.updateProduct id changes))) ∧
      (∀ id, Atomic (σ := σ) (Billing.onStore (Records.deleteProduct id))) ∧
      (∀ priceId currency product unitAmount recurring taxBehavior,
        Atomic (σ := σ) (Billing.transact
          (insertPrice priceId currency product unitAmount recurring taxBehavior))) ∧
      (∀ id changes, Atomic (σ := σ) (Billing.onStore (Records.updatePrice id changes))) ∧
      (∀ id, Atomic (σ := σ) (Billing.onStore (Records.deletePrice id))) ∧
      (∀ id status, Atomic (σ := σ) (Billing.onStore (Records.setStatus id status))) ∧
      (∀ id, Atomic (σ := σ) (Billing.onStore (Records.deleteSubscription id))) ∧
      (∀ customer, Atomic (σ := σ) (Billing.onStore (Records.deleteCustomer customer))) ∧
      (∀ id customer, Atomic (σ := σ) (Billing.onStore (Records.attachCustomer id customer))) ∧
      Atomic (σ := σ) (Billing.onStore Records.getOrCreateDefaultPrice) ∧
      ∀ o, Atomic (σ := σ) (Checkout.organizationCustomer o)) ∧
    ∀ customer subscription,
      FailsInto (σ := σ) (fun s s' => s' = s ∨ s.activePrices = [] ∧ s' = s.withDefaultPrice)
        (Billing.onStore (addSubscription customer subscription)) := by
  refine ⟨⟨fun _ _ _ _ => atomic_transact _,
    fun id changes => atomic_of_eq_commit (Records.updateProduct_eq id changes),
    fun id => atomic_of_eq_commit (Records.deleteProduct_eq id),
    fun _ _ _ _ _ _ => atomic_transact _,
    fun id changes => atomic_of_eq_commit (Records.updatePrice_eq id changes),
    fun id => atomic_of_eq_commit (Records.deletePrice_eq id),
    fun id status => atomic_of_eq_commit (Records.setStatus_eq id status),
    fun id => atomic_of_eq_commit (Records.deleteSubscription_eq id),
    fun customer => atomic_of_eq_commit (Records.deleteCustomer_eq customer),
    fun id customer => atomic_of_eq_commit (Records.attachCustomer_eq id customer),
    atomic_of_eq_commit Records.getOrCreateDefaultPrice_eq, atomic_organizationCustomer⟩,
    fun customer subscription => ?_⟩
  exact .onStore fun _ _ _ => addSubscription_error

/-- A link without its subscription is deleted before the subscription is missed, and is there again
afterwards. -/
example :
    let s : Store := { Store.empty with links := ⟨[⟨.row 5 1, .row 1 1, .row 4 1⟩], 1⟩ }
    (Records.deleteSubscription (.row 4 1)).on s =
      (.error (.notFound (.subscriptionRow (.row 4 1))), s) := rfl

/-- Nobody holds the customer, but the default price has been made. -/
example : (addSubscription "cus_1" "sub_1").on .empty =
    (.error (.notFound (.customerHolder "cus_1")), Store.empty.withDefaultPrice) := rfl

end OrgBilling
