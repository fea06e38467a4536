import OrgBilling.Proofs.Server

/-!
# The operations of the application

`Operation` lists what the application can be asked to do, requests to its server among it, and
`Operation.after` is the world that an operation leaves, whether it succeeds or fails. A world is
reachable if a row of operations leads to it from an empty database (`Reachable`).

An operation can hand an event to the webhook handler (`Operation.delivery?`). If it does, the
database becomes what handling the event makes of it (`Operation.store_after`). Otherwise the
operation takes the database through a row of transactions (`Operation.steps_after`), each of which
is one of a few kinds that depend on the operation (`Operation.Step`), and leaves the ledger alone
(`Operation.changes_after`). Either way the database evolves (`Operation.evolves`).
-/

namespace OrgBilling

open Store Transaction Webhook Relation

/-- What the application can be asked to do. -/
inductive Operation (σ : Type)
  /-- Put an organization in. -/
  | insertOrganization (n : NewOrganization)
  /-- Record a subscription of a customer. -/
  | addSubscription (customer subscription : String)
  /-- Set the status of a subscription. -/
  | setStatus (id : Uuid) (status : SubscriptionStatus)
  /-- Remove a subscription. -/
  | deleteSubscription (id : Uuid)
  /-- Remove a customer. -/
  | deleteCustomer (customer : String)
  /-- Let an organization hold a customer. -/
  | setOrganizationCustomer (id : Uuid) (customer : String)
  /-- Find or make the customer of an organization, of which a row is given that may be old. -/
  | organizationCustomer (o : Organization)
  /-- Put a product in. -/
  | insertProduct (name description : String) (productId taxCode : Option String)
  /-- Update a product. -/
  | updateProduct (id : Uuid) (changes : ProductChanges)
  /-- Remove a product. -/
  | deleteProduct (id : Uuid)
  /-- Put a price in. -/
  | insertPrice (priceId : Option String) (currency : String) (product : Uuid) (unitAmount : Int)
      (recurring : Interval) (taxBehavior : Option String)
  /-- Update a price. -/
  | updatePrice (id : Uuid) (changes : PriceChanges)
  /-- Remove a price. -/
  | deletePrice (id : Uuid)
  /-- Find or make the default price. -/
  | getOrCreateDefaultPrice
  /-- Find or make the default price, and push it. -/
  | defaultPrice
  /-- Push the catalog. -/
  | sync {c : Collation} (order : c.Arrangement CatalogProduct.name) (force : Bool)
  /-- Ask the database. -/
  | ask (q : Query)
  /-- What happens at the provider without the application. -/
  | provide (c : Call σ Unit)
  /-- Handle an event. -/
  | handle (now : Int) (e : Event)
  /-- Answer a request. -/
  | request (app : Server.App) (o : Server.Occasion) (r : Server.HttpRequest)

namespace Operation

variable {σ : Type}

/-! ### Transactions -/

/-- What a transaction of an operation does to the store, if the operation hands on no event. -/
inductive Step : Operation σ → Store → Store → Prop
  /-- What the services do. -/
  | service {op : Operation σ} {s s' : Store} (h : ServiceStep s s') : Step op s s'
  /-- An organization is put in. -/
  | insertOrganization {n : NewOrganization} {id : Uuid} {s s' : Store}
      (h : Commits (Store.insertOrganization n) s id s') : Step (insertOrganization n) s s'
  /-- The holder of a customer gets a subscription. -/
  | addSubscription {customer subscription : String} {price : Uuid} {sub : Subscription}
      {s s' : Store} (h : Commits (insertLinkedSubscription customer subscription price) s sub s') :
      Step (addSubscription customer subscription) s s'
  /-- A subscription has another status. -/
  | setStatus {id : Uuid} {status : SubscriptionStatus} {s s' : Store}
      (h : Commits (Store.setStatus id status) s () s') : Step (setStatus id status) s s'
  /-- A subscription is removed. -/
  | deleteSubscription {id : Uuid} {s s' : Store}
      (h : Commits (Store.deleteSubscription id) s () s') : Step (deleteSubscription id) s s'
  /-- A customer is removed. -/
  | deleteCustomer {customer : String} {n : Nat} {s s' : Store}
      (h : Commits (Store.deleteCustomer customer) s n s') : Step (deleteCustomer customer) s s'
  /-- A product is put in. -/
  | insertProduct {name description : String} {productId taxCode : Option String}
      {p : CatalogProduct} {s s' : Store}
      (h : Commits (Store.insertProduct name description productId taxCode) s p s') :
      Step (insertProduct name description productId taxCode) s s'
  /-- A product is updated. -/
  | updateProduct {id : Uuid} {changes : ProductChanges} {p : CatalogProduct} {s s' : Store}
      (h : Commits (Store.updateProduct id changes) s p s') : Step (updateProduct id changes) s s'
  /-- A product is removed. -/
  | deleteProduct {id : Uuid} {s s' : Store} (h : Commits (Store.deleteProduct id) s () s') :
      Step (deleteProduct id) s s'
  /-- A price is put in. -/
  | insertPrice {priceId : Option String} {currency : String} {product : Uuid} {unitAmount : Int}
      {recurring : Interval} {taxBehavior : Option String} {p : CatalogPrice} {s s' : Store}
      (h : Commits (Store.insertPrice priceId currency product unitAmount recurring taxBehavior)
        s p s') :
      Step (insertPrice priceId currency product unitAmount recurring taxBehavior) s s'
  /-- A price is updated. -/
  | updatePrice {id : Uuid} {changes : PriceChanges} {p : CatalogPrice} {s s' : Store}
      (h : Commits (Store.updatePrice id changes) s p s') : Step (updatePrice id changes) s s'
  /-- A price is removed. -/
  | deletePrice {id : Uuid} {s s' : Store} (h : Commits (Store.deletePrice id) s () s') :
      Step (deletePrice id) s s'

/-- What the transactions of an operation do to the store, one after another. -/
abbrev Steps (op : Operation σ) : Store → Store → Prop := ReflTransGen op.Step

theorem Step.changes {op : Operation σ} {s s' : Store} (h : op.Step s s') : Changes s s' := by
  cases h with
  | service h => exact h.changes
  | insertOrganization h => exact changes_insertOrganization h
  | addSubscription h => exact changes_insertLinkedSubscription h
  | setStatus h => exact changes_setStatus h
  | deleteSubscription h => exact changes_deleteSubscription h
  | deleteCustomer h => exact changes_deleteCustomer h
  | insertProduct h => exact changes_insertProduct h
  | updateProduct h => exact changes_updateProduct h
  | deleteProduct h => exact changes_deleteProduct h
  | insertPrice h => exact changes_insertPrice h
  | updatePrice h => exact changes_updatePrice h
  | deletePrice h => exact changes_deletePrice h

/-- The services take steps of any operation. -/
theorem steps_of_service {op : Operation σ} {s s' : Store} (h : ServiceSteps s s') : op.Steps s s' :=
  ReflTransGen.mono (fun _ _ => .service) _ _ h

theorem moves_addSubscription (customer subscription : String) :
    Moves (Steps (addSubscription customer subscription : Operation σ))
      (OrgBilling.addSubscription customer subscription) := by
  rw [addSubscription_eq]
  exact .bind (moves_commit fun _ _ _ h => .single (.service (.defaultPrice h))) fun _ =>
    moves_commit fun _ _ _ h => .single (.addSubscription h)

/-- An operation on the records takes the step that it comes to. -/
theorem moves_record {α : Type} {op : Operation σ} {c : Call Store α} {t : Transaction α}
    (hc : c = commit t) (h : ∀ s a s', Commits t s a s' → op.Steps s s') :
    Moves (OnStore op.Steps) (Billing.onStore c : Billing σ α) :=
  moves_onStore (moves_of_eq_commit hc h)

/-! ### What operations do -/

variable [PaymentProvider σ]

/-- The world after an operation. -/
def after (w : World σ) : Operation σ → World σ
  | insertOrganization n => ((Billing.transact (Store.insertOrganization n)).on w).2
  | addSubscription customer subscription =>
    ((Billing.onStore (OrgBilling.addSubscription customer subscription)).on w).2
  | setStatus id status => ((Billing.onStore (Records.setStatus id status)).on w).2
  | deleteSubscription id => ((Billing.onStore (Records.deleteSubscription id)).on w).2
  | deleteCustomer customer => ((Billing.onStore (Records.deleteCustomer customer)).on w).2
  | setOrganizationCustomer id customer =>
    ((Billing.onStore (Records.attachCustomer id customer)).on w).2
  | organizationCustomer o => ((Checkout.organizationCustomer o).on w).2
  | insertProduct name description productId taxCode =>
    ((Billing.transact (Store.insertProduct name description productId taxCode)).on w).2
  | updateProduct id changes => ((Billing.onStore (Records.updateProduct id changes)).on w).2
  | deleteProduct id => ((Billing.onStore (Records.deleteProduct id)).on w).2
  | insertPrice priceId currency product unitAmount recurring taxBehavior =>
    ((Billing.transact
      (Store.insertPrice priceId currency product unitAmount recurring taxBehavior)).on w).2
  | updatePrice id changes => ((Billing.onStore (Records.updatePrice id changes)).on w).2
  | deletePrice id => ((Billing.onStore (Records.deletePrice id)).on w).2
  | getOrCreateDefaultPrice => ((Billing.onStore Records.getOrCreateDefaultPrice).on w).2
  | defaultPrice => (Checkout.defaultPrice.on w).2
  | sync order force => ((CatalogSync.run order force).on w).2
  | ask q => ((Billing.transact q.ask).on w).2
  | provide c => ((Billing.onProvider c).on w).2
  | handle now e => ((Billing.onStore (Webhook.handle now e)).on w).2
  | request app o r => ((Server.answer app o r).run w).2

/-- The event that an operation hands to the webhook handler, and when. -/
def delivery? (w : World σ) : Operation σ → Option (Int × Event)
  | handle now e => some (now, e)
  | request app o r => (Server.delivery? app o r w).map fun e => (o.now, e)
  | _ => none

/-- How handling the event ends that an operation hands on. -/
def outcome? (w : World σ) (op : Operation σ) :
    Option (Event × Except BillingError HandlingResult) :=
  (op.delivery? w).map fun (now, e) => (e, ((Webhook.handle now e).on w.store).1)

theorem store_after {w : World σ} {op : Operation σ} {now : Int} {e : Event}
    (h : op.delivery? w = some (now, e)) :
    (op.after w).store = ((Webhook.handle now e).on w.store).2 := by
  cases op with
  | handle now' e' => cases h; rfl
  | request app o r =>
    obtain ⟨e', he, heq⟩ := Option.map_eq_some_iff.1 h
    cases heq
    have := Server.delivers_answer app o r w
    rwa [he] at this
  | _ => cases h

theorem steps_after {w : World σ} {op : Operation σ} (h : op.delivery? w = none) :
    op.Steps w.store (op.after w).store := by
  cases op with
  | insertOrganization n => exact moves_transact (fun _ _ _ h => .single (.insertOrganization h)) w
  | addSubscription customer subscription => exact moves_onStore (moves_addSubscription _ _) w
  | setStatus id status =>
    exact moves_record (Records.setStatus_eq id status) (fun _ _ _ h => .single (.setStatus h)) w
  | deleteSubscription id =>
    exact moves_record (Records.deleteSubscription_eq id)
      (fun _ _ _ h => .single (.deleteSubscription h)) w
  | deleteCustomer customer =>
    exact moves_record (Records.deleteCustomer_eq customer)
      (fun _ _ _ h => .single (.deleteCustomer h)) w
  | setOrganizationCustomer id customer =>
    exact moves_record (Records.attachCustomer_eq id customer)
      (fun _ _ _ h => .single (.service (.holdCustomer h))) w
  | organizationCustomer o => exact steps_of_service (moves_organizationCustomer o w)
  | insertProduct name description productId taxCode =>
    exact moves_transact (fun _ _ _ h => .single (.insertProduct h)) w
  | updateProduct id changes =>
    exact moves_record (Records.updateProduct_eq id changes)
      (fun _ _ _ h => .single (.updateProduct h)) w
  | deleteProduct id =>
    exact moves_record (Records.deleteProduct_eq id) (fun _ _ _ h => .single (.deleteProduct h)) w
  | insertPrice priceId currency product unitAmount recurring taxBehavior =>
    exact moves_transact (fun _ _ _ h => .single (.insertPrice h)) w
  | updatePrice id changes =>
    exact moves_record (Records.updatePrice_eq id changes)
      (fun _ _ _ h => .single (.updatePrice h)) w
  | deletePrice id =>
    exact moves_record (Records.deletePrice_eq id) (fun _ _ _ h => .single (.deletePrice h)) w
  | getOrCreateDefaultPrice =>
    exact moves_record Records.getOrCreateDefaultPrice_eq
      (fun _ _ _ h => .single (.service (.defaultPrice h))) w
  | defaultPrice => exact steps_of_service (moves_defaultPrice w)
  | sync order force => exact steps_of_service (CatalogSync.moves_run order force w)
  | ask q => exact moves_read q.reads w
  | provide c => exact .refl
  | handle now e => cases h
  | request app o r =>
    have := Server.delivers_answer app o r w
    rw [Option.map_eq_none_iff.1 h] at this
    exact steps_of_service this

/-- What its steps, the processing of events and writes to the ledger keep, an operation keeps. -/
theorem keeps_after {P : Store → Prop} {op : Operation σ}
    (step : ∀ s s', op.Step s s' → P s → P s')
    (process : ∀ e s r s', (Webhook.process e).on s = (r, s') → P s → P s')
    (ledger : ∀ s deliveries, P s → P { s with deliveries }) {w : World σ} (h : P w.store) :
    P (op.after w).store := by
  cases hd : op.delivery? w with
  | none => exact keeps_of_steps step (op.steps_after hd) h
  | some d =>
    rw [store_after hd]
    exact (handling_on d.1 d.2 w.store).keeps_of_process process ledger h

theorem changes_after {w : World σ} {op : Operation σ} (h : op.delivery? w = none) :
    Changes w.store (op.after w).store :=
  keeps_of_steps (P := Changes w.store) (fun _ _ h ih => ih.trans h.changes) (steps_after h) .refl

/-- An operation lets the database evolve. -/
theorem evolves (w : World σ) (op : Operation σ) : Evolves w.store (op.after w).store := by
  cases h : op.delivery? w with
  | none => exact (changes_after h).evolves
  | some d => rw [store_after h]; exact moves_handle d.1 d.2 w.store

end Operation

/-! ### Runs -/

section Run

variable {σ : Type} [PaymentProvider σ]

/-- The world after a row of operations. -/
def afterAll (w : World σ) (ops : List (Operation σ)) : World σ :=
  ops.foldl (fun w op => op.after w) w

theorem afterAll_append (w : World σ) (ops₁ ops₂ : List (Operation σ)) :
    afterAll w (ops₁ ++ ops₂) = afterAll (afterAll w ops₁) ops₂ :=
  List.foldl_append

/-- What each operation of a row keeps, the row keeps. -/
theorem keeps_afterAll {P : Store → Prop} {ops : List (Operation σ)}
    (step : ∀ op ∈ ops, ∀ w : World σ, P w.store → P (op.after w).store) {w : World σ}
    (h : P w.store) : P (afterAll w ops).store := by
  induction ops generalizing w with
  | nil => exact h
  | cons op ops ih =>
    obtain ⟨first, rest⟩ := List.forall_mem_cons.1 step
    exact ih rest (first w h)

/-- How handling the events ended that a row of operations handed on, in their order. -/
def outcomes (w : World σ) : List (Operation σ) → List (Event × Except BillingError HandlingResult)
  | [] => []
  | op :: ops => (op.outcome? w).toList ++ outcomes (op.after w) ops

/-- Operations lead to the world from an empty database. -/
inductive Reachable : World σ → Prop
  /-- The database is empty. -/
  | empty (p : σ) : Reachable ⟨.empty, p⟩
  /-- One operation more. -/
  | after {w : World σ} (h : Reachable w) (op : Operation σ) : Reachable (op.after w)

theorem Reachable.afterAll {w : World σ} (h : Reachable w) (ops : List (Operation σ)) :
    Reachable (afterAll w ops) := by
  induction ops generalizing w with
  | nil => exact h
  | cons op ops ih => exact ih (h.after op)

theorem evolves_afterAll (w : World σ) (ops : List (Operation σ)) :
    Evolves w.store (afterAll w ops).store :=
  keeps_afterAll (P := Evolves w.store) (fun op _ w' h => h.trans (op.evolves w')) .refl

theorem Reachable.evolves {w : World σ} (h : Reachable w) : Evolves .empty w.store := by
  induction h with
  | empty p => exact .refl
  | after h op ih => exact ih.trans (op.evolves _)

end Run

end OrgBilling
