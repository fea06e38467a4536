import OrgBilling.Proofs.NewSubscription
import OrgBilling.Proofs.Provider.Memory
import OrgBilling.Proofs.Store.Linked
import OrgBilling.Proofs.Webhook.Once

/-!
# Completing a checkout of the provider in memory

The provider in memory has no pages on which a checkout is completed. A route of the server does it
instead: it has the event of the completion handled, and after that it tells the provider whose the
new subscription is. So two things are written one after the other, and there are many ways in which
the first one can fail.

The second one is written only if the first one has been (`completeCheckout_cases`), and an event
that is new is not a duplicate, so if it is handled without an error, its subscription is in the
database (`Webhook.Handling.completed`). Hence database and provider agree on the new subscription
after every answer (`completion_keeps_step`).
-/

namespace OrgBilling

open Store Transaction
open Provider (Sandbox)

variable {s s' : Store} {c x : String}

/-! ### The database -/

/-- The database has one subscription that the provider knows by this id: it is active, is of the
customer, and is linked to the organization and to no other. -/
def Store.HasOnly (x c : String) (organization : Uuid) (s : Store) : Prop :=
  ∃ y, s.subscriptions.rows.filter (·.subscriptionId == x) = [y] ∧ y.status = .active ∧
    y.customerId = c ∧ ∃ l, s.linksTo y = [l] ∧ l.organization = organization

theorem Store.filter_subscriptionId_of_new (new : ∀ y ∈ s.subscriptions.rows, y.subscriptionId ≠ x) :
    s.subscriptions.rows.filter (·.subscriptionId == x) = [] := by
  simpa [List.filter_eq_nil_iff] using new

/-- A subscription that has been put in is the only one with its id if there was none, and it is
linked to the organization that holds its customer. -/
theorem Store.hasOnly_of_rows {organization id price : Uuid} {o : Organization} (hs : Schema s')
    (linked : Linked s') (ho : s'.organization? organization = some o) (hc : o.customerId = some c)
    (rows : s'.subscriptions.rows = s.subscriptions.rows ++ [⟨id, c, x, price, .active⟩])
    (new : ∀ y ∈ s.subscriptions.rows, y.subscriptionId ≠ x) : s'.HasOnly x c organization := by
  obtain ⟨mem, rfl⟩ := mem_of_organization? ho
  obtain ⟨l, hl, p, hp, hpl, hpc⟩ :=
    (linked ⟨id, c, x, price, .active⟩ (by simp [rows])).link
  obtain rfl := hs.customer p hp o mem c hpc hc
  refine ⟨_, ?_, rfl, rfl, l, hl, hpl.symm⟩
  rw [rows, List.filter_append, filter_subscriptionId_of_new new]
  simp

namespace Webhook

theorem ok_of_bind {α β : Type} {r : Except BillingError α} {f : α → Except BillingError β} {b : β}
    (h : (r >>= f) = .ok b) : ∃ a, r = .ok a ∧ f a = .ok b := by
  cases r with
  | error e => cases h
  | ok a => exact ⟨a, rfl, h⟩

/-- The event asks for nothing but the checkout that it tells of. -/
theorem eq_completeCheckout_of_ofEvent {o : Server.Occasion} {a : Action}
    (h : Action.ofEvent (Server.Handler.completionEvent o c) = .ok a) :
    a = .completeCheckout c o.subscriptionId := by
  have text {field value : String}
      (hvalue : (Server.Handler.completionEvent o c).object.get? field = some (.string value))
      {read : String} (hread : Action.requiredText (Server.Handler.completionEvent o c) field =
        .ok read) : read = value := by
    rw [Action.requiredText, hvalue, Option.bind_some] at hread
    dsimp only [Json.asString?] at hread
    split at hread <;> cases hread
    rfl
  have type : (Server.Handler.completionEvent o c).type = checkoutCompleted := rfl
  rw [Action.ofEvent, if_pos type] at h
  obtain ⟨status, hstatus, h⟩ := ok_of_bind h
  obtain rfl := text rfl hstatus
  obtain ⟨customer, hcustomer, h⟩ := ok_of_bind h
  obtain ⟨subscription, hsubscription, h⟩ := ok_of_bind h
  rw [text rfl hcustomer, text rfl hsubscription] at h
  cases h
  rfl

/-- A checkout of a new subscription is completed by recording it. -/
theorem apply_completeCheckout_ok (new : ∀ y ∈ s.subscriptions.rows, y.subscriptionId ≠ x)
    (h : (Action.completeCheckout c x).apply.on s = (.ok (), s')) :
    ∃ products prices price organization,
      s' = { s with products, prices }.subscribe c x price organization := by
  obtain ⟨found, u, hfound, h⟩ := Call.on_bind_ok h
  obtain ⟨-, rfl, ⟨-, rfl⟩ | ⟨y, hy, -⟩⟩ := commits_findSubscription.1 (commit_on_ok hfound)
  swap
  · rw [filter_subscriptionId_of_new new] at hy
    cases hy
  obtain ⟨sub, v, hsub, hv⟩ := Call.on_bind_ok h
  cases hv
  rw [addSubscription_eq] at hsub
  obtain ⟨p, v, hp, hinsert⟩ := Call.on_bind_ok hsub
  obtain ⟨products, prices, rfl⟩ := catalog_of_default (commit_on_ok hp)
  obtain ⟨-, -, o, -, -, -, -, -, -, rfl⟩ :=
    commits_insertLinkedSubscription.1 (commit_on_ok hinsert)
  exact ⟨products, prices, p.id, o.id, rfl⟩

/-- An event that has no row in the ledger is not a duplicate. -/
theorem Handling.isApplied_of_new {now : Int} {e : Event} {result : HandlingResult}
    (h : Handling now e s (.ok result) s') (new : Ledger.row? e.id s = none) :
    ∃ a, result = .applied a := by
  cases h with
  | duplicate claim =>
    obtain ⟨-, -, ⟨-, -, h, -⟩ | ⟨d, hd, -⟩⟩ := commits_claim.1 claim
    · cases h
    · rw [new] at hd
      cases hd
  | @applied a _ _ claim process => exact ⟨a, rfl⟩

/-- When a new event of a completed checkout has been handled, its subscription is recorded. -/
theorem Handling.completed {now : Int} {o : Server.Occasion} {result : HandlingResult}
    (h : Handling now (Server.Handler.completionEvent o c) s (.ok result) s')
    (event : Ledger.row? o.eventId s = none)
    (new : ∀ y ∈ s.subscriptions.rows, y.subscriptionId ≠ o.subscriptionId) :
    Succeeded o.eventId s' ∧ s'.organizations = s.organizations ∧
      ∃ id price, s'.subscriptions.rows =
        s.subscriptions.rows ++ [⟨id, c, o.subscriptionId, price, .active⟩] := by
  obtain ⟨a, rfl⟩ := h.isApplied_of_new event
  refine ⟨h.succeeded, ?_⟩
  cases h with
  | @applied _ s₁ _ claim process =>
    have tables := Ledger.tables_claim claim
    have new₁ : ∀ y ∈ s₁.subscriptions.rows, y.subscriptionId ≠ o.subscriptionId := by
      rw [tables]
      exact new
    obtain ⟨action, happly⟩ := process_ok process
    obtain rfl := eq_completeCheckout_of_ofEvent action
    obtain ⟨products, prices, price, organization, rfl⟩ := apply_completeCheckout_ok new₁ happly
    rw [tables]
    exact ⟨rfl, _, price, rfl⟩

/-- When an event has been handled with an error, the subscriptions are what they were. -/
theorem Handling.subscriptions_of_error {now : Int} {e : Event} {err : BillingError}
    (h : Handling now e s (.error err) s') : s'.subscriptions = s.subscriptions := by
  rcases h.tables rfl with h | ⟨-, h⟩ <;> rw [h]
  rfl

end Webhook

namespace Server

open Webhook

variable {w w' : World Sandbox} {o : Occasion} {id : Uuid} {org : Organization}

/-! ### The request -/

/-- How the completion of a checkout ends: the organization is there and holds a customer, the event
is handled without an error, and then the provider is told of the subscription; or there is an error,
and the provider is not told. -/
theorem completeCheckout_cases (o : Occasion) (id : Uuid) (w : World Sandbox) :
    (∃ org c result s, w.store.organization? id = some org ∧ org.customerId = some c ∧
      (handle o.now (Handler.completionEvent o c)).on w.store = (.ok result, s) ∧
      (Handler.completeCheckout o id).run.run w =
        (.ok (.object [("subscription_id", .string o.subscriptionId)]),
          ⟨s, w.provider.recordSubscription o.subscriptionId c⟩)) ∨
    ∃ e w', (Handler.completeCheckout o id).run.run w = (.error e, w') ∧
      w'.provider = w.provider ∧ w'.store.subscriptions = w.store.subscriptions := by
  have hrecord : PaymentProvider.recordSubscription? (σ := Sandbox) =
      some Sandbox.recordSubscription := rfl
  have horganization := run_organization (w := w) id
  rw [Handler.completeCheckout, hrecord]
  dsimp only
  cases ho : w.store.organization? id with
  | none =>
    rw [ho] at horganization
    exact .inr ⟨_, w, run_bind_error horganization, rfl, rfl⟩
  | some org =>
    rw [ho] at horganization
    rw [run_bind_ok horganization]
    have hcustomer := run_customerOf (w := w) org
    cases hc : org.customerId with
    | none =>
      rw [hc] at hcustomer
      exact .inr ⟨_, w, run_bind_error hcustomer, rfl, rfl⟩
    | some c =>
      rw [hc] at hcustomer
      rw [run_bind_ok hcustomer]
      cases hhandle : (handle o.now (Handler.completionEvent o c)).on w.store with | _ r s => ?_
      have hstore : (Billing.onStore (handle o.now (Handler.completionEvent o c))).on w =
          (r, (⟨s, w.provider⟩ : World Sandbox)) := by
        rw [Billing.on_onStore, hhandle]
      cases r with
      | ok result =>
        refine .inl ⟨org, c, result, s, rfl, hc, hhandle, ?_⟩
        rw [run_bind_ok (run_billing_ok.2 hstore)]
        rfl
      | error e =>
        exact .inr ⟨_, _, run_bind_error (run_billing_error hstore), rfl,
          (Handling.of_on hhandle).subscriptions_of_error⟩

/-- The request is to complete a checkout of the organization that a text names. -/
structure IsCompletion (r : HttpRequest) (part : List Char) : Prop where
  method : r.method = "POST"
  route : Route.ofPath? r.path = some (.completeCheckout part)

theorem run_answer_of_isCompletion {r : HttpRequest} {part : List Char} (hr : IsCompletion r part)
    (app : App) (o : Occasion) (w : World Sandbox) :
    (answer app o r).run w = (respondFor part (Handler.completeCheckout o)).run w := by
  have hallows : (Route.completeCheckout part).allows r.method = true := by
    simp [hr.method, Route.allows, Route.isRead]
  rw [run_answer hr.route hallows (by simp [hr.method]), follow]

/-- Database and provider stay in step. Let a request complete a checkout, on any database that
operations lead to and with a provider in memory in any state, with an id of the event that has no
row in the ledger and an id of the subscription that no subscription has. If the answer is one of
success, then the organization holds a customer, the database has one subscription with the id, which
is active, of this customer and linked to this organization only, the ledger says that the event has
been applied, and the provider finds the customer by the subscription. Otherwise the provider is as
it was, and there still is no subscription with the id. -/
theorem completion_keeps_step {σ : Type} [PaymentProvider σ] {u : World σ} (hu : Reachable u)
    {app : App} {o : Occasion} {r : HttpRequest} {part : List Char} (hr : IsCompletion r part)
    (event : Ledger.row? o.eventId u.store = none)
    (new : ∀ y ∈ u.store.subscriptions.rows, y.subscriptionId ≠ o.subscriptionId) (v : Sandbox)
    {response : HttpResponse} {w' : World Sandbox}
    (h : (answer app o r).run ⟨u.store, v⟩ = (response, w')) :
    (response.status = 200 →
      ∃ id org c found, Route.organizationId? part = some id ∧
        u.store.organization? id = some org ∧ w'.store.organization? id = some org ∧
        org.customerId = some c ∧ w'.store.HasOnly o.subscriptionId c id ∧
        Succeeded o.eventId w'.store ∧
        (Sandbox.getCustomer o.subscriptionId).on w'.provider = (.ok found, w'.provider) ∧
        found.id = c) ∧
    (response.status ≠ 200 →
      w'.provider = v ∧ ∀ y ∈ w'.store.subscriptions.rows, y.subscriptionId ≠ o.subscriptionId) := by
  rw [run_answer_of_isCompletion hr, respondFor] at h
  cases hid : Route.organizationId? part with
  | none =>
    rw [hid] at h
    cases h
    exact ⟨fun hok => absurd hok (by decide), fun _ => ⟨rfl, new⟩⟩
  | some id =>
    rw [hid] at h
    rcases completeCheckout_cases o id ⟨u.store, v⟩ with
      ⟨org, c, result, s, ho, hc, hhandle, hrun⟩ | ⟨e, w₁, hrun, hprovider, hsubscriptions⟩
    · rw [run_respond_ok hrun] at h
      cases h
      have handling := Handling.of_on hhandle
      obtain ⟨succeeded, organizations, y, price, rows⟩ := handling.completed event new
      have schema : Schema u.store := Schema.empty.evolves .empty hu.evolves
      have fresh : Fresh u.store := Fresh.empty.evolves hu.evolves
      have linked : Linked u.store := Linked.empty.evolves Schema.empty .empty hu.evolves
      have kept : s.organization? id = some org := by
        rw [organization?, organizations]
        exact ho
      obtain ⟨found, hfound, hfoundId⟩ :=
        Sandbox.getCustomer_recordSubscription o.subscriptionId c v
      have only : s.HasOnly o.subscriptionId c id :=
        hasOnly_of_rows (schema.evolves fresh handling.evolves)
          (linked.evolves schema fresh handling.evolves) kept hc rows new
      exact ⟨fun _ => ⟨id, org, c, found, rfl, ho, kept, hc, only, succeeded, hfound, hfoundId⟩,
        fun hne => absurd rfl hne⟩
    · rw [run_respond_error hrun] at h
      cases h
      refine ⟨fun hok => absurd hok e.status_ne, fun _ => ⟨hprovider, ?_⟩⟩
      rw [hsubscriptions]
      exact new

/-- The completion of a checkout of the organization that is alone in its database. -/
def acmeCompletion : StateM (World Sandbox) HttpResponse :=
  answer ⟨.mock, "secret", "http://localhost", .codePoints, Collation.codePoints.stable _⟩
    ⟨0, "evt_1", "sub_1"⟩
    ⟨"POST", "/mock/billing/00000001-0000-4000-8000-000000000001/checkout-session-completed", none,
      []⟩

theorem status_acmeCompletion : (acmeCompletion.run acmeAlone).1.status = 200 := by
  decide +kernel

/-- Afterwards the customer has the subscription in the database and at the provider. -/
theorem completion_keeps_step_of_acmeAlone :
    ∃ response w', acmeCompletion.run acmeAlone = (response, w') ∧
      w'.store.HasOnly "sub_1" "cus_1" (.row 1 1) ∧ Succeeded "evt_1" w'.store ∧
      ∃ found, (Sandbox.getCustomer "sub_1").on w'.provider = (.ok found, w'.provider) ∧
        found.id = "cus_1" := by
  have hr : IsCompletion
      ⟨"POST", "/mock/billing/00000001-0000-4000-8000-000000000001/checkout-session-completed",
        none, []⟩ "00000001-0000-4000-8000-000000000001".toList :=
    ⟨rfl, by decide⟩
  have event : Ledger.row? "evt_1" acmeAlone.store = none := by decide
  have new : ∀ y ∈ acmeAlone.store.subscriptions.rows, y.subscriptionId ≠ "sub_1" := by decide
  have hid : Route.organizationId? "00000001-0000-4000-8000-000000000001".toList =
      some (.row 1 1) := by decide
  have holds : (acmeAlone.store.organization? (.row 1 1)).map (·.customerId) =
      some (some "cus_1") := by
    decide
  have hok := status_acmeCompletion
  cases hrun : acmeCompletion.run acmeAlone with | _ response w' => ?_
  rw [hrun] at hok
  obtain ⟨step, -⟩ :=
    completion_keeps_step reachable_acmeAlone (o := ⟨0, "evt_1", "sub_1"⟩) hr event new _ hrun
  obtain ⟨id, org, c, found, hid', horg, -, hc, only, succeeded, hfound, rfl⟩ := step hok
  obtain rfl : .row 1 1 = id := Option.some.inj (hid.symm.trans hid')
  have hcustomer : found.id = "cus_1" := by simpa [horg, hc] using holds
  rw [hcustomer] at only
  exact ⟨response, w', rfl, only, succeeded, found, hfound, hcustomer⟩

end Server

end OrgBilling
