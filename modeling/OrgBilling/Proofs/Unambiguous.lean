import OrgBilling.Proofs.Keys
import OrgBilling.Proofs.Operation
import OrgBilling.Proofs.Store.Schema
import OrgBilling.Proofs.Webhook.Failures
import OrgBilling.Provider.Sandbox

/-!
# Subscriptions that the provider names are unambiguous

The tables let two customers have a subscription of one provider id. The handler of events does not
make use of that: it looks the id up first, and only an id that nobody has gets a row. So as long as
nothing else records subscriptions (`Operation.recordsSubscription`), no two rows have the same
provider id, however customers are moved, replaced or removed (`Unambiguous.after`), and looking an
id up never meets two rows (`unambiguous_afterAll`).

That a row is new shows only from what the handler has looked up before it, so the argument goes by
what processing an event does as a whole (`Unambiguous.process`), not by its single transactions.
-/

namespace OrgBilling

open Store Transaction

variable {s s' : Store}

namespace Store

/-- Looking an id up finds nothing if nobody has it. -/
theorem findSubscription_eq_none {text : String} :
    (commit (findSubscription text)).on s = (.ok none, s) ↔
      isStorable text = true ∧ ∀ x ∈ s.subscriptions.rows, x.subscriptionId ≠ text := by
  constructor
  · intro hon
    obtain ⟨hstorable, -, ⟨hnone, -⟩ | ⟨_, -, hsome⟩⟩ :=
      commits_findSubscription.1 (commit_on_ok hon)
    · exact ⟨hstorable, fun x hx => by simpa using List.filter_eq_nil_iff.1 hnone x hx⟩
    · cases hsome
  · rintro ⟨hstorable, hnone⟩
    refine commit_ok (commits_findSubscription.2 ⟨hstorable, rfl, .inl ⟨?_, rfl⟩⟩)
    exact List.filter_eq_nil_iff.2 fun x hx => by simpa using hnone x hx

/-- No two subscriptions have the same provider id, and every provider id can be looked up. -/
structure Unambiguous (s : Store) : Prop where
  distinct : (s.subscriptions.rows.map (·.subscriptionId)).Nodup
  storable : ∀ x ∈ s.subscriptions.rows, isStorable x.subscriptionId = true

namespace Unambiguous

theorem empty : Unambiguous .empty where
  distinct := List.nodup_nil
  storable := by simp [Store.empty]

/-- Other tables do not matter. -/
theorem congr (h : Unambiguous s) (hsubs : s'.subscriptions = s.subscriptions) : Unambiguous s' where
  distinct := by
    rw [hsubs]
    exact h.distinct
  storable := by
    rw [hsubs]
    exact h.storable

theorem map (h : Unambiguous s) {f : Subscription → Subscription}
    (hf : ∀ x, (f x).subscriptionId = x.subscriptionId)
    (hsubs : s'.subscriptions = s.subscriptions.map f) : Unambiguous s' where
  distinct := by
    rw [hsubs, Table.rows_map, map_map_eq hf]
    exact h.distinct
  storable := by
    rw [hsubs, Table.rows_map, List.forall_mem_map]
    exact fun x hx => (hf x).symm ▸ h.storable x hx

theorem filter (h : Unambiguous s) {keep : Subscription → Bool}
    (hsubs : s'.subscriptions = s.subscriptions.filter keep) : Unambiguous s' where
  distinct := by
    rw [hsubs]
    exact nodup_map_filter keep h.distinct
  storable x hx := by
    rw [hsubs] at hx
    exact h.storable x (List.mem_of_mem_filter hx)

/-- A new subscription that nobody has is told apart from the others. -/
theorem subscribe (h : Unambiguous s) {customer subscription : String} {price : Uuid}
    {sub : Subscription} (fresh : ∀ x ∈ s.subscriptions.rows, x.subscriptionId ≠ subscription)
    (hc : Commits (insertLinkedSubscription customer subscription price) s sub s') :
    Unambiguous s' := by
  obtain ⟨-, hstorable, _, -, -, -, -, -, -, rfl⟩ := commits_insertLinkedSubscription.1 hc
  exact ⟨nodup_map_concat h.distinct fresh, forall_mem_insert h.storable hstorable⟩

/-! ### Looking an id up -/

/-- Looking an id up finds the row that has it. -/
theorem findSubscription_some (h : Unambiguous s) {text : String} {id : Uuid} :
    (commit (findSubscription text)).on s = (.ok (some id), s) ↔
      ∃ x ∈ s.subscriptions.rows, x.subscriptionId = text ∧ x.id = id := by
  constructor
  · intro hon
    obtain ⟨-, -, ⟨-, hnone⟩ | ⟨x, hrows, hid⟩⟩ := commits_findSubscription.1 (commit_on_ok hon)
    · cases hnone
    · obtain ⟨hx, htext⟩ := List.mem_filter.1 (hrows ▸ List.mem_singleton_self x)
      exact ⟨x, hx, by simpa using htext, (Option.some.inj hid).symm⟩
  · rintro ⟨x, hx, rfl, rfl⟩
    have single := filter_eq_of_nodup h.distinct (find?_of_nodup h.distinct hx)
    exact commit_ok (commits_findSubscription.2 ⟨h.storable x hx, rfl, .inr ⟨x, single, rfl⟩⟩)

/-- Looking an id up does not meet several rows. -/
theorem findSubscription_ne_ambiguous (h : Unambiguous s) (text : String) (s' : Store) :
    (commit (findSubscription text)).on s ≠
      (.error (.invalidInput (.ambiguousSubscription text)), s') := by
  intro hon
  rcases findSubscription_error (run_of_commit_error hon) with ⟨_, hcause⟩ | ⟨-, several⟩
  · cases hcause
  · unfold IsAmbiguous at several
    cases hx : s.subscriptions.rows.find? (·.subscriptionId == text) with
    | none => simp [List.filter_eq_nil_iff.2 (List.find?_eq_none.1 hx)] at several
    | some x => simp [filter_eq_of_nodup h.distinct hx] at several

/-! ### Steps -/

theorem defaultPrice (h : Unambiguous s) {p : CatalogPrice}
    (hc : Commits getOrCreateDefaultPrice s p s') : Unambiguous s' := by
  obtain ⟨_, _, rfl⟩ := catalog_of_default hc
  exact h.congr rfl

theorem setStatus (h : Unambiguous s) {id : Uuid} {status : SubscriptionStatus}
    (hc : Commits (Store.setStatus id status) s () s') : Unambiguous s' := by
  obtain ⟨-, rfl⟩ := commits_setStatus.1 hc
  exact h.map (fun x => by split <;> rfl) rfl

theorem deleteCustomer (h : Unambiguous s) {customer : String} {n : Nat}
    (hc : Commits (Store.deleteCustomer customer) s n s') : Unambiguous s' := by
  obtain ⟨-, -, rfl⟩ := commits_deleteCustomer.1 hc
  exact h.filter rfl

theorem serviceStep (h : Unambiguous s) (hstep : ServiceStep s s') : Unambiguous s' := by
  cases hstep with
  | defaultPrice hc => exact h.defaultPrice hc
  | holdCustomer hc =>
    obtain ⟨-, _, -, -, -, -, -, rfl⟩ := commits_setOrganizationCustomer.1 hc
    exact h.map (renameRow_subscriptionId _ _) rfl
  | noteProduct hc =>
    obtain ⟨_, -, -, -, rfl⟩ := commits_updateProduct.1 hc
    exact h.congr rfl
  | notePrice hc =>
    obtain ⟨_, -, -, -, rfl⟩ := commits_updatePrice.1 hc
    exact h.congr rfl

end Unambiguous

end Store

/-! ### Events -/

namespace Store.Unambiguous

open Webhook

theorem setStatusIfKnown (h : Unambiguous s) {subscription : String} {status : SubscriptionStatus}
    (hon : (Webhook.setStatusIfKnown subscription status).on s = (.ok (), s')) : Unambiguous s' := by
  obtain ⟨found, u, hfound, hset⟩ := Call.on_bind_ok hon
  obtain rfl := findSubscription_on_ok hfound
  cases found with
  | some id => exact h.setStatus (commits_of_eq_commit (Records.setStatus_eq id status) hset)
  | none =>
    cases hset
    exact h

/-- A completed checkout that adds a row has found that there is none. -/
theorem completeCheckout (h : Unambiguous s) {customer subscription : String}
    (hon : (Action.apply (.completeCheckout customer subscription)).on s = (.ok (), s')) :
    Unambiguous s' := by
  obtain ⟨found, u, hfound, hrest⟩ := Call.on_bind_ok hon
  obtain rfl := findSubscription_on_ok hfound
  cases found with
  | some id => exact h.setStatus (commits_of_eq_commit (Records.setStatus_eq id .active) hrest)
  | none =>
    obtain ⟨_, v, hadd, hpure⟩ := Call.on_bind_ok hrest
    rw [addSubscription_eq] at hadd
    obtain ⟨p, v', hp, hinsert⟩ := Call.on_bind_ok hadd
    cases hpure
    have priced := h.defaultPrice (commit_on_ok hp)
    obtain ⟨_, _, rfl⟩ := catalog_of_default (commit_on_ok hp)
    exact priced.subscribe (findSubscription_eq_none.1 hfound).2 (commit_on_ok hinsert)

theorem apply (h : Unambiguous s) {a : Action} (hon : a.apply.on s = (.ok (), s')) :
    Unambiguous s' := by
  cases a with
  | completeCheckout customer subscription => exact h.completeCheckout hon
  | updateStatus subscription status => exact h.setStatusIfKnown hon
  | cancelSubscription subscription => exact h.setStatusIfKnown hon
  | deleteCustomer customer =>
    obtain ⟨_, u, hdelete, hpure⟩ := Call.on_bind_ok hon
    cases hpure
    exact h.deleteCustomer (commits_of_eq_commit (Records.deleteCustomer_eq customer) hdelete)
  | ignore eventType =>
    cases hon
    exact h

theorem process (h : Unambiguous s) {e : Event} {r : Except BillingError Action}
    (hon : (Webhook.process e).on s = (r, s')) : Unambiguous s' := by
  cases r with
  | ok a => exact h.apply (process_ok hon).2
  | error err =>
    rcases process_error hon with rfl | ⟨-, rfl⟩
    · exact h
    · exact h.congr rfl

end Store.Unambiguous

/-! ### Operations -/

section Operations

variable {σ : Type}

/-- The operation records a subscription without looking its provider id up. -/
def Operation.recordsSubscription : Operation σ → Bool
  | addSubscription .. => true
  | _ => false

theorem Store.Unambiguous.step (h : Unambiguous s) {op : Operation σ}
    (hop : op.recordsSubscription = false) (hstep : op.Step s s') : Unambiguous s' := by
  cases hstep with
  | service hstep => exact h.serviceStep hstep
  | insertOrganization hc =>
    obtain ⟨_, -, rfl⟩ := commits_insertOrganization hc
    exact h.congr rfl
  | addSubscription hc => cases hop
  | setStatus hc => exact h.setStatus hc
  | deleteSubscription hc =>
    obtain ⟨-, rfl⟩ := commits_deleteSubscription.1 hc
    exact h.filter rfl
  | deleteCustomer hc => exact h.deleteCustomer hc
  | insertProduct hc =>
    obtain ⟨-, -, rfl⟩ := commits_insertProduct.1 hc
    exact h.congr rfl
  | updateProduct hc =>
    obtain ⟨_, -, -, -, rfl⟩ := commits_updateProduct.1 hc
    exact h.congr rfl
  | deleteProduct hc =>
    obtain ⟨-, rfl⟩ := commits_deleteProduct.1 hc
    exact h.filter rfl
  | insertPrice hc =>
    obtain ⟨-, -, rfl⟩ := commits_insertPrice.1 hc
    exact h.congr rfl
  | updatePrice hc =>
    obtain ⟨_, -, -, -, rfl⟩ := commits_updatePrice.1 hc
    exact h.congr rfl
  | deletePrice hc =>
    obtain ⟨-, rfl⟩ := commits_deletePrice.1 hc
    exact h.filter rfl

variable [PaymentProvider σ] {w : World σ}

theorem Store.Unambiguous.after (h : Unambiguous w.store) {op : Operation σ}
    (hop : op.recordsSubscription = false) : Unambiguous (op.after w).store :=
  op.keeps_after (fun _ _ hstep hs => hs.step hop hstep) (fun _ _ _ _ hp hs => hs.process hp)
    (fun _ _ hs => hs.congr rfl) h

/-- Provider ids of subscriptions are unambiguous. Let any operations lead from an empty database to
another one, none of which records a subscription by itself. Then no two subscriptions have the same
provider id; looking an id up finds a row exactly if the row has that id; and it never fails because
several rows have it. -/
theorem unambiguous_afterAll (p : σ) (ops : List (Operation σ))
    (hops : ∀ op ∈ ops, op.recordsSubscription = false) :
    let s := (afterAll ⟨.empty, p⟩ ops).store
    (s.subscriptions.rows.map (·.subscriptionId)).Nodup ∧
      ∀ text,
        (∀ id, (commit (findSubscription text)).on s = (.ok (some id), s) ↔
          ∃ x ∈ s.subscriptions.rows, x.subscriptionId = text ∧ x.id = id) ∧
        ((commit (findSubscription text)).on s = (.ok none, s) ↔
          isStorable text = true ∧ ∀ x ∈ s.subscriptions.rows, x.subscriptionId ≠ text) ∧
        ∀ s', (commit (findSubscription text)).on s ≠
          (.error (.invalidInput (.ambiguousSubscription text)), s') := by
  intro s
  have h : Unambiguous s :=
    keeps_afterAll (fun op hop _ h => h.after (hops op hop)) Unambiguous.empty
  exact ⟨h.distinct, fun text => ⟨fun _ => h.findSubscription_some, findSubscription_eq_none,
    h.findSubscription_ne_ambiguous text⟩⟩

end Operations

/-- Two organizations with a customer each. -/
def twoCustomers : List (Operation Provider.Sandbox) :=
  [.insertOrganization ⟨"acme", "Acme", "Company", true, none, some "cus_1", 0⟩,
    .insertOrganization ⟨"apex", "Apex", "Company", true, none, some "cus_2", 0⟩]

/-- A customer has completed a checkout of the subscription `sub_1`. -/
def checkoutOf (event customer : String) : Webhook.Event :=
  ⟨event, Webhook.checkoutCompleted, 0, .object
    [("status", .string "complete"), ("customer", .string customer),
      ("subscription", .string "sub_1")]⟩

/-- Two customers complete a checkout of one subscription, and between the two the first customer
gets another name. The subscription has one row. -/
theorem unambiguous_afterAll_of_twoCustomers :
    let ops : List (Operation Provider.Sandbox) := twoCustomers ++
      [.handle 0 (checkoutOf "evt_1" "cus_1"), .setOrganizationCustomer (.row 1 1) "cus_3",
        .handle 1 (checkoutOf "evt_2" "cus_2")]
    let s := (afterAll ⟨.empty, .fresh⟩ ops).store
    s.subscriptions.rows = [⟨.row 4 1, "cus_3", "sub_1", .row 3 1, .active⟩] ∧
      (commit (findSubscription "sub_1")).on s = (.ok (some (.row 4 1)), s) := by
  intro ops s
  have hrows : s.subscriptions.rows = [⟨.row 4 1, "cus_3", "sub_1", .row 3 1, .active⟩] := by
    decide +kernel
  obtain ⟨-, lookup⟩ := unambiguous_afterAll Provider.Sandbox.fresh ops (by decide)
  have hmem : ⟨.row 4 1, "cus_3", "sub_1", .row 3 1, .active⟩ ∈ s.subscriptions.rows :=
    hrows ▸ List.mem_singleton_self _
  exact ⟨hrows, ((lookup "sub_1").1 (.row 4 1)).2 ⟨_, hmem, rfl, rfl⟩⟩

-- Recorded by themselves, two subscriptions of different customers can have one provider id.
example :
    let ops : List (Operation Provider.Sandbox) :=
      [.insertOrganization ⟨"acme", "Acme", "Company", true, none, some "cus_1", 0⟩,
        .insertOrganization ⟨"apex", "Apex", "Company", true, none, some "cus_2", 0⟩,
        .addSubscription "cus_1" "sub_1", .addSubscription "cus_2" "sub_1"]
    ((commit (findSubscription "sub_1")).on (afterAll ⟨.empty, .fresh⟩ ops).store).1 =
      .error (.invalidInput (.ambiguousSubscription "sub_1")) := by
  decide +kernel

end OrgBilling
