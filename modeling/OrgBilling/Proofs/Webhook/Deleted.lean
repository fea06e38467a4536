import OrgBilling.Proofs.Webhook.Summary

/-!
# Customers that have been deleted

No event gives a customer to an organization, and a subscription is recorded only for a customer that
an organization holds. So when a customer has been deleted, whatever events are handled afterwards,
however late or often, neither an organization nor a subscription has the customer again
(`deleted_stays_gone`).
-/

namespace OrgBilling

open Store Transaction

variable {s s' : Store} {c : String}

namespace Store

/-- No organization holds the customer. -/
def Unheld (c : String) (s : Store) : Prop :=
  ∀ o ∈ s.organizations.rows, o.customerId ≠ some c

theorem Unheld.freeCustomer (h : Unheld c s) (d : String) : Unheld c (s.freeCustomer d) := by
  intro o' ho' hc
  obtain ⟨o, ho, rfl⟩ := List.mem_map.1 ho'
  rw [freeRow_of_customerId hc] at hc
  exact h o ho hc

theorem unheld_freeCustomer (c : String) (s : Store) : Unheld c (s.freeCustomer c) := by
  intro o' ho' hc
  obtain ⟨o, ho, rfl⟩ := List.mem_map.1 ho'
  have hholds : holds c (freeRow c o) = true := beq_iff_eq.2 hc
  simp [holds_freeRow] at hholds

theorem unheld_of_deleteCustomer {n : Nat} (h : Commits (deleteCustomer c) s n s') :
    Unheld c s' := by
  obtain ⟨-, -, rfl⟩ := commits_deleteCustomer.1 h
  exact unheld_freeCustomer c _

/-- Subscriptions have customers that organizations hold. -/
theorem Unheld.subscriptions (h : Unheld c s) (hs : Schema s) :
    ∀ x ∈ s.subscriptions.rows, x.customerId ≠ c := by
  rintro x hx rfl
  obtain ⟨o, ho, hox⟩ := hs.subscriptionCustomer x hx
  exact h o ho hox

end Store

namespace Webhook

/-! ### Events -/

/-- No step of an action gives the customer to an organization. -/
theorem ActionStep.unheld (h : ActionStep s s') (hs : Unheld c s) : Unheld c s' := by
  cases h with
  | defaultPrice h =>
    obtain ⟨_, _, rfl⟩ := catalog_of_default h
    exact hs
  | subscribe h =>
    obtain ⟨-, -, o, -, -, -, -, -, -, rfl⟩ := commits_insertLinkedSubscription.1 h
    exact hs
  | setStatus h =>
    obtain ⟨-, rfl⟩ := commits_setStatus.1 h
    exact hs
  | deleteCustomer h =>
    obtain ⟨-, -, rfl⟩ := commits_deleteCustomer.1 h
    exact Unheld.freeCustomer hs _

theorem Handling.unheld {now : Int} {e : Event} {r : Except BillingError HandlingResult}
    (h : Handling now e s r s') (hs : Unheld c s) : Unheld c s' :=
  h.keeps (P := Unheld c) (fun _ _ => ActionStep.unheld) (fun _ _ hs => hs) hs

/-- The event of a deletion that is applied takes the customer from whoever holds it. -/
theorem Handling.unheld_of_deletion {now : Int} {e : Event}
    (h : Handling now e s (.ok (.applied (.deleteCustomer c))) s') : Unheld c s' := by
  cases h with
  | applied claim process =>
    obtain ⟨-, happly⟩ := process_ok process
    obtain ⟨n, u, hdelete, hpure⟩ := Call.on_bind_ok happly
    cases hpure
    have deleted : Unheld c _ :=
      unheld_of_deleteCustomer (commits_of_eq_commit (Records.deleteCustomer_eq c) hdelete)
    exact deleted

variable {σ : Type} [PaymentProvider σ] {w : World σ}

theorem unheld_afterAll (h : Unheld c w.store) (calls : List (Int × Event)) :
    Unheld c (afterAll w (handles calls)).store := by
  induction calls generalizing w with
  | nil => exact h
  | cons call calls ih =>
    exact ih (w := (Operation.handle call.1 call.2).after w) ((handling_on call.1 call.2 _).unheld h)

/-- The customer is deleted: by the application itself, or because an event says so. -/
inductive Deletes (c : String) (s s' : Store) : Prop
  /-- The application removes the customer. -/
  | call (n : Nat) (h : (Records.deleteCustomer c).on s = (.ok n, s'))
  /-- An event of the customer's deletion is applied. -/
  | event (now : Int) (e : Event) (h : (handle now e).on s = (.ok (.applied (.deleteCustomer c)), s'))

/-- A customer that has been deleted stays deleted. In whatever state the application has come to, let
a customer be deleted, and let any events be handled afterwards, new or old ones, each as often as
one likes. Then no organization holds the customer and no subscription has it. -/
theorem deleted_stays_gone (h : Reachable w) (hdelete : Deletes c w.store s)
    (calls : List (Int × Event)) :
    let s' := (afterAll { w with store := s } (handles calls)).store
    (∀ o ∈ s'.organizations.rows, o.customerId ≠ some c) ∧
      ∀ x ∈ s'.subscriptions.rows, x.customerId ≠ c := by
  intro s'
  have deleted : Unheld c s ∧ Evolves w.store s := by
    cases hdelete with
    | call n hc =>
      have hcommits := commits_of_eq_commit (Records.deleteCustomer_eq c) hc
      exact ⟨unheld_of_deleteCustomer hcommits, (changes_deleteCustomer hcommits).evolves⟩
    | event now e he =>
      have handling := Handling.of_on he
      exact ⟨handling.unheld_of_deletion, handling.evolves⟩
  have handled : Evolves s s' := evolves_afterAll { w with store := s } (handles calls)
  have schema : Schema s' := Schema.empty.evolves .empty (h.evolves.trans (deleted.2.trans handled))
  have unheld : Unheld c s' := unheld_afterAll deleted.1 calls
  exact ⟨unheld, unheld.subscriptions schema⟩

/-- The completion of a checkout of the customer of the subscription. -/
def lateCheckout : Event :=
  ⟨"evt_2", checkoutCompleted, 0, .object
    [("status", .string "complete"), ("customer", .string "cus_1"),
      ("subscription", .string "sub_2")]⟩

/-- The event that the customer has been deleted. -/
def deletion : Event :=
  ⟨"evt_1", customerDeleted, 0, .object [("id", .string "cus_1")]⟩

/-- A checkout that is completed after its customer has been deleted, and its redelivery, fail, and
the customer stays away. -/
theorem deleted_stays_gone_of_lateCheckout :
    let w := (Operation.handle 0 deletion).after subscribed
    outcomes w (handles [(1, lateCheckout), (2, lateCheckout)]) =
        [(lateCheckout, .error (.notFound (.customerHolder "cus_1"))),
          (lateCheckout, .error (.notFound (.customerHolder "cus_1")))] ∧
      ∀ x ∈ (afterAll w (handles [(1, lateCheckout), (2, lateCheckout)])).store.subscriptions.rows,
        x.customerId ≠ "cus_1" := by
  intro w
  have reachable : Reachable subscribed := (Reachable.empty _).afterAll _
  have deletes : Deletes "cus_1" subscribed.store w.store := .event 0 deletion rfl
  exact ⟨rfl, (deleted_stays_gone reachable deletes [(1, lateCheckout), (2, lateCheckout)]).2⟩

end Webhook

end OrgBilling
