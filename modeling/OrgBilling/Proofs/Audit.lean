import OrgBilling.Proofs.Operation
import OrgBilling.Proofs.Store.Linked
import OrgBilling.Service.Audit

/-!
# What the consistency checks find

The checks of the links, customers and items of subscriptions find nothing in a store whose
subscriptions are linked, so they find nothing in any database that the application has worked on
from the start.
-/

namespace OrgBilling.Audit.Check

open Store

variable {s : Store}

theorem run_subscriptionLinkedOnce (h : Linked s) : run s subscriptionLinkedOnce = [] := by
  rw [run, List.flatMap_eq_nil_iff]
  intro x hx
  obtain ⟨l, hl, -⟩ := (h x hx).link
  have : linksOf s x = [l] := hl
  simp [notLinkedOnce, this]

theorem run_subscriptionCustomerMatches (h : Linked s) (hs : Schema s) :
    run s subscriptionCustomerMatches = [] := by
  rw [run, List.flatMap_eq_nil_iff]
  intro l hl
  unfold customerMismatch
  split
  · next o x ho hx =>
    obtain ⟨ho, hol⟩ := mem_of_organization? ho
    obtain ⟨hx, hxl⟩ := mem_of_subscription? hx
    obtain ⟨l', hlinks, p, hp, hpl, hpx⟩ := (h x hx).link
    have hmem : l ∈ s.linksTo x := List.mem_filter.2 ⟨hl, by simpa using hxl.symm⟩
    rw [hlinks, List.mem_singleton] at hmem
    have : p = o := List.inj_on_of_nodup_map hs.organizations hp ho (by rw [hpl, ← hmem, hol])
    rw [← this, if_pos hpx]
  · rfl

theorem run_subscriptionHasItems (h : Linked s) : run s subscriptionHasItems = [] := by
  rw [run, List.flatMap_eq_nil_iff]
  intro x hx
  obtain ⟨i, hi, -⟩ := (h x hx).item
  have hmem : i ∈ s.itemsFor x := by simp [hi]
  have : (s.items.rows.any fun i => i.subscription == x.id) = true :=
    List.any_eq_true.2 ⟨i, List.mem_filter.1 hmem⟩
  rw [withoutItems, if_pos this]

/-- Whatever is done with a database that was empty at first, every subscription keeps one link, to
an organization that holds its customer, and one item, of one unit of its price; and the checks of
these things find nothing. -/
theorem subscriptions_linked_afterAll {σ : Type} [PaymentProvider σ] (p : σ)
    (ops : List (Operation σ)) :
    let s := (afterAll ⟨Store.empty, p⟩ ops).store
    (∀ x ∈ s.subscriptions.rows,
      (∃ l, s.links.rows.filter (fun l => l.subscription == x.id) = [l] ∧
        ∃ o ∈ s.organizations.rows, o.id = l.organization ∧ o.customerId = some x.customerId) ∧
      ∃ i, s.items.rows.filter (fun i => i.subscription == x.id) = [i] ∧
        i.quantity = 1 ∧ i.price = x.price) ∧
    run s subscriptionLinkedOnce = [] ∧ run s subscriptionCustomerMatches = [] ∧
      run s subscriptionHasItems = [] := by
  intro s
  have he : Evolves .empty s := evolves_afterAll ⟨Store.empty, p⟩ ops
  have hs : Schema s := Schema.empty.evolves .empty he
  have hl : Linked s := Linked.empty.evolves .empty .empty he
  refine ⟨fun x hx => ?_, run_subscriptionLinkedOnce hl, run_subscriptionCustomerMatches hl hs,
    run_subscriptionHasItems hl⟩
  obtain ⟨i, hi, hprice, hquantity⟩ := (hl x hx).item
  exact ⟨(hl x hx).link, i, hi, hquantity, hprice⟩

end OrgBilling.Audit.Check
