import OrgBilling.Proofs.Operation
import OrgBilling.Proofs.Store.Linked
import OrgBilling.Proofs.Store.Order
import OrgBilling.Provider.Sandbox

/-!
# Listing subscriptions

The subscriptions of an organization are found in two ways: through the links of the organization,
and through the customer that it holds. On a store whose subscriptions are linked both find the same
rows (`flatMap_listed`): a subscription is found through the organization's links once if the
organization holds its customer, and not at all otherwise. No customer has a subscription twice, so
the rows have only one order, whatever the database makes of rows with the same provider id, and what
is listed does not depend on the way it was found (`lists_agree_afterAll`).
-/

namespace OrgBilling.Store

open Transaction

variable {s s' : Store} {o : Organization}

/-! ### Customers are texts -/

/-- The customers that organizations hold can be asked for. -/
def HoldsTexts (s : Store) : Prop :=
  ∀ o ∈ s.organizations.rows, ∀ c, o.customerId = some c → isStorable c = true

namespace HoldsTexts

theorem empty : HoldsTexts .empty := by
  simp [HoldsTexts, Store.empty]

theorem addOrganization (h : HoldsTexts s) {n : NewOrganization} {t : OrganizationType}
    (hn : ∀ c, n.customerId = some c → isStorable c = true) :
    HoldsTexts { s with organizations := s.organizations.insert organizationTag (n.row t) } :=
  forall_mem_insert h hn

theorem moveCustomer (h : HoldsTexts s) {c : String} (hc : isStorable c = true) :
    HoldsTexts (s.moveCustomer o c) := by
  intro p' hp' d hd
  obtain ⟨p, hp, rfl⟩ := List.mem_map.1 hp'
  by_cases hpo : p.id = o.id
  · rw [holdRow, if_pos hpo] at hd
    exact Option.some.inj hd ▸ hc
  · rw [holdRow, if_neg hpo] at hd
    exact h p hp d hd

theorem freeCustomer (h : HoldsTexts s) (c : String) : HoldsTexts (s.freeCustomer c) := by
  intro p' hp' d hd
  obtain ⟨p, hp, rfl⟩ := List.mem_map.1 hp'
  rw [freeRow_of_customerId hd] at hd
  exact h p hp d hd

theorem change (h : HoldsTexts s) (hc : Change s s') : HoldsTexts s' := by
  cases hc with
  | addOrganization n t free => exact h.addOrganization fun c hc => (free c hc).2
  | moveCustomer mem free unique storable => exact h.moveCustomer storable
  | freeCustomer unused => exact h.freeCustomer _
  | addProduct row id => exact h
  | editProducts f id => exact h
  | addPrice row id sound => exact h
  | editPrices f id sound => exact h
  | subscribe mem holds price fresh => exact h
  | editStatus f only => exact h
  | select closed => exact h

/-- Customers stay texts however the database evolves. -/
theorem evolves (h : HoldsTexts s) (he : Evolves s s') : HoldsTexts s' := by
  induction he with
  | refl => exact h
  | tail _ hc ih =>
    rcases hc with hc | hc
    · exact ih.change hc
    · cases hc <;> exact ih

end HoldsTexts

/-! ### Rows -/

theorem organization?_of_mem (hs : Schema s) (ho : o ∈ s.organizations.rows) :
    s.organization? o.id = some o :=
  find?_of_nodup hs.organizations ho

/-- The copies of a subscription that an organization finds through its links. -/
def listed (organization : Uuid) (s : Store) (x : Subscription) : List Subscription :=
  (s.links.rows.filter fun l => l.subscription == x.id && l.organization == organization).map
    fun _ => x

/-- A linked subscription is found once by the organization that holds its customer, and by no
other. -/
theorem listed_of_isLinked {x : Subscription} (h : s.IsLinked x) (hs : Schema s)
    (ho : o ∈ s.organizations.rows) :
    s.listed o.id x = if holds x.customerId o then [x] else [] := by
  obtain ⟨l, hl, p, hp, hpl, hpx⟩ := h.link
  have split : s.listed o.id x =
      ((s.linksTo x).filter (·.organization == o.id)).map fun _ => x := by
    rw [linksTo, List.filter_filter, listed]
    simp only [Bool.and_comm]
  have holder : l.organization = o.id ↔ holds x.customerId o = true := by
    rw [holds, beq_iff_eq, ← hpl]
    constructor
    · intro hid
      rw [← List.inj_on_of_nodup_map hs.organizations hp ho hid]
      exact hpx
    · intro hox
      rw [hs.customer p hp o ho _ hpx hox]
  rw [split, hl]
  by_cases hlo : l.organization = o.id
  · rw [if_pos (holder.1 hlo), List.filter_cons_of_pos (by simpa using hlo)]
    rfl
  · rw [if_neg (mt holder.2 hlo), List.filter_cons_of_neg (by simpa using hlo)]
    rfl

theorem flatMap_eq_filter {α : Type} {f : α → List α} {p : α → Bool} {xs : List α}
    (h : ∀ x ∈ xs, f x = if p x then [x] else []) : xs.flatMap f = xs.filter p := by
  rw [List.flatMap_congr h]
  clear h
  induction xs with
  | nil => rfl
  | cons x xs ih =>
    rw [List.flatMap_cons, ih, List.filter_cons]
    split <;> rfl

/-- Through its links an organization finds the subscriptions of its customer. -/
theorem flatMap_listed (h : Linked s) (hs : Schema s) (ho : o ∈ s.organizations.rows) :
    s.subscriptions.rows.flatMap (s.listed o.id) =
      s.subscriptions.rows.filter fun x => holds x.customerId o :=
  flatMap_eq_filter fun x hx => listed_of_isLinked (h x hx) hs ho

theorem filter_holds_of_some {c : String} (hc : o.customerId = some c) (subs : List Subscription) :
    (subs.filter fun x => holds x.customerId o) = subs.filter (·.customerId == c) := by
  refine List.filter_congr fun x _ => ?_
  rw [holds, hc, Bool.eq_iff_iff, beq_iff_eq, beq_iff_eq, Option.some.injEq, eq_comm]

theorem filter_holds_of_none (hc : o.customerId = none) (subs : List Subscription) :
    (subs.filter fun x => holds x.customerId o) = [] := by
  rw [List.filter_eq_nil_iff]
  intro x _
  simp [holds, hc]

/-- No two subscriptions that an organization finds have the same provider id. -/
theorem nodup_subscriptionIds (hs : Schema s) :
    ((s.subscriptions.rows.filter fun x => holds x.customerId o).map (·.subscriptionId)).Nodup := by
  refine List.pairwise_map.2 ((List.pairwise_map.1
    (nodup_map_filter _ hs.subscriptionKey)).imp_of_mem fun {x y} hx hy hkey hid => hkey ?_)
  have holder {z : Subscription}
      (hz : z ∈ s.subscriptions.rows.filter fun z => holds z.customerId o) :
      o.customerId = some z.customerId := by
    simpa [holds] using (List.mem_filter.1 hz).2
  have customer := Option.some.inj ((holder hx).symm.trans (holder hy))
  exact Prod.ext customer hid

/-! ### The two lists -/

section Lists

variable {c : Collation} {order : c.Arrangement Subscription.subscriptionId}
  {subs : List Subscription}

theorem commits_subscriptionsByCustomer {customer : String} :
    Commits (subscriptionsByCustomer order customer) s subs s' ↔
      isStorable customer = true ∧
        subs = order.arrange (s.subscriptions.rows.filter (·.customerId == customer)) ∧
          s' = s := by
  simp only [subscriptionsByCustomer, commits_requireTexts_bind, commits_get_bind, commits_pure]
  simp

theorem commits_subscriptionsByOrganization {id : Uuid} :
    Commits (subscriptionsByOrganization order id) s subs s' ↔
      subs = order.arrange (s.subscriptions.rows.flatMap (s.listed id)) ∧ s' = s := by
  simp only [subscriptionsByOrganization, commits_get_bind, commits_pure]
  rfl

end Lists

end OrgBilling.Store

namespace OrgBilling.Server

open Store

variable {σ : Type}

/-- An organization that exists is answered with its list. -/
theorem run_subscriptions {app : App} {w : World σ} {o : Organization} {subs : List Subscription}
    (ho : w.store.organization? o.id = some o)
    (hsubs : (Billing.transact (subscriptionsByOrganization app.order o.id)).on w =
      (.ok subs, w)) :
    (Handler.subscriptions app o.id).run.run w =
      (.ok (.array (subs.map Handler.subscriptionJson)), w) := by
  have horganization := run_organization (w := w) o.id
  rw [ho] at horganization
  rw [Handler.subscriptions, run_bind_ok horganization, run_bind_ok (run_billing_ok.2 hsubs)]
  rfl

variable [PaymentProvider σ]

/-- The request is for the subscriptions of the organization with an id. -/
structure IsListing (r : HttpRequest) (id : Uuid) : Prop where
  method : r.method = "GET"
  route : ∃ part, Route.ofPath? r.path = some (.subscriptions part) ∧
    Route.organizationId? part = some id

theorem run_answer_of_isListing {r : HttpRequest} {id : Uuid} (hr : IsListing r id) (app : App)
    (o : Occasion) (w : World σ) :
    (answer app o r).run w = (respond (Handler.subscriptions app id)).run w := by
  obtain ⟨part, hroute, hid⟩ := hr.route
  have hallows : (Route.subscriptions part).allows r.method = true := by
    simp [hr.method, Route.allows, Route.isRead]
  rw [run_answer hroute hallows (by simp [hr.method]), follow, respondFor, hid]

/-- Whatever is done with a database that was empty at first, of every organization there is one
list of subscriptions: the organization's links and its customer both lead to it, it is empty if
there is no customer, and a request for the subscriptions is answered with it, item by item. The list
is in strict order of the provider's ids as the database compares them, so that nothing stands in it
twice, and how the database arranges rows with the same id makes no difference. Asking for the list
changes nothing. -/
theorem lists_agree_afterAll (p : σ) (ops : List (Operation σ)) (c : Collation) :
    let w := afterAll ⟨Store.empty, p⟩ ops
    ∀ o ∈ w.store.organizations.rows, ∃ subs : List Subscription,
      (∀ order : c.Arrangement Subscription.subscriptionId,
        (Billing.transact (subscriptionsByOrganization order o.id)).on w = (.ok subs, w)) ∧
      (∀ customer, o.customerId = some customer →
        ∀ order : c.Arrangement Subscription.subscriptionId,
          (Billing.transact (subscriptionsByCustomer order customer)).on w = (.ok subs, w)) ∧
      (o.customerId = none → subs = []) ∧
      (subs.map (·.id)).Nodup ∧
      subs.Pairwise (fun x y => c.le x.subscriptionId y.subscriptionId = true ∧
        x.subscriptionId ≠ y.subscriptionId) ∧
      ∀ (app : App) (occasion : Occasion) (r : HttpRequest), app.collation = c → IsListing r o.id →
        (answer app occasion r).run w =
          (.ok (.array (subs.map fun x => .object
            [("id", .string x.id.text),
             ("subscription_id", .string x.subscriptionId),
             ("customer_id", .string x.customerId),
             ("status", .string x.status.name),
             ("status_label", .string x.status.label),
             ("is_restricted", .bool (x.status != .active && x.status != .trialing))])), w) := by
  intro w o ho
  have he : Evolves .empty w.store := evolves_afterAll ⟨Store.empty, p⟩ ops
  have hs : Schema w.store := Schema.empty.evolves .empty he
  have hlinked : Linked w.store := Linked.empty.evolves .empty .empty he
  let found := w.store.subscriptions.rows.filter fun x => holds x.customerId o
  have keys : (found.map (·.subscriptionId)).Nodup := nodup_subscriptionIds hs
  let subs := (c.stable Subscription.subscriptionId).arrange found
  have one (order : c.Arrangement Subscription.subscriptionId) : order.arrange found = subs :=
    order.arrange_eq_of_keys _ keys
  have byLinks (order : c.Arrangement Subscription.subscriptionId) :
      (Billing.transact (subscriptionsByOrganization order o.id)).on w = (.ok subs, w) := by
    refine transact_on_ok (commits_subscriptionsByOrganization.2 ⟨?_, rfl⟩)
    rw [flatMap_listed hlinked hs ho, ← one order]
  refine ⟨subs, byLinks, fun customer hc order => ?_, fun hc => ?_, ?_,
    Arrangement.arrange_strict _ keys, fun app occasion r happ hr => ?_⟩
  · have storable := HoldsTexts.empty.evolves he o ho customer hc
    refine transact_on_ok (commits_subscriptionsByCustomer.2 ⟨storable, ?_, rfl⟩)
    rw [← filter_holds_of_some hc, ← one order]
  · rw [← one (c.stable _), show found = [] from filter_holds_of_none hc _, Arrangement.arrange_nil]
  · exact ((Arrangement.perm _ found).map _).nodup_iff.2 (nodup_map_filter _ hs.subscriptions)
  · subst happ
    rw [run_answer_of_isListing hr]
    exact run_respond_ok (run_subscriptions (organization?_of_mem hs ho) (byLinks app.order))

/-- Two subscriptions of a customer, the later one first, and then another customer. -/
def moved : World Provider.Sandbox :=
  afterAll ⟨.empty, .fresh⟩
    [.insertOrganization ⟨"acme", "Acme", "Company", true, none, some "cus_1", 0⟩,
     .addSubscription "cus_1" "sub_2",
     .addSubscription "cus_1" "sub_1",
     .setOrganizationCustomer (.row 1 1) "cus_2"]

/-- Both lists show the two subscriptions under the new customer, in the order of their ids. -/
theorem lists_agree_afterAll_of_moved :
    ∃ o subs, moved.store.organization? (.row 1 1) = some o ∧ o.customerId = some "cus_2" ∧
      (∀ order : Collation.codePoints.Arrangement Subscription.subscriptionId,
        (Billing.transact (subscriptionsByOrganization order o.id)).on moved = (.ok subs, moved) ∧
        (Billing.transact (subscriptionsByCustomer order "cus_2")).on moved = (.ok subs, moved)) ∧
      subs.map (·.subscriptionId) = ["sub_1", "sub_2"] := by
  have horganization : (moved.store.organization? (.row 1 1)).map (·.customerId) =
      some (some "cus_2") := by
    decide +kernel
  obtain ⟨o, ho, hc⟩ := Option.map_eq_some_iff.1 horganization
  obtain ⟨subs, byLinks, byCustomer, -, -, strict, -⟩ :=
    lists_agree_afterAll Provider.Sandbox.fresh _ .codePoints o (mem_of_organization? ho).1
  refine ⟨o, subs, ho, hc, fun order => ⟨byLinks order, byCustomer _ hc order⟩, ?_⟩
  -- The rows stand in the order of their insertion, and only one order of their ids is strict.
  have rows : (moved.store.subscriptions.rows.filter (·.customerId == "cus_2")).map
      (·.subscriptionId) = ["sub_2", "sub_1"] := by
    decide +kernel
  have found := byCustomer _ hc (Collation.codePoints.stable _)
  have hsubs := (commits_subscriptionsByCustomer.1 (transact_ok found).1).2.1
  have perm : (subs.map (·.subscriptionId)).Perm ["sub_1", "sub_2"] := by
    refine .trans ?_ (List.Perm.swap "sub_1" "sub_2" [])
    rw [hsubs, ← rows]
    exact (Arrangement.perm _ _).map _
  have ordered : (subs.map (·.subscriptionId)).Pairwise fun x y =>
      Collation.codePoints.le x y = true :=
    List.pairwise_map.2 (strict.imp And.left)
  exact perm.eq_of_pairwise (fun _ _ _ _ => Collation.codePoints.le_antisymm) ordered (by decide)

end OrgBilling.Server
