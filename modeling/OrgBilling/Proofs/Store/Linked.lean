import OrgBilling.Proofs.Store.Schema

/-!
# Subscriptions and what hangs on them

Nothing in the schema says that a subscription has a link or an item, or that the organization that
it is linked to holds its customer. `IsLinked` says so of one subscription: it has one link, to an
organization with its customer, and one item, of one unit of its price. All subscriptions of a store
are so (`Linked`), because they come into the database together with their link and item and leave
it together with them (`Linked.change`).
-/

namespace OrgBilling.Store

variable {s s' : Store}

/-- The links of a subscription. -/
def linksTo (x : Subscription) (s : Store) : List OrganizationLink :=
  s.links.rows.filter (·.subscription == x.id)

/-- The items of a subscription. -/
def itemsFor (x : Subscription) (s : Store) : List SubscriptionItem :=
  s.items.rows.filter (·.subscription == x.id)

/-- The organization has the link and holds the customer of the subscription. -/
def IsLinkTo (s : Store) (x : Subscription) (l : OrganizationLink) : Prop :=
  ∃ o ∈ s.organizations.rows, o.id = l.organization ∧ o.customerId = some x.customerId

/-- The subscription has one link, to an organization that holds its customer, and one item, of one
unit of its price. -/
structure IsLinked (s : Store) (x : Subscription) : Prop where
  link : ∃ l, s.linksTo x = [l] ∧ s.IsLinkTo x l
  item : ∃ i, s.itemsFor x = [i] ∧ i.price = x.price ∧ i.quantity = 1

/-- All subscriptions are linked. -/
def Linked (s : Store) : Prop :=
  ∀ x ∈ s.subscriptions.rows, s.IsLinked x

/-- A subscription is linked as it was when its organization still has its customer. -/
theorem IsLinked.congr {x y : Subscription} (h : s.IsLinked x) (hid : y.id = x.id)
    (hprice : y.price = x.price) (hlinks : s'.links = s.links) (hitems : s'.items = s.items)
    (horg : ∀ l, s.IsLinkTo x l → s'.IsLinkTo y l) : s'.IsLinked y where
  link := by
    rw [linksTo, hlinks, hid]
    exact h.link.imp fun l hl => ⟨hl.1, horg l hl.2⟩
  item := by
    rw [itemsFor, hitems, hid, hprice]
    exact h.item

namespace Linked

theorem empty : Linked .empty := by
  simp [Linked, Store.empty]

/-- A change of organizations under which those that hold the customer of a subscription stay. -/
theorem congr (h : Linked s) (hsubs : s'.subscriptions = s.subscriptions)
    (hlinks : s'.links = s.links) (hitems : s'.items = s.items)
    (horg : ∀ x ∈ s.subscriptions.rows, ∀ o ∈ s.organizations.rows,
      o.customerId = some x.customerId → o ∈ s'.organizations.rows) : Linked s' := by
  intro x hx
  rw [hsubs] at hx
  refine (h x hx).congr rfl rfl hlinks hitems ?_
  rintro l ⟨o, ho, hol, hox⟩
  exact ⟨o, horg x hx o ho hox, hol, hox⟩

theorem moveCustomer (h : Linked s) (hs : Schema s) {o : Organization} {c : String}
    (mem : o ∈ s.organizations.rows) : Linked (s.moveCustomer o c) := by
  intro x' hx'
  obtain ⟨x, hx, rfl⟩ := List.mem_map.1 hx'
  refine (h x hx).congr (renameRow_id _ _ _) (renameRow_price _ _ _) rfl rfl ?_
  rintro l ⟨p, hp, hpl, hpx⟩
  refine ⟨_, List.mem_map_of_mem hp, (holdRow_id _ _ _).trans hpl, ?_⟩
  -- The organization with the link is the one that moves just when the subscription moves with it.
  by_cases ho : o.customerId = some x.customerId
  · rw [hs.customer p hp o mem _ hpx ho, holdRow, if_pos rfl, renameRow, if_pos ho]
  · have hpo : p.id ≠ o.id := fun hpo =>
      ho (List.inj_on_of_nodup_map hs.organizations hp mem hpo ▸ hpx)
    rw [holdRow, if_neg hpo, renameRow, if_neg ho]
    exact hpx

theorem freeCustomer (h : Linked s) {c : String}
    (unused : ∀ x ∈ s.subscriptions.rows, x.customerId ≠ c) : Linked (s.freeCustomer c) :=
  h.congr rfl rfl rfl fun x hx o ho hox => by
    have : freeRow c o = o := freeRow_of_ne (by rw [hox]; simpa using unused x hx)
    exact this ▸ List.mem_map_of_mem ho

theorem editStatus (h : Linked s) {f : Subscription → Subscription}
    (only : ∀ x, ∃ status, f x = { x with status }) :
    Linked { s with subscriptions := s.subscriptions.map f } := by
  intro x' hx'
  obtain ⟨x, hx, rfl⟩ := List.mem_map.1 hx'
  obtain ⟨status, hf⟩ := only x
  rw [hf]
  exact (h x hx).congr rfl rfl rfl rfl fun _ hl => hl

theorem subscribe (h : Linked s) (hs : Schema s) (hf : Fresh s) {o : Organization}
    {c x : String} {p : CatalogPrice} (mem : o ∈ s.organizations.rows)
    (holds : o.customerId = some c) :
    Linked (s.subscribe c x p.id o.id) := by
  have new : ∀ z ∈ s.subscriptions.rows, z.id ≠ s.nextSubscription :=
    fun z hz => hf.subscriptions.id_ne_next hz
  intro y hy
  rcases List.mem_append.1 hy with hy | hy
  · have old : (s.nextSubscription == y.id) = false := by simpa using (new y hy).symm
    obtain ⟨⟨l, hl, hlink⟩, ⟨i, hi, hitem⟩⟩ := h y hy
    refine ⟨⟨l, ?_, hlink⟩, ⟨i, ?_, hitem⟩⟩
    · rw [← hl]
      simp [linksTo, Store.subscribe, Table.nextRow, old]
    · rw [← hi]
      simp [itemsFor, Store.subscribe, Table.nextRow, old]
  · -- Nothing hangs on the id of the new subscription yet.
    have links : s.links.rows.filter (·.subscription == s.nextSubscription) = [] := by
      rw [List.filter_eq_nil_iff]
      intro l hl heq
      obtain ⟨z, hz, hzl⟩ := hs.linkSubscription l hl
      exact new z hz (hzl.trans (by simpa using heq))
    have items : s.items.rows.filter (·.subscription == s.nextSubscription) = [] := by
      rw [List.filter_eq_nil_iff]
      intro i hi heq
      obtain ⟨z, hz, hzi⟩ := hs.itemSubscription i hi
      exact new z hz (hzi.trans (by simpa using heq))
    have hid : y.id = s.nextSubscription := by rw [List.mem_singleton.1 hy]; rfl
    have hcustomer : y.customerId = c := by rw [List.mem_singleton.1 hy]; rfl
    have hprice : p.id = y.price := by rw [List.mem_singleton.1 hy]; rfl
    refine ⟨⟨⟨Uuid.row linkTag (s.links.issued + 1), o.id, s.nextSubscription⟩, ?_, o, mem, rfl, ?_⟩,
      ⟨⟨Uuid.row itemTag (s.items.issued + 1), none, s.nextSubscription, p.id, 1⟩, ?_, hprice, rfl⟩⟩
    · simp [linksTo, hid, Store.subscribe, Table.nextRow, links]
    · rw [hcustomer, holds]
    · simp [itemsFor, hid, Store.subscribe, Table.nextRow, items]

/-- What hangs on a subscription that is kept is kept. -/
theorem select (h : Linked s) (hs : Schema s) {k : Selection} (closed : k.Closed s) :
    Linked (s.select k) := by
  intro x hx
  obtain ⟨hx, hk⟩ := List.mem_filter.1 hx
  obtain ⟨⟨l, hl, hlink⟩, ⟨i, hi, hprice, hquantity⟩⟩ := h x hx
  have keepLink : k.link l = true := by
    have hmem : l ∈ s.linksTo x := by simp [hl]
    obtain ⟨hmem, hlx⟩ := List.mem_filter.1 hmem
    exact (closed.link l hmem x hx (Eq.symm (by simpa using hlx))).2 hk
  have keepItem : k.item i = true := by
    have hmem : i ∈ s.itemsFor x := by simp [hi]
    obtain ⟨hmem, hix⟩ := List.mem_filter.1 hmem
    obtain ⟨p, hp, hpx⟩ := hs.subscriptionPrice x hx
    refine (closed.item i hmem x hx (Eq.symm (by simpa using hix)) p hp (hpx.trans hprice.symm)).2 ?_
    exact ⟨hk, closed.subscription x hx hk p hp hpx⟩
  refine ⟨⟨l, ?_, hlink⟩, ⟨i, ?_, hprice, hquantity⟩⟩
  · rw [linksTo] at hl
    rw [linksTo, Store.select, Table.rows_filter, List.filter_comm, hl]
    simp [keepLink]
  · rw [itemsFor] at hi
    rw [itemsFor, Store.select, Table.rows_filter, List.filter_comm, hi]
    simp [keepItem]

/-- Every change of a store that keeps the schema keeps its subscriptions linked. -/
theorem change (h : Linked s) (hs : Schema s) (hf : Fresh s) (hc : Change s s') : Linked s' := by
  have same {s' : Store} (hsubs : s'.subscriptions = s.subscriptions) (hlinks : s'.links = s.links)
      (hitems : s'.items = s.items) (horg : s'.organizations = s.organizations) : Linked s' :=
    h.congr hsubs hlinks hitems fun _ _ _ ho _ => horg ▸ ho
  cases hc with
  | addOrganization n t free =>
    exact h.congr rfl rfl rfl fun _ _ _ ho _ => List.mem_append_left _ ho
  | moveCustomer mem free unique storable => exact h.moveCustomer hs mem
  | freeCustomer unused => exact h.freeCustomer unused
  | addProduct row id => exact same rfl rfl rfl rfl
  | editProducts f id => exact same rfl rfl rfl rfl
  | addPrice row id sound => exact same rfl rfl rfl rfl
  | editPrices f id sound => exact same rfl rfl rfl rfl
  | subscribe mem holds price fresh => exact h.subscribe hs hf mem holds
  | editStatus f only => exact h.editStatus only
  | select closed => exact h.select hs closed

theorem ledgerChange (h : Linked s) (hc : Ledger.Change s s') : Linked s' := by
  cases hc <;> exact h.congr rfl rfl rfl fun _ _ _ ho _ => ho

/-- Subscriptions stay linked however the database evolves. -/
theorem evolves (h : Linked s) (hs : Schema s) (hf : Fresh s) (he : Evolves s s') : Linked s' := by
  induction he with
  | refl => exact h
  | tail he hc ih =>
    rcases hc with hc | hc
    · exact ih.change (hs.evolves hf he) (hf.evolves he) hc
    · exact ih.ledgerChange hc

end Linked

end OrgBilling.Store
