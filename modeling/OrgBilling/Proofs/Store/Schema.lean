import Mathlib.Data.List.Nodup
import OrgBilling.Proofs.Store.Ledger

/-!
# The rules of the schema

`Schema` collects what the tables promise by themselves: unique ids and other keys, references that
lead to a row, and amounts that are not negative. A row that is added gets a new id from its table,
and where rows are added it has to be known that those ids are free (`Fresh`).

Every change keeps both (`Schema.change`, `Fresh.change`), and so does every write to the ledger;
hence they hold in every state that an empty database evolves to (`Schema.evolves`,
`Fresh.evolves`).
-/

namespace OrgBilling.Store

open Relation

/-! ### Ids -/

section Ids

variable {α : Type} {tag : Nat} {id : α → Uuid} {t : Table α}

theorem nodup_map_concat {β : Type} {f : α → β} {xs : List α} {x : α} (h : (xs.map f).Nodup)
    (hx : ∀ y ∈ xs, f y ≠ f x) : ((xs ++ [x]).map f).Nodup := by
  rw [List.map_append, List.nodup_append]
  refine ⟨h, List.nodup_singleton _, ?_⟩
  simpa using hx

theorem nodup_map_filter {β : Type} {f : α → β} {xs : List α} (p : α → Bool) (h : (xs.map f).Nodup) :
    ((xs.filter p).map f).Nodup :=
  h.sublist (List.filter_sublist.map f)

theorem map_map_eq {β : Type} {f : α → α} {g : α → β} (hf : ∀ x, g (f x) = g x) (xs : List α) :
    (xs.map f).map g = xs.map g := by
  rw [List.map_map]
  exact List.map_congr_left fun x _ => hf x

theorem nodup_map_map {β : Type} {f : α → α} {g : α → β} {xs : List α} (h : (xs.map g).Nodup)
    (hf : ∀ x, g (f x) = g x) : ((xs.map f).map g).Nodup := by
  rwa [map_map_eq hf]

/-- No row has an id that its table has yet to give out. -/
def FreshIds (tag : Nat) (id : α → Uuid) (t : Table α) : Prop :=
  ∀ x ∈ t.rows, ∀ n, t.issued < n → id x ≠ Uuid.row tag n

namespace FreshIds

theorem empty : FreshIds tag id Table.empty := fun _ hx => nomatch hx

theorem id_ne_next (h : FreshIds tag id t) {x : α} (hx : x ∈ t.rows) :
    id x ≠ Uuid.row tag (t.issued + 1) :=
  h x hx _ (Nat.lt_succ_self _)

theorem insert (h : FreshIds tag id t) {row : Uuid → α} (hrow : ∀ i, id (row i) = i) :
    FreshIds tag id (t.insert tag row) := by
  intro x hx n hn
  have hn : t.issued + 1 < n := hn
  rcases List.mem_append.1 hx with hx | hx
  · exact h x hx n (Nat.lt_of_succ_lt hn)
  · rw [List.mem_singleton.1 hx, Table.nextRow, hrow, Ne, Uuid.row_inj]
    omega

theorem map (h : FreshIds tag id t) {f : α → α} (hf : ∀ x, id (f x) = id x) :
    FreshIds tag id (t.map f) := by
  intro x hx n hn
  obtain ⟨y, hy, rfl⟩ := List.mem_map.1 hx
  rw [hf]
  exact h y hy n hn

theorem filter (h : FreshIds tag id t) (keep : α → Bool) : FreshIds tag id (t.filter keep) :=
  fun x hx => h x (List.mem_filter.1 hx).1

/-- A row with a fresh id leaves the ids of the table different. -/
theorem nodup_insert (h : FreshIds tag id t) (hd : (t.rows.map id).Nodup) {row : Uuid → α}
    (hrow : ∀ i, id (row i) = i) : ((t.insert tag row).rows.map id).Nodup :=
  nodup_map_concat hd fun y hy => by
    rw [Table.nextRow, hrow]
    exact h.id_ne_next hy

end FreshIds

theorem exists_id_map {f : α → α} (hf : ∀ x, id (f x) = id x) {i : Uuid}
    (h : ∃ x ∈ t.rows, id x = i) : ∃ x ∈ (t.map f).rows, id x = i := by
  obtain ⟨x, hx, hid⟩ := h
  exact ⟨f x, List.mem_map_of_mem hx, (hf x).trans hid⟩

theorem forall_mem_insert {p : α → Prop} {row : Uuid → α} (h : ∀ x ∈ t.rows, p x)
    (new : p (t.nextRow tag row)) : ∀ x ∈ (t.insert tag row).rows, p x := by
  intro x hx
  rcases List.mem_append.1 hx with hx | hx
  · exact h x hx
  · rw [List.mem_singleton.1 hx]
    exact new

theorem exists_mem_insert {p : α → Prop} {row : Uuid → α} (h : ∃ x ∈ t.rows, p x) :
    ∃ x ∈ (t.insert tag row).rows, p x := by
  obtain ⟨x, hx, hp⟩ := h
  exact ⟨x, List.mem_append_left _ hx, hp⟩

end Ids

/-! ### The rules -/

/-- The rules that the tables promise. -/
structure Schema (s : Store) : Prop where
  organizations : (s.organizations.rows.map (·.id)).Nodup
  products : (s.products.rows.map (·.id)).Nodup
  prices : (s.prices.rows.map (·.id)).Nodup
  subscriptions : (s.subscriptions.rows.map (·.id)).Nodup
  links : (s.links.rows.map (·.id)).Nodup
  items : (s.items.rows.map (·.id)).Nodup
  deliveries : (s.deliveries.map (·.id)).Nodup
  /-- No two organizations hold the same customer. -/
  customer : ∀ o ∈ s.organizations.rows, ∀ p ∈ s.organizations.rows, ∀ c,
    o.customerId = some c → p.customerId = some c → o = p
  /-- No customer has a subscription twice. -/
  subscriptionKey : (s.subscriptions.rows.map fun x => (x.customerId, x.subscriptionId)).Nodup
  /-- No organization is linked to a subscription twice. -/
  linkKey : (s.links.rows.map fun l => (l.organization, l.subscription)).Nodup
  /-- No event has two rows. -/
  eventKey : (s.deliveries.map (·.eventId)).Nodup
  priceProduct : ∀ p ∈ s.prices.rows, ∃ q ∈ s.products.rows, q.id = p.product
  subscriptionPrice : ∀ x ∈ s.subscriptions.rows, ∃ p ∈ s.prices.rows, p.id = x.price
  subscriptionCustomer : ∀ x ∈ s.subscriptions.rows, ∃ o ∈ s.organizations.rows,
    o.customerId = some x.customerId
  linkOrganization : ∀ l ∈ s.links.rows, ∃ o ∈ s.organizations.rows, o.id = l.organization
  linkSubscription : ∀ l ∈ s.links.rows, ∃ x ∈ s.subscriptions.rows, x.id = l.subscription
  itemSubscription : ∀ i ∈ s.items.rows, ∃ x ∈ s.subscriptions.rows, x.id = i.subscription
  itemPrice : ∀ i ∈ s.items.rows, ∃ p ∈ s.prices.rows, p.id = i.price
  amount : ∀ p ∈ s.prices.rows, 0 ≤ p.unitAmount
  quantity : ∀ i ∈ s.items.rows, 0 ≤ i.quantity
  /-- The ledger holds texts. -/
  eventText : ∀ d ∈ s.deliveries, Transaction.isStorable d.eventId = true

/-- The ids that the tables have yet to give out are free. -/
structure Fresh (s : Store) : Prop where
  organizations : FreshIds organizationTag (·.id) s.organizations
  products : FreshIds productTag (·.id) s.products
  prices : FreshIds priceTag (·.id) s.prices
  subscriptions : FreshIds subscriptionTag (·.id) s.subscriptions
  links : FreshIds linkTag (·.id) s.links
  items : FreshIds itemTag (·.id) s.items
  deliveries : ∀ d ∈ s.deliveries, ∀ n, s.deliveries.length < n → d.id ≠ Uuid.row deliveryTag n

variable {s s' : Store}

namespace Fresh

theorem empty : Fresh .empty :=
  ⟨.empty, .empty, .empty, .empty, .empty, .empty, by simp [Store.empty]⟩

/-- Every change leaves the ids free that it has not given out. -/
theorem change (h : Fresh s) (hc : Change s s') : Fresh s' := by
  cases hc with
  | addOrganization => exact { h with organizations := h.organizations.insert fun _ => rfl }
  | moveCustomer =>
    exact { h with
      organizations := h.organizations.map (holdRow_id _ _)
      subscriptions := h.subscriptions.map (renameRow_id _ _) }
  | freeCustomer => exact { h with organizations := h.organizations.map (freeRow_id _) }
  | addProduct row id => exact { h with products := h.products.insert id }
  | editProducts f id => exact { h with products := h.products.map id }
  | addPrice row id => exact { h with prices := h.prices.insert id }
  | editPrices f id => exact { h with prices := h.prices.map id }
  | subscribe =>
    exact { h with
      subscriptions := h.subscriptions.insert fun _ => rfl
      links := h.links.insert fun _ => rfl
      items := h.items.insert fun _ => rfl }
  | editStatus f only =>
    refine { h with subscriptions := h.subscriptions.map fun x => ?_ }
    obtain ⟨status, hf⟩ := only x
    rw [hf]
  | select =>
    exact { h with
      products := h.products.filter _
      prices := h.prices.filter _
      subscriptions := h.subscriptions.filter _
      links := h.links.filter _
      items := h.items.filter _ }

theorem ledgerChange (h : Fresh s) (hc : Ledger.Change s s') : Fresh s' := by
  cases hc with
  | first id new storable fits state =>
    refine { h with deliveries := fun e he n hn => ?_ }
    rw [List.length_append, List.length_singleton] at hn
    rcases List.mem_append.1 he with he | he
    · exact h.deliveries e he n (Nat.lt_of_succ_lt hn)
    · rw [List.mem_singleton.1 he, id, Ledger.nextId, Ne, Uuid.row_inj]
      omega
  | edit eventId f id event state =>
    refine { h with deliveries := fun d' hd' n hn => ?_ }
    obtain ⟨d, hd, rfl⟩ := List.mem_map.1 hd'
    rw [Ledger.apply_change (g := (·.id)) id]
    exact h.deliveries d hd n (by simpa [Ledger.change] using hn)

theorem evolves (h : Fresh s) (he : Evolves s s') : Fresh s' := by
  induction he with
  | refl => exact h
  | tail _ hc ih => exact hc.elim ih.change ih.ledgerChange

end Fresh

namespace Schema

theorem empty : Schema .empty where
  organizations := List.nodup_nil
  products := List.nodup_nil
  prices := List.nodup_nil
  subscriptions := List.nodup_nil
  links := List.nodup_nil
  items := List.nodup_nil
  deliveries := List.nodup_nil
  customer := by simp [Store.empty]
  subscriptionKey := List.nodup_nil
  linkKey := List.nodup_nil
  eventKey := List.nodup_nil
  priceProduct := by simp [Store.empty]
  subscriptionPrice := by simp [Store.empty]
  subscriptionCustomer := by simp [Store.empty]
  linkOrganization := by simp [Store.empty]
  linkSubscription := by simp [Store.empty]
  itemSubscription := by simp [Store.empty]
  itemPrice := by simp [Store.empty]
  amount := by simp [Store.empty]
  quantity := by simp [Store.empty]
  eventText := by simp [Store.empty]

theorem addOrganization (h : Schema s) (hf : Fresh s) (n : NewOrganization) (t : OrganizationType)
    (free : ∀ c, n.customerId = some c → s.holder? c = none) :
    Schema { s with organizations := s.organizations.insert organizationTag (n.row t) } :=
  { h with
    organizations := hf.organizations.nodup_insert h.organizations fun _ => rfl
    customer := by
      have new : ∀ o ∈ s.organizations.rows, ∀ c, o.customerId = some c → n.customerId ≠ some c :=
        fun o ho c hc hn => holder?_eq_none.1 (free c hn) o ho hc
      simp only [Table.rows_insert, List.mem_append, List.mem_singleton]
      rintro o (ho | rfl) p (hp | rfl) c hoc hpc
      · exact h.customer o ho p hp c hoc hpc
      · exact absurd hpc (new o ho c hoc)
      · exact absurd hoc (new p hp c hpc)
      · rfl
    subscriptionCustomer := fun x hx => exists_mem_insert (h.subscriptionCustomer x hx)
    linkOrganization := fun l hl => exists_mem_insert (h.linkOrganization l hl) }

theorem moveCustomer (h : Schema s) {o : Organization} {c : String} (mem : o ∈ s.organizations.rows)
    (free : ∀ p ∈ s.organizations.rows, p.id = o.id ∨ p.customerId ≠ some c)
    (unique : hasUniqueSubscriptions (s.moveCustomer o c).subscriptions = true) :
    Schema (s.moveCustomer o c) := by
  have same {p : Organization} (hp : p ∈ s.organizations.rows) (hpo : p.id = o.id) : p = o :=
    List.inj_on_of_nodup_map h.organizations hp mem hpo
  exact { h with
    organizations := nodup_map_map h.organizations (holdRow_id _ _)
    subscriptions := nodup_map_map h.subscriptions (renameRow_id _ _)
    customer := by
      intro p' hp' q' hq' d hpd hqd
      obtain ⟨p, hp, rfl⟩ := List.mem_map.1 hp'
      obtain ⟨q, hq, rfl⟩ := List.mem_map.1 hq'
      by_cases hpo : p.id = o.id <;> by_cases hqo : q.id = o.id
      · rw [same hp hpo, same hq hqo]
      · rw [holdRow, if_pos hpo] at hpd
        rw [holdRow, if_neg hqo] at hqd
        exact absurd (hqd.trans hpd.symm) ((free q hq).resolve_left hqo)
      · rw [holdRow, if_neg hpo] at hpd
        rw [holdRow, if_pos hqo] at hqd
        exact absurd (hpd.trans hqd.symm) ((free p hp).resolve_left hpo)
      · rw [holdRow, if_neg hpo] at hpd ⊢
        rw [holdRow, if_neg hqo] at hqd ⊢
        exact h.customer p hp q hq d hpd hqd
    subscriptionKey := of_decide_eq_true unique
    subscriptionPrice := by
      intro x' hx'
      obtain ⟨x, hx, rfl⟩ := List.mem_map.1 hx'
      rw [renameRow_price]
      exact h.subscriptionPrice x hx
    subscriptionCustomer := by
      intro x' hx'
      obtain ⟨x, hx, rfl⟩ := List.mem_map.1 hx'
      by_cases ho : o.customerId = some x.customerId
      · refine ⟨_, List.mem_map_of_mem mem, ?_⟩
        rw [renameRow, if_pos ho, holdRow, if_pos rfl]
      · obtain ⟨p, hp, hpx⟩ := h.subscriptionCustomer x hx
        have hpo : p.id ≠ o.id := fun hpo => ho (same hp hpo ▸ hpx)
        refine ⟨_, List.mem_map_of_mem hp, ?_⟩
        rw [renameRow, if_neg ho, holdRow, if_neg hpo]
        exact hpx
    linkOrganization := fun l hl => exists_id_map (holdRow_id _ _) (h.linkOrganization l hl)
    linkSubscription := fun l hl => exists_id_map (renameRow_id _ _) (h.linkSubscription l hl)
    itemSubscription := fun i hi => exists_id_map (renameRow_id _ _) (h.itemSubscription i hi) }

theorem freeCustomer (h : Schema s) {c : String}
    (unused : ∀ x ∈ s.subscriptions.rows, x.customerId ≠ c) : Schema (s.freeCustomer c) :=
  { h with
    organizations := nodup_map_map h.organizations (freeRow_id _)
    customer := by
      intro o' ho' p' hp' d hod hpd
      obtain ⟨o, ho, rfl⟩ := List.mem_map.1 ho'
      obtain ⟨p, hp, rfl⟩ := List.mem_map.1 hp'
      have hof := freeRow_of_customerId hod
      have hpf := freeRow_of_customerId hpd
      rw [hof] at hod ⊢
      rw [hpf] at hpd ⊢
      exact h.customer o ho p hp d hod hpd
    subscriptionCustomer := by
      intro x hx
      obtain ⟨o, ho, hox⟩ := h.subscriptionCustomer x hx
      refine ⟨_, List.mem_map_of_mem ho, ?_⟩
      rw [freeRow_of_ne]
      · exact hox
      · rw [hox]
        simpa using unused x hx
    linkOrganization := fun l hl => exists_id_map (freeRow_id _) (h.linkOrganization l hl) }

theorem subscribe (h : Schema s) (hf : Fresh s) {o : Organization} {c x : String} {p : CatalogPrice}
    (mem : o ∈ s.organizations.rows) (holds : o.customerId = some c) (price : p ∈ s.prices.rows)
    (fresh : ∀ y ∈ s.subscriptions.rows, y.customerId = c → y.subscriptionId ≠ x) :
    Schema (s.subscribe c x p.id o.id) := by
  have next : ∃ y ∈ (s.subscribe c x p.id o.id).subscriptions.rows, y.id = s.nextSubscription :=
    ⟨_, List.mem_append_right _ (List.mem_singleton_self _), rfl⟩
  exact { h with
    subscriptions := hf.subscriptions.nodup_insert h.subscriptions fun _ => rfl
    links := hf.links.nodup_insert h.links fun _ => rfl
    items := hf.items.nodup_insert h.items fun _ => rfl
    subscriptionKey := nodup_map_concat h.subscriptionKey fun y hy heq => by
      simp only [Table.nextRow, Prod.mk.injEq] at heq
      exact fresh y hy heq.1 heq.2
    linkKey := nodup_map_concat h.linkKey fun l hl heq => by
      simp only [Table.nextRow, Prod.mk.injEq] at heq
      obtain ⟨y, hy, hyl⟩ := h.linkSubscription l hl
      exact hf.subscriptions.id_ne_next hy (hyl.trans heq.2)
    subscriptionPrice := forall_mem_insert h.subscriptionPrice ⟨p, price, rfl⟩
    subscriptionCustomer := forall_mem_insert h.subscriptionCustomer ⟨o, mem, holds⟩
    linkOrganization := forall_mem_insert h.linkOrganization ⟨o, mem, rfl⟩
    linkSubscription :=
      forall_mem_insert (fun l hl => exists_mem_insert (h.linkSubscription l hl)) next
    itemSubscription :=
      forall_mem_insert (fun i hi => exists_mem_insert (h.itemSubscription i hi)) next
    itemPrice := forall_mem_insert h.itemPrice ⟨p, price, rfl⟩
    quantity := forall_mem_insert h.quantity Int.one_nonneg }

theorem editStatus (h : Schema s) {f : Subscription → Subscription}
    (only : ∀ x, ∃ status, f x = { x with status }) :
    Schema { s with subscriptions := s.subscriptions.map f } := by
  have id (x : Subscription) : (f x).id = x.id := by
    obtain ⟨status, hf⟩ := only x
    rw [hf]
  have key (x : Subscription) :
      ((f x).customerId, (f x).subscriptionId) = (x.customerId, x.subscriptionId) := by
    obtain ⟨status, hf⟩ := only x
    rw [hf]
  exact { h with
    subscriptions := nodup_map_map h.subscriptions id
    subscriptionKey := by
      rw [Table.rows_map, map_map_eq key]
      exact h.subscriptionKey
    subscriptionPrice := by
      intro x' hx'
      obtain ⟨x, hx, rfl⟩ := List.mem_map.1 hx'
      obtain ⟨status, hf⟩ := only x
      rw [hf]
      exact h.subscriptionPrice x hx
    subscriptionCustomer := by
      intro x' hx'
      obtain ⟨x, hx, rfl⟩ := List.mem_map.1 hx'
      obtain ⟨status, hf⟩ := only x
      rw [hf]
      exact h.subscriptionCustomer x hx
    linkSubscription := fun l hl => exists_id_map id (h.linkSubscription l hl)
    itemSubscription := fun i hi => exists_id_map id (h.itemSubscription i hi) }

/-- A selection that follows the references keeps the rules. -/
theorem select (h : Schema s) {k : Selection} (closed : k.Closed s) : Schema (s.select k) := by
  exact { h with
    products := nodup_map_filter _ h.products
    prices := nodup_map_filter _ h.prices
    subscriptions := nodup_map_filter _ h.subscriptions
    links := nodup_map_filter _ h.links
    items := nodup_map_filter _ h.items
    subscriptionKey := nodup_map_filter _ h.subscriptionKey
    linkKey := nodup_map_filter _ h.linkKey
    priceProduct := fun p hp => by
      obtain ⟨hp, hk⟩ := List.mem_filter.1 hp
      obtain ⟨q, hq, hqp⟩ := h.priceProduct p hp
      exact ⟨q, List.mem_filter.2 ⟨hq, closed.price p hp hk q hq hqp⟩, hqp⟩
    subscriptionPrice := fun x hx => by
      obtain ⟨hx, hk⟩ := List.mem_filter.1 hx
      obtain ⟨p, hp, hpx⟩ := h.subscriptionPrice x hx
      exact ⟨p, List.mem_filter.2 ⟨hp, closed.subscription x hx hk p hp hpx⟩, hpx⟩
    subscriptionCustomer := fun x hx => h.subscriptionCustomer x (List.mem_filter.1 hx).1
    linkOrganization := fun l hl => h.linkOrganization l (List.mem_filter.1 hl).1
    linkSubscription := fun l hl => by
      obtain ⟨hl, hk⟩ := List.mem_filter.1 hl
      obtain ⟨x, hx, hxl⟩ := h.linkSubscription l hl
      exact ⟨x, List.mem_filter.2 ⟨hx, (closed.link l hl x hx hxl).1 hk⟩, hxl⟩
    itemSubscription := fun i hi => by
      obtain ⟨hi, hk⟩ := List.mem_filter.1 hi
      obtain ⟨x, hx, hxi⟩ := h.itemSubscription i hi
      obtain ⟨p, hp, hpi⟩ := h.itemPrice i hi
      exact ⟨x, List.mem_filter.2 ⟨hx, ((closed.item i hi x hx hxi p hp hpi).1 hk).1⟩, hxi⟩
    itemPrice := fun i hi => by
      obtain ⟨hi, hk⟩ := List.mem_filter.1 hi
      obtain ⟨x, hx, hxi⟩ := h.itemSubscription i hi
      obtain ⟨p, hp, hpi⟩ := h.itemPrice i hi
      exact ⟨p, List.mem_filter.2 ⟨hp, ((closed.item i hi x hx hxi p hp hpi).1 hk).2⟩, hpi⟩
    amount := fun p hp => h.amount p (List.mem_filter.1 hp).1
    quantity := fun i hi => h.quantity i (List.mem_filter.1 hi).1 }

/-- Every change keeps the rules, if the ids are free that it gives out. -/
theorem change (h : Schema s) (hf : Fresh s) (hc : Change s s') : Schema s' := by
  cases hc with
  | addOrganization n t free => exact h.addOrganization hf n t fun c hc => (free c hc).1
  | moveCustomer mem free unique storable => exact h.moveCustomer mem free unique
  | freeCustomer unused => exact h.freeCustomer unused
  | addProduct row id =>
    exact { h with
      products := hf.products.nodup_insert h.products id
      priceProduct := fun p hp => exists_mem_insert (h.priceProduct p hp) }
  | editProducts f id =>
    exact { h with
      products := nodup_map_map h.products id
      priceProduct := fun p hp => exists_id_map id (h.priceProduct p hp) }
  | addPrice row id sound =>
    exact { h with
      prices := hf.prices.nodup_insert h.prices id
      priceProduct := forall_mem_insert h.priceProduct (sound _).2
      subscriptionPrice := fun x hx => exists_mem_insert (h.subscriptionPrice x hx)
      itemPrice := fun i hi => exists_mem_insert (h.itemPrice i hi)
      amount := forall_mem_insert h.amount (sound _).1 }
  | editPrices f id sound =>
    exact { h with
      prices := nodup_map_map h.prices id
      priceProduct := by
        intro p' hp'
        obtain ⟨p, hp, rfl⟩ := List.mem_map.1 hp'
        rcases sound p hp with hf | hf
        · rw [hf]; exact h.priceProduct p hp
        · exact hf.2
      subscriptionPrice := fun x hx => exists_id_map id (h.subscriptionPrice x hx)
      itemPrice := fun i hi => exists_id_map id (h.itemPrice i hi)
      amount := by
        intro p' hp'
        obtain ⟨p, hp, rfl⟩ := List.mem_map.1 hp'
        rcases sound p hp with hf | hf
        · rw [hf]; exact h.amount p hp
        · exact hf.1 }
  | subscribe mem holds price fresh => exact h.subscribe hf mem holds price fresh
  | editStatus f only => exact h.editStatus only
  | select closed => exact h.select closed

theorem ledgerChange (h : Schema s) (hf : Fresh s) (hc : Ledger.Change s s') : Schema s' := by
  have text : Ledger.Textual s' := Ledger.Textual.ledgerChange h.eventText hc
  cases hc with
  | first id new storable fits state =>
    exact { h with
      deliveries := nodup_map_concat h.deliveries fun e he => by
        rw [id]
        exact hf.deliveries e he _ (Nat.lt_succ_self _)
      eventKey := nodup_map_concat h.eventKey fun e he => by
        simpa [Ledger.row?] using List.find?_eq_none.1 new e he
      eventText := text }
  | edit eventId f id event state =>
    exact { h with
      deliveries := nodup_map_map h.deliveries (Ledger.apply_change (g := (·.id)) id eventId)
      eventKey := nodup_map_map h.eventKey (Ledger.apply_change (g := (·.eventId)) event eventId)
      eventText := text }

/-- The customers that organizations hold are different. -/
theorem customers_nodup (h : Schema s) : (s.organizations.rows.filterMap (·.customerId)).Nodup := by
  rw [List.Nodup, List.pairwise_filterMap]
  refine (List.pairwise_map.1 h.organizations).imp_of_mem fun ho hp hid => ?_
  rintro c hoc d hpd rfl
  exact hid (congrArg (·.id) (h.customer _ ho _ hp c hoc hpd))

/-- The ids of a customer's subscriptions are the ids of nobody else's. -/
theorem mem_subscriptionsOf (h : Schema s) {y : Subscription} (hy : y ∈ s.subscriptions.rows)
    (c : String) : y.id ∈ s.subscriptionsOf c ↔ y.customerId = c := by
  simp only [subscriptionsOf, List.mem_map, List.mem_filter, beq_iff_eq]
  constructor
  · rintro ⟨z, ⟨hz, hzc⟩, hid⟩
    rw [← List.inj_on_of_nodup_map h.subscriptions hz hy hid, hzc]
  · exact fun hc => ⟨y, ⟨hy, hc⟩, rfl⟩

/-- When a customer is removed, the subscriptions of the others stay. -/
theorem subscriptions_forgetCustomer (h : Schema s) (c : String) :
    (s.forgetCustomer c).subscriptions = s.subscriptions.filter fun y => y.customerId != c := by
  refine congrArg (Table.mk · s.subscriptions.issued) (List.filter_congr fun y hy => ?_)
  simp only [List.contains_eq_mem, h.mem_subscriptionsOf hy c]
  rfl

/-- The rules hold however the database evolves. -/
theorem evolves (h : Schema s) (hf : Fresh s) (he : Evolves s s') : Schema s' := by
  induction he with
  | refl => exact h
  | tail he hc ih => exact hc.elim (ih.change (hf.evolves he)) (ih.ledgerChange (hf.evolves he))

end Schema

end OrgBilling.Store
