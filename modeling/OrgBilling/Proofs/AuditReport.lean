import Mathlib.Data.List.Forall2
import OrgBilling.Proofs.Keys
import OrgBilling.Service.Audit

/-!
# What the consistency checks report

A check is a query with joins and conditions of its own. Here stands what the queries are for: where
a rule is broken (`Check.Broken`), and which violation each such place is to be reported with
(`Exact`). Whatever the tables hold, as long as ids are unique and references lead to a row
(`Referential`), the checks find one violation for each place, in the order of the rows, and nothing
else (`exact_run`). So the report counts the broken rules, and calls the store healthy when there is
none (`audit_exact`).
-/

namespace OrgBilling.Audit

open Store Transaction
open Check (run linksOf)

variable {s : Store}

/-- What the checks rely on: the keys of the tables that they join, and the references between them.
-/
structure Referential (s : Store) : Prop where
  organizations : (s.organizations.rows.map (·.id)).Nodup
  subscriptions : (s.subscriptions.rows.map (·.id)).Nodup
  products : (s.products.rows.map (·.id)).Nodup
  linkOrganization : ∀ l ∈ s.links.rows, ∃ o ∈ s.organizations.rows, o.id = l.organization
  linkSubscription : ∀ l ∈ s.links.rows, ∃ x ∈ s.subscriptions.rows, x.id = l.subscription
  priceProduct : ∀ p ∈ s.prices.rows, ∃ q ∈ s.products.rows, q.id = p.product

/-! ### Broken rules -/

/-- An organization is linked to a subscription whose customer it does not hold. -/
def Mismatched (s : Store) (l : OrganizationLink) : Prop :=
  ∃ o ∈ s.organizations.rows, ∃ x ∈ s.subscriptions.rows,
    o.id = l.organization ∧ x.id = l.subscription ∧ o.customerId ≠ some x.customerId

/-- A subscription has no line item. -/
def Itemless (s : Store) (x : Subscription) : Prop :=
  ∀ i ∈ s.items.rows, i.subscription ≠ x.id

instance (s : Store) : DecidablePred (Mismatched s) := fun l =>
  inferInstanceAs (Decidable (∃ o ∈ s.organizations.rows, ∃ x ∈ s.subscriptions.rows,
    o.id = l.organization ∧ x.id = l.subscription ∧ o.customerId ≠ some x.customerId))

instance (s : Store) : DecidablePred (Itemless s) := fun x =>
  inferInstanceAs (Decidable (∀ i ∈ s.items.rows, i.subscription ≠ x.id))

/-- The rule of a check is broken in a store. -/
def Check.Broken (s : Store) : Check → Prop
  | singleActivePrice => 2 ≤ s.activePrices.length
  | subscriptionLinkedOnce => ∃ x ∈ s.subscriptions.rows, (linksOf s x).length ≠ 1
  | subscriptionCustomerMatches => ∃ l ∈ s.links.rows, Mismatched s l
  | subscriptionHasItems => ∃ x ∈ s.subscriptions.rows, Itemless s x
  | activeCatalogSynced =>
    (∃ p ∈ s.products.rows, p.isActive = true ∧ p.productId = none) ∨
      ∃ p ∈ s.prices.rows, p.isActive = true ∧ p.priceId = none

instance (s : Store) : DecidablePred (Check.Broken s)
  | .singleActivePrice => inferInstanceAs (Decidable (2 ≤ s.activePrices.length))
  | .subscriptionLinkedOnce =>
    inferInstanceAs (Decidable (∃ x ∈ s.subscriptions.rows, (linksOf s x).length ≠ 1))
  | .subscriptionCustomerMatches =>
    inferInstanceAs (Decidable (∃ l ∈ s.links.rows, Mismatched s l))
  | .subscriptionHasItems =>
    inferInstanceAs (Decidable (∃ x ∈ s.subscriptions.rows, Itemless s x))
  | .activeCatalogSynced =>
    inferInstanceAs (Decidable
      ((∃ p ∈ s.products.rows, p.isActive = true ∧ p.productId = none) ∨
        ∃ p ∈ s.prices.rows, p.isActive = true ∧ p.priceId = none))

/-! ### Violations -/

/-- A violation of a check says which organizations are affected and what is wrong. -/
structure Violation.Says (v : Violation) (c : Check) (organizations : List Uuid)
    (context : List (String × Json)) : Prop where
  invariant : v.invariant = c.name
  organizations : v.organizations = organizations
  context : v.context = .object context

/-- A subscription without items is reported with each organization that it is linked to, or once
if there is none. -/
def itemlessPlaces (s : Store) (x : Subscription) : List (Subscription × List Uuid) :=
  if linksOf s x = [] then [(x, [])]
  else (linksOf s x).map fun l => (x, [l.organization])

/-- The violations of each check are those of the places where its rule is broken: one for each
place, in the order of the rows, and no other. -/
structure Exact (s : Store) (found : Check → List Violation) : Prop where
  /-- One for all active prices, if there are several. It lists them in the order of their ids. -/
  severalPrices : 2 ≤ s.activePrices.length →
    ∃ (v : Violation) (ps : List CatalogPrice), found .singleActivePrice = [v] ∧
    ps.Perm s.activePrices ∧ ps.Pairwise (fun p q => p.id.value ≤ q.id.value) ∧
    v.Says .singleActivePrice []
      [("prices", .array (ps.map fun p => .object
        [("id", p.id.toJson), ("price_id", .ofOption p.priceId),
         ("unit_amount", .int p.unitAmount)]))]
  onePrice : s.activePrices.length ≤ 1 → found .singleActivePrice = []
  /-- One for each subscription that is not linked once. -/
  links : List.Forall₂
    (fun x v => v.Says .subscriptionLinkedOnce ((linksOf s x).map (·.organization))
      [("subscription_id", .string x.subscriptionId), ("customer_id", .string x.customerId),
       ("link_count", .int (linksOf s x).length)])
    (s.subscriptions.rows.filter fun x => (linksOf s x).length ≠ 1) (found .subscriptionLinkedOnce)
  /-- One for each link to an organization that does not hold the customer. -/
  customers : List.Forall₂
    (fun l v => ∃ o ∈ s.organizations.rows, ∃ x ∈ s.subscriptions.rows,
      o.id = l.organization ∧ x.id = l.subscription ∧
      v.Says .subscriptionCustomerMatches [o.id]
        [("subscription_id", .string x.subscriptionId), ("customer_id", .string x.customerId),
         ("org_customer_id", .ofOption o.customerId)])
    (s.links.rows.filter (Mismatched s ·)) (found .subscriptionCustomerMatches)
  /-- One for each link of a subscription without items, or one if it has no link. -/
  items : List.Forall₂
    (fun place v => v.Says .subscriptionHasItems place.2
      [("subscription_id", .string place.1.subscriptionId)])
    ((s.subscriptions.rows.filter (Itemless s ·)).flatMap (itemlessPlaces s))
    (found .subscriptionHasItems)
  /-- One for each active product and then one for each active price without a provider's id. -/
  catalog : ∃ ofProducts ofPrices, found .activeCatalogSynced = ofProducts ++ ofPrices ∧
    List.Forall₂
      (fun p v => v.Says .activeCatalogSynced [] [("kind", .string "product"), ("id", p.id.toJson)])
      (s.products.rows.filter fun p => p.isActive = true ∧ p.productId = none) ofProducts ∧
    List.Forall₂
      (fun p v => v.Says .activeCatalogSynced [] [("kind", .string "price"), ("id", p.id.toJson)])
      (s.prices.rows.filter fun p => p.isActive = true ∧ p.priceId = none) ofPrices

/-! ### The checks one by one -/

section Places

variable {α β γ : Type} {R : γ → β → Prop} {F : α → List β} {p : α → Prop} [DecidablePred p]

/-- What is collected from the rows belongs to the places that are collected from the rows with `p`,
if that is so for each row. -/
theorem forall₂_flatMap_filter {G : α → List γ} {xs : List α}
    (hit : ∀ x ∈ xs, p x → List.Forall₂ R (G x) (F x)) (miss : ∀ x ∈ xs, ¬ p x → F x = []) :
    List.Forall₂ R ((xs.filter (p ·)).flatMap G) (xs.flatMap F) := by
  induction xs with
  | nil => exact .nil
  | cons x xs ih =>
    obtain ⟨hitx, hits⟩ := List.forall_mem_cons.1 hit
    obtain ⟨missx, misses⟩ := List.forall_mem_cons.1 miss
    by_cases hp : p x
    · rw [List.filter_cons_of_pos (by simpa using hp), List.flatMap_cons, List.flatMap_cons]
      exact List.rel_append (hitx hp) (ih hits misses)
    · rw [List.filter_cons_of_neg (by simpa using hp), List.flatMap_cons, missx hp,
        List.nil_append]
      exact ih hits misses

/-- One place for each row with `p`. -/
theorem forall₂_filter_flatMap {R : α → β → Prop} {xs : List α}
    (hit : ∀ x ∈ xs, p x → ∃ v, F x = [v] ∧ R x v) (miss : ∀ x ∈ xs, ¬ p x → F x = []) :
    List.Forall₂ R (xs.filter (p ·)) (xs.flatMap F) := by
  have places := forall₂_flatMap_filter (R := R) (G := fun x => [x]) (fun x hx hp => by
    obtain ⟨v, hv, hR⟩ := hit x hx hp
    rw [hv]
    exact .cons hR .nil) miss
  rwa [List.flatMap_singleton'] at places

end Places

theorem exact_severalPrices (h : 2 ≤ s.activePrices.length) :
    ∃ (v : Violation) (ps : List CatalogPrice), run s .singleActivePrice = [v] ∧
    ps.Perm s.activePrices ∧ ps.Pairwise (fun p q => p.id.value ≤ q.id.value) ∧
    v.Says .singleActivePrice []
      [("prices", .array (ps.map fun p => .object
        [("id", p.id.toJson), ("price_id", .ofOption p.priceId),
         ("unit_amount", .int p.unitAmount)]))] := by
  have hseveral : ¬ (sortPrices s.activePrices).length ≤ 1 := by
    rw [(perm_sortPrices _).length_eq]
    omega
  exact ⟨_, _, if_neg hseveral, perm_sortPrices _, pairwise_sortPrices _, rfl, rfl, rfl⟩

theorem exact_onePrice (h : s.activePrices.length ≤ 1) : run s .singleActivePrice = [] :=
  if_pos (by rwa [(perm_sortPrices _).length_eq])

theorem exact_links : List.Forall₂
    (fun x v => v.Says .subscriptionLinkedOnce ((linksOf s x).map (·.organization))
      [("subscription_id", .string x.subscriptionId), ("customer_id", .string x.customerId),
       ("link_count", .int (linksOf s x).length)])
    (s.subscriptions.rows.filter fun x => (linksOf s x).length ≠ 1)
    (run s .subscriptionLinkedOnce) :=
  forall₂_filter_flatMap (fun _ _ hp => ⟨_, if_neg hp, rfl, rfl, rfl⟩)
    fun _ _ hp => if_pos (not_not.1 hp)

/-- Both ends of a link are there. -/
theorem exists_ends (h : Referential s) {l : OrganizationLink} (hl : l ∈ s.links.rows) :
    ∃ o ∈ s.organizations.rows, ∃ x ∈ s.subscriptions.rows,
      o.id = l.organization ∧ x.id = l.subscription ∧
      s.organization? l.organization = some o ∧ s.subscription? l.subscription = some x := by
  obtain ⟨o, ho, hol⟩ := h.linkOrganization l hl
  obtain ⟨x, hx, hxl⟩ := h.linkSubscription l hl
  refine ⟨o, ho, x, hx, hol, hxl, ?_, ?_⟩
  · rw [← hol]
    exact find?_of_nodup h.organizations ho
  · rw [← hxl]
    exact find?_of_nodup h.subscriptions hx

theorem exact_customers (h : Referential s) : List.Forall₂
    (fun l v => ∃ o ∈ s.organizations.rows, ∃ x ∈ s.subscriptions.rows,
      o.id = l.organization ∧ x.id = l.subscription ∧
      v.Says .subscriptionCustomerMatches [o.id]
        [("subscription_id", .string x.subscriptionId), ("customer_id", .string x.customerId),
         ("org_customer_id", .ofOption o.customerId)])
    (s.links.rows.filter (Mismatched s ·)) (run s .subscriptionCustomerMatches) := by
  refine forall₂_filter_flatMap (fun l hl hp => ?_) fun l hl hp => ?_
  · obtain ⟨o, ho, x, hx, hol, hxl, hne⟩ := hp
    obtain ⟨o', ho', x', hx', hol', hxl', hfo, hfx⟩ := exists_ends h hl
    rw [List.inj_on_of_nodup_map h.organizations ho' ho (hol'.trans hol.symm)] at hfo
    rw [List.inj_on_of_nodup_map h.subscriptions hx' hx (hxl'.trans hxl.symm)] at hfx
    rw [Check.customerMismatch, hfo, hfx]
    exact ⟨_, if_neg hne, o, ho, x, hx, hol, hxl, rfl, rfl, rfl⟩
  · obtain ⟨o, ho, x, hx, hol, hxl, hfo, hfx⟩ := exists_ends h hl
    rw [Check.customerMismatch, hfo, hfx]
    refine if_pos ?_
    by_contra hne
    exact hp ⟨o, ho, x, hx, hol, hxl, hne⟩

theorem any_item_eq_false {x : Subscription} :
    (s.items.rows.any fun i => i.subscription == x.id) = false ↔ Itemless s x := by
  simp [Itemless]

theorem exact_items : List.Forall₂
    (fun place v => v.Says .subscriptionHasItems place.2
      [("subscription_id", .string place.1.subscriptionId)])
    ((s.subscriptions.rows.filter (Itemless s ·)).flatMap (itemlessPlaces s))
    (run s .subscriptionHasItems) := by
  refine forall₂_flatMap_filter (fun x _ hp => ?_) fun x _ hp => ?_
  · rw [Check.withoutItems, any_item_eq_false.2 hp, itemlessPlaces]
    cases linksOf s x with
    | nil => exact .cons ⟨rfl, rfl, rfl⟩ .nil
    | cons l ls =>
      rw [if_neg (List.cons_ne_nil l ls)]
      refine List.forall₂_map_left_iff.2 (List.forall₂_map_right_iff.2 ?_)
      exact List.forall₂_same.2 fun _ _ => ⟨rfl, rfl, rfl⟩
  · refine if_pos ?_
    rwa [← any_item_eq_false, Bool.not_eq_false] at hp

theorem exact_catalog (h : Referential s) :
    ∃ ofProducts ofPrices, run s .activeCatalogSynced = ofProducts ++ ofPrices ∧
    List.Forall₂
      (fun p v => v.Says .activeCatalogSynced [] [("kind", .string "product"), ("id", p.id.toJson)])
      (s.products.rows.filter fun p => p.isActive = true ∧ p.productId = none) ofProducts ∧
    List.Forall₂
      (fun p v => v.Says .activeCatalogSynced [] [("kind", .string "price"), ("id", p.id.toJson)])
      (s.prices.rows.filter fun p => p.isActive = true ∧ p.priceId = none) ofPrices := by
  refine ⟨_, _, rfl, ?_, ?_⟩
  · refine forall₂_filter_flatMap (fun p _ hp => ?_) fun p _ hp => ?_
    · exact ⟨_, if_pos (by simp [hp]), rfl, rfl, rfl⟩
    · exact if_neg (by simpa using hp)
  · refine forall₂_filter_flatMap (fun p hmem hp => ?_) fun p _ hp => ?_
    · obtain ⟨q, hq, hqp⟩ := h.priceProduct p hmem
      have hfound : s.product? p.product = some q := by
        rw [← hqp]
        exact find?_of_nodup h.products hq
      rw [Check.unsyncedPrice, if_pos (by simp [hp]), hfound]
      exact ⟨_, rfl, rfl, rfl, rfl⟩
    · exact if_neg (by simpa using hp)

theorem exact_run (h : Referential s) : Exact s (run s) where
  severalPrices := exact_severalPrices
  onePrice := exact_onePrice
  links := exact_links
  customers := exact_customers h
  items := exact_items
  catalog := exact_catalog h

/-! ### The report -/

section Exact

variable {found : Check → List Violation}

theorem eq_nil_of_forall₂ {α β : Type} {R : α → β → Prop} {xs : List α} {ys : List β}
    (h : List.Forall₂ R xs ys) : ys = [] ↔ xs = [] := by
  rw [← List.length_eq_zero_iff, ← h.length_eq, List.length_eq_zero_iff]

theorem itemlessPlaces_ne_nil (s : Store) (x : Subscription) : itemlessPlaces s x ≠ [] := by
  unfold itemlessPlaces
  split
  · exact List.cons_ne_nil _ _
  · next hne => exact mt List.map_eq_nil_iff.1 hne

/-- A check finds nothing exactly where its rule is kept. -/
theorem Exact.eq_nil_iff (h : Exact s found) (c : Check) : found c = [] ↔ ¬ c.Broken s := by
  cases c with
  | singleActivePrice =>
    by_cases hprices : 2 ≤ s.activePrices.length
    · obtain ⟨v, _, hv, -⟩ := h.severalPrices hprices
      simp [hv, Check.Broken, hprices]
    · simp [h.onePrice (by omega), Check.Broken, hprices]
  | subscriptionLinkedOnce =>
    rw [eq_nil_of_forall₂ h.links]
    simp [Check.Broken]
  | subscriptionCustomerMatches =>
    rw [eq_nil_of_forall₂ h.customers]
    simp [Check.Broken]
  | subscriptionHasItems =>
    rw [eq_nil_of_forall₂ h.items]
    simp [Check.Broken, itemlessPlaces_ne_nil]
  | activeCatalogSynced =>
    obtain ⟨ofProducts, ofPrices, heq, hproducts, hprices⟩ := h.catalog
    rw [heq, List.append_eq_nil_iff, eq_nil_of_forall₂ hproducts, eq_nil_of_forall₂ hprices]
    simp [Check.Broken]

theorem forall_mem_of_forall₂ {α β : Type} {R : α → β → Prop} {p : β → Prop} {xs : List α}
    {ys : List β} (h : List.Forall₂ R xs ys) (hR : ∀ x y, R x y → p y) : ∀ y ∈ ys, p y := by
  induction h with
  | nil => exact List.forall_mem_nil p
  | cons hxy _ ih => exact List.forall_mem_cons.2 ⟨hR _ _ hxy, ih⟩

/-- A violation carries the name of the check that finds it. -/
theorem Exact.invariant (h : Exact s found) {c : Check} {v : Violation} (hv : v ∈ found c) :
    v.invariant = c.name := by
  cases c with
  | singleActivePrice =>
    by_cases hprices : 2 ≤ s.activePrices.length
    · obtain ⟨w, _, hw, -, -, told⟩ := h.severalPrices hprices
      rw [hw, List.mem_singleton] at hv
      rw [hv, told.invariant]
    · simp [h.onePrice (by omega)] at hv
  | subscriptionLinkedOnce =>
    exact forall_mem_of_forall₂ h.links (fun _ _ told => told.invariant) v hv
  | subscriptionCustomerMatches =>
    exact forall_mem_of_forall₂ h.customers
      (fun _ _ ⟨_, _, _, _, _, _, told⟩ => told.invariant) v hv
  | subscriptionHasItems =>
    exact forall_mem_of_forall₂ h.items (fun _ _ told => told.invariant) v hv
  | activeCatalogSynced =>
    obtain ⟨ofProducts, ofPrices, heq, hproducts, hprices⟩ := h.catalog
    rcases List.mem_append.1 (heq ▸ hv) with hv | hv
    · exact forall_mem_of_forall₂ hproducts (fun _ _ told => told.invariant) v hv
    · exact forall_mem_of_forall₂ hprices (fun _ _ told => told.invariant) v hv

end Exact

theorem Check.name_injective : Function.Injective Check.name := by
  intro c d h
  cases c <;> cases d <;> first | rfl | simp [Check.name] at h

/-! ### Running the checks -/

/-- What the checks with a list of names find. -/
def findings (s : Store) (checks : List Check) : List Violation :=
  checks.flatMap (run s)

theorem Check.byName?_name (c : Check) : Check.byName? c.name = some c := by
  cases c <;> rfl

/-- A check only reads. -/
theorem on_runNamed (c : Check) (s : Store) : (runNamed c.name).on s = (.ok (run s c), s) := by
  rw [runNamed, Check.byName?_name]
  rfl

/-- Checks that are run one after the other all see the same tables. -/
theorem on_runEach (checks : List Check) (s : Store) :
    (runEach (checks.map Check.name)).on s = (.ok (findings s checks), s) := by
  induction checks with
  | nil => rfl
  | cons c checks ih =>
    rw [List.map_cons, runEach, Call.on_bind, on_runNamed]
    simp only [Call.on_bind, ih]
    rfl

theorem on_runAll (s : Store) : runAll.on s = (.ok (.of (findings s Check.all)), s) := by
  rw [runAll, Call.on_bind, on_runEach]
  rfl

/-- The names of the checks that find something, each once. -/
theorem perm_names (h : Referential s) :
    ((findings s Check.all).map (·.invariant)).eraseDups.Perm
      ((Check.all.filter (Check.Broken s ·)).map Check.name) := by
  have hnodup : ((Check.all.filter (Check.Broken s ·)).map Check.name).Nodup :=
    ((by decide : Check.all.Nodup).filter _).map Check.name_injective
  refine (List.perm_ext_iff_of_nodup (nodup_eraseDups _) hnodup).2 fun name => ?_
  simp only [List.mem_eraseDups, List.mem_map, List.mem_filter, decide_eq_true_iff]
  constructor
  · rintro ⟨v, hv, rfl⟩
    obtain ⟨c, hc, hv⟩ := List.mem_flatMap.1 hv
    have hfound : run s c ≠ [] := List.ne_nil_of_mem hv
    rw [Ne, (exact_run h).eq_nil_iff, not_not] at hfound
    exact ⟨c, ⟨hc, hfound⟩, ((exact_run h).invariant hv).symm⟩
  · rintro ⟨c, ⟨hc, hbroken⟩, rfl⟩
    have hfound : run s c ≠ [] := by rwa [Ne, (exact_run h).eq_nil_iff, not_not]
    obtain ⟨v, hv⟩ := List.exists_mem_of_ne_nil _ hfound
    exact ⟨v, List.mem_flatMap.2 ⟨c, hc, hv⟩, (exact_run h).invariant hv⟩

theorem checksFailed_findings (h : Referential s) :
    (Report.of (findings s Check.all)).checksFailed =
      (Check.all.filter (Check.Broken s ·)).length := by
  rw [← List.length_map (f := Check.name)]
  exact (perm_names h).length_eq

theorem healthy_findings (h : Referential s) :
    (Report.of (findings s Check.all)).healthy = true ↔ ∀ c : Check, ¬ c.Broken s := by
  have hmem (c : Check) : c ∈ Check.all := by cases c <;> decide
  rw [Report.of, List.isEmpty_iff, findings, List.flatMap_eq_nil_iff]
  exact ⟨fun hnil c => ((exact_run h).eq_nil_iff c).1 (hnil c (hmem c)),
    fun hkept c _ => ((exact_run h).eq_nil_iff c).2 (hkept c)⟩

/-- A store in which every rule is broken: two active prices that have not been pushed, and a
subscription without items, linked to an organization without a customer and to another one. -/
def neglected : Store :=
  { Store.empty with
    organizations := ⟨[
      ⟨⟨1⟩, "acme", "Acme", .company, true, none, none, none, 0⟩,
      ⟨⟨2⟩, "guild", "Guild", .community, true, none, none, some "cus_1", 0⟩], 2⟩
    products := ⟨[⟨⟨3⟩, some "prod_1", "Plan", "", true, none⟩], 1⟩
    prices := ⟨[
      ⟨⟨5⟩, none, "usd", ⟨3⟩, 900, true, .year, none⟩,
      ⟨⟨4⟩, none, "usd", ⟨3⟩, 500, true, .month, none⟩], 2⟩
    subscriptions := ⟨[⟨⟨6⟩, "cus_1", "sub_1", ⟨4⟩, .active⟩], 1⟩
    links := ⟨[⟨⟨7⟩, ⟨1⟩, ⟨6⟩⟩, ⟨⟨8⟩, ⟨2⟩, ⟨6⟩⟩], 2⟩ }

theorem referential_neglected : Referential neglected := by
  constructor <;> decide

end OrgBilling.Audit
