import OrgBilling.Proofs.DefaultPrice
import OrgBilling.Proofs.Store.IndexSize

/-!
# When a subscription can be recorded

Recording a subscription of a customer takes two transactions: one that finds or makes the default
price, and one that puts in the subscription with its link and its line item. `Subscribable` collects
what both of them ask for, and `Hindrance` says how it ends where one of these things is missing: the
first that is missing decides. Nothing else can go wrong, since the new rows refer to rows that are
there, and the link is of a subscription that is new (`adds_subscription`).

One of these things is easily forgotten: the index of the subscriptions has to hold the customer and
the provider's id, so a long id is refused (`not_subscribable_by_rows`).
-/

namespace OrgBilling

open Store Transaction

variable {s : Store} {c x : String}

namespace Store

/-- What it takes to record a subscription of a customer. -/
structure Subscribable (c x : String) (s : Store) : Prop where
  /-- There is a price to put it on, or none is in the way of making one. -/
  price : s.activePrices.length ≤ 1
  held : ∃ o ∈ s.organizations.rows, o.customerId = some c
  new : ∀ y ∈ s.subscriptions.rows, y.customerId = c → y.subscriptionId ≠ x
  /-- The index has room for its key. -/
  indexed : Index.refusal? subscriptionIndex [c, x] = none

/-- Why a subscription cannot be recorded. A reason counts where none of those before it does. -/
inductive Hindrance (c x : String) (s : Store) : BillingError → Prop
  | severalPrices (several : 2 ≤ s.activePrices.length) :
      Hindrance c x s (.internal .severalActivePrices)
  | nobody (price : s.activePrices.length ≤ 1)
      (unheld : ∀ o ∈ s.organizations.rows, o.customerId ≠ some c) :
      Hindrance c x s (.notFound (.customerHolder c))
  | duplicate (price : s.activePrices.length ≤ 1)
      (held : ∃ o ∈ s.organizations.rows, o.customerId = some c)
      (known : ∃ y ∈ s.subscriptions.rows, y.customerId = c ∧ y.subscriptionId = x) :
      Hindrance c x s (.database (.duplicateKey subscriptionIndex))
  | tooLong (price : s.activePrices.length ≤ 1)
      (held : ∃ o ∈ s.organizations.rows, o.customerId = some c)
      (new : ∀ y ∈ s.subscriptions.rows, y.customerId = c → y.subscriptionId ≠ x)
      {cause : DatabaseError} (refused : Index.refusal? subscriptionIndex [c, x] = some cause) :
      Hindrance c x s (.database cause)

theorem subscribable_or_hindrance (c x : String) (s : Store) :
    s.Subscribable c x ∨ ∃ e, s.Hindrance c x e := by
  by_cases price : s.activePrices.length ≤ 1
  swap
  · exact .inr ⟨_, .severalPrices (by omega)⟩
  by_cases held : ∃ o ∈ s.organizations.rows, o.customerId = some c
  swap
  · exact .inr ⟨_, .nobody price fun o ho hoc => held ⟨o, ho, hoc⟩⟩
  by_cases known : ∃ y ∈ s.subscriptions.rows, y.customerId = c ∧ y.subscriptionId = x
  · exact .inr ⟨_, .duplicate price held known⟩
  have new : ∀ y ∈ s.subscriptions.rows, y.customerId = c → y.subscriptionId ≠ x :=
    fun y hy hyc hyx => known ⟨y, hy, hyc, hyx⟩
  cases refused : Index.refusal? subscriptionIndex [c, x] with
  | some cause => exact .inr ⟨_, .tooLong price held new refused⟩
  | none => exact .inl ⟨price, held, new, refused⟩

theorem exists_holder? (held : ∃ o ∈ s.organizations.rows, o.customerId = some c) :
    ∃ o, s.holder? c = some o := by
  refine Option.ne_none_iff_exists'.1 fun none => ?_
  obtain ⟨o, ho, hoc⟩ := held
  exact holder?_eq_none.1 none o ho hoc

/-! ### The rows of a new subscription -/

/-- The rows that a new subscription refers to are there, so they can be put in. -/
theorem Schema.commits_insertLinkedSubscription (h : Schema s) (hf : Fresh s)
    (hc : isStorable c = true) (hx : isStorable x = true) {o : Organization}
    (holder : s.holder? c = some o)
    (new : ∀ y ∈ s.subscriptions.rows, y.customerId = c → y.subscriptionId ≠ x)
    (indexed : Index.refusal? subscriptionIndex [c, x] = none) {p : CatalogPrice}
    (price : p ∈ s.prices.rows) :
    Commits (insertLinkedSubscription c x p.id) s ⟨s.nextSubscription, c, x, p.id, .active⟩
      (s.subscribe c x p.id o.id) := by
  refine Store.commits_insertLinkedSubscription.2
    ⟨hc, hx, o, holder, new, indexed, ⟨p, price, rfl⟩, fun l hl _ next => ?_, rfl, rfl⟩
  -- A link would be of a subscription that has an id which no row has been given yet.
  obtain ⟨y, hy, hyl⟩ := h.linkSubscription l hl
  exact hf.subscriptions.id_ne_next hy (hyl.trans next)

theorem run_insertLinkedSubscription_of_none (x : String) (price : Uuid) (hc : isStorable c = true)
    (unheld : s.holder? c = none) :
    (insertLinkedSubscription c x price).run s = .error (.notFound (.customerHolder c)) := by
  rw [insertLinkedSubscription, run_requireTexts_bind (by simpa using hc), run_get_bind, unheld]
  rfl

theorem run_insertLinkedSubscription_of_error {price : Uuid} {o : Organization} {e : BillingError}
    (hc : isStorable c = true) (holder : s.holder? c = some o)
    (h : (insertSubscription c x price .active).run s = .error e) :
    (insertLinkedSubscription c x price).run s = .error e := by
  rw [insertLinkedSubscription, run_requireTexts_bind (by simpa using hc), run_get_bind, holder]
  exact run_bind_of_error h

theorem run_insertSubscription_of_known (price : Uuid) (status : SubscriptionStatus)
    (hc : isStorable c = true) (hx : isStorable x = true)
    (known : ∃ y ∈ s.subscriptions.rows, y.customerId = c ∧ y.subscriptionId = x) :
    (insertSubscription c x price status).run s =
      .error (.database (.duplicateKey subscriptionIndex)) := by
  rw [insertSubscription, run_requireTexts_bind (by simpa using ⟨hc, hx⟩), run_get_bind]
  exact run_bind_of_error (run_require (by simpa using known))

theorem run_insertSubscription_of_refusal (price : Uuid) (status : SubscriptionStatus)
    {cause : DatabaseError} (hc : isStorable c = true) (hx : isStorable x = true)
    (new : ∀ y ∈ s.subscriptions.rows, y.customerId = c → y.subscriptionId ≠ x)
    (refused : Index.refusal? subscriptionIndex [c, x] = some cause) :
    (insertSubscription c x price status).run s = .error (.database cause) := by
  rw [insertSubscription, run_requireTexts_bind (by simpa using ⟨hc, hx⟩), run_get_bind,
    run_require_bind (by simpa using new)]
  exact run_bind_of_error (run_requireIndexable refused)

end Store

/-! ### Both steps -/

/-- Where there is a default price, the second step decides. -/
theorem on_addSubscription {p : CatalogPrice} (price : s.bootstrapped.activePrices = [p]) :
    (addSubscription c x).on s = (commit (insertLinkedSubscription c x p.id)).on s.bootstrapped := by
  have first : Commits getOrCreateDefaultPrice s p s.bootstrapped := commits_default_iff.2 ⟨price, rfl⟩
  rw [addSubscription_eq, Call.on_bind, commit_ok first]

theorem addSubscription_of_subscribable (h : Schema s) (hf : Fresh s) (hc : isStorable c = true)
    (hx : isStorable x = true) (hs : s.Subscribable c x) :
    ∃ p o, s.bootstrapped.activePrices = [p] ∧ o ∈ s.organizations.rows ∧ o.customerId = some c ∧
      (addSubscription c x).on s =
        (.ok ⟨s.nextSubscription, c, x, p.id, .active⟩, s.bootstrapped.subscribe c x p.id o.id) := by
  obtain ⟨p, price⟩ := exists_activePrices_bootstrapped hs.price
  obtain ⟨o, holder⟩ := exists_holder? hs.held
  obtain ⟨mem, hoc⟩ := mem_of_holder? holder
  have first : Commits getOrCreateDefaultPrice s p s.bootstrapped := commits_default_iff.2 ⟨price, rfl⟩
  have changes : Changes s s.bootstrapped := changes_getOrCreateDefaultPrice first
  have row : p ∈ s.bootstrapped.activePrices := by simp [price]
  obtain ⟨products, prices, tables⟩ := s.bootstrapped_eq
  refine ⟨p, o, price, mem, hoc, ?_⟩
  rw [on_addSubscription price]
  have second := (h.evolves hf changes.evolves).commits_insertLinkedSubscription
    (hf.evolves changes.evolves) hc hx (o := o) (by rwa [tables]) (by rw [tables]; exact hs.new)
    hs.indexed (List.mem_filter.1 row).1
  rw [commit_ok second, tables]
  rfl

theorem addSubscription_of_hindrance {e : BillingError} (hc : isStorable c = true)
    (hx : isStorable x = true) (h : s.Hindrance c x e) :
    (addSubscription c x).on s = (.error e, s.bootstrapped) := by
  -- The second step sees the rows of before, apart from the catalog.
  have second (price : s.activePrices.length ≤ 1) (fails : ∀ (price : Uuid) products prices,
      (insertLinkedSubscription c x price).run { s with products, prices } = .error e) :
      (addSubscription c x).on s = (.error e, s.bootstrapped) := by
    obtain ⟨p, price⟩ := exists_activePrices_bootstrapped price
    obtain ⟨products, prices, tables⟩ := s.bootstrapped_eq
    rw [on_addSubscription price, tables]
    exact commit_error (fails p.id products prices)
  cases h with
  | severalPrices several =>
    have ne : s.activePrices ≠ [] := fun none => by simp [none] at several
    rw [addSubscription, Call.on_bind, default_price_of_several several,
      bootstrapped_of_ne_nil ne]
  | nobody price unheld =>
    exact second price fun id _ _ =>
      run_insertLinkedSubscription_of_none x id hc (holder?_eq_none.2 unheld)
  | duplicate price held known =>
    obtain ⟨o, holder⟩ := exists_holder? held
    exact second price fun id _ _ => run_insertLinkedSubscription_of_error hc holder
      (run_insertSubscription_of_known id .active hc hx known)
  | tooLong price held new refused =>
    obtain ⟨o, holder⟩ := exists_holder? held
    exact second price fun id _ _ => run_insertLinkedSubscription_of_error hc holder
      (run_insertSubscription_of_refusal id .active hc hx new refused)

/-- In a database that keeps its schema and has free ids for new rows, a subscription can be recorded
exactly if at most one price is active, some organization holds the customer, the customer does not
have the subscription yet, and the index takes its key. Then there is one row more in each of three
tables: the subscription, active and on the single active price, a link to the organization that
holds the customer, and an item of one unit on that price. The default product and price are made if
no price was active, and nothing else changes. Where it cannot be recorded, the error names the first
of these things that is missing, and nothing but the default product and price may be new. -/
theorem adds_subscription (h : Schema s) (hf : Fresh s) (hc : isStorable c = true)
    (hx : isStorable x = true) :
    ((∃ sub s', (addSubscription c x).on s = (.ok sub, s')) ↔ s.Subscribable c x) ∧
    (∀ sub s', (addSubscription c x).on s = (.ok sub, s') → ∃ p o,
      s.bootstrapped.activePrices = [p] ∧ o ∈ s.organizations.rows ∧ o.customerId = some c ∧
      sub = ⟨s.nextSubscription, c, x, p.id, .active⟩ ∧
      s' = { s.bootstrapped with
        subscriptions :=
          s.subscriptions.insert subscriptionTag fun id => ⟨id, c, x, p.id, .active⟩
        links := s.links.insert linkTag fun id => ⟨id, o.id, sub.id⟩
        items := s.items.insert itemTag fun id => ⟨id, none, sub.id, p.id, 1⟩ }) ∧
    ∀ e s', (addSubscription c x).on s = (.error e, s') → s.Hindrance c x e ∧ s' = s.bootstrapped := by
  rcases s.subscribable_or_hindrance c x with hs | ⟨e, he⟩
  · obtain ⟨p, o, price, mem, hoc, hon⟩ := addSubscription_of_subscribable h hf hc hx hs
    refine ⟨iff_of_true ⟨_, _, hon⟩ hs, fun sub s' hok => ?_, fun e s' herror => ?_⟩
    · rw [hon] at hok
      cases hok
      obtain ⟨products, prices, tables⟩ := s.bootstrapped_eq
      refine ⟨p, o, price, mem, hoc, rfl, ?_⟩
      rw [tables]
      rfl
    · rw [hon] at herror
      cases herror
  · have hon := addSubscription_of_hindrance hc hx he
    refine ⟨iff_of_false ?_ fun hs => ?_, fun sub s' hok => ?_, fun e' s' herror => ?_⟩
    · rintro ⟨sub, s', hok⟩
      rw [hon] at hok
      cases hok
    · obtain ⟨p, o, -, -, -, hok⟩ := addSubscription_of_subscribable h hf hc hx hs
      rw [hon] at hok
      cases hok
    · rw [hon] at hok
      cases hok
    · rw [hon] at herror
      cases herror
      exact ⟨he, rfl⟩

/-- A database with one organization, which holds a customer. -/
def acmeAlone : World Provider.Sandbox :=
  (Operation.insertOrganization ⟨"acme", "Acme", "Company", true, none, some "cus_1", 0⟩).after
    ⟨.empty, .fresh⟩

theorem reachable_acmeAlone : Reachable acmeAlone := .after (.empty _) _

/-- The first subscription of the customer is recorded, on a default price that is made for it. -/
theorem adds_subscription_of_acmeAlone :
    ∃ sub s', (addSubscription "cus_1" "sub_1").on acmeAlone.store = (.ok sub, s') ∧
      s'.subscriptions.rows = [⟨.row 4 1, "cus_1", "sub_1", .row 3 1, .active⟩] ∧
      s'.links.rows = [⟨.row 5 1, .row 1 1, .row 4 1⟩] ∧
      s'.items.rows = [⟨.row 6 1, none, .row 4 1, .row 3 1, 1⟩] ∧
      s'.prices.rows.map (·.id) = [.row 3 1] := by
  have schema : Schema acmeAlone.store := Schema.empty.evolves .empty reachable_acmeAlone.evolves
  have fresh : Fresh acmeAlone.store := Fresh.empty.evolves reachable_acmeAlone.evolves
  have hc : isStorable "cus_1" = true := by decide
  have hx : isStorable "sub_1" = true := by decide
  obtain ⟨succeeds, exactly, -⟩ := adds_subscription schema fresh hc hx
  obtain ⟨sub, s', hon⟩ := succeeds.2
    { price := by decide, held := by decide, new := by decide, indexed := rfl }
  obtain ⟨p, o, price, mem, -, rfl, rfl⟩ := exactly sub s' hon
  have hp : p.id = .row 3 1 := by
    have ids : acmeAlone.store.bootstrapped.activePrices.map (·.id) = [.row 3 1] := by decide +kernel
    simpa [price] using ids
  have ho : o.id = .row 1 1 := by
    have ids : acmeAlone.store.organizations.rows.map (·.id) = [.row 1 1] := by decide
    simpa [ids] using List.mem_map_of_mem (f := (·.id)) mem
  have made : acmeAlone.store.bootstrapped.prices.rows.map (·.id) = [.row 3 1] := by decide +kernel
  refine ⟨_, _, hon, ?_, ?_, ?_, made⟩
  · rw [hp]; rfl
  · rw [ho]; rfl
  · rw [hp]; rfl

/-- The rows alone do not decide: a subscription with a long id is refused by the index, though at
most one price is active, an organization holds the customer, and the subscription is new. -/
theorem not_subscribable_by_rows :
    ¬ ∀ (s : Store) (c x : String), Schema s → Fresh s → isStorable c = true →
      isStorable x = true → ((∃ sub s', (addSubscription c x).on s = (.ok sub, s')) ↔
        s.activePrices.length ≤ 1 ∧ (∃ o ∈ s.organizations.rows, o.customerId = some c) ∧
          ∀ y ∈ s.subscriptions.rows, y.customerId = c → y.subscriptionId ≠ x) := by
  intro decides
  have schema : Schema acmeAlone.store := Schema.empty.evolves .empty reachable_acmeAlone.evolves
  have fresh : Fresh acmeAlone.store := Fresh.empty.evolves reachable_acmeAlone.evolves
  obtain ⟨x, hx, refused⟩ := Index.exists_refused subscriptionIndex
  obtain ⟨cause, refused⟩ := refused ["cus_1", x] (by simp)
  have price : acmeAlone.store.activePrices.length ≤ 1 := by decide
  have held : ∃ o ∈ acmeAlone.store.organizations.rows, o.customerId = some "cus_1" := by decide
  have new : ∀ y ∈ acmeAlone.store.subscriptions.rows,
      y.customerId = "cus_1" → y.subscriptionId ≠ x := by
    intro y hy
    cases hy
  obtain ⟨sub, s', hok⟩ :=
    (decides acmeAlone.store "cus_1" x schema fresh (by decide) hx).2 ⟨price, held, new⟩
  rw [addSubscription_of_hindrance (by decide) hx (.tooLong price held new refused)] at hok
  cases hok

end OrgBilling
