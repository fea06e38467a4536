import OrgBilling.Proofs.Provider.FirstPage

/-!
# What a replacement that fails leaves behind

A new price takes the place of those in use of its product and currency. They are taken out of use
one after another, and only then is the new one made; so a replacement that cannot make its price has
taken others out of use already. At the provider in memory that is the case just when there is no
product with the id (`exists_error_createOrUpdatePrice`). Prices outlive their product, so there can
be some to take out of use, and then nothing of the product can be sold any more
(`not_unchanged_after_failed_replacement`).

What stays is what the order of the steps leaves alone (`failed_replacement`): no price is made or
lost, a price that is not in use, of another product or in another currency is as it was, and if none
is in use of the product and the currency, nothing is different at all.
-/

namespace OrgBilling.Provider.Sandbox

variable {s s' : Sandbox} {t : PriceTerms}

/-- A price when all in use of the product and in the currency are taken out of use. -/
def withdraw (t : PriceTerms) (p : Price) : Price :=
  if isFor t p then { p with active := false } else p

theorem product?_eq_none {id : String} : s.product? id = none ↔ ∀ q ∈ s.products, q.id ≠ id := by
  simp [Sandbox.product?]

/-- A replacement fails just when the product does not exist. -/
theorem exists_error_createOrUpdatePrice (h : s.Sound) (t : PriceTerms) :
    (∃ e s', (createOrUpdatePrice t).on s = (.error e, s')) ↔ ∀ q ∈ s.products, q.id ≠ t.product := by
  rw [on_createOrUpdatePrice h, ← product?_eq_none]
  cases s.product? t.product <;> simp

/-- What a replacement that fails has done. -/
theorem createOrUpdatePrice_error (h : s.Sound) {e : BillingError}
    (hon : (createOrUpdatePrice t).on s = (.error e, s')) :
    e = .notFound (.product t.product) ∧
      s' = { s with prices := s.prices.map (retire (s.supersededIds t)) } := by
  rw [on_createOrUpdatePrice h] at hon
  cases hproduct : s.product? t.product with
  | none =>
    rw [hproduct] at hon
    cases hon
    exact ⟨rfl, rfl⟩
  | some q =>
    rw [hproduct] at hon
    cases hon

/-- A price is as it was or, if it was in use of the product and in the currency, out of use. -/
theorem retire_eq_or (h : s.Sound) {p : Price} (hp : p ∈ s.prices) :
    retire (s.supersededIds t) p = p ∨ retire (s.supersededIds t) p = withdraw t p := by
  unfold retire
  split
  · next hid => exact .inr (if_pos (isFor_of_superseded h hp hid)).symm
  · exact .inl rfl

/-- If the first page of the search shows them all, all prices in use are taken out of use. -/
theorem retire_eq_withdraw (h : s.Sound)
    (hlength : (s.pricesFor t.product t.currency).length ≤ defaultPageLength) {p : Price}
    (hp : p ∈ s.prices) : retire (s.supersededIds t) p = withdraw t p := by
  have superseded : p.id ∈ s.supersededIds t ↔ isFor t p = true := by
    have page : (s.pricesFor t.product t.currency).take 10 = s.pricesFor t.product t.currency :=
      List.take_of_length_le hlength
    refine ⟨isFor_of_superseded h hp, fun hfor => List.mem_map_of_mem ?_⟩
    rw [page]
    exact List.mem_filter.2 ⟨hp, hfor⟩
  simp only [retire, withdraw, superseded]

/-- Prices are as they were only if there was none to take out of use: the first one that the search
shows is no longer in use. -/
theorem map_retire_eq_self (t : PriceTerms) (s : Sandbox) :
    s.prices.map (retire (s.supersededIds t)) = s.prices ↔
      s.pricesFor t.product t.currency = [] := by
  constructor
  · intro same
    cases hprices : s.pricesFor t.product t.currency with
    | nil => rfl
    | cons p ps =>
      have shown : p ∈ s.pricesFor t.product t.currency := hprices ▸ List.mem_cons_self ..
      obtain ⟨hp, hfor⟩ := List.mem_filter.1 shown
      have first : p.id ∈ s.supersededIds t := by simp [supersededIds, hprices]
      have fixed : retire (s.supersededIds t) p = p :=
        List.map_inj_left.1 (same.trans (List.map_id _).symm) p hp
      rw [retire, if_pos first] at fixed
      have active : p.active = false := (congrArg Price.active fixed).symm
      simp [active] at hfor
  · intro none
    have ids : s.supersededIds t = [] := by rw [supersededIds, none]; rfl
    rw [ids]
    exact List.map_id _

/-- A replacement that fails leaves the prices as its steps before the failure did. For a provider
that requests lead to, creating or updating a price fails just when there is no product with the id,
and that is what the error says. Then nothing but prices is different; no price is made or lost, and
each of them is as it was or, if it was in use of that product and currency, is out of use. If a page
of the search shows all of these, all of them are out of use; and the prices are exactly as before if
and only if there were none. -/
theorem failed_replacement (h : s.Reachable) (t : PriceTerms) :
    ((∃ e s', (createOrUpdatePrice t).on s = (.error e, s')) ↔
      ∀ q ∈ s.products, q.id ≠ t.product) ∧
    ∀ e s', (createOrUpdatePrice t).on s = (.error e, s') →
      e = .notFound (.product t.product) ∧
      s' = { s with prices := s'.prices } ∧
      List.Forall₂ (fun p p' => p' = p ∨ p' = withdraw t p) s.prices s'.prices ∧
      ((s.pricesFor t.product t.currency).length ≤ defaultPageLength →
        s'.prices = s.prices.map (withdraw t)) ∧
      (s'.prices = s.prices ↔ s.pricesFor t.product t.currency = []) := by
  refine ⟨exists_error_createOrUpdatePrice h.sound t, fun e s' hon => ?_⟩
  obtain ⟨rfl, rfl⟩ := createOrUpdatePrice_error h.sound hon
  refine ⟨rfl, rfl, ?_, fun hlength => ?_, map_retire_eq_self t s⟩
  · exact List.forall₂_map_right_iff.2 (List.forall₂_same.2 fun p hp => retire_eq_or h.sound hp)
  · exact List.map_congr_left fun p hp => retire_eq_withdraw h.sound hlength hp

/-- A provider with a price in use whose product has been deleted. -/
def orphaned : Sandbox :=
  [Request.createProduct (widgets "old"), .createPrice (monthly 500),
    .deleteProduct "prod_mock00000001"].foldl Request.after fresh

theorem reachable_orphaned : orphaned.Reachable := Reachable.fresh.requests _

theorem prices_orphaned : orphaned.prices = [newPrice (monthly 500) 2] := by
  decide +kernel

/-- Replacing the price fails, and the price is out of use. -/
theorem failed_replacement_of_orphaned :
    ∃ s', (createOrUpdatePrice (monthly 700)).on orphaned =
        (.error (.notFound (.product "prod_mock00000001")), s') ∧
      s'.prices = [{ newPrice (monthly 500) 2 with active := false }] := by
  obtain ⟨fails, left⟩ := failed_replacement reachable_orphaned (monthly 700)
  obtain ⟨e, s', hon⟩ := fails.2 (by decide +kernel)
  obtain ⟨rfl, -, -, all, -⟩ := left e s' hon
  refine ⟨s', hon, ?_⟩
  rw [all (by decide +kernel), prices_orphaned]
  rfl

/-- A replacement that fails does not always leave the prices as they were. -/
theorem not_unchanged_after_failed_replacement :
    ¬ ∀ (s : Sandbox) (t : PriceTerms) (e : BillingError) (s' : Sandbox), s.Reachable →
      (createOrUpdatePrice t).on s = (.error e, s') → s'.prices = s.prices := by
  intro h
  have missing : ∀ q ∈ orphaned.products, q.id ≠ (monthly 700).product := by decide +kernel
  obtain ⟨e, s', hon⟩ :=
    (exists_error_createOrUpdatePrice reachable_orphaned.sound (monthly 700)).2 missing
  have claimed := h _ _ _ _ reachable_orphaned hon
  obtain ⟨-, rfl⟩ := createOrUpdatePrice_error reachable_orphaned.sound hon
  have none := (map_retire_eq_self (monthly 700) orphaned).1 claimed
  exact absurd none (by decide +kernel)

end OrgBilling.Provider.Sandbox
