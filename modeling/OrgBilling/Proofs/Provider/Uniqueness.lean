import Mathlib.Data.List.Pairwise
import OrgBilling.Proofs.Provider.Policy

/-!
# One product of a name and one price in use

An application that makes and changes products and prices only by the create-or-update rules keeps
the provider in memory `Orderly`: no two products have the same name, and of the prices of a product
in a currency at most the last one made is in use. The rules themselves depend on this. A search
shows one page, so prices beyond the first ten would stay in use; of orderly prices there is never
more than one to be found (`Orderly.length_pricesFor`).

`Use` is what such an application asks for, in any order and with any texts. One use keeps a
provider orderly, whether it succeeds or not (`Orderly.after`), and so does every run of them.
-/

namespace OrgBilling.Provider.Sandbox

variable {s s' : Sandbox}

/-- The request makes or changes a product or a price. A deletion does neither. -/
def Request.edits : Request → Bool
  | createProduct _ | updateProduct _ _ | createPrice _ | updatePrice _ _ => true
  | _ => false

/-- What is asked by an application that makes and changes products and prices by the rules. -/
inductive Use
  /-- A product of a name, new or with new details. -/
  | createOrUpdateProduct (d : ProductDetails)
  /-- A price in the place of those in use. -/
  | createOrUpdatePrice (t : PriceTerms)
  /-- A product of the catalog to be pushed. -/
  | syncProduct (p : CatalogProduct)
  /-- A price of the catalog to be pushed. -/
  | syncPrice (p : CatalogPrice) (product : CatalogProduct)
  /-- Any other request. -/
  | request (r : Request) (other : r.edits = false)

/-- The provider after a use, whether that succeeds or not. -/
def Use.after (s : Sandbox) : Use → Sandbox
  | createOrUpdateProduct d => ((Provider.createOrUpdateProduct d).on s).2
  | createOrUpdatePrice t => ((Provider.createOrUpdatePrice t).on s).2
  | syncProduct p => ((Provider.syncProduct p).on s).2
  | syncPrice p product => ((Provider.syncPrice p product).on s).2
  | request r _ => r.after s

/-- Every product is in use and has a name of its own, and a price in use is the last one of its
product and currency. -/
structure Orderly (s : Sandbox) : Prop where
  sound : s.Sound
  active : ∀ p ∈ s.products, p.active = true
  names : (s.products.map (·.name)).Nodup
  latest : s.prices.Pairwise fun p q =>
    p.product = q.product → p.currency = q.currency → p.active = false

theorem orderly_fresh : Orderly .fresh :=
  ⟨sound_fresh, by simp [fresh], .nil, .nil⟩

/-! ### What an orderly provider answers -/

/-- Of two items of a list one stands before the other. -/
theorem rel_or_rel {α : Type} {R : α → α → Prop} {xs : List α} (h : xs.Pairwise R) {x y : α}
    (hx : x ∈ xs) (hy : y ∈ xs) (hne : x ≠ y) : R x y ∨ R y x := by
  have : Std.Symm fun x y => R x y ∨ R y x := ⟨fun _ _ => Or.symm⟩
  have either : xs.Pairwise fun x y => R x y ∨ R y x := h.imp .inl
  exact either.forall hx hy hne

namespace Orderly

/-- A product that a search by its name does not find is not there. -/
theorem name_ne_of_target? (h : s.Orderly) {name : String} (hnone : s.target? name = none) :
    ∀ p ∈ s.products, p.name ≠ name := by
  intro p hp hname
  have hempty : (s.productsNamed name).take 10 = [] := newest_eq_none hnone
  have hfound : p ∈ s.productsNamed name :=
    List.mem_filter.2 ⟨hp, by simp [h.active p hp, hname]⟩
  cases hnamed : s.productsNamed name with
  | nil => rw [hnamed] at hfound; cases hfound
  | cons q qs => rw [hnamed] at hempty; cases hempty

/-- A price in use is the last one made of its product and currency. -/
theorem eq_or_created_lt (h : s.Orderly) {p q : Price} (hp : p ∈ s.prices)
    (hactive : p.active = true) (hq : q ∈ s.prices) (hproduct : q.product = p.product)
    (hcurrency : q.currency = p.currency) : q = p ∨ q.created < p.created := by
  by_cases hqp : q = p
  · exact .inl hqp
  · rcases rel_or_rel (h.sound.prices.order.and h.latest) hp hq (Ne.symm hqp) with
      ⟨-, hinactive⟩ | ⟨hlt, -⟩
    · rw [hinactive hproduct.symm hcurrency.symm] at hactive
      cases hactive
    · exact .inr hlt

/-- Of the prices of a product in a currency at most one is in use. -/
theorem length_pricesFor (h : s.Orderly) (product currency : String) :
    (s.pricesFor product currency).length ≤ 1 := by
  have none_before : (s.pricesFor product currency).Pairwise fun _ _ => False := by
    refine (h.latest.filter _).imp_of_mem fun {p q} hp hq hinactive => ?_
    have hp := (List.mem_filter.1 hp).2
    have hq := (List.mem_filter.1 hq).2
    simp only [Bool.and_eq_true, beq_iff_eq] at hp hq
    have := hinactive (hp.1.2.trans hq.1.2.symm) (hp.2.trans hq.2.symm)
    rw [hp.1.1] at this
    cases this
  cases hprices : s.pricesFor product currency with
  | nil => exact Nat.zero_le 1
  | cons p ps =>
    cases ps with
    | nil => exact Nat.le_refl 1
    | cons q qs =>
      rw [hprices] at none_before
      exact (List.rel_of_pairwise_cons none_before (List.mem_cons_self ..)).elim

/-! ### What a use leaves -/

/-- Fewer products and other objects do not matter. -/
theorem mono (h : s.Orderly) (hsound : s'.Sound) (hproducts : s'.products.Sublist s.products)
    (hprices : s'.prices = s.prices) : s'.Orderly where
  sound := hsound
  active p hp := h.active p (hproducts.subset hp)
  names := h.names.sublist (hproducts.map _)
  latest := hprices ▸ h.latest

theorem addProduct (h : s.Orderly) {d : ProductDetails} (hnew : ∀ p ∈ s.products, p.name ≠ d.name) :
    (s.addProduct d).Orderly where
  sound := h.sound.addProduct d
  active p hp := by
    rcases List.mem_append.1 hp with hp | hp
    · exact h.active p hp
    · rw [List.mem_singleton.1 hp]
      rfl
  names := by
    rw [Sandbox.addProduct, List.map_append]
    refine h.names.append (List.nodup_singleton _) ?_
    simpa [List.disjoint_singleton, newProduct] using hnew
  latest := h.latest

/-- New details under the old name. -/
theorem reviseProduct (h : s.Orderly) {d : ProductDetails} {old : Product} (hold : old ∈ s.products)
    (hname : old.name = d.name) : (s.reviseProduct old.id d).Orderly where
  sound := h.sound.reviseProduct old.id d
  active p hp := by
    obtain ⟨q, hq, rfl⟩ := List.mem_map.1 hp
    split <;> exact h.active q hq
  names := by
    have same : (s.reviseProduct old.id d).products.map (·.name) = s.products.map (·.name) := by
      rw [Sandbox.reviseProduct, List.map_map]
      refine List.map_congr_left fun p hp => ?_
      rw [Function.comp_apply]
      split
      · next hid =>
        rw [List.inj_on_of_nodup_map h.sound.products.nodup hp hold hid]
        exact hname.symm
      · rfl
    rw [same]
    exact h.names
  latest := h.latest

theorem createOrUpdateProduct (h : s.Orderly) (d : ProductDetails) :
    ((Provider.createOrUpdateProduct d).on s).2.Orderly := by
  rw [on_createOrUpdateProduct h.sound]
  cases htarget : s.target? d.name with
  | none => exact h.addProduct (h.name_ne_of_target? htarget)
  | some old =>
    obtain ⟨hold, -, hname⟩ := mem_of_target? htarget
    exact h.reviseProduct hold hname

/-- Prices taken out of use. -/
theorem switchPrices (h : s.Orderly) (ids : List String) : (s.switchPrices ids false).Orderly where
  sound := h.sound.switchPrices ids false
  active := h.active
  names := h.names
  latest := by
    refine List.pairwise_map.2 (h.latest.imp fun {p q} hinactive => ?_)
    split <;> split <;> simp_all

/-- The search finds every price that is to be taken out of use. -/
theorem inactive_of_switched (h : s.Orderly) (t : PriceTerms) :
    ∀ p ∈ (s.switchPrices (s.supersededIds t) false).prices,
      p.product = t.product → p.currency = t.currency → p.active = false := by
  intro p hp
  obtain ⟨q, hq, rfl⟩ := List.mem_map.1 hp
  have page : (s.pricesFor t.product t.currency).take 10 = s.pricesFor t.product t.currency :=
    List.take_of_length_le (Nat.le_trans (h.length_pricesFor ..) (by decide))
  split
  · exact fun _ _ => rfl
  · next hid =>
    intro hproduct hcurrency
    by_contra hactive
    refine hid (List.mem_map_of_mem ?_)
    rw [page]
    exact List.mem_filter.2 ⟨hq, by simp [hproduct, hcurrency, eq_true_of_ne_false hactive]⟩

theorem replacePrice (h : s.Orderly) (t : PriceTerms) : (s.replacePrice t).Orderly where
  sound := h.sound.replacePrice t
  active := h.active
  names := h.names
  latest := by
    refine List.pairwise_append.2
      ⟨(h.switchPrices _).latest, List.pairwise_singleton .., fun p hp q hq => ?_⟩
    rw [List.mem_singleton.1 hq]
    exact h.inactive_of_switched t p hp

theorem createOrUpdatePrice (h : s.Orderly) (t : PriceTerms) :
    ((Provider.createOrUpdatePrice t).on s).2.Orderly := by
  rw [on_createOrUpdatePrice h.sound]
  cases s.product? t.product with
  | some p => exact h.replacePrice t
  | none => exact h.switchPrices _

end Orderly

/-- A request that edits nothing leaves the prices, and of the products it may delete some. -/
theorem Request.frame (r : Request) (h : r.edits = false) (s : Sandbox) :
    (r.after s).products.Sublist s.products ∧ (r.after s).prices = s.prices := by
  cases r with
  | createProduct | updateProduct | createPrice | updatePrice => cases h
  | getCheckoutSession id =>
    rw [Request.after, Sandbox.getCheckoutSession, Call.on_bind]
    simp [on_orMissing]
  | getCustomer subscription =>
    rw [Request.after, Sandbox.getCustomer, Call.on_bind]
    simp [on_orMissing]
  | deleteProduct id =>
    rw [Request.after, on_deleteProduct]
    exact ⟨List.filter_sublist .., rfl⟩
  | retrieveProduct id =>
    rw [Request.after, on_retrieveProduct]
    exact ⟨.refl _, rfl⟩
  | retrievePrice id =>
    rw [Request.after, on_retrievePrice]
    exact ⟨.refl _, rfl⟩
  | _ => exact ⟨.refl _, rfl⟩

/-- What becomes of the answer does not matter to the provider. -/
theorem snd_on_bind_pure {α β : Type} (c : Call Sandbox α) (f : α → β) (s : Sandbox) :
    ((c >>= fun a => pure (f a)).on s).2 = (c.on s).2 := by
  rw [Call.on_bind]
  rcases c.on s with ⟨_ | _, _⟩ <;> rfl

theorem Orderly.after (h : s.Orderly) (u : Use) : (u.after s).Orderly := by
  cases u with
  | createOrUpdateProduct d => exact h.createOrUpdateProduct d
  | createOrUpdatePrice t => exact h.createOrUpdatePrice t
  | syncProduct p =>
    have := h.createOrUpdateProduct (Provider.detailsOf p)
    rw [Use.after, Provider.syncProduct, snd_on_bind_pure]
    exact this
  | syncPrice p product =>
    rw [Use.after, Provider.syncPrice]
    cases product.productId with
    | none => exact h
    | some productId =>
      dsimp only
      rw [snd_on_bind_pure]
      exact h.createOrUpdatePrice _
  | request r other =>
    obtain ⟨hproducts, hprices⟩ := r.frame other s
    exact h.mono (h.sound.after r) hproducts hprices

theorem orderly_foldl (h : s.Orderly) (us : List Use) : (us.foldl Use.after s).Orderly := by
  induction us generalizing s with
  | nil => exact h
  | cons u us ih => exact ih (h.after u)

/-- One product of a name and one price in use. Whatever an application asks of a provider without
objects, if it makes and changes products and prices by the rules only, then afterwards no two
products have the same name, at most one price of a product and a currency is in use, and a price in
use is the one made last of its product and currency. -/
theorem unique_after_uses (us : List Use) :
    let s := us.foldl Use.after fresh
    (s.products.map (·.name)).Nodup ∧
      (∀ product currency, (s.pricesFor product currency).length ≤ 1) ∧
      ∀ p ∈ s.prices, p.active = true → ∀ q ∈ s.prices, q.product = p.product →
        q.currency = p.currency → q = p ∨ q.created < p.created := by
  intro s
  have orderly : s.Orderly := orderly_foldl orderly_fresh us
  exact ⟨orderly.names, orderly.length_pricesFor,
    fun p hp hactive q hq => orderly.eq_or_created_lt hp hactive hq⟩

end OrgBilling.Provider.Sandbox
