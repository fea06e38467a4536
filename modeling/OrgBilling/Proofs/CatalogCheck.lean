import OrgBilling.Proofs.CatalogSync
import OrgBilling.Service.Audit

/-!
# What the check of the catalog finds after a sync run

A sync run and the check of the catalog choose their rows differently. The run goes through the
active products and pushes their active prices; what belongs to an inactive product it passes over.
The check wants a provider id on every active product and on every active price, whatever its
product. So a run that succeeds leaves the check one thing to find: the active prices of inactive
products that carried no provider id before (`checked_after_run`).

The run is followed by the ids of the rows: which products and prices carry a provider id is what it
was, together with what the run has gone through so far (`Labels`).
-/

namespace OrgBilling.CatalogSync

open Store Transaction
open Audit Audit.Check
open Provider (Sandbox)

/-- The provider's id that the row of a product carries. -/
def productIdOf (s : Store) (id : Uuid) : Option String :=
  (s.product? id).bind (·.productId)

/-- The provider's id that the row of a price carries. -/
def priceIdOf (s : Store) (id : Uuid) : Option String :=
  (s.price? id).bind (·.priceId)

variable {s₀ s s' : Store}

theorem productIdOf_of_mem (hd : Distinct s) {q : CatalogProduct} (hq : q ∈ s.products.rows) :
    productIdOf s q.id = q.productId := by
  have : s.product? q.id = some q := find?_of_nodup hd.products hq
  rw [productIdOf, this, Option.bind_some]

theorem priceIdOf_of_mem (hd : Distinct s) {p : CatalogPrice} (hp : p ∈ s.prices.rows) :
    priceIdOf s p.id = p.priceId := by
  have : s.price? p.id = some p := find?_of_nodup hd.prices hp
  rw [priceIdOf, this, Option.bind_some]

theorem productIdOf_noteProduct {id : Uuid} {productId : String} {r : CatalogProduct}
    (hc : Commits (updateProduct id { productId := some (some productId) }) s r s') (j : Uuid) :
    productIdOf s' j = if j = id then some productId else productIdOf s j := by
  obtain ⟨old, hold, -⟩ := commits_noteProduct hc
  rw [productIdOf, product?_noteProduct hc, productIdOf]
  by_cases hj : j = id
  · rw [hj, hold]
    simp
  · cases s.product? j <;> simp [hj]

theorem priceIdOf_notePrice {id : Uuid} {priceId : String} {r : CatalogPrice}
    (hc : Commits (updatePrice id { priceId := some (some priceId) }) s r s') (j : Uuid) :
    priceIdOf s' j = if j = id then some priceId else priceIdOf s j := by
  obtain ⟨old, hold, -⟩ := commits_notePrice hc
  rw [priceIdOf, price?_notePrice hc, priceIdOf]
  by_cases hj : j = id
  · rw [hj, hold]
    simp
  · cases s.price? j <;> simp [hj]

/-! ### The rows that carry provider ids -/

/-- The catalog is what it was but for provider ids. The rows that carried one still do, these
products and prices do as well, and no others. -/
structure Labels (s₀ : Store) (products prices : List Uuid) (s : Store) : Prop where
  relabelled : Relabelled s₀ s
  product : ∀ id, productIdOf s id ≠ none ↔ productIdOf s₀ id ≠ none ∨ id ∈ products
  price : ∀ id, priceIdOf s id ≠ none ↔ priceIdOf s₀ id ≠ none ∨ id ∈ prices

variable {products prices : List Uuid}

namespace Labels

theorem refl (s : Store) : Labels s [] [] s :=
  ⟨.refl s, by simp, by simp⟩

/-- A price that carried a provider id from the start. -/
theorem skipPrice (h : Labels s₀ products prices s) {id : Uuid} (hid : priceIdOf s₀ id ≠ none) :
    Labels s₀ products (prices ++ [id]) s where
  relabelled := h.relabelled
  product := h.product
  price j := by
    rw [h.price, List.mem_append, List.mem_singleton]
    constructor
    · exact .imp_right .inl
    · rintro (hj | hj | rfl)
      · exact .inl hj
      · exact .inr hj
      · exact .inl hid

theorem noteProduct (h : Labels s₀ products prices s) (hd : Distinct s₀) {id : Uuid}
    {productId : String} {r : CatalogProduct}
    (hc : Commits (updateProduct id { productId := some (some productId) }) s r s') :
    Labels s₀ (products ++ [id]) prices s' where
  relabelled := h.relabelled.noteProduct hd hc
  product j := by
    rw [productIdOf_noteProduct hc, List.mem_append, List.mem_singleton, ← or_assoc, ← h.product]
    by_cases hj : j = id <;> simp [hj]
  price j := by
    obtain ⟨_, -, hprices, -⟩ := commits_noteProduct hc
    rw [← h.price, priceIdOf, price?, hprices]
    rfl

theorem notePrice (h : Labels s₀ products prices s) (hd : Distinct s₀) {id : Uuid}
    {priceId : String} {r : CatalogPrice}
    (hc : Commits (updatePrice id { priceId := some (some priceId) }) s r s') :
    Labels s₀ products (prices ++ [id]) s' where
  relabelled := h.relabelled.notePrice hd hc
  product j := by
    obtain ⟨_, -, hproducts, -⟩ := commits_notePrice hc
    rw [← h.product, productIdOf, product?, hproducts]
    rfl
  price j := by
    rw [priceIdOf_notePrice hc, List.mem_append, List.mem_singleton, ← or_assoc, ← h.price]
    by_cases hj : j = id <;> simp [hj]

end Labels

/-! ### A run -/

section Run

variable {σ : Type} [PaymentProvider σ]

theorem labels_pushProduct (hd : Distinct s₀) (q : CatalogProduct) :
    Ensures (fun w : World σ => Labels s₀ products prices w.store) (pushProduct q)
      fun _ w => Labels s₀ (products ++ [q.id]) prices w.store := by
  intro w pushed w' h hon
  obtain ⟨_, _, -, -, hnote⟩ := pushProduct_ok hon
  exact h.noteProduct hd hnote

theorem labels_pushPrice (hd : Distinct s₀) (pushed : CatalogProduct) (p : CatalogPrice) :
    Ensures (fun w : World σ => Labels s₀ products prices w.store) (pushPrice pushed p)
      fun _ w => Labels s₀ products (prices ++ [p.id]) w.store := by
  intro w _ w' h hon
  cases hpushed : pushed.productId with
  | none =>
    -- Without the provider's id of its product a price is not pushed.
    rw [pushPrice_eq] at hon
    obtain ⟨_, _, hsync, -⟩ := noted_ok hon
    rw [Provider.syncPrice, hpushed] at hsync
    cases hsync
  | some productId =>
    obtain ⟨_, _, -, hnote⟩ := pushPrice_ok hpushed hon
    exact h.notePrice hd hnote

theorem labels_pushPrices (hd : Distinct s₀) (force : Bool) (pushed : CatalogProduct)
    {ps : List CatalogPrice} (hps : ∀ p ∈ ps, p ∈ s₀.prices.rows) (summary : SyncSummary) :
    Ensures (fun w : World σ => Labels s₀ products prices w.store)
      (pushPrices force pushed summary ps)
      fun _ w => Labels s₀ products (prices ++ ps.map (·.id)) w.store := by
  induction ps generalizing prices summary with
  | nil => exact ensures_pure fun w h => by simpa using h
  | cons p ps ih =>
    obtain ⟨hp, hps⟩ := List.forall_mem_cons.1 hps
    rw [pushPrices, List.map_cons, List.append_cons]
    split
    · next hskip =>
      have hid : priceIdOf s₀ p.id ≠ none := by
        rw [priceIdOf_of_mem hd hp, Option.ne_none_iff_isSome]
        exact (Bool.and_eq_true_iff.1 hskip).1
      exact fun w a w' h hon => ih hps _ w a w' (h.skipPrice hid) hon
    · exact (labels_pushPrice hd pushed p).bind fun _ => ih hps _

theorem labels_pushProducts (hd : Distinct s₀) (force : Bool) {ps : List CatalogPrice}
    (hps : ∀ p ∈ ps, p ∈ s₀.prices.rows) (qs : List CatalogProduct) (summary : SyncSummary) :
    Ensures (fun w : World σ => Labels s₀ products prices w.store)
      (pushProducts force ps summary qs)
      fun _ w => Labels s₀ (products ++ (qs.filter (·.isActive)).map (·.id))
        (prices ++ (pushesOf ps qs).map (·.2.id)) w.store := by
  induction qs generalizing products prices summary with
  | nil => exact ensures_pure fun w h => by simpa [pushesOf] using h
  | cons q qs ih =>
    rw [pushProducts]
    by_cases hactive : q.isActive = true
    · have hproducts : products ++ ((q :: qs).filter (·.isActive)).map (·.id) =
          (products ++ [q.id]) ++ (qs.filter (·.isActive)).map (·.id) := by
        simp [hactive]
      have hprices : prices ++ (pushesOf ps (q :: qs)).map (·.2.id) =
          (prices ++ (activePricesOf q.id ps).map (·.id)) ++ (pushesOf ps qs).map (·.2.id) := by
        simp [pushesOf, hactive, Function.comp_def]
      have hrows : ∀ p ∈ activePricesOf q.id ps, p ∈ s₀.prices.rows :=
        fun p hp => hps p (List.mem_filter.1 hp).1
      rw [if_pos hactive, hproducts, hprices]
      exact (labels_pushProduct hd q).bind fun pushed =>
        (labels_pushPrices hd force pushed hrows _).bind fun _ => ih _
    · have hproducts : (q :: qs).filter (·.isActive) = qs.filter (·.isActive) := by
        simp [hactive]
      have hprices : pushesOf ps (q :: qs) = pushesOf ps qs := by
        simp [pushesOf, hactive]
      rw [if_neg hactive, hproducts, hprices]
      exact ih _

variable {w w' : World σ}

variable {c : Collation} (order : c.Arrangement CatalogProduct.name)

/-- The products that a run goes through. -/
def productsOfRun (s : Store) : List Uuid :=
  ((order.arrange s.products.rows).filter (·.isActive)).map (·.id)

/-- The prices that a run goes through. -/
def pricesOfRun (s : Store) : List Uuid :=
  (pushes order s).map (·.2.id)

theorem labels_run (hd : Distinct w.store) {force : Bool} {summary : SyncSummary}
    (h : (run order force).on w = (.ok summary, w')) :
    Labels w.store (productsOfRun order w.store) (pricesOfRun order w.store) w'.store := by
  rw [on_run] at h
  have := labels_pushProducts hd force (fun p hp => (perm_sortPrices _).mem_iff.1 hp)
    (order.arrange w.store.products.rows) _ w summary w' (.refl _) h
  rwa [List.nil_append, List.nil_append] at this

end Run

section Order

variable {c : Collation} {order : c.Arrangement CatalogProduct.name}

/-- A run goes through a price if it is active and its product is. -/
theorem mem_pricesOfRun (hd : Distinct s) {p : CatalogPrice} (hp : p ∈ s.prices.rows) :
    p.id ∈ pricesOfRun order s ↔
      p.isActive = true ∧ ∃ q, s.product? p.product = some q ∧ q.isActive = true := by
  constructor
  · intro hmem
    obtain ⟨⟨q, p'⟩, hpush, hid⟩ := List.mem_map.1 hmem
    obtain ⟨⟨hq, hqa⟩, hp', hpq, hpa⟩ := (mem_pushes order).1 hpush
    obtain rfl := List.inj_on_of_nodup_map hd.prices hp' hp hid
    refine ⟨hpa, q, ?_, hqa⟩
    rw [hpq]
    exact find?_of_nodup hd.products hq
  · rintro ⟨hpa, q, hq, hqa⟩
    obtain ⟨hq, hid⟩ := mem_of_product? hq
    have hpush : (q, p) ∈ pushes order s := (mem_pushes order).2 ⟨⟨hq, hqa⟩, hp, hid.symm, hpa⟩
    exact List.mem_map_of_mem (f := (·.2.id)) hpush

/-- After a run the active products carry provider ids. -/
theorem Labels.productId_ne_none (hd : Distinct s₀)
    (h : Labels s₀ (productsOfRun order s₀) prices s) {q : CatalogProduct}
    (hq : q ∈ s.products.rows) (hactive : q.isActive = true) : q.productId ≠ none := by
  obtain ⟨q₀, hq₀, hlabel⟩ := h.relabelled.exists_product hq
  have hid : q₀.id = q.id := congrArg (·.id) hlabel
  have hactive₀ : q₀.isActive = true := (congrArg (·.isActive) hlabel).trans hactive
  rw [← productIdOf_of_mem (h.relabelled.distinct hd) hq, h.product, ← hid]
  refine .inr (List.mem_map_of_mem (List.mem_filter.2 ⟨?_, hactive₀⟩))
  exact order.mem_arrange.2 hq₀

/-- After a run the active prices of active products carry provider ids. -/
theorem Labels.priceId_ne_none (hd : Distinct s₀)
    (h : Labels s₀ products (pricesOfRun order s₀) s) {q : CatalogProduct}
    (hq : q ∈ s.products.rows) (hqa : q.isActive = true) {p : CatalogPrice}
    (hp : p ∈ s.prices.rows) (hpq : p.product = q.id) (hpa : p.isActive = true) :
    p.priceId ≠ none := by
  obtain ⟨q₀, hq₀, hqlabel⟩ := h.relabelled.exists_product hq
  obtain ⟨p₀, hp₀, hplabel⟩ := h.relabelled.exists_price hp
  have hpid : p₀.id = p.id := congrArg (·.id) hplabel
  have hpq₀ : p₀.product = q₀.id :=
    (congrArg (·.product) hplabel).trans (hpq.trans (congrArg (·.id) hqlabel).symm)
  have hpa₀ : p₀.isActive = true := (congrArg (·.isActive) hplabel).trans hpa
  have hqa₀ : q₀.isActive = true := (congrArg (·.isActive) hqlabel).trans hqa
  rw [← priceIdOf_of_mem (h.relabelled.distinct hd) hp, h.price, ← hpid, mem_pricesOfRun hd hp₀,
    hpq₀]
  exact .inr ⟨hpa₀, q₀, find?_of_nodup hd.products hq₀, hqa₀⟩

/-! ### The check -/

/-- What the check reports of an active price that has no provider id and whose product is not
active: a sync run passes over it. -/
def strandedPrice (s : Store) (p : CatalogPrice) : List Violation :=
  match s.product? p.product with
  | some q =>
    if p.isActive && p.priceId.isNone && !q.isActive then
      [notSynced "price" p.id (q.name ++ " " ++ p.currency)]
    else []
  | none => []

/-- What the check reports of a price after a run is what was to be expected before it. -/
theorem unsyncedPrice_eq (hd : Distinct s₀)
    (h : Labels s₀ products (pricesOfRun order s₀) s) {p₀ p : CatalogPrice}
    (hp₀ : p₀ ∈ s₀.prices.rows) (hp : p ∈ s.prices.rows) (hlabel : p.unlabelled = p₀.unlabelled) :
    unsyncedPrice s p = strandedPrice s₀ p₀ := by
  have hid : p.id = p₀.id := congrArg (·.id) hlabel
  have hproduct : p.product = p₀.product := congrArg (·.product) hlabel
  have hactive : p.isActive = p₀.isActive := congrArg (·.isActive) hlabel
  have hcurrency : p.currency = p₀.currency := congrArg (·.currency) hlabel
  have hcarries := h.price p₀.id
  rw [priceIdOf_of_mem hd hp₀, ← hid, priceIdOf_of_mem (h.relabelled.distinct hd) hp, hid,
    mem_pricesOfRun hd hp₀] at hcarries
  have hfound := find?_agree (f := CatalogProduct.id) h.relabelled.products (fun _ => rfl)
    p₀.product
  change (s.product? p₀.product).map _ = (s₀.product? p₀.product).map _ at hfound
  rw [unsyncedPrice, strandedPrice, hproduct, hactive, hcurrency, hid]
  cases hq₀ : s₀.product? p₀.product with
  | none =>
    rw [hq₀, Option.map_none, Option.map_eq_none_iff] at hfound
    rw [hfound]
    simp
  | some q₀ =>
    rw [hq₀, Option.map_some, Option.map_eq_some_iff] at hfound
    obtain ⟨q, hq, hqlabel⟩ := hfound
    have hname : q.name = q₀.name := congrArg (·.name) hqlabel
    have hwanted : (p₀.isActive && p.priceId.isNone) =
        (p₀.isActive && p₀.priceId.isNone && !q₀.isActive) := by
      simp only [hq₀, Option.some.injEq, exists_eq_left'] at hcarries
      rw [Bool.eq_iff_iff]
      simp only [Bool.and_eq_true, Bool.not_eq_true', ← Bool.not_eq_true, Option.isNone_iff_eq_none]
      tauto
    rw [hq]
    dsimp only
    rw [hname, hwanted]

/-- What a sync run leaves to the check of the catalog. If a run on a database with different ids of
products and of prices succeeds, forced or not and whatever the provider, then afterwards every
active product carries a provider id, and so does every active price of an active product; and the
check reports each active price of an inactive product that carried no provider id before the run,
and nothing else. -/
theorem checked_after_run {σ : Type} [PaymentProvider σ] {w w' : World σ} (hd : Distinct w.store)
    {force : Bool} {summary : SyncSummary} (h : (run order force).on w = (.ok summary, w')) :
    (∀ q ∈ w'.store.products.rows, q.isActive = true → q.productId ≠ none ∧
      ∀ p ∈ w'.store.prices.rows, p.product = q.id → p.isActive = true → p.priceId ≠ none) ∧
    (runNamed "active_catalog_synced").on w'.store =
      (.ok (w.store.prices.rows.flatMap (strandedPrice w.store)), w'.store) := by
  have labels := labels_run order hd h
  have hnone : w'.store.products.rows.flatMap unsyncedProduct = [] := by
    refine List.flatMap_eq_nil_iff.2 fun q hq => if_neg ?_
    simpa using labels.productId_ne_none hd hq
  have hrest : w'.store.prices.rows.flatMap (unsyncedPrice w'.store) =
      w.store.prices.rows.flatMap (strandedPrice w.store) :=
    flatMap_eq_of_agree labels.relabelled.prices fun p hp p₀ hp₀ hlabel =>
      unsyncedPrice_eq hd labels hp₀ hp hlabel
  refine ⟨fun q hq hqa => ⟨labels.productId_ne_none hd hq hqa, fun p hp hpq hpa =>
    labels.priceId_ne_none hd hq hqa hp hpq hpa⟩, ?_⟩
  show (Except.ok (_ ++ _), _) = _
  rw [hnone, hrest, List.nil_append]

end Order

/-- A product that has been withdrawn while its price is still active, and one that is for sale. -/
def withdrawnProduct : World Sandbox :=
  afterAll ⟨.empty, .fresh⟩
    [.insertProduct "Pro" "For teams" none none, .insertPrice none "usd" (.row 2 1) 500 .month none,
      .insertProduct "Team" "For teams" none none,
      .insertPrice none "usd" (.row 2 2) 900 .month none,
      .updateProduct (.row 2 1) { isActive := some false }]

theorem reachable_withdrawnProduct : Reachable withdrawnProduct :=
  (Reachable.empty Sandbox.fresh).afterAll _

theorem on_run_withdrawnProduct (force : Bool) :
    (run byName force).on withdrawnProduct =
      (pushProducts force withdrawnProduct.store.prices.rows ⟨0, 0, 0⟩
        withdrawnProduct.store.products.rows).on withdrawnProduct := by
  have sorted : byName.arrange withdrawnProduct.store.products.rows =
      withdrawnProduct.store.products.rows := List.mergeSort_of_pairwise (by decide)
  rw [on_run, sorted, sortPrices_of_evolves reachable_withdrawnProduct.evolves]

theorem run_withdrawnProduct (force : Bool) :
    ((run byName force).on withdrawnProduct).1 = .ok ⟨1, 1, 0⟩ := by
  rw [on_run_withdrawnProduct]
  cases force <;> decide +kernel

/-- The run pushes the product that is for sale and its price. The price of the withdrawn product is
what the check reports. -/
theorem checked_after_run_of_withdrawn :
    let w' := ((run byName true).on withdrawnProduct).2
    (runNamed "active_catalog_synced").on w'.store =
      (.ok [notSynced "price" (.row 3 1) "Pro usd"], w'.store) := by
  have hd : Distinct withdrawnProduct.store := ⟨by decide, by decide⟩
  exact (checked_after_run hd (Prod.ext (run_withdrawnProduct true) rfl)).2

/-- The check can find something after a run that succeeded. -/
theorem not_check_passes_after_run :
    ¬ ∀ (c : Collation) (order : c.Arrangement CatalogProduct.name) (w w' : World Sandbox)
        (force : Bool) (summary : SyncSummary), Schema w.store → w.provider.Reachable →
      (run order force).on w = (.ok summary, w') →
      (runNamed "active_catalog_synced").on w'.store = (.ok [], w'.store) := by
  intro h
  have hs : Schema withdrawnProduct.store :=
    Schema.empty.evolves .empty reachable_withdrawnProduct.evolves
  have hrun : ((run byName true).on withdrawnProduct).1 = .ok ⟨1, 1, 0⟩ := run_withdrawnProduct true
  have hpasses := h _ byName withdrawnProduct _ true ⟨1, 1, 0⟩ hs .fresh (Prod.ext hrun rfl)
  have hreports : (((runNamed "active_catalog_synced").on
      ((run byName true).on withdrawnProduct).2.store).1.toOption.map List.length) = some 1 := by
    rw [on_run_withdrawnProduct]
    decide +kernel
  rw [hpasses] at hreports
  cases hreports

end OrgBilling.CatalogSync
