import OrgBilling.Proofs.Operation
import OrgBilling.Proofs.Provider.Policy
import OrgBilling.Proofs.Store.Schema

/-!
# What a forced sync run leaves for sale

A forced run pushes every active price of every active product to the provider, one after the other
(`pushes`), and a push takes prices of the same product and currency out of use there. So of the
prices that a run pushes, one of which another push has the product's name and the currency may be
taken out of use again (`IsSuperseded`); all others can be sold when the run is over
(`sells_after_run`).

The run is followed push by push: whatever has been pushed is sold (`Progress`), and the next push
adds to it without doing harm to what is there (`ensures_pushPrice`).
-/

namespace OrgBilling

open Store Transaction
open Provider (Sandbox)

/-! ### Rows but for their provider ids -/

/-- The row without its provider id. -/
def CatalogProduct.unlabelled (q : CatalogProduct) : CatalogProduct :=
  { q with productId := none }

/-- The row without its provider id. -/
def CatalogPrice.unlabelled (p : CatalogPrice) : CatalogPrice :=
  { p with priceId := none }

theorem CatalogProduct.label_congr {q q' : CatalogProduct} (h : q.unlabelled = q'.unlabelled)
    (productId : Option String) : { q with productId } = { q' with productId } := by
  show { q.unlabelled with productId } = _
  rw [h]
  rfl

theorem CatalogPrice.label_congr {p p' : CatalogPrice} (h : p.unlabelled = p'.unlabelled)
    (priceId : Option String) : { p with priceId } = { p' with priceId } := by
  show { p.unlabelled with priceId } = _
  rw [h]
  rfl

namespace CatalogSync

/-- The rows of the catalog have different ids. -/
structure Distinct (s : Store) : Prop where
  products : (s.products.rows.map (·.id)).Nodup
  prices : (s.prices.rows.map (·.id)).Nodup

/-- The catalogs differ in provider ids only. -/
structure Relabelled (s₀ s : Store) : Prop where
  products : s.products.rows.map (·.unlabelled) = s₀.products.rows.map (·.unlabelled)
  prices : s.prices.rows.map (·.unlabelled) = s₀.prices.rows.map (·.unlabelled)

variable {s₀ s s' : Store}

namespace Relabelled

theorem refl (s : Store) : Relabelled s s := ⟨rfl, rfl⟩

variable (h : Relabelled s₀ s)

include h

theorem exists_product {q : CatalogProduct} (hq : q ∈ s.products.rows) :
    ∃ q₀ ∈ s₀.products.rows, q₀.unlabelled = q.unlabelled :=
  List.mem_map.1 (h.products ▸ List.mem_map_of_mem hq)

theorem exists_price {p : CatalogPrice} (hp : p ∈ s.prices.rows) :
    ∃ p₀ ∈ s₀.prices.rows, p₀.unlabelled = p.unlabelled :=
  List.mem_map.1 (h.prices ▸ List.mem_map_of_mem hp)

variable (hd : Distinct s₀)

include hd

theorem distinct : Distinct s where
  products := map_key_eq (f := (·.id)) h.products (fun _ => rfl) ▸ hd.products
  prices := map_key_eq (f := (·.id)) h.prices (fun _ => rfl) ▸ hd.prices

theorem product? {q : CatalogProduct} (hq : q ∈ s₀.products.rows) :
    ∃ old, s.product? q.id = some old ∧ old.unlabelled = q.unlabelled :=
  exists_find?_of_agree h.products hd.products (fun _ => rfl) hq

theorem price? {p : CatalogPrice} (hp : p ∈ s₀.prices.rows) :
    ∃ old, s.price? p.id = some old ∧ old.unlabelled = p.unlabelled :=
  exists_find?_of_agree h.prices hd.prices (fun _ => rfl) hp

end Relabelled

/-! ### Noting provider ids -/

/-- Noting the provider's id of a product. -/
theorem commits_noteProduct {id : Uuid} {productId : String} {r : CatalogProduct}
    (h : Commits (updateProduct id { productId := some (some productId) }) s r s') :
    ∃ old, s.product? id = some old ∧ s'.prices = s.prices ∧
      s'.products = s.products.map fun q =>
        if q.id = id then { old with productId := some productId } else q := by
  obtain ⟨old, hold, rfl, -, rfl⟩ := commits_updateProduct.1 h
  exact ⟨old, hold, rfl, rfl⟩

/-- Noting the provider's id of a price. -/
theorem commits_notePrice {id : Uuid} {priceId : String} {r : CatalogPrice}
    (h : Commits (updatePrice id { priceId := some (some priceId) }) s r s') :
    ∃ old, s.price? id = some old ∧ s'.products = s.products ∧ s'.prices =
      s.prices.map fun p => if p.id = id then { old with priceId := some priceId } else p := by
  obtain ⟨old, hold, rfl, -, rfl⟩ := commits_updatePrice.1 h
  exact ⟨old, hold, rfl, rfl⟩

theorem Relabelled.noteProduct (h : Relabelled s₀ s) (hd : Distinct s₀) {id : Uuid}
    {productId : String} {r : CatalogProduct}
    (hc : Commits (updateProduct id { productId := some (some productId) }) s r s') :
    Relabelled s₀ s' := by
  obtain ⟨old, hold, hprices, hproducts⟩ := commits_noteProduct hc
  refine ⟨?_, by rw [hprices]; exact h.prices⟩
  rw [hproducts, Table.rows_map]
  exact map_replace_of_agree h.products hd.products (fun _ => rfl) hold rfl

theorem Relabelled.notePrice (h : Relabelled s₀ s) (hd : Distinct s₀) {id : Uuid}
    {priceId : String} {r : CatalogPrice}
    (hc : Commits (updatePrice id { priceId := some (some priceId) }) s r s') :
    Relabelled s₀ s' := by
  obtain ⟨old, hold, hproducts, hprices⟩ := commits_notePrice hc
  refine ⟨by rw [hproducts]; exact h.products, ?_⟩
  rw [hprices, Table.rows_map]
  exact map_replace_of_agree h.prices hd.prices (fun _ => rfl) hold rfl

theorem product?_noteProduct {id : Uuid} {productId : String} {r : CatalogProduct}
    (hc : Commits (updateProduct id { productId := some (some productId) }) s r s') (j : Uuid) :
    s'.product? j =
      (s.product? j).map fun q => if j = id then { q with productId := some productId } else q := by
  obtain ⟨old, hold, -, hproducts⟩ := commits_noteProduct hc
  rw [product?, hproducts]
  exact find?_map_replace (f := CatalogProduct.id) (fun q => { q with productId := some productId })
    hold (fun _ => rfl) j

theorem price?_notePrice {id : Uuid} {priceId : String} {r : CatalogPrice}
    (hc : Commits (updatePrice id { priceId := some (some priceId) }) s r s') (j : Uuid) :
    s'.price? j =
      (s.price? j).map fun p => if j = id then { p with priceId := some priceId } else p := by
  obtain ⟨old, hold, -, hprices⟩ := commits_notePrice hc
  rw [price?, hprices]
  exact find?_map_replace (f := CatalogPrice.id) (fun p => { p with priceId := some priceId })
    hold (fun _ => rfl) j

/-! ### Pushes -/

section Pushes

variable {σ : Type} [PaymentProvider σ] {w w' : World σ}

theorem pushProduct_ok {q pushed : CatalogProduct} (h : (pushProduct q).on w = (.ok pushed, w')) :
    ∃ r row, (Provider.createOrUpdateProduct (Provider.detailsOf q)).on w.provider =
        (.ok r, w'.provider) ∧ pushed = { q with productId := some r.id } ∧
      Commits (updateProduct q.id { productId := some (some r.id) }) w.store row w'.store := by
  rw [pushProduct_eq] at h
  obtain ⟨synced, row, hsync, hupdate, rfl⟩ := noted_ok h
  obtain ⟨r, hr, rfl⟩ := Provider.syncProduct_ok hsync
  exact ⟨r, row, hr, rfl, hupdate⟩

/-- The terms of a price that is pushed for the provider's product with an id. -/
def termsOf (p : CatalogPrice) (productId : String) : Provider.PriceTerms :=
  ⟨p.unitAmount, p.currency, p.recurring, productId, p.taxBehavior⟩

theorem pushPrice_ok {pushed : CatalogProduct} {productId : String}
    (hpushed : pushed.productId = some productId) {p : CatalogPrice}
    (h : (pushPrice pushed p).on w = (.ok (), w')) :
    ∃ r row, (Provider.createOrUpdatePrice (termsOf p productId)).on w.provider =
        (.ok r, w'.provider) ∧
      Commits (updatePrice p.id { priceId := some (some r.id) }) w.store row w'.store := by
  rw [pushPrice_eq] at h
  obtain ⟨synced, row, hsync, hupdate, -⟩ := noted_ok h
  obtain ⟨r, hr, rfl⟩ := Provider.syncPrice_ok hpushed hsync
  exact ⟨r, row, hr, hupdate⟩

end Pushes

/-! ### What is sold -/

/-- A push of a price: its product and the price, as they were before the run. -/
abbrev Push := CatalogProduct × CatalogPrice

/-- A push has the product's name and the currency of the other. -/
def Replaces (b a : Push) : Prop :=
  b.1.name = a.1.name ∧ b.2.currency = a.2.currency

/-- A price at the provider is for the product with an id and is what a row says. -/
structure Offers (r : Provider.Price) (productId : String) (p : CatalogPrice) : Prop where
  product : r.product = productId
  currency : r.currency = p.currency
  unitAmount : r.unitAmount = some p.unitAmount
  recurring : r.recurring = some ⟨p.recurring.name⟩
  taxBehavior : r.taxBehavior = p.taxBehavior

/-- What has been pushed is noted on the rows, and the provider offers it; it may be out of use
there only if it may be superseded. -/
def Sells (superseded : Prop) (a : Push) (w : World Sandbox) : Prop :=
  ∃ productId priceId r,
    w.store.product? a.1.id = some { a.1 with productId := some productId } ∧
    w.store.price? a.2.id = some { a.2 with priceId := some priceId } ∧
    w.provider.Names productId a.1.name ∧
    r ∈ w.provider.prices ∧ r.id = priceId ∧ Offers r productId a.2 ∧
    (superseded ∨ r.active = true)

variable {sup : Push → Prop} {done : List Push}

/-- So far a run has made these pushes. -/
structure Progress (s₀ : Store) (sup : Push → Prop) (done : List Push) (w : World Sandbox) :
    Prop where
  sound : w.provider.Sound
  relabelled : Relabelled s₀ w.store
  sold : ∀ a ∈ done, Sells (sup a) a w

/-- A product has been pushed, with the result given. -/
def Noted (q pushed : CatalogProduct) (w : World Sandbox) : Prop :=
  ∃ productId, pushed = { q with productId := some productId } ∧
    w.store.product? q.id = some pushed ∧ w.provider.Names productId q.name

/-- A later push does no harm to an earlier one: it is of another row, and it replaces the earlier
one only if that may be superseded. -/
def Harmless (sup : Push → Prop) (a b : Push) : Prop :=
  a.2.id ≠ b.2.id ∧ (Replaces b a → sup a)

/-! ### One push -/

/-- Pushing a product keeps what has been pushed of other products. -/
theorem ensures_pushProduct (hd : Distinct s₀) {q : CatalogProduct} (hq : q ∈ s₀.products.rows)
    (others : ∀ a ∈ done, a.1.id ≠ q.id) :
    Ensures (Progress s₀ sup done) (pushProduct q) fun pushed w =>
      Progress s₀ sup done w ∧ Noted q pushed w := by
  intro w pushed w' h hon
  obtain ⟨r, row, hr, rfl, hnote⟩ := pushProduct_ok hon
  obtain ⟨hsound, hprices, hnamed, hnames⟩ := Sandbox.createOrUpdateProduct_ok h.sound hr
  have hrow := product?_noteProduct hnote
  refine ⟨⟨hsound, h.relabelled.noteProduct hd hnote, fun a ha => ?_⟩, r.id, rfl, ?_, hnamed⟩
  · -- The row that is noted is of another product, and the prices stay as they are.
    obtain ⟨productId, priceId, r', hproduct, hprice, hname, hr', hsold⟩ := h.sold a ha
    obtain ⟨_, -, hrows, -⟩ := commits_noteProduct hnote
    refine ⟨productId, priceId, r', ?_, ?_, hnames _ _ hname, hprices ▸ hr', hsold⟩
    · rw [hrow, hproduct, Option.map_some, if_neg (others a ha)]
    · rw [price?, hrows]
      exact hprice
  · obtain ⟨old, hold, hlabel⟩ := h.relabelled.product? hd hq
    rw [hrow, hold, Option.map_some, if_pos rfl, CatalogProduct.label_congr hlabel]

/-- A push of a price adds to what has been pushed, if it does no harm to any of it. -/
theorem ensures_pushPrice (hd : Distinct s₀) {q pushed : CatalogProduct} {p : CatalogPrice}
    (hp : p ∈ s₀.prices.rows) (harmless : ∀ a ∈ done, Harmless sup a (q, p)) :
    Ensures (fun w => Progress s₀ sup done w ∧ Noted q pushed w) (pushPrice pushed p) fun _ w =>
      Progress s₀ sup (done ++ [(q, p)]) w ∧ Noted q pushed w := by
  rintro w ⟨⟩ w' ⟨h, productId, rfl, hproduct, hname⟩ hon
  obtain ⟨r, row, hr, hnote⟩ := pushPrice_ok rfl hon
  obtain ⟨rfl, hprovider⟩ := Sandbox.createOrUpdatePrice_ok h.sound hr
  have hrow := price?_notePrice hnote
  obtain ⟨_, -, hrows, -⟩ := commits_notePrice hnote
  have hproducts (i : Uuid) : w'.store.product? i = w.store.product? i := by
    rw [Store.product?, hrows, Store.product?]
  have hnames (id name : String) (hn : w.provider.Names id name) : w'.provider.Names id name := by
    rw [hprovider]
    exact hn
  refine ⟨⟨?_, h.relabelled.notePrice hd hnote, ?_⟩, productId, rfl, ?_, hnames _ _ hname⟩
  · rw [hprovider]
    exact h.sound.replacePrice _
  · intro a ha
    rcases List.mem_append.1 ha with ha | ha
    · obtain ⟨productId', priceId, r, hproduct', hprice, hname', hr, rfl, hoffers, hactive⟩ :=
        h.sold a ha
      obtain ⟨hne, hreplaces⟩ := harmless a ha
      obtain ⟨active, hmem, hkept⟩ := Sandbox.mem_prices_replacePrice h.sound
        (termsOf p productId) hr
      refine ⟨productId', r.id, { r with active }, (hproducts _).trans hproduct', ?_,
        hnames _ _ hname', hprovider ▸ hmem, rfl, ⟨hoffers.1, hoffers.2, hoffers.3, hoffers.4,
        hoffers.5⟩, ?_⟩
      · rw [hrow, hprice, Option.map_some, if_neg hne]
      · rcases hkept with rfl | ⟨hproduct'', hcurrency⟩
        · exact hactive
        · -- Both products have one id at the provider, so they have one name.
          refine .inl (hreplaces ⟨?_, ?_⟩)
          · obtain rfl : productId' = productId := hoffers.product.symm.trans hproduct''
            exact hname.unique h.sound hname'
          · exact hcurrency.symm.trans hoffers.currency
    · -- The push itself: its price is the new one, and its row is noted.
      obtain rfl := List.mem_singleton.1 ha
      obtain ⟨old, hold, hlabel⟩ := h.relabelled.price? hd hp
      refine ⟨productId, _, Sandbox.newPrice (termsOf p productId) w.provider.next,
        (hproducts _).trans hproduct, ?_, hnames _ _ hname, ?_, rfl, ⟨rfl, rfl, rfl, rfl, rfl⟩,
        .inr rfl⟩
      · rw [hrow, hold, Option.map_some, if_pos rfl, CatalogPrice.label_congr hlabel]
      · rw [hprovider]
        exact List.mem_append_right _ (List.mem_singleton_self _)
  · rw [hproducts]
    exact hproduct

/-! ### A whole run -/

/-- The pushes of the active ones among products, each with its active prices. -/
def pushesOf (prices : List CatalogPrice) (qs : List CatalogProduct) : List Push :=
  (qs.filter (·.isActive)).flatMap fun q => (activePricesOf q.id prices).map (q, ·)

theorem mem_pushesOf {prices : List CatalogPrice} {qs : List CatalogProduct} {a : Push} :
    a ∈ pushesOf prices qs ↔ (a.1 ∈ qs ∧ a.1.isActive = true) ∧
      a.2 ∈ prices ∧ a.2.product = a.1.id ∧ a.2.isActive = true := by
  obtain ⟨q, p⟩ := a
  simp [pushesOf, activePricesOf]

theorem ensures_pushPrices (hd : Distinct s₀) {q pushed : CatalogProduct} {ps : List CatalogPrice}
    (hps : ∀ p ∈ ps, p ∈ s₀.prices.rows)
    (harmless : (done ++ ps.map (q, ·)).Pairwise (Harmless sup)) (summary : SyncSummary) :
    Ensures (fun w => Progress s₀ sup done w ∧ Noted q pushed w) (pushPrices true pushed summary ps)
      fun _ => Progress s₀ sup (done ++ ps.map (q, ·)) := by
  induction ps generalizing done summary with
  | nil => exact ensures_pure fun w h => by simpa using h.1
  | cons p ps ih =>
    obtain ⟨hp, hps⟩ := List.forall_mem_cons.1 hps
    have hnext : ∀ a ∈ done, Harmless sup a (q, p) := fun a ha =>
      (List.pairwise_append.1 harmless).2.2 a ha _ (List.mem_cons_self ..)
    have hsplit : done ++ (p :: ps).map (q, ·) = (done ++ [(q, p)]) ++ ps.map (q, ·) := by simp
    rw [hsplit] at harmless ⊢
    rw [pushPrices, if_neg (by simp)]
    exact (ensures_pushPrice hd hp hnext).bind fun _ => ih hps harmless _

theorem ensures_pushProducts (hd : Distinct s₀) {prices : List CatalogPrice}
    (hps : ∀ p ∈ prices, p ∈ s₀.prices.rows) {qs : List CatalogProduct}
    (hqs : ∀ q ∈ qs, q ∈ s₀.products.rows) (ids : (qs.map (·.id)).Nodup)
    (others : ∀ a ∈ done, ∀ q ∈ qs, a.1.id ≠ q.id)
    (harmless : (done ++ pushesOf prices qs).Pairwise (Harmless sup)) (summary : SyncSummary) :
    Ensures (Progress s₀ sup done) (pushProducts true prices summary qs)
      fun _ => Progress s₀ sup (done ++ pushesOf prices qs) := by
  -- Product by product. A product is pushed once only, so what has been pushed is of others.
  induction qs generalizing done summary with
  | nil => exact ensures_pure fun w h => by simpa [pushesOf] using h
  | cons q qs ih =>
    obtain ⟨hq, hqs⟩ := List.forall_mem_cons.1 hqs
    obtain ⟨hid, ids⟩ := List.nodup_cons.1 ids
    have hrest : ∀ a ∈ done, ∀ q ∈ qs, a.1.id ≠ q.id := fun a ha q hq =>
      others a ha q (List.mem_cons_of_mem _ hq)
    rw [pushProducts]
    by_cases hactive : q.isActive = true
    · have hsplit : done ++ pushesOf prices (q :: qs) =
          (done ++ (activePricesOf q.id prices).map (q, ·)) ++ pushesOf prices qs := by
        simp [pushesOf, hactive]
      rw [hsplit] at harmless ⊢
      have hprices : ∀ p ∈ activePricesOf q.id prices, p ∈ s₀.prices.rows :=
        fun p hp => hps p (List.mem_filter.1 hp).1
      have hdone : ∀ a ∈ done, a.1.id ≠ q.id := fun a ha => others a ha q (List.mem_cons_self ..)
      rw [if_pos hactive]
      refine (ensures_pushProduct hd hq hdone).bind fun pushed =>
        (ensures_pushPrices hd hprices (List.pairwise_append.1 harmless).1 _).bind fun _ =>
          ih hqs ids ?_ harmless _
      intro a ha q' hq'
      rcases List.mem_append.1 ha with ha | ha
      · exact hrest a ha q' hq'
      · obtain ⟨p, -, rfl⟩ := List.mem_map.1 ha
        exact fun heq => hid (List.mem_map.2 ⟨q', hq', heq.symm⟩)
    · have hskip : pushesOf prices (q :: qs) = pushesOf prices qs := by
        simp [pushesOf, hactive]
      rw [hskip] at harmless ⊢
      rw [if_neg hactive]
      exact ih hqs ids hrest harmless summary

/-- No row is pushed twice. -/
theorem pairwise_pushesOf {prices : List CatalogPrice} (hps : (prices.map (·.id)).Nodup)
    {qs : List CatalogProduct} (ids : (qs.map (·.id)).Nodup) :
    (pushesOf prices qs).Pairwise fun a b => a.2.id ≠ b.2.id := by
  refine List.pairwise_flatMap.2 ⟨fun q _ => ?_, ?_⟩
  · exact List.pairwise_map.2 ((List.pairwise_map.1 hps).filter _)
  · refine ((List.pairwise_map.1 ids).filter _).imp fun hne a ha b hb hid => ?_
    obtain ⟨p, hp, rfl⟩ := List.mem_map.1 ha
    obtain ⟨p', hp', rfl⟩ := List.mem_map.1 hb
    obtain ⟨hp, hproduct⟩ := List.mem_filter.1 hp
    obtain ⟨hp', hproduct'⟩ := List.mem_filter.1 hp'
    simp only [Bool.and_eq_true, beq_iff_eq] at hproduct hproduct'
    obtain rfl := List.inj_on_of_nodup_map hps hp hp' hid
    exact hne (hproduct.1.symm.trans hproduct'.1)

/-- The prices of a product are pushed in the order of their ids, and products in the order in which
they stand. -/
theorem pairwise_pushesOf_later {prices : List CatalogPrice}
    (sorted : prices.Pairwise fun p p' => p.id.value < p'.id.value) (qs : List CatalogProduct) :
    (pushesOf prices qs).Pairwise fun a b =>
      (a.1 = b.1 ∧ a.2.id.value < b.2.id.value) ∨ [a.1, b.1].Sublist qs := by
  refine List.pairwise_flatMap.2 ⟨fun q _ => ?_, ?_⟩
  · exact List.pairwise_map.2 ((sorted.filter _).imp fun hlt => .inl ⟨rfl, hlt⟩)
  · refine List.pairwise_iff_forall_sublist.2 fun {q q'} hsub a ha b hb => ?_
    obtain ⟨p, -, rfl⟩ := List.mem_map.1 ha
    obtain ⟨p', -, rfl⟩ := List.mem_map.1 hb
    exact .inr (hsub.trans List.filter_sublist)

section Order

variable {c : Collation} (order : c.Arrangement CatalogProduct.name)

/-- The pushes of a forced run, in their order: products by name, each with its active prices, by
their ids. -/
def pushes (s : Store) : List Push :=
  pushesOf (sortPrices s.prices.rows) (order.arrange s.products.rows)

/-- The products of a run are those of the database, and so are the prices. -/
theorem mem_pushes {a : Push} :
    a ∈ pushes order s ↔ (a.1 ∈ s.products.rows ∧ a.1.isActive = true) ∧
      a.2 ∈ s.prices.rows ∧ a.2.product = a.1.id ∧ a.2.isActive = true := by
  rw [pushes, mem_pushesOf, order.mem_arrange, (perm_sortPrices _).mem_iff]

/-- A run pushes the price `p` of the product `q` after the price with an id, and it has the name of
that price's product and the price's currency. Products are pushed in the order of their names, and
the prices of a product in the order of their ids. -/
def IsSuperseded (s : Store) (price : Uuid) : Prop :=
  ∃ q ∈ s.products.rows, ∃ p ∈ s.prices.rows, ∃ q' ∈ s.products.rows, ∃ p' ∈ s.prices.rows,
    p.id = price ∧ p.product = q.id ∧
    p'.product = q'.id ∧ p'.isActive = true ∧ q'.isActive = true ∧
    ((q' = q ∧ p.id.value < p'.id.value) ∨ [q, q'].Sublist (order.arrange s.products.rows)) ∧
    q'.name = q.name ∧ p'.currency = p.currency

/-- Whatever has happened to a database, its prices stand in the order of their ids, and the id that
is given out next is higher than all of them. -/
theorem prices_by_id (h : Evolves .empty s) :
    s.prices.rows.Pairwise (fun p p' => p.id.value < p'.id.value) ∧
      ∀ p ∈ s.prices.rows, p.id.value < (Uuid.row priceTag (s.prices.issued + 1)).value := by
  induction h with
  | refl => exact ⟨.nil, fun _ hp => nomatch hp⟩
  | @tail s _ _ hc ih =>
    obtain ⟨ascend, below⟩ := ih
    rcases hc with hc | hc
    · cases hc with
      | addPrice row id sound =>
        have next : (Uuid.row priceTag (s.prices.issued + 1)).value <
            (Uuid.row priceTag (s.prices.issued + 1 + 1)).value := by simp only [Uuid.row]; omega
        refine ⟨List.pairwise_append.2 ⟨ascend, List.pairwise_singleton _ _, fun p hp p' hp' => ?_⟩,
          forall_mem_insert (fun p hp => Nat.lt_trans (below p hp) next) ?_⟩
        · rw [List.mem_singleton.1 hp', Table.nextRow, id]
          exact below p hp
        · rw [Table.nextRow, id]
          exact next
      | editPrices f id sound =>
        refine ⟨List.pairwise_map.2 (by simpa only [id] using ascend),
          List.forall_mem_map.2 fun p hp => ?_⟩
        rw [id]
        exact below p hp
      | select closed =>
        exact ⟨ascend.filter _, fun p hp => below p (List.mem_filter.1 hp).1⟩
      | _ => exact ⟨ascend, below⟩
    · cases hc <;> exact ⟨ascend, below⟩

/-- So nothing is left to sort when they are listed. -/
theorem sortPrices_of_evolves (h : Evolves .empty s) : sortPrices s.prices.rows = s.prices.rows :=
  sortPrices_of_pairwise ((prices_by_id h).1.imp Nat.le_of_lt)

theorem nodup_sortPrices (hd : Distinct s) : ((sortPrices s.prices.rows).map (·.id)).Nodup :=
  ((perm_sortPrices _).map _).nodup_iff.2 hd.prices

theorem nodup_arrange (hd : Distinct s) :
    ((order.arrange s.products.rows).map (·.id)).Nodup :=
  ((order.perm _).map _).nodup_iff.2 hd.products

/-- Ids that are different and in order increase. -/
theorem pairwise_lt_sortPrices (hd : Distinct s) :
    (sortPrices s.prices.rows).Pairwise fun p p' => p.id.value < p'.id.value := by
  refine ((pairwise_sortPrices _).and (List.pairwise_map.1 (nodup_sortPrices hd))).imp ?_
  rintro p p' ⟨hle, hne⟩
  refine Nat.lt_of_le_of_ne hle fun heq => hne ?_
  cases hp : p.id
  cases hp' : p'.id
  simp_all

theorem on_run {σ : Type} [PaymentProvider σ] (force : Bool) (w : World σ) :
    (run order force).on w =
      (pushProducts force (sortPrices w.store.prices.rows) ⟨0, 0, 0⟩
        (order.arrange w.store.products.rows)).on w := rfl

variable {w w' : World Sandbox}

/-- No push of a forced run does harm to an earlier one. -/
theorem harmless_pushes (hd : Distinct s) :
    (pushes order s).Pairwise (Harmless fun a => IsSuperseded order s a.2.id) := by
  have distinct := pairwise_pushesOf (nodup_sortPrices hd) (nodup_arrange order hd)
  have later := pairwise_pushesOf_later (pairwise_lt_sortPrices hd) (order.arrange s.products.rows)
  refine (distinct.and later).imp_of_mem ?_
  rintro a b ha hb ⟨hne, hlater⟩
  obtain ⟨⟨hq, -⟩, hp, hpq, -⟩ := (mem_pushes order).1 ha
  obtain ⟨⟨hq', hqa'⟩, hp', hpq', hpa'⟩ := (mem_pushes order).1 hb
  refine ⟨hne, fun hreplaces => ?_⟩
  exact ⟨a.1, hq, a.2, hp, b.1, hq', b.2, hp', rfl, hpq, hpq', hpa', hqa',
    hlater.imp_left (And.imp_left Eq.symm), hreplaces.1, hreplaces.2⟩

/-- A forced run makes its pushes. -/
theorem progress_run (hd : Distinct w.store) (hs : w.provider.Sound) {summary : SyncSummary}
    (h : (run order true).on w = (.ok summary, w')) :
    Progress w.store (fun a => IsSuperseded order w.store a.2.id) (pushes order w.store) w' := by
  rw [on_run] at h
  have start : Progress w.store (fun a => IsSuperseded order w.store a.2.id) [] w :=
    ⟨hs, .refl w.store, by simp⟩
  have others : ∀ a ∈ ([] : List Push), ∀ q ∈ order.arrange w.store.products.rows,
      a.1.id ≠ q.id := by simp
  exact ensures_pushProducts hd (fun p hp => (perm_sortPrices _).mem_iff.1 hp)
    (fun q hq => order.mem_arrange.1 hq) (nodup_arrange order hd) others (harmless_pushes order hd)
    ⟨0, 0, 0⟩ w summary w' start h

/-- A forced run leaves what can be sold. If a forced run on a database with different ids of
products and of prices and on a provider that requests have led to succeeds, then afterwards every
active price of an active product carries the id of a price at the provider, which is for the
product that the product's row names and has the currency, amount, interval and tax behavior of the
row. It is in use there, unless the run pushed later a price of a product of the same name and in the
same currency, products being pushed by name and the prices of each by id. -/
theorem sells_after_run (hd : Distinct w.store) (hr : w.provider.Reachable) {summary : SyncSummary}
    (h : (run order true).on w = (.ok summary, w')) :
    ∀ q ∈ w'.store.products.rows, q.isActive = true →
    ∀ p ∈ w'.store.prices.rows, p.product = q.id → p.isActive = true →
      ∃ productId priceId r, q.productId = some productId ∧ p.priceId = some priceId ∧
        w'.provider.price? priceId = some r ∧ r.product = productId ∧ r.currency = p.currency ∧
        r.unitAmount = some p.unitAmount ∧ r.recurring = some ⟨p.recurring.name⟩ ∧
        r.taxBehavior = p.taxBehavior ∧ (IsSuperseded order w.store p.id ∨ r.active = true) := by
  have progress := progress_run order hd hr.sound h
  have hd' := progress.relabelled.distinct hd
  intro q hq hqa p hp hpq hpa
  obtain ⟨q₀, hq₀, hlabel⟩ := progress.relabelled.exists_product hq
  obtain ⟨p₀, hp₀, hlabel'⟩ := progress.relabelled.exists_price hp
  have hqid : q₀.id = q.id := congrArg (·.id) hlabel
  have hpid : p₀.id = p.id := congrArg (·.id) hlabel'
  have hpq₀ : p₀.product = q₀.id := (congrArg (·.product) hlabel').trans (hpq.trans hqid.symm)
  have hqa₀ : q₀.isActive = true := (congrArg (·.isActive) hlabel).trans hqa
  have hpa₀ : p₀.isActive = true := (congrArg (·.isActive) hlabel').trans hpa
  have mem : (q₀, p₀) ∈ pushes order w.store :=
    (mem_pushes order).2 ⟨⟨hq₀, hqa₀⟩, hp₀, hpq₀, hpa₀⟩
  obtain ⟨productId, priceId, r, hproduct, hprice, -, hr, rfl, hoffers, hactive⟩ :=
    progress.sold _ mem
  have hfindq : w'.store.product? q.id = some q := find?_of_nodup hd'.products hq
  have hfindp : w'.store.price? p.id = some p := find?_of_nodup hd'.prices hp
  rw [hqid, hfindq] at hproduct
  rw [hpid, hfindp] at hprice
  obtain rfl := Option.some.inj hproduct
  obtain rfl := Option.some.inj hprice
  exact ⟨productId, r.id, r, rfl, rfl, progress.sound.price? hr, hoffers.product, hoffers.currency,
    hoffers.unitAmount, hoffers.recurring, hoffers.taxBehavior, hactive⟩

end Order

/-- The order of names by the numbers of their characters. -/
def byName : Collation.codePoints.Arrangement CatalogProduct.name :=
  Collation.codePoints.stable _

/-- A product with a monthly and a yearly price in one currency. -/
def monthlyAndYearly : World Sandbox :=
  afterAll ⟨.empty, .fresh⟩
    [.insertProduct "Pro" "For teams" none none, .insertPrice none "usd" (.row 2 1) 500 .month none,
      .insertPrice none "usd" (.row 2 1) 5000 .year none]

theorem reachable_monthlyAndYearly : Reachable monthlyAndYearly :=
  (Reachable.empty Sandbox.fresh).afterAll _

theorem on_run_monthlyAndYearly :
    (run byName true).on monthlyAndYearly =
      (pushProducts true monthlyAndYearly.store.prices.rows ⟨0, 0, 0⟩
        monthlyAndYearly.store.products.rows).on monthlyAndYearly := by
  have sorted : byName.arrange monthlyAndYearly.store.products.rows =
      monthlyAndYearly.store.products.rows := List.mergeSort_of_pairwise (by decide)
  rw [on_run, sorted, sortPrices_of_evolves reachable_monthlyAndYearly.evolves]

/-- What a forced run notes on its rows, and which of its prices are in use at the provider. -/
theorem run_monthlyAndYearly :
    let w' := ((run byName true).on monthlyAndYearly).2
    ((run byName true).on monthlyAndYearly).1 = .ok ⟨1, 2, 0⟩ ∧
    w'.store.products.rows =
      [⟨.row 2 1, some "prod_mock00000001", "Pro", "For teams", true, none⟩] ∧
    w'.store.prices.rows =
      [⟨.row 3 1, some "price_mock00000002", "usd", .row 2 1, 500, true, .month, none⟩,
        ⟨.row 3 2, some "price_mock00000003", "usd", .row 2 1, 5000, true, .year, none⟩] ∧
    w'.provider.prices.map (fun r => (r.id, r.active)) =
      [("price_mock00000002", false), ("price_mock00000003", true)] := by
  rw [on_run_monthlyAndYearly]
  decide +kernel

/-- The yearly price is pushed last, and it can be sold. -/
theorem sells_after_run_of_yearly :
    let w' := ((run byName true).on monthlyAndYearly).2
    ∃ r, w'.provider.price? "price_mock00000003" = some r ∧ r.product = "prod_mock00000001" ∧
      r.unitAmount = some 5000 ∧
      (IsSuperseded byName monthlyAndYearly.store (.row 3 2) ∨ r.active = true) := by
  intro w'
  have hd : Distinct monthlyAndYearly.store := ⟨by decide, by decide⟩
  obtain ⟨hrun, hproducts, hprices, -⟩ := run_monthlyAndYearly
  have hq : ⟨.row 2 1, some "prod_mock00000001", "Pro", "For teams", true, none⟩ ∈
      w'.store.products.rows := hproducts ▸ List.mem_cons_self ..
  have hp : ⟨.row 3 2, some "price_mock00000003", "usd", .row 2 1, 5000, true, .year, none⟩ ∈
      w'.store.prices.rows := hprices ▸ List.mem_cons_of_mem _ (List.mem_cons_self ..)
  obtain ⟨_, _, r, hproduct, hprice, hr, hrproduct, -, hamount, -, -, hactive⟩ :=
    sells_after_run byName hd .fresh (Prod.ext hrun rfl) _ hq rfl _ hp rfl rfl
  cases hproduct
  cases hprice
  exact ⟨r, hr, hrproduct, hamount, hactive⟩

/-- Not every price that has been pushed is in use: the push of the yearly price takes the monthly
one out of use. -/
theorem not_active_after_run :
    ¬ ∀ (c : Collation) (order : c.Arrangement CatalogProduct.name) (w w' : World Sandbox)
        (summary : SyncSummary), Schema w.store → w.provider.Reachable →
      (run order true).on w = (.ok summary, w') →
      ∀ q ∈ w'.store.products.rows, q.isActive = true →
      ∀ p ∈ w'.store.prices.rows, p.product = q.id → p.isActive = true →
        ∃ productId priceId r, q.productId = some productId ∧ p.priceId = some priceId ∧
          w'.provider.price? priceId = some r ∧ r.active = true ∧ r.product = productId ∧
          r.currency = p.currency ∧ r.unitAmount = some p.unitAmount ∧
          r.recurring = some ⟨p.recurring.name⟩ ∧ r.taxBehavior = p.taxBehavior := by
  intro h
  have hs : Schema monthlyAndYearly.store :=
    Schema.empty.evolves .empty reachable_monthlyAndYearly.evolves
  obtain ⟨hrun, hproducts, hprices, hactives⟩ := run_monthlyAndYearly
  have hq : ⟨.row 2 1, some "prod_mock00000001", "Pro", "For teams", true, none⟩ ∈
      ((run byName true).on monthlyAndYearly).2.store.products.rows :=
    hproducts ▸ List.mem_cons_self ..
  have hp : ⟨.row 3 1, some "price_mock00000002", "usd", .row 2 1, 500, true, .month, none⟩ ∈
      ((run byName true).on monthlyAndYearly).2.store.prices.rows := hprices ▸ List.mem_cons_self ..
  obtain ⟨_, _, r, -, hprice, hr, hactive, -⟩ :=
    h _ byName monthlyAndYearly _ ⟨1, 2, 0⟩ hs .fresh (Prod.ext hrun rfl) _ hq rfl _ hp rfl rfl
  cases hprice
  have hid : r.id = "price_mock00000002" := by simpa using List.find?_some hr
  have listed := List.mem_map_of_mem (List.mem_of_find?_eq_some hr) (f := fun r => (r.id, r.active))
  rw [hactives, hid, hactive] at listed
  simp at listed

end CatalogSync

end OrgBilling
