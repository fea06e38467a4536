import OrgBilling.Proofs.CatalogSync
import OrgBilling.Provider.Connection

/-!
# A sync run that stops

A sync run comes to the rows of the catalog in an order that is fixed when it begins (`schedule`):
products by name, each followed by its prices by their ids (`IsSchedule`). Rows that are due are
pushed, and the id that the provider answers is noted; the others are passed over. The run may stop at
any row, because the provider fails or because the database does not take what the provider has
answered.

Wherever it stops, it has dealt with the rows before that place one by one (`History`), it has noted
the ids that it was given for them (`labelledBy`) and nothing else, and it has not touched the rows
from there on (`stopped_run`). Nothing is assumed of the provider.
-/

namespace OrgBilling

open Store Transaction

/-- The row with the provider's id that it is given, if there is one. -/
def CatalogProduct.labelled (l : Option String) (q : CatalogProduct) : CatalogProduct :=
  { q with productId := l.or q.productId }

/-- The row with the provider's id that it is given, if there is one. -/
def CatalogPrice.labelled (l : Option String) (p : CatalogPrice) : CatalogPrice :=
  { p with priceId := l.or p.priceId }

@[simp] theorem CatalogProduct.labelled_none (q : CatalogProduct) : q.labelled none = q := rfl

@[simp] theorem CatalogPrice.labelled_none (p : CatalogPrice) : p.labelled none = p := rfl

namespace CatalogSync

/-! ### The order of a run -/

/-- Names a row of the catalog. -/
inductive RowId
  /-- The product with an id. -/
  | product (id : Uuid)
  /-- The price with an id. -/
  | price (id : Uuid)
  deriving DecidableEq

/-- A row that a run comes to, as it was before the run. -/
inductive Entry
  /-- A product. -/
  | product (q : CatalogProduct)
  /-- A price of a product. -/
  | price (q : CatalogProduct) (p : CatalogPrice)

namespace Entry

/-- The row. -/
def row : Entry → RowId
  | product q => .product q.id
  | price _ p => .price p.id

/-- The row is to be pushed: it is in use, its product too, and a price has no provider id yet or is
pushed in any case. -/
def isDue (force : Bool) : Entry → Bool
  | product q => q.isActive
  | price q p => q.isActive && p.isActive && (p.priceId.isNone || force)

/-- In the database stands the row as it was, but for the provider's id that it is given, if there is
one. -/
def Stands (s : Store) : Entry → Option String → Prop
  | product q, l => s.product? q.id = some (q.labelled l)
  | price _ p, l => s.price? p.id = some (p.labelled l)

/-- A product that is given a provider's id can be stored with it. -/
def IsStorable : Entry → Option String → Prop
  | product q, some id =>
    ∀ text ∈ q.name :: q.description :: id :: q.taxCode.toList, isStorable text = true
  | _, _ => True

theorem isStorable_none (e : Entry) : e.IsStorable none := by
  cases e <;> trivial

end Entry

/-- A product followed by its prices. -/
def entriesOf (prices : List CatalogPrice) (q : CatalogProduct) : List Entry :=
  .product q :: (prices.filter (·.product == q.id)).map (.price q)

/-- Products, each followed by its prices. -/
def entries (prices : List CatalogPrice) (qs : List CatalogProduct) : List Entry :=
  qs.flatMap (entriesOf prices)

/-- The entries are the rows of the catalog in an order in which a run may come to them: the products
by name, as the collation compares names, and each followed by its prices, by their ids. -/
def IsSchedule (c : Collation) (s : Store) (es : List Entry) : Prop :=
  ∃ (qs : List CatalogProduct) (ps : List CatalogPrice),
    qs.Perm s.products.rows ∧ qs.Pairwise (fun q q' => c.le q.name q'.name = true) ∧
    ps.Perm s.prices.rows ∧ ps.Pairwise (fun p p' => p.id.value ≤ p'.id.value) ∧
    es = qs.flatMap fun q => .product q :: (ps.filter (·.product == q.id)).map (.price q)

section Order

variable {c : Collation} (order : c.Arrangement CatalogProduct.name) {s : Store}

/-- The order in which a run comes to the rows. -/
def schedule (s : Store) : List Entry :=
  entries (sortPrices s.prices.rows) (order.arrange s.products.rows)

theorem isSchedule_schedule (s : Store) : IsSchedule c s (schedule order s) :=
  ⟨_, _, order.perm _, order.ordered _, perm_sortPrices _, pairwise_sortPrices _, rfl⟩

theorem mem_entries {prices : List CatalogPrice} {qs : List CatalogProduct} {e : Entry}
    (h : e ∈ entries prices qs) : ∃ q ∈ qs, e = .product q ∨
      ∃ p ∈ prices, p.product = q.id ∧ e = .price q p := by
  obtain ⟨q, hq, he⟩ := List.mem_flatMap.1 h
  rcases List.mem_cons.1 he with rfl | he
  · exact ⟨q, hq, .inl rfl⟩
  · obtain ⟨p, hp, rfl⟩ := List.mem_map.1 he
    obtain ⟨hp, hpq⟩ := List.mem_filter.1 hp
    exact ⟨q, hq, .inr ⟨p, hp, by simpa using hpq, rfl⟩⟩

variable {order}

theorem mem_products_of_mem_schedule {q : CatalogProduct} (h : .product q ∈ schedule order s) :
    q ∈ s.products.rows := by
  obtain ⟨q', hq, heq | ⟨_, -, -, heq⟩⟩ := mem_entries h
  · cases heq
    exact order.mem_arrange.1 hq
  · cases heq

theorem mem_prices_of_mem_schedule {q : CatalogProduct} {p : CatalogPrice}
    (h : .price q p ∈ schedule order s) :
    q ∈ s.products.rows ∧ p ∈ s.prices.rows ∧ p.product = q.id := by
  obtain ⟨q', hq, heq | ⟨p', hp, hpq, heq⟩⟩ := mem_entries h
  · cases heq
  · cases heq
    exact ⟨order.mem_arrange.1 hq, (perm_sortPrices _).mem_iff.1 hp, hpq⟩

/-- A run comes to no row twice. -/
theorem nodup_schedule (hd : Distinct s) : ((schedule order s).map (·.row)).Nodup := by
  have hids := nodup_arrange order hd
  have hprices := nodup_sortPrices hd
  rw [schedule, entries, List.map_flatMap, List.nodup_flatMap]
  constructor
  · intro q hq
    rw [entriesOf, List.map_cons, List.nodup_cons, List.map_map]
    constructor
    · simp [Entry.row]
    · have prices := nodup_map_filter (·.product == q.id) hprices
      have := prices.map (f := RowId.price) fun _ _ h => by cases h; rfl
      rwa [List.map_map] at this
  · refine (List.pairwise_map.1 hids).imp fun {q q'} hne row hrow hrow' => ?_
    obtain ⟨e, he, rfl⟩ := List.mem_map.1 hrow
    obtain ⟨e', he', heq⟩ := List.mem_map.1 hrow'
    rcases List.mem_cons.1 he with rfl | he <;> rcases List.mem_cons.1 he' with rfl | he'
    · exact hne (RowId.product.inj heq).symm
    · obtain ⟨_, -, rfl⟩ := List.mem_map.1 he'
      cases heq
    · obtain ⟨_, -, rfl⟩ := List.mem_map.1 he
      cases heq
    · -- One price cannot be of two products.
      obtain ⟨p, hp, rfl⟩ := List.mem_map.1 he
      obtain ⟨p', hp', rfl⟩ := List.mem_map.1 he'
      obtain ⟨hp, hpq⟩ := List.mem_filter.1 hp
      obtain ⟨hp', hpq'⟩ := List.mem_filter.1 hp'
      obtain rfl := List.inj_on_of_nodup_map hprices hp' hp (RowId.price.inj heq)
      simp only [beq_iff_eq] at hpq hpq'
      exact hne (hpq.symm.trans hpq')

end Order

/-! ### What a run has done -/

/-- What a run has done with the rows that it has come to, and the provider after that. A row that is
due has been pushed, and the provider has answered with the id beside it; a price has been pushed for
the id that the push of its product was answered with. Other rows have been passed over. -/
inductive History {σ : Type} [PaymentProvider σ] (force : Bool) (start : σ) :
    List (Entry × Option String) → σ → Prop
  /-- The run begins. -/
  | begin : History force start [] start
  /-- A product is pushed. -/
  | product {done : List (Entry × Option String)} {u v : σ} {q : CatalogProduct}
      {r : Provider.Product} (h : History force start done u)
      (due : (Entry.product q).isDue force = true)
      (push : (Provider.createOrUpdateProduct (Provider.detailsOf q)).on u = (.ok r, v)) :
      History force start (done ++ [(.product q, some r.id)]) v
  /-- A price of a product that has been pushed is pushed. -/
  | price {done : List (Entry × Option String)} {u v : σ} {q : CatalogProduct} {p : CatalogPrice}
      {productId : String} {r : Provider.Price} (h : History force start done u)
      (due : (Entry.price q p).isDue force = true) (pushed : (.product q, some productId) ∈ done)
      (push : (Provider.createOrUpdatePrice (termsOf p productId)).on u = (.ok r, v)) :
      History force start (done ++ [(.price q p, some r.id)]) v
  /-- A row is passed over. -/
  | pass {done : List (Entry × Option String)} {u : σ} {e : Entry} (h : History force start done u)
      (notDue : e.isDue force = false) : History force start (done ++ [(e, none)]) u

/-- The id that a row has been given. -/
def label (done : List (Entry × Option String)) (row : RowId) : Option String :=
  (done.find? (·.1.row == row)).bind (·.2)

/-- The store with the ids that rows have been given. -/
def labelledBy (done : List (Entry × Option String)) (s : Store) : Store :=
  { s with
    products := s.products.map fun q => q.labelled (label done (.product q.id))
    prices := s.prices.map fun p => p.labelled (label done (.price p.id)) }

section Labels

variable {done : List (Entry × Option String)} {e : Entry} {l : Option String} {s : Store}

theorem label_of_mem (h : (done.map (·.1.row)).Nodup) (hmem : (e, l) ∈ done) :
    label done e.row = l := by
  have := find?_of_nodup (f := fun x : Entry × Option String => x.1.row) h hmem
  rw [label, this, Option.bind_some]

theorem label_eq_none (h : ∀ x ∈ done, x.1.row ≠ e.row) : label done e.row = none := by
  rw [label, Option.bind_eq_none_iff]
  intro x hx
  exact absurd (by simpa using List.find?_some hx) (h x (List.mem_of_find?_eq_some hx))

theorem exists_of_label {row : RowId} {id : String} (h : label done row = some id) :
    ∃ e, (e, some id) ∈ done ∧ e.row = row := by
  obtain ⟨⟨e, l⟩, hfound, rfl⟩ := Option.bind_eq_some_iff.1 h
  exact ⟨e, List.mem_of_find?_eq_some hfound, by simpa using List.find?_some hfound⟩

/-- A row that has not been come to before is given an id. -/
theorem label_concat (fresh : ∀ x ∈ done, x.1.row ≠ e.row) (row : RowId) :
    label (done ++ [(e, l)]) row = if row = e.row then l else label done row := by
  rw [label, List.find?_append]
  split
  · next hrow =>
    have hnone : done.find? (·.1.row == e.row) = none :=
      List.find?_eq_none.2 fun x hx => by simpa using fresh x hx
    simp [hrow, hnone]
  · next hrow => simp [Ne.symm hrow, label]

theorem labelledBy_nil (s : Store) : labelledBy [] s = s := by
  simp [labelledBy, label, Table.map]

/-- Rows that are passed over are given no id. -/
theorem labelledBy_pass (fresh : ∀ x ∈ done, x.1.row ≠ e.row) (s : Store) :
    labelledBy (done ++ [(e, none)]) s = labelledBy done s := by
  have same (row : RowId) : label (done ++ [(e, none)]) row = label done row := by
    rw [label_concat fresh]
    split
    · next hrow => rw [hrow, label_eq_none fresh]
    · rfl
  simp only [labelledBy, same]

theorem product?_labelledBy (id : Uuid) :
    (labelledBy done s).product? id =
      (s.product? id).map (·.labelled (label done (.product id))) := by
  rw [product?, labelledBy, Table.rows_map, List.find?_map]
  show (s.product? id).map _ = _
  cases hq : s.product? id with
  | none => rfl
  | some q => rw [Option.map_some, Option.map_some, (mem_of_product? hq).2]

theorem price?_labelledBy (id : Uuid) :
    (labelledBy done s).price? id = (s.price? id).map (·.labelled (label done (.price id))) := by
  rw [price?, labelledBy, Table.rows_map, List.find?_map]
  show (s.price? id).map _ = _
  cases hp : s.price? id with
  | none => rfl
  | some p => rw [Option.map_some, Option.map_some, (mem_of_price? hp).2]

/-- A row stands as it was, but for the id that it has been given. -/
theorem stands_labelledBy {c : Collation} {order : c.Arrangement CatalogProduct.name}
    (hd : Distinct s) (he : e ∈ schedule order s) (hl : label done e.row = l) :
    e.Stands (labelledBy done s) l := by
  cases e with
  | product q =>
    have hq : s.product? q.id = some q := find?_of_nodup hd.products (mem_products_of_mem_schedule he)
    rw [Entry.Stands, product?_labelledBy, hq, Option.map_some, ← hl]
    rfl
  | price q p =>
    have hp : s.price? p.id = some p := find?_of_nodup hd.prices (mem_prices_of_mem_schedule he).2.1
    rw [Entry.Stands, price?_labelledBy, hp, Option.map_some, ← hl]
    rfl

/-- Noting the id of a product. -/
theorem labelledBy_noteProduct (hd : Distinct s) {q : CatalogProduct} (hq : q ∈ s.products.rows)
    (fresh : ∀ x ∈ done, x.1.row ≠ (Entry.product q).row) {id : String} {r : CatalogProduct}
    {s' : Store} (hc : Commits (updateProduct q.id { productId := some (some id) })
      (labelledBy done s) r s') :
    s' = labelledBy (done ++ [(.product q, some id)]) s ∧ (Entry.product q).IsStorable (some id) := by
  obtain ⟨old, hold, rfl, texts, rfl⟩ := commits_updateProduct.1 hc
  have hfound : s.product? q.id = some q := find?_of_nodup hd.products hq
  have hnone : label done (.product q.id) = none := label_eq_none fresh
  rw [product?_labelledBy, hfound, Option.map_some, hnone] at hold
  obtain rfl := Option.some.inj hold
  refine ⟨?_, texts⟩
  have prices (p : CatalogPrice) : label (done ++ [(.product q, some id)]) (.price p.id) =
      label done (.price p.id) := by
    rw [label_concat fresh, if_neg (by simp [Entry.row])]
  have products : ∀ x ∈ s.products.rows,
      x.labelled (label (done ++ [(.product q, some id)]) (.product x.id)) =
        if (x.labelled (label done (.product x.id))).id = q.id then
          ({ productId := some (some id) } : ProductChanges).apply q
        else x.labelled (label done (.product x.id)) := by
    intro x hx
    rw [label_concat fresh]
    by_cases hid : x.id = q.id
    · obtain rfl := List.inj_on_of_nodup_map hd.products hx hq hid
      simp [Entry.row, CatalogProduct.labelled, ProductChanges.apply]
    · simp [Entry.row, CatalogProduct.labelled, hid]
  simp only [labelledBy, prices, Table.map, List.map_map]
  congr 2
  exact (List.map_congr_left products).symm

/-- Noting the id of a price. -/
theorem labelledBy_notePrice (hd : Distinct s) {q : CatalogProduct} {p : CatalogPrice}
    (hp : p ∈ s.prices.rows) (fresh : ∀ x ∈ done, x.1.row ≠ (Entry.price q p).row) {id : String}
    {r : CatalogPrice} {s' : Store}
    (hc : Commits (updatePrice p.id { priceId := some (some id) }) (labelledBy done s) r s') :
    s' = labelledBy (done ++ [(.price q p, some id)]) s := by
  obtain ⟨old, hold, rfl, -, rfl⟩ := commits_updatePrice.1 hc
  have hfound : s.price? p.id = some p := find?_of_nodup hd.prices hp
  have hnone : label done (.price p.id) = none := label_eq_none fresh
  rw [price?_labelledBy, hfound, Option.map_some, hnone] at hold
  obtain rfl := Option.some.inj hold
  have products (x : CatalogProduct) : label (done ++ [(.price q p, some id)]) (.product x.id) =
      label done (.product x.id) := by
    rw [label_concat fresh, if_neg (by simp [Entry.row])]
  have prices : ∀ x ∈ s.prices.rows,
      x.labelled (label (done ++ [(.price q p, some id)]) (.price x.id)) =
        if (x.labelled (label done (.price x.id))).id = p.id then
          ({ priceId := some (some id) } : PriceChanges).apply p
        else x.labelled (label done (.price x.id)) := by
    intro x hx
    rw [label_concat fresh]
    by_cases hid : x.id = p.id
    · obtain rfl := List.inj_on_of_nodup_map hd.prices hx hp hid
      simp [Entry.row, CatalogPrice.labelled, PriceChanges.apply]
    · simp [Entry.row, CatalogPrice.labelled, hid]
  simp only [labelledBy, products, Table.map, List.map_map]
  congr 2
  exact (List.map_congr_left prices).symm

end Labels

/-! ### Following a run -/

section Following

variable {c : Collation} {order : c.Arrangement CatalogProduct.name} {σ : Type}
  [PaymentProvider σ] {s₀ : Store} {force : Bool} {start : σ}

theorem History.isSome_eq {done : List (Entry × Option String)} {u : σ}
    (h : History force start done u) : ∀ x ∈ done, x.2.isSome = x.1.isDue force := by
  induction h with
  | begin => exact List.forall_mem_nil _
  | product h due push ih => exact List.forall_mem_append.2 ⟨ih, List.forall_mem_singleton.2 due.symm⟩
  | price h due pushed push ih =>
    exact List.forall_mem_append.2 ⟨ih, List.forall_mem_singleton.2 due.symm⟩
  | pass h notDue ih => exact List.forall_mem_append.2 ⟨ih, List.forall_mem_singleton.2 notDue.symm⟩

/-- A run has dealt with the rows of `done`, and those of `rest` are still to come. -/
structure Follows (order : c.Arrangement CatalogProduct.name) (s₀ : Store) (force : Bool)
    (start : σ) (rest : List Entry) (done : List (Entry × Option String)) (w : World σ) :
    Prop where
  split : schedule order s₀ = done.map (·.1) ++ rest
  history : History force start done w.provider
  store : w.store = labelledBy done s₀
  storable : ∀ x ∈ done, x.1.IsStorable x.2

/-- A run has come to the rest of the rows. -/
def Reaches (order : c.Arrangement CatalogProduct.name) (s₀ : Store) (force : Bool) (start : σ)
    (rest : List Entry) (w : World σ) : Prop :=
  ∃ done, Follows order s₀ force start rest done w

/-- A run has pushed a product and come to the rest of the rows. -/
def Within (order : c.Arrangement CatalogProduct.name) (s₀ : Store) (force : Bool) (start : σ)
    (q pushed : CatalogProduct) (rest : List Entry) (w : World σ) : Prop :=
  ∃ done id, pushed = { q with productId := some id } ∧ (.product q, some id) ∈ done ∧
    Follows order s₀ force start rest done w

/-- A run has stopped at a row, whatever it has asked of the provider for that row. -/
def Stopped (order : c.Arrangement CatalogProduct.name) (s₀ : Store) (force : Bool) (start : σ)
    (w : World σ) : Prop :=
  ∃ e rest u, Reaches order s₀ force start (e :: rest) ⟨w.store, u⟩

namespace Follows

variable {rest : List Entry} {done : List (Entry × Option String)} {e : Entry} {w : World σ}

theorem mem_schedule_of_done (h : Follows order s₀ force start rest done w) {x : Entry × Option String}
    (hx : x ∈ done) : x.1 ∈ schedule order s₀ := by
  rw [h.split]
  exact List.mem_append_left _ (List.mem_map_of_mem hx)

theorem mem_schedule_of_rest (h : Follows order s₀ force start rest done w) (he : e ∈ rest) :
    e ∈ schedule order s₀ := by
  rw [h.split]
  exact List.mem_append_right _ he

/-- The run has come to no row twice, and has not come to those that are still to come. -/
theorem nodup (hd : Distinct s₀) (h : Follows order s₀ force start rest done w) :
    (done.map (·.1.row)).Nodup ∧ ∀ e ∈ rest, ∀ x ∈ done, x.1.row ≠ e.row := by
  have ids : ((schedule order s₀).map (·.row)).Nodup := nodup_schedule hd
  rw [h.split, List.map_append, List.map_map, List.nodup_append] at ids
  exact ⟨ids.1, fun e he x hx => ids.2.2 _ (List.mem_map_of_mem hx) _ (List.mem_map_of_mem he)⟩

theorem fresh (hd : Distinct s₀) (h : Follows order s₀ force start (e :: rest) done w) :
    ∀ x ∈ done, x.1.row ≠ e.row :=
  (h.nodup hd).2 e (List.mem_cons_self ..)

/-- The run deals with the next row. -/
theorem concat (h : Follows order s₀ force start (e :: rest) done w) {l : Option String} {w' : World σ}
    (history : History force start (done ++ [(e, l)]) w'.provider)
    (store : w'.store = labelledBy (done ++ [(e, l)]) s₀) (storable : e.IsStorable l) :
    Follows order s₀ force start rest (done ++ [(e, l)]) w' where
  split := by simpa using h.split
  history := history
  store := store
  storable := List.forall_mem_append.2 ⟨h.storable, List.forall_mem_singleton.2 storable⟩

theorem pass (hd : Distinct s₀) (h : Follows order s₀ force start (e :: rest) done w)
    (notDue : e.isDue force = false) : Follows order s₀ force start rest (done ++ [(e, none)]) w :=
  h.concat (h.history.pass notDue) (by rw [labelledBy_pass (h.fresh hd), h.store])
    e.isStorable_none

theorem stopped (h : Follows order s₀ force start (e :: rest) done w) {w' : World σ}
    (hstore : w'.store = w.store) : Stopped order s₀ force start w' := by
  refine ⟨e, rest, w.provider, done, ?_⟩
  rw [hstore]
  exact h

end Follows

variable {rest : List Entry}

theorem Reaches.pass (hd : Distinct s₀) {es : List Entry} {w : World σ}
    (h : Reaches order s₀ force start (es ++ rest) w) (notDue : ∀ e ∈ es, e.isDue force = false) :
    Reaches order s₀ force start rest w := by
  induction es with
  | nil => exact h
  | cons e es ih =>
    obtain ⟨he, hes⟩ := List.forall_mem_cons.1 notDue
    obtain ⟨done, h⟩ := h
    exact ih ⟨_, h.pass hd he⟩ hes

theorem Within.reaches {q pushed : CatalogProduct} {w : World σ}
    (h : Within order s₀ force start q pushed rest w) : Reaches order s₀ force start rest w := by
  obtain ⟨done, -, -, -, h⟩ := h
  exact ⟨done, h⟩

theorem ends_pushProduct (hd : Distinct s₀) {q : CatalogProduct} (hq : q.isActive = true) :
    Ends (Reaches order s₀ force start (.product q :: rest)) (pushProduct q)
      (fun pushed => Within order s₀ force start q pushed rest) (Stopped order s₀ force start) := by
  rintro w ⟨done, h⟩
  cases hon : (pushProduct q).on w with | _ r w' => ?_
  cases r with
  | ok pushed =>
    obtain ⟨r, row, push, rfl, note⟩ := pushProduct_ok hon
    rw [h.store] at note
    have hmem := mem_products_of_mem_schedule (h.mem_schedule_of_rest (List.mem_cons_self ..))
    obtain ⟨hstore, storable⟩ := labelledBy_noteProduct hd hmem (h.fresh hd) note
    exact ⟨_, r.id, rfl, List.mem_append_right _ (List.mem_singleton_self _),
      h.concat (h.history.product hq push) hstore storable⟩
  | error e =>
    rw [pushProduct_eq] at hon
    exact h.stopped (noted_error hon)

theorem ends_pushPrice (hd : Distinct s₀) {q pushed : CatalogProduct} {p : CatalogPrice}
    (due : (Entry.price q p).isDue force = true) :
    Ends (Within order s₀ force start q pushed (.price q p :: rest)) (pushPrice pushed p)
      (fun _ => Within order s₀ force start q pushed rest) (Stopped order s₀ force start) := by
  rintro w ⟨done, productId, rfl, of, h⟩
  cases hon : (pushPrice { q with productId := some productId } p).on w with | _ r w' => ?_
  cases r with
  | ok _ =>
    obtain ⟨r, row, push, note⟩ := pushPrice_ok rfl hon
    rw [h.store] at note
    have hmem := (mem_prices_of_mem_schedule (h.mem_schedule_of_rest (List.mem_cons_self ..))).2.1
    have hstore := labelledBy_notePrice hd hmem (h.fresh hd) note
    exact ⟨_, productId, rfl, List.mem_append_left _ of,
      h.concat (h.history.price due of push) hstore trivial⟩
  | error e =>
    rw [pushPrice_eq] at hon
    exact h.stopped (noted_error hon)

theorem ends_pushPrices (hd : Distinct s₀) {q pushed : CatalogProduct} (hq : q.isActive = true)
    (ps : List CatalogPrice) (summary : SyncSummary) :
    Ends (Within order s₀ force start q pushed (ps.map (.price q) ++ rest))
      (pushPrices force pushed summary (ps.filter (·.isActive)))
      (fun _ => Reaches order s₀ force start rest) (Stopped order s₀ force start) := by
  induction ps generalizing summary with
  | nil => exact ends_pure fun w h => h.reaches
  | cons p ps ih =>
    have passed {w : World σ} (notDue : (Entry.price q p).isDue force = false)
        (h : Within order s₀ force start q pushed ((p :: ps).map (.price q) ++ rest) w) :
        Within order s₀ force start q pushed (ps.map (.price q) ++ rest) w := by
      obtain ⟨done, id, hpushed, of, h⟩ := h
      exact ⟨_, id, hpushed, List.mem_append_left _ of, h.pass hd notDue⟩
    by_cases hp : p.isActive = true
    · rw [List.filter_cons_of_pos hp, pushPrices]
      split
      · next hskip =>
        have notDue : (Entry.price q p).isDue force = false := by
          simp only [Bool.and_eq_true, Bool.not_eq_true'] at hskip
          simp [Entry.isDue, hskip]
        exact fun w h => ih _ w (passed notDue h)
      · next hskip =>
        have due : (Entry.price q p).isDue force = true := by
          cases hid : p.priceId <;> cases force <;> simp_all [Entry.isDue]
        exact (ends_pushPrice hd due).bind fun _ => ih _
    · have notDue : (Entry.price q p).isDue force = false := by simp [Entry.isDue, hp]
      rw [List.filter_cons_of_neg hp]
      exact fun w h => ih _ w (passed notDue h)

theorem ends_pushProducts (hd : Distinct s₀) (prices : List CatalogPrice)
    (qs : List CatalogProduct) (summary : SyncSummary) :
    Ends (Reaches order s₀ force start (entries prices qs)) (pushProducts force prices summary qs)
      (fun _ => Reaches order s₀ force start []) (Stopped order s₀ force start) := by
  induction qs generalizing summary with
  | nil => exact ends_pure fun w h => h
  | cons q qs ih =>
    have hsplit : entries prices (q :: qs) = entriesOf prices q ++ entries prices qs := by
      simp [entries]
    rw [hsplit, pushProducts]
    by_cases hq : q.isActive = true
    · have hprices : activePricesOf q.id prices =
          (prices.filter (·.product == q.id)).filter (·.isActive) := by
        simp only [activePricesOf, List.filter_filter, Bool.and_comm]
      rw [if_pos hq, hprices]
      exact (ends_pushProduct hd hq).bind fun pushed =>
        (ends_pushPrices hd hq _ _).bind fun _ => ih _
    · have notDue : ∀ e ∈ entriesOf prices q, e.isDue force = false := by
        intro e he
        rcases List.mem_cons.1 he with rfl | he
        · simpa [Entry.isDue] using hq
        · obtain ⟨p, -, rfl⟩ := List.mem_map.1 he
          simp [Entry.isDue, hq]
      rw [if_neg hq]
      exact fun w h => ih _ w (h.pass hd notDue)

variable {w w' : World σ}

/-- A run comes to the end of its rows, or stops at one of them. -/
theorem ends_run (hd : Distinct w.store) :
    Ends (w = ·) (run order force) (fun _ => Reaches order w.store force w.provider [])
      (Stopped order w.store force w.provider) := by
  rintro _ rfl
  have begin : Reaches order w.store force w.provider (schedule order w.store) w :=
    ⟨[], rfl, .begin, (labelledBy_nil _).symm, by simp⟩
  rw [on_run]
  exact ends_pushProducts hd _ _ ⟨0, 0, 0⟩ w begin

/-- A run has dealt with some rows and not with others, and with all of them if it succeeds. -/
theorem exists_follows (hd : Distinct w.store) {r : Except BillingError SyncSummary}
    (h : (run order force).on w = (r, w')) :
    ∃ done rest u, Follows order w.store force w.provider rest done ⟨w'.store, u⟩ ∧
      (rest = [] ↔ ∃ summary, r = .ok summary) := by
  have ends : Ends (w = ·) (run order force) _ _ := ends_run hd
  have ends := ends w rfl
  rw [h] at ends
  cases r with
  | ok summary =>
    obtain ⟨done, follows⟩ := ends
    exact ⟨done, [], w'.provider, follows, by simp⟩
  | error err =>
    obtain ⟨next, rest, u, done, follows⟩ := ends
    exact ⟨done, next :: rest, u, follows, by simp⟩

end Following

/-! ### What a run leaves -/

/-- The second store differs from the first at most in provider ids that a run may note: of products
in use, and of prices in use of such products, if they had none or the run is forced. -/
structure OnlyLabels (force : Bool) (s s' : Store) : Prop where
  organizations : s'.organizations = s.organizations
  products : ∃ l : Uuid → Option String,
    s'.products = s.products.map (fun q => q.labelled (l q.id)) ∧
      ∀ q ∈ s.products.rows, l q.id ≠ none → q.isActive = true
  prices : ∃ l : Uuid → Option String,
    s'.prices = s.prices.map (fun p => p.labelled (l p.id)) ∧
      ∀ p ∈ s.prices.rows, l p.id ≠ none →
        p.isActive = true ∧ (p.priceId = none ∨ force = true) ∧
          ∃ q ∈ s.products.rows, q.id = p.product ∧ q.isActive = true
  subscriptions : s'.subscriptions = s.subscriptions
  links : s'.links = s.links
  items : s'.items = s.items
  deliveries : s'.deliveries = s.deliveries

namespace Follows

variable {c : Collation} {order : c.Arrangement CatalogProduct.name} {σ : Type}
  [PaymentProvider σ] {s : Store} {force : Bool} {start : σ} {rest : List Entry}
  {done : List (Entry × Option String)} {w : World σ}

/-- What the run has dealt with stands with the ids that it was given. -/
theorem stands_of_done (hd : Distinct s) (h : Follows order s force start rest done w) :
    ∀ x ∈ done, x.1.Stands w.store x.2 := by
  intro x hx
  rw [h.store]
  exact stands_labelledBy hd (h.mem_schedule_of_done hx) (label_of_mem (h.nodup hd).1 hx)

/-- What is still to come stands as it was. -/
theorem stands_of_rest (hd : Distinct s) (h : Follows order s force start rest done w) :
    ∀ e ∈ rest, e.Stands w.store none := by
  intro e he
  rw [h.store]
  exact stands_labelledBy hd (h.mem_schedule_of_rest he) (label_eq_none ((h.nodup hd).2 e he))

theorem onlyLabels (hd : Distinct s) (h : Follows order s force start rest done w) :
    OnlyLabels force s w.store := by
  -- A row that has been given an id was due.
  have due {row : RowId} (hrow : label done row ≠ none) :
      ∃ e ∈ schedule order s, e.row = row ∧ e.isDue force = true := by
    obtain ⟨id, hid⟩ := Option.ne_none_iff_exists'.1 hrow
    obtain ⟨e, he, rfl⟩ := exists_of_label hid
    exact ⟨e, h.mem_schedule_of_done he, rfl, (h.history.isSome_eq _ he).symm⟩
  rw [h.store]
  refine ⟨rfl, ⟨fun id => label done (.product id), rfl, fun q hq hl => ?_⟩,
    ⟨fun id => label done (.price id), rfl, fun p hp hl => ?_⟩, rfl, rfl, rfl, rfl⟩
  · obtain ⟨e, he, hrow, hdue⟩ := due hl
    cases e with
    | product q' =>
      obtain rfl :=
        List.inj_on_of_nodup_map hd.products (mem_products_of_mem_schedule he) hq
          (RowId.product.inj hrow)
      exact hdue
    | price => cases hrow
  · obtain ⟨e, he, hrow, hdue⟩ := due hl
    cases e with
    | product => cases hrow
    | price q p' =>
      obtain ⟨hq, hp', hpq⟩ := mem_prices_of_mem_schedule he
      obtain rfl := List.inj_on_of_nodup_map hd.prices hp' hp (RowId.price.inj hrow)
      simp only [Entry.isDue, Bool.and_eq_true, Bool.or_eq_true, Option.isNone_iff_eq_none] at hdue
      exact ⟨hdue.1.2, hdue.2, q, hq, hpq.symm, hdue.1.1⟩

end Follows

/-- A run that stops leaves a part of its work that is whole. However the provider behaves, let a run,
forced or not, end with a result on a database whose products and prices have different ids. Then
only provider ids differ, of active products and, without one before or if the run is forced, of
active prices of such products. And the order of the rows, which is the products by name and each
followed by its prices by id, has a cut, which is its end exactly if the run has succeeded: of the
rows before it, those that were due carry the id that the provider answered to their own push, and
the others are as they were; and so are all rows from there on. -/
theorem stopped_run {σ : Type} [PaymentProvider σ] {c : Collation}
    {order : c.Arrangement CatalogProduct.name} {w w' : World σ} (hd : Distinct w.store)
    {force : Bool} {r : Except BillingError SyncSummary} (h : (run order force).on w = (r, w')) :
    OnlyLabels force w.store w'.store ∧
      ∃ es done rest u, IsSchedule c w.store es ∧ es = done.map (·.1) ++ rest ∧
        (rest = [] ↔ ∃ summary, r = .ok summary) ∧
        History force w.provider done u ∧
        (∀ e l, (e, l) ∈ done → l.isSome = e.isDue force ∧ e.Stands w'.store l) ∧
        ∀ e ∈ rest, e.Stands w'.store none := by
  obtain ⟨done, rest, u, follows, cut⟩ := exists_follows hd h
  have only := follows.onlyLabels hd
  have dealt := follows.stands_of_done hd
  have ahead := follows.stands_of_rest hd
  exact ⟨only, schedule order w.store, done, rest, u, isSchedule_schedule order w.store,
    follows.split, cut, follows.history,
    fun e l hmem => ⟨follows.history.isSome_eq _ hmem, dealt _ hmem⟩, ahead⟩

/-- A product with two prices, at an endpoint that cannot be reached any more after it has answered
the pushes of the product and of the first price. -/
def monthlyAndLost : World Provider.Connection where
  store := monthlyAndYearly.store
  provider :=
    ⟨"sk_1", [.answered 200 "\x7b\"data\":[]\x7d", .answered 200 "\x7b\"id\":\"prod_1\"\x7d",
      .answered 200 "\x7b\"data\":[]\x7d", .answered 200 "\x7b\"id\":\"price_1\"\x7d"],
      .unreachable "connection reset", []⟩

theorem run_monthlyAndLost :
    let w' := ((run byName false).on monthlyAndLost).2
    ((run byName false).on monthlyAndLost).1 =
        .error (.provider (.unreachable "connection reset")) ∧
      w'.store.products.rows.map (·.productId) = [some "prod_1"] ∧
      w'.store.prices.rows.map (·.priceId) = [some "price_1", none] := by
  have sorted : byName.arrange monthlyAndLost.store.products.rows =
      monthlyAndLost.store.products.rows := List.mergeSort_of_pairwise (by decide)
  have byId : sortPrices monthlyAndLost.store.prices.rows = monthlyAndLost.store.prices.rows :=
    sortPrices_of_evolves reachable_monthlyAndYearly.evolves
  rw [on_run, sorted, byId]
  decide +kernel

/-- The ids of the product and of the first price have been noted, and the run has stopped at the
second price. -/
theorem stopped_run_of_monthlyAndLost :
    let w' := ((run byName false).on monthlyAndLost).2
    w'.store.products.rows.map (·.productId) = [some "prod_1"] ∧
      w'.store.prices.rows.map (·.priceId) = [some "price_1", none] ∧
      OnlyLabels false monthlyAndLost.store w'.store ∧
      ∃ es done rest u, IsSchedule .codePoints monthlyAndLost.store es ∧
        es = done.map (·.1) ++ rest ∧ rest ≠ [] ∧
        History false monthlyAndLost.provider done u ∧ ∀ e ∈ rest, e.Stands w'.store none := by
  intro w'
  have hd : Distinct monthlyAndLost.store := ⟨by decide, by decide⟩
  obtain ⟨hrun, hproducts, hprices⟩ := run_monthlyAndLost
  obtain ⟨only, es, done, rest, u, schedule, split, cut, history, -, ahead⟩ :=
    stopped_run hd (Prod.ext hrun rfl)
  have hrest : rest ≠ [] := fun h => by
    obtain ⟨_, hok⟩ := cut.1 h
    cases hok
  exact ⟨hproducts, hprices, only, es, done, rest, u, schedule, split, hrest, history, ahead⟩

end CatalogSync

end OrgBilling
