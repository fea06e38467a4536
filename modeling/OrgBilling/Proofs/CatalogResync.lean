import OrgBilling.Proofs.CatalogCheck
import OrgBilling.Proofs.Provider.Replay
import OrgBilling.Proofs.StoppedSync

/-!
# Running a sync again

When a run that is not forced has succeeded at the provider in memory, another one right after it
changes nothing in the database (`run_again`). Prices all carry ids by then and are passed over.
Products are sent again, and that is not void: where several rows have one name, the second run gives
their product the details of each of them once more. The ids that the provider answers are those that
stand on the rows already, and what the product ends with are the details of the row that comes last.

Products are sent in the order of their names, and which of several rows with one name comes last is
up to the database. If the details that come last are the same in both runs (`EndAlike`), the second
run leaves the provider as it was, too. It is so in any case where rows of one name have the same
details (`endAlike_of_alike`).
-/

namespace OrgBilling.CatalogSync

open Store Transaction
open Provider (Sandbox ProductDetails)
open Provider.Sandbox (Settled lastFor reviseProducts)

/-! ### What the first run has sent -/

/-- The details that have been sent, each with the id of the product that they went to. -/
def sentDetails (done : List (Entry × Option String)) : List (String × ProductDetails) :=
  done.filterMap fun
    | (.product q, some id) => some (id, Provider.detailsOf q)
    | _ => none

theorem mem_sentDetails {done : List (Entry × Option String)} {q : CatalogProduct} {id : String}
    (h : (.product q, some id) ∈ done) : (id, Provider.detailsOf q) ∈ sentDetails done :=
  List.mem_filterMap.2 ⟨_, h, rfl⟩

theorem History.settled {force : Bool} {start u : Sandbox} {done : List (Entry × Option String)}
    (hs : start.Sound) (h : History force start done u) : Settled (sentDetails done) u := by
  induction h with
  | begin => exact .nil hs
  | product h due push ih =>
    simp only [sentDetails, List.filterMap_append] at ih ⊢
    exact ih.createOrUpdateProduct push
  | price h due pushed push ih =>
    simp only [sentDetails, List.filterMap_append] at ih ⊢
    simpa using ih.createOrUpdatePrice push
  | @pass done u e h notDue ih =>
    have : sentDetails (done ++ [(e, none)]) = sentDetails done := by
      cases e <;> simp [sentDetails]
    rw [this]
    exact ih

/-! ### What comes last under a name -/

/-- The last one in a list of products that has a name and is in use. -/
def lastNamed (name : String) (qs : List CatalogProduct) : Option CatalogProduct :=
  (qs.filter fun q => q.isActive && q.name == name).getLast?

/-- Two lists of products end with the same details under every name. -/
def EndAlike (qs qs' : List CatalogProduct) : Prop :=
  ∀ name, (lastNamed name qs).map Provider.detailsOf = (lastNamed name qs').map Provider.detailsOf

/-- The products in use that have the same name have the same details. -/
def NamesakesAlike (s : Store) : Prop :=
  ∀ q ∈ s.products.rows, ∀ q' ∈ s.products.rows, q.isActive = true → q'.isActive = true →
    q.name = q'.name → Provider.detailsOf q = Provider.detailsOf q'

variable {s s' : Store}

/-- The details of the products in use that have a name. -/
def detailsNamed (name : String) (qs : List CatalogProduct) : List ProductDetails :=
  (qs.filter fun q => q.isActive && q.name == name).map Provider.detailsOf

theorem map_lastNamed (name : String) (qs : List CatalogProduct) :
    (lastNamed name qs).map Provider.detailsOf = (detailsNamed name qs).getLast? := by
  rw [lastNamed, detailsNamed, List.getLast?_map]

theorem detailsNamed_unlabelled (name : String) (qs : List CatalogProduct) :
    detailsNamed name (qs.map (·.unlabelled)) = detailsNamed name qs := by
  rw [detailsNamed, List.filter_map, List.map_map]
  rfl

/-- What the first and what the last row of a name says is the same if all of them say the same. -/
theorem getLast?_eq_of_perm {α : Type} {xs ys : List α} (h : xs.Perm ys)
    (same : ∀ x ∈ xs, ∀ y ∈ xs, x = y) : xs.getLast? = ys.getLast? := by
  cases hx : xs.getLast? with
  | none =>
    rw [List.getLast?_eq_none_iff] at hx
    subst hx
    obtain rfl := h.nil_eq
    rfl
  | some x =>
    cases hy : ys.getLast? with
    | none =>
      rw [List.getLast?_eq_none_iff] at hy
      subst hy
      obtain rfl := h.eq_nil
      cases hx
    | some y =>
      have hmem := h.mem_iff.2 (List.mem_of_getLast? hy)
      rw [same x (List.mem_of_getLast? hx) y hmem]

/-- Where namesakes have the same details it does not matter how the database arranges them. -/
theorem endAlike_of_alike {c : Collation} (first second : c.Arrangement CatalogProduct.name)
    (h : Relabelled s s') (alike : NamesakesAlike s) :
    EndAlike (first.arrange s.products.rows) (second.arrange s'.products.rows) := by
  intro name
  have arranged (order : c.Arrangement CatalogProduct.name) (rows : List CatalogProduct) :
      (detailsNamed name (order.arrange rows)).Perm (detailsNamed name rows) :=
    ((order.perm rows).filter _).map _
  have rows : detailsNamed name s'.products.rows = detailsNamed name s.products.rows := by
    rw [← detailsNamed_unlabelled, h.products, detailsNamed_unlabelled]
  rw [map_lastNamed, map_lastNamed]
  refine getLast?_eq_of_perm ((arranged first _).trans (rows ▸ (arranged second _).symm)) ?_
  intro d hd d' hd'
  obtain ⟨q, hq, rfl⟩ := List.mem_map.1 ((arranged first _).mem_iff.1 hd)
  obtain ⟨q', hq', rfl⟩ := List.mem_map.1 ((arranged first _).mem_iff.1 hd')
  obtain ⟨hq, hnamed⟩ := List.mem_filter.1 hq
  obtain ⟨hq', hnamed'⟩ := List.mem_filter.1 hq'
  simp only [Bool.and_eq_true, beq_iff_eq] at hnamed hnamed'
  exact alike q hq q' hq' hnamed.1 hnamed'.1 (hnamed.2.trans hnamed'.2.symm)

/-! ### What a run sends for a list of products -/

/-- Details are sent for the products in use of a list, each to the product that its name leads
to. -/
structure Sends (u : Sandbox) (qs : List CatalogProduct) (ds : List (String × ProductDetails)) :
    Prop where
  details : ds.map (·.2) = (qs.filter (·.isActive)).map Provider.detailsOf
  target : ∀ x ∈ ds, ∃ p, u.target? x.2.name = some p ∧ p.id = x.1

namespace Sends

variable {u : Sandbox} {qs qs' : List CatalogProduct} {ds ds' : List (String × ProductDetails)}

/-- The product that a name leads to gets the details of that name, and no others. -/
theorem lastFor_eq (h : Sends u qs ds) (hu : u.Sound) {name : String} {p : Provider.Product}
    (hp : u.target? name = some p) :
    lastFor p.id ds = (lastNamed name qs).map Provider.detailsOf := by
  obtain ⟨hmem, -, rfl⟩ := Provider.Sandbox.mem_of_target? hp
  have led : ds.filter (·.1 == p.id) = ds.filter (·.2.name == p.name) := by
    refine List.filter_congr fun x hx => ?_
    obtain ⟨p', hp', hid⟩ := h.target x hx
    obtain ⟨hmem', -, hname⟩ := Provider.Sandbox.mem_of_target? hp'
    rw [Bool.eq_iff_iff, beq_iff_eq, beq_iff_eq, ← hid, ← hname]
    constructor
    · exact fun heq => congrArg _ (List.inj_on_of_nodup_map hu.products.nodup hmem' hmem heq)
    · intro heq
      rw [← hname, heq, hp] at hp'
      rw [← Option.some.inj hp']
  have named : (ds.filter (·.2.name == p.name)).map (·.2) = detailsNamed p.name qs := by
    have split : (ds.map (·.2)).filter (·.name == p.name) = detailsNamed p.name qs := by
      rw [h.details, List.filter_map, List.filter_filter, detailsNamed]
      simp only [Function.comp_def, Provider.detailsOf, Bool.and_comm]
    rw [← split, List.filter_map]
    rfl
  rw [lastFor, led, ← List.getLast?_map, named, map_lastNamed]

theorem lastFor_eq_none (h : Sends u qs ds) {id : String}
    (nowhere : ∀ name p, u.target? name = some p → p.id ≠ id) : lastFor id ds = none := by
  have none : ds.filter (·.1 == id) = [] := by
    refine List.filter_eq_nil_iff.2 fun x hx heq => ?_
    obtain ⟨p, hp, hid⟩ := h.target x hx
    exact nowhere _ p hp (hid.trans (beq_iff_eq.1 heq))
  rw [lastFor, none]
  rfl

/-- Lists that end alike leave the provider alike. -/
theorem revise_eq (h : Sends u qs ds) (h' : Sends u qs' ds') (hu : u.Sound)
    (alike : EndAlike qs qs') : u.reviseProducts ds = u.reviseProducts ds' := by
  refine Provider.Sandbox.reviseProducts_congr fun p _ => ?_
  by_cases somewhere : ∃ name q, u.target? name = some q ∧ q.id = p.id
  · obtain ⟨name, q, hq, hid⟩ := somewhere
    rw [← hid, h.lastFor_eq hu hq, h'.lastFor_eq hu hq, alike name]
  · have nowhere : ∀ name q, u.target? name = some q → q.id ≠ p.id :=
      fun name q hq hid => somewhere ⟨name, q, hq, hid⟩
    rw [h.lastFor_eq_none nowhere, h'.lastFor_eq_none nowhere]

end Sends

/-- The details of a row, if it is pushed for them. -/
def detailsFor : Entry → Option ProductDetails
  | .product q => if q.isActive then some (Provider.detailsOf q) else none
  | .price .. => none

theorem filterMap_entries (prices : List CatalogPrice) (qs : List CatalogProduct) :
    (entries prices qs).filterMap detailsFor = (qs.filter (·.isActive)).map Provider.detailsOf := by
  induction qs with
  | nil => rfl
  | cons q qs ih =>
    have none : ((prices.filter (·.product == q.id)).map (Entry.price q)).filterMap detailsFor =
        [] := by
      simp [List.filterMap_map, detailsFor, Function.comp_def]
    rw [entries] at ih
    rw [entries, List.flatMap_cons, List.filterMap_append, ih, entriesOf, List.filterMap_cons, none]
    by_cases hq : q.isActive = true <;> simp [detailsFor, hq]

/-- The first run has sent the details of the products in use. -/
theorem Follows.sends {c : Collation} {first : c.Arrangement CatalogProduct.name}
    {w w' : World Sandbox} {force : Bool} {done : List (Entry × Option String)}
    (follows : Follows first w.store force w.provider [] done w')
    (settled : Settled (sentDetails done) w'.provider) :
    Sends w'.provider (first.arrange w.store.products.rows) (sentDetails done) where
  details := by
    have rows : (done.map (·.1)).filterMap detailsFor =
        ((first.arrange w.store.products.rows).filter (·.isActive)).map Provider.detailsOf := by
      rw [← filterMap_entries (sortPrices w.store.prices.rows), ← List.append_nil (done.map (·.1)),
        ← follows.split]
      rfl
    rw [← rows, sentDetails, List.map_filterMap, List.filterMap_map]
    refine List.filterMap_congr fun x hx => ?_
    obtain ⟨e, l⟩ := x
    have due := follows.history.isSome_eq _ hx
    cases e with
    | price q p => rfl
    | product q =>
      simp only [Entry.isDue] at due
      cases l <;> simp [detailsFor, ← due]
  target := settled.target

/-- The details of the active ones among products, each with the id that stands on the row. -/
def detailsOnRows (qs : List CatalogProduct) : List (String × ProductDetails) :=
  qs.filterMap fun q => if q.isActive then q.productId.map (·, Provider.detailsOf q) else none

/-! ### The second run -/

/-- The row of a product carries an id under which it can be stored, and the name of the product
leads to that id at the provider. -/
def Recognized (s : Store) (u : Sandbox) (q : CatalogProduct) : Prop :=
  q ∈ s.products.rows ∧ ∃ id, q.productId = some id ∧
    (Entry.product q).IsStorable (some id) ∧ ∃ p, u.target? q.name = some p ∧ p.id = id

/-- New details under a name that leads to a product do not change where names lead. -/
theorem Recognized.reviseProduct {u : Sandbox} (hu : u.Sound) {q : CatalogProduct}
    (h : Recognized s u q) {d : ProductDetails} {p : Provider.Product}
    (hp : u.target? d.name = some p) : Recognized s (u.reviseProduct p.id d) q := by
  obtain ⟨hq, id, hid, storable, x, hx, hxid⟩ := h
  obtain ⟨hmem, -, hname⟩ := Provider.Sandbox.mem_of_target? hp
  have leads := Provider.Sandbox.target?_reviseProduct hu hmem hname q.name
  rw [hx, Option.map_some] at leads
  refine ⟨hq, id, hid, storable, _, leads, ?_⟩
  split <;> exact hxid

/-- Noting the id that stands on a row changes nothing. -/
theorem commits_noteProduct_again (hd : Distinct s) {q : CatalogProduct} (hq : q ∈ s.products.rows)
    {id : String} (hid : q.productId = some id)
    (storable : (Entry.product q).IsStorable (some id)) :
    Commits (updateProduct q.id { productId := some (some id) }) s q s := by
  have same : ({ productId := some (some id) } : ProductChanges).apply q = q := by
    cases q
    cases hid
    rfl
  refine commits_updateProduct.2 ⟨q, find?_of_nodup hd.products hq, same.symm, ?_, ?_⟩
  · rw [hid]
    exact storable
  · have rows : s.products.map (fun x => if x.id = q.id then q else x) = s.products := by
      rw [Table.map]
      congr 1
      refine (List.map_congr_left fun x hx => ?_).trans (List.map_id _)
      split
      · next heq => exact (List.inj_on_of_nodup_map hd.products hx hq heq).symm
      · rfl
    rw [rows]

/-- What is on the rows goes to the products that the names lead to. -/
theorem sends_detailsOnRows {u : Sandbox} {qs : List CatalogProduct}
    (recognized : ∀ q ∈ qs, q.isActive = true → Recognized s u q) :
    Sends u qs (detailsOnRows qs) where
  details := by
    rw [detailsOnRows, List.map_filterMap, ← List.filterMap_eq_map', List.filterMap_filter]
    refine List.filterMap_congr fun q hq => ?_
    by_cases hactive : q.isActive = true
    · obtain ⟨-, id, hid, -⟩ := recognized q hq hactive
      simp [hactive, hid]
    · simp [hactive]
  target := by
    intro x hx
    obtain ⟨q, hq, hx⟩ := List.mem_filterMap.1 hx
    by_cases hactive : q.isActive = true
    · obtain ⟨-, id, hid, -, target⟩ := recognized q hq hactive
      rw [if_pos hactive, hid] at hx
      cases hx
      exact target
    · rw [if_neg hactive] at hx
      cases hx

theorem on_pushProduct_again (hd : Distinct s) {u : Sandbox} (hu : u.Sound) {q : CatalogProduct}
    (h : Recognized s u q) :
    ∃ p, u.target? q.name = some p ∧ q.productId = some p.id ∧ (pushProduct q).on ⟨s, u⟩ =
      (.ok q, ⟨s, u.reviseProduct p.id (Provider.detailsOf q)⟩) := by
  obtain ⟨hq, _, hid, storable, p, hp, rfl⟩ := h
  refine ⟨p, hp, hid, ?_⟩
  have same : { q with productId := some p.id } = q := by
    cases q
    cases hid
    rfl
  have sync : (Provider.syncProduct q : Call Sandbox CatalogProduct).on u =
      (.ok q, u.reviseProduct p.id (Provider.detailsOf q)) := by
    have target : u.target? (Provider.detailsOf q).name = some p := hp
    rw [Provider.syncProduct, Call.on_bind, Provider.Sandbox.on_createOrUpdateProduct hu, target]
    show (Except.ok { q with productId := some p.id }, _) = _
    rw [same]
  have note := commits_noteProduct_again hd hq hid storable
  rw [← hid] at note
  rw [pushProduct_eq, Call.on_bind, Billing.on_onProvider, sync]
  dsimp only
  rw [Call.on_bind, transact_on_ok note]
  rfl

/-- Prices that carry ids are passed over. -/
theorem pushPrices_carried {σ : Type} [PaymentProvider σ] (pushed : CatalogProduct)
    {ps : List CatalogPrice} (h : ∀ p ∈ ps, p.priceId ≠ none) (summary : SyncSummary) :
    (pushPrices false pushed summary ps : Billing σ SyncSummary) =
      pure { summary with pricesSkipped := summary.pricesSkipped + ps.length } := by
  induction ps generalizing summary with
  | nil => rfl
  | cons p ps ih =>
    obtain ⟨hp, hps⟩ := List.forall_mem_cons.1 h
    rw [pushPrices, if_pos (by simpa [Option.isSome_iff_ne_none] using hp), ih hps, List.length_cons,
      Nat.add_right_comm, Nat.add_assoc]

theorem on_pushProducts_again (hd : Distinct s) {u : Sandbox} (hu : u.Sound)
    {qs : List CatalogProduct} (recognized : ∀ q ∈ qs, q.isActive = true → Recognized s u q)
    {prices : List CatalogPrice} (carried : ∀ q ∈ qs, q.isActive = true →
      ∀ p ∈ activePricesOf q.id prices, p.priceId ≠ none) (summary : SyncSummary) :
    (pushProducts false prices summary qs).on ⟨s, u⟩ =
      (.ok ⟨summary.productsSynced + (qs.filter (·.isActive)).length, summary.pricesSynced,
        summary.pricesSkipped + (pushesOf prices qs).length⟩,
        ⟨s, u.reviseProducts (detailsOnRows qs)⟩) := by
  induction qs generalizing u summary with
  | nil => rfl
  | cons q qs ih =>
    obtain ⟨hq, hqs⟩ := List.forall_mem_cons.1 recognized
    obtain ⟨hps, hpss⟩ := List.forall_mem_cons.1 carried
    rw [pushProducts]
    by_cases hactive : q.isActive = true
    · obtain ⟨p, hp, hid, hpush⟩ := on_pushProduct_again hd hu (hq hactive)
      have rest : ∀ q' ∈ qs, q'.isActive = true →
          Recognized s (u.reviseProduct p.id (Provider.detailsOf q)) q' :=
        fun q' hq' ha => (hqs q' hq' ha).reviseProduct hu hp
      rw [if_pos hactive, Call.on_bind, hpush]
      dsimp only
      rw [pushPrices_carried q (hps hactive), pure_bind,
        ih (hu.reviseProduct p.id _) rest hpss]
      simp [pushesOf, hactive, detailsOnRows, hid, reviseProducts, Nat.add_assoc, Nat.add_comm 1]
    · rw [if_neg hactive, ih hu hqs hpss]
      simp [pushesOf, hactive, detailsOnRows]

/-! ### What a run counts -/

section Counts

variable {σ : Type} [PaymentProvider σ]

theorem counts_pushPrices (force : Bool) (pushed : CatalogProduct) (ps : List CatalogPrice)
    (summary : SyncSummary) :
    Ensures (fun _ : World σ => True) (pushPrices force pushed summary ps) fun counts _ =>
      counts.productsSynced = summary.productsSynced ∧
        counts.pricesSynced + counts.pricesSkipped =
          summary.pricesSynced + summary.pricesSkipped + ps.length := by
  induction ps generalizing summary with
  | nil => exact ensures_pure fun _ _ => ⟨rfl, rfl⟩
  | cons p ps ih =>
    rw [pushPrices, List.length_cons]
    split
    · intro w counts w' _ hon
      obtain ⟨hproducts, hprices⟩ := ih _ w counts w' trivial hon
      exact ⟨hproducts, by simp only at hprices; omega⟩
    · intro w counts w' _ hon
      obtain ⟨_, u, -, hon⟩ := Call.on_bind_ok hon
      obtain ⟨hproducts, hprices⟩ := ih _ u counts w' trivial hon
      exact ⟨hproducts, by simp only at hprices; omega⟩

theorem counts_pushProducts (force : Bool) (prices : List CatalogPrice) (qs : List CatalogProduct)
    (summary : SyncSummary) :
    Ensures (fun _ : World σ => True) (pushProducts force prices summary qs) fun counts _ =>
      counts.productsSynced = summary.productsSynced + (qs.filter (·.isActive)).length ∧
        counts.pricesSynced + counts.pricesSkipped =
          summary.pricesSynced + summary.pricesSkipped + (pushesOf prices qs).length := by
  induction qs generalizing summary with
  | nil => exact ensures_pure fun _ _ => ⟨rfl, rfl⟩
  | cons q qs ih =>
    rw [pushProducts]
    by_cases hactive : q.isActive = true
    · intro w counts w' _ hon
      rw [if_pos hactive] at hon
      obtain ⟨pushed, u, -, hon⟩ := Call.on_bind_ok hon
      obtain ⟨counts₁, v, hprices, hon⟩ := Call.on_bind_ok hon
      obtain ⟨hproducts₁, hprices₁⟩ := counts_pushPrices force pushed _ _ u counts₁ v trivial hprices
      obtain ⟨hproducts₂, hprices₂⟩ := ih counts₁ v counts w' trivial hon
      have more : (pushesOf prices (q :: qs)).length =
          (activePricesOf q.id prices).length + (pushesOf prices qs).length := by
        simp [pushesOf, hactive]
      have one : ((q :: qs).filter (·.isActive)).length = (qs.filter (·.isActive)).length + 1 := by
        simp [hactive]
      simp only at hproducts₁ hprices₁
      rw [more, one]
      exact ⟨by omega, by omega⟩
    · have hskip : pushesOf prices (q :: qs) = pushesOf prices qs := by simp [pushesOf, hactive]
      rw [if_neg hactive, hskip, List.filter_cons_of_neg hactive]
      exact ih summary

end Counts

/-- The number of products in use. -/
def activeProducts (s : Store) : Nat :=
  s.products.rows.countP (·.isActive)

/-- The number of prices in use of products in use. -/
def sellablePrices (s : Store) : Nat :=
  s.prices.rows.countP fun p => p.isActive && (s.product? p.product).any (·.isActive)

section Arranged

variable {c : Collation} (order : c.Arrangement CatalogProduct.name)

theorem length_productsOfRun (s : Store) :
    ((order.arrange s.products.rows).filter (·.isActive)).length = activeProducts s := by
  rw [← List.countP_eq_length_filter]
  exact (order.perm _).countP_eq _

theorem length_pushes (hd : Distinct s) : (pushes order s).length = sellablePrices s := by
  have counted : (pricesOfRun order s).Perm ((s.prices.rows.filter fun p =>
      p.isActive && (s.product? p.product).any (·.isActive)).map (·.id)) := by
    refine (List.perm_ext_iff_of_nodup (List.pairwise_map.2
      (pairwise_pushesOf (nodup_sortPrices hd) (nodup_arrange order hd)))
      (nodup_map_filter _ hd.prices)).2 fun id => ⟨fun hmem => ?_, fun hmem => ?_⟩
    · obtain ⟨⟨q, p⟩, hpush, rfl⟩ := List.mem_map.1 hmem
      have hp : p ∈ s.prices.rows := ((mem_pushes order).1 hpush).2.1
      obtain ⟨hpa, q', hq', hqa⟩ := (mem_pricesOfRun hd hp).1 hmem
      refine List.mem_map_of_mem (List.mem_filter.2 ⟨hp, ?_⟩)
      rw [hpa, hq', Option.any_some, hqa]
      rfl
    · obtain ⟨p, hp, rfl⟩ := List.mem_map.1 hmem
      obtain ⟨hp, hwanted⟩ := List.mem_filter.1 hp
      simp only [Bool.and_eq_true, Option.any_eq_true] at hwanted
      exact (mem_pricesOfRun hd hp).2 hwanted
  simpa [pricesOfRun, sellablePrices, List.countP_eq_length_filter] using counted.length_eq

end Arranged

theorem activeProducts_eq (h : Relabelled s s') : activeProducts s' = activeProducts s := by
  have unlabelled (s : Store) :
      activeProducts s = (s.products.rows.map (·.unlabelled)).countP (·.isActive) := by
    rw [List.countP_map]
    rfl
  rw [unlabelled, h.products, ← unlabelled]

theorem sellablePrices_eq (h : Relabelled s s') : sellablePrices s' = sellablePrices s := by
  have active (id : Uuid) : (s'.product? id).any (·.isActive) = (s.product? id).any (·.isActive) := by
    have agree := find?_agree (f := CatalogProduct.id) h.products (fun _ => rfl) id
    change (s'.product? id).map _ = (s.product? id).map _ at agree
    have unlabelled (o : Option CatalogProduct) :
        o.any (·.isActive) = (o.map (·.unlabelled)).any (·.isActive) := by
      cases o <;> rfl
    rw [unlabelled, agree, ← unlabelled]
  have unlabelled (rows : List CatalogPrice) :
      (rows.countP fun p => p.isActive && (s.product? p.product).any (·.isActive)) =
        (rows.map (·.unlabelled)).countP fun p =>
          p.isActive && (s.product? p.product).any (·.isActive) := by
    rw [List.countP_map]
    rfl
  simp only [sellablePrices, active]
  rw [unlabelled, h.prices, ← unlabelled]

/-! ### Two runs -/

variable {w w' : World Sandbox} {c : Collation} {first : c.Arrangement CatalogProduct.name}

/-- After a run that is not forced, every active product is recognized at the provider. -/
theorem recognized_after_run (hd : Distinct w.store) (h : Relabelled w.store w'.store)
    {done : List (Entry × Option String)} (settled : Settled (sentDetails done) w'.provider)
    (follows : Follows first w.store false w.provider [] done w') {q : CatalogProduct}
    (hq : q ∈ w'.store.products.rows) (hactive : q.isActive = true) :
    Recognized w'.store w'.provider q := by
  obtain ⟨q₀, hq₀, hlabel⟩ := h.exists_product hq
  have hid : q₀.id = q.id := congrArg (·.id) hlabel
  have hmem : Entry.product q₀ ∈ done.map (·.1) := by
    have listed : Entry.product q₀ ∈ schedule first w.store :=
      List.mem_flatMap.2 ⟨q₀, first.mem_arrange.2 hq₀, List.mem_cons_self ..⟩
    rwa [follows.split, List.append_nil] at listed
  obtain ⟨⟨e, l⟩, hdone, rfl⟩ := List.mem_map.1 hmem
  have due : l.isSome = q₀.isActive := follows.history.isSome_eq _ hdone
  rw [show q₀.isActive = true from (congrArg (·.isActive) hlabel).trans hactive] at due
  obtain ⟨id, rfl⟩ := Option.isSome_iff_exists.1 due
  have stands : w'.store.product? q₀.id = some { q₀ with productId := some id } :=
    follows.stands_of_done hd _ hdone
  have found : w'.store.product? q.id = some q := find?_of_nodup (h.distinct hd).products hq
  rw [← hid] at found
  obtain rfl := Option.some.inj (found.symm.trans stands)
  exact ⟨hq, id, rfl, follows.storable _ hdone, settled.target _ (mem_sentDetails hdone)⟩

/-- Two products of one name with a price each. -/
def namesakes : World Sandbox :=
  afterAll ⟨.empty, .fresh⟩
    [.insertProduct "Pro" "For teams" none none, .insertProduct "Pro" "For firms" none none,
      .insertPrice none "usd" (.row 2 1) 500 .month none,
      .insertPrice none "eur" (.row 2 2) 450 .month none]

theorem run_namesakes :
    ((run byName false).on namesakes).1 = .ok ⟨2, 2, 0⟩ ∧
      ((run byName false).on namesakes).2.provider.products.map (fun p => (p.id, p.description)) =
        [("prod_mock00000001", some "For firms")] ∧
      ((run byName false).on namesakes).2.store.products.rows =
        [⟨.row 2 1, some "prod_mock00000001", "Pro", "For teams", true, none⟩,
          ⟨.row 2 2, some "prod_mock00000001", "Pro", "For firms", true, none⟩] := by
  have reachable : Reachable namesakes := (Reachable.empty _).afterAll _
  have sorted : byName.arrange namesakes.store.products.rows = namesakes.store.products.rows :=
    List.mergeSort_of_pairwise (by decide)
  rw [on_run, sorted, sortPrices_of_evolves reachable.evolves]
  decide +kernel

end OrgBilling.CatalogSync
