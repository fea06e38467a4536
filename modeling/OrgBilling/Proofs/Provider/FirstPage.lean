import OrgBilling.Proofs.Provider.Uniqueness

/-!
# What the first page of a search leaves out

The create-or-update rules ask for what is in use and look at the first page of the answer. The
provider in memory lists its objects in the order in which they were made, so the page has the
oldest ones. As long as there are not more of them than a page holds, the rules do what they are
for: a new price is the only one in use of its product and currency (`supersedes_first_page`), and
new details go to the product of the name that was made last (`revises_last_of_first_page`). What
stands beyond the page is passed over. Prices there stay in use, and products there keep their
details although they are newer (`not_supersedes_of_eleven`, `not_revises_newest_of_eleven`).

A provider gets into such a state by the requests that make products and prices, which do not look
for what there is.
-/

namespace OrgBilling.Provider.Sandbox

variable {s s' : Sandbox}

/-! ### What requests leave -/

theorem Reachable.requests (h : s.Reachable) (rs : List Request) :
    (rs.foldl Request.after s).Reachable := by
  induction rs generalizing s with
  | nil => exact h
  | cons r rs ih => exact ih (h.after r)

/-- No request takes a product out of use. -/
theorem Reachable.active (h : s.Reachable) : ∀ p ∈ s.products, p.active = true := by
  induction h with
  | fresh => exact List.forall_mem_nil _
  | @after s hs r ih =>
    cases hr : r.edits with
    | false => exact fun p hp => ih p ((r.frame hr s).1.subset hp)
    | true =>
      cases r with
      | createProduct d =>
        refine List.forall_mem_append.2 ⟨ih, List.forall_mem_singleton.2 ?_⟩
        rfl
      | updateProduct id d =>
        rw [Request.after, on_updateProduct hs.sound]
        refine List.forall_mem_map.2 fun p hp => ?_
        split <;> exact ih p hp
      | createPrice t =>
        rw [Request.after, on_createPrice]
        cases s.product? t.product <;> exact ih
      | updatePrice id active =>
        rw [Request.after, on_updatePrice hs.sound]
        exact ih
      | _ => cases hr

theorem Reachable.productsNamed (h : s.Reachable) (name : String) :
    s.productsNamed name = s.products.filter (·.name == name) :=
  List.filter_congr fun p hp => by rw [h.active p hp, Bool.true_and]

/-! ### Products -/

section Newest

variable {ps : List Product} (order : ps.Pairwise fun p q => p.created < q.created)

include order

/-- Of products in the order in which they were made, the newest is the last one. -/
theorem newest_eq_getLast? : newest ps = ps.getLast? := by
  induction ps with
  | nil => rfl
  | cons p ps ih =>
    obtain ⟨first, rest⟩ := List.pairwise_cons.1 order
    rw [newest, ih rest, List.getLast?_cons]
    cases hlast : ps.getLast? with
    | none => rfl
    | some q =>
      have hlt : p.created < q.created := first q (List.mem_of_getLast? hlast)
      exact if_neg (Int.not_lt.2 (Int.le_of_lt hlt))

theorem created_le_of_getLast? {q : Product} (hq : ps.getLast? = some q) :
    ∀ p ∈ ps, p.created ≤ q.created := by
  obtain ⟨before, rfl⟩ := List.getLast?_eq_some_iff.1 hq
  refine List.forall_mem_append.2 ⟨fun p hp => ?_, List.forall_mem_singleton.2 (Int.le_refl _)⟩
  exact Int.le_of_lt ((List.pairwise_append.1 order).2.2 p hp q (List.mem_singleton_self q))

/-- The last one of the first products is the newest of all if there are no others, and only
then. -/
theorem length_le_iff_of_getLast?_take {n : Nat} {q : Product}
    (hq : (ps.take n).getLast? = some q) :
    ps.length ≤ n ↔ ∀ p ∈ ps, p.created ≤ q.created := by
  constructor
  · intro hn
    rw [List.take_of_length_le hn] at hq
    exact created_le_of_getLast? order hq
  · intro newest
    by_contra hn
    have later : ps.drop n ≠ [] := by simpa using hn
    obtain ⟨p, hp⟩ := List.exists_mem_of_ne_nil _ later
    rw [← List.take_append_drop n ps, List.pairwise_append] at order
    have hlt := order.2.2 q (List.mem_of_getLast? hq) p hp
    exact Int.not_lt.2 (newest p (List.mem_of_mem_drop hp)) hlt

end Newest

/-- The products of a name are found in the order in which they were made. -/
theorem Sound.order_named (h : s.Sound) (name : String) :
    (s.products.filter (·.name == name)).Pairwise fun p q => p.created < q.created :=
  h.products.order.filter _

/-- New details go to the last product on the first page. -/
theorem Reachable.target?_eq (h : s.Reachable) (name : String) :
    s.target? name = ((s.products.filter (·.name == name)).take defaultPageLength).getLast? := by
  rw [target?, h.productsNamed]
  exact newest_eq_getLast? ((h.sound.order_named name).sublist (List.take_sublist _ _))

/-- A product that gets new details is replaced by what it is then. -/
theorem Sound.reviseProduct_eq (h : s.Sound) {old : Product} (hold : old ∈ s.products)
    (d : ProductDetails) :
    s.reviseProduct old.id d =
      { s with
        products := s.products.map fun p => if p.id = old.id then revised d old else p } := by
  unfold Sandbox.reviseProduct
  congr 1
  refine List.map_congr_left fun p hp => ?_
  split
  · next hid => rw [List.inj_on_of_nodup_map h.products.nodup hp hold hid]
  · rfl

/-- New details go to the newest product of the first page. For a provider that requests lead to,
creating or updating always succeeds. If no product has the name, there is one product more, with
the details and an id of its own, and nothing else is different. If a product has the name, none is
made: the last one of the first ten products of the name has the new details, and nothing else is
different; and this one was made last of all products of the name if there are at most ten, and
otherwise was not. -/
theorem revises_last_of_first_page (h : s.Reachable) (d : ProductDetails) :
    let named := s.products.filter (·.name == d.name)
    ∃ p s', (createOrUpdateProduct d).on s = (.ok p, s') ∧
      (named = [] →
        p = ⟨objectId "prod" s.next, true, createdAt s.next, d.name, some d.description, d.taxCode⟩ ∧
        (∀ q ∈ s.products, q.id ≠ p.id) ∧
        s' = { s with next := s.next + 1, products := s.products ++ [p] }) ∧
      (named ≠ [] → ∃ old ∈ named,
        p = { old with name := d.name, description := some d.description, taxCode := d.taxCode } ∧
        s' = { s with products := s.products.map fun q => if q.id = old.id then p else q } ∧
        (named.take defaultPageLength).getLast? = some old ∧
        (named.length ≤ defaultPageLength ↔ ∀ q ∈ named, q.created ≤ old.created)) := by
  intro named
  have target := h.target?_eq d.name
  rw [on_createOrUpdateProduct h.sound]
  cases hold : s.target? d.name with
  | none =>
    have empty : named = [] := by
      have page : (s.productsNamed d.name).take 10 = [] := newest_eq_none hold
      rw [h.productsNamed] at page
      exact (List.take_eq_nil_iff.1 page).resolve_left (by decide)
    refine ⟨_, _, rfl, fun _ => ⟨rfl, ?_, rfl⟩, fun hne => absurd empty hne⟩
    intro q hq
    obtain ⟨n, hn, hid, -⟩ := h.sound.products.made q hq
    rw [hid]
    exact fun heq => Nat.ne_of_lt hn (objectId_inj heq)
  | some old =>
    have last := target.symm.trans hold
    have mem : old ∈ named := List.mem_of_mem_take (List.mem_of_getLast? last)
    refine ⟨_, _, rfl, fun hempty => ?_, fun _ => ⟨old, mem, rfl, ?_, last, ?_⟩⟩
    · rw [hempty] at mem
      cases mem
    · exact h.sound.reviseProduct_eq (List.mem_filter.1 mem).1 d
    · exact length_le_iff_of_getLast?_take (h.sound.order_named d.name) last

/-- Details of a product. -/
def widgets (description : String) : ProductDetails := ⟨"Widgets", description, none⟩

/-- A provider with eleven products of a name. -/
def elevenWidgets : Sandbox :=
  (List.replicate 11 (Request.createProduct (widgets "old"))).foldl Request.after fresh

theorem reachable_elevenWidgets : elevenWidgets.Reachable := Reachable.fresh.requests _

theorem target?_elevenWidgets :
    elevenWidgets.target? "Widgets" = some (newProduct (widgets "old") 10) := by
  decide +kernel

/-- Of eleven products of a name, the tenth gets the new details. -/
theorem revises_last_of_first_page_of_eleven :
    ((createOrUpdateProduct (widgets "new")).on elevenWidgets).1 =
      .ok (revised (widgets "new") (newProduct (widgets "old") 10)) := by
  obtain ⟨p, s', hon, -, revises⟩ :=
    revises_last_of_first_page reachable_elevenWidgets (widgets "new")
  have some : elevenWidgets.products.filter (·.name == "Widgets") ≠ [] := by decide +kernel
  obtain ⟨old, -, rfl, -, last, -⟩ := revises some
  have tenth := (reachable_elevenWidgets.target?_eq "Widgets").symm.trans target?_elevenWidgets
  obtain rfl := Option.some.inj (last.symm.trans tenth)
  rw [hon]
  rfl

/-- New details do not always go to the newest product of the name. -/
theorem not_revises_newest_of_eleven :
    ¬ ∀ (s : Sandbox) (d : ProductDetails) (p newest : Product) (s' : Sandbox), s.Reachable →
      (createOrUpdateProduct d).on s = (.ok p, s') → newest ∈ s.products → newest.name = d.name →
      (∀ q ∈ s.products, q.name = d.name → q.created ≤ newest.created) →
      p = revised d newest := by
  intro h
  have eleventh : newProduct (widgets "old") 11 ∈ elevenWidgets.products := by decide +kernel
  have latest : ∀ q ∈ elevenWidgets.products, q.name = "Widgets" →
      q.created ≤ (newProduct (widgets "old") 11).created := by decide +kernel
  have hon := on_createOrUpdateProduct reachable_elevenWidgets.sound (widgets "new")
  rw [widgets, target?_elevenWidgets] at hon
  have claimed := h _ _ _ _ _ reachable_elevenWidgets hon eleventh rfl latest
  exact absurd (congrArg Product.id claimed) (by decide +kernel)

/-! ### Prices -/

/-- The price is in use, and of the product and the currency that a new one is for. -/
def isFor (t : PriceTerms) (p : Price) : Bool :=
  p.active && p.product == t.product && p.currency == t.currency

/-- The price is of another product or in another currency. -/
def isApart (t : PriceTerms) (p : Price) : Bool :=
  !(p.product == t.product && p.currency == t.currency)

/-- A price when those with the given ids are taken out of use. -/
def retire (ids : List String) (p : Price) : Price :=
  if p.id ∈ ids then { p with active := false } else p

theorem pricesFor_eq (t : PriceTerms) (s : Sandbox) :
    s.pricesFor t.product t.currency = s.prices.filter (isFor t) := rfl

theorem prices_replacePrice (t : PriceTerms) (s : Sandbox) :
    (s.replacePrice t).prices =
      s.prices.map (retire (s.supersededIds t)) ++ [newPrice t s.next] := rfl

/-- Prices pass a test after some were taken out of use if they are others and passed it before. -/
theorem filter_map_retire {ids : List String} {ps : List Price} {test : Price → Bool}
    (h : ∀ p ∈ ps, test (retire ids p) = (decide (p.id ∉ ids) && test p)) :
    (ps.map (retire ids)).filter test = (ps.filter test).filter fun p => p.id ∉ ids := by
  rw [List.filter_map, List.filter_filter, ← List.filter_congr h]
  refine (List.map_congr_left fun p hp => ?_).trans (List.map_id _)
  obtain ⟨hp, htest⟩ := List.mem_filter.1 hp
  rw [Function.comp_apply, h p hp, Bool.and_eq_true] at htest
  exact if_neg (of_decide_eq_true htest.1)

theorem isFor_of_superseded (h : s.Sound) {t : PriceTerms} {p : Price} (hp : p ∈ s.prices)
    (hid : p.id ∈ s.supersededIds t) : isFor t p = true := by
  have page : (s.pricesFor t.product t.currency).take 10 ⊆ s.prices :=
    fun q hq => (List.mem_filter.1 (List.mem_of_mem_take hq)).1
  exact (List.mem_filter.1 (List.mem_of_mem_take (mem_of_mem_map h.prices.nodup hp page hid))).2

/-- Of the prices in use of the product and the currency, a new price leaves those in use that stand
beyond the first page. -/
theorem pricesFor_replacePrice (h : s.Sound) (t : PriceTerms) :
    (s.replacePrice t).pricesFor t.product t.currency =
      (s.pricesFor t.product t.currency).drop defaultPageLength ++ [newPrice t s.next] := by
  have new : [newPrice t s.next].filter (isFor t) = [newPrice t s.next] := by simp [isFor, newPrice]
  have old : ∀ p ∈ s.prices, isFor t (retire (s.supersededIds t) p) =
      (decide (p.id ∉ s.supersededIds t) && isFor t p) := by
    intro p _
    by_cases hid : p.id ∈ s.supersededIds t <;> simp [retire, isFor, hid]
  rw [pricesFor_eq, prices_replacePrice, List.filter_append, new, filter_map_retire old,
    ← pricesFor_eq]
  congr 1
  exact filter_not_mem_take (h.prices.nodup.sublist (List.filter_sublist.map _)) _

theorem apart_replacePrice (h : s.Sound) (t : PriceTerms) :
    (s.replacePrice t).prices.filter (isApart t) = s.prices.filter (isApart t) := by
  have new : [newPrice t s.next].filter (isApart t) = [] := by simp [isApart, newPrice]
  -- What is taken out of use is of this product and currency.
  have kept : ∀ p ∈ s.prices, isApart t p = true → p.id ∉ s.supersededIds t := by
    intro p hp hapart hid
    have hfor := isFor_of_superseded h hp hid
    simp only [isFor, Bool.and_eq_true] at hfor
    simp [isApart, hfor.1.2, hfor.2] at hapart
  have old : ∀ p ∈ s.prices, isApart t (retire (s.supersededIds t) p) =
      (decide (p.id ∉ s.supersededIds t) && isApart t p) := by
    intro p hp
    by_cases hid : p.id ∈ s.supersededIds t
    · rw [retire, if_pos hid, decide_eq_false (not_not.2 hid), Bool.false_and]
      exact eq_false_of_ne_true fun hapart => kept p hp hapart hid
    · simp [retire, hid]
  rw [prices_replacePrice, List.filter_append, new, List.append_nil, filter_map_retire old]
  refine List.filter_eq_self.2 fun p hp => decide_eq_true ?_
  exact kept p (List.mem_filter.1 hp).1 (List.mem_filter.1 hp).2

/-- A new price takes the place of the first page of prices. When creating or updating a price
succeeds at a provider that requests lead to, the price has the terms and an id of its own. Of the
prices in use of its product and currency, those beyond the first ten stay in use beside it; so it
is the only one if there were at most ten, and otherwise is not. Prices of other products and in
other currencies are as they were. -/
theorem supersedes_first_page (h : s.Reachable) {t : PriceTerms} {p : Price}
    (hon : (createOrUpdatePrice t).on s = (.ok p, s')) :
    (p = ⟨objectId "price" s.next, true, createdAt s.next, t.currency, some t.unitAmount, t.product,
        some ⟨t.recurring.name⟩, t.taxBehavior⟩ ∧
      ∀ q ∈ s.prices, q.id ≠ p.id) ∧
    s'.pricesFor t.product t.currency =
      (s.pricesFor t.product t.currency).drop defaultPageLength ++ [p] ∧
    (s'.pricesFor t.product t.currency = [p] ↔
      (s.pricesFor t.product t.currency).length ≤ defaultPageLength) ∧
    s'.prices.filter (isApart t) = s.prices.filter (isApart t) := by
  obtain ⟨rfl, rfl⟩ := createOrUpdatePrice_ok h.sound hon
  have prices := pricesFor_replacePrice h.sound t
  refine ⟨⟨rfl, fun q hq => ?_⟩, prices, ?_, apart_replacePrice h.sound t⟩
  · obtain ⟨n, hn, hid, -⟩ := h.sound.prices.made q hq
    rw [hid]
    exact fun heq => Nat.ne_of_lt hn (objectId_inj heq)
  · rw [prices]
    simp

/-- Terms of a price. -/
def monthly (unitAmount : Int) : PriceTerms :=
  ⟨unitAmount, "usd", .month, "prod_mock00000001", none⟩

/-- A provider with a product that has eleven prices in use. -/
def elevenPrices : Sandbox :=
  (Request.createProduct (widgets "old") ::
    List.replicate 11 (Request.createPrice (monthly 500))).foldl Request.after fresh

theorem reachable_elevenPrices : elevenPrices.Reachable := Reachable.fresh.requests _

theorem on_elevenPrices : (createOrUpdatePrice (monthly 700)).on elevenPrices =
    (.ok (newPrice (monthly 700) 13), elevenPrices.replacePrice (monthly 700)) := by
  have product :
      elevenPrices.product? "prod_mock00000001" = some (newProduct (widgets "old") 1) := by
    decide +kernel
  have hon := on_createOrUpdatePrice reachable_elevenPrices.sound (monthly 700)
  rw [monthly, product] at hon
  exact hon

theorem length_elevenPrices : (elevenPrices.pricesFor "prod_mock00000001" "usd").length = 11 := by
  decide +kernel

/-- Beside a price that takes the place of eleven, one of them stays in use. -/
theorem supersedes_first_page_of_eleven :
    ((elevenPrices.replacePrice (monthly 700)).pricesFor "prod_mock00000001" "usd").length = 2 := by
  obtain ⟨-, prices, -⟩ := supersedes_first_page reachable_elevenPrices on_elevenPrices
  have length := congrArg List.length prices
  rwa [List.length_append, List.length_drop, monthly, length_elevenPrices] at length

/-- A new price is not always the only one in use of its product and currency. -/
theorem not_supersedes_of_eleven :
    ¬ ∀ (s : Sandbox) (t : PriceTerms) (p : Price) (s' : Sandbox), s.Reachable →
      (createOrUpdatePrice t).on s = (.ok p, s') → s'.pricesFor t.product t.currency = [p] := by
  intro h
  have claimed := h _ _ _ _ reachable_elevenPrices on_elevenPrices
  rw [pricesFor_replacePrice reachable_elevenPrices.sound] at claimed
  have length := congrArg List.length claimed
  rw [List.length_append, List.length_drop, monthly, length_elevenPrices] at length
  cases length

end OrgBilling.Provider.Sandbox
