import OrgBilling.Proofs.Operation
import OrgBilling.Proofs.Store.Schema
import OrgBilling.Provider.Sandbox

/-!
# One default price

The default price is the only active one, and it is made when there is none. So the application can
sell as long as no second price is active. Only two operations can put a second one into use: putting
in a price, which is active from the start, and updating a price so that it is active
(`Operation.activates`). Every step of any other operation, whatever it finds or deletes or notes,
keeps at most one price active (`SinglyPriced.step`), and so does every step of an event's action;
hence so does every run without those two operations.

As long as at most one price is active the default price can be had, and asking again gives the same
row; otherwise it cannot (`default_price_of_afterAll`).
-/

namespace OrgBilling

open Store Transaction

variable {s s' : Store}

namespace Store

/-- At most one price is active, and each price can be told by its id, also those to come. -/
structure SinglyPriced (s : Store) : Prop where
  ids : (s.prices.rows.map (·.id)).Nodup
  fresh : FreshIds priceTag (·.id) s.prices
  single : s.activePrices.length ≤ 1

namespace SinglyPriced

/-- Other tables do not matter. -/
theorem congr (h : SinglyPriced s) (hprices : s'.prices = s.prices) : SinglyPriced s' where
  ids := hprices ▸ h.ids
  fresh := hprices ▸ h.fresh
  single := by
    rw [activePrices, hprices]
    exact h.single

theorem filter (h : SinglyPriced s) {keep : CatalogPrice → Bool}
    (hprices : s'.prices = s.prices.filter keep) : SinglyPriced s' where
  ids := hprices ▸ nodup_map_filter keep h.ids
  fresh := hprices ▸ h.fresh.filter keep
  single := by
    rw [activePrices, hprices, Table.rows_filter]
    exact Nat.le_trans (List.filter_sublist.filter _).length_le h.single

/-- Prices have other contents, but none is put into use. -/
theorem edit (h : SinglyPriced s) {f : CatalogPrice → CatalogPrice} (id : ∀ p, (f p).id = p.id)
    (active : ∀ p ∈ s.prices.rows, (f p).isActive = true → p.isActive = true)
    (hprices : s'.prices = s.prices.map f) : SinglyPriced s' where
  ids := hprices ▸ nodup_map_map h.ids id
  fresh := hprices ▸ h.fresh.map id
  single := by
    have fewer : (s.prices.rows.map f).countP (·.isActive) ≤ s.prices.rows.countP (·.isActive) := by
      rw [List.countP_map]
      exact List.countP_mono_left active
    rw [List.countP_eq_length_filter, List.countP_eq_length_filter] at fewer
    rw [activePrices, hprices, Table.rows_map]
    exact Nat.le_trans fewer h.single

/-! ### Steps -/

theorem defaultPrice (h : SinglyPriced s) {p : CatalogPrice}
    (hc : Commits getOrCreateDefaultPrice s p s') : SinglyPriced s' where
  ids := by
    rcases commits_getOrCreateDefaultPrice.1 hc with ⟨-, rfl⟩ | ⟨-, rfl, -⟩
    · exact h.ids
    · exact h.fresh.nodup_insert h.ids fun _ => rfl
  fresh := by
    rcases commits_getOrCreateDefaultPrice.1 hc with ⟨-, rfl⟩ | ⟨-, rfl, -⟩
    · exact h.fresh
    · exact h.fresh.insert fun _ => rfl
  single := by simp [activePrices_of_default hc]

/-- A price that is updated is active only if it was, unless the update says that it is. -/
theorem updatePrice (h : SinglyPriced s) {id : Uuid} {changes : PriceChanges} {p : CatalogPrice}
    (hactive : changes.isActive ≠ some true) (hc : Commits (Store.updatePrice id changes) s p s') :
    SinglyPriced s' := by
  obtain ⟨old, hold, rfl, -, rfl⟩ := commits_updatePrice.1 hc
  obtain ⟨hmem, rfl⟩ := mem_of_price? hold
  refine h.edit (fun q => ?_) (fun q hq => ?_) rfl
  · split
    · next hid => exact hid.symm
    · rfl
  · split
    · next hid =>
      rw [List.inj_on_of_nodup_map h.ids hq hmem hid]
      cases hchange : changes.isActive with
      | none => simp [PriceChanges.apply, hchange]
      | some active => simp_all [PriceChanges.apply]
    · exact fun hq => hq

theorem serviceStep (h : SinglyPriced s) (hstep : ServiceStep s s') : SinglyPriced s' := by
  cases hstep with
  | defaultPrice hc => exact h.defaultPrice hc
  | holdCustomer hc =>
    obtain ⟨-, _, -, -, -, -, -, rfl⟩ := commits_setOrganizationCustomer.1 hc
    exact h.congr rfl
  | noteProduct hc =>
    obtain ⟨_, -, -, -, rfl⟩ := commits_updateProduct.1 hc
    exact h.congr rfl
  | notePrice hc => exact h.updatePrice (by simp) hc

theorem actionStep (h : SinglyPriced s) (hstep : ActionStep s s') : SinglyPriced s' := by
  cases hstep with
  | defaultPrice hc => exact h.defaultPrice hc
  | subscribe hc =>
    obtain ⟨-, -, _, -, -, -, -, -, -, rfl⟩ := commits_insertLinkedSubscription.1 hc
    exact h.congr rfl
  | setStatus hc =>
    obtain ⟨-, rfl⟩ := commits_setStatus.1 hc
    exact h.congr rfl
  | deleteCustomer hc =>
    obtain ⟨-, -, rfl⟩ := commits_deleteCustomer.1 hc
    exact h.congr rfl

end SinglyPriced

end Store

/-! ### Operations -/

section Operations

variable {σ : Type}

/-- The operation can put a price into use beside another one. -/
def Operation.activates : Operation σ → Bool
  | insertPrice .. => true
  | updatePrice _ changes => changes.isActive == some true
  | _ => false

theorem Store.SinglyPriced.step (h : SinglyPriced s) {op : Operation σ}
    (hop : op.activates = false) (hstep : op.Step s s') : SinglyPriced s' := by
  cases hstep with
  | service hstep => exact h.serviceStep hstep
  | insertOrganization hc =>
    obtain ⟨_, -, rfl⟩ := commits_insertOrganization hc
    exact h.congr rfl
  | addSubscription hc => exact h.actionStep (.subscribe hc)
  | setStatus hc => exact h.actionStep (.setStatus hc)
  | deleteSubscription hc =>
    obtain ⟨-, rfl⟩ := commits_deleteSubscription.1 hc
    exact h.congr rfl
  | deleteCustomer hc => exact h.actionStep (.deleteCustomer hc)
  | insertProduct hc =>
    obtain ⟨-, -, rfl⟩ := commits_insertProduct.1 hc
    exact h.congr rfl
  | updateProduct hc =>
    obtain ⟨_, -, -, -, rfl⟩ := commits_updateProduct.1 hc
    exact h.congr rfl
  | deleteProduct hc =>
    obtain ⟨-, rfl⟩ := commits_deleteProduct.1 hc
    exact h.filter rfl
  | insertPrice hc => cases hop
  | updatePrice hc => exact h.updatePrice (by simpa [Operation.activates] using hop) hc
  | deletePrice hc =>
    obtain ⟨-, rfl⟩ := commits_deletePrice.1 hc
    exact h.filter rfl

variable [PaymentProvider σ] {w : World σ}

theorem Store.SinglyPriced.after (h : SinglyPriced w.store) {op : Operation σ}
    (hop : op.activates = false) : SinglyPriced (op.after w).store :=
  op.keeps_after (fun _ _ hstep hs => hs.step hop hstep)
    (fun _ _ _ _ hp => keeps_of_steps (fun _ _ hstep hs => hs.actionStep hstep)
      (Webhook.steps_process hp))
    (fun _ _ hs => hs.congr rfl) h

end Operations

/-! ### The default price -/

/-- If at most one price is active, the default price can be had. Then it is the only active one, and
asking for it again gives the same and changes nothing. -/
theorem exists_default_price (h : s.activePrices.length ≤ 1) :
    ∃ p s', Records.getOrCreateDefaultPrice.on s = (.ok p, s') ∧ s'.activePrices = [p] ∧
      Records.getOrCreateDefaultPrice.on s' = (.ok p, s') := by
  obtain ⟨p, hactive⟩ := exists_activePrices_bootstrapped h
  rw [Records.getOrCreateDefaultPrice_eq]
  exact ⟨p, s.bootstrapped, commit_ok (commits_default_iff.2 ⟨hactive, rfl⟩), hactive,
    commit_ok (commits_getOrCreateDefaultPrice.2 (.inl ⟨hactive, rfl⟩))⟩

theorem default_price_of_several (h : 2 ≤ s.activePrices.length) :
    Records.getOrCreateDefaultPrice.on s = (.error (.internal .severalActivePrices), s) := by
  rw [Records.getOrCreateDefaultPrice_eq]
  refine commit_error ?_
  match hp : s.activePrices with
  | [] | [_] => simp [hp] at h
  | _ :: _ :: _ =>
    rw [getOrCreateDefaultPrice, run_get_bind, hp]
    rfl

/-- There is one default price. Let at most one price be active in a database that keeps its schema
and has free ids for new rows, and let there be any run of operations none of which puts in a price
or says of a price that it is active. Then at most one price is active still, and the default price
can be had: afterwards it is the only active price, and asking for it once more gives the same row and
changes nothing. Where two prices or more are active, asking for it is an internal error and changes
nothing. -/
theorem default_price_of_afterAll (σ : Type) [PaymentProvider σ] :
    (∀ (w : World σ) (ops : List (Operation σ)), Schema w.store → Fresh w.store →
      w.store.activePrices.length ≤ 1 → (∀ op ∈ ops, op.activates = false) →
      (afterAll w ops).store.activePrices.length ≤ 1 ∧
        ∃ p s, Records.getOrCreateDefaultPrice.on (afterAll w ops).store = (.ok p, s) ∧
          s.activePrices = [p] ∧ Records.getOrCreateDefaultPrice.on s = (.ok p, s)) ∧
    ∀ s : Store, 2 ≤ s.activePrices.length →
      Records.getOrCreateDefaultPrice.on s = (.error (.internal .severalActivePrices), s) := by
  refine ⟨fun w ops hs hf hw hops => ?_, fun s => default_price_of_several⟩
  have single : SinglyPriced (afterAll w ops).store :=
    keeps_afterAll (fun op hop _ h => h.after (hops op hop)) ⟨hs.prices, hf.prices, hw⟩
  exact ⟨single.single, exists_default_price single.single⟩

/-- The default price is made, pushed, and taken away with its product. -/
def withdrawDefault : List (Operation Provider.Sandbox) :=
  [.defaultPrice, .sync (Store.Collation.codePoints.stable _) true, .deleteProduct (.row 2 1)]

/-- After that the default price is made anew. With a second active price beside it, it could not be
had. -/
theorem default_price_of_afterAll_of_withdrawn :
    let s := (afterAll ⟨.empty, .fresh⟩ withdrawDefault).store
    (∃ p s', Records.getOrCreateDefaultPrice.on s = (.ok p, s') ∧ p.id = .row 3 2 ∧
      s'.activePrices = [p]) ∧
    let two := (afterAll ⟨.empty, .fresh⟩ (withdrawDefault ++
      [.getOrCreateDefaultPrice, .insertPrice none "eur" (.row 2 2) 4500 .month none])).store
    Records.getOrCreateDefaultPrice.on two = (.error (.internal .severalActivePrices), two) := by
  intro s
  obtain ⟨kept, refused⟩ := default_price_of_afterAll Provider.Sandbox
  obtain ⟨-, p, s', hp, hs', -⟩ :=
    kept ⟨.empty, .fresh⟩ withdrawDefault Schema.empty Fresh.empty (by decide) (by decide)
  have anew : (Records.getOrCreateDefaultPrice.on s).1.map (·.id) = .ok (.row 3 2) := by
    decide +kernel
  rw [hp] at anew
  exact ⟨⟨p, s', hp, by simpa [Except.map] using anew, hs'⟩, refused _ (by decide +kernel)⟩

end OrgBilling
