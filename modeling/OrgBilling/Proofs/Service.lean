import OrgBilling.Proofs.Records
import OrgBilling.Proofs.Store.Change
import OrgBilling.Proofs.Store.Query
import OrgBilling.Service.CatalogSync
import OrgBilling.Service.Checkout

/-!
# What the services do to the database

The services work on the database and the provider. Whatever the provider answers, a checkout's
preparations and a sync run take the database through a row of transactions of few kinds
(`ServiceStep`). What they do to the provider is what their requests do to it; for a checkout's
preparations the two are proved at once (`Both`).
-/

namespace OrgBilling

open Store Transaction Relation

variable {σ α : Type}

/-! ### Computations on worlds -/

/-- The databases of two worlds are related. -/
abbrev OnStore (R : Store → Store → Prop) (w w' : World σ) : Prop := R w.store w'.store

instance {R : Store → Store → Prop} [IsPreorder Store R] : IsPreorder (World σ) (OnStore R) where
  refl w := refl_of R w.store
  trans _ _ _ := trans_of R

theorem onProvider_ok {c : Call σ α} {a : α} {w w' : World σ}
    (h : (Billing.onProvider c).on w = (.ok a, w')) :
    c.on w.provider = (.ok a, w'.provider) ∧ w'.store = w.store := by
  obtain ⟨ha, rfl⟩ := Prod.mk.inj h
  exact ⟨Prod.ext ha rfl, rfl⟩

theorem transact_ok {t : Transaction α} {a : α} {w w' : World σ}
    (h : (Billing.transact t).on w = (.ok a, w')) :
    Commits t w.store a w'.store ∧ w'.provider = w.provider := by
  obtain ⟨ha, rfl⟩ := Prod.mk.inj h
  exact ⟨commit_on_ok (Prod.ext ha rfl), rfl⟩

theorem transact_on_ok {t : Transaction α} {a : α} {w : World σ} {s : Store}
    (h : Commits t w.store a s) :
    (Billing.transact t).on w = (.ok a, { w with store := s }) := by
  rw [Billing.transact, Billing.on_onStore, commit_ok h]

theorem onStore_commit {t : Transaction α} :
    (Billing.onStore (commit t) : Billing σ α) = Billing.transact t := rfl

theorem on_transact_error {t : Transaction α} {e : BillingError} {w : World σ}
    (h : t.run w.store = .error e) : (Billing.transact t).on w = (.error e, w) := by
  rw [Billing.transact, Billing.on_onStore, commit_error h]

/-- A request to the provider, and a transaction that notes its answer. -/
theorem noted_ok {β γ : Type} {c : Call σ α} {t : α → Transaction β} {f : α → γ} {b : γ}
    {w w' : World σ} (h : (Billing.onProvider c >>= fun a =>
      Billing.transact (t a) >>= fun _ => (pure (f a) : Billing σ γ)).on w = (.ok b, w')) :
    ∃ a r, c.on w.provider = (.ok a, w'.provider) ∧ Commits (t a) w.store r w'.store ∧ b = f a := by
  obtain ⟨a, u, hasked, h⟩ := Call.on_bind_ok h
  obtain ⟨r, v, hnoted, hpure⟩ := Call.on_bind_ok h
  cases hpure
  obtain ⟨hasked, hstore⟩ := onProvider_ok hasked
  obtain ⟨hnoted, hprovider⟩ := transact_ok hnoted
  rw [hstore] at hnoted
  rw [hprovider]
  exact ⟨a, r, hasked, hnoted, rfl⟩

/-- If that fails, nothing is noted. -/
theorem noted_error {β γ : Type} {c : Call σ α} {t : α → Transaction β} {f : α → γ}
    {e : BillingError} {w w' : World σ} (h : (Billing.onProvider c >>= fun a =>
      Billing.transact (t a) >>= fun _ => (pure (f a) : Billing σ γ)).on w = (.error e, w')) :
    w'.store = w.store := by
  rcases Call.on_bind_error h with h | ⟨a, u, hasked, h⟩
  · exact (congrArg World.store (Prod.mk.inj h).2).symm
  · rcases Call.on_bind_error h with h | ⟨_, _, -, h⟩
    · obtain ⟨herror, rfl⟩ := Prod.mk.inj h
      exact (commit_on_error (Prod.ext herror rfl)).trans (onProvider_ok hasked).2
    · cases h

namespace Provider

variable [PaymentProvider σ] {v v' : σ}

theorem syncProduct_ok {p pushed : CatalogProduct} (h : (syncProduct p).on v = (.ok pushed, v')) :
    ∃ made, (createOrUpdateProduct (detailsOf p)).on v = (.ok made, v') ∧
      pushed = { p with productId := some made.id } := by
  obtain ⟨made, u, hmade, hpure⟩ := Call.on_bind_ok h
  cases hpure
  exact ⟨made, hmade, rfl⟩

theorem syncPrice_ok {p pushed : CatalogPrice} {product : CatalogProduct} {productId : String}
    (hid : product.productId = some productId)
    (h : (syncPrice p product).on v = (.ok pushed, v')) :
    ∃ made, (createOrUpdatePrice
        ⟨p.unitAmount, p.currency, p.recurring, productId, p.taxBehavior⟩).on v = (.ok made, v') ∧
      pushed = { p with priceId := some made.id } := by
  rw [syncPrice, hid] at h
  obtain ⟨made, u, hmade, hpure⟩ := Call.on_bind_ok h
  cases hpure
  exact ⟨made, hmade, rfl⟩

end Provider

section Moves

variable {R : Store → Store → Prop}

theorem moves_onStore {c : Call Store α} (h : Moves R c) :
    Moves (OnStore R) (Billing.onStore c : Billing σ α) :=
  fun w => h w.store

variable [IsPreorder Store R]

theorem moves_onProvider (c : Call σ α) :
    Moves (OnStore R) (Billing.onProvider c : Billing σ α) :=
  fun w => refl_of R w.store

theorem moves_transact {t : Transaction α} (h : ∀ s a s', Commits t s a s' → R s s') :
    Moves (OnStore R) (Billing.transact t : Billing σ α) :=
  moves_onStore (moves_commit h)

theorem moves_read {t : Transaction α} (h : Reads t) :
    Moves (OnStore R) (Billing.transact t : Billing σ α) :=
  moves_transact fun s a s' ht => h s a s' ht ▸ refl_of R s

end Moves

section Both

variable {R : Store → Store → Prop} {Q : σ → σ → Prop}

/-- The databases of two worlds are related, and so are the providers. -/
structure Both (R : Store → Store → Prop) (Q : σ → σ → Prop) (w w' : World σ) : Prop where
  store : R w.store w'.store
  provider : Q w.provider w'.provider

instance [IsPreorder Store R] [IsPreorder σ Q] : IsPreorder (World σ) (Both R Q) where
  refl w := ⟨refl_of R w.store, refl_of Q w.provider⟩
  trans _ _ _ h h' := ⟨trans_of R h.store h'.store, trans_of Q h.provider h'.provider⟩

theorem both_onProvider [IsPreorder Store R] {c : Call σ α} (h : Moves Q c) :
    Moves (Both R Q) (Billing.onProvider c : Billing σ α) :=
  fun w => ⟨refl_of R w.store, h w.provider⟩

theorem both_transact [IsPreorder Store R] [IsPreorder σ Q] {t : Transaction α}
    (h : ∀ s a s', Commits t s a s' → R s s') :
    Moves (Both R Q) (Billing.transact t : Billing σ α) :=
  fun w => ⟨moves_commit h w.store, refl_of Q w.provider⟩

theorem both_read [IsPreorder Store R] [IsPreorder σ Q] {t : Transaction α} (h : Reads t) :
    Moves (Both R Q) (Billing.transact t : Billing σ α) :=
  both_transact fun s a s' ht => h s a s' ht ▸ refl_of R s

end Both

/-! ### Operations on the records in one piece -/

section OpenTransaction

variable {β : Type}

/-- A transaction that only reads at first may as well begin later. -/
theorem transaction_read_bind {t : Transaction α} {f : α → Call (Session × σ) β} (ht : Reads t) :
    Billing.transaction (Billing.inSession (Session.execute t) >>= f) =
      Billing.transact t >>= fun a => Billing.transaction (f a) := by
  refine Call.ext_on fun w => ?_
  rw [Billing.on_transaction, Call.on_bind, Call.on_bind, Billing.on_inSession]
  cases h : t.run w.store with
  | error e =>
    rw [on_transact_error h, Session.on_execute_error h]
    rfl
  | ok r =>
    obtain ⟨a, u⟩ := r
    obtain rfl : u = w.store := ht _ _ _ h
    rw [transact_on_ok h, Session.on_execute_ok h]
    rfl

/-- So may one that begins with a request to the provider. -/
theorem transaction_request_bind {c : Call σ α} {f : α → Call (Session × σ) β} :
    Billing.transaction (Billing.besideSession c >>= f) =
      Billing.onProvider c >>= fun a => Billing.transaction (f a) := by
  refine Call.ext_on fun w => ?_
  rw [Billing.on_transaction, Call.on_bind, Call.on_bind, Billing.on_besideSession,
    Billing.on_onProvider]
  rcases c.on w.provider with ⟨r, v⟩
  cases r <;> rfl

theorem transact_bind_pure {t : Transaction α} {f : α → β} :
    (Billing.transact (t >>= fun a => pure (f a)) : Billing σ β) =
      Billing.transact t >>= fun a => pure (f a) := by
  refine Call.ext_on fun w => ?_
  rw [Call.on_bind]
  cases h : t.run w.store with
  | error e => rw [on_transact_error h, on_transact_error (run_bind_of_error h)]
  | ok r =>
    have hrun : (t >>= fun a => pure (f a)).run w.store = .ok (f r.1, r.2) := by
      rw [StateT.run_bind, h]
      rfl
    rw [transact_on_ok h, transact_on_ok hrun]
    rfl

theorem inSession_bind {b : Call Session α} {f : α → Call Session β} :
    (Billing.inSession (b >>= f) : Call (Session × σ) β) =
      Billing.inSession b >>= fun a => Billing.inSession (f a) := by
  refine Call.ext_on fun w => ?_
  rw [Billing.on_inSession, Call.on_bind, Call.on_bind, Billing.on_inSession]
  rcases b.on w.1 with ⟨r, c⟩
  cases r <;> rfl

/-- What comes to one piece is done in one piece, whatever the provider did before. -/
theorem Performs.billing_transaction_eq {b : Call Session α} {t : Transaction α}
    (h : Performs b t) :
    (Billing.transaction (Billing.inSession b) : Billing σ α) = Billing.transact t :=
  congrArg Billing.onStore h.transaction_eq

end OpenTransaction

section OnePiece

variable [PaymentProvider σ]

namespace Checkout

/-- The transaction that is open while the provider is asked reads first and writes last, so it comes
to one that reads and one that writes. -/
theorem organizationCustomer_eq (o : Organization) :
    (organizationCustomer o : Billing σ String) =
      (match o.customerId with
      | some customer => pure customer
      | none => do
        match ← Billing.transact (lockOrganizationCustomer o.id) with
        | some customer => pure customer
        | none =>
          let customer ← Billing.onProvider (PaymentProvider.createCustomer o.name o.displayName)
          Billing.transact (setOrganizationCustomer o.id customer.id)
          pure customer.id) := by
  unfold organizationCustomer
  cases o.customerId with
  | some customer => rfl
  | none =>
    dsimp only
    rw [transaction_read_bind (reads_lockOrganizationCustomer _)]
    refine bind_congr fun held => ?_
    cases held with
    | some customer => rfl
    | none =>
      refine transaction_request_bind.trans (bind_congr fun customer => ?_)
      have hattach : Performs
          (do Records.setOrganizationCustomer o.id customer.id; Session.commit; pure customer.id)
          (do setOrganizationCustomer o.id customer.id; pure customer.id) :=
        Records.performs_setOrganizationCustomer_bind (performs_commit_pure _)
      have hone := hattach.billing_transaction_eq (σ := σ)
      rwa [transact_bind_pure, inSession_bind] at hone

theorem pushedProduct_eq (price : CatalogPrice) :
    (pushedProduct price : Billing σ CatalogProduct) = (do
      match ← Billing.transact (getProduct price.product) with
      | none => throw (.notFound (.productRow price.product))
      | some product =>
        if product.productId.isNone then
          let pushed ← Billing.onProvider (Provider.syncProduct product)
          Billing.transact (updateProduct product.id { productId := some pushed.productId })
        else pure product) := by
  refine bind_congr fun found => ?_
  cases found with
  | none => rfl
  | some product => simp only [Records.updateProduct_eq, onStore_commit]

/-- The second look finds the price that the first one has found or made. -/
theorem defaultPrice_eq :
    (defaultPrice : Billing σ CatalogPrice) = (do
      let price ← Billing.transact getOrCreateDefaultPrice
      if price.priceId.isSome then pure price
      else
        let product ← pushedProduct price
        let pushed ← Billing.onProvider (Provider.syncPrice price product)
        Billing.transact (updatePrice price.id { priceId := some pushed.priceId })) := by
  simp only [defaultPrice, pushPrice, Records.getOrCreateDefaultPrice_eq, Records.updatePrice_eq,
    onStore_commit]
  refine Call.ext_on fun w => ?_
  rw [Call.on_bind, Call.on_bind]
  cases h : getOrCreateDefaultPrice.run w.store with
  | error e => rw [on_transact_error h]
  | ok r =>
    obtain ⟨price, s⟩ := r
    have again : Commits getOrCreateDefaultPrice s price s :=
      commits_getOrCreateDefaultPrice.2 (.inl ⟨activePrices_of_default h, rfl⟩)
    rw [transact_on_ok h]
    dsimp only
    split
    · rfl
    · next hid =>
      rw [Call.on_bind, transact_on_ok again]
      dsimp only
      rw [if_neg hid]

end Checkout

namespace CatalogSync

theorem pushProduct_eq (p : CatalogProduct) :
    (pushProduct p : Billing σ CatalogProduct) = (do
      let pushed ← Billing.onProvider (Provider.syncProduct p)
      let _ ← Billing.transact (updateProduct p.id { productId := some pushed.productId })
      pure pushed) := by
  simp only [pushProduct, Records.updateProduct_eq, onStore_commit]

theorem pushPrice_eq (product : CatalogProduct) (p : CatalogPrice) :
    (pushPrice product p : Billing σ Unit) = (do
      let pushed ← Billing.onProvider (Provider.syncPrice p product)
      let _ ← Billing.transact (updatePrice p.id { priceId := some pushed.priceId })
      pure ()) := by
  simp only [pushPrice, Records.updatePrice_eq, onStore_commit]

end CatalogSync

end OnePiece

/-! ### Steps -/

/-- What a transaction of the services does to the store. -/
inductive ServiceStep (s s' : Store) : Prop
  /-- The default price is found or made. -/
  | defaultPrice {p : CatalogPrice} (h : Commits getOrCreateDefaultPrice s p s')
  /-- An organization gets its customer. -/
  | holdCustomer {id : Uuid} {customer : String} {r : Unit}
      (h : Commits (setOrganizationCustomer id customer) s r s')
  /-- The provider's id of a product is noted. -/
  | noteProduct {id : Uuid} {productId : Option String} {r : CatalogProduct}
      (h : Commits (updateProduct id { productId := some productId }) s r s')
  /-- The provider's id of a price is noted. -/
  | notePrice {id : Uuid} {priceId : Option String} {r : CatalogPrice}
      (h : Commits (updatePrice id { priceId := some priceId }) s r s')

/-- What the transactions of the services do to the store, one after another. -/
abbrev ServiceSteps : Store → Store → Prop := ReflTransGen ServiceStep

theorem ServiceStep.changes {s s' : Store} (h : ServiceStep s s') : Changes s s' := by
  cases h with
  | defaultPrice h => exact changes_getOrCreateDefaultPrice h
  | holdCustomer h => exact changes_setOrganizationCustomer h
  | noteProduct h => exact changes_updateProduct h
  | notePrice h => exact changes_updatePrice h

theorem ServiceSteps.changes {s s' : Store} (h : ServiceSteps s s') : Changes s s' :=
  keeps_of_steps (P := Changes s) (fun _ _ h ih => ih.trans h.changes) h .refl

variable [PaymentProvider σ]

/-! ### Checkouts

The database goes through steps, and the provider through what the requests to it make of it. -/

section Preparations

variable {Q : σ → σ → Prop} [IsPreorder σ Q]

theorem both_organizationCustomer {o : Organization}
    (hcreate : Moves Q (PaymentProvider.createCustomer o.name o.displayName : Call σ _)) :
    Moves (Both ServiceSteps Q) (Checkout.organizationCustomer o) := by
  rw [Checkout.organizationCustomer_eq]
  cases o.customerId with
  | some customer => exact moves_pure _
  | none =>
    refine .bind (both_read (reads_lockOrganizationCustomer _)) fun held => ?_
    cases held with
    | some customer => exact moves_pure _
    | none =>
      exact .bind (both_onProvider hcreate) fun _ =>
        .bind (both_transact fun _ _ _ h => .single (.holdCustomer h)) fun _ => moves_pure _

theorem both_pushedProduct (hproduct : ∀ p, Moves Q (Provider.syncProduct p : Call σ _))
    (price : CatalogPrice) : Moves (Both ServiceSteps Q) (Checkout.pushedProduct price) := by
  rw [Checkout.pushedProduct_eq]
  refine .bind (both_read (reads_lookup _)) fun found => ?_
  cases found with
  | none => exact moves_throw _
  | some product =>
    dsimp only
    split
    · exact .bind (both_onProvider (hproduct product)) fun _ =>
        both_transact fun _ _ _ h => .single (.noteProduct h)
    · exact moves_pure _

theorem both_defaultPrice (hproduct : ∀ p, Moves Q (Provider.syncProduct p : Call σ _))
    (hprice : ∀ p product, Moves Q (Provider.syncPrice p product : Call σ _)) :
    Moves (Both ServiceSteps Q) (Checkout.defaultPrice : Billing σ CatalogPrice) := by
  rw [Checkout.defaultPrice_eq]
  refine .bind (both_transact fun _ _ _ h => .single (.defaultPrice h)) fun price => ?_
  split
  · exact moves_pure _
  · exact .bind (both_pushedProduct hproduct price) fun product =>
      .bind (both_onProvider (hprice price product)) fun _ =>
      both_transact fun _ _ _ h => .single (.notePrice h)

end Preparations

/-- Nothing is demanded of the provider. -/
instance isPreorder_true : IsPreorder σ fun _ _ => True where
  refl _ := trivial
  trans _ _ _ _ _ := trivial

theorem moves_organizationCustomer (o : Organization) :
    Moves (OnStore ServiceSteps) (Checkout.organizationCustomer o : Billing σ String) :=
  fun w => (both_organizationCustomer (Q := fun _ _ => True) (fun _ => trivial) w).store

theorem moves_defaultPrice :
    Moves (OnStore ServiceSteps) (Checkout.defaultPrice : Billing σ CatalogPrice) :=
  fun w => (both_defaultPrice (Q := fun _ _ => True) (fun _ _ => trivial)
    (fun _ _ _ => trivial) w).store

/-! ### Sync runs -/

namespace CatalogSync

theorem moves_pushProduct (p : CatalogProduct) :
    Moves (OnStore ServiceSteps) (pushProduct p : Billing σ CatalogProduct) := by
  rw [pushProduct_eq]
  exact .bind (moves_onProvider _) fun _ =>
    .bind (moves_transact fun _ _ _ h => .single (.noteProduct h)) fun _ => moves_pure _

theorem moves_pushPrice (product : CatalogProduct) (p : CatalogPrice) :
    Moves (OnStore ServiceSteps) (pushPrice product p : Billing σ Unit) := by
  rw [pushPrice_eq]
  exact .bind (moves_onProvider _) fun _ =>
    .bind (moves_transact fun _ _ _ h => .single (.notePrice h)) fun _ => moves_pure _

theorem moves_pushPrices (force : Bool) (product : CatalogProduct) (ps : List CatalogPrice)
    (summary : SyncSummary) :
    Moves (OnStore ServiceSteps) (pushPrices force product summary ps : Billing σ SyncSummary) := by
  induction ps generalizing summary with
  | nil => exact moves_pure _
  | cons p ps ih =>
    unfold pushPrices
    split
    · exact ih _
    · exact .bind (moves_pushPrice product p) fun _ => ih _

theorem moves_pushProducts (force : Bool) (prices : List CatalogPrice) (ps : List CatalogProduct)
    (summary : SyncSummary) :
    Moves (OnStore ServiceSteps) (pushProducts force prices summary ps : Billing σ SyncSummary) := by
  induction ps generalizing summary with
  | nil => exact moves_pure _
  | cons p ps ih =>
    unfold pushProducts
    split
    · exact .bind (moves_pushProduct p) fun _ => .bind (moves_pushPrices _ _ _ _) fun _ => ih _
    · exact ih _

theorem moves_run {c : Collation} (order : c.Arrangement CatalogProduct.name) (force : Bool) :
    Moves (OnStore ServiceSteps) (run order force : Billing σ SyncSummary) :=
  .bind (moves_read (reads_lookup _)) fun _ =>
    .bind (moves_read (reads_lookup _)) fun _ => moves_pushProducts _ _ _ _

end CatalogSync

end OrgBilling
