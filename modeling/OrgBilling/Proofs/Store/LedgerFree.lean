import OrgBilling.Proofs.Store.Effect

/-!
# Transactions that do not look at the ledger

`LedgerFree` says of a transaction that the ledger means nothing to it: on a store with another
ledger it ends with the same result or the same error, and with the same store but for the ledger,
which stays as it is. This is more than can be read off what the transaction does when it commits,
since it is about errors too.

A transaction reads the whole store before it looks at a table of it, so the two runs go on as two
transactions that have read different stores. `Alike` compares such two, and the lemmas on it follow
the steps that a transaction is made of.

`IgnoresLedger` says the same of a computation, which is put together from such transactions.
-/

namespace OrgBilling.Store

open Transaction

/-- The store with another ledger. -/
def withLedger (ledger : List Delivery) (s : Store) : Store :=
  { s with deliveries := ledger }

variable {α β : Type} {ledger : List Delivery} {s : Store}

@[simp] theorem subscriptions_withLedger :
    (s.withLedger ledger).subscriptions = s.subscriptions := rfl

@[simp] theorem activePrices_withLedger : (s.withLedger ledger).activePrices = s.activePrices := rfl

@[simp] theorem holder?_withLedger (customer : String) :
    (s.withLedger ledger).holder? customer = s.holder? customer := rfl

/-! ### Two transactions on two stores -/

/-- On the store with another ledger one transaction does what the other one does on the store. -/
def Alike (ledger : List Delivery) (s : Store) (t u : Transaction α) : Prop :=
  u.run (s.withLedger ledger) = (t.run s).map fun r => (r.1, r.2.withLedger ledger)

namespace Alike

theorem set (s' : Store) : Alike ledger s (set s') (set (s'.withLedger ledger)) := rfl

theorem bind {t u : Transaction α} {f g : α → Transaction β} (h : Alike ledger s t u)
    (hfg : ∀ a s', Alike ledger s' (f a) (g a)) : Alike ledger s (t >>= f) (u >>= g) := by
  unfold Alike at h ⊢
  rw [StateT.run_bind, StateT.run_bind, h]
  cases t.run s with
  | error e => rfl
  | ok r => exact hfg r.1 r.2

theorem get_bind {f g : Store → Transaction α}
    (h : Alike ledger s (f s) (g (s.withLedger ledger))) :
    Alike ledger s (get >>= f) (get >>= g) := by
  unfold Alike at h ⊢
  rw [run_get_bind, run_get_bind, h]

theorem ite {p : Prop} [Decidable p] {t u t' u' : Transaction α} (ht : p → Alike ledger s t t')
    (hu : ¬ p → Alike ledger s u u') :
    Alike ledger s (if p then t else u) (if p then t' else u') := by
  by_cases hp : p
  · rw [if_pos hp, if_pos hp]
    exact ht hp
  · rw [if_neg hp, if_neg hp]
    exact hu hp

end Alike

/-! ### One transaction on two stores -/

/-- The ledger means nothing to the transaction. -/
def LedgerFree (t : Transaction α) : Prop :=
  ∀ ledger s, Alike ledger s t t

namespace LedgerFree

theorem pure (a : α) : LedgerFree (pure a) := fun _ _ => rfl

theorem throw (e : BillingError) : LedgerFree (throw e : Transaction α) := fun _ _ => rfl

theorem bind {t : Transaction α} {f : α → Transaction β} (ht : LedgerFree t)
    (hf : ∀ a, LedgerFree (f a)) : LedgerFree (t >>= f) :=
  fun ledger s => (ht ledger s).bind fun a s' => hf a ledger s'

theorem get_bind {f : Store → Transaction α}
    (h : ∀ ledger s, Alike ledger s (f s) (f (s.withLedger ledger))) : LedgerFree (get >>= f) :=
  fun ledger s => (h ledger s).get_bind

theorem require (c : Bool) (cause : DatabaseError) : LedgerFree (require c cause) := by
  cases c with
  | true => exact pure ()
  | false => exact throw _

theorem requireTexts (texts : List String) : LedgerFree (requireTexts texts) :=
  require _ _

theorem requireIndexable (index : String) (texts : List String) :
    LedgerFree (requireIndexable index texts) := by
  unfold Transaction.requireIndexable
  cases Index.refusal? index texts with
  | none => exact pure ()
  | some cause => exact throw _

/-- The transaction ends with what it has read or written. -/
theorem set_bind {f : Transaction α} (hf : LedgerFree f) (s' : Store) :
    Alike ledger s (do set s'; f) (do set (s'.withLedger ledger); f) :=
  (Alike.set s').bind fun _ s'' => hf ledger s''

end LedgerFree

/-! ### The transactions of events -/

theorem ledgerFree_findSubscription (subscription : String) :
    LedgerFree (findSubscription subscription) := by
  refine (LedgerFree.requireTexts _).bind fun _ => .get_bind fun ledger s => ?_
  simp only [subscriptions_withLedger]
  generalize s.subscriptions.rows.filter (·.subscriptionId == subscription) = found
  match found with
  | [] => exact LedgerFree.pure _ ledger s
  | [_] => exact LedgerFree.pure _ ledger s
  | _ :: _ :: _ => exact LedgerFree.throw _ ledger s

theorem ledgerFree_setStatus (id : Uuid) (status : SubscriptionStatus) :
    LedgerFree (setStatus id status) := by
  refine .get_bind fun ledger s => ?_
  exact .ite (fun _ => (LedgerFree.throw _ ledger s).bind fun _ _ => .set _) fun _ => .set _

theorem ledgerFree_releaseCustomer (customer : String) : LedgerFree (releaseCustomer customer) := by
  refine (LedgerFree.requireTexts _).bind fun _ => .get_bind fun ledger s => ?_
  exact (LedgerFree.require _ _ ledger s).bind fun _ _ => .set _

theorem ledgerFree_deleteCustomer (customer : String) : LedgerFree (deleteCustomer customer) := by
  refine (LedgerFree.requireTexts _).bind fun _ => .get_bind fun ledger s => ?_
  exact ((ledgerFree_releaseCustomer customer).bind fun _ => .pure _).set_bind _

theorem ledgerFree_insertProduct (name description : String) (productId taxCode : Option String) :
    LedgerFree (insertProduct name description productId taxCode) := by
  refine (LedgerFree.requireTexts _).bind fun _ => .get_bind fun ledger s => ?_
  exact (LedgerFree.pure _).set_bind _

theorem ledgerFree_requirePrice (p : CatalogPrice) : LedgerFree (requirePrice p) := by
  refine (LedgerFree.require _ _).bind fun _ => ?_
  exact .get_bind fun ledger s => LedgerFree.require _ _ ledger s

theorem ledgerFree_insertPrice (priceId : Option String) (currency : String) (product : Uuid)
    (unitAmount : Int) (recurring : Interval) (taxBehavior : Option String) :
    LedgerFree (insertPrice priceId currency product unitAmount recurring taxBehavior) := by
  refine .get_bind fun ledger s => ?_
  refine (LedgerFree.requireTexts _ ledger s).bind fun _ s' => ?_
  exact (ledgerFree_requirePrice _ ledger s').bind fun _ s' => (LedgerFree.pure _).set_bind _

theorem ledgerFree_getOrCreateDefaultPrice : LedgerFree getOrCreateDefaultPrice := by
  refine .get_bind fun ledger s => ?_
  simp only [activePrices_withLedger]
  generalize s.activePrices = found
  match found with
  | [] =>
    refine ((ledgerFree_insertProduct _ _ _ _).bind fun product => ?_) ledger s
    exact ledgerFree_insertPrice _ _ _ _ _ _
  | [price] => exact LedgerFree.pure price ledger s
  | _ :: _ :: _ => exact LedgerFree.throw _ ledger s

theorem ledgerFree_insertSubscription (customer subscription : String) (price : Uuid)
    (status : SubscriptionStatus) :
    LedgerFree (insertSubscription customer subscription price status) := by
  refine (LedgerFree.requireTexts _).bind fun _ => .get_bind fun ledger s => ?_
  refine (LedgerFree.require _ _ ledger s).bind fun _ s => ?_
  refine (LedgerFree.requireIndexable _ _ ledger s).bind fun _ s => ?_
  refine (LedgerFree.require _ _ ledger s).bind fun _ s => ?_
  refine (LedgerFree.require _ _ ledger s).bind fun _ s => ?_
  exact (LedgerFree.pure _).set_bind _

theorem ledgerFree_insertLink (organization subscription : Uuid) :
    LedgerFree (insertLink organization subscription) := by
  refine .get_bind fun ledger s => ?_
  refine (LedgerFree.require _ _ ledger s).bind fun _ s => ?_
  refine (LedgerFree.require _ _ ledger s).bind fun _ s => ?_
  exact (LedgerFree.require _ _ ledger s).bind fun _ _ => .set _

theorem ledgerFree_insertItem (subscription price : Uuid) (quantity : Int) :
    LedgerFree (insertItem subscription price quantity) := by
  refine .get_bind fun ledger s => ?_
  refine (LedgerFree.require _ _ ledger s).bind fun _ s => ?_
  refine (LedgerFree.require _ _ ledger s).bind fun _ s => ?_
  exact (LedgerFree.require _ _ ledger s).bind fun _ _ => .set _

theorem ledgerFree_insertLinkedSubscription (customer subscription : String) (price : Uuid) :
    LedgerFree (insertLinkedSubscription customer subscription price) := by
  refine (LedgerFree.requireTexts _).bind fun _ => .get_bind fun ledger s => ?_
  simp only [holder?_withLedger]
  cases s.holder? customer with
  | none => exact LedgerFree.throw _ ledger s
  | some o =>
    refine LedgerFree.bind (ledgerFree_insertSubscription _ _ _ _) (fun sub => ?_) ledger s
    refine (ledgerFree_insertLink _ _).bind fun _ => ?_
    exact (ledgerFree_insertItem _ _ _).bind fun _ => .pure _

/-! ### Computations -/

/-- The ledger means nothing to the computation. -/
def IgnoresLedger (c : Call Store α) : Prop :=
  ∀ ledger s, c.on (s.withLedger ledger) = ((c.on s).1, (c.on s).2.withLedger ledger)

namespace IgnoresLedger

theorem pure (a : α) : IgnoresLedger (pure a) := fun _ _ => rfl

theorem throw (e : BillingError) : IgnoresLedger (throw e : Call Store α) := fun _ _ => rfl

theorem bind {c : Call Store α} {f : α → Call Store β} (hc : IgnoresLedger c)
    (hf : ∀ a, IgnoresLedger (f a)) : IgnoresLedger (c >>= f) := by
  intro ledger s
  rw [Call.on_bind, Call.on_bind, hc ledger s]
  cases c.on s with | _ r s' => ?_
  cases r with
  | ok a => exact hf a ledger s'
  | error e => rfl

theorem commit {t : Transaction α} (ht : LedgerFree t) : IgnoresLedger (commit t) := by
  intro ledger s
  have hrun : t.run (s.withLedger ledger) = _ := ht ledger s
  cases h : t.run s with
  | ok r =>
    rw [h] at hrun
    rw [commit_ok h, commit_ok hrun]
  | error e =>
    rw [h] at hrun
    rw [commit_error h, commit_error hrun]

/-- The computation leaves the ledger as it is. -/
theorem deliveries {c : Call Store α} (hc : IgnoresLedger c) (s : Store) :
    (c.on s).2.deliveries = s.deliveries :=
  congrArg (·.2.deliveries) (hc s.deliveries s)

end IgnoresLedger

end OrgBilling.Store
