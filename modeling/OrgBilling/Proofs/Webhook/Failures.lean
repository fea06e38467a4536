import OrgBilling.Proofs.Webhook.Handling
import OrgBilling.Proofs.Webhook.Texts

/-!
# Why handling an event fails

An event that is not understood is not supported; everything else that goes wrong is a matter of the
database, with three exceptions. An action that is about a provider subscription which several rows
have does not know which one is meant, and a completed checkout of a new subscription needs a single
active price and an organization that holds the customer. `Action.Fault` lists these ways to fail
with what they say about the store; `Handling.fault` carries them over to a call that handles an
event.
-/

namespace OrgBilling

open Store Transaction

variable {α β : Type} {s s' : Store}

/-! ### Transactions that only the database lets fail -/

theorem Transaction.run_bind_error {t : Transaction α} {f : α → Transaction β} {e : BillingError}
    (h : (t >>= f).run s = .error e) :
    t.run s = .error e ∨ ∃ a u, Commits t s a u ∧ (f a).run u = .error e := by
  rw [StateT.run_bind] at h
  cases hr : t.run s with
  | error e' =>
    rw [hr] at h
    cases h
    exact .inl rfl
  | ok r =>
    rw [hr] at h
    exact .inr ⟨r.1, r.2, hr, h⟩

/-- Where the transaction fails, the database has refused something, in words that can be stored. -/
def Transaction.FailsInDatabase (t : Transaction α) : Prop :=
  ∀ s e, t.run s = .error e → ∃ cause, e = .database cause ∧ cause.quoted.all isStorable = true

namespace Transaction.FailsInDatabase

theorem pure (a : α) : FailsInDatabase (pure a) := fun _ _ h => by cases h

theorem get : FailsInDatabase get := fun _ _ h => by cases h

theorem set (s : Store) : FailsInDatabase (set s) := fun _ _ h => by cases h

theorem fail {cause : DatabaseError} (h : cause.quoted.all isStorable = true) :
    FailsInDatabase (fail cause : Transaction α) := by
  intro s e he
  cases he
  exact ⟨cause, rfl, h⟩

theorem bind {t : Transaction α} {f : α → Transaction β} (ht : FailsInDatabase t)
    (hf : ∀ a, FailsInDatabase (f a)) : FailsInDatabase (t >>= f) := by
  intro s e h
  rcases run_bind_error h with h | ⟨a, u, -, h⟩
  · exact ht s e h
  · exact hf a u e h

theorem require {cause : DatabaseError} (h : cause.quoted.all isStorable = true) (c : Bool) :
    FailsInDatabase (require c cause) := by
  unfold Transaction.require
  split
  · exact pure ()
  · exact fail h

theorem requireTexts (texts : List String) : FailsInDatabase (requireTexts texts) :=
  require (by decide) _

theorem requireIndexable {index : String} (hindex : isStorable index = true)
    (texts : List String) : FailsInDatabase (requireIndexable index texts) := by
  unfold Transaction.requireIndexable
  split
  · next hcause => exact fail (quoted_refusal hindex hcause)
  · exact pure ()

end Transaction.FailsInDatabase

open Transaction (FailsInDatabase)

theorem failsInDatabase_insertProduct (name description : String)
    (productId taxCode : Option String) :
    FailsInDatabase (insertProduct name description productId taxCode) :=
  .bind (.requireTexts _) fun _ => .bind .get fun _ => .bind (.set _) fun _ => .pure _

theorem failsInDatabase_requirePrice (p : CatalogPrice) : FailsInDatabase (requirePrice p) :=
  .bind (.require (by decide) _) fun _ => .bind .get fun _ => .require (by decide) _

theorem failsInDatabase_insertPrice (priceId : Option String) (currency : String) (product : Uuid)
    (unitAmount : Int) (recurring : Interval) (taxBehavior : Option String) :
    FailsInDatabase (insertPrice priceId currency product unitAmount recurring taxBehavior) :=
  .bind .get fun _ => .bind (.requireTexts _) fun _ => .bind (failsInDatabase_requirePrice _)
    fun _ => .bind (.set _) fun _ => .pure _

theorem failsInDatabase_insertSubscription (customer subscription : String) (price : Uuid)
    (status : SubscriptionStatus) :
    FailsInDatabase (insertSubscription customer subscription price status) :=
  .bind (.requireTexts _) fun _ => .bind .get fun _ => .bind (.require (by decide) _) fun _ =>
    .bind (.requireIndexable (by decide) _) fun _ => .bind (.require (by decide) _) fun _ =>
    .bind (.require (by decide) _) fun _ => .bind (.set _) fun _ => .pure _

theorem failsInDatabase_insertLink (organization subscription : Uuid) :
    FailsInDatabase (insertLink organization subscription) :=
  .bind .get fun _ => .bind (.require (by decide) _) fun _ =>
    .bind (.require (by decide) _) fun _ => .bind (.require (by decide) _) fun _ => .set _

theorem failsInDatabase_insertItem (subscription price : Uuid) (quantity : Int) :
    FailsInDatabase (insertItem subscription price quantity) :=
  .bind .get fun _ => .bind (.require (by decide) _) fun _ =>
    .bind (.require (by decide) _) fun _ => .bind (.require (by decide) _) fun _ => .set _

/-- Only the database refuses the rows of a new subscription once its holder is known. -/
theorem failsInDatabase_insertRows (customer subscription : String) (price organization : Uuid) :
    FailsInDatabase (do
      let sub ← insertSubscription customer subscription price .active
      insertLink organization sub.id
      insertItem sub.id price 1
      pure sub) :=
  .bind (failsInDatabase_insertSubscription _ _ _ _) fun sub =>
    .bind (failsInDatabase_insertLink organization sub.id) fun _ =>
    .bind (failsInDatabase_insertItem sub.id price 1) fun _ => .pure _

theorem failsInDatabase_deleteCustomer (customer : String) :
    FailsInDatabase (deleteCustomer customer) := by
  refine .bind (.requireTexts _) fun _ => .bind .get fun s => .bind (.set _) fun _ =>
    .bind ?_ fun _ => .pure _
  exact .bind (.requireTexts _) fun _ => .bind .get fun _ =>
    .bind (.require (by decide) _) fun _ => .set _

theorem failsInDatabase_claim (now : Int) (eventId eventType : String) :
    FailsInDatabase (Ledger.claim now eventId eventType) := by
  refine .bind (.requireTexts _) fun _ => .bind .get fun s => ?_
  split
  · exact .bind (.requireIndexable (by decide) _) fun _ => .bind (.set _) fun _ => .pure _
  · dsimp only
    split
    · exact .bind (.set _) fun _ => .pure _
    · exact .pure _

/-! ### Transactions that fail for other reasons -/

/-- Several rows have the provider subscription. -/
def Store.IsAmbiguous (x : String) (s : Store) : Prop :=
  2 ≤ (s.subscriptions.rows.filter (·.subscriptionId == x)).length

theorem findSubscription_error {x : String} {e : BillingError}
    (h : (findSubscription x).run s = .error e) :
    (∃ cause, e = .database cause) ∨
      e = .invalidInput (.ambiguousSubscription x) ∧ s.IsAmbiguous x := by
  rcases run_bind_error h with htexts | ⟨_, u, htexts, hfound⟩
  · obtain ⟨cause, rfl, -⟩ := FailsInDatabase.requireTexts _ s e htexts
    exact .inl ⟨cause, rfl⟩
  · rw [(commits_requireTexts.1 htexts).2, run_get_bind] at hfound
    match hrows : s.subscriptions.rows.filter (·.subscriptionId == x) with
    | [] => rw [hrows] at hfound; cases hfound
    | [_] => rw [hrows] at hfound; cases hfound
    | _ :: _ :: _ =>
      rw [hrows] at hfound
      cases hfound
      exact .inr ⟨rfl, by simp [IsAmbiguous, hrows]⟩

theorem getOrCreateDefaultPrice_error {e : BillingError}
    (h : getOrCreateDefaultPrice.run s = .error e) :
    e = .internal .severalActivePrices ∧ 2 ≤ s.activePrices.length := by
  by_cases single : s.activePrices.length ≤ 1
  · obtain ⟨p, hactive⟩ := exists_activePrices_bootstrapped single
    have hcommits : getOrCreateDefaultPrice.run s = .ok _ := commits_default_iff.2 ⟨hactive, rfl⟩
    rw [hcommits] at h
    cases h
  · match hp : s.activePrices with
    | [] | [_] => simp [hp] at single
    | _ :: _ :: _ =>
      rw [getOrCreateDefaultPrice, run_get_bind, hp] at h
      cases h
      exact ⟨rfl, by simp⟩

theorem insertLinkedSubscription_error {customer subscription : String} {price : Uuid}
    {e : BillingError} (h : (insertLinkedSubscription customer subscription price).run s = .error e) :
    (∃ cause, e = .database cause) ∨
      e = .notFound (.customerHolder customer) ∧ s.holder? customer = none := by
  rcases run_bind_error h with htexts | ⟨_, u, htexts, hrows⟩
  · obtain ⟨cause, rfl, -⟩ := FailsInDatabase.requireTexts _ s e htexts
    exact .inl ⟨cause, rfl⟩
  · rw [(commits_requireTexts.1 htexts).2, run_get_bind] at hrows
    cases ho : s.holder? customer with
    | none =>
      rw [ho] at hrows
      cases hrows
      exact .inr ⟨rfl, rfl⟩
    | some o =>
      rw [ho] at hrows
      obtain ⟨cause, rfl, -⟩ := failsInDatabase_insertRows customer subscription price o.id s e hrows
      exact .inl ⟨cause, rfl⟩

/-! ### Actions -/

namespace Webhook

/-- The provider subscription that an action is about. -/
def Action.subscription? : Action → Option String
  | .completeCheckout _ subscription => some subscription
  | .updateStatus subscription _ => some subscription
  | .cancelSubscription subscription => some subscription
  | .deleteCustomer _ => none
  | .ignore _ => none

/-- The ways in which an action can fail on a store. -/
inductive Action.Fault (s : Store) : Action → BillingError → Prop
  /-- The database refuses something. -/
  | database (a : Action) (cause : DatabaseError) : Fault s a (.database cause)
  /-- Several rows have the subscription that the action is about. -/
  | ambiguous {a : Action} {x : String} (subject : a.subscription? = some x)
      (several : s.IsAmbiguous x) : Fault s a (.invalidInput (.ambiguousSubscription x))
  /-- There is no single price to put a new subscription on. -/
  | severalPrices (customer subscription : String) (several : 2 ≤ s.activePrices.length) :
      Fault s (.completeCheckout customer subscription) (.internal .severalActivePrices)
  /-- Nobody holds the customer of a new subscription. -/
  | nobody {customer : String} (subscription : String) (unheld : s.holder? customer = none) :
      Fault s (.completeCheckout customer subscription) (.notFound (.customerHolder customer))

theorem setStatus_of_findSubscription {x : String} {id : Uuid}
    (h : Commits (findSubscription x) s (some id) s') (status : SubscriptionStatus) :
    ∃ u, Commits (Store.setStatus id status) s' () u := by
  obtain ⟨-, rfl, ⟨-, hnone⟩ | ⟨row, hrows, hid⟩⟩ := commits_findSubscription.1 h
  · cases hnone
  · have hmem : row ∈ s'.subscriptions.rows :=
      (List.mem_filter.1 (hrows ▸ List.mem_singleton_self row)).1
    refine ⟨_, commits_setStatus.2 ⟨?_, rfl⟩⟩
    simpa [subscription?, Option.some.inj hid] using ⟨row, hmem, rfl⟩

theorem setStatus_error {x : String} {id : Uuid} {status : SubscriptionStatus} {e : BillingError}
    {u : Store} (hfound : (commit (findSubscription x)).on s = (.ok (some id), s')) :
    (Records.setStatus id status).on s' ≠ (.error e, u) := by
  rw [Records.setStatus_eq]
  obtain ⟨_, hcommits⟩ := setStatus_of_findSubscription (commit_on_ok hfound) status
  rw [commit_ok hcommits]
  exact fun h => by cases h

theorem fault_of_findSubscription {a : Action} {x : String} {e : BillingError}
    (subject : a.subscription? = some x)
    (h : (commit (findSubscription x)).on s = (.error e, s')) : a.Fault s e := by
  rcases findSubscription_error (run_of_commit_error h) with ⟨cause, rfl⟩ | ⟨rfl, several⟩
  · exact .database a cause
  · exact .ambiguous subject several

theorem fault_of_setStatusIfKnown {a : Action} {x : String} {status : SubscriptionStatus}
    {e : BillingError} (subject : a.subscription? = some x)
    (h : (setStatusIfKnown x status).on s = (.error e, s')) : a.Fault s e := by
  rcases Call.on_bind_error h with h | ⟨found, u, hfound, h⟩
  · exact fault_of_findSubscription subject h
  · cases found with
    | some id => exact absurd h (setStatus_error hfound)
    | none => cases h

/-- What the default price leaves alone is enough to see who holds a customer. -/
theorem fault_of_addSubscription {customer subscription : String} {e : BillingError}
    (h : (addSubscription customer subscription).on s = (.error e, s')) :
    Action.Fault s (.completeCheckout customer subscription) e := by
  rw [addSubscription_eq] at h
  rcases Call.on_bind_error h with h | ⟨p, u, hp, h⟩
  · obtain ⟨rfl, several⟩ := getOrCreateDefaultPrice_error (run_of_commit_error h)
    exact .severalPrices customer subscription several
  · obtain ⟨_, _, rfl⟩ := catalog_of_default (commit_on_ok hp)
    rcases insertLinkedSubscription_error (run_of_commit_error h) with ⟨cause, rfl⟩ | ⟨rfl, unheld⟩
    · exact .database _ cause
    · exact .nobody subscription unheld

/-- An action that fails has one of the faults. -/
theorem fault_of_apply {a : Action} {e : BillingError} (h : a.apply.on s = (.error e, s')) :
    a.Fault s e := by
  cases a with
  | completeCheckout customer subscription =>
    rcases Call.on_bind_error h with h | ⟨found, u, hfound, h⟩
    · exact fault_of_findSubscription rfl h
    · cases found with
      | some id => exact absurd h (setStatus_error hfound)
      | none =>
        rw [findSubscription_on_ok hfound] at h
        rcases Call.on_bind_error h with h | ⟨_, _, _, h⟩
        · exact fault_of_addSubscription h
        · cases h
  | updateStatus subscription status => exact fault_of_setStatusIfKnown rfl h
  | cancelSubscription subscription => exact fault_of_setStatusIfKnown rfl h
  | deleteCustomer customer =>
    rcases Call.on_bind_error h with h | ⟨_, _, _, h⟩
    · obtain ⟨cause, rfl, -⟩ := failsInDatabase_deleteCustomer customer s e
        (run_of_eq_commit (Records.deleteCustomer_eq customer) h)
      exact .database _ cause
    · cases h
  | ignore eventType => cases h

/-! ### Events -/

/-- The ways in which handling an event can fail on a store. -/
inductive Fault (e : Event) (s : Store) (err : BillingError) : Prop
  /-- The database refuses something. -/
  | database (cause : DatabaseError) (h : err = .database cause)
  /-- The event is not supported. -/
  | notSupported (problem : EventProblem) (event : Action.ofEvent e = .error err)
      (h : err = .eventNotSupported problem)
  /-- The event's action fails. -/
  | action (a : Action) (event : Action.ofEvent e = .ok a) (h : a.Fault s err)

theorem fault_of_process {e : Event} {err : BillingError}
    (h : (process e).on s = (.error err, s')) : Fault e s err := by
  unfold process at h
  cases ha : Action.ofEvent e with
  | ok a =>
    rw [ha] at h
    rcases Call.on_bind_error h with h | ⟨_, _, _, h⟩
    · exact .action a ha (fault_of_apply h)
    · cases h
  | error err' =>
    rw [ha] at h
    cases h
    obtain ⟨problem, rfl⟩ := Action.notSupported_of_ofEvent ha
    exact .notSupported problem ha rfl

/-- The ledger does not count. -/
theorem Fault.of_ledger {e : Event} {err : BillingError} {deliveries : List Delivery}
    (h : Fault e { s with deliveries } err) : Fault e s err := by
  cases h with
  | database cause h => exact .database cause h
  | notSupported problem event h => exact .notSupported problem event h
  | action a event h =>
    refine .action a event ?_
    cases h with
    | database a cause => exact .database a cause
    | ambiguous subject several => exact .ambiguous subject several
    | severalPrices customer subscription several => exact .severalPrices customer subscription several
    | nobody subscription unheld => exact .nobody subscription unheld

/-- A call that handles an event and fails has one of the faults. -/
theorem Handling.fault {now : Int} {e : Event} {err : BillingError}
    (h : Handling now e s (.error err) s') : Fault e s err := by
  have processed {s₁ s₂ : Store} {err : BillingError}
      (claim : Commits (Ledger.claim now e.id e.type) s true s₁)
      (process : (process e).on s₁ = (.error err, s₂)) : Fault e s err := by
    have := fault_of_process process
    rw [Ledger.tables_claim claim] at this
    exact this.of_ledger
  cases h with
  | refused claim =>
    obtain ⟨cause, rfl, -⟩ := failsInDatabase_claim now e.id e.type s err claim
    exact .database cause rfl
  | failed claim process storable => exact processed claim process
  | unrecorded claim process notStorable => exact .database .zeroCharacter rfl

end Webhook

end OrgBilling
