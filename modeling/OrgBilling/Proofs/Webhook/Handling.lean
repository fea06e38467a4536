import OrgBilling.Proofs.Records
import OrgBilling.Proofs.Store.Ledger
import OrgBilling.Webhook.Handler

/-!
# How handling an event goes

`Handling` lists the ways in which handling an event can go; every call goes one of them
(`handling_on`), and which one it goes determines how it ends (`Handling.on_eq`). The actions of
events only change the tables besides the ledger (`moves_process`), and an action that fails has at
most made the default price (`process_error`).
-/

namespace OrgBilling

open Store Transaction Relation

variable {s s' : Store}

/-! ### Actions -/

/-- What a computation that fails can have done: nothing, or it has made the default price. -/
def AtMostDefaultPrice (s s' : Store) : Prop :=
  s' = s ∨ s.activePrices = [] ∧ s' = s.withDefaultPrice

/-- What a transaction of an event's action does to the store. -/
inductive ActionStep (s s' : Store) : Prop
  /-- The default price is found or made. -/
  | defaultPrice {p : CatalogPrice} (h : Commits getOrCreateDefaultPrice s p s')
  /-- The holder of a customer gets a subscription. -/
  | subscribe {customer subscription : String} {price : Uuid} {sub : Subscription}
      (h : Commits (insertLinkedSubscription customer subscription price) s sub s')
  /-- A subscription has another status. -/
  | setStatus {id : Uuid} {status : SubscriptionStatus} {r : Unit}
      (h : Commits (Store.setStatus id status) s r s')
  /-- A customer is removed. -/
  | deleteCustomer {customer : String} {n : Nat} (h : Commits (Store.deleteCustomer customer) s n s')

/-- What the transactions of an action do to the store, one after another. -/
abbrev ActionSteps : Store → Store → Prop := ReflTransGen ActionStep

theorem ActionStep.changes (h : ActionStep s s') : Changes s s' := by
  cases h with
  | defaultPrice h => exact changes_getOrCreateDefaultPrice h
  | subscribe h => exact changes_insertLinkedSubscription h
  | setStatus h => exact changes_setStatus h
  | deleteCustomer h => exact changes_deleteCustomer h

theorem ActionSteps.changes (h : ActionSteps s s') : Changes s s' :=
  keeps_of_steps (P := Changes s) (fun _ _ h ih => ih.trans h.changes) h .refl

theorem addSubscription_eq (customer subscription : String) :
    addSubscription customer subscription = (do
      let price ← commit getOrCreateDefaultPrice
      commit (insertLinkedSubscription customer subscription price.id)) := by
  simp only [addSubscription, Records.getOrCreateDefaultPrice_eq,
    Records.insertLinkedSubscription_eq]

theorem moves_addSubscription (customer subscription : String) :
    Moves ActionSteps (addSubscription customer subscription) := by
  rw [addSubscription_eq]
  exact .bind (moves_commit fun _ _ _ h => .single (.defaultPrice h)) fun _ =>
    moves_commit fun _ _ _ h => .single (.subscribe h)

theorem moves_setStatus (id : Uuid) (status : SubscriptionStatus) :
    Moves ActionSteps (Records.setStatus id status) :=
  moves_of_eq_commit (Records.setStatus_eq id status) fun _ _ _ h => .single (.setStatus h)

theorem moves_deleteCustomer (customer : String) :
    Moves ActionSteps (Records.deleteCustomer customer) :=
  moves_of_eq_commit (Records.deleteCustomer_eq customer) fun _ _ _ h => .single (.deleteCustomer h)

theorem addSubscription_error {customer subscription : String} {e : BillingError}
    (h : (addSubscription customer subscription).on s = (.error e, s')) : AtMostDefaultPrice s s' := by
  rw [addSubscription_eq] at h
  rcases Call.on_bind_error h with h | ⟨p, u, hp, h⟩
  · exact .inl (commit_on_error h)
  · cases commit_on_error h
    exact (commits_getOrCreateDefaultPrice.1 (commit_on_ok hp)).imp And.right fun h => ⟨h.1, h.2.1⟩

namespace Webhook

theorem moves_findSubscription (subscription : String) :
    Moves ActionSteps (commit (findSubscription subscription)) :=
  moves_commit fun _ _ _ h => by rw [(commits_findSubscription.1 h).2.1]

theorem moves_setStatusIfKnown (subscription : String) (status : SubscriptionStatus) :
    Moves ActionSteps (setStatusIfKnown subscription status) := by
  refine .bind (moves_findSubscription _) fun found => ?_
  cases found with
  | some id => exact moves_setStatus id _
  | none => exact moves_pure _

theorem moves_apply (a : Action) : Moves ActionSteps a.apply := by
  cases a with
  | completeCheckout customer subscription =>
    refine .bind (moves_findSubscription _) fun found => ?_
    cases found with
    | some id => exact moves_setStatus id _
    | none => exact .bind (moves_addSubscription _ _) fun _ => moves_pure _
  | updateStatus subscription status => exact moves_setStatusIfKnown _ _
  | cancelSubscription subscription => exact moves_setStatusIfKnown _ _
  | deleteCustomer customer =>
    exact .bind (moves_deleteCustomer customer) fun _ => moves_pure _
  | ignore eventType => exact moves_pure _

theorem moves_process (e : Event) : Moves ActionSteps (process e) := by
  unfold process
  cases Action.ofEvent e with
  | ok a => exact .bind (moves_apply a) fun _ => moves_pure _
  | error err => exact moves_throw _

section Process

variable {e : Event} {r : Except BillingError Action}

theorem steps_process (h : (process e).on s = (r, s')) : ActionSteps s s' := by
  simpa [h] using (moves_process e).on s

theorem changes_process (h : (process e).on s = (r, s')) : Changes s s' :=
  (steps_process h).changes

/-- Processing an event does not touch the ledger. -/
theorem deliveries_process (h : (process e).on s = (r, s')) : s'.deliveries = s.deliveries :=
  (changes_process h).deliveries

/-- An event that is processed asks for an action, which is applied. -/
theorem process_ok {a : Action} (h : (process e).on s = (.ok a, s')) :
    Action.ofEvent e = .ok a ∧ a.apply.on s = (.ok (), s') := by
  unfold process at h
  cases ha : Action.ofEvent e with
  | ok b =>
    rw [ha] at h
    obtain ⟨_, u, happly, hpure⟩ := Call.on_bind_ok h
    cases hpure
    exact ⟨rfl, happly⟩
  | error err =>
    rw [ha] at h
    cases h

end Process

theorem findSubscription_on_ok {subscription : String} {r : Option Uuid}
    (h : (commit (findSubscription subscription)).on s = (.ok r, s')) : s' = s :=
  (commits_findSubscription.1 (commit_on_ok h)).2.1

theorem setStatusIfKnown_error {subscription : String} {status : SubscriptionStatus}
    {e : BillingError} (h : (setStatusIfKnown subscription status).on s = (.error e, s')) :
    s' = s := by
  rcases Call.on_bind_error h with h | ⟨found, u, hfound, h⟩
  · exact commit_on_error h
  · rw [← findSubscription_on_ok hfound]
    cases found with
    | some id => exact unchanged_of_eq_commit (Records.setStatus_eq id status) h
    | none => cases h

theorem apply_error {a : Action} {e : BillingError} (h : a.apply.on s = (.error e, s')) :
    AtMostDefaultPrice s s' := by
  cases a with
  | completeCheckout customer subscription =>
    rcases Call.on_bind_error h with h | ⟨found, u, hfound, h⟩
    · exact .inl (commit_on_error h)
    · rw [← findSubscription_on_ok hfound]
      cases found with
      | some id => exact .inl (unchanged_of_eq_commit (Records.setStatus_eq id _) h)
      | none =>
        rcases Call.on_bind_error h with h | ⟨_, _, _, h⟩
        · exact addSubscription_error h
        · cases h
  | updateStatus subscription status => exact .inl (setStatusIfKnown_error h)
  | cancelSubscription subscription => exact .inl (setStatusIfKnown_error h)
  | deleteCustomer customer =>
    rcases Call.on_bind_error h with h | ⟨_, _, _, h⟩
    · exact .inl (unchanged_of_eq_commit (Records.deleteCustomer_eq customer) h)
    · cases h
  | ignore eventType => cases h

/-- An event whose processing fails has at most made the default price. -/
theorem process_error {e : Event} {err : BillingError}
    (h : (process e).on s = (.error err, s')) : AtMostDefaultPrice s s' := by
  unfold process at h
  cases ha : Action.ofEvent e with
  | ok a =>
    rw [ha] at h
    rcases Call.on_bind_error h with h | ⟨_, _, _, h⟩
    · exact apply_error h
    · cases h
  | error err' =>
    rw [ha] at h
    cases h
    exact .inl rfl

/-! ### Attempts -/

/-- The ways in which handling an event can go. -/
inductive Handling (now : Int) (e : Event) (s : Store) :
    Except BillingError HandlingResult → Store → Prop
  /-- The event cannot be claimed. -/
  | refused {err : BillingError} (claim : (Ledger.claim now e.id e.type).run s = .error err) :
      Handling now e s (.error err) s
  /-- Another attempt stands in the way. -/
  | duplicate (claim : Commits (Ledger.claim now e.id e.type) s false s) :
      Handling now e s (.ok .duplicate) s
  /-- The event's action is applied, and the ledger says so. -/
  | applied {a : Action} {s₁ s₂ : Store} (claim : Commits (Ledger.claim now e.id e.type) s true s₁)
      (process : (process e).on s₁ = (.ok a, s₂)) :
      Handling now e s (.ok (.applied a)) (Ledger.recorded e.id .success none s₂)
  /-- Processing the event fails, and the ledger says how. -/
  | failed {err : BillingError} {s₁ s₂ : Store}
      (claim : Commits (Ledger.claim now e.id e.type) s true s₁)
      (process : (process e).on s₁ = (.error err, s₂)) (storable : isStorable err.message = true) :
      Handling now e s (.error err) (Ledger.recorded e.id .failed (some err.message) s₂)
  /-- Processing the event fails, and the ledger cannot hold how. -/
  | unrecorded {err : BillingError} {s₁ s₂ : Store}
      (claim : Commits (Ledger.claim now e.id e.type) s true s₁)
      (process : (process e).on s₁ = (.error err, s₂)) (notStorable : isStorable err.message = false) :
      Handling now e s (.error (.database .zeroCharacter)) s₂

theorem isStorable_of_claim {now : Int} {eventId eventType : String} {r : Bool}
    (h : Commits (Ledger.claim now eventId eventType) s r s') : isStorable eventId = true :=
  (commits_claim.1 h).1

theorem record_on {eventId : String} {state : DeliveryState} {errorMessage : Option String}
    (hid : isStorable eventId = true)
    (ht : ∀ text, errorMessage = some text → isStorable text = true) :
    (record eventId state errorMessage).on s =
      (.ok (), Ledger.recorded eventId state errorMessage s) := by
  have h : Commits (Ledger.recordResult eventId state errorMessage) s () _ :=
    commits_recordResult.2 ⟨⟨hid, ht⟩, rfl⟩
  rw [record, Call.on_tryCatch, commit_ok h]

theorem record_on_error {eventId text : String} {state : DeliveryState} (h : isStorable text = false) :
    (record eventId state (some text)).on s = (.error (.database .zeroCharacter), s) := by
  have h : (Ledger.recordResult eventId state (some text)).run s =
      .error (.database .zeroCharacter) := by
    simp [Ledger.recordResult, requireTexts, require, h]
    rfl
  rw [record, Call.on_tryCatch, commit_error h]
  exact commit_error h

theorem Handling.on_eq {now : Int} {e : Event} {r : Except BillingError HandlingResult}
    (h : Handling now e s r s') : (handle now e).on s = (r, s') := by
  rw [handle, Call.on_bind]
  cases h with
  | refused claim => rw [commit_error claim]
  | duplicate claim => rw [commit_ok claim]; rfl
  | applied claim process =>
    have recorded (u : Store) : (record e.id .success none).on u =
        (.ok (), Ledger.recorded e.id .success none u) :=
      record_on (isStorable_of_claim claim) (by simp)
    rw [commit_ok claim]
    simp only [if_true, Call.on_bind, Call.on_attempt, process, recorded]
    rfl
  | @failed err _ _ claim process storable =>
    have recorded (u : Store) : (record e.id .failed (some err.message)).on u =
        (.ok (), Ledger.recorded e.id .failed (some err.message) u) :=
      record_on (isStorable_of_claim claim) (by simpa using storable)
    rw [commit_ok claim]
    simp only [if_true, Call.on_bind, Call.on_attempt, process, recorded]
    rfl
  | unrecorded claim process notStorable =>
    rw [commit_ok claim]
    simp only [if_true, Call.on_bind, Call.on_attempt, process, record_on_error notStorable]

/-- Every call goes one of the ways of `Handling`. -/
theorem exists_handling (now : Int) (e : Event) (s : Store) : ∃ r s', Handling now e s r s' := by
  rcases commit_cases (Ledger.claim now e.id e.type) s with ⟨b, s₁, claim, -⟩ | ⟨err, claim, -⟩
  · cases b with
    | false =>
      have : s₁ = s := by
        rcases commits_claim.1 claim with ⟨-, -, ⟨-, -, h, -⟩ | ⟨_, -, ⟨-, h, -⟩ | ⟨-, -, h⟩⟩⟩
        · cases h
        · cases h
        · exact h
      exact ⟨_, _, .duplicate (this ▸ claim)⟩
    | true =>
      cases hp : (process e).on s₁ with | _ r s₂ => ?_
      cases r with
      | ok a => exact ⟨_, _, .applied claim hp⟩
      | error err =>
        cases hm : isStorable err.message with
        | true => exact ⟨_, _, .failed claim hp hm⟩
        | false => exact ⟨_, _, .unrecorded claim hp hm⟩
  · exact ⟨_, _, .refused claim⟩

theorem handling_on (now : Int) (e : Event) (s : Store) :
    Handling now e s ((handle now e).on s).1 ((handle now e).on s).2 := by
  obtain ⟨r, s', h⟩ := exists_handling now e s
  rwa [h.on_eq]

theorem Handling.of_on {now : Int} {e : Event} {r : Except BillingError HandlingResult}
    (h : (handle now e).on s = (r, s')) : Handling now e s r s' := by
  have := handling_on now e s
  rwa [h] at this

/-- What processing events and writes to the ledger keep, handling an event keeps. -/
theorem Handling.keeps_of_process {P : Store → Prop}
    (process : ∀ e s r s', (process e).on s = (r, s') → P s → P s')
    (ledger : ∀ s deliveries, P s → P { s with deliveries }) {now : Int} {e : Event}
    {r : Except BillingError HandlingResult} (h : Handling now e s r s') (hs : P s) : P s' := by
  have claimed {s₁ : Store} (claim : Commits (Ledger.claim now e.id e.type) s true s₁) : P s₁ := by
    rw [Ledger.tables_claim claim]
    exact ledger s _ hs
  cases h with
  | refused claim => exact hs
  | duplicate claim => exact hs
  | applied claim hp => exact ledger _ _ (process _ _ _ _ hp (claimed claim))
  | failed claim hp storable => exact ledger _ _ (process _ _ _ _ hp (claimed claim))
  | unrecorded claim hp notStorable => exact process _ _ _ _ hp (claimed claim)

/-- What the steps of actions and writes to the ledger keep, handling an event keeps. -/
theorem Handling.keeps {P : Store → Prop} (step : ∀ s s', ActionStep s s' → P s → P s')
    (ledger : ∀ s deliveries, P s → P { s with deliveries }) {now : Int} {e : Event}
    {r : Except BillingError HandlingResult} (h : Handling now e s r s') (hs : P s) : P s' :=
  h.keeps_of_process (fun _ _ _ _ hp => keeps_of_steps step (steps_process hp)) ledger hs

theorem Handling.evolves {now : Int} {e : Event} {r : Except BillingError HandlingResult}
    (h : Handling now e s r s') : Evolves s s' := by
  have processed {s₁ s₂ : Store} {a : Except BillingError Action}
      (claim : Commits (Ledger.claim now e.id e.type) s true s₁)
      (process : (process e).on s₁ = (a, s₂)) : Evolves s s₂ :=
    (evolves_claim claim).trans (changes_process process).evolves
  cases h with
  | refused claim => exact .refl
  | duplicate claim => exact .refl
  | applied claim process =>
    exact (processed claim process).trans (evolves_recorded _ _ (by simp) _)
  | failed claim process storable =>
    exact (processed claim process).trans (evolves_recorded _ _ (by simp) _)
  | unrecorded claim process notStorable => exact processed claim process

theorem moves_handle (now : Int) (e : Event) : Moves Evolves (handle now e) :=
  fun s => (handling_on now e s).evolves

/-! ### A checkout -/

/-- A database in which an organization holds a customer. -/
def held : Store :=
  { Store.empty with
    organizations :=
      ⟨[⟨.row 1 1, "acme", "Acme", .company, true, none, none, some "cus_1", 0⟩], 1⟩ }

theorem evolves_held : Evolves .empty held := by
  have inserted : Commits
      (insertOrganization ⟨"acme", "Acme", "Company", true, none, some "cus_1", 0⟩) .empty
      (.row 1 1) held := rfl
  exact (changes_insertOrganization inserted).evolves

/-- The customer completes a checkout. -/
def completion : Event :=
  ⟨"evt_1", checkoutCompleted, 0, .object
    [("status", .string "complete"), ("customer", .string "cus_1"),
      ("subscription", .string "sub_1")]⟩

/-- What the completion comes to: the default price, and a subscription on it. -/
def completed : Store :=
  { held.withDefaultPrice with
    subscriptions := ⟨[⟨.row 4 1, "cus_1", "sub_1", .row 3 1, .active⟩], 1⟩
    links := ⟨[⟨.row 5 1, .row 1 1, .row 4 1⟩], 1⟩
    items := ⟨[⟨.row 6 1, none, .row 4 1, .row 3 1, 1⟩], 1⟩
    deliveries := [⟨.row 7 1, "evt_1", checkoutCompleted, .success, none, 0, 0⟩] }

/-- The row of the completion once it has been claimed. -/
def completionUnderWay : Delivery :=
  ⟨.row 7 1, "evt_1", checkoutCompleted, .processing, none, 0, 0⟩

/-- Whatever else an event says, it is the completion if it has its id and asks for the same. -/
theorem handling_of_completion {e : Event} (id : e.id = "evt_1") (type : e.type = checkoutCompleted)
    (event : Action.ofEvent e = .ok (.completeCheckout "cus_1" "sub_1")) :
    Handling 0 e held (.ok (.applied (.completeCheckout "cus_1" "sub_1"))) completed := by
  have claim : Commits (Ledger.claim 0 e.id e.type) held true
      { held with deliveries := [completionUnderWay] } := by
    rw [id, type]
    rfl
  have process : (process e).on { held with deliveries := [completionUnderWay] } =
      (.ok (.completeCheckout "cus_1" "sub_1"),
        { completed with deliveries := [completionUnderWay] }) := by
    rw [Webhook.process, event]
    rfl
  have handling := Handling.applied claim process
  rwa [id] at handling

theorem handling_completion : Handling 0 completion held
    (.ok (.applied (.completeCheckout "cus_1" "sub_1"))) completed :=
  handling_of_completion rfl rfl rfl

end Webhook

end OrgBilling
