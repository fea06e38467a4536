import OrgBilling.Proofs.Keys
import OrgBilling.Proofs.Store.Ledger
import OrgBilling.Proofs.Store.Schema
import OrgBilling.Webhook.Handler

/-!
# A machine that handles events

Of the database the handling of events needs to know only which customers are held, what the
subscriptions are, and which events have been applied. `Machine` keeps just that, and
`Machine.handle` says in a few lines what becomes of it. `Machine.ofStore` is what the machine sees
of a store; the lemmas `ofStore_*` say what it sees of the effects of the handler's transactions.

The machine has no tables, but it has to know what an index of a table refuses, since an event whose
id is too long is never handled. It takes that as a parameter.
-/

namespace OrgBilling.Webhook

open Store Transaction

/-- What handling events depends on. -/
structure Machine where
  /-- Some organization holds the customer. -/
  customers : String → Bool
  /-- The customer and the status of a subscription that is known. -/
  subscriptions : String → Option (String × SubscriptionStatus)
  /-- The event has been applied. -/
  applied : String → Bool

namespace Machine

/-- A subscription has the given customer and status. -/
def put (m : Machine) (subscription customer : String) (status : SubscriptionStatus) : Machine :=
  { m with subscriptions := Function.update m.subscriptions subscription (some (customer, status)) }

/-- A subscription that is known has the given status; its customer stays. -/
def setStatus (m : Machine) (subscription : String) (status : SubscriptionStatus) : Machine :=
  match m.subscriptions subscription with
  | some (customer, _) => m.put subscription customer status
  | none => m

/-- A customer and its subscriptions are gone. -/
def removeCustomer (m : Machine) (customer : String) : Machine :=
  { m with
    customers := Function.update m.customers customer false
    subscriptions := fun x => (m.subscriptions x).filter fun owner => owner.1 != customer }

section Handle

-- Why an index does not take a row of texts.
variable (refusal? : String → List String → Option DatabaseError)

/-- What becomes of the machine when an action is applied, or why the action fails. -/
def apply (m : Machine) : Action → Except BillingError Machine
  | .completeCheckout customer subscription =>
    match m.subscriptions subscription with
    | some (owner, _) => .ok (m.put subscription owner .active)
    | none =>
      if m.customers customer then
        match refusal? subscriptionIndex [customer, subscription] with
        | some cause => .error (.database cause)
        | none => .ok (m.put subscription customer .active)
      else .error (.notFound (.customerHolder customer))
  | .updateStatus subscription status => .ok (m.setStatus subscription status)
  | .cancelSubscription subscription => .ok (m.setStatus subscription .canceled)
  | .deleteCustomer customer => .ok (m.removeCustomer customer)
  | .ignore _ => .ok m

/-- The action that an event asks for, and what becomes of the machine when it is applied. -/
def process (m : Machine) (e : Event) : Except BillingError (Action × Machine) := do
  let a ← Action.ofEvent e
  let m' ← m.apply refusal? a
  return (a, m')

/-- How handling an event ends, and what becomes of the machine. -/
def handle (m : Machine) (e : Event) : Except BillingError HandlingResult × Machine :=
  if m.applied e.id then (.ok .duplicate, m)
  else
    match refusal? Ledger.eventIndex [e.id] with
    | some cause => (.error (.database cause), m)
    | none =>
      match m.process refusal? e with
      | .error err => (.error err, m)
      | .ok (a, m') => (.ok (.applied a), { m' with applied := Function.update m'.applied e.id true })

/-- How handling events one after another ends, and what becomes of the machine each time. -/
def history (m : Machine) : List Event → List (Except BillingError HandlingResult × Machine)
  | [] => []
  | e :: es => m.handle refusal? e :: history (m.handle refusal? e).2 es

end Handle

/-- What the machine sees of a store. -/
def ofStore (s : Store) : Machine where
  customers c := s.organizations.rows.any (holds c)
  subscriptions x :=
    (s.subscriptions.rows.find? (·.subscriptionId == x)).map fun y => (y.customerId, y.status)
  applied id := (Ledger.row? id s).any (·.state == .success)

/-! ### What the machine sees of effects -/

variable {s s' : Store}

theorem ext_of {m m' : Machine} (hc : ∀ c, m.customers c = m'.customers c)
    (hs : ∀ x, m.subscriptions x = m'.subscriptions x) (ha : ∀ id, m.applied id = m'.applied id) :
    m = m' := by
  cases m
  cases m'
  congr
  · exact funext hc
  · exact funext hs
  · exact funext ha

theorem customers_ofStore (s : Store) (c : String) :
    (ofStore s).customers c = (s.holder? c).isSome := by
  rw [Bool.eq_iff_iff]
  simp [ofStore, holder?]

/-- The machine sees a new status of one subscription. -/
theorem ofStore_setStatus (h : Schema s) (hd : (s.subscriptions.rows.map (·.subscriptionId)).Nodup)
    {y : Subscription} (hy : y ∈ s.subscriptions.rows) (status : SubscriptionStatus) :
    ofStore { s with
      subscriptions := s.subscriptions.map fun x => if x.id = y.id then { x with status } else x } =
      (ofStore s).put y.subscriptionId y.customerId status := by
  refine ext_of (fun _ => rfl) (fun k => ?_) fun _ => rfl
  have key : (fun x : Subscription => x.subscriptionId == k) ∘
      (fun x => if x.id = y.id then { x with status } else x) = fun x => x.subscriptionId == k := by
    funext x
    simp only [Function.comp]
    split <;> rfl
  simp only [ofStore, put, Table.rows_map, List.find?_map, key]
  by_cases hk : k = y.subscriptionId
  · subst hk
    simp [find?_of_nodup hd hy]
  · rw [Function.update_of_ne hk]
    cases hfind : s.subscriptions.rows.find? (·.subscriptionId == k) with
    | none => rfl
    | some x =>
      have hxk : x.subscriptionId = k := by simpa using List.find?_some hfind
      have hxy : x.id ≠ y.id := fun hid => hk <| by
        rw [← hxk, List.inj_on_of_nodup_map h.subscriptions (List.mem_of_find?_eq_some hfind) hy hid]
      simp [hxy]

/-- The machine sees a new subscription. -/
theorem ofStore_subscribe {x : String} (hx : s.subscriptions.rows.find? (·.subscriptionId == x) = none)
    (c : String) (price organization : Uuid) :
    ofStore (s.subscribe c x price organization) = (ofStore s).put x c .active := by
  refine ext_of (fun _ => rfl) (fun k => ?_) fun _ => rfl
  simp only [ofStore, put, subscribe, Table.rows_insert, List.find?_append]
  by_cases hk : k = x
  · subst hk
    simp [hx, Table.nextRow]
  · rw [Function.update_of_ne hk]
    simp [Table.nextRow, Ne.symm hk]

/-- The machine sees a customer go, and its subscriptions. -/
theorem ofStore_forgetCustomer (h : Schema s)
    (hd : (s.subscriptions.rows.map (·.subscriptionId)).Nodup) (c : String) :
    ofStore (s.forgetCustomer c) = (ofStore s).removeCustomer c := by
  refine ext_of (fun k => ?_) (fun k => ?_) fun _ => rfl
  · have hrows : (ofStore (s.forgetCustomer c)).customers k =
        s.organizations.rows.any fun o => holds k o && k != c := by
      simp only [ofStore, forgetCustomer, freeCustomer, dropSubscriptions, Table.rows_map,
        List.any_map, Function.comp_def, holds_freeRow]
    rw [hrows]
    by_cases hk : k = c
    · simp [removeCustomer, hk]
    · have hother : (k != c) = true := by simpa using hk
      simp only [hother, Bool.and_true, removeCustomer, Function.update_of_ne hk]
      rfl
  · have hrows : (s.forgetCustomer c).subscriptions.rows =
        s.subscriptions.rows.filter fun y => y.customerId != c :=
      congrArg Table.rows (h.subscriptions_forgetCustomer c)
    simp only [ofStore, removeCustomer, hrows]
    rw [find?_filter_of_nodup hd]
    cases s.subscriptions.rows.find? (·.subscriptionId == k) with
    | none => rfl
    | some y => cases hy : y.customerId != c <;> simp [Option.filter, hy]

/-- The machine does not see an attempt begin. -/
theorem ofStore_claim {now : Int} {eventId eventType : String}
    (h : Commits (Ledger.claim now eventId eventType) s true s')
    (hnot : (ofStore s).applied eventId = false) : ofStore s' = ofStore s := by
  have htables := Ledger.tables_claim h
  refine ext_of (fun _ => ?_) (fun _ => ?_) fun id => ?_
  · rw [htables]; rfl
  · rw [htables]; rfl
  · by_cases hid : id = eventId
    · subst hid
      obtain ⟨d, hd, hstate, -⟩ := Ledger.row?_claim h
      rw [hnot]
      simp [ofStore, hd, hstate]
    · simp only [ofStore, Ledger.row?_claim_ne h hid]

/-- The machine sees an attempt succeed. -/
theorem ofStore_recorded_success {id : String} {d : Delivery} (h : Ledger.row? id s = some d)
    (errorMessage : Option String) :
    ofStore (Ledger.recorded id .success errorMessage s) =
      { ofStore s with applied := Function.update (ofStore s).applied id true } := by
  refine ext_of (fun _ => rfl) (fun _ => rfl) fun k => ?_
  by_cases hk : k = id
  · subst hk
    simp [ofStore, Ledger.row?_recorded, h]
  · simp only [Function.update_of_ne hk, ofStore, Ledger.row?_recorded_ne _ _ _ hk]

/-- The machine does not see an attempt fail. -/
theorem ofStore_recorded_failed {id : String} (hnot : (ofStore s).applied id = false)
    (errorMessage : Option String) :
    ofStore (Ledger.recorded id .failed errorMessage s) = ofStore s := by
  refine ext_of (fun _ => rfl) (fun _ => rfl) fun k => ?_
  by_cases hk : k = id
  · subst hk
    rw [hnot]
    cases h : Ledger.row? k s <;> simp [ofStore, Ledger.row?_recorded, h]
  · simp only [ofStore, Ledger.row?_recorded_ne _ _ _ hk]

end Machine

end OrgBilling.Webhook
