import OrgBilling.Proofs.Keys
import OrgBilling.Proofs.Webhook.Once

/-!
# The status that updates leave behind

Events that tell the status of a subscription are applied in the order in which they come. The time
at which an event happened plays no part in it, so the status is that of the event that came last
(`status_of_last_delivery`), and an event that is delivered late undoes what a newer one said
(`not_status_of_newest`).

An event whose id the ledger cannot hold is never applied (`handle_of_not_isRecordable`).
-/

namespace OrgBilling.Webhook

open Store Transaction

variable {s s' : Store} {x : String} {y : Subscription} {e : Event}

/-- A provider id is known: it leads to one row, which is `y`. -/
structure Known (x : String) (y : Subscription) (s : Store) : Prop where
  storable : isStorable x = true
  row : s.subscriptions.rows.filter (·.subscriptionId == x) = [y]

/-- The event tells that a subscription has been updated to a status. -/
structure Event.Updates (e : Event) (x : String) (status : SubscriptionStatus) : Prop where
  type : e.type = subscriptionUpdated
  action : Action.ofEvent e = .ok (.updateStatus x status)

/-- The ledger can hold the id of the event. -/
def Event.isRecordable (e : Event) : Bool :=
  isStorable e.id && (Index.refusal? Ledger.eventIndex [e.id]).isNone

/-! ### One call -/

theorem Known.congr (h : Known x y s) (hs : s'.subscriptions = s.subscriptions) : Known x y s' :=
  ⟨h.storable, by rw [hs]; exact h.row⟩

theorem Known.find (h : Known x y s) : Commits (findSubscription x) s (some y.id) s :=
  commits_findSubscription.2 ⟨h.storable, rfl, .inr ⟨y, h.row, rfl⟩⟩

/-- A subscription that is known stays known when its status is set. -/
theorem Known.setStatusIfKnown (h : Known x y s) (status : SubscriptionStatus) :
    ∃ s', (setStatusIfKnown x status).on s = (.ok (), s') ∧ Known x { y with status } s' := by
  have mem : y ∈ s.subscriptions.rows.filter (·.subscriptionId == x) := by simp [h.row]
  have known : s.subscription? y.id ≠ none := fun hnone => by
    simpa using List.find?_eq_none.1 hnone y (List.mem_filter.1 mem).1
  obtain ⟨s', set, hrows⟩ : ∃ s', Commits (Store.setStatus y.id status) s () s' ∧
      s'.subscriptions.rows =
        s.subscriptions.rows.map fun z => if z.id = y.id then { z with status } else z :=
    ⟨_, commits_setStatus.2 ⟨known, rfl⟩, rfl⟩
  refine ⟨s', ?_, h.storable, ?_⟩
  · rw [Webhook.setStatusIfKnown, Call.on_bind, commit_ok h.find]
    show (Records.setStatus y.id status).on s = _
    rw [Records.setStatus_eq, commit_ok set]
  · rw [hrows, List.filter_map,
      beq_comp_change (f := Subscription.subscriptionId) (fun z => { z with status })
        (fun _ _ => rfl), h.row]
    simp

/-- An event that has not been delivered before and that the ledger can hold sets the status. -/
theorem Known.handle {status : SubscriptionStatus} (h : Known x y s) (update : e.Updates x status)
    (new : Ledger.row? e.id s = none) (recordable : e.isRecordable = true) (now : Int) :
    Known x { y with status } ((handle now e).on s).2 := by
  obtain ⟨hid, hindex⟩ := Bool.and_eq_true_iff.1 recordable
  have htype : isStorable e.type = true := by rw [update.type]; decide
  obtain ⟨s₁, claim⟩ : ∃ s₁, Commits (Ledger.claim now e.id e.type) s true s₁ :=
    ⟨_, commits_claim.2 ⟨hid, htype, .inl ⟨new, Option.isNone_iff_eq_none.1 hindex, rfl, rfl⟩⟩⟩
  have h₁ : Known x y s₁ := h.congr (by rw [Ledger.tables_claim claim])
  obtain ⟨s₂, set, h₂⟩ := h₁.setStatusIfKnown status
  have process : (process e).on s₁ = (.ok (.updateStatus x status), s₂) := by
    rw [Webhook.process, update.action, Call.on_bind, Action.apply, set]
    rfl
  rw [(Handling.applied claim process).on_eq]
  exact h₂.congr rfl

/-- An event that has not been delivered before and that the ledger cannot hold is refused. -/
theorem handle_of_not_isRecordable (new : Ledger.row? e.id s = none) (h : e.isRecordable = false)
    (now : Int) : ∃ cause, (handle now e).on s = (.error (.database cause), s) := by
  have refused (cause : DatabaseError)
      (claim : (Ledger.claim now e.id e.type).run s = .error (.database cause)) :
      ∃ cause, (Webhook.handle now e).on s = (.error (.database cause), s) :=
    ⟨cause, (Handling.refused claim).on_eq⟩
  by_cases texts : ∀ text ∈ [e.id, e.type], isStorable text = true
  · have hid : isStorable e.id = true := texts e.id (by simp)
    obtain ⟨cause, hcause⟩ : ∃ cause, Index.refusal? Ledger.eventIndex [e.id] = some cause := by
      simpa [Event.isRecordable, hid, Option.isSome_iff_exists] using h
    exact refused cause (Ledger.run_claim_of_refusal hid (texts e.type (by simp)) new hcause)
  · refine refused .zeroCharacter (run_bind_of_error ?_)
    rw [requireTexts, require, if_neg (by simpa using texts)]
    rfl

/-- What an event that has not been delivered before does to the status. -/
theorem Known.handle_new {status : SubscriptionStatus} (h : Known x y s)
    (update : e.Updates x status) (new : Ledger.row? e.id s = none) (now : Int) :
    Known x { y with status := if e.isRecordable then status else y.status }
      ((Webhook.handle now e).on s).2 := by
  cases recordable : e.isRecordable with
  | true => exact h.handle update new recordable now
  | false =>
    obtain ⟨cause, hcause⟩ := handle_of_not_isRecordable new recordable now
    rw [hcause]
    exact h

/-! ### Runs -/

/-- The status that the last event tells that the ledger can hold, or the old status. -/
def lastStatus (status : Event → SubscriptionStatus) (old : SubscriptionStatus) (es : List Event) :
    SubscriptionStatus :=
  ((es.filter (·.isRecordable)).getLast?.map status).getD old

theorem lastStatus_cons (status : Event → SubscriptionStatus) (old : SubscriptionStatus) (e : Event)
    (es : List Event) : lastStatus status old (e :: es) =
      lastStatus status (if e.isRecordable then status e else old) es := by
  unfold lastStatus
  cases recordable : e.isRecordable with
  | false => rw [List.filter_cons_of_neg (by simp [recordable])]; rfl
  | true =>
    rw [List.filter_cons_of_pos recordable, List.getLast?_cons]
    cases (es.filter (·.isRecordable)).getLast? <;> rfl

variable {σ : Type} [PaymentProvider σ] {w : World σ}

/-- The last event delivered sets the status. Of a subscription that is known, let updates be
delivered that have different ids and have not been delivered before, in whatever order and whenever
they happened. Then the subscription has the status that the last of them tells that the ledger can
hold, and keeps the status that it had if the ledger can hold none of them. An event that the ledger
cannot hold is refused with an error of the database, and changes nothing. -/
theorem status_of_last_delivery {status : Event → SubscriptionStatus} (h : Known x y w.store)
    (calls : List (Int × Event)) (updates : ∀ c ∈ calls, c.2.Updates x (status c.2))
    (ids : (calls.map (·.2.id)).Nodup) (new : ∀ c ∈ calls, Ledger.row? c.2.id w.store = none) :
    Known x { y with status := lastStatus status y.status (calls.map (·.2)) }
      (afterAll w (calls.map fun c => .handle c.1 c.2)).store ∧
    ∀ e : Event, e.isRecordable = false → ∀ s, Ledger.row? e.id s = none → ∀ now,
      ∃ cause, (handle now e).on s = (.error (.database cause), s) := by
  refine ⟨?_, fun e he s new now => handle_of_not_isRecordable new he now⟩
  -- One delivery after another: the ids of the later events are others, so they stay new.
  induction calls generalizing w y with
  | nil => exact h
  | cons c calls ih =>
    obtain ⟨hc, hcalls⟩ := List.nodup_cons.1 ids
    obtain ⟨update, updates⟩ := List.forall_mem_cons.1 updates
    obtain ⟨newFirst, newLater⟩ := List.forall_mem_cons.1 new
    rw [List.map_cons, lastStatus_cons]
    refine ih (w := (Operation.handle c.1 c.2).after w) (h.handle_new update newFirst c.1) updates
      hcalls fun c' hc' => ?_
    have hne : c'.2.id ≠ c.2.id := fun hid => hc (List.mem_map.2 ⟨c', hc', hid⟩)
    exact ((handling_on c.1 c.2 w.store).row?_ne hne).trans (newLater c' hc')

/-- A database with a subscription. -/
def subscribed : World Provider.Sandbox :=
  afterAll ⟨.empty, .fresh⟩
    [.insertOrganization ⟨"acme", "Acme", "Company", true, none, some "cus_1", 0⟩,
      .addSubscription "cus_1" "sub_1"]

/-- Its subscription. -/
def subscribedRow : Subscription := ⟨.row 4 1, "cus_1", "sub_1", .row 3 1, .active⟩

/-- An update of the subscription. -/
def updateAt (created : Int) (id status : String) : Event :=
  ⟨id, subscriptionUpdated, created, .object [("id", .string "sub_1"), ("status", .string status)]⟩

theorem updates_updateAt (created : Int) (id : String) (status : SubscriptionStatus) :
    (updateAt created id status.name).Updates "sub_1" status := by
  refine ⟨rfl, ?_⟩
  cases status <;> rfl

/-- An update and an older one that is delivered after it: the older one sets the status. -/
theorem status_of_last_delivery_of_late :
    Known "sub_1" { subscribedRow with status := .pastDue }
      (afterAll subscribed
        [.handle 0 (updateAt 200 "evt_2" "canceled"),
          .handle 1 (updateAt 100 "evt_1" "past_due")]).store := by
  have known : Known "sub_1" subscribedRow subscribed.store := ⟨by decide, by decide⟩
  let status (e : Event) : SubscriptionStatus := if e.created = 100 then .pastDue else .canceled
  have updates : ∀ c ∈ [((0 : Int), updateAt 200 "evt_2" "canceled"),
      (1, updateAt 100 "evt_1" "past_due")], c.2.Updates "sub_1" (status c.2) := by
    simp only [List.forall_mem_cons]
    exact ⟨updates_updateAt 200 "evt_2" .canceled, updates_updateAt 100 "evt_1" .pastDue, by simp⟩
  exact (status_of_last_delivery known _ updates (by decide) (by decide)).1

/-- The status need not be the one that the newest event tells: an older event that is delivered
after it sets its own. -/
theorem not_status_of_newest :
    ¬ ∀ (w : World Provider.Sandbox) (x : String) (y : Subscription)
      (status : Event → SubscriptionStatus) (es : List Event) (newest : Event),
      Reachable w → Known x y w.store → (∀ e ∈ es, e.Updates x (status e)) →
      (es.map (·.id)).Nodup → (∀ e ∈ es, Ledger.row? e.id w.store = none) →
      (es.map (·.created)).Nodup → newest ∈ es → (∀ e ∈ es, e.created ≤ newest.created) →
      ∀ calls : List (Int × Event), (calls.map (·.2)).Perm es →
        Known x { y with status := status newest }
          (afterAll w (calls.map fun c => .handle c.1 c.2)).store := by
  intro h
  let newer := updateAt 200 "evt_2" "canceled"
  let older := updateAt 100 "evt_1" "past_due"
  let status (e : Event) : SubscriptionStatus := if e.created = 100 then .pastDue else .canceled
  have updates : ∀ e ∈ [newer, older], e.Updates "sub_1" (status e) := by
    simp only [List.forall_mem_cons]
    exact ⟨updates_updateAt 200 "evt_2" .canceled, updates_updateAt 100 "evt_1" .pastDue, by simp⟩
  have reachable : Reachable subscribed := (Reachable.empty _).afterAll _
  have claimed := h subscribed "sub_1" subscribedRow status [newer, older] newer reachable
    ⟨by decide, by decide⟩ updates (by decide) (by decide) (by decide) (by simp) (by decide)
    [(0, newer), (1, older)] (.refl _)
  exact absurd claimed.row (by decide)

end OrgBilling.Webhook
