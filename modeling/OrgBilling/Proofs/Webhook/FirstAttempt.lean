import OrgBilling.Proofs.Store.LedgerFree
import OrgBilling.Proofs.Store.Schema
import OrgBilling.Proofs.Webhook.Handling

/-!
# A retry is a first attempt

Of an attempt that failed or was given up the ledger keeps a row. A new attempt overwrites the row
where a first one would put a row in, and from there on the two cannot be told apart: processing the
event does not look at the ledger (`ignoresLedger_process`), and what is recorded at the end depends
on how the processing ended, and on nothing else (`handle_of_claim`). So the two come out the same
(`retry_eq_first_attempt`).

Two stores `Agree` but for the row of an event when nothing else tells them apart. `AgreeOnVerdict`
asks in addition that both rows say the same about how the event went; this is what the two attempts
have in common from the moment the event is claimed.

The ledger is not asked for a row before it has seen the event's texts. So an event whose type it
cannot hold is refused before anything else, and here a retry leaves behind the row that a first
attempt does not make.
-/

namespace OrgBilling

open Store Transaction

variable {s s' u v : Store}

namespace Store.Ledger

variable {id eventId : String}

/-! ### The rows of the other events -/

/-- The rows of the ledger that belong to other events. -/
def others (eventId : String) (s : Store) : List Delivery :=
  s.deliveries.filter (·.eventId != eventId)

/-- The store without the row of an event. -/
def forget (eventId : String) (s : Store) : Store :=
  s.withLedger (others eventId s)

theorem row?_forget (eventId : String) (s : Store) : row? eventId (forget eventId s) = none := by
  refine List.find?_eq_none.2 fun d hd => ?_
  simpa using (List.mem_filter.1 hd).2

theorem others_forget (eventId : String) (s : Store) :
    others eventId (forget eventId s) = others eventId s := by
  simp [others, forget, withLedger]

theorem others_congr (h : s'.deliveries = s.deliveries) : others eventId s' = others eventId s := by
  rw [others, h, others]

theorem others_change {f : Delivery → Delivery} (hf : ∀ d, (f d).eventId = d.eventId) (s : Store) :
    others eventId { s with deliveries := change eventId f s.deliveries } = others eventId s := by
  have keeps (d : Delivery) : (if d.eventId = eventId then f d else d).eventId = d.eventId :=
    apply_change (g := (·.eventId)) hf eventId d
  have hid : ∀ d ∈ others eventId s, (if d.eventId = eventId then f d else d) = d := by
    intro d hd
    exact if_neg (by simpa using (List.mem_filter.1 hd).2)
  show (change eventId f s.deliveries).filter _ = _
  rw [change, List.filter_map]
  have hp : ((·.eventId != eventId) ∘ fun d => if d.eventId = eventId then f d else d) =
      fun d : Delivery => d.eventId != eventId := by
    funext d
    simp only [Function.comp, keeps]
  rw [hp]
  exact (List.map_congr_left hid).trans (List.map_id _)

theorem others_claim {now : Int} {eventType : String} {r : Bool}
    (h : Commits (claim now eventId eventType) s r s') : others eventId s' = others eventId s := by
  rcases commits_claim.1 h with ⟨-, -, ⟨-, -, -, rfl⟩ | ⟨d, -, ⟨-, -, rfl⟩ | ⟨-, -, rfl⟩⟩⟩
  · simp [others]
  · exact others_change (f := restart now) (fun _ => rfl) s
  · rfl

theorem others_recorded (eventId : String) (state : DeliveryState) (errorMessage : Option String)
    (s : Store) : others eventId (recorded eventId state errorMessage s) = others eventId s :=
  others_change (f := fun d => { d with state, errorMessage }) (fun _ => rfl) s

/-! ### What a row says -/

/-- What the ledger says about how an event went. -/
def verdict? (eventId : String) (s : Store) : Option (DeliveryState × Option String) :=
  (row? eventId s).map fun d => (d.state, d.errorMessage)

theorem verdict?_congr (h : s'.deliveries = s.deliveries) : verdict? id s' = verdict? id s := by
  rw [verdict?, row?_congr h, verdict?]

theorem verdict?_claim {now : Int} {eventType : String}
    (h : Commits (claim now eventId eventType) s true s') :
    verdict? eventId s' = some (.processing, none) := by
  obtain ⟨d, hd, hstate, hmessage, -⟩ := row?_claim h
  rw [verdict?, hd, Option.map_some, hstate, hmessage]

theorem verdict?_recorded (eventId : String) (state : DeliveryState) (errorMessage : Option String)
    (s : Store) : verdict? eventId (recorded eventId state errorMessage s) =
      (verdict? eventId s).map fun _ => (state, errorMessage) := by
  rw [verdict?, row?_recorded, verdict?, Option.map_map, Option.map_map]
  rfl

/-! ### Rows that the database can hold -/

/-- The ids of the rows are texts that the ledger and its index can hold. -/
def Indexed (s : Store) : Prop :=
  ∀ d ∈ s.deliveries, isStorable d.eventId = true ∧ Index.refusal? eventIndex [d.eventId] = none

/-- In every state that an empty database evolves to, the ids of the rows can be held. -/
theorem Indexed.of_evolves (h : Evolves .empty s) : Indexed s :=
  fun d hd => ⟨(Schema.empty.evolves .empty h).eventText d hd, (Written.empty.evolves h).fits d hd⟩

/-! ### Stores that agree but for one row -/

/-- Two stores that agree but for the row of an event. -/
structure Agree (eventId : String) (s s' : Store) : Prop where
  tables : s = s'.withLedger s.deliveries
  others : others eventId s = others eventId s'

namespace Agree

theorem symm (h : Agree id s s') : Agree id s' s :=
  ⟨by rw [h.tables]; rfl, h.others.symm⟩

theorem trans (h : Agree id s u) (h' : Agree id u s') : Agree id s s' :=
  ⟨by rw [h.tables, h'.tables]; rfl, h.others.trans h'.others⟩

theorem forget (eventId : String) (s : Store) : Agree eventId s (forget eventId s) :=
  ⟨rfl, (others_forget eventId s).symm⟩

theorem claim {now : Int} {eventType : String} {r : Bool}
    (h : Commits (claim now eventId eventType) s r s') : Agree eventId s' s :=
  ⟨tables_claim h, others_claim h⟩

theorem recorded (eventId : String) (state : DeliveryState) (errorMessage : Option String)
    (s : Store) : Agree eventId (recorded eventId state errorMessage s) s :=
  ⟨rfl, others_recorded eventId state errorMessage s⟩

end Agree

/-- Two stores that agree but for the row of an event, of which both say the same. -/
structure AgreeOnVerdict (eventId : String) (s s' : Store) : Prop extends Agree eventId s s' where
  verdict : ∃ v, verdict? eventId s = some v ∧ verdict? eventId s' = some v

namespace AgreeOnVerdict

/-- A computation to which the ledger means nothing does not tell the stores apart. -/
theorem on {α : Type} {c : Call Store α} (h : AgreeOnVerdict id s s') (hc : IgnoresLedger c) :
    (c.on s).1 = (c.on s').1 ∧ AgreeOnVerdict id (c.on s).2 (c.on s').2 := by
  have hon : c.on s = ((c.on s').1, (c.on s').2.withLedger s.deliveries) := by
    have := hc s.deliveries s'
    rwa [← h.tables] at this
  have left := hc.deliveries s
  have right := hc.deliveries s'
  refine ⟨by rw [hon], ⟨⟨by rw [hon]; rfl, ?_⟩, ?_⟩⟩
  · rw [others_congr left, others_congr right]
    exact h.others
  · rw [verdict?_congr left, verdict?_congr right]
    exact h.verdict

theorem recorded (h : AgreeOnVerdict id s s') (state : DeliveryState)
    (errorMessage : Option String) :
    AgreeOnVerdict id (Ledger.recorded id state errorMessage s)
      (Ledger.recorded id state errorMessage s') :=
  { (Agree.recorded id state errorMessage s).trans
      (h.toAgree.trans (Agree.recorded id state errorMessage s').symm) with
    verdict := by
      obtain ⟨v, hv, hv'⟩ := h.verdict
      rw [verdict?_recorded, verdict?_recorded, hv, hv']
      exact ⟨(state, errorMessage), rfl, rfl⟩ }

end AgreeOnVerdict

end Store.Ledger

/-! ### Processing -/

theorem ignoresLedger_addSubscription (customer subscription : String) :
    IgnoresLedger (addSubscription customer subscription) := by
  rw [addSubscription_eq]
  exact (IgnoresLedger.commit ledgerFree_getOrCreateDefaultPrice).bind fun _ =>
    .commit (ledgerFree_insertLinkedSubscription _ _ _)

theorem ignoresLedger_setStatus (id : Uuid) (status : SubscriptionStatus) :
    IgnoresLedger (Records.setStatus id status) := by
  rw [Records.setStatus_eq]
  exact .commit (ledgerFree_setStatus id status)

theorem ignoresLedger_deleteCustomer (customer : String) :
    IgnoresLedger (Records.deleteCustomer customer) := by
  rw [Records.deleteCustomer_eq]
  exact .commit (ledgerFree_deleteCustomer customer)

namespace Webhook

theorem ignoresLedger_setStatusIfKnown (subscription : String) (status : SubscriptionStatus) :
    IgnoresLedger (setStatusIfKnown subscription status) := by
  refine (IgnoresLedger.commit (ledgerFree_findSubscription _)).bind fun found => ?_
  cases found with
  | some id => exact ignoresLedger_setStatus id status
  | none => exact .pure _

theorem ignoresLedger_apply (a : Action) : IgnoresLedger a.apply := by
  cases a with
  | completeCheckout customer subscription =>
    refine (IgnoresLedger.commit (ledgerFree_findSubscription _)).bind fun found => ?_
    cases found with
    | some id => exact ignoresLedger_setStatus id .active
    | none => exact (ignoresLedger_addSubscription _ _).bind fun _ => .pure _
  | updateStatus subscription status => exact ignoresLedger_setStatusIfKnown _ _
  | cancelSubscription subscription => exact ignoresLedger_setStatusIfKnown _ _
  | deleteCustomer customer =>
    exact (ignoresLedger_deleteCustomer customer).bind fun _ => .pure _
  | ignore eventType => exact .pure _

/-- Processing an event does not look at the ledger. -/
theorem ignoresLedger_process (e : Event) : IgnoresLedger (process e) := by
  unfold process
  cases Action.ofEvent e with
  | ok a => exact (ignoresLedger_apply a).bind fun _ => .pure _
  | error err => exact .throw err

/-! ### Two attempts -/

/-- How a call ends, and the store it leaves, when processing its event has ended. -/
def concluded (eventId : String) :
    Except BillingError Action × Store → Except BillingError HandlingResult × Store
  | (.ok a, s) => (.ok (.applied a), Ledger.recorded eventId .success none s)
  | (.error err, s) =>
    if isStorable err.message then
      (.error err, Ledger.recorded eventId .failed (some err.message) s)
    else (.error (.database .zeroCharacter), s)

/-- A call that has claimed its event goes on without a look at what was there before. -/
theorem handle_of_claim {now : Int} {e : Event}
    (claim : Commits (Ledger.claim now e.id e.type) s true u) :
    (handle now e).on s = concluded e.id ((process e).on u) := by
  cases hp : (process e).on u with | _ r v => ?_
  cases r with
  | ok a => exact (Handling.applied claim hp).on_eq
  | error err =>
    rw [concluded]
    cases hm : isStorable err.message with
    | true => exact (Handling.failed claim hp hm).on_eq
    | false => exact (Handling.unrecorded claim hp hm).on_eq

/-- Processing that ended the same way is concluded the same way. -/
theorem concluded_agree {id : String} (h : Ledger.AgreeOnVerdict id u v)
    (r : Except BillingError Action) :
    (concluded id (r, u)).1 = (concluded id (r, v)).1 ∧
      Ledger.AgreeOnVerdict id (concluded id (r, u)).2 (concluded id (r, v)).2 := by
  cases r with
  | ok a => exact ⟨rfl, h.recorded .success none⟩
  | error err =>
    rw [concluded, concluded]
    split
    · exact ⟨rfl, h.recorded .failed (some err.message)⟩
    · exact ⟨rfl, h⟩

/-- Two calls that have claimed the event in stores that agree but for its row end the same way. -/
theorem handle_agree {now before : Int} {e : Event} (h : Ledger.Agree e.id s s')
    (claim : Commits (Ledger.claim now e.id e.type) s true u)
    (claim' : Commits (Ledger.claim before e.id e.type) s' true v) :
    ((handle now e).on s).1 = ((handle before e).on s').1 ∧
      Ledger.AgreeOnVerdict e.id ((handle now e).on s).2 ((handle before e).on s').2 := by
  have claimed : Ledger.AgreeOnVerdict e.id u v :=
    { (Ledger.Agree.claim claim).trans (h.trans (Ledger.Agree.claim claim').symm) with
      verdict := ⟨_, Ledger.verdict?_claim claim, Ledger.verdict?_claim claim'⟩ }
  obtain ⟨outcome, processed⟩ := claimed.on (ignoresLedger_process e)
  rw [handle_of_claim claim, handle_of_claim claim']
  cases hu : (process e).on u with | _ r u' => ?_
  cases hv : (process e).on v with | _ r' v' => ?_
  rw [hu, hv] at outcome processed
  cases outcome
  exact concluded_agree processed r

/-- An event is refused for a type that the ledger cannot hold, whatever the ledger says. -/
theorem handle_of_type {e : Event} (htype : isStorable e.type = false) (now : Int) (s : Store) :
    (handle now e).on s = (.error (.database .zeroCharacter), s) := by
  have claim : (Ledger.claim now e.id e.type).run s = .error (.database .zeroCharacter) := by
    refine run_bind_of_error ?_
    simp [requireTexts, require, htype]
    rfl
  exact (Handling.refused claim).on_eq

/-- Handling an event leaves the rows of other events alone. -/
theorem others_handle (now : Int) (e : Event) (s : Store) :
    Ledger.others e.id ((handle now e).on s).2 = Ledger.others e.id s := by
  cases hh : (handle now e).on s with | _ r s' => ?_
  cases Handling.of_on hh with
  | refused claim => rfl
  | duplicate claim => rfl
  | applied claim process =>
    rw [Ledger.others_recorded, Ledger.others_congr (deliveries_process process),
      Ledger.others_claim claim]
  | failed claim process storable =>
    rw [Ledger.others_recorded, Ledger.others_congr (deliveries_process process),
      Ledger.others_claim claim]
  | unrecorded claim process notStorable =>
    rw [Ledger.others_congr (deliveries_process process), Ledger.others_claim claim]

/-- An attempt that failed or was given up. -/
def IsOver (now : Int) (d : Delivery) : Prop :=
  d.state = .failed ∨ d.state = .processing ∧ d.startedAt + processingTimeout < now

theorem IsOver.isClaimable {now : Int} {d : Delivery} (h : IsOver now d) :
    Ledger.isClaimable now d = true := by
  rcases h with h | ⟨h, hlong⟩
  · simp [Ledger.isClaimable, h]
  · have : d.startedAt < now - processingTimeout := by omega
    simp [Ledger.isClaimable, h, this]

/-- A retry is a first attempt. Take a store in whose ledger an attempt at an event has failed or
has been given up, and the same store without the row of the event. Handling the event ends the same
way in both, with the same organizations, products, prices, subscriptions, links and items, and both
times the rows of all other events are as they were. If the ledger can hold the type of the event
then both say the same about how it went. If it cannot, then the event is refused both times, and
both stores stay as they are. -/
theorem retry_eq_first_attempt {now : Int} {e : Event} {d : Delivery} (hs : Ledger.Indexed s)
    (hd : Ledger.row? e.id s = some d) (hover : IsOver now d) (before : Int) :
    let again := (handle now e).on s
    let first := (handle before e).on (Ledger.forget e.id s)
    again.1 = first.1 ∧ again.2 = first.2.withLedger again.2.deliveries ∧
    Ledger.others e.id again.2 = Ledger.others e.id s ∧
    Ledger.others e.id first.2 = Ledger.others e.id s ∧
    (isStorable e.type = true → ∃ state errorMessage,
      Ledger.verdict? e.id again.2 = some (state, errorMessage) ∧
      Ledger.verdict? e.id first.2 = some (state, errorMessage)) ∧
    (isStorable e.type = false → again = (.error (.database .zeroCharacter), s) ∧
      first = (.error (.database .zeroCharacter), Ledger.forget e.id s)) := by
  intro again first
  have hother : Ledger.others e.id first.2 = Ledger.others e.id s :=
    (others_handle before e _).trans (Ledger.others_forget e.id s)
  cases htype : isStorable e.type with
  | false =>
    have hagain : again = _ := handle_of_type htype now s
    have hfirst : first = _ := handle_of_type htype before (Ledger.forget e.id s)
    refine ⟨by rw [hagain, hfirst], by rw [hagain, hfirst]; rfl, others_handle now e s, hother,
      nofun, fun _ => ⟨hagain, hfirst⟩⟩
  | true =>
    obtain ⟨hid, hfits⟩ := hs d (Ledger.mem_of_row? hd)
    rw [Ledger.eventId_of_row? hd] at hid hfits
    have claim : Commits (Ledger.claim now e.id e.type) s true _ :=
      commits_claim.2 ⟨hid, htype, .inr ⟨d, hd, .inl ⟨hover.isClaimable, rfl, rfl⟩⟩⟩
    have claim' : Commits (Ledger.claim before e.id e.type) (Ledger.forget e.id s) true _ :=
      commits_claim.2 ⟨hid, htype, .inl ⟨Ledger.row?_forget e.id s, hfits, rfl, rfl⟩⟩
    obtain ⟨outcome, agree⟩ := handle_agree (Ledger.Agree.forget e.id s) claim claim'
    obtain ⟨⟨state, errorMessage⟩, hv, hv'⟩ := agree.verdict
    exact ⟨outcome, agree.tables, others_handle now e s, hother,
      fun _ => ⟨state, errorMessage, hv, hv'⟩, nofun⟩

/-- A checkout whose first attempt failed is completed as if it had just been delivered. -/
theorem retry_eq_first_attempt_of_timeout :
    let d : Delivery := ⟨.row 7 1, "evt_1", checkoutCompleted, .failed, some "timeout", 0, 0⟩
    let s : Store := { held with deliveries := [d] }
    let again := (handle 1 completion).on s
    let first := (handle 0 completion).on (Ledger.forget "evt_1" s)
    Ledger.Indexed s ∧ Ledger.row? "evt_1" s = some d ∧ IsOver 1 d ∧
      first = (.ok (.applied (.completeCheckout "cus_1" "sub_1")), completed) ∧
      again.1 = .ok (.applied (.completeCheckout "cus_1" "sub_1")) ∧
      again.2 = completed.withLedger again.2.deliveries ∧
      ∃ state errorMessage,
        Ledger.verdict? "evt_1" again.2 = some (state, errorMessage) ∧
        Ledger.verdict? "evt_1" first.2 = some (state, errorMessage) := by
  intro d s again first
  have hs : Ledger.Indexed s := by
    unfold Ledger.Indexed
    decide
  have hd : Ledger.row? completion.id s = some d := by decide
  have hover : IsOver 1 d := .inl rfl
  have applied : first = (.ok (.applied (.completeCheckout "cus_1" "sub_1")), completed) :=
    handling_completion.on_eq
  obtain ⟨outcome, tables, -, -, verdict, -⟩ := retry_eq_first_attempt hs hd hover 0
  have hfirst : (handle 0 completion).on (Ledger.forget completion.id s) = first := rfl
  rw [hfirst, applied] at outcome tables
  exact ⟨hs, hd, hover, applied, outcome, tables, verdict (by decide)⟩

/-- A retry can leave a row behind where a first attempt does not make one: when the event comes
back with a type that the ledger cannot hold. -/
theorem not_retry_eq_first_attempt_of_zeroType :
    ¬ ∀ (now : Int) (e : Event) (s : Store) (d : Delivery), Ledger.Indexed s →
      Ledger.row? e.id s = some d → IsOver now d →
      let again := (handle now e).on s
      let first := (handle now e).on (Ledger.forget e.id s)
      again.1 = first.1 ∧ again.2 = first.2.withLedger again.2.deliveries ∧
      Ledger.others e.id again.2 = Ledger.others e.id first.2 ∧
      Ledger.verdict? e.id again.2 = Ledger.verdict? e.id first.2 := by
  intro h
  let d : Delivery := ⟨.row 7 1, "evt_1", "ping", .failed, some "timeout", 0, 0⟩
  let s : Store := { Store.empty with deliveries := [d] }
  have hs : Ledger.Indexed s := by
    unfold Ledger.Indexed
    decide
  have hrow := (h 0 ⟨"evt_1", "ping\x00", 0, .null⟩ s d hs (by decide) (.inl rfl)).2.2.2
  rw [handle_of_type (by decide), handle_of_type (by decide)] at hrow
  revert hrow
  decide

end Webhook

end OrgBilling
