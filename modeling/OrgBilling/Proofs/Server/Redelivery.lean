import OrgBilling.Proofs.Server.Delivery
import OrgBilling.Proofs.Webhook.Failures

/-!
# What the provider is told of a delivery

The provider delivers an event again until it is told that it has been received, so the status of an
answer tells which deliveries are worth repeating. `Answered` lists how a delivery can be answered
and why; the status is always one of these (`answered`), and each reason decides it
(`Answered.status_eq`).

A body that is too long is refused before anything else is looked at. A delivery that is in order but
whose event could not be applied should come again, and is answered with a status of the server. There
are two exceptions, which are answered as if the provider were at fault: nobody holds the customer of
a completed checkout, and several rows have the subscription that the event is about
(`response_classes`, `not_response_classes_of_unheld`).
-/

namespace OrgBilling.Server

open Store Webhook

variable {σ : Type} [PaymentProvider σ] {app : App} {o : Occasion} {r : HttpRequest} {w : World σ}

/-! ### Endings -/

/-- The delivery brings the event, and handling the event ends so. -/
def Ends (app : App) (o : Occasion) (r : HttpRequest) (w : World σ) (e : Event)
    (result : Except BillingError HandlingResult) : Prop :=
  Authentic app o r e ∧ ((handle o.now e).on w.store).1 = result

/-- The status that an ending is answered with. -/
def statusOf : Except BillingError HandlingResult → Nat
  | .ok _ => 200
  | .error err => (ApiError.ofBilling err).status

theorem status_of_ends (hr : IsDelivery r) {e : Event} {result : Except BillingError HandlingResult}
    (h : Ends app o r w e result) : ((answer app o r).run w).1.status = statusOf result := by
  obtain ⟨authentic, hresult⟩ := h
  cases hh : (handle o.now e).on w.store with | _ ending s' => ?_
  rw [hh] at hresult
  subst hresult
  cases ending with
  | ok result => rw [run_answer_of_handled hr authentic hh]; rfl
  | error err => rw [run_answer_of_failed hr authentic hh]; rfl

theorem status_of_unauthenticated (hr : IsDelivery r) (fits : r.body.length ≤ 2097152)
    (h : Unauthenticated app o r) : ((answer app o r).run w).1.status = 400 := by
  obtain ⟨response, hstatus, hrun⟩ :=
    run_answer_of_not_authentic (w := w) hr fits h.not_authentic
  rw [hrun]
  exact hstatus

theorem status_of_tooLong (hr : IsDelivery r) (h : 2097152 < r.body.length) :
    ((answer app o r).run w).1.status = 413 := by
  rw [run_answer_of_tooLong hr h]
  rfl

/-! ### Answers -/

/-- How a delivery can be answered, and why. -/
inductive Answered (app : App) (o : Occasion) (r : HttpRequest) (w : World σ) : Nat → Prop
  /-- The event is applied, or has been. -/
  | received {e : Event} {result : HandlingResult} (h : Ends app o r w e (.ok result)) :
      Answered app o r w 200
  /-- The delivery is not authentic. -/
  | unauthenticated (fits : r.body.length ≤ 2097152) (h : Unauthenticated app o r) :
      Answered app o r w 400
  /-- The body is too long to be read. -/
  | tooLong (h : 2097152 < r.body.length) : Answered app o r w 413
  /-- The event is not supported. -/
  | notSupported {e : Event} {problem : EventProblem}
      (h : Ends app o r w e (.error (.eventNotSupported problem))) : Answered app o r w 400
  /-- Nobody holds the customer of a completed checkout. -/
  | nobody {e : Event} {customer subscription : String}
      (event : Action.ofEvent e = .ok (.completeCheckout customer subscription))
      (unheld : w.store.holder? customer = none)
      (h : Ends app o r w e (.error (.notFound (.customerHolder customer)))) : Answered app o r w 404
  /-- Several rows have the subscription that the event is about. -/
  | ambiguous {e : Event} {a : Action} {x : String} (event : Action.ofEvent e = .ok a)
      (subject : a.subscription? = some x) (several : w.store.IsAmbiguous x)
      (h : Ends app o r w e (.error (.invalidInput (.ambiguousSubscription x)))) :
      Answered app o r w 422
  /-- The database refuses something. -/
  | database {e : Event} {cause : DatabaseError} (h : Ends app o r w e (.error (.database cause))) :
      Answered app o r w 500
  /-- There is no single price for a new subscription. -/
  | severalPrices {e : Event} (several : 2 ≤ w.store.activePrices.length)
      (h : Ends app o r w e (.error (.internal .severalActivePrices))) : Answered app o r w 500

/-- The reason decides the status. -/
theorem Answered.status_eq {n : Nat} (h : Answered app o r w n) (hr : IsDelivery r) :
    ((answer app o r).run w).1.status = n := by
  cases h with
  | unauthenticated fits h => exact status_of_unauthenticated hr fits h
  | tooLong h => exact status_of_tooLong hr h
  | received h => exact status_of_ends hr h
  | notSupported h => exact status_of_ends hr h
  | nobody event unheld h => exact status_of_ends hr h
  | ambiguous event subject several h => exact status_of_ends hr h
  | database h => exact status_of_ends hr h
  | severalPrices several h => exact status_of_ends hr h

/-- Every delivery is answered in one of the ways. -/
theorem answered (hr : IsDelivery r) (w : World σ) :
    Answered app o r w ((answer app o r).run w).1.status := by
  by_cases fits : r.body.length ≤ 2097152
  swap
  · have long := Nat.lt_of_not_le fits
    rw [status_of_tooLong hr long]
    exact .tooLong long
  by_cases hauthentic : ∃ e, Authentic app o r e
  · obtain ⟨e, authentic⟩ := hauthentic
    cases hh : (handle o.now e).on w.store with | _ ending s' => ?_
    have ends : Ends app o r w e ending := ⟨authentic, by rw [hh]⟩
    rw [status_of_ends hr ends]
    cases ending with
    | ok result => exact .received ends
    | error err =>
      cases (Handling.of_on hh).fault with
      | database cause h =>
        subst h
        exact .database ends
      | notSupported problem event h =>
        subst h
        exact .notSupported ends
      | action a event h =>
        cases h with
        | database a cause => exact .database ends
        | ambiguous subject several => exact .ambiguous event subject several ends
        | severalPrices customer subscription several => exact .severalPrices several ends
        | nobody subscription unheld => exact .nobody event unheld ends
  · have unauthenticated : Unauthenticated app o r :=
      (unauthenticated_iff fits).2 fun e he => hauthentic ⟨e, he⟩
    rw [status_of_unauthenticated hr fits unauthenticated]
    exact .unauthenticated fits unauthenticated

/-- The status that a delivery is answered with. It is 200 just if the event has been applied, now or
before, and 400 just if the delivery is not authentic, though its body has been read, or its event is
not supported. Anything else is answered with 500, so that the event is delivered again, but for three
things: 413 says that the body is longer than two mebibytes and has not been read, 404 that nobody
holds the customer of a completed checkout, and 422 that several rows have the subscription that the
event is about. -/
theorem response_classes (hr : IsDelivery r) (w : World σ) :
    let status := ((answer app o r).run w).1.status
    (status = 200 ↔ ∃ e result, Ends app o r w e (.ok result)) ∧
    (status = 400 ↔ r.body.length ≤ 2097152 ∧ Unauthenticated app o r ∨
      ∃ e problem, Ends app o r w e (.error (.eventNotSupported problem))) ∧
    (status = 413 ↔ 2097152 < r.body.length) ∧
    (status = 404 ↔ ∃ e customer subscription,
      Action.ofEvent e = .ok (.completeCheckout customer subscription) ∧
      w.store.holder? customer = none ∧
      Ends app o r w e (.error (.notFound (.customerHolder customer)))) ∧
    (status = 422 ↔ ∃ e a x, Action.ofEvent e = .ok a ∧ a.subscription? = some x ∧
      w.store.IsAmbiguous x ∧ Ends app o r w e (.error (.invalidInput (.ambiguousSubscription x)))) ∧
    (status ≠ 200 → status ≠ 400 → status ≠ 413 → status ≠ 404 → status ≠ 422 →
      status = 500) := by
  intro status
  have h : Answered app o r w status := answered hr w
  refine ⟨⟨fun hs => ?_, ?_⟩, ⟨fun hs => ?_, ?_⟩, ⟨fun hs => ?_, ?_⟩, ⟨fun hs => ?_, ?_⟩,
    ⟨fun hs => ?_, ?_⟩, ?_⟩
  · rw [hs] at h
    cases h with
    | received h => exact ⟨_, _, h⟩
  · rintro ⟨e, result, h⟩
    exact (Answered.received h).status_eq hr
  · rw [hs] at h
    cases h with
    | unauthenticated fits h => exact .inl ⟨fits, h⟩
    | notSupported h => exact .inr ⟨_, _, h⟩
  · rintro (⟨fits, h⟩ | ⟨e, problem, h⟩)
    · exact (Answered.unauthenticated fits h).status_eq hr
    · exact (Answered.notSupported h).status_eq hr
  · rw [hs] at h
    cases h with
    | tooLong long => exact long
  · exact status_of_tooLong hr
  · rw [hs] at h
    cases h with
    | nobody event unheld h => exact ⟨_, _, _, event, unheld, h⟩
  · rintro ⟨e, customer, subscription, event, unheld, h⟩
    exact (Answered.nobody event unheld h).status_eq hr
  · rw [hs] at h
    cases h with
    | ambiguous event subject several h => exact ⟨_, _, _, event, subject, several, h⟩
  · rintro ⟨e, a, x, event, subject, several, h⟩
    exact (Answered.ambiguous event subject several h).status_eq hr
  · intro h200 h400 h413 h404 h422
    generalize status = n at h h200 h400 h413 h404 h422 ⊢
    cases h with
    | received => exact absurd rfl h200
    | unauthenticated => exact absurd rfl h400
    | tooLong => exact absurd rfl h413
    | notSupported => exact absurd rfl h400
    | nobody => exact absurd rfl h404
    | ambiguous => exact absurd rfl h422
    | database => rfl
    | severalPrices => rfl

/-! ### A completed checkout of nobody's customer -/

/-- An empty database in which the event has been claimed. -/
def claimedCheckout : Store :=
  { Store.empty with
    deliveries := [⟨.row 7 1, "evt_1", checkoutCompleted, .processing, none, 0, 0⟩] }

theorem apply_checkout : (Action.completeCheckout "cus_1" "sub_1").apply.on claimedCheckout =
    (.error (.notFound (.customerHolder "cus_1")), claimedCheckout.withDefaultPrice) :=
  rfl

theorem ends_checkoutDelivery : ∃ e, Action.ofEvent e = .ok (.completeCheckout "cus_1" "sub_1") ∧
    Ends acmeApp checkoutDelivery.1 checkoutDelivery.2 (⟨.empty, .fresh⟩ : World Provider.Sandbox) e
      (.error (.notFound (.customerHolder "cus_1"))) := by
  obtain ⟨e, id, type, event, authentic⟩ := authentic_checkoutDelivery
  refine ⟨e, event, authentic, ?_⟩
  have claim : Transaction.Commits (Ledger.claim 0 e.id e.type) .empty true claimedCheckout := by
    rw [id, type]
    rfl
  have process : (process e).on claimedCheckout =
      (.error (.notFound (.customerHolder "cus_1")), claimedCheckout.withDefaultPrice) := by
    unfold Webhook.process
    rw [event]
    dsimp only
    rw [Call.on_bind, apply_checkout]
  have handling : Handling 0 e .empty (.error (.notFound (.customerHolder "cus_1"))) _ :=
    .failed claim process (by decide)
  exact congrArg Prod.fst handling.on_eq

/-- Nobody holds the customer: the answer is 404, though the delivery is in order. -/
theorem response_classes_of_unheld :
    ((answer acmeApp checkoutDelivery.1 checkoutDelivery.2).run
      (⟨.empty, .fresh⟩ : World Provider.Sandbox)).1.status = 404 := by
  obtain ⟨e, haction, ends⟩ := ends_checkoutDelivery
  exact (response_classes isDelivery_checkoutDelivery _).2.2.2.1.2
    ⟨e, "cus_1", "sub_1", haction, rfl, ends⟩

/-- Deliveries that are in order are not always received or answered with a status of the server, also
where their bodies are short enough to be read. -/
theorem not_response_classes_of_unheld :
    ¬ ∀ (app : App) (o : Occasion) (r : HttpRequest) (w : World Provider.Sandbox), IsDelivery r →
      let status := ((answer app o r).run w).1.status
      (status = 200 ↔ ∃ e result, Ends app o r w e (.ok result)) ∧
      (status = 400 ↔ r.body.length ≤ 2097152 ∧ Unauthenticated app o r ∨
        ∃ e problem, Ends app o r w e (.error (.eventNotSupported problem))) ∧
      (r.body.length ≤ 2097152 → status ≠ 200 → status ≠ 400 → 500 ≤ status ∧ status < 600) := by
  intro h
  obtain ⟨e, haction, ends⟩ := ends_checkoutDelivery
  have hstatus := status_of_ends isDelivery_checkoutDelivery ends
  obtain ⟨-, -, server⟩ := h acmeApp checkoutDelivery.1 checkoutDelivery.2 ⟨.empty, .fresh⟩
    isDelivery_checkoutDelivery
  rw [hstatus] at server
  exact absurd (server (by decide +kernel) (by decide) (by decide)) (by decide)

end OrgBilling.Server
