import OrgBilling.Proofs.Operation
import OrgBilling.Proofs.Signature
import OrgBilling.Provider.Sandbox

/-!
# Deliveries of webhook events

A delivery is a request to the webhook route. It brings an event if it is authentic: its body is not
too long to be read, its header signs the body with the application's secret, at a time close to now,
and the body is the event. What is not authentic does nothing and is answered with 400, or with 413 if
its body is too long (`run_answer_of_not_authentic`, `run_answer_of_tooLong`); what is authentic does
what handling the event does, and how that ends decides the answer (`run_answer_of_handled`,
`run_answer_of_failed`). So every row of the ledger goes back to an authentic delivery
(`unauthenticated_no_effect`).
-/

namespace OrgBilling

open Store Transaction

section OfDelivery

variable {payload header secret : String} {now : Int}

theorem Webhook.Event.ofDelivery_ok {e : Webhook.Event} :
    Webhook.Event.ofDelivery payload header secret now = .ok e ↔
      Signature.verify payload header secret now 300 = .ok () ∧
        Webhook.Event.decode.run? payload = some e := by
  unfold Webhook.Event.ofDelivery
  rw [Signature.defaultTolerance]
  cases Signature.verify payload header secret now 300 with
  | error err => exact ⟨fun h => (by cases h), fun h => (by cases h.1)⟩
  | ok _ =>
    cases Webhook.Event.decode.run? payload with
    | none => exact ⟨fun h => (by cases h), fun h => (by cases h.2)⟩
    | some found => exact ⟨fun h => (by cases h; exact ⟨rfl, rfl⟩), fun h => (by cases h.2; rfl)⟩

theorem Webhook.Event.ofDelivery_error {err : BillingError}
    (h : Webhook.Event.ofDelivery payload header secret now = .error err) :
    err = .signatureInvalid := by
  unfold Webhook.Event.ofDelivery at h
  cases hv : Signature.verify payload header secret now Signature.defaultTolerance with
  | error err' =>
    rw [hv] at h
    cases h
    exact Signature.verify_error hv
  | ok _ =>
    rw [hv] at h
    cases hd : Webhook.Event.decode.run? payload with
    | none =>
      simp only [hd] at h
      cases h
      rfl
    | some found =>
      simp only [hd] at h
      cases h

end OfDelivery

/-! ### The events of the ledger -/

/-- The ids and types of the events that have a row. -/
def Store.events (s : Store) : List (String × String) :=
  s.deliveries.map fun d => (d.eventId, d.eventType)

theorem Store.events_change {eventId : String} {f : Delivery → Delivery}
    (hf : ∀ d, ((f d).eventId, (f d).eventType) = (d.eventId, d.eventType)) (s : Store) :
    Store.events { s with deliveries := Ledger.change eventId f s.deliveries } = s.events := by
  rw [Store.events, Ledger.change, List.map_map]
  refine List.map_congr_left fun d _ => ?_
  rw [Function.comp_apply]
  split
  · exact hf d
  · rfl

/-- Handling an event makes a row for it, if there is none, and no other row. -/
theorem Webhook.Handling.events {now : Int} {e : Webhook.Event} {s s' : Store}
    {r : Except BillingError Webhook.HandlingResult} (h : Webhook.Handling now e s r s') :
    s'.events = s.events ∨
      Ledger.row? e.id s = none ∧ s'.events = s.events ++ [(e.id, e.type)] := by
  have claimed {s₁ : Store} (claim : Commits (Ledger.claim now e.id e.type) s true s₁) :
      s₁.events = s.events ∨
        Ledger.row? e.id s = none ∧ s₁.events = s.events ++ [(e.id, e.type)] := by
    rcases commits_claim.1 claim with
      ⟨-, -, ⟨hnew, -, -, rfl⟩ | ⟨d, -, ⟨-, -, rfl⟩ | ⟨-, hfalse, -⟩⟩⟩
    · exact .inr ⟨hnew, by simp [Store.events]⟩
    · exact .inl (Store.events_change (f := Ledger.restart now) (fun _ => rfl) s)
    · cases hfalse
  have processed {s₁ s₂ : Store} {a : Except BillingError Webhook.Action}
      (process : (Webhook.process e).on s₁ = (a, s₂)) : s₂.events = s₁.events := by
    rw [Store.events, Webhook.deliveries_process process, Store.events]
  have recorded (state : DeliveryState) (errorMessage : Option String) (u : Store) :
      (Ledger.recorded e.id state errorMessage u).events = u.events :=
    Store.events_change (f := fun d => { d with state, errorMessage }) (fun _ => rfl) u
  cases h with
  | refused claim => exact .inl rfl
  | duplicate claim => exact .inl rfl
  | applied claim process =>
    rw [recorded, processed process]
    exact claimed claim
  | failed claim process storable =>
    rw [recorded, processed process]
    exact claimed claim
  | unrecorded claim process notStorable =>
    rw [processed process]
    exact claimed claim

namespace Server

open Webhook

/-! ### Deliveries -/

/-- The request is a delivery. -/
structure IsDelivery (r : HttpRequest) : Prop where
  method : r.method = "POST"
  route : Route.ofPath? r.path = some .webhook

/-- The request signs the event that it brings, in a body of at most two mebibytes. -/
def Authentic (app : App) (o : Occasion) (r : HttpRequest) (e : Event) : Prop :=
  r.body.length ≤ 2097152 ∧ ∃ payload header, Text.ofUtf8? r.body = some payload ∧
    r.signature = some header ∧ Handler.isReadableHeader header = true ∧
    Signature.verify payload header app.webhookSecret (o.now / 1000000) 300 = .ok () ∧
    Event.decode.run? payload = some e

/-- What keeps a request whose body is read from being authentic. -/
inductive Unauthenticated (app : App) (o : Occasion) (r : HttpRequest) : Prop
  /-- There is no header. -/
  | noHeader (h : r.signature = none)
  /-- The header cannot be read. -/
  | unreadable (header : String) (h : r.signature = some header)
      (hheader : Handler.isReadableHeader header = false)
  /-- The header does not sign the body. -/
  | badSignature (h : ∀ payload header, Text.ofUtf8? r.body = some payload →
      r.signature = some header →
      Signature.verify payload header app.webhookSecret (o.now / 1000000) 300 ≠ .ok ())
  /-- The body is no event. -/
  | noEvent (h : ∀ payload, Text.ofUtf8? r.body = some payload → Event.decode.run? payload = none)

section Requests

variable {app : App} {o : Occasion} {r : HttpRequest} {e : Event}

theorem Unauthenticated.not_authentic (h : Unauthenticated app o r) (e : Event) :
    ¬ Authentic app o r e := by
  rintro ⟨-, payload, header, hbody, hsignature, hreadable, hverify, hdecode⟩
  cases h with
  | noHeader h => rw [hsignature] at h; cases h
  | unreadable header' h hheader =>
    obtain rfl : header = header' := Option.some.inj (hsignature.symm.trans h)
    rw [hreadable] at hheader
    cases hheader
  | badSignature h => exact h payload header hbody hsignature hverify
  | noEvent h => rw [h payload hbody] at hdecode; cases hdecode

theorem unauthenticated_iff (fits : r.body.length ≤ 2097152) :
    Unauthenticated app o r ↔ ∀ e, ¬ Authentic app o r e := by
  constructor
  · exact Unauthenticated.not_authentic
  · intro h
    cases hsignature : r.signature with
    | none => exact .noHeader hsignature
    | some header =>
      cases hreadable : Handler.isReadableHeader header with
      | false => exact .unreadable header hsignature hreadable
      | true =>
        by_cases hverify : ∃ payload, Text.ofUtf8? r.body = some payload ∧
            Signature.verify payload header app.webhookSecret (o.now / 1000000) 300 = .ok ()
        · obtain ⟨payload, hbody, hverify⟩ := hverify
          refine .noEvent fun payload' hbody' => ?_
          obtain rfl : payload = payload' := Option.some.inj (hbody.symm.trans hbody')
          by_contra hdecode
          obtain ⟨e, he⟩ := Option.ne_none_iff_exists'.1 hdecode
          exact h e ⟨fits, payload, header, hbody, hsignature, hreadable, hverify, he⟩
        · refine .badSignature fun payload header' hbody hheader hok => hverify ⟨payload, hbody, ?_⟩
          obtain rfl : header = header' := Option.some.inj (hsignature.symm.trans hheader)
          exact hok

/-! ### Answers -/

variable {σ : Type} [PaymentProvider σ] {w : World σ} {s' : Store}

theorem run_answer_of_isDelivery (hr : IsDelivery r) :
    (answer app o r).run w = (follow app o r .webhook).run w := by
  have hallows : Route.webhook.allows r.method = true := by
    simp [hr.method, Route.allows, Route.isRead]
  exact run_answer hr.route hallows (by simp [hr.method]) app o w

/-- A body that is too long is not read, and its header is not looked at. -/
theorem run_answer_of_tooLong (hr : IsDelivery r) (h : 2097152 < r.body.length) :
    (answer app o r).run w = (.bare 413, w) := by
  have follow_eq : (follow app o r .webhook : StateM (World σ) HttpResponse) = pure (.bare 413) :=
    if_pos h
  rw [run_answer_of_isDelivery hr, follow_eq]
  rfl

theorem follow_webhook (fits : r.body.length ≤ 2097152) :
    (follow app o r .webhook : StateM (World σ) HttpResponse) =
      match Text.ofUtf8? r.body with
      | some payload => respond (Handler.webhook app o.now r.signature payload)
      | none => pure (.bare 400) :=
  if_neg (Nat.not_lt.2 fits)

/-- What is not authentic, though its body is not too long, is answered with 400 and does nothing. -/
theorem run_answer_of_not_authentic (hr : IsDelivery r) (fits : r.body.length ≤ 2097152)
    (h : ∀ e, ¬ Authentic app o r e) :
    ∃ response, response.status = 400 ∧ (answer app o r).run w = (response, w) := by
  rw [run_answer_of_isDelivery hr, follow_webhook fits]
  cases hbody : Text.ofUtf8? r.body with
  | none => exact ⟨.bare 400, rfl, rfl⟩
  | some payload =>
    cases hheader : r.signature.filter Handler.isReadableHeader with
    | none =>
      refine ⟨_, rfl, run_respond_error (e := .badRequest "Missing stripe-signature header") ?_⟩
      rw [Handler.webhook, hheader]
      rfl
    | some header =>
      cases hevent : Event.ofDelivery payload header app.webhookSecret (o.now / 1000000) with
      | error err =>
        obtain rfl := Event.ofDelivery_error hevent
        refine ⟨_, rfl, run_respond_error (e := ApiError.ofBilling .signatureInvalid) ?_⟩
        simp only [Handler.webhook, hheader, hevent]
        rfl
      | ok e =>
        obtain ⟨hsignature, hreadable⟩ := Option.filter_eq_some_iff.1 hheader
        obtain ⟨hverify, hdecode⟩ := Event.ofDelivery_ok.1 hevent
        exact absurd ⟨fits, payload, header, hbody, hsignature, hreadable, hverify, hdecode⟩ (h e)

/-- What is not authentic does nothing. -/
theorem exists_response_of_not_authentic (hr : IsDelivery r) (h : ∀ e, ¬ Authentic app o r e) :
    ∃ response, (answer app o r).run w = (response, w) := by
  by_cases fits : r.body.length ≤ 2097152
  · obtain ⟨response, -, hrun⟩ := run_answer_of_not_authentic (w := w) hr fits h
    exact ⟨response, hrun⟩
  · exact ⟨_, run_answer_of_tooLong hr (Nat.lt_of_not_le fits)⟩

/-- What a delivery that has been taken is told. -/
def receivedJson (result : HandlingResult) : Json :=
  .object [("received", .bool true), ("duplicate", .bool (decide (result = .duplicate)))]

section Authentic

variable (hr : IsDelivery r) (h : Authentic app o r e)

include hr h

/-- An authentic delivery has its event handled. -/
theorem run_answer_of_authentic :
    (answer app o r).run w =
      (respond (do
        let result ← Handler.billing (Billing.onStore (handle o.now e))
        pure (receivedJson result))).run w := by
  obtain ⟨fits, payload, header, hbody, hsignature, hreadable, hverify, hdecode⟩ := h
  have hheader : r.signature.filter Handler.isReadableHeader = some header :=
    Option.filter_eq_some_iff.2 ⟨hsignature, hreadable⟩
  have hevent := Event.ofDelivery_ok.2 ⟨hverify, hdecode⟩
  rw [run_answer_of_isDelivery hr, follow_webhook fits]
  simp only [hbody, Handler.webhook, hheader, hevent]
  rfl

theorem run_answer_of_handled {result : HandlingResult}
    (hh : (handle o.now e).on w.store = (.ok result, s')) :
    (answer app o r).run w = (.ok (receivedJson result), { w with store := s' }) := by
  rw [run_answer_of_authentic hr h]
  refine run_respond_ok ((run_bind_ok (run_billing_ok.2 ?_)).trans rfl)
  rw [Billing.on_onStore, hh]

theorem run_answer_of_failed {err : BillingError}
    (hh : (handle o.now e).on w.store = (.error err, s')) :
    (answer app o r).run w =
      (⟨(ApiError.ofBilling err).status, some (ApiError.ofBilling err).body⟩,
        { w with store := s' }) := by
  rw [run_answer_of_authentic hr h]
  refine run_respond_error (run_bind_error (run_billing_error ?_))
  rw [Billing.on_onStore, hh]

/-- An authentic delivery does what handling its event does. -/
theorem store_answer_of_authentic :
    ((answer app o r).run w).2.store = ((handle o.now e).on w.store).2 := by
  cases hh : (handle o.now e).on w.store with | _ result s' => ?_
  cases result with
  | ok result => rw [run_answer_of_handled hr h hh]
  | error err => rw [run_answer_of_failed hr h hh]

end Authentic

end Requests

/-! ### Where the rows of the ledger come from -/

section Origin

variable {σ : Type} [PaymentProvider σ] {app : App} {w : World σ} {id type : String}

/-- Requests to the application, each at its occasion. -/
def requests (app : App) (qs : List (Occasion × HttpRequest)) : List (Operation σ) :=
  qs.map fun q => .request app q.1 q.2

/-- The request makes the row of an event: it is authentic, the event of this id and type is the one
that it brings, and there was no row with the id before. -/
structure Makes (app : App) (w : World σ) (q : Occasion × HttpRequest) (id type : String) : Prop where
  authentic : ∃ e, Authentic app q.1 q.2 e ∧ e.id = id ∧ e.type = type
  new : Ledger.row? id w.store = none
  made : (id, type) ∈ ((answer app q.1 q.2).run w).2.store.events

/-- Rows are made by authentic deliveries only. -/
theorem mem_events_answer {q : Occasion × HttpRequest} (hq : IsDelivery q.2)
    (h : (id, type) ∈ ((answer app q.1 q.2).run w).2.store.events) :
    (id, type) ∈ w.store.events ∨ Makes app w q id type := by
  by_cases hauthentic : ∃ e, Authentic app q.1 q.2 e
  · obtain ⟨e, he⟩ := hauthentic
    have hmade := h
    rw [store_answer_of_authentic hq he] at h
    rcases (handling_on q.1.now e w.store).events with heq | ⟨hnew, heq⟩
    · rw [heq] at h
      exact .inl h
    · rw [heq, List.mem_append, List.mem_singleton, Prod.mk.injEq] at h
      rcases h with h | ⟨rfl, rfl⟩
      · exact .inl h
      · exact .inr ⟨⟨e, he, rfl, rfl⟩, hnew, hmade⟩
  · obtain ⟨response, hrun⟩ :=
      exists_response_of_not_authentic (w := w) hq fun e he => hauthentic ⟨e, he⟩
    rw [hrun] at h
    exact .inl h

/-- A row that deliveries leave was there before them, or one of them has made it. -/
theorem makes_of_mem_events {qs : List (Occasion × HttpRequest)} (hqs : ∀ q ∈ qs, IsDelivery q.2)
    (h : (id, type) ∈ (afterAll w (requests app qs)).store.events) :
    (id, type) ∈ w.store.events ∨ ∃ before q after, qs = before ++ q :: after ∧
      Makes app (afterAll w (requests app before)) q id type := by
  induction qs generalizing w with
  | nil => exact .inl h
  | cons q qs ih =>
    obtain ⟨hq, hqs⟩ := List.forall_mem_cons.1 hqs
    rcases ih (w := (Operation.request app q.1 q.2).after w) hqs h with
      h | ⟨before, q', after, rfl, hmakes⟩
    · rcases mem_events_answer hq h with h | hmakes
      · exact .inl h
      · exact .inr ⟨[], q, qs, rfl, hmakes⟩
    · exact .inr ⟨q :: before, q', after, rfl, hmakes⟩

/-- Deliveries that are not authentic have no effect. Whatever the database and the provider, a
delivery without a header that can be read, or whose header does not sign its body with the
application's secret at a time within 300 seconds of now, or whose body is no event, leaves both as
they are; it is answered with 400, or with 413 if its body is longer than two mebibytes. So if the
ledger is empty at first, each row that deliveries leave there was made by one of them that is
authentic: there was no row for the event before it, it brought the event, and id and type of the row
are those of the event. -/
theorem unauthenticated_no_effect (app : App) (qs : List (Occasion × HttpRequest))
    (hw : w.store.deliveries = []) (hqs : ∀ q ∈ qs, IsDelivery q.2) :
    (∀ (u : World σ), ∀ q ∈ qs, Unauthenticated app q.1 q.2 →
      ∃ response, (answer app q.1 q.2).run u = (response, u) ∧
        (q.2.body.length ≤ 2097152 → response.status = 400) ∧
        (2097152 < q.2.body.length → response.status = 413)) ∧
    ∀ d ∈ (afterAll w (requests app qs)).store.deliveries,
      ∃ before q after, qs = before ++ q :: after ∧
        Makes app (afterAll w (requests app before)) q d.eventId d.eventType := by
  refine ⟨fun u q hq h => ?_, fun d hd => ?_⟩
  · by_cases fits : q.2.body.length ≤ 2097152
    · obtain ⟨response, status, run⟩ :=
        run_answer_of_not_authentic (w := u) (hqs q hq) fits h.not_authentic
      exact ⟨response, run, fun _ => status, fun long => absurd fits (Nat.not_le.2 long)⟩
    · exact ⟨_, run_answer_of_tooLong (hqs q hq) (Nat.lt_of_not_le fits),
        fun short => absurd short fits, fun _ => rfl⟩
  · have hmem : (d.eventId, d.eventType) ∈ (afterAll w (requests app qs)).store.events :=
      List.mem_map_of_mem hd
    refine (makes_of_mem_events hqs hmem).resolve_left fun hold => ?_
    rw [Store.events, hw] at hold
    exact absurd hold List.not_mem_nil

end Origin

/-! ### A delivery -/

/-- An application. -/
def acmeApp : App :=
  ⟨.mock, "whsec_1", "http://localhost", .codePoints, Store.Collation.codePoints.stable _⟩

/-- The delivery of a body with a header, when the clock starts. -/
def deliveryOf (signature : Option String) (body : String) : Occasion × HttpRequest :=
  (⟨0, "evt_mock", "sub_mock"⟩, ⟨"POST", "/billing/webhook", signature, Text.utf8 body⟩)

theorem route_webhook : Route.ofPath? "/billing/webhook" = some .webhook := by
  decide +kernel

theorem isDelivery_deliveryOf (signature : Option String) (body : String) :
    IsDelivery (deliveryOf signature body).2 := ⟨rfl, route_webhook⟩

/-- A delivery is authentic if its header signs the event in its body. -/
theorem authentic_deliveryOf {header body : String} {e : Event}
    (fits : (Text.utf8 body).length ≤ 2097152)
    (hreadable : Handler.isReadableHeader header = true)
    (hverify : Signature.verify body header "whsec_1" 0 300 = .ok ())
    (hdecode : Event.decode.run? body = some e) :
    Authentic acmeApp (deliveryOf (some header) body).1 (deliveryOf (some header) body).2 e :=
  ⟨fits, body, header, Text.ofUtf8?_utf8 body, rfl, hreadable, hverify, hdecode⟩

/-- Not every delivery without a header is answered with 400: the body may be too long. -/
theorem not_unauthenticated_badRequest :
    ¬ ∀ (app : App) (o : Occasion) (r : HttpRequest) (w : World Provider.Sandbox), IsDelivery r →
      Unauthenticated app o r → ((answer app o r).run w).1.status = 400 := by
  intro h
  have long : 2097152 < (List.replicate 2097153 (97 : UInt8)).length := by
    rw [List.length_replicate]
    exact Nat.lt_succ_self _
  have status := h acmeApp ⟨0, "evt_mock", "sub_mock"⟩
    ⟨"POST", "/billing/webhook", none, List.replicate 2097153 97⟩ ⟨.empty, .fresh⟩
    ⟨rfl, route_webhook⟩ (.noHeader rfl)
  rw [run_answer_of_tooLong ⟨rfl, route_webhook⟩ long] at status
  exact absurd status (by decide)

/-- The completion of a checkout. -/
def checkoutBody : String :=
  "\x7b\"id\":\"evt_1\",\"type\":\"checkout.session.completed\",\"data\":\x7b\"object\":" ++
    "\x7b\"status\":\"complete\",\"customer\":\"cus_1\",\"subscription\":\"sub_1\"\x7d\x7d\x7d"

/-- Its signature. -/
def checkoutSignature : String :=
  "t=0,v1=29c38afedee45ab2c65dceee4aac773c41304e3b140be4de17117f5556381eaa"

theorem verify_checkoutSignature :
    Signature.verify checkoutBody checkoutSignature "whsec_1" 0 300 = .ok () := by
  decide +kernel

theorem decode_checkoutBody :
    (Event.decode.run? checkoutBody).map (fun e => (e.id, e.type, Action.ofEvent e)) =
      some ("evt_1", checkoutCompleted, .ok (.completeCheckout "cus_1" "sub_1")) := by
  decide +kernel

/-- Its delivery. -/
def checkoutDelivery : Occasion × HttpRequest :=
  deliveryOf (some checkoutSignature) checkoutBody

theorem isDelivery_checkoutDelivery : IsDelivery checkoutDelivery.2 :=
  isDelivery_deliveryOf _ _

theorem authentic_checkoutDelivery : ∃ e, e.id = "evt_1" ∧ e.type = checkoutCompleted ∧
    Action.ofEvent e = .ok (.completeCheckout "cus_1" "sub_1") ∧
    Authentic acmeApp checkoutDelivery.1 checkoutDelivery.2 e := by
  obtain ⟨e, hdecode, heq⟩ := Option.map_eq_some_iff.1 decode_checkoutBody
  simp only [Prod.mk.injEq] at heq
  exact ⟨e, heq.1, heq.2.1, heq.2.2,
    authentic_deliveryOf (by decide +kernel) (by decide +kernel) verify_checkoutSignature hdecode⟩

/-- Of two requests the second one counts if the first one does nothing. -/
theorem store_afterAll_pair {σ : Type} [PaymentProvider σ] {app : App} {w : World σ}
    {q₁ q₂ : Occasion × HttpRequest} {response : HttpResponse}
    (h : (answer app q₁.1 q₁.2).run w = (response, w)) :
    (afterAll w (requests app [q₁, q₂])).store = ((answer app q₂.1 q₂.2).run w).2.store := by
  show ((answer app q₂.1 q₂.2).run ((answer app q₁.1 q₁.2).run w).2).2.store = _
  rw [h]

/-- The completion without its signature does nothing. The signed one makes the only row, and a
subscription with it. -/
theorem unauthenticated_no_effect_of_checkout :
    let w : World Provider.Sandbox := ⟨held, .fresh⟩
    let unsigned := deliveryOf none checkoutBody
    (∃ response, response.status = 400 ∧
      (answer acmeApp unsigned.1 unsigned.2).run w = (response, w)) ∧
    (afterAll w (requests acmeApp [unsigned, checkoutDelivery])).store = completed ∧
    ∃ before q after, [unsigned, checkoutDelivery] = before ++ q :: after ∧
      Makes acmeApp (afterAll w (requests acmeApp before)) q "evt_1" checkoutCompleted := by
  intro w unsigned
  have hqs : ∀ q ∈ [unsigned, checkoutDelivery], IsDelivery q.2 := by
    simp only [List.forall_mem_cons]
    exact ⟨isDelivery_deliveryOf _ _, isDelivery_checkoutDelivery, by simp⟩
  obtain ⟨noEffect, rows⟩ := unauthenticated_no_effect (w := w) acmeApp _ rfl hqs
  obtain ⟨response, hrun, status, -⟩ := noEffect w unsigned (by simp) (.noHeader rfl)
  obtain ⟨e, id, type, event, authentic⟩ := authentic_checkoutDelivery
  have hstore : (afterAll w (requests acmeApp [unsigned, checkoutDelivery])).store = completed := by
    rw [store_afterAll_pair hrun, store_answer_of_authentic isDelivery_checkoutDelivery authentic]
    exact congrArg Prod.snd (handling_of_completion id type event).on_eq
  refine ⟨⟨response, status (by decide +kernel), hrun⟩, hstore,
    rows ⟨.row 7 1, "evt_1", checkoutCompleted, .success, none, 0, 0⟩ ?_⟩
  rw [hstore]
  exact List.mem_singleton_self _

end Server

end OrgBilling
