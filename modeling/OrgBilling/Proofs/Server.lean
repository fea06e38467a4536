import OrgBilling.Proofs.Service
import OrgBilling.Proofs.Webhook.Handling
import OrgBilling.Server.Handler

/-!
# What requests do to the database

Two routes hand events to the webhook handler; `Server.delivery?` is the event that a request hands
on, if it gets that far. What the request then does to the database is what handling the event does
(`delivers_answer`); a request that hands on no event does to it what the services do.
-/

namespace OrgBilling.Server

open Store Transaction

variable {σ : Type}

theorem state_billing {α : Type} (c : Billing σ α) (w : World σ) :
    ((Handler.billing c).run.run w).2 = (c.on w).2 := by
  rw [Handler.billing, ExceptT.run_mk, StateT.run_mk]
  rcases c.on w with ⟨_ | _, _⟩ <;> rfl

theorem moves_billing {α : Type} {R : World σ → World σ → Prop} {c : Billing σ α} (h : Moves R c) :
    Moves R (Handler.billing c) := by
  intro w
  rw [state_billing]
  exact h.on w

theorem moves_organization (id : Uuid) :
    Moves (OnStore ServiceSteps) (Handler.organization id : Handler σ Organization) := by
  refine .bind (moves_billing (moves_read (reads_lookup _))) fun found => ?_
  cases found with
  | some o => exact moves_pure _
  | none => exact moves_throw _

theorem moves_customerOf (o : Organization) :
    Moves (OnStore ServiceSteps) (Handler.customerOf o : Handler σ String) := by
  unfold Handler.customerOf
  cases o.customerId with
  | some customer => exact moves_pure _
  | none => exact moves_throw _

variable [PaymentProvider σ]

theorem moves_checkout (app : App) (id : Uuid) :
    Moves (OnStore ServiceSteps) (Handler.checkout app id : Handler σ Json) := by
  refine .bind (moves_organization id) fun o =>
    .bind (moves_billing (moves_organizationCustomer o)) fun customer =>
    .bind (moves_billing moves_defaultPrice) fun price => ?_
  cases price.priceId with
  | none => exact moves_throw _
  | some priceId => exact .bind (moves_billing (moves_onProvider _)) fun _ => moves_pure _

theorem moves_portal (app : App) (id : Uuid) :
    Moves (OnStore ServiceSteps) (Handler.portal app id : Handler σ Json) :=
  .bind (moves_organization id) fun o => .bind (moves_customerOf o) fun _ =>
    .bind (moves_billing (moves_onProvider _)) fun _ => moves_pure _

omit [PaymentProvider σ] in
theorem moves_subscriptions (app : App) (id : Uuid) :
    Moves (OnStore ServiceSteps) (Handler.subscriptions app id : Handler σ Json) :=
  .bind (moves_organization id) fun _ =>
    .bind (moves_billing (moves_read (reads_lookup _))) fun _ => moves_pure _

/-! ### Deliveries -/

/-- The event that a request for a route hands to the webhook handler, if it gets that far. -/
def Route.delivery? (app : App) (o : Occasion) (r : HttpRequest) (w : World σ) :
    Route → Option Webhook.Event
  | .webhook => do
    guard (r.body.length ≤ bodyLimit)
    let payload ← Text.ofUtf8? r.body
    let header ← r.signature.filter Handler.isReadableHeader
    (Webhook.Event.ofDelivery payload header app.webhookSecret (o.now / 1000000)).toOption
  | .completeCheckout id => do
    let id ← Route.organizationId? id
    let _ ← PaymentProvider.recordSubscription? (σ := σ)
    let organization ← w.store.organization? id
    return Handler.completionEvent o (← organization.customerId)
  | _ => none

/-- The event that a request hands to the webhook handler. -/
def delivery? (app : App) (o : Occasion) (r : HttpRequest) (w : World σ) : Option Webhook.Event := do
  let route ← Route.ofPath? r.path
  guard (route.allows r.method)
  route.delivery? app o r w

/-- What the database becomes when an event is handed on, or none. -/
def Delivers (now : Int) (delivery : Option Webhook.Event) (s s' : Store) : Prop :=
  match delivery with
  | some e => s' = ((Webhook.handle now e).on s).2
  | none => ServiceSteps s s'

section Handlers

variable {α β : Type} {w w' : World σ}

omit [PaymentProvider σ]

theorem run_bind_ok {c : Handler σ α} {f : α → Handler σ β} {a : α}
    (h : c.run.run w = (.ok a, w')) : (c >>= f).run.run w = (f a).run.run w' := by
  simp only [ExceptT.run_bind, StateT.run_bind, h]
  rfl

theorem run_bind_error {c : Handler σ α} {f : α → Handler σ β} {e : ApiError}
    (h : c.run.run w = (.error e, w')) : (c >>= f).run.run w = (.error e, w') := by
  simp only [ExceptT.run_bind, StateT.run_bind, h]
  rfl

theorem ok_of_run_bind {c : Handler σ α} {f : α → Handler σ β} {b : β}
    (h : (c >>= f).run.run w = (.ok b, w')) :
    ∃ a u, c.run.run w = (.ok a, u) ∧ (f a).run.run u = (.ok b, w') := by
  cases hc : c.run.run w with | _ r u => ?_
  cases r with
  | ok a => exact ⟨a, u, rfl, run_bind_ok hc ▸ h⟩
  | error e =>
    rw [run_bind_error hc] at h
    cases h

theorem run_billing_ok {c : Billing σ α} {a : α} :
    (Handler.billing c).run.run w = (.ok a, w') ↔ c.on w = (.ok a, w') := by
  rw [Handler.billing, ExceptT.run_mk, StateT.run_mk]
  cases c.on w with | _ r u => ?_
  cases r with
  | ok b => exact ⟨fun h => by cases h; rfl, fun h => by cases h; rfl⟩
  | error e => exact ⟨fun h => (by cases h), fun h => (by cases h)⟩

theorem run_billing_error {c : Billing σ α} {e : BillingError} (h : c.on w = (.error e, w')) :
    (Handler.billing c).run.run w = (.error (ApiError.ofBilling e), w') := by
  rw [Handler.billing, ExceptT.run_mk, StateT.run_mk, h]

/-- What comes after a step and leaves the database alone leaves it as the step left it. -/
theorem store_bind {c : Handler σ α} {f : α → Handler σ β} (hf : ∀ a, Moves (OnStore Eq) (f a)) :
    ((c >>= f).run.run w).2.store = (c.run.run w).2.store := by
  cases h : c.run.run w with | _ r u => ?_
  cases r with
  | ok a => rw [run_bind_ok h]; exact (hf a u).symm
  | error e => rw [run_bind_error h]

theorem store_billing (c : Billing σ α) :
    ((Handler.billing c).run.run w).2.store = (c.on w).2.store := by
  rw [state_billing]

theorem run_organization (id : Uuid) :
    (Handler.organization id : Handler σ Organization).run.run w =
      ((match w.store.organization? id with
        | some o => .ok o
        | none => .error .notFound), w) := by
  have : (Handler.billing (Billing.transact (getOrganization id)) :
      Handler σ (Option Organization)).run.run w = (.ok (w.store.organization? id), w) := rfl
  rw [Handler.organization, run_bind_ok this]
  cases w.store.organization? id <;> rfl

theorem organization_ok {id : Uuid} {o : Organization}
    (h : (Handler.organization id : Handler σ Organization).run.run w = (.ok o, w')) :
    w.store.organization? id = some o ∧ w' = w := by
  rw [run_organization] at h
  cases ho : w.store.organization? id with
  | none =>
    rw [ho] at h
    cases h
  | some found =>
    rw [ho] at h
    cases h
    exact ⟨rfl, rfl⟩

theorem run_customerOf (o : Organization) :
    (Handler.customerOf o : Handler σ String).run.run w =
      ((match o.customerId with
        | some customer => .ok customer
        | none => .error (.validation "Organization has no billing customer")), w) := by
  unfold Handler.customerOf
  cases o.customerId <;> rfl

end Handlers

omit [PaymentProvider σ] in
theorem delivers_webhook (app : App) (now : Int) (signature : Option String) (payload : String)
    (w : World σ) :
    Delivers now (do
        let header ← signature.filter Handler.isReadableHeader
        (Webhook.Event.ofDelivery payload header app.webhookSecret (now / 1000000)).toOption)
      w.store ((Handler.webhook app now signature payload).run.run w).2.store := by
  unfold Handler.webhook
  cases signature.filter Handler.isReadableHeader with
  | none => exact .refl
  | some header =>
    simp only [Option.bind_eq_bind, Option.bind_some]
    cases Webhook.Event.ofDelivery payload header app.webhookSecret (now / 1000000) with
    | error e => exact .refl
    | ok e => exact (store_bind fun _ => moves_pure _).trans (store_billing _)

theorem delivers_completeCheckout (o : Occasion) (id : Uuid) (w : World σ) :
    Delivers o.now (do
        let _ ← PaymentProvider.recordSubscription? (σ := σ)
        let organization ← w.store.organization? id
        return Handler.completionEvent o (← organization.customerId))
      w.store ((Handler.completeCheckout o id).run.run w).2.store := by
  unfold Handler.completeCheckout
  cases PaymentProvider.recordSubscription? (σ := σ) with
  | none => exact .refl
  | some record =>
    have horg := run_organization (w := w) id
    simp only [Option.bind_eq_bind, Option.bind_some]
    cases h : w.store.organization? id with
    | none =>
      rw [h] at horg
      rw [run_bind_error horg]
      exact .refl
    | some organization =>
      rw [h] at horg
      rw [Option.bind_some, run_bind_ok horg]
      have hcustomer := run_customerOf (w := w) organization
      cases hc : organization.customerId with
      | none =>
        rw [hc] at hcustomer
        rw [run_bind_error hcustomer]
        exact .refl
      | some customer =>
        rw [hc] at hcustomer
        rw [run_bind_ok hcustomer]
        exact (store_bind fun _ => .bind (moves_billing (moves_onProvider _)) fun _ =>
          moves_pure _).trans (store_billing _)

/-! ### Requests -/

omit [PaymentProvider σ] in
theorem run_respond_ok {h : Handler σ Json} {body : Json} {w w' : World σ}
    (hrun : h.run.run w = (.ok body, w')) : (respond h).run w = (.ok body, w') := by
  rw [respond, StateT.run_bind, hrun]
  rfl

omit [PaymentProvider σ] in
theorem run_respond_error {h : Handler σ Json} {e : ApiError} {w w' : World σ}
    (hrun : h.run.run w = (.error e, w')) :
    (respond h).run w = (⟨e.status, some e.body⟩, w') := by
  rw [respond, StateT.run_bind, hrun]
  rfl

theorem ApiError.status_ne (e : ApiError) : e.status ≠ 200 := by
  cases e <;> simp [ApiError.status]

omit [PaymentProvider σ] in
/-- An answer of success has the body that the handler gave. -/
theorem ok_of_run_respond {h : Handler σ Json} {r : HttpResponse} {w w' : World σ}
    (hrun : (respond h).run w = (r, w')) (hok : r.status = 200) :
    ∃ body, h.run.run w = (.ok body, w') ∧ r = .ok body := by
  rw [respond, StateT.run_bind] at hrun
  cases hh : h.run.run w with | _ result u => ?_
  rw [hh] at hrun
  cases result with
  | ok body =>
    cases hrun
    exact ⟨body, rfl, rfl⟩
  | error e =>
    cases hrun
    exact absurd hok e.status_ne

omit [PaymentProvider σ] in
theorem store_respond (h : Handler σ Json) (w : World σ) :
    ((respond h).run w).2.store = (h.run.run w).2.store := by
  rw [respond, StateT.run_bind]
  rcases h.run.run w with ⟨_ | _, _⟩ <;> rfl

/-- A request that its route allows, and that wants more than the head, is answered by what the
route is for. -/
theorem run_answer {r : HttpRequest} {route : Route} (hroute : Route.ofPath? r.path = some route)
    (hallows : route.allows r.method = true) (hhead : r.method ≠ "HEAD") (app : App) (o : Occasion)
    (w : World σ) : (answer app o r).run w = (follow app o r route).run w := by
  unfold answer
  rw [hroute]
  dsimp only
  rw [if_pos hallows]
  simp only [if_neg hhead]
  rfl

theorem delivers_follow (app : App) (o : Occasion) (r : HttpRequest) (route : Route) (w : World σ) :
    Delivers o.now (route.delivery? app o r w) w.store ((follow app o r route).run w).2.store := by
  have moves (id : List Char) (h : Uuid → Handler σ Json)
      (hh : ∀ id, Moves (OnStore ServiceSteps) (h id)) :
      ServiceSteps w.store ((respondFor id h).run w).2.store := by
    unfold respondFor
    cases Route.organizationId? id with
    | some id => rw [store_respond]; exact hh id w
    | none => exact .refl
  cases route with
  | health => exact .refl
  | webhook =>
    dsimp only [follow, Route.delivery?]
    by_cases hlength : bodyLimit < r.body.length
    · have stop : guard (r.body.length ≤ bodyLimit) = (none : Option Unit) :=
        if_neg (Nat.not_le_of_lt hlength)
      rw [if_pos hlength, stop]
      exact .refl
    · have pass : guard (r.body.length ≤ bodyLimit) = some () := if_pos (Nat.le_of_not_lt hlength)
      rw [if_neg hlength, pass, Option.bind_eq_bind, Option.bind_some]
      cases Text.ofUtf8? r.body with
      | none => exact .refl
      | some payload =>
        rw [store_respond]
        exact delivers_webhook app o.now r.signature payload w
  | checkout id => exact moves id _ (moves_checkout app)
  | portal id => exact moves id _ (moves_portal app)
  | subscriptions id => exact moves id _ (moves_subscriptions app)
  | completeCheckout id =>
    simp only [follow, Route.delivery?, respondFor, Option.bind_eq_bind]
    cases Route.organizationId? id with
    | none => exact .refl
    | some id =>
      rw [store_respond, Option.bind_some]
      exact delivers_completeCheckout o id w

/-- A request does to the database what handling the event does that it hands on. -/
theorem delivers_answer (app : App) (o : Occasion) (r : HttpRequest) (w : World σ) :
    Delivers o.now (delivery? app o r w) w.store ((answer app o r).run w).2.store := by
  unfold answer delivery?
  cases Route.ofPath? r.path with
  | none => exact .refl
  | some route =>
    show Delivers o.now (do
      guard (route.allows r.method)
      route.delivery? app o r w) _ _
    by_cases h : route.allows r.method
    · have pass : guard (route.allows r.method) = some () := if_pos h
      rw [pass]
      dsimp only
      rw [if_pos h]
      exact delivers_follow app o r route w
    · have stop : guard (route.allows r.method) = (none : Option Unit) := if_neg h
      rw [stop]
      dsimp only
      rw [if_neg h]
      exact .refl

end OrgBilling.Server
