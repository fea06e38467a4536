import OrgBilling.Config.Provider
import OrgBilling.Config.Server
import OrgBilling.Server.Error
import OrgBilling.Server.Route
import OrgBilling.Service.Checkout
import OrgBilling.Webhook.Handler

/-!
# Answering HTTP requests

`Server.answer` answers one request: it finds the route, checks the method, reads the organization's
id or the body, and does what the route is for. A request that gets no further than this is answered
without a JSON body; a request that fails later is answered with an `ApiError`.

The server stands behind a gateway that has made sure that the client may act for the organization.
A body is read only for a route that needs it, and only up to a length (`bodyLimit`).
-/

namespace OrgBilling.Server

/-- A request. -/
structure HttpRequest where
  /-- The method. -/
  method : String
  /-- The path. -/
  path : String
  /-- The header with the signature of a delivery. -/
  signature : Option String
  /-- The bytes of the body. -/
  body : List UInt8

/-- An answer. -/
structure HttpResponse where
  /-- The status. -/
  status : Nat
  /-- The body, if it is JSON. -/
  body : Option Json

/-- An answer of success. -/
def HttpResponse.ok (body : Json) : HttpResponse := ⟨200, some body⟩

/-- An answer without a JSON body. -/
def HttpResponse.bare (status : Nat) : HttpResponse := ⟨status, none⟩

/-- What the server knows besides its database and provider. -/
structure App where
  /-- The kind of provider. -/
  backend : Config.Backend
  /-- The secret that deliveries are signed with. -/
  webhookSecret : String
  /-- The address under which people reach the application. -/
  baseUrl : String
  /-- How the database compares texts. -/
  collation : Store.Collation
  /-- How the database arranges lists of subscriptions. -/
  order : collation.Arrangement Subscription.subscriptionId

/-- What one request brings along from outside. -/
structure Occasion where
  /-- The time, in microseconds. -/
  now : Int
  /-- An id that no event has had. -/
  eventId : String
  /-- An id that no subscription has had. -/
  subscriptionId : String

/-- The greatest length of a body in bytes: two mebibytes. A longer one is not read. -/
def bodyLimit : Nat := 2097152

/-- The version of the server. -/
def version : String := "1.0.0"

/-- A computation that ends with an answer or with an error. -/
abbrev Handler (σ : Type) := ExceptT ApiError (StateM (World σ))

variable {σ : Type} [PaymentProvider σ]

namespace Handler

/-- A billing operation as a step of a handler. -/
def billing {α : Type} (c : Billing σ α) : Handler σ α :=
  ExceptT.mk (StateT.mk fun w =>
    match c.on w with
    | (.ok a, w') => (.ok a, w')
    | (.error e, w') => (.error (ApiError.ofBilling e), w'))

/-- The organization with an id, which has to exist. -/
def organization (id : Uuid) : Handler σ Organization := do
  match ← billing (Billing.transact (Store.getOrganization id)) with
  | some o => pure o
  | none => throw .notFound

/-- The customer of an organization, which has to hold one. -/
def customerOf (o : Organization) : Handler σ String :=
  match o.customerId with
  | some customer => pure customer
  | none => throw (.validation "Organization has no billing customer")

/-- The page that the provider's pages lead back to. -/
def billingUrl (app : App) (id : Uuid) : String :=
  app.baseUrl ++ "/organizations/" ++ id.text ++ "/billing"

/-- Tell the state of the server. -/
def health (app : App) : Json :=
  .object
    [("status", .string "ok"),
     ("version", .string version),
     ("billing_backend", .string app.backend.name)]

/-- Start a checkout of the default price. -/
def checkout (app : App) (id : Uuid) : Handler σ Json := do
  let o ← organization id
  let customer ← billing (Checkout.organizationCustomer o)
  let price ← billing Checkout.defaultPrice
  match price.priceId with
  | none => throw .internal
  | some priceId =>
    let url := billingUrl app id
    let session ← billing <|
      Billing.onProvider (PaymentProvider.createCheckoutSession customer priceId url url)
    pure (.object [("session_id", .string session.id), ("url", .ofOption session.url)])

/-- Start a visit to the billing pages. -/
def portal (app : App) (id : Uuid) : Handler σ Json := do
  let customer ← customerOf (← organization id)
  let session ← billing <|
    Billing.onProvider (PaymentProvider.createPortalSession customer (billingUrl app id))
  pure (.object [("portal_url", .string session.url)])

/-- How a subscription is shown to clients. -/
def subscriptionJson (s : Subscription) : Json :=
  .object
    [("id", s.id.toJson),
     ("subscription_id", .string s.subscriptionId),
     ("customer_id", .string s.customerId),
     ("status", s.status.toJson),
     ("status_label", .string s.status.label),
     ("is_restricted", .bool s.isRestricted)]

/-- List the subscriptions of an organization. -/
def subscriptions (app : App) (id : Uuid) : Handler σ Json := do
  let _ ← organization id
  let subs ← billing (Billing.transact (Store.subscriptionsByOrganization app.order id))
  pure (.array (subs.map subscriptionJson))

/-- A header that can be read as text: its characters are visible ones of ASCII, spaces or tabs. -/
def isReadableHeader (text : String) : Bool :=
  text.toList.all fun c => (32 ≤ c.toNat && c.toNat < 127) || c == '\t'

/-- Take a delivery of a webhook event. -/
def webhook (app : App) (now : Int) (signature : Option String) (payload : String) :
    Handler σ Json := do
  match signature.filter isReadableHeader with
  | none => throw (.badRequest "Missing stripe-signature header")
  | some header =>
    match Webhook.Event.ofDelivery payload header app.webhookSecret (now / 1000000) with
    | .error e => throw (ApiError.ofBilling e)
    | .ok event =>
      let result ← billing (Billing.onStore (Webhook.handle now event))
      pure
        (.object
          [("received", .bool true), ("duplicate", .bool (decide (result = .duplicate)))])

/-- The event of a completed checkout. -/
def completionEvent (o : Occasion) (customer : String) : Webhook.Event where
  id := o.eventId
  type := Webhook.checkoutCompleted
  created := o.now / 1000000
  object :=
    .object
      [("object", .string "checkout.session"),
       ("customer", .string customer),
       ("status", .string "complete"),
       ("subscription", .string o.subscriptionId)]

/-- Complete a checkout of the provider in memory: the event of its completion is handled, and then
the provider is told whose the new subscription is. Other providers have no such route. -/
def completeCheckout (o : Occasion) (id : Uuid) : Handler σ Json := do
  match PaymentProvider.recordSubscription? (σ := σ) with
  | none => throw .notFound
  | some record =>
    let customer ← customerOf (← organization id)
    let _ ← billing (Billing.onStore (Webhook.handle o.now (completionEvent o customer)))
    billing (Billing.onProvider (modify (record o.subscriptionId customer)))
    pure (.object [("subscription_id", .string o.subscriptionId)])

end Handler

/-- Run a handler to its answer. -/
def respond (h : Handler σ Json) : StateM (World σ) HttpResponse := do
  match ← h.run with
  | .ok body => pure (.ok body)
  | .error e => pure ⟨e.status, some e.body⟩

/-- Run a handler for an organization, whose id has to be readable. -/
def respondFor (organization : List Char) (h : Uuid → Handler σ Json) :
    StateM (World σ) HttpResponse :=
  match Route.organizationId? organization with
  | some id => respond (h id)
  | none => pure (.bare 400)

/-- Do what a route is for. -/
def follow (app : App) (o : Occasion) (r : HttpRequest) : Route → StateM (World σ) HttpResponse
  | .health => pure (.ok (Handler.health app))
  | .webhook =>
    if bodyLimit < r.body.length then pure (.bare 413)
    else
      match Text.ofUtf8? r.body with
      | some payload => respond (Handler.webhook app o.now r.signature payload)
      | none => pure (.bare 400)
  | .checkout id => respondFor id (Handler.checkout app)
  | .portal id => respondFor id (Handler.portal app)
  | .subscriptions id => respondFor id (Handler.subscriptions app)
  | .completeCheckout id => respondFor id (Handler.completeCheckout o)

/-- Answer a request. -/
def answer (app : App) (o : Occasion) (r : HttpRequest) : StateM (World σ) HttpResponse :=
  match Route.ofPath? r.path with
  | none => pure (.bare 404)
  | some route =>
    if route.allows r.method then do
      let response ← follow app o r route
      pure (if r.method = "HEAD" then { response with body := none } else response)
    else pure (.bare 405)

end OrgBilling.Server
