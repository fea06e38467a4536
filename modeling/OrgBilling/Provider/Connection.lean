import OrgBilling.Config.Provider
import OrgBilling.Provider.Api
import OrgBilling.Provider.Endpoint
import OrgBilling.Provider.ErrorReply
import OrgBilling.Text.Decimal
import OrgBilling.Url.Path

/-!
# A payment provider over its REST interface

`Connection` is a provider that is reached by requests: each of its operations sends one request and
reads the answer. An answer of success has to decode as what was asked for, and an answer of failure
as an error that the provider reports; nothing is sent twice. What follows the first JSON value of
an answer is not looked at.

The object that an operation is about is named in the path by text that is put there as it is, so
what `Url.requestPath` makes of a path decides which object that is.
-/

namespace OrgBilling.Provider

/-- A connection to an endpoint under a secret key. -/
structure Connection where
  /-- The key that authorizes the requests. -/
  secretKey : String
  /-- The endpoint. -/
  endpoint : Endpoint

namespace Connection

/-- Parameters of a request. -/
abbrev Params := List (String × String)

/-- Send a request and read the answer. -/
def send {α : Type} (answer : Decoder α) (method : Method) (path : String) (query form : Params) :
    Call Connection α := do
  let c ← get
  let request : Request :=
    { method
      path := Url.requestPath path
      query
      form
      authorization := "Bearer " ++ c.secretKey
      version := Config.clientApiVersion }
  set { c with endpoint := c.endpoint.accept request }
  match c.endpoint.nextOutcome with
  | .unreachable reason => throw (.provider (.unreachable reason))
  | .answered status body =>
    if 200 ≤ status ∧ status < 300 then
      match Decoder.runFirst? answer body with
      | some a => pure a
      | none => throw (.provider .undecodable)
    else
      match Decoder.runFirst? ErrorReply.decode body with
      | some e => throw (.provider (.reported e.type status e.explanation))
      | none => throw (.provider .undecodable)

/-- Read an object. -/
def fetch {α : Type} (answer : Decoder α) (path : String) (query : Params) : Call Connection α :=
  send answer .get path query []

/-- Make or change an object. -/
def submit {α : Type} (answer : Decoder α) (path : String) (form : Params) : Call Connection α :=
  send answer .post path [] form

/-- A list of values under one name, numbered from zero. -/
def numbered (name : String) (values : List String) : Params :=
  values.zipIdx.map fun (v, i) => (s!"{name}[{i}]", v)

/-- A value that is left out where there is none. -/
def optional (name : String) (value : Option String) : Params :=
  match value with
  | some v => [(name, v)]
  | none => []

/-- The length of a page. -/
def limited (limit : Nat) : Params :=
  [("limit", Text.Decimal.ofInt limit)]

/-- The form of a new product. An empty description is left out. -/
def newProductForm (d : ProductDetails) : Params :=
  ("name", d.name) ::
    (if d.description.isEmpty then [] else [("description", d.description)]) ++
    optional "tax_code" d.taxCode

/-- The form of a changed product. An empty description is sent, so that the old one goes away. -/
def changedProductForm (d : ProductDetails) : Params :=
  ("name", d.name) :: ("description", d.description) :: optional "tax_code" d.taxCode

/-- The form of a new price. -/
def newPriceForm (t : PriceTerms) : Params :=
  ("unit_amount", Text.Decimal.ofInt t.unitAmount) ::
    ("currency", t.currency) ::
    ("recurring[interval]", t.recurring.name) ::
    ("product", t.product) ::
    optional "tax_behavior" t.taxBehavior

/-- The form of a checkout of one unit. The provider puts the id of the session in the place that
the address after success leaves for it. -/
def checkoutForm (customer price successUrl cancelUrl : String) : Params :=
  [("customer", customer),
   ("success_url", successUrl ++ "?session_id=\x7bCHECKOUT_SESSION_ID\x7d"),
   ("cancel_url", cancelUrl),
   ("mode", "subscription"),
   ("line_items[0][price]", price),
   ("line_items[0][quantity]", "1")]

instance : PaymentProvider Connection where
  getCheckoutSession id :=
    fetch CheckoutSession.decode ("/checkout/sessions/" ++ id)
      (numbered "expand" ["customer", "line_items", "subscription"])
  getCustomer subscription :=
    fetch decodeSubscriptionCustomer ("/subscriptions/" ++ subscription)
      (numbered "expand" ["customer"])
  createCustomer name description :=
    submit Customer.decode "/customers" [("name", name), ("description", description)]
  createCheckoutSession customer price successUrl cancelUrl :=
    submit CheckoutSession.decode "/checkout/sessions"
      (checkoutForm customer price successUrl cancelUrl)
  createPortalSession customer returnUrl :=
    submit PortalSession.decode "/billing_portal/sessions"
      [("customer", customer), ("return_url", returnUrl)]
  createProduct d := submit Product.decode "/products" (newProductForm d)
  retrieveProduct id := fetch Product.decode ("/products/" ++ id) []
  updateProduct id d := submit Product.decode ("/products/" ++ id) (changedProductForm d)
  listProducts limit := fetch (Page.decode Product.decode) "/products" (limited limit)
  deleteProduct id := send Deleted.decode .delete ("/products/" ++ id) [] []
  searchProducts query limit :=
    fetch (Page.decode Product.decode) "/products/search" (("query", query) :: limited limit)
  createPrice t := submit Price.decode "/prices" (newPriceForm t)
  retrievePrice id := fetch Price.decode ("/prices/" ++ id) []
  updatePrice id active :=
    submit Price.decode ("/prices/" ++ id) [("active", if active then "true" else "false")]
  listPrices limit := fetch (Page.decode Price.decode) "/prices" (limited limit)
  searchPrices query limit :=
    fetch (Page.decode Price.decode) "/prices/search" (("query", query) :: limited limit)
  recordSubscription? := none

end Connection

end OrgBilling.Provider
