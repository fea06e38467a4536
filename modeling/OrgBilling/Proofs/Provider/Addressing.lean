import OrgBilling.Proofs.Provider.Exchange
import OrgBilling.Proofs.Url.Path

/-!
# Which object a request is about

Seven of the operations over a connection are about one object. Each of them sends one request and
names the object by its id, which is put behind the path of a collection as it is (`Concerns.sends`).
So the path is at the mercy of the id. It leads to this id in the collection exactly if the id is
plain (`Concerns.addresses_iff`), and then to no other; an id that goes up with points leads out of
the collection, to whatever path of the interface stands behind the points (`ObjectKind.path_ascent`).
-/

namespace OrgBilling.Provider.Connection

open Url

/-! ### Collections of objects -/

/-- The kinds of objects that a request names by an id. -/
inductive ObjectKind where
  /-- A checkout session. -/
  | checkoutSession
  /-- A subscription. -/
  | subscription
  /-- A product. -/
  | product
  /-- A price. -/
  | price

namespace ObjectKind

/-- The collection of the objects of a kind. -/
def collection : ObjectKind → String
  | checkoutSession => "/checkout/sessions/"
  | subscription => "/subscriptions/"
  | product => "/products/"
  | price => "/prices/"

/-- The path of a request about the object of a kind with an id. -/
def path (k : ObjectKind) (id : String) : String :=
  Url.requestPath (k.collection ++ id)

/-- The names above the objects of a kind, the nearest one first. -/
def names : ObjectKind → List (List Char)
  | checkoutSession => ["sessions".toList, "checkout".toList, "v1".toList]
  | subscription => ["subscriptions".toList, "v1".toList]
  | product => ["products".toList, "v1".toList]
  | price => ["prices".toList, "v1".toList]

/-- The points that lead from the objects of a kind up to the version. -/
def ascent : ObjectKind → String
  | checkoutSession => "../../"
  | subscription | product | price => "../"

theorem toList_collection (k : ObjectKind) :
    ("/v1" ++ k.collection).toList = through k.names.reverse ++ ['/'] := by
  cases k <;> decide

theorem toList_path (k : ObjectKind) (id : String) :
    (k.path id).toList = through (resolve k.names (segments (retained id.toList))) := by
  have split : 'v' :: '1' :: '/' :: (k.collection ++ id).toList.dropWhile (· == '/') =
      (through k.names.reverse).tail ++ '/' :: id.toList := by
    rw [String.toList_append]
    cases k <;> rfl
  have above : segments (retained (through k.names.reverse).tail) = k.names.reverse := by
    cases k <;> decide
  have named : ∀ s ∈ k.names.reverse, ¬ IsDotSegment s := by cases k <;> decide
  have encoded : (k.names.reverse.map Url.encode).reverse = k.names := by cases k <;> decide
  rw [path, toList_requestPath split, above, resolve_append named, encoded, List.append_nil]

theorem addresses_path_iff (k : ObjectKind) (id : String) :
    Addresses ("/v1" ++ k.collection) (k.path id) id ↔ IsPlain id :=
  addresses_iff k.toList_collection (k.toList_path id)

/-- Whatever the kind, every path of the interface is the path of some id. -/
theorem path_ascent (k : ObjectKind) {path : String} (h : path.toList.head? ≠ some '/') :
    k.path (k.ascent ++ path) = Url.requestPath path := by
  have ne : segments (retained path.toList) ≠ [] := Text.splitWhere_ne_nil _ _
  rw [← String.toList_inj, toList_path, toList_requestPath_of_head h, String.toList_append]
  cases k with
  | checkoutSession =>
    change through (resolve _ (segments (retained
      ('.' :: '.' :: '/' :: '.' :: '.' :: '/' :: path.toList)))) = _
    rw [segments_up, segments_up, names, resolve_up (by decide) _ (List.cons_ne_nil _ _),
      resolve_up (by decide) _ ne]
    rfl
  | subscription | product | price =>
    change through (resolve _ (segments (retained ('.' :: '.' :: '/' :: path.toList)))) = _
    rw [segments_up, names, resolve_up (by decide) _ ne]
    rfl

end ObjectKind

/-! ### Operations on one object -/

/-- An operation is on the object of a kind with an id. A subscription is read for its customer. -/
inductive Concerns : ObjectKind → String → {α : Type} → Call Connection α → Prop where
  | getCheckoutSession (id : String) :
    Concerns .checkoutSession id (PaymentProvider.getCheckoutSession id)
  | getCustomer (id : String) : Concerns .subscription id (PaymentProvider.getCustomer id)
  | retrieveProduct (id : String) : Concerns .product id (PaymentProvider.retrieveProduct id)
  | updateProduct (id : String) (d : ProductDetails) :
    Concerns .product id (PaymentProvider.updateProduct id d)
  | deleteProduct (id : String) : Concerns .product id (PaymentProvider.deleteProduct id)
  | retrievePrice (id : String) : Concerns .price id (PaymentProvider.retrievePrice id)
  | updatePrice (id : String) (active : Bool) :
    Concerns .price id (PaymentProvider.updatePrice id active)

namespace Concerns

variable {k : ObjectKind} {id : String} {α : Type} {op : Call Connection α}

theorem sends (h : Concerns k id op) (c : Connection) :
    ∃ r : Request, (op.on c).2 = c.after [r] ∧ r.path = k.path id := by
  cases h <;> exact ⟨_, (performs_send _ _ _ _ _).sends c, rfl⟩

/-- An operation on an object sends one request, and the request is about this object exactly if the
id is plain. -/
theorem addresses_iff (h : Concerns k id op) (c : Connection) :
    ∃ r : Request, (op.on c).2 = c.after [r] ∧ r.path = k.path id ∧
      (Addresses ("/v1" ++ k.collection) r.path id ↔ IsPlain id) := by
  obtain ⟨r, hr, hpath⟩ := h.sends c
  refine ⟨r, hr, hpath, ?_⟩
  rw [hpath]
  exact k.addresses_path_iff id

end Concerns

/-! ### Checkout sessions -/

/-- The checkout session with an id is asked for by one request. Its path leads to this id in the
collection of checkout sessions, as one segment that reads as the id, exactly if the id is plain. No
two plain ids have the same path. -/
theorem session_addressed_iff (c : Connection) (id : String) :
    ∃ r : Request, ((PaymentProvider.getCheckoutSession id).on c).2 = c.after [r] ∧
      r.path = ObjectKind.checkoutSession.path id ∧
      (Addresses "/v1/checkout/sessions/" r.path id ↔ IsPlain id) ∧
      ∀ id', IsPlain id → IsPlain id' → ObjectKind.checkoutSession.path id' = r.path → id' = id := by
  obtain ⟨r, hr, hpath, haddress⟩ := (Concerns.getCheckoutSession id).addresses_iff c
  refine ⟨r, hr, hpath, haddress, fun id' h h' heq => ?_⟩
  have haddress' := (ObjectKind.checkoutSession.addresses_path_iff id').2 h'
  rw [heq] at haddress'
  exact haddress'.unique (haddress.2 h)

/-- A connection over which nothing is found. -/
def withoutObjects : Connection where
  secretKey := "sk_test_1"
  endpoint := { pending := [], afterwards := .answered 404 "", received := [] }

/-- A plain id with characters that a path holds only in percent-encoding, and with a percent sign. -/
def reservedId : String := "cs_1?x=50%&y#é.."

/-- Reserved characters are encoded and read back, and a percent sign that stands for itself stays. -/
theorem session_addressed_iff_of_reservedId :
    IsPlain reservedId ∧ IsPlain "cs_1" ∧
      ∃ r : Request,
        ((PaymentProvider.getCheckoutSession reservedId).on withoutObjects).2 =
          withoutObjects.after [r] ∧
        r.path = "/v1/checkout/sessions/cs_1%3Fx=50%&y%23%C3%A9.." ∧
        Addresses "/v1/checkout/sessions/" r.path reservedId ∧
        ObjectKind.checkoutSession.path "cs_1" ≠ r.path := by
  have plain : IsPlain reservedId := by decide
  have plain' : IsPlain "cs_1" := by decide
  have path : ObjectKind.checkoutSession.path reservedId =
      "/v1/checkout/sessions/cs_1%3Fx=50%&y%23%C3%A9.." := by decide +kernel
  obtain ⟨r, hr, hpath, haddress, unique⟩ := session_addressed_iff withoutObjects reservedId
  refine ⟨plain, plain', r, hr, hpath.trans path, haddress.2 plain, fun heq => ?_⟩
  exact absurd (unique "cs_1" plain plain' heq) (by decide)

/-- An id with points and slashes is not addressed as a checkout session, but leads to a customer. -/
theorem not_session_addressed_of_points :
    (∃ r : Request,
      ((PaymentProvider.getCheckoutSession "../../customers/cus_1").on withoutObjects).2 =
        withoutObjects.after [r] ∧ r.path = "/v1/customers/cus_1") ∧
    ¬ ∀ (c : Connection) (id : String), ∃ r : Request,
      ((PaymentProvider.getCheckoutSession id).on c).2 = c.after [r] ∧
        Addresses "/v1/checkout/sessions/" r.path id := by
  obtain ⟨r, hr, hpath, haddress⟩ :=
    (Concerns.getCheckoutSession "../../customers/cus_1").addresses_iff withoutObjects
  have customer : Url.requestPath "customers/cus_1" = "/v1/customers/cus_1" := by decide +kernel
  have up : ObjectKind.checkoutSession.path ("../../" ++ "customers/cus_1") =
      Url.requestPath "customers/cus_1" :=
    ObjectKind.checkoutSession.path_ascent (by decide)
  refine ⟨⟨r, hr, hpath.trans (up.trans customer)⟩, fun h => ?_⟩
  obtain ⟨r', hr', haddress'⟩ := h withoutObjects "../../customers/cus_1"
  have answered : withoutObjects.endpoint.outcome 0 = .answered 404 "" := rfl
  obtain rfl := after_singleton_inj answered (hr.symm.trans hr')
  exact (haddress.1 haddress').slash_notMem (by decide)

end OrgBilling.Provider.Connection
