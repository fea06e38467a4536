import Mathlib.Algebra.Order.Ring.Int
import Mathlib.Data.List.Range
import OrgBilling.Proofs.Provider.Sessions

/-!
# What the provider in memory remembers

A history is a row of requests with their answers, oldest first (`converse`). What has been answered
tells what the provider holds: a product is as it was when it was last made or updated, until it is
deleted (`lastProduct`), and so are prices, sessions and the owners of subscriptions. From a provider
without objects on, whatever has been asked, every request is answered so (`Request.IsFaithful`).

Each object gets an id that tells its number (`number_objectId`), of whatever kind the object is. The
numbers are given out one after another, so no id is given to two objects (`memory_faithful`).
-/

namespace OrgBilling.Provider.Sandbox

variable {s : Sandbox}

/-! ### Requests and answers -/

/-- What the provider answers. -/
inductive Answer
  /-- A checkout session. -/
  | session (x : CheckoutSession)
  /-- A customer. -/
  | customer (c : Customer)
  /-- A visit to the billing pages. -/
  | portal (x : PortalSession)
  /-- A product. -/
  | product (p : Product)
  /-- Some products. -/
  | products (found : Page Product)
  /-- Something has been deleted. -/
  | deleted (d : Deleted)
  /-- A price. -/
  | price (p : Price)
  /-- Some prices. -/
  | prices (found : Page Price)
  /-- The owner has been noted. -/
  | noted

/-- What a request is answered. -/
def Request.answer (s : Sandbox) : Request → Except BillingError Answer
  | getCheckoutSession id => ((Sandbox.getCheckoutSession id).on s).1.map .session
  | getCustomer subscription => ((Sandbox.getCustomer subscription).on s).1.map .customer
  | createCustomer name description =>
    ((Sandbox.createCustomer name description).on s).1.map .customer
  | createCheckoutSession customer price successUrl cancelUrl =>
    ((Sandbox.createCheckoutSession customer price successUrl cancelUrl).on s).1.map .session
  | createPortalSession customer returnUrl =>
    ((Sandbox.createPortalSession customer returnUrl).on s).1.map .portal
  | createProduct d => ((Sandbox.createProduct d).on s).1.map .product
  | retrieveProduct id => ((Sandbox.retrieveProduct id).on s).1.map .product
  | updateProduct id d => ((Sandbox.updateProduct id d).on s).1.map .product
  | listProducts limit => ((PaymentProvider.listProducts limit).on s).1.map .products
  | deleteProduct id => ((Sandbox.deleteProduct id).on s).1.map .deleted
  | searchProducts query limit =>
    ((PaymentProvider.searchProducts query limit).on s).1.map .products
  | createPrice t => ((Sandbox.createPrice t).on s).1.map .price
  | retrievePrice id => ((Sandbox.retrievePrice id).on s).1.map .price
  | updatePrice id active => ((Sandbox.updatePrice id active).on s).1.map .price
  | listPrices limit => ((PaymentProvider.listPrices limit).on s).1.map .prices
  | searchPrices query limit => ((PaymentProvider.searchPrices query limit).on s).1.map .prices
  | recordSubscription _ _ => .ok .noted

/-- The session with an id. -/
def session? (id : String) (s : Sandbox) : Option CheckoutSession :=
  s.sessions.find? (·.id == id)

/-- The customer of a subscription. -/
def customerOf? (subscription : String) (s : Sandbox) : Option Customer := do
  let customer ← s.owners.lookup subscription
  s.customers.find? (·.id == customer)

/-- The customer that is made with a number. -/
def newCustomer (name description : String) (n : Nat) : Customer :=
  ⟨objectId "cus" n, some name, some description, none⟩

/-- The visit that is made with a number. -/
def newPortal (customer returnUrl : String) (n : Nat) : PortalSession :=
  ⟨objectId "bps" n, returnUrl, some customer, some returnUrl⟩

theorem map_found {α β : Type} (f : α → β) (what : Missing) (o : Option α) :
    (found what o).map f = found what (o.map f) := by
  cases o <;> rfl

/-- What each request is answered. -/
theorem Request.answer_eq (h : s.Sound) (r : Request) : r.answer s =
    match r with
    | getCheckoutSession id => found (.checkoutSession id) ((s.session? id).map .session)
    | getCustomer subscription =>
      found (.subscriptionCustomer subscription) ((s.customerOf? subscription).map .customer)
    | createCustomer name description => .ok (.customer (newCustomer name description s.next))
    | createCheckoutSession customer price successUrl _ =>
      .ok (.session (newSession customer price successUrl s.next))
    | createPortalSession customer returnUrl => .ok (.portal (newPortal customer returnUrl s.next))
    | createProduct d => .ok (.product (newProduct d s.next))
    | retrieveProduct id => found (.product id) ((s.product? id).map .product)
    | updateProduct id d =>
      found (.product id) ((s.product? id).map fun p => .product (revised d p))
    | listProducts limit => .ok (.products (page s.products limit))
    | deleteProduct id =>
      found (.product id) ((s.product? id).map fun _ => .deleted ⟨id, true⟩)
    | searchProducts query limit => .ok (.products (page (s.findProducts query) limit))
    | createPrice t =>
      found (.product t.product) ((s.product? t.product).map fun _ => .price (newPrice t s.next))
    | retrievePrice id => found (.price id) ((s.price? id).map .price)
    | updatePrice id active =>
      found (.price id) ((s.price? id).map fun p => .price { p with active })
    | listPrices limit => .ok (.prices (page s.prices limit))
    | searchPrices query limit => .ok (.prices (page (s.findPrices query) limit))
    | recordSubscription _ _ => .ok .noted := by
  cases r with
  | getCheckoutSession id =>
    rw [answer, Sandbox.getCheckoutSession, Call.on_bind]
    exact (congrArg _ (congrArg _ (on_orMissing _ _ s))).trans (map_found _ _ _)
  | getCustomer subscription =>
    rw [answer, Sandbox.getCustomer, Call.on_bind]
    exact (congrArg _ (congrArg _ (on_orMissing _ _ s))).trans (map_found _ _ _)
  | retrieveProduct id => rw [answer, on_retrieveProduct, map_found]
  | updateProduct id d => rw [answer, on_updateProduct h, map_found, Option.map_map]; rfl
  | deleteProduct id =>
    rw [answer, Sandbox.deleteProduct, Call.on_bind, on_retrieveProduct]
    dsimp only
    cases s.product? id <;> rfl
  | createPrice t =>
    rw [answer, on_createPrice]
    dsimp only
    cases s.product? t.product <;> rfl
  | retrievePrice id => rw [answer, on_retrievePrice, map_found]
  | updatePrice id active => rw [answer, on_updatePrice h, map_found, Option.map_map]; rfl
  | _ => rfl

/-- What each request leaves. -/
theorem Request.after_eq (h : s.Sound) (r : Request) : r.after s =
    match r with
    | createCustomer name description =>
      { s with
        next := s.next + 1
        customers := putCustomer (newCustomer name description s.next) s.customers }
    | createCheckoutSession customer price successUrl _ => s.addSession customer price successUrl
    | createPortalSession _ _ => { s with next := s.next + 1 }
    | createProduct d => s.addProduct d
    | updateProduct id d => s.reviseProduct id d
    | deleteProduct id => s.dropProduct id
    | createPrice t => if (s.product? t.product).isSome then s.addPrice t else s
    | updatePrice id active => s.switchPrices [id] active
    | recordSubscription subscription customer => Sandbox.recordSubscription subscription customer s
    | _ => s := by
  cases r with
  | getCheckoutSession id =>
    rw [after, Sandbox.getCheckoutSession, Call.on_bind]
    exact congrArg _ (on_orMissing _ _ s)
  | getCustomer subscription =>
    rw [after, Sandbox.getCustomer, Call.on_bind]
    exact congrArg _ (on_orMissing _ _ s)
  | retrieveProduct id => rw [after, on_retrieveProduct]
  | updateProduct id d => rw [after, on_updateProduct h]
  | deleteProduct id => rw [after, on_deleteProduct]
  | createPrice t =>
    rw [after, on_createPrice]
    dsimp only
    cases s.product? t.product <;> rfl
  | retrievePrice id => rw [after, on_retrievePrice]
  | updatePrice id active => rw [after, on_updatePrice h]
  | _ => rfl

/-- A request that fails changes nothing. -/
theorem Request.after_of_error (h : s.Sound) {r : Request} {e : BillingError}
    (he : r.answer s = .error e) : r.after s = s := by
  rw [r.answer_eq h] at he
  cases r with
  | updateProduct id d =>
    cases hp : s.product? id with
    | none => rw [after, Sandbox.updateProduct, Call.on_bind, on_retrieveProduct, hp]; rfl
    | some p => simp [hp, found] at he
  | deleteProduct id =>
    cases hp : s.product? id with
    | none => rw [after, Sandbox.deleteProduct, Call.on_bind, on_retrieveProduct, hp]; rfl
    | some p => simp [hp, found] at he
  | createPrice t =>
    cases hp : s.product? t.product with
    | none => rw [after, on_createPrice, hp]
    | some p => simp [hp, found] at he
  | updatePrice id active =>
    cases hp : s.price? id with
    | none => rw [after, Sandbox.updatePrice, Call.on_bind, on_retrievePrice, hp]; rfl
    | some p => simp [hp, found] at he
  | getCheckoutSession id => exact after_eq h _
  | getCustomer subscription => exact after_eq h _
  | retrieveProduct id => exact after_eq h _
  | retrievePrice id => exact after_eq h _
  | _ => cases he

/-! ### Numbers -/

/-- The number in an id: its last digits. -/
def number (id : String) : Nat :=
  Nat.ofDigitChars 10 (id.toList.reverse.takeWhile Char.isDigit).reverse 0

theorem isDigit_of_mem_padded {width n : Nat} {c : Char}
    (h : c ∈ (Text.Decimal.padded width n).toList) : c.isDigit = true := by
  rw [Text.Decimal.padded, String.toList_ofList, List.mem_append] at h
  rcases h with h | h
  · rw [List.eq_of_mem_replicate h]
    rfl
  · exact Nat.isDigit_of_mem_toDigits (by decide) (by decide) h

/-- An id tells the number of its object, whatever the kind. -/
theorem number_objectId (kind : String) (n : Nat) : number (objectId kind n) = n := by
  have digits : (objectId kind n).toList.reverse.takeWhile Char.isDigit =
      (Text.Decimal.padded 8 n).toList.reverse := by
    rw [objectId, String.toList_append, List.reverse_append, List.takeWhile_append_of_pos
      (fun c hc => isDigit_of_mem_padded (List.mem_reverse.1 hc)), String.toList_append,
      List.reverse_append]
    -- The digits end at the last letter of the mark between kind and number.
    exact List.append_nil _
  rw [number, digits, List.reverse_reverse, ofDigitChars_padded]

/-! ### Histories -/

/-- A request with its answer. -/
structure Exchange where
  /-- What has been asked. -/
  request : Request
  /-- What has been answered. -/
  answer : Except BillingError Answer

/-- The history of requests one after another. -/
def converse (s : Sandbox) : List Request → List Exchange
  | [] => []
  | r :: rs => ⟨r, r.answer s⟩ :: converse (r.after s) rs

theorem converse_concat (s : Sandbox) (rs : List Request) (r : Request) :
    converse s (rs ++ [r]) =
      converse s rs ++ [⟨r, r.answer (rs.foldl Request.after s)⟩] := by
  induction rs generalizing s with
  | nil => rfl
  | cons r' rs ih => exact congrArg _ (ih (r'.after s))

namespace Exchange

/-- The ids that are given out. -/
def newIds : Exchange → List String
  | ⟨.createCustomer .., .ok (.customer c)⟩ => [c.id]
  | ⟨.createCheckoutSession .., .ok (.session x)⟩ =>
    x.id :: x.lineItems.elim [] fun items => items.data.map (·.id)
  | ⟨.createPortalSession .., .ok (.portal x)⟩ => [x.id]
  | ⟨.createProduct .., .ok (.product p)⟩ => [p.id]
  | ⟨.createPrice .., .ok (.price p)⟩ => [p.id]
  | _ => []

/-- The product with an id, given what it was before. -/
def product (id : String) (last : Option Product) : Exchange → Option Product
  | ⟨.createProduct .., .ok (.product p)⟩ => if p.id = id then some p else last
  | ⟨.updateProduct .., .ok (.product p)⟩ => if p.id = id then some p else last
  | ⟨.deleteProduct .., .ok (.deleted d)⟩ => if d.id = id then none else last
  | _ => last

/-- The price with an id, given what it was before. -/
def price (id : String) (last : Option Price) : Exchange → Option Price
  | ⟨.createPrice .., .ok (.price p)⟩ => if p.id = id then some p else last
  | ⟨.updatePrice .., .ok (.price p)⟩ => if p.id = id then some p else last
  | _ => last

/-- The session with an id, given what it was before. -/
def session (id : String) (last : Option CheckoutSession) : Exchange → Option CheckoutSession
  | ⟨.createCheckoutSession .., .ok (.session x)⟩ => if x.id = id then some x else last
  | _ => last

/-- The customer that a subscription belongs to, given whom it belonged to before. -/
def owner (subscription : String) (last : Option String) : Exchange → Option String
  | ⟨.recordSubscription s c, _⟩ => if s = subscription then some c else last
  | _ => last

end Exchange

/-- The ids that have been given out, oldest first. -/
def givenIds (log : List Exchange) : List String :=
  log.flatMap Exchange.newIds

theorem givenIds_concat (log : List Exchange) (x : Exchange) :
    givenIds (log ++ [x]) = givenIds log ++ x.newIds := by
  rw [givenIds, List.flatMap_append, List.flatMap_singleton, givenIds]

/-- The number that the next object gets. -/
def nextNumber (log : List Exchange) : Nat :=
  1 + (givenIds log).length

/-- The product with an id as it was last made or updated; none if it has not been made yet or has
been deleted since. -/
def lastProduct (id : String) (log : List Exchange) : Option Product :=
  log.foldl (Exchange.product id) none

/-- The price with an id as it was last made or updated. -/
def lastPrice (id : String) (log : List Exchange) : Option Price :=
  log.foldl (Exchange.price id) none

/-- The session with an id as it was made. -/
def lastSession (id : String) (log : List Exchange) : Option CheckoutSession :=
  log.foldl (Exchange.session id) none

/-- The customer that a subscription was last noted to belong to. -/
def lastOwner (subscription : String) (log : List Exchange) : Option String :=
  log.foldl (Exchange.owner subscription) none

/-! ### What one request changes -/

namespace Series

variable {α : Type} {kind : String} {next : Nat} {id : α → String} {created : α → Int} {xs : List α}

/-- The next object is found by its id. -/
theorem find?_concat (h : Series kind next id created xs) {x : α} (hid : id x = objectId kind next)
    (k : String) :
    (xs ++ [x]).find? (id · == k) = if id x = k then some x else xs.find? (id · == k) := by
  refine find?_concat_of_new (fun y hy hyx => ?_) k
  obtain ⟨n, hn, hy, -⟩ := h.made y hy
  have : n = next := objectId_inj (hy.symm.trans (hyx.trans hid))
  omega

end Series

theorem product?_reviseProduct (i : String) (d : ProductDetails) (id : String) (s : Sandbox) :
    (s.reviseProduct i d).product? id =
      (s.product? i).elim (s.product? id) fun p =>
        if i = id then some (revised d p) else s.product? id :=
  find?_change (f := Product.id) (revised d) (fun _ => rfl) i id

theorem product?_dropProduct (i id : String) (s : Sandbox) :
    (s.dropProduct i).product? id = if i = id then none else s.product? id := by
  rw [product?, dropProduct, List.find?_filter]
  split
  · next hid => simp [hid]
  · next hid =>
    refine congrArg (fun test => s.products.find? test) (funext fun p => ?_)
    by_cases hp : p.id = id <;> simp [hp, Ne.symm hid]

theorem price?_switchPrices (i : String) (active : Bool) (id : String) (s : Sandbox) :
    (s.switchPrices [i] active).price? id =
      (s.price? i).elim (s.price? id) fun p =>
        if i = id then some { p with active } else s.price? id := by
  simp only [price?, switchPrices, List.mem_singleton]
  exact find?_change (f := Price.id) (fun p => { p with active }) (fun _ => rfl) i id

theorem id_of_product? {p : Product} {i : String} (h : s.product? i = some p) : p.id = i := by
  simpa using List.find?_some h

theorem id_of_price? {p : Price} {i : String} (h : s.price? i = some p) : p.id = i := by
  simpa using List.find?_some h

/-- The product with an id after a request. -/
theorem product?_after (h : s.Sound) (r : Request) (id : String) :
    (r.after s).product? id = Exchange.product id (s.product? id) ⟨r, r.answer s⟩ := by
  rw [r.after_eq h, r.answer_eq h]
  cases r with
  | createProduct d => exact h.products.find?_concat rfl id
  | updateProduct i d =>
    dsimp only
    rw [product?_reviseProduct]
    cases hp : s.product? i with
    | none => rfl
    | some p => simp [found, Exchange.product, revised, id_of_product? hp]
  | deleteProduct i =>
    dsimp only
    rw [product?_dropProduct]
    cases hp : s.product? i with
    | none =>
      refine ite_eq_right_iff.2 fun hid => ?_
      rw [← hid, hp]
    | some p => rfl
  | createPrice t =>
    dsimp only
    cases s.product? t.product <;> rfl
  | _ => rfl

/-- The price with an id after a request. -/
theorem price?_after (h : s.Sound) (r : Request) (id : String) :
    (r.after s).price? id = Exchange.price id (s.price? id) ⟨r, r.answer s⟩ := by
  rw [r.after_eq h, r.answer_eq h]
  cases r with
  | createPrice t =>
    dsimp only
    cases s.product? t.product with
    | none => rfl
    | some p => exact h.prices.find?_concat rfl id
  | updatePrice i active =>
    dsimp only
    rw [price?_switchPrices]
    cases hp : s.price? i with
    | none => rfl
    | some p => simp [found, Exchange.price, id_of_price? hp]
  | _ => rfl

theorem NumberedSessions.find?_concat (h : s.NumberedSessions) {x : CheckoutSession}
    (hid : x.id = objectId "cs" s.next) (k : String) :
    (s.sessions ++ [x]).find? (·.id == k) = if x.id = k then some x else s.session? k := by
  refine find?_concat_of_new (fun y hy hyx => ?_) k
  obtain ⟨n, hn, hy⟩ := h y hy
  have : n = s.next := objectId_inj (hy.symm.trans (hyx.trans hid))
  omega

theorem session?_after (h : s.Sound) (hs : s.NumberedSessions) (r : Request) (id : String) :
    (r.after s).session? id = Exchange.session id (s.session? id) ⟨r, r.answer s⟩ := by
  rw [r.after_eq h, r.answer_eq h]
  cases r with
  | createCheckoutSession customer price successUrl cancelUrl => exact hs.find?_concat rfl id
  | createPrice t =>
    dsimp only
    cases s.product? t.product <;> rfl
  | _ => rfl

theorem lookup_cons_eq (a b : String) (owners : List (String × String)) (k : String) :
    ((a, b) :: owners).lookup k = if a = k then some b else owners.lookup k := by
  by_cases h : a = k
  · simp [h]
  · have hne : (k == a) = false := by simpa using Ne.symm h
    simp [List.lookup_cons, hne, h]

theorem lookup_putOwner (subscription customer : String) (owners : List (String × String))
    (k : String) : (putOwner subscription customer owners).lookup k =
      if subscription = k then some customer else owners.lookup k := by
  induction owners with
  | nil => exact lookup_cons_eq ..
  | cons o os ih =>
    by_cases ho : o.1 = subscription
    · rw [putOwner, if_pos ho, lookup_cons_eq, lookup_cons_eq, ho]
      split <;> rfl
    · rw [putOwner, if_neg ho, lookup_cons_eq, lookup_cons_eq, ih]
      split
      · next hk => rw [if_neg (fun h => ho (hk.trans h.symm))]
      · rfl

theorem lookup_after (h : s.Sound) (r : Request) (subscription : String) :
    (r.after s).owners.lookup subscription =
      Exchange.owner subscription (s.owners.lookup subscription) ⟨r, r.answer s⟩ := by
  rw [r.after_eq h]
  cases r with
  | createPrice t =>
    dsimp only
    cases s.product? t.product <;> rfl
  | recordSubscription s' c => exact lookup_putOwner s' c s.owners subscription
  | _ => rfl

/-- The ids that a request gives out have the next numbers. -/
theorem newIds_exchange (h : s.Sound) (r : Request) :
    let ids := Exchange.newIds ⟨r, r.answer s⟩
    ids.map number = List.range' s.next ids.length ∧ (r.after s).next = s.next + ids.length := by
  rw [r.after_eq h, r.answer_eq h]
  cases r with
  | createCustomer name description => exact ⟨congrArg (· :: []) (number_objectId ..), rfl⟩
  | createCheckoutSession customer price successUrl cancelUrl =>
    refine ⟨?_, rfl⟩
    simp [Exchange.newIds, newSession, number_objectId, List.range']
  | createPortalSession customer returnUrl => exact ⟨congrArg (· :: []) (number_objectId ..), rfl⟩
  | createProduct d => exact ⟨congrArg (· :: []) (number_objectId ..), rfl⟩
  | createPrice t =>
    dsimp only
    cases s.product? t.product with
    | none => exact ⟨rfl, rfl⟩
    | some p => exact ⟨congrArg (· :: []) (number_objectId ..), rfl⟩
  | _ => exact ⟨rfl, rfl⟩

/-! ### Customers -/

/-- The customers that subscriptions belong to are known. -/
def KnownOwners (s : Sandbox) : Prop :=
  ∀ subscription c, s.owners.lookup subscription = some c → ∃ x ∈ s.customers, x.id = c

/-- A customer may be replaced, but its id stays known. -/
theorem exists_mem_putCustomer {c : Customer} {customers : List Customer} {id : String}
    (h : ∃ x ∈ customers, x.id = id) : ∃ x ∈ putCustomer c customers, x.id = id := by
  induction customers with
  | nil => simp at h
  | cons d ds ih =>
    obtain ⟨x, hx, hid⟩ := h
    rw [putCustomer]
    rcases List.mem_cons.1 hx with rfl | hx
    · split
      · next hc => exact ⟨c, List.mem_cons_self .., hc.symm.trans hid⟩
      · exact ⟨x, List.mem_cons_self .., hid⟩
    · split
      · exact ⟨x, List.mem_cons_of_mem _ hx, hid⟩
      · obtain ⟨y, hy, hyid⟩ := ih ⟨x, hx, hid⟩
        exact ⟨y, List.mem_cons_of_mem _ hy, hyid⟩

/-- The customer of a subscription that is noted is known from then on. -/
theorem exists_customer_recordSubscription (subscription customer : String) (s : Sandbox) :
    ∃ x ∈ (s.recordSubscription subscription customer).customers, x.id = customer := by
  by_cases hany : s.customers.any (·.id == customer) = true
  · obtain ⟨x, hx, hid⟩ := List.any_eq_true.1 hany
    refine ⟨x, ?_, beq_iff_eq.1 hid⟩
    rw [Sandbox.recordSubscription, if_pos hany]
    exact hx
  · refine ⟨⟨customer, none, none, none⟩, ?_, rfl⟩
    simp [Sandbox.recordSubscription, hany]

theorem KnownOwners.recordSubscription (h : s.KnownOwners) (subscription customer : String) :
    (s.recordSubscription subscription customer).KnownOwners := by
  intro k c hc
  have hlookup := (lookup_putOwner subscription customer s.owners k).symm.trans hc
  split at hlookup
  · cases hlookup
    exact exists_customer_recordSubscription subscription customer s
  · obtain ⟨x, hx, hid⟩ := h k c hlookup
    refine ⟨x, ?_, hid⟩
    simp only [Sandbox.recordSubscription]
    split
    · exact hx
    · exact List.mem_append_left _ hx

theorem KnownOwners.after (h : s.KnownOwners) (hs : s.Sound) (r : Request) :
    (r.after s).KnownOwners := by
  rw [r.after_eq hs]
  cases r with
  | createCustomer name description =>
    exact fun subscription c hc => exists_mem_putCustomer (h subscription c hc)
  | createPrice t =>
    dsimp only
    split <;> exact h
  | recordSubscription subscription customer => exact h.recordSubscription subscription customer
  | _ => exact h

theorem customerOf?_of_owner {subscription c : String}
    (hc : s.owners.lookup subscription = some c) (known : ∃ x ∈ s.customers, x.id = c) :
    ∃ x, s.customerOf? subscription = some x ∧ x.id = c := by
  obtain ⟨x, hx, hid⟩ := known
  have hfind : (s.customers.find? (·.id == c)).isSome = true :=
    List.find?_isSome.2 ⟨x, hx, beq_iff_eq.2 hid⟩
  obtain ⟨y, hy⟩ := Option.isSome_iff_exists.1 hfind
  refine ⟨y, ?_, by simpa using List.find?_some hy⟩
  simp [customerOf?, hc, hy]

/-- The customer of a subscription that has been noted is found, whatever was there before. -/
theorem getCustomer_recordSubscription (subscription customer : String) (s : Sandbox) :
    ∃ x, (getCustomer subscription).on (s.recordSubscription subscription customer) =
      (.ok x, s.recordSubscription subscription customer) ∧ x.id = customer := by
  have owner : (s.recordSubscription subscription customer).owners.lookup subscription =
      some customer := (lookup_putOwner ..).trans (if_pos rfl)
  obtain ⟨x, hx, hid⟩ :=
    customerOf?_of_owner owner (exists_customer_recordSubscription subscription customer s)
  refine ⟨x, ?_, hid⟩
  rw [getCustomer, Call.on_bind, Call.on_get]
  dsimp only
  rw [← customerOf?, hx]
  rfl

/-! ### Products of prices -/

/-- When a price was made, its product was there. -/
def MadeFor (log : List Exchange) (p : Price) : Prop :=
  ∃ before after t q, log = before ++ ⟨.createPrice t, .ok (.price q)⟩ :: after ∧
    q.id = p.id ∧ q.product = p.product ∧ (lastProduct p.product before).isSome = true

variable {log : List Exchange}

theorem MadeFor.concat {p : Price} (h : MadeFor log p) (x : Exchange) :
    MadeFor (log ++ [x]) p := by
  obtain ⟨before, after, t, q, hlog, made⟩ := h
  exact ⟨before, after ++ [x], t, q, by simp [hlog], made⟩

theorem MadeFor.switch {p : Price} (h : MadeFor log p) (active : Bool) :
    MadeFor log { p with active } := h

/-- Each price of a provider was made when its product was there. -/
theorem madeFor_after (hs : s.Sound) (hproduct : ∀ id, s.product? id = lastProduct id log)
    (h : ∀ p ∈ s.prices, MadeFor log p) (r : Request) :
    ∀ p ∈ (r.after s).prices, MadeFor (log ++ [⟨r, r.answer s⟩]) p := by
  intro p hp
  rw [r.after_eq hs] at hp
  cases r with
  | createPrice t =>
    dsimp only at hp
    split at hp
    · next hfound =>
      rcases List.mem_append.1 hp with hp | hp
      · exact (h p hp).concat _
      · rw [List.mem_singleton.1 hp]
        refine ⟨log, [], t, newPrice t s.next, ?_, rfl, rfl, hproduct t.product ▸ hfound⟩
        obtain ⟨product, hproduct⟩ := Option.isSome_iff_exists.1 hfound
        rw [Request.answer_eq hs]
        simp [hproduct, found]
    · exact (h p hp).concat _
  | updatePrice id active =>
    obtain ⟨q, hq, rfl⟩ := List.mem_map.1 hp
    split
    · exact ((h q hq).switch active).concat _
    · exact (h q hq).concat _
  | _ => exact (h p hp).concat _

/-! ### Runs -/

/-- A provider holds what its history tells. -/
structure Remembers (log : List Exchange) (s : Sandbox) : Prop where
  sound : s.Sound
  numberedSessions : s.NumberedSessions
  knownOwners : s.KnownOwners
  /-- The numbers are given out one after another. -/
  numbers : (givenIds log).map number = List.range' 1 (givenIds log).length
  next : s.next = nextNumber log
  product : ∀ id, s.product? id = lastProduct id log
  price : ∀ id, s.price? id = lastPrice id log
  session : ∀ id, s.session? id = lastSession id log
  owner : ∀ subscription, s.owners.lookup subscription = lastOwner subscription log
  madeFor : ∀ p ∈ s.prices, MadeFor log p

namespace Remembers

theorem fresh : Remembers [] .fresh where
  sound := sound_fresh
  numberedSessions _ hx := absurd hx List.not_mem_nil
  knownOwners _ _ hc := by cases hc
  numbers := rfl
  next := rfl
  product _ := rfl
  price _ := rfl
  session _ := rfl
  owner _ := rfl
  madeFor _ hp := absurd hp List.not_mem_nil

/-- One request more. -/
theorem after (h : Remembers log s) (r : Request) :
    Remembers (log ++ [⟨r, r.answer s⟩]) (r.after s) where
  sound := h.sound.after r
  numberedSessions := h.numberedSessions.after r
  knownOwners := h.knownOwners.after h.sound r
  numbers := by
    rw [givenIds_concat, List.map_append, h.numbers, (newIds_exchange h.sound r).1, h.next,
      nextNumber, List.length_append, List.range'_append_1]
  next := by
    rw [(newIds_exchange h.sound r).2, h.next, nextNumber, nextNumber, givenIds_concat,
      List.length_append, Nat.add_assoc]
  product id := by
    rw [product?_after h.sound, h.product, lastProduct, lastProduct, List.foldl_concat]
  price id := by
    rw [price?_after h.sound, h.price, lastPrice, lastPrice, List.foldl_concat]
  session id := by
    rw [session?_after h.sound h.numberedSessions, h.session, lastSession, lastSession,
      List.foldl_concat]
  owner subscription := by
    rw [lookup_after h.sound, h.owner, lastOwner, lastOwner, List.foldl_concat]
  madeFor := madeFor_after h.sound h.product h.madeFor r

theorem converse (rs : List Request) :
    Remembers (converse .fresh rs) (rs.foldl Request.after .fresh) := by
  induction rs using List.reverseRecOn with
  | nil => exact fresh
  | append_singleton rs r ih =>
    rw [converse_concat, List.foldl_concat]
    exact ih.after r

end Remembers

/-- An answer fits what has been asked and answered before. -/
def Request.IsFaithful (log : List Exchange) (a : Except BillingError Answer) : Request → Prop
  | getCheckoutSession id => a = found (.checkoutSession id) ((lastSession id log).map .session)
  | getCustomer subscription =>
    match lastOwner subscription log with
    | none => a = .error (.notFound (.subscriptionCustomer subscription))
    | some c => ∃ x : Customer, x.id = c ∧ a = .ok (.customer x)
  | createCustomer name description =>
    a = .ok (.customer (newCustomer name description (nextNumber log)))
  | createCheckoutSession customer price successUrl _ =>
    a = .ok (.session (newSession customer price successUrl (nextNumber log)))
  | createPortalSession customer returnUrl =>
    a = .ok (.portal (newPortal customer returnUrl (nextNumber log)))
  | createProduct d => a = .ok (.product (newProduct d (nextNumber log)))
  | retrieveProduct id => a = found (.product id) ((lastProduct id log).map .product)
  | updateProduct id d =>
    a = found (.product id) ((lastProduct id log).map fun p => .product (revised d p))
  | deleteProduct id =>
    a = found (.product id) ((lastProduct id log).map fun _ => .deleted ⟨id, true⟩)
  | createPrice t =>
    a = found (.product t.product)
      ((lastProduct t.product log).map fun _ => .price (newPrice t (nextNumber log)))
  | retrievePrice id => a = found (.price id) ((lastPrice id log).map .price)
  | updatePrice id active =>
    a = found (.price id) ((lastPrice id log).map fun p => .price { p with active })
  | listProducts _ | searchProducts _ _ =>
    ∃ ps, a = .ok (.products ps) ∧ ∀ p ∈ ps.data, lastProduct p.id log = some p
  | listPrices _ | searchPrices _ _ =>
    ∃ ps, a = .ok (.prices ps) ∧ ∀ p ∈ ps.data, lastPrice p.id log = some p
  | recordSubscription _ _ => a = .ok .noted

theorem mem_of_mem_page {α : Type} {items : List α} {limit : Nat} {x : α}
    (h : x ∈ (page items limit).data) : x ∈ items :=
  List.mem_of_mem_take h

theorem Remembers.isFaithful (h : Remembers log s) (r : Request) :
    r.IsFaithful log (r.answer s) := by
  have products {p : Product} (hp : p ∈ s.products) : lastProduct p.id log = some p :=
    (h.product p.id).symm.trans (h.sound.product? hp)
  have prices {p : Price} (hp : p ∈ s.prices) : lastPrice p.id log = some p :=
    (h.price p.id).symm.trans (h.sound.price? hp)
  have hnext := h.next
  rw [r.answer_eq h.sound]
  cases r with
  | getCheckoutSession id => simp only [Request.IsFaithful, h.session]
  | getCustomer subscription =>
    have howner := h.owner subscription
    rw [Request.IsFaithful]
    cases hlast : lastOwner subscription log with
    | none =>
      rw [hlast] at howner
      simp [customerOf?, howner, found]
    | some c =>
      have hc := howner.trans hlast
      obtain ⟨x, hx, hid⟩ := customerOf?_of_owner hc (h.knownOwners _ _ hc)
      exact ⟨x, hid, by simp [hx, found]⟩
  | createCustomer name description => simp only [Request.IsFaithful, hnext]
  | createCheckoutSession customer price successUrl cancelUrl => simp only [Request.IsFaithful, hnext]
  | createPortalSession customer returnUrl => simp only [Request.IsFaithful, hnext]
  | createProduct d => simp only [Request.IsFaithful, hnext]
  | retrieveProduct id => simp only [Request.IsFaithful, h.product]
  | updateProduct id d => simp only [Request.IsFaithful, h.product]
  | deleteProduct id => simp only [Request.IsFaithful, h.product]
  | createPrice t => simp only [Request.IsFaithful, h.product, hnext]
  | retrievePrice id => simp only [Request.IsFaithful, h.price]
  | updatePrice id active => simp only [Request.IsFaithful, h.price]
  | listProducts limit => exact ⟨_, rfl, fun p hp => products (mem_of_mem_page hp)⟩
  | searchProducts query limit =>
    exact ⟨_, rfl, fun p hp => products (List.mem_filter.1 (mem_of_mem_page hp)).1⟩
  | listPrices limit => exact ⟨_, rfl, fun p hp => prices (mem_of_mem_page hp)⟩
  | searchPrices query limit =>
    exact ⟨_, rfl, fun p hp => prices (List.mem_filter.1 (mem_of_mem_page hp)).1⟩
  | recordSubscription subscription customer => rfl

theorem Remembers.nodup_givenIds (h : Remembers log s) : (givenIds log).Nodup := by
  refine List.Nodup.of_map number ?_
  rw [h.numbers]
  exact List.nodup_range'

/-- The times of objects fit into words of 64 bits for a long time. -/
theorem Series.created_lt {α : Type} {kind : String} {next : Nat} {id : α → String}
    {created : α → Int} {xs : List α} (h : Series kind next id created xs)
    (hnext : next ≤ 2 ^ 62) : ∀ x ∈ xs, 0 < created x ∧ created x < 2 ^ 63 := by
  intro x hx
  obtain ⟨n, hn, -, hcreated⟩ := h.made x hx
  rw [hcreated, createdAt]
  omega

/-- Whatever a provider without objects has been asked, in any order and with any arguments:

* no id has been given out twice, for objects of whatever kinds;
* products and prices stand in the order of their times, and each price was made when its product was
  there;
* the next request is answered as what was asked and answered before tells, and changes nothing if it
  fails; a change of a product or price, or a deletion, leaves all others alone;
* and as long as fewer than 2 ^ 62 ids have been given out, the next number and all times fit into
  words of 64 bits. -/
theorem memory_faithful (rs : List Request) :
    let s := rs.foldl Request.after .fresh
    let log := converse .fresh rs
    (givenIds log).Nodup ∧
    s.products.Pairwise (fun p q => p.created < q.created) ∧
    s.prices.Pairwise (fun p q => p.created < q.created) ∧
    (∀ p ∈ s.prices, MadeFor log p) ∧
    (∀ r : Request, r.IsFaithful log (r.answer s)) ∧
    (∀ (r : Request) e, r.answer s = .error e → r.after s = s) ∧
    (∀ id d, (Request.updateProduct id d).after s = s.reviseProduct id d) ∧
    (∀ id, (Request.deleteProduct id).after s = s.dropProduct id) ∧
    (∀ id active, (Request.updatePrice id active).after s = s.switchPrices [id] active) ∧
    ((givenIds log).length < 2 ^ 62 → s.next < 2 ^ 63 ∧
      (∀ p ∈ s.products, 0 < p.created ∧ p.created < 2 ^ 63) ∧
      ∀ p ∈ s.prices, 0 < p.created ∧ p.created < 2 ^ 63) := by
  intro s log
  have h : Remembers log s := Remembers.converse rs
  refine ⟨h.nodup_givenIds, h.sound.products.order, h.sound.prices.order, h.madeFor, h.isFaithful,
    fun r e he => Request.after_of_error h.sound he, fun id d => Request.after_eq h.sound _,
    fun id => Request.after_eq h.sound _, fun id active => Request.after_eq h.sound _, fun hfew => ?_⟩
  have hnext : s.next ≤ 2 ^ 62 := by
    rw [h.next, nextNumber]
    omega
  exact ⟨by omega, h.sound.products.created_lt hnext, h.sound.prices.created_lt hnext⟩

end OrgBilling.Provider.Sandbox
