import OrgBilling.Proofs.Provider.Sandbox
import OrgBilling.Proofs.Transaction

/-!
# The checkout sessions of the provider in memory

A session is put down with the others when it starts, under an id of its own: no other request
touches the sessions, and the number in the id has not been given to anything before. So the session
that a checkout has just started is the one that is found under its id (`getCheckoutSession_new`).
-/

namespace OrgBilling.Provider.Sandbox

variable {s s' : Sandbox}

/-- The sessions are the same, and the numbers that have been given out stay given out. -/
structure KeepsSessions (s s' : Sandbox) : Prop where
  sessions : s'.sessions = s.sessions
  next : s.next ≤ s'.next

instance : IsPreorder Sandbox KeepsSessions where
  refl _ := ⟨rfl, Nat.le_refl _⟩
  trans _ _ _ h h' := ⟨h'.sessions.trans h.sessions, Nat.le_trans h.next h'.next⟩

/-! ### Requests that start no session -/

section Keeps

variable {α : Type}

theorem keeps_get : Moves KeepsSessions (get : Call Sandbox Sandbox) :=
  fun s => refl_of KeepsSessions s

theorem keeps_takeNumber : Moves KeepsSessions takeNumber :=
  fun s => ⟨rfl, Nat.le_succ s.next⟩

theorem keeps_modify {f : Sandbox → Sandbox} (hf : ∀ s, KeepsSessions s (f s)) :
    Moves KeepsSessions (modify f : Call Sandbox PUnit) := hf

theorem keeps_orMissing (what : Missing) (o : Option α) :
    Moves KeepsSessions (orMissing what o) := by
  cases o with
  | some a => exact moves_pure a
  | none => exact moves_throw _

theorem keeps_getCheckoutSession (id : String) : Moves KeepsSessions (getCheckoutSession id) :=
  .bind keeps_get fun _ => keeps_orMissing _ _

theorem keeps_getCustomer (subscription : String) :
    Moves KeepsSessions (getCustomer subscription) :=
  .bind keeps_get fun _ => keeps_orMissing _ _

theorem keeps_createCustomer (name description : String) :
    Moves KeepsSessions (createCustomer name description) :=
  .bind keeps_takeNumber fun _ => .bind (keeps_modify fun _ => ⟨rfl, Nat.le_refl _⟩) fun _ =>
    moves_pure _

theorem keeps_createPortalSession (customer returnUrl : String) :
    Moves KeepsSessions (createPortalSession customer returnUrl) :=
  .bind keeps_takeNumber fun _ => moves_pure _

theorem keeps_createProduct (d : ProductDetails) : Moves KeepsSessions (createProduct d) :=
  .bind keeps_takeNumber fun _ => .bind (keeps_modify fun _ => ⟨rfl, Nat.le_refl _⟩) fun _ =>
    moves_pure _

theorem keeps_retrieveProduct (id : String) : Moves KeepsSessions (retrieveProduct id) :=
  .bind keeps_get fun _ => keeps_orMissing _ _

theorem keeps_updateProduct (id : String) (d : ProductDetails) :
    Moves KeepsSessions (updateProduct id d) :=
  .bind (keeps_retrieveProduct id) fun _ =>
    .bind (keeps_modify fun _ => ⟨rfl, Nat.le_refl _⟩) fun _ => moves_pure _

theorem keeps_deleteProduct (id : String) : Moves KeepsSessions (deleteProduct id) :=
  .bind (keeps_retrieveProduct id) fun _ =>
    .bind (keeps_modify fun _ => ⟨rfl, Nat.le_refl _⟩) fun _ => moves_pure _

theorem keeps_createPrice (t : PriceTerms) : Moves KeepsSessions (createPrice t) :=
  .bind (keeps_retrieveProduct _) fun _ => .bind keeps_takeNumber fun _ =>
    .bind (keeps_modify fun _ => ⟨rfl, Nat.le_refl _⟩) fun _ => moves_pure _

theorem keeps_retrievePrice (id : String) : Moves KeepsSessions (retrievePrice id) :=
  .bind keeps_get fun _ => keeps_orMissing _ _

theorem keeps_updatePrice (id : String) (active : Bool) :
    Moves KeepsSessions (updatePrice id active) :=
  .bind (keeps_retrievePrice id) fun _ =>
    .bind (keeps_modify fun _ => ⟨rfl, Nat.le_refl _⟩) fun _ => moves_pure _

/-! ### The rules -/

theorem keeps_createOrUpdateProduct (d : ProductDetails) :
    Moves KeepsSessions (createOrUpdateProduct d : Call Sandbox Product) := by
  refine .bind (fun s => refl_of KeepsSessions s) fun found => ?_
  cases newest found.data with
  | some existing => exact keeps_updateProduct existing.id d
  | none => exact keeps_createProduct d

theorem keeps_deactivate (ps : List Price) :
    Moves KeepsSessions (deactivate ps : Call Sandbox Unit) := by
  induction ps with
  | nil => exact moves_pure _
  | cons p ps ih => exact .bind (keeps_updatePrice p.id false) fun _ => ih

theorem keeps_syncProduct (p : CatalogProduct) :
    Moves KeepsSessions (syncProduct p : Call Sandbox CatalogProduct) :=
  .bind (keeps_createOrUpdateProduct _) fun _ => moves_pure _

theorem keeps_syncPrice (p : CatalogPrice) (product : CatalogProduct) :
    Moves KeepsSessions (syncPrice p product : Call Sandbox CatalogPrice) := by
  unfold syncPrice
  cases product.productId with
  | none => exact moves_throw _
  | some productId =>
    refine .bind (.bind (fun s => refl_of KeepsSessions s) fun found => ?_) fun _ => moves_pure _
    exact .bind (keeps_deactivate found.data) fun _ => keeps_createPrice _

end Keeps

/-! ### New sessions -/

/-- The session that is started with a number. Its line has the number after that. -/
def newSession (customer price successUrl : String) (n : Nat) : CheckoutSession where
  id := objectId "cs" n
  url := some (successUrl ++ "?session_id=" ++ objectId "cs" n)
  customer := some customer
  subscription := none
  status := some "open"
  mode := some "subscription"
  lineItems := some ⟨[⟨objectId "li" (n + 1), some price, some 1⟩], false⟩

/-- The provider with one session more. -/
def addSession (customer price successUrl : String) (s : Sandbox) : Sandbox :=
  { s with
    next := s.next + 2
    sessions := s.sessions ++ [newSession customer price successUrl s.next] }

theorem on_createCheckoutSession (customer price successUrl cancelUrl : String) (s : Sandbox) :
    (createCheckoutSession customer price successUrl cancelUrl).on s =
      (.ok (newSession customer price successUrl s.next), s.addSession customer price successUrl) :=
  rfl

/-- The ids of the sessions have numbers that have been given out. -/
def NumberedSessions (s : Sandbox) : Prop :=
  ∀ x ∈ s.sessions, ∃ n < s.next, x.id = objectId "cs" n

namespace NumberedSessions

theorem keeps (h : s.NumberedSessions) (hk : KeepsSessions s s') : s'.NumberedSessions := by
  intro x hx
  obtain ⟨n, hn, hid⟩ := h x (hk.sessions ▸ hx)
  exact ⟨n, Nat.lt_of_lt_of_le hn hk.next, hid⟩

theorem addSession (h : s.NumberedSessions) (customer price successUrl : String) :
    (s.addSession customer price successUrl).NumberedSessions := by
  intro x hx
  rcases List.mem_append.1 hx with hx | hx
  · obtain ⟨n, hn, hid⟩ := h x hx
    exact ⟨n, Nat.lt_add_right 2 hn, hid⟩
  · rw [List.mem_singleton.1 hx]
    exact ⟨s.next, Nat.lt_add_of_pos_right (by decide), rfl⟩

theorem after (h : s.NumberedSessions) (r : Request) : (r.after s).NumberedSessions := by
  cases r with
  | createCheckoutSession customer price successUrl cancelUrl =>
    rw [Request.after, on_createCheckoutSession]
    exact h.addSession customer price successUrl
  | getCheckoutSession id => exact h.keeps (keeps_getCheckoutSession id s)
  | getCustomer subscription => exact h.keeps (keeps_getCustomer subscription s)
  | createCustomer name description => exact h.keeps (keeps_createCustomer name description s)
  | createPortalSession customer url => exact h.keeps (keeps_createPortalSession customer url s)
  | createProduct d => exact h.keeps (keeps_createProduct d s)
  | retrieveProduct id => exact h.keeps (keeps_retrieveProduct id s)
  | updateProduct id d => exact h.keeps (keeps_updateProduct id d s)
  | listProducts limit => exact h
  | deleteProduct id => exact h.keeps (keeps_deleteProduct id s)
  | searchProducts query limit => exact h
  | createPrice t => exact h.keeps (keeps_createPrice t s)
  | retrievePrice id => exact h.keeps (keeps_retrievePrice id s)
  | updatePrice id active => exact h.keeps (keeps_updatePrice id active s)
  | listPrices limit => exact h
  | searchPrices query limit => exact h
  | recordSubscription subscription customer => exact h

end NumberedSessions

theorem Reachable.numberedSessions (h : Reachable s) : s.NumberedSessions := by
  induction h with
  | fresh => exact fun _ hx => absurd hx List.not_mem_nil
  | after _ r ih => exact ih.after r

/-- The session that has just been started is found under its id. -/
theorem getCheckoutSession_new (h : s.NumberedSessions) (customer price successUrl : String) :
    let session := newSession customer price successUrl s.next
    let s' := s.addSession customer price successUrl
    (getCheckoutSession session.id).on s' = (.ok session, s') := by
  intro session s'
  have hold : s.sessions.find? (·.id == session.id) = none := by
    refine List.find?_eq_none.2 fun x hx hid => ?_
    obtain ⟨n, hn, hxid⟩ := h x hx
    have : n = s.next := objectId_inj (hxid.symm.trans (beq_iff_eq.1 hid))
    exact Nat.lt_irrefl _ (this ▸ hn)
  have hfind : s'.sessions.find? (·.id == session.id) = some session := by
    show (s.sessions ++ [session]).find? _ = _
    rw [List.find?_append, hold]
    simp
  rw [getCheckoutSession, Call.on_bind, Call.on_get]
  dsimp only
  rw [hfind]
  rfl

end OrgBilling.Provider.Sandbox
