import OrgBilling.Call
import OrgBilling.Catalog.Price
import OrgBilling.Catalog.Product
import OrgBilling.Organization
import OrgBilling.Subscription.Basic

/-!
# The database

A `Store` holds the tables of the application: organizations, the catalog's products and prices,
subscriptions with their links and items, and the ledger of webhook deliveries. Rows stand in the
order in which they were inserted.

A table numbers its rows (`Table.insert`), and the number shows in the row's id. An insertion that
is taken back takes its number back too.

`Transaction` is the type of what is done to a store in one piece, as one statement is: a statement
that fails has no final store, so there is nothing that could be kept of it. `commit` runs one by
itself on a store and leaves the store alone if it fails (`commit_error`). What a transaction of
several statements does is said by `Session`.
-/

namespace OrgBilling

/-- A table: its rows, and how many rows have ever been put into it. -/
structure Table (α : Type) where
  /-- The rows, in the order of insertion. -/
  rows : List α
  /-- How many rows have been inserted. -/
  issued : Nat

namespace Table

/-- A table without rows. -/
def empty {α : Type} : Table α := ⟨[], 0⟩

/-- The row that is inserted next, made from its id. -/
def nextRow {α : Type} (t : Table α) (tag : Nat) (row : Uuid → α) : α :=
  row (Uuid.row tag (t.issued + 1))

/-- The table with one row more. -/
def insert {α : Type} (t : Table α) (tag : Nat) (row : Uuid → α) : Table α :=
  ⟨t.rows ++ [t.nextRow tag row], t.issued + 1⟩

/-- The table with its rows changed; none is added. -/
def map {α : Type} (f : α → α) (t : Table α) : Table α :=
  ⟨t.rows.map f, t.issued⟩

/-- The table with the rows that pass a test. -/
def filter {α : Type} (keep : α → Bool) (t : Table α) : Table α :=
  ⟨t.rows.filter keep, t.issued⟩

variable {α : Type}

@[simp] theorem rows_empty : (empty : Table α).rows = [] := rfl

@[simp] theorem rows_insert (t : Table α) (tag : Nat) (row : Uuid → α) :
    (t.insert tag row).rows = t.rows ++ [t.nextRow tag row] := rfl

@[simp] theorem rows_map (f : α → α) (t : Table α) : (t.map f).rows = t.rows.map f := rfl

@[simp] theorem rows_filter (keep : α → Bool) (t : Table α) :
    (t.filter keep).rows = t.rows.filter keep := rfl

end Table

/-- How far the processing of a webhook event has got. -/
inductive DeliveryState where
  /-- An attempt is under way, or was given up without a result. -/
  | processing
  /-- The event has been applied. -/
  | success
  /-- The last attempt failed. -/
  | failed
  /-- A state that the application never writes. -/
  | other (name : String)
  deriving DecidableEq

namespace DeliveryState

/-- The name under which a state is stored. -/
def name : DeliveryState → String
  | processing => "processing"
  | success => "success"
  | failed => "error"
  | other name => name

/-- The state with a name. -/
def ofName (name : String) : DeliveryState :=
  if name = "processing" then processing
  else if name = "success" then success
  else if name = "error" then failed
  else other name

end DeliveryState

/-- A row of the ledger of webhook deliveries. Times are counted in microseconds. -/
structure Delivery where
  /-- The row's id. -/
  id : Uuid
  /-- The provider's id of the event. -/
  eventId : String
  /-- The type of the event at its first delivery. -/
  eventType : String
  /-- How far it has got. -/
  state : DeliveryState
  /-- What went wrong at the last attempt. -/
  errorMessage : Option String
  /-- When the last attempt began. -/
  startedAt : Int
  /-- When the row was made. -/
  createdAt : Int
  deriving DecidableEq

/-- The database. -/
structure Store where
  /-- The organizations. -/
  organizations : Table Organization
  /-- The products of the catalog. -/
  products : Table CatalogProduct
  /-- The prices of the catalog. -/
  prices : Table CatalogPrice
  /-- The subscriptions. -/
  subscriptions : Table Subscription
  /-- The links between organizations and subscriptions. -/
  links : Table OrganizationLink
  /-- The line items of the subscriptions. -/
  items : Table SubscriptionItem
  /-- The ledger of deliveries, in the order of insertion. -/
  deliveries : List Delivery

namespace Store

/-- A database without rows. -/
def empty : Store :=
  ⟨.empty, .empty, .empty, .empty, .empty, .empty, []⟩

/-! The tags that tell the ids of the tables apart. -/

/-- The tag of organizations. -/
def organizationTag : Nat := 1
/-- The tag of products. -/
def productTag : Nat := 2
/-- The tag of prices. -/
def priceTag : Nat := 3
/-- The tag of subscriptions. -/
def subscriptionTag : Nat := 4
/-- The tag of links. -/
def linkTag : Nat := 5
/-- The tag of items. -/
def itemTag : Nat := 6
/-- The tag of deliveries. -/
def deliveryTag : Nat := 7

end Store

/-- What is done to a store in one piece: it succeeds with a result and a new store, or fails. -/
abbrev Transaction := StateT Store (Except BillingError)

namespace Transaction

/-- Fail with an error of the database. -/
def fail {α : Type} (cause : DatabaseError) : Transaction α :=
  throw (.database cause)

/-- Go on only if a condition holds. -/
def require (condition : Bool) (cause : DatabaseError) : Transaction Unit :=
  if condition then pure () else fail cause

/-- A text that can be stored: no character of it is zero. -/
def isStorable (text : String) : Bool :=
  text.toList.all fun c => c.toNat != 0

/-- Go on only if texts can be handed to the database. -/
def requireTexts (texts : List String) : Transaction Unit :=
  require (texts.all isStorable) .zeroCharacter

/-- A text for a column of `limit` characters. Spaces beyond the limit are cut off; anything else
there is refused. -/
def fit (limit : Nat) (text : String) : Transaction String := do
  require ((text.toList.drop limit).all (· == ' ')) (.textTooLong limit)
  pure (String.ofList (text.toList.take limit))

end Transaction

/-- Run a transaction on the store of a computation. A transaction that fails leaves no trace but
its error. -/
def commit {α : Type} (t : Transaction α) : Call Store α :=
  Call.ofFunction fun s =>
    match t.run s with
    | .ok (a, s') => (.ok a, s')
    | .error e => (.error e, s)

/-- The store after a transaction that succeeds is the one it ends with. -/
theorem commit_ok {α : Type} {t : Transaction α} {s s' : Store} {a : α}
    (h : t.run s = .ok (a, s')) : (commit t).on s = (.ok a, s') := by
  simp [commit, h]

/-- A transaction that fails leaves the store as it was. -/
theorem commit_error {α : Type} {t : Transaction α} {s : Store} {e : BillingError}
    (h : t.run s = .error e) : (commit t).on s = (.error e, s) := by
  simp [commit, h]

end OrgBilling
