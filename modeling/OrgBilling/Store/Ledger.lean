import OrgBilling.Store.Index
import OrgBilling.Store.Order

/-!
# The ledger of webhook deliveries

Every event that is delivered has one row in the ledger. An attempt to process an event begins by
claiming its row (`claim`), which succeeds for a new event, for one whose last attempt failed, and
for one whose last attempt began so long ago that it must have been given up. It ends by recording
how it went (`recordResult`).
-/

namespace OrgBilling.Store

open Transaction

/-- How long an attempt may take before another one may begin, in microseconds: half an hour. -/
def processingTimeout : Int := 30 * 60 * 1000000

namespace Ledger

/-- The index that keeps the events apart. -/
def eventIndex : String := "billing_webhook_events_event_id_key"

/-- The row of an event. -/
def row? (eventId : String) (s : Store) : Option Delivery :=
  s.deliveries.find? (·.eventId == eventId)

/-- An attempt may begin although the event has a row. -/
def isClaimable (now : Int) (d : Delivery) : Bool :=
  d.state == .failed || (d.state == .processing && d.startedAt < now - processingTimeout)

/-- Change the row of an event. -/
def change (eventId : String) (f : Delivery → Delivery) (rows : List Delivery) : List Delivery :=
  rows.map fun d => if d.eventId = eventId then f d else d

/-- The id of the row that is put in next. No row of the ledger is ever deleted. -/
def nextId (s : Store) : Uuid :=
  .row deliveryTag (s.deliveries.length + 1)

/-- Begin an attempt. The result says whether it may go on. -/
def claim (now : Int) (eventId eventType : String) : Transaction Bool := do
  requireTexts [eventId, eventType]
  let s ← get
  match row? eventId s with
  | none =>
    requireIndexable eventIndex [eventId]
    let d : Delivery := ⟨nextId s, eventId, eventType, .processing, none, now, now⟩
    set { s with deliveries := s.deliveries ++ [d] }
    pure true
  | some d =>
    if isClaimable now d then
      let restart (d : Delivery) : Delivery :=
        { d with state := .processing, errorMessage := none, startedAt := now }
      set { s with deliveries := change eventId restart s.deliveries }
      pure true
    else pure false

/-- Record how an attempt went. -/
def recordResult (eventId : String) (state : DeliveryState) (errorMessage : Option String) :
    Transaction Unit := do
  requireTexts (eventId :: errorMessage.toList)
  modify fun s =>
    { s with
      deliveries := change eventId (fun d => { d with state, errorMessage }) s.deliveries }

/-- Put a row in; its id is the next one. -/
def insert (d : Delivery) : Transaction Unit := do
  requireTexts (d.eventId :: d.eventType :: d.state.name :: d.errorMessage.toList)
  let state ← fit 32 d.state.name
  let s ← get
  require (row? d.eventId s).isNone (.duplicateKey eventIndex)
  requireIndexable eventIndex [d.eventId]
  set { s with deliveries := s.deliveries ++ [{ d with id := nextId s, state := .ofName state }] }

/-- The first row was not made before the second one. -/
def isNewer (d d' : Delivery) : Bool :=
  d'.createdAt ≤ d.createdAt

/-- A page of the ledger, newest row first, of all rows or of those in the state with a name. -/
def list (order : Arrangement fun d d' => isNewer d d' = true) (stateName : Option String)
    (limit offset : Int) : Transaction (List Delivery) := do
  requireTexts stateName.toList
  require (0 ≤ offset) .negativeOffset
  require (0 ≤ limit) .negativeLimit
  let rows := order.arrange ((← get).deliveries.filter fun d => stateName.all (· == d.state.name))
  return (rows.drop offset.toNat).take limit.toNat

end Ledger

end OrgBilling.Store
