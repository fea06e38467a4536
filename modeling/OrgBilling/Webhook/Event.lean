import OrgBilling.Signature
import OrgBilling.Subscription.Status

/-!
# Webhook events

What the provider tells the application about: an event has an id, a type, and the object it is
about, which is kept as the JSON value that came. An event is only read from a delivery that is
signed (`Event.ofDelivery`).
-/

namespace OrgBilling.Webhook

/-- An event. -/
structure Event where
  /-- The provider's id of the event. -/
  id : String
  /-- What kind of event it is. -/
  type : String
  /-- When it happened. -/
  created : Int
  /-- The object that it is about. -/
  object : Json

namespace Event

/-- An event as a JSON object. -/
def toJson (e : Event) : Json :=
  .object
    [("id", .string e.id),
     ("type", .string e.type),
     ("created", .int e.created),
     ("data", .object [("object", e.object)])]

/-- Read an event from JSON. -/
def decode : Decoder Event :=
  Decoder.record ["id", "type", "created", "data"] fun m => do
    some
      { id := ← m.required "id" Decoder.text
        type := ← m.required "type" Decoder.text
        created := ← m.withDefault "created" 0 Decoder.int64
        object :=
          ← m.required "data" (Decoder.record ["object"] fun d => d.required "object" Decoder.any) }

/-- Read the event of a delivery: its header has to sign the payload at a time close to now, and the
payload has to be an event. A signed payload that is none counts as badly signed. -/
def ofDelivery (payload header secret : String) (now : Int) : Except BillingError Event := do
  Signature.verify payload header secret now Signature.defaultTolerance
  match decode.run? payload with
  | some e => pure e
  | none => throw .signatureInvalid

end Event

end OrgBilling.Webhook
