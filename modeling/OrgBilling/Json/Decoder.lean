import OrgBilling.Json.Parser

/-!
# Decoding records from JSON

A `Decoder` reads a value of some type from a written value, given how many containers it may still
open. A record may be written as an object, in any order and with members that nobody asks for, or
as an array of its fields in order; `record` turns both into the same named members, and the field
readers say what a missing field means.

Members that a record does not know are never looked into, so they need to be well formed and
nothing more. A record refuses a member it knows when it is written twice.
-/

namespace OrgBilling

/-- Reads a value of type `α` from a written value inside which at most the given number of
containers may be opened. -/
abbrev Decoder (α : Type) := Nat → Source → Option α

namespace Decoder

/-- A text. -/
def text : Decoder String
  | _, .string s => s
  | _, _ => none

/-- A truth value. -/
def bool : Decoder Bool
  | _, .bool b => some b
  | _, _ => none

/-- An integer written without point and exponent, between two bounds. -/
def intBetween (lo hi : Int) : Decoder Int
  | _, .number n => n.toInt?.filter fun i => lo ≤ i && i ≤ hi
  | _, _ => none

/-- An integer that a signed word of 32 bits holds. -/
def int32 : Decoder Int :=
  intBetween (-Int.pow 2 31) (Int.pow 2 31 - 1)

/-- An integer that a signed word of 64 bits holds. -/
def int64 : Decoder Int :=
  intBetween (-Int.pow 2 63) (Int.pow 2 63 - 1)

/-- A natural number that an unsigned word of 64 bits holds. -/
def nat64 : Decoder Nat := fun room v =>
  (intBetween 0 (Int.pow 2 64 - 1) room v).map Int.toNat

/-- `null`, or a value. -/
def option {α : Type} (d : Decoder α) : Decoder (Option α)
  | _, .null => some none
  | room, v => (d room v).map some

/-- A list of values, written as an array. -/
def list {α : Type} (d : Decoder α) : Decoder (List α)
  | room + 1, .array items => items.mapM (d room)
  | _, _ => none

/-- Any value at all. -/
def any : Decoder Json := fun room v => v.toJson? room

/-- One of finitely many values, written by its name or as an object whose only member has that name
and the value `null`. -/
def named {α : Type} (names : List (String × α)) : Decoder α
  | _, .string s => s.bind (List.lookup · names)
  | _ + 1, .object [(name, .null)] => name.bind (List.lookup · names)
  | _, _ => none

/-- The id that a reference holds. A reference is an id or an object with an id among its members;
`null` refers to nothing. All of a reference has to be readable, the members beside the id too. -/
def reference : Decoder (Option String)
  | _, .null => some none
  | _, .string s => s.map some
  | room, .object members => do
    let _ ← Source.toJson? room (.object members)
    match members.filter (fun m => m.1 == some "id") with
    | [(_, .string (some id))] => some (some id)
    | _ => none
  | _, _ => none

/-- The members of a record that has been taken apart. -/
structure Members where
  /-- The record was written as an array of its fields. -/
  positional : Bool
  /-- How many containers may be opened inside a member. -/
  room : Nat
  /-- The members by name. -/
  named : List (String × Source)

namespace Members

/-- A field that has to be there. -/
def required {α : Type} (m : Members) (name : String) (d : Decoder α) : Option α := do
  d m.room (← m.named.lookup name)

/-- A field that has a value of its own when it is missing. -/
def withDefault {α : Type} (m : Members) (name : String) (default : α) (d : Decoder α) : Option α :=
  match m.named.lookup name with
  | some v => d m.room v
  | none => some default

/-- A field that may be `null`, and that may be left out of an object but not out of an array. -/
def nullable {α : Type} (m : Members) (name : String) (d : Decoder α) : Option (Option α) :=
  match m.named.lookup name with
  | some v => option d m.room v
  | none => if m.positional then none else some none

end Members

/-- Take a record with the given field names apart. -/
def members? (names : List String) : Decoder Members
  | room + 1, .array items =>
    if items.length ≤ names.length then some ⟨true, room, names.zip items⟩ else none
  | room + 1, .object written => do
    let readable ← written.mapM fun (name, v) => name.map (·, v)
    let known := readable.filter fun m => names.contains m.1
    if (known.map (·.1)).Nodup then some ⟨false, room, known⟩ else none
  | _, _ => none

/-- A record with the given field names, put together from its members. -/
def record {α : Type} (names : List String) (build : Members → Option α) : Decoder α :=
  fun room v => members? names room v >>= build

/-- Decode a whole text. -/
def run? {α : Type} (d : Decoder α) (text : String) : Option α :=
  Source.read? text >>= d Source.maxNesting

/-- Decode the value at the front of a text, whatever follows it. -/
def runFirst? {α : Type} (d : Decoder α) (text : String) : Option α :=
  Source.readFirst? text.toList >>= fun (v, _) => d Source.maxNesting v

end Decoder

end OrgBilling
