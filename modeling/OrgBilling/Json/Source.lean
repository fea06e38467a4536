import OrgBilling.Json.Basic

/-!
# JSON as written

What a JSON text says before it is given a meaning. A reader of records has to see more than a
value shows: whether a member is written twice, and whether a part that nobody asks for is merely
well formed or also has a value. So the members of an object stand here as they were written, and a
string whose escapes name half of a surrogate pair is kept as a string without text.

`Source.toJson?` gives a written value its meaning. It fails where a part has none, and where more
containers are nested than the given room allows.
-/

namespace OrgBilling

/-- A JSON value as it was written. -/
inductive Source where
  /-- The word `null`. -/
  | null
  /-- The word `true` or `false`. -/
  | bool (value : Bool)
  /-- A number by its digits. -/
  | number (value : Numeral)
  /-- A string, with its text unless an escape names a lone surrogate. -/
  | string (text : Option String)
  /-- The items of an array. -/
  | array (items : List Source)
  /-- The members of an object, as often and in the order in which they were written. -/
  | object (members : List (Option String × Source))

namespace Source

/-- The containers that may be nested in a text that is read for its value. -/
def maxNesting : Nat := 127

mutual

/-- The value of a written value in which at most `room` containers are nested. Of members with the
same name the last one counts. -/
def toJson? : Nat → Source → Option Json
  | _, .null => some .null
  | _, .bool b => some (.bool b)
  | _, .number n => Json.ofNumeral? n
  | _, .string s => s.map .string
  | room, .array items =>
    if room = 0 then none else (itemsToJson? (room - 1) items).map .array
  | room, .object members =>
    if room = 0 then none else (membersToJson? (room - 1) [] members).map .object

/-- The values of the items of an array. -/
def itemsToJson? : Nat → List Source → Option (List Json)
  | _, [] => some []
  | room, v :: vs => do
    let j ← toJson? room v
    let js ← itemsToJson? room vs
    some (j :: js)

/-- The members of an object, added to those already read. -/
def membersToJson? :
    Nat → List (String × Json) → List (Option String × Source) → Option (List (String × Json))
  | _, done, [] => some done
  | room, done, (name, v) :: rest => do
    let name ← name
    let j ← toJson? room v
    membersToJson? room (Json.insertMember name j done) rest

end

end Source

end OrgBilling
