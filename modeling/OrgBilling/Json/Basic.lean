import OrgBilling.Json.Numeral

/-!
# JSON values

The values a JSON text stands for. Numbers come in two kinds: an integer that a machine word of 64
bits can hold, signed or unsigned, is kept as that integer; any other number is a double and is only
ever handed on.

An object is its list of members. Where an object has been read from a text its members are sorted
by name and no name occurs twice (`Json.insertMember`); where one is built for an answer, its
members stand in the order of the record they come from.
-/

namespace OrgBilling

/-- A JSON value. -/
inductive Json where
  /-- The value `null`. -/
  | null
  /-- `true` or `false`. -/
  | bool (value : Bool)
  /-- An integer. -/
  | int (value : Int)
  /-- A number that is not an integer of 64 bits. -/
  | double (value : Double)
  /-- A text. -/
  | string (value : String)
  /-- The items of an array. -/
  | array (items : List Json)
  /-- The members of an object. -/
  | object (members : List (String × Json))

namespace Json

/-- Put a member where its name belongs; a member of the same name is replaced. -/
def insertMember (name : String) (value : Json) : List (String × Json) → List (String × Json)
  | [] => [(name, value)]
  | (n, v) :: rest =>
    if name = n then (name, value) :: rest
    else if name < n then (name, value) :: (n, v) :: rest
    else (n, v) :: insertMember name value rest

/-- The value of a member; nothing if there is no such member or the value is no object. -/
def get? (name : String) : Json → Option Json
  | .object members => members.lookup name
  | _ => none

/-- The text of a JSON string. -/
def asString? : Json → Option String
  | .string s => some s
  | _ => none

/-- A text, or `null` where there is none. -/
def ofOption (s : Option String) : Json :=
  match s with
  | some s => .string s
  | none => .null

/-- An integer that a word of 64 bits holds, signed or unsigned. -/
def fitsWord (i : Int) : Bool :=
  -Int.pow 2 63 ≤ i && i < Int.pow 2 64

/-- The integer a number stands for if a 64-bit word holds it, else its double; nothing if no double
can hold it. -/
def ofNumeral? (n : Numeral) : Option Json :=
  match n.toInt?.filter fitsWord with
  | some i => some (.int i)
  | none => n.toDouble?.map .double

end Json

end OrgBilling
