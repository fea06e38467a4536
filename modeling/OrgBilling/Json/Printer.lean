import OrgBilling.Json.Basic
import OrgBilling.Text.Decimal
import OrgBilling.Text.Hex

/-!
# Writing JSON

The compact text of a value: no white space, members in the order in which the value has them, and
in strings only what JSON does not allow raw is escaped (`"`, `\` and the control characters, the
common ones by a letter and the others by `\u00xx`).
-/

namespace OrgBilling.Json

/-- One character inside a string. -/
def renderChar (c : Char) : List Char :=
  if c = '"' then ['\\', '"']
  else if c = '\\' then ['\\', '\\']
  else if c = '\x08' then ['\\', 'b']
  else if c = '\t' then ['\\', 't']
  else if c = '\n' then ['\\', 'n']
  else if c = '\x0c' then ['\\', 'f']
  else if c = '\r' then ['\\', 'r']
  else if c.toNat < 0x20 then
    ['\\', 'u', '0', '0', Text.Hex.digit (c.toNat / 16), Text.Hex.digit (c.toNat % 16)]
  else [c]

/-- A text between quotes. -/
def renderString (s : String) : List Char :=
  '"' :: s.toList.flatMap renderChar ++ ['"']

/-- A double by its digits and its power of ten. -/
def renderDouble (x : Double) : List Char :=
  let (digits, e) := x.toDecimal
  (if x.negative then ['-'] else []) ++
    Text.Decimal.writeNat digits ++ 'e' :: Text.Decimal.writeInt e

mutual

/-- The characters of a value. -/
def render : Json → List Char
  | .null => ['n', 'u', 'l', 'l']
  | .bool true => ['t', 'r', 'u', 'e']
  | .bool false => ['f', 'a', 'l', 's', 'e']
  | .int i => Text.Decimal.writeInt i
  | .double x => renderDouble x
  | .string s => renderString s
  | .array items => '[' :: renderItems items ++ [']']
  | .object members => '\x7b' :: renderMembers members ++ ['\x7d']

/-- The items of an array, with commas between them. -/
def renderItems : List Json → List Char
  | [] => []
  | [v] => render v
  | v :: vs => render v ++ ',' :: renderItems vs

/-- The members of an object, with commas between them. -/
def renderMembers : List (String × Json) → List Char
  | [] => []
  | [(name, v)] => renderString name ++ ':' :: render v
  | (name, v) :: rest => renderString name ++ ':' :: render v ++ ',' :: renderMembers rest

end

/-- The text of a value. -/
def text (j : Json) : String :=
  String.ofList (render j)

mutual

/-- The same value with the members of every object sorted by name. -/
def sorted : Json → Json
  | .array items => .array (sortedItems items)
  | .object members => .object (sortedMembers members)
  | j => j

/-- Items with their objects sorted. -/
def sortedItems : List Json → List Json
  | [] => []
  | v :: vs => sorted v :: sortedItems vs

/-- Members sorted by name. -/
def sortedMembers : List (String × Json) → List (String × Json)
  | [] => []
  | (name, v) :: rest => insertMember name (sorted v) (sortedMembers rest)

end

end OrgBilling.Json
