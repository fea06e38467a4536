import OrgBilling.Json.Source
import OrgBilling.Text.Hex

/-!
# Reading JSON

The grammar of RFC 8259, read into `Source`. A reader takes the characters that are left and gives
what it read with what then remains. Numbers keep their digits, so no range is checked here; strings
refuse raw control characters and unknown escapes, but an escape that names a lone surrogate only
makes the string one without text.

The readers for values, items and members call each other and are bounded by a number of steps.
`Source.read?` gives them the length of the text, which every step shortens, so the bound is never
what ends a reading.
-/

namespace OrgBilling.Source

/-- The white space of JSON. -/
def isSpace (c : Char) : Bool :=
  c == ' ' || c == '\t' || c == '\n' || c == '\r'

/-- What remains after white space. -/
def skipSpace (cs : List Char) : List Char :=
  cs.dropWhile isSpace

/-- The sixteen-bit unit written as four hexadecimal digits. -/
def hexUnit? (a b c d : Char) : Option Nat := do
  let a ← Text.Hex.digitValue? a
  let b ← Text.Hex.digitValue? b
  let c ← Text.Hex.digitValue? c
  let d ← Text.Hex.digitValue? d
  some (4096 * a + 256 * b + 16 * c + d)

/-- A unit is the first half of a surrogate pair. -/
def isHighSurrogate (u : Nat) : Bool :=
  0xD800 ≤ u && u < 0xDC00

/-- A unit is the second half of a surrogate pair. -/
def isLowSurrogate (u : Nat) : Bool :=
  0xDC00 ≤ u && u < 0xE000

/-- The character that a letter after a backslash stands for. -/
def escapeLetter? : Char → Option Char
  | '"' => some '"'
  | '\\' => some '\\'
  | '/' => some '/'
  | 'b' => some '\x08'
  | 'f' => some '\x0c'
  | 'n' => some '\n'
  | 'r' => some '\r'
  | 't' => some '\t'
  | _ => none

/-- The rest of a string after its opening quote, as code points; each half of a surrogate pair
counts as one. -/
def readUnits? : List Char → Option (List Nat × List Char)
  | [] => none
  | '"' :: rest => some ([], rest)
  | '\\' :: 'u' :: a :: b :: c :: d :: rest => do
    let u ← hexUnit? a b c d
    let (units, left) ← readUnits? rest
    some (u :: units, left)
  | '\\' :: e :: rest => do
    let c ← escapeLetter? e
    let (units, left) ← readUnits? rest
    some (c.toNat :: units, left)
  | c :: rest =>
    if c = '\\' || c.toNat < 0x20 then none
    else do
      let (units, left) ← readUnits? rest
      some (c.toNat :: units, left)

/-- The characters of code points in which surrogates come in pairs; nothing if one stands alone. -/
def joinUnits? : List Nat → Option (List Char)
  | [] => some []
  | [u] => if isHighSurrogate u || isLowSurrogate u then none else some [Char.ofNat u]
  | u :: v :: rest =>
    if isHighSurrogate u then
      if isLowSurrogate v then
        (joinUnits? rest).map (Char.ofNat (0x10000 + (u - 0xD800) * 0x400 + (v - 0xDC00)) :: ·)
      else none
    else if isLowSurrogate u then none
    else (joinUnits? (v :: rest)).map (Char.ofNat u :: ·)

/-- The rest of a string after its opening quote, with its text if it has one. -/
def readString? (cs : List Char) : Option (Option String × List Char) := do
  let (units, left) ← readUnits? cs
  some ((joinUnits? units).map String.ofList, left)

/-- The digits in front, at least one of them. -/
def readDigits? (cs : List Char) : Option (List Nat × List Char) :=
  match cs.span Char.isDigit with
  | ([], _) => none
  | (ds, rest) => some (ds.map fun c => c.toNat - '0'.toNat, rest)

/-- The digits before the point: a single zero, or digits that do not start with one. -/
def readWhole? : List Char → Option (List Nat × List Char)
  | '0' :: rest => some ([0], rest)
  | cs => readDigits? cs

/-- The digits after a point, if a point follows. -/
def readFraction? : List Char → Option (Option (List Nat) × List Char)
  | '.' :: rest => (readDigits? rest).map fun (ds, left) => (some ds, left)
  | cs => some (none, cs)

/-- The exponent, if one follows. -/
def readExponent? : List Char → Option (Option Int × List Char)
  | c :: rest =>
    if c = 'e' || c = 'E' then
      match rest with
      | '-' :: rest' =>
        (readDigits? rest').map fun (ds, left) => (some (-(Numeral.digitsValue ds : Int)), left)
      | '+' :: rest' =>
        (readDigits? rest').map fun (ds, left) => (some (Numeral.digitsValue ds : Int), left)
      | _ => (readDigits? rest).map fun (ds, left) => (some (Numeral.digitsValue ds : Int), left)
    else some (none, c :: rest)
  | [] => some (none, [])

/-- A number after its sign. -/
def readMagnitude? (negative : Bool) (cs : List Char) : Option (Numeral × List Char) := do
  let (whole, cs) ← readWhole? cs
  let (fraction, cs) ← readFraction? cs
  let (exponent, cs) ← readExponent? cs
  some (⟨negative, whole, fraction, exponent⟩, cs)

/-- A number. -/
def readNumeral? : List Char → Option (Numeral × List Char)
  | '-' :: rest => readMagnitude? true rest
  | cs => readMagnitude? false cs

mutual

/-- A value, with white space allowed in front. -/
def readValue? : Nat → List Char → Option (Source × List Char)
  | 0, _ => none
  | steps + 1, cs =>
    match skipSpace cs with
    | 'n' :: 'u' :: 'l' :: 'l' :: rest => some (.null, rest)
    | 't' :: 'r' :: 'u' :: 'e' :: rest => some (.bool true, rest)
    | 'f' :: 'a' :: 'l' :: 's' :: 'e' :: rest => some (.bool false, rest)
    | '"' :: rest => do
      let (text, left) ← readString? rest
      some (.string text, left)
    | '[' :: rest =>
      match skipSpace rest with
      | ']' :: left => some (.array [], left)
      | _ => do
        let (items, left) ← readItems? steps rest
        some (.array items, left)
    | '\x7b' :: rest =>
      match skipSpace rest with
      | '\x7d' :: left => some (.object [], left)
      | _ => do
        let (members, left) ← readMembers? steps rest
        some (.object members, left)
    | rest => do
      let (n, left) ← readNumeral? rest
      some (.number n, left)

/-- One or more items and the bracket that closes the array. -/
def readItems? : Nat → List Char → Option (List Source × List Char)
  | 0, _ => none
  | steps + 1, cs => do
    let (item, left) ← readValue? steps cs
    match skipSpace left with
    | ']' :: left => some ([item], left)
    | ',' :: left =>
      let (items, left) ← readItems? steps left
      some (item :: items, left)
    | _ => none

/-- One or more members and the brace that closes the object. -/
def readMembers? : Nat → List Char → Option (List (Option String × Source) × List Char)
  | 0, _ => none
  | steps + 1, cs =>
    match skipSpace cs with
    | '"' :: rest => do
      let (name, left) ← readString? rest
      match skipSpace left with
      | ':' :: left =>
        let (value, left) ← readValue? steps left
        let member := (name, value)
        match skipSpace left with
        | '\x7d' :: left => some ([member], left)
        | ',' :: left =>
          let (members, left) ← readMembers? steps left
          some (member :: members, left)
        | _ => none
      | _ => none
    | _ => none

end

/-- The value at the front of a text; what follows it is left. -/
def readFirst? (cs : List Char) : Option (Source × List Char) :=
  readValue? (2 * cs.length + 2) cs

/-- The value that a whole text consists of, white space around it aside. -/
def read? (text : String) : Option Source := do
  let (value, left) ← readFirst? text.toList
  if skipSpace left = [] then some value else none

end OrgBilling.Source
