import OrgBilling.DomainName.Composition
import OrgBilling.DomainName.Direction
import OrgBilling.DomainName.Joining
import OrgBilling.DomainName.Mapping
import OrgBilling.DomainName.Punycode

/-!
# Labels

A label is the part of a domain name between two points. It may be given in ASCII with the prefix
`xn--`, which says that the rest is Punycode; `Label.ofText?` gives its characters. A label is well
formed if it does not start with a combining mark, if every joiner in it shows, and if it is not too
long to be written in ASCII.
-/

namespace OrgBilling.DomainName

/-- The characters of a label. -/
abbrev Label := List Char

namespace Label

/-- The longest label with other characters than ASCII. -/
def maxLength : Nat := 1000

/-- The longest text that is read as Punycode. -/
def maxCodeLength : Nat := 2000

/-- A character of ASCII. -/
def isAscii (c : Char) : Bool :=
  c.toNat < 0x80

/-- The label that is written as Punycode. It has to be written the one way that there is: from
valid characters in composed form, and only if it needs Punycode. -/
def ofPunycode? (cs : List Char) : Option Label := do
  if !cs.all isAscii || cs.isEmpty || cs.getLast? == some '-' || maxCodeLength < cs.length then none
  let label ← Punycode.decode? cs
  if label.all Mapping.isValid && Composition.isComposed label then some label else none

/-- The label that a part of a mapped name stands for. -/
def ofText? : List Char → Option Label
  | 'x' :: 'n' :: '-' :: '-' :: rest => ofPunycode? rest
  | cs => some cs

/-- A label may stand in a name. -/
def isWellFormed (l : Label) : Bool :=
  !l.head?.any CombiningMark.contains && Joining.allJustified [] l &&
    (l.all isAscii || l.length ≤ maxLength)

/-- The directions of the characters of a label. -/
def directions (l : Label) : List Direction :=
  l.map Direction.ofChar

end Label

end OrgBilling.DomainName
