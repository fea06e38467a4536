import OrgBilling.Text.Hex

/-!
# IPv4 addresses

An IPv4 address in a URL is up to four numbers between points, each in decimal, octal or hexadecimal
notation. The last number fills the bytes that the others leave. A host is read as an address as
soon as its last label looks like a number, so that no name can be taken for one.
-/

namespace OrgBilling.Url.Ipv4

/-- The number that digits of a base stand for. -/
def value (base : Nat) (ds : List Char) : Nat :=
  ds.foldl (fun n c => base * n + (Text.Hex.digitValue? c).getD 0) 0

/-- A number in one of the notations. The prefix of octal and hexadecimal numbers may stand alone
and is zero then. -/
def number? (cs : List Char) : Option Nat :=
  match cs with
  | '0' :: 'x' :: ds | '0' :: 'X' :: ds =>
    if ds.all fun c => (Text.Hex.digitValue? c).isSome then some (value 16 ds) else none
  | '0' :: d :: ds =>
    if (d :: ds).all fun c => '0' ≤ c && c ≤ '7' then some (value 8 (d :: ds)) else none
  | [] => none
  | ds => if ds.all Char.isDigit then some (value 10 ds) else none

/-- Labels without the empty one that a point at the end leaves. -/
def withoutRoot (labels : List (List Char)) : List (List Char) :=
  if labels.length > 1 && labels.getLast? == some [] then labels.dropLast else labels

/-- The last label looks like a number: it is one, or it has only digits. -/
def endsInNumber (labels : List (List Char)) : Bool :=
  (withoutRoot labels).getLast?.any fun l =>
    (!l.isEmpty && l.all Char.isDigit) || (number? l).isSome

/-- The labels are an address. -/
def isAddress (labels : List (List Char)) : Bool :=
  let labels := withoutRoot labels
  labels.length ≤ 4 &&
    match labels.mapM number? with
    | some ns => ns.dropLast.all (· < 256) && ns.getLast?.any (· < Nat.pow 256 (5 - ns.length))
    | none => false

end OrgBilling.Url.Ipv4
