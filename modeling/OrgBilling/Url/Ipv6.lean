import OrgBilling.Text.Hex
import OrgBilling.Text.Split

/-!
# IPv6 addresses

An IPv6 address is eight groups of up to four hexadecimal digits between colons. Two colons in one
place stand for one or more groups that are zero, and the last two groups may be written as four
decimal numbers between points.
-/

namespace OrgBilling.Url.Ipv6

/-- A group of digits. -/
def isGroup (cs : List Char) : Bool :=
  !cs.isEmpty && cs.length ≤ 4 && cs.all fun c => (Text.Hex.digitValue? c).isSome

/-- A decimal number of one byte, written without leading zeros. -/
def isByte (cs : List Char) : Bool :=
  !cs.isEmpty && cs.length ≤ 3 && cs.all Char.isDigit && (cs.head? != some '0' || cs.length == 1) &&
    cs.foldl (fun n c => 10 * n + (c.toNat - '0'.toNat)) 0 < 256

/-- Four decimal numbers between points. -/
def isDotted (cs : List Char) : Bool :=
  let parts := Text.splitAtEach '.' cs
  parts.length == 4 && parts.all isByte

/-- The number of groups that texts between colons fill; nothing if they are no groups. -/
def count? : List (List Char) → Option Nat
  | [] => some 0
  | [g] => if isGroup g then some 1 else if isDotted g then some 2 else none
  | g :: gs => if isGroup g then (count? gs).map (· + 1) else none

/-- The texts between colons; an empty text has none. -/
def groups (cs : List Char) : List (List Char) :=
  if cs.isEmpty then [] else Text.splitAtEach ':' cs

/-- What stands before and after the first two colons in one place. -/
def splitGap? : List Char → Option (List Char × List Char)
  | [] => none
  | ':' :: ':' :: cs => some ([], cs)
  | c :: cs => (splitGap? cs).map fun (front, back) => (c :: front, back)

/-- A text is an address. -/
def isAddress (cs : List Char) : Bool :=
  match splitGap? cs with
  | none => count? (groups cs) == some 8
  | some (front, back) =>
    (groups front).all isGroup && (count? (groups back)).any fun n => (groups front).length + n ≤ 7

end OrgBilling.Url.Ipv6
