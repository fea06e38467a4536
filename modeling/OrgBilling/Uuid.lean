import OrgBilling.Json.Decoder
import OrgBilling.Json.Printer

/-!
# Row ids

Rows are identified by UUIDs. Their written form is 32 hexadecimal digits in five groups; reading
also accepts the digits without hyphens, and the hyphenated form inside braces or behind
`urn:uuid:`. Letters may have either case and are always written small.

The tables number their rows without end, so the type does not carry the limit of 128 bits; the
readers only give values below it (`Uuid.parse?`), and `Uuid.row` says how a row's number
shows in its id.
-/

namespace OrgBilling

/-- A UUID, as the number its digits stand for. -/
structure Uuid where
  /-- The number. -/
  value : Nat
  deriving DecidableEq, Inhabited

namespace Uuid

/-- The last `width` hexadecimal digits of a number. -/
def hexDigits : Nat → Nat → List Char
  | 0, _ => []
  | width + 1, n => hexDigits width (n / 16) ++ [Text.Hex.digit (n % 16)]

/-- The five groups of digits with hyphens between them. -/
def chars (u : Uuid) : List Char :=
  hexDigits 8 (u.value / Nat.pow 2 96) ++ '-' ::
  hexDigits 4 (u.value / Nat.pow 2 80) ++ '-' ::
  hexDigits 4 (u.value / Nat.pow 2 64) ++ '-' ::
  hexDigits 4 (u.value / Nat.pow 2 48) ++ '-' ::
  hexDigits 12 u.value

/-- The text of a UUID. -/
def text (u : Uuid) : String :=
  String.ofList u.chars

/-- Read hexadecimal digits onto the value already read. -/
def readHex? (acc : Nat) : List Char → Option Nat
  | [] => some acc
  | c :: cs => do
    let d ← Text.Hex.digitValue? c
    readHex? (16 * acc + d) cs

/-- Read 32 digits with hyphens after the eighth, twelfth, sixteenth and twentieth. -/
def readHyphenated? (cs : List Char) : Option Uuid :=
  match cs.drop 8, cs.drop 13, cs.drop 18, cs.drop 23 with
  | '-' :: b, '-' :: c, '-' :: d, '-' :: e =>
    if e.length = 12 then
      (readHex? 0 (cs.take 8 ++ b.take 4 ++ c.take 4 ++ d.take 4 ++ e)).map (⟨·⟩)
    else none
  | _, _, _, _ => none

/-- What may stand in front of the hyphenated form, its letters in either case. -/
def urnPrefix : List Char :=
  "urn:uuid:".toList

/-- Read a UUID in any of its forms. -/
def parse? (s : String) : Option Uuid :=
  let cs := s.toList
  if cs.length = 32 then (readHex? 0 cs).map (⟨·⟩)
  else if cs.head? = some '\x7b' && cs.getLast? = some '\x7d' then
    readHyphenated? cs.tail.dropLast
  else if (cs.take urnPrefix.length).map Char.toLower = urnPrefix then
    readHyphenated? (cs.drop urnPrefix.length)
  else readHyphenated? cs

/-- The id of the `n`-th row of the table with the given tag. -/
def row (tag n : Nat) : Uuid :=
  ⟨tag * Nat.pow 2 96 + 0x40008000 * Nat.pow 2 48 + n⟩

theorem row_inj {tag n m : Nat} : row tag n = row tag m ↔ n = m := by
  simp [row]

/-- A UUID as a JSON string. -/
def toJson (u : Uuid) : Json :=
  .string u.text

/-- Read a UUID from a JSON string. -/
def decode : Decoder Uuid := fun room v =>
  Decoder.text room v >>= parse?

end Uuid

end OrgBilling
