import OrgBilling.Json.Double

/-!
# Numbers as written

A number of a JSON text is kept as it was written, digit by digit, and has two readings. One without
point and exponent stands for an integer. Any number stands for a double, by a rule that looks at no
more than the digits that a word of 64 bits holds: the leading ones make a natural number, which is
rounded to a double, and that is multiplied with or divided by a power of ten, itself a double. So
the result may be a neighbour of the double nearest to the number, and a number just below the
greatest double may have none.
-/

namespace OrgBilling

/-- A number as it was written. -/
structure Numeral where
  /-- The number has a minus sign. -/
  negative : Bool
  /-- The digits before the point. -/
  whole : List Nat
  /-- The digits after the point, if there is one. -/
  fraction : Option (List Nat)
  /-- The exponent, if there is one. -/
  exponent : Option Int
  deriving DecidableEq

namespace Numeral

/-- The natural number that digits stand for. -/
def digitsValue (ds : List Nat) : Nat :=
  ds.foldl (fun n d => 10 * n + d) 0

/-- The integer that a number without point and exponent stands for. Minus zero is none: it is a
number of its own that no integer type holds. -/
def toInt? (n : Numeral) : Option Int :=
  if n.fraction.isSome || n.exponent.isSome then none
  else
    match n.negative, digitsValue n.whole with
    | true, 0 => none
    | true, v => some (-(v : Int))
    | false, v => some v

/-- Append digits to a number for as long as a word of 64 bits holds it: the number, and how many
digits were appended. -/
def appendDigits (acc : Nat) : List Nat → Nat × Nat
  | [] => (acc, 0)
  | d :: ds =>
    if 10 * acc + d < Nat.pow 2 64 then
      let (value, taken) := appendDigits (10 * acc + d) ds
      (value, taken + 1)
    else (acc, 0)

/-- The leading digits as a natural number, and the power of ten it is to be multiplied with. Digits
after the point are tried even where a digit before it was left out. -/
def leading (n : Numeral) : Nat × Int :=
  let (s, wholeTaken) := appendDigits 0 n.whole
  let (s, fractionTaken) := appendDigits s (n.fraction.getD [])
  (s, (n.whole.length - wholeTaken : Int) - fractionTaken + n.exponent.getD 0)

/-- The greatest power of ten below the greatest double has this exponent. -/
def maxPower : Nat := 308

/-- A double divided by a power of ten, by the greatest one again and again as long as that is
needed and there is something left to divide. -/
def divPower? (x : Double) (k : Nat) : Option Double :=
  if _h : k ≤ maxPower then Double.ofNat? (Nat.pow 10 k) >>= x.div?
  else if x.mantissa = 0 then some x
  else do
    let y ← Double.ofNat? (Nat.pow 10 maxPower) >>= x.div?
    divPower? y (k - maxPower)
termination_by k
decreasing_by simp only [maxPower] at *; omega

/-- A double multiplied with a power of ten. -/
def mulPower? (x : Double) (k : Nat) : Option Double :=
  if k ≤ maxPower then Double.ofNat? (Nat.pow 10 k) >>= x.mul?
  else if x.mantissa = 0 then some x
  else none

/-- The double that a number stands for; nothing if it is too large. -/
def toDouble? (n : Numeral) : Option Double := do
  let (s, e) := n.leading
  let x ← Double.ofNat? s
  let y ← if 0 ≤ e then mulPower? x e.toNat else divPower? x (-e).toNat
  some (y.withSign n.negative)

end Numeral

end OrgBilling
