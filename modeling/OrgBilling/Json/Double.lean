/-!
# Doubles

The finite binary floating-point numbers of 64 bits: a sign and a magnitude, which is a mantissa of
at most 53 bits times two to an exponent between -1074 and 971. A magnitude has one form: the
mantissa has all its 53 bits unless the exponent is the least one.

`Double.ofRatio?` rounds a ratio of natural numbers to the nearest double, a tie to the even
mantissa, and every other operation is that rounding of its exact result. `Double.toDecimal` is the
way back, to a decimal of few digits.
-/

namespace OrgBilling

/-- A finite double. -/
structure Double where
  /-- The number has a minus sign; zero may have one too. -/
  negative : Bool
  /-- The natural number that a power of two is to be multiplied with. -/
  mantissa : Nat
  /-- The exponent of that power of two. -/
  exponent : Int
  deriving DecidableEq

namespace Double

/-- The least exponent. -/
def minExponent : Int := -1074

/-- The greatest exponent. -/
def maxExponent : Int := 971

/-- Zero without a sign. -/
def zero : Double := ⟨false, 0, minExponent⟩

/-- The quotient of two natural numbers, rounded to the nearest one; a tie goes to the even one. -/
def divNearest (num den : Nat) : Nat :=
  let q := num / den
  let r := num % den
  if 2 * r < den then q
  else if den < 2 * r then q + 1
  else q + q % 2

/-- The ratio `num / den * 2 ^ e` of natural numbers, not reduced. -/
def scale (num den : Nat) (e : Int) : Nat × Nat :=
  (num * Nat.pow 2 e.toNat, den * Nat.pow 2 (-e).toNat)

/-- The greatest `k` with `2 ^ k ≤ num / den`. The logarithms of the two numbers give it up to one,
and a comparison decides. -/
def log2Ratio (num den : Nat) : Int :=
  let k := (num.log2 : Int) - den.log2
  let (a, b) := scale num den (-k)
  if a < b then k - 1 else k

/-- The double nearest to a ratio of natural numbers; a tie goes to the even mantissa. There is none
where the magnitude rounds beyond the greatest finite one. -/
def ofRatio? (num den : Nat) : Option Double :=
  if num = 0 then some zero
  else
    let e := max minExponent (log2Ratio num den - 52)
    let (a, b) := scale num den (-e)
    let m := divNearest a b
    let x : Double := if m < Nat.pow 2 53 then ⟨false, m, e⟩ else ⟨false, Nat.pow 2 52, e + 1⟩
    if x.exponent ≤ maxExponent then some x else none

/-- The double nearest to a natural number. -/
def ofNat? (n : Nat) : Option Double :=
  ofRatio? n 1

/-- The same magnitude with another sign. -/
def withSign (negative : Bool) (x : Double) : Double :=
  { x with negative }

/-- The product, rounded. -/
def mul? (x y : Double) : Option Double :=
  let (a, b) := scale (x.mantissa * y.mantissa) 1 (x.exponent + y.exponent)
  (ofRatio? a b).map (withSign (x.negative != y.negative))

/-- The quotient, rounded. -/
def div? (x y : Double) : Option Double :=
  let (a, b) := scale x.mantissa y.mantissa (x.exponent - y.exponent)
  (ofRatio? a b).map (withSign (x.negative != y.negative))

/-! ## Decimals -/

/-- A magnitude as a natural number times a power of ten, exactly. -/
def exactDecimal (x : Double) : Nat × Int :=
  if 0 ≤ x.exponent then (x.mantissa * Nat.pow 2 x.exponent.toNat, 0)
  else (x.mantissa * Nat.pow 5 (-x.exponent).toNat, x.exponent)

/-- The decimal of at most `count` digits, or a power of ten, that is nearest to a magnitude. -/
def nearestDecimal (x : Double) (count : Nat) : Nat × Int :=
  let (digits, e) := x.exactDecimal
  let spare := (Nat.toDigits 10 digits).length - count
  (divNearest digits (Nat.pow 10 spare), e + spare)

/-- A magnitude is the double nearest to a decimal. -/
def reads (x : Double) (decimal : Nat × Int) : Bool :=
  let (digits, e) := decimal
  ofRatio? (digits * Nat.pow 10 e.toNat) (Nat.pow 10 (-e).toNat) == some (x.withSign false)

/-- A decimal that stands for a magnitude: of the nearest ones with one digit, two, and so on, the
first that reads back. Seventeen digits are always enough. -/
def toDecimal (x : Double) : Nat × Int :=
  (((List.range' 1 16).map x.nearestDecimal).find? x.reads).getD (x.nearestDecimal 17)

end Double

end OrgBilling
