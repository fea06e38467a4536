/-!
# Punycode

How a label of a domain name with characters outside ASCII is written in ASCII (RFC 3492). In front
of the last hyphen stand the ASCII characters of the label; what follows says in base 36 where which
other character is inserted, in the order of their code points. `decode?` reads a written label. Its
numbers are held to 32 bits, as the standard asks of a reader.
-/

namespace OrgBilling.DomainName.Punycode

/-- The value of a digit: letters count from zero, digits go on from 26. -/
def digitValue? (c : Char) : Option Nat :=
  if 'a' ≤ c ∧ c ≤ 'z' then some (c.toNat - 'a'.toNat)
  else if '0' ≤ c ∧ c ≤ '9' then some (c.toNat - '0'.toNat + 26)
  else none

/-- The number of digits. -/
def base : Nat := 36

/-- The digit below which the digit at a place is the last one of its number. -/
def threshold (place bias : Nat) : Nat :=
  min 26 (max 1 (place - bias))

/-- Divide a number by 35 until it is at most 455; every division adds one base to the bias `k`. -/
def damp (delta k : Nat) : Nat × Nat :=
  if 455 < delta then damp (delta / 35) (k + base) else (delta, k)
termination_by delta
decreasing_by exact Nat.div_lt_self (by omega) (by omega)

/-- The bias after a number, which keeps the next one short if it is of the same size. -/
def adapt (delta count : Nat) (isFirst : Bool) : Nat :=
  let delta := if isFirst then delta / 700 else delta / 2
  let (delta, k) := damp (delta + delta / count) 0
  k + base * delta / (delta + 38)

/-- A natural number below the limit of 32 bits. -/
def word? (n : Nat) : Option Nat :=
  if n < Nat.pow 2 32 then some n else none

/-- Read a number, the least digit first, and add it to `acc`. What remains is shorter. -/
def readNumber? (bias acc weight place : Nat) :
    (cs : List Char) → Option (Nat × { rest : List Char // rest.length < cs.length })
  | [] => none
  | c :: cs => do
    let d ← digitValue? c
    let sum ← word? (acc + (← word? (d * weight)))
    let t := threshold place bias
    if d < t then some (sum, ⟨cs, by simp⟩)
    else
      let (n, ⟨rest, h⟩) ← readNumber? bias sum (← word? (weight * (base - t))) (place + base) cs
      some (n, ⟨rest, by simp only [List.length_cons]; omega⟩)

/-- Insert the characters that numbers stand for: `code` is the code point and `index` the place
from which the next number counts. -/
def insertAll? (bias code index : Nat) (label : List Char) (cs : List Char) :
    Option (List Char) :=
  match cs with
  | [] => some label
  | c :: cs =>
    match readNumber? bias index 1 base (c :: cs) with
    | none => none
    | some (n, ⟨rest, _⟩) =>
      let count := label.length + 1
      let code := code + n / count
      if code.isValidChar then
        insertAll? (adapt (n - index) count (index == 0)) code (n % count + 1)
          (label.insertIdx (n % count) (Char.ofNat code)) rest
      else none
termination_by cs.length
decreasing_by assumption

/-- The label that a text stands for. -/
def decode? (cs : List Char) : Option (List Char) :=
  let numbers := (cs.reverse.takeWhile (· != '-')).reverse
  let front := cs.take (cs.length - numbers.length - 1)
  insertAll? 72 128 0 front (if front.isEmpty then cs else numbers)

end OrgBilling.DomainName.Punycode
