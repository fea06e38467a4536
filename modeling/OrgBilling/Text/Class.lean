/-!
# Character classes

A class of characters is given by the code point ranges that make it up, as the Unicode Character
Database lists them. The classes stand in modules of their own: white space (`Text.Blank`), the
characters that have a case and those that the rule for a final sigma looks past (`Text.Case`), and
the characters that a quoted text writes as an escape (`Text.Escaped`).

`Class.contains` looks a character up by walking the ranges, so membership in a class can be
computed by the kernel as well as at run time.
-/

namespace OrgBilling.Text

/-- A set of characters, as ranges of code points with both ends included. -/
structure Class where
  /-- The ranges, from the lowest code point to the highest. -/
  ranges : List (Nat × Nat)

namespace Class

/-- A code point lies in one of the ranges. -/
def containsCode (k : Class) (n : Nat) : Bool :=
  k.ranges.any fun (lo, hi) => lo ≤ n && n ≤ hi

/-- A character belongs to the class. -/
def contains (k : Class) (c : Char) : Bool :=
  k.containsCode c.toNat

/-- A character belongs to a class exactly when some range of the class holds its code point. -/
theorem contains_iff (k : Class) (c : Char) :
    k.contains c = true ↔ ∃ r ∈ k.ranges, r.1 ≤ c.toNat ∧ c.toNat ≤ r.2 := by
  simp [contains, containsCode]

end Class

end OrgBilling.Text
