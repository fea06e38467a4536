import OrgBilling.Text.Case

/-!
# Lower case

Lower-casing a text by the full Unicode rules. Each character is mapped by itself, with two
exceptions: the capital I with a dot becomes two characters, and a capital sigma at the end of a
word becomes the final sigma. "At the end of a word" looks past the case-ignorable characters on
either side: a cased letter must come before and none may follow.
-/

namespace OrgBilling.Text

/-- The small letter of a character that stands in one of the runs, else the character itself. -/
def smallLetter (c : Char) : Char :=
  let n := c.toNat
  match caseRuns.find? (fun r => r.first ≤ n && n ≤ r.last && (n - r.first) % r.step == 0) with
  | some r => Char.ofNat (n + r.offset).toNat
  | none => c

/-- The first character that is not case-ignorable has a case. -/
def nextIsCased (cs : List Char) : Bool :=
  match cs.dropWhile caseIgnorableClass.contains with
  | c :: _ => casedClass.contains c
  | [] => false

/-- Lower-case the characters `cs`, where `before` holds what precedes them, nearest first. -/
def lowerFrom (before : List Char) : List Char → List Char
  | [] => []
  | c :: cs =>
    let small :=
      if c = 'Σ' then [if nextIsCased before && !nextIsCased cs then 'ς' else 'σ']
      else if c = 'İ' then ['i', Char.ofNat 0x307]
      else [smallLetter c]
    small ++ lowerFrom (c :: before) cs

/-- A text in lower case. -/
def lower (s : String) : String :=
  String.ofList (lowerFrom [] s.toList)

end OrgBilling.Text
