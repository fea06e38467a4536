import OrgBilling.DomainName.Mapping.Exclusion
import OrgBilling.DomainName.Mapping.Expansion
import OrgBilling.DomainName.Mapping.Replacement

/-!
# The mapping of domain names

Domain names are compared after a mapping (UTS #46): letters lose their case, characters that are
only drawn differently become the same one, and some that are not seen at all are dropped. A
character is valid if it comes through the mapping unchanged, and a name that holds one of the
disallowed characters has no mapping.
-/

namespace OrgBilling.DomainName.Mapping

/-- The one character that replaces a character. -/
def replacement? (c : Char) : Option Char :=
  match runs.findSome? fun r => r.replace? c.toNat with
  | some n => some (Char.ofNat n)
  | none => rows.findSome? fun (first, targets) =>
      if first ≤ c.toNat then targets.toList[c.toNat - first]? else none

/-- The text of several characters that replaces a character. -/
def expansion? (c : Char) : Option (List Char) :=
  (expansions.findSome? fun (first, texts) =>
    if first ≤ c.toNat then texts[c.toNat - first]? else none).map String.toList

/-- What a character becomes; nothing if it is disallowed. -/
def ofChar? (c : Char) : Option (List Char) :=
  match replacement? c, expansion? c with
  | some d, _ => some [d]
  | none, some ds => some ds
  | none, none =>
    if ignored.contains c then some []
    else if disallowed.contains c then none
    else some [c]

/-- A character comes through the mapping unchanged. -/
def isValid (c : Char) : Bool :=
  ofChar? c == some [c]

/-- What a text becomes; nothing if it holds a disallowed character. -/
def ofText? (cs : List Char) : Option (List Char) :=
  (cs.mapM ofChar?).map List.flatten

end OrgBilling.DomainName.Mapping
