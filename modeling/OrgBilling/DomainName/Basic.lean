import OrgBilling.DomainName.Label
import OrgBilling.Text.Split

/-!
# Domain names

A text is read as a domain name in three steps: it is mapped (`Mapping`), composed (`Composition`)
and cut at its points into labels (`Label`). `labels?` gives the labels, or nothing if the text is
no name: if it holds a character that names or URLs do not allow, if a label is malformed, or if its
labels mix directions of writing.
-/

namespace OrgBilling.DomainName

/-- A character of ASCII that no domain name in a URL holds. -/
def isForbidden (c : Char) : Bool :=
  c.toNat ≤ 0x20 || c.toNat = 0x7F ||
    ['#', '%', '/', ':', '<', '>', '?', '@', '[', '\\', ']', '^', '|'].contains c

/-- The labels keep characters of both directions apart. -/
def areUniform (labels : List Label) : Bool :=
  let directions := labels.map Label.directions
  !directions.any (fun ds => ds.any Direction.isRightward) || directions.all Direction.isUniform

/-- The labels of a domain name. -/
def labels? (name : List Char) : Option (List Label) := do
  let composed := Composition.compose (← Mapping.ofText? name)
  if composed.any isForbidden then none
  let labels ← (Text.splitAtEach '.' composed).mapM Label.ofText?
  if labels.all Label.isWellFormed && areUniform labels then some labels else none

end OrgBilling.DomainName
