import OrgBilling.Store.Basic
import OrgBilling.Store.Compression
import OrgBilling.Text.Utf8

/-!
# Sizes of index rows

A column with an index holds no text that is too long for the index: a row of the index has to fit
three times on a page. What counts is the size of the whole row, in which long texts are compressed
and texts of more than 126 bytes start at a multiple of four.
-/

namespace OrgBilling

namespace Store.Index

/-- The next multiple of `unit`. -/
def align (unit n : Nat) : Nat :=
  (n + unit - 1) / unit * unit

/-- Where a row ends when a text is added to one that ends at `offset`. -/
def endOfText (offset : Nat) (text : String) : Nat :=
  let bytes := Text.utf8 text
  if bytes.length ≤ 126 then offset + 1 + bytes.length
  else
    let plain := align 4 offset + 4 + bytes.length
    if bytes.length ≤ 506 then plain
    else
      match Compression.compressedLength? bytes with
      | some n => align 4 offset + 8 + n
      | none => plain

/-- The size of a row of an index on texts. -/
def rowSize (texts : List String) : Nat :=
  align 8 (8 + texts.foldl endOfText 0)

/-- The size that no row of any index exceeds. -/
def maxSize : Nat := 8191

/-- The size of which three rows fit on a page. -/
def maxPageSize : Nat := 2704

/-- Why an index does not take a row of texts; nothing if it does. -/
def refusal? (index : String) (texts : List String) : Option DatabaseError :=
  let size := rowSize texts
  if size > maxSize then some (.indexRowTooLong size maxSize)
  else if size > maxPageSize then some (.indexKeyTooLong size maxPageSize index)
  else none

end Store.Index

namespace Transaction

/-- Go on only if an index takes a row of texts. -/
def requireIndexable (index : String) (texts : List String) : Transaction Unit :=
  match Store.Index.refusal? index texts with
  | some cause => fail cause
  | none => pure ()

end Transaction

end OrgBilling
