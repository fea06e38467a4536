/-!
# Compression of long texts

Long texts are compressed before they are stored in an index, and only how long they get is ever
seen. The text is written as items: a byte as it is, or a reference to an earlier place from which
some bytes are repeated. In front of every eight items stands a byte that tells the two apart.

Earlier places are found by a hash of the next four bytes, nearest first (`matchLength`). The search
is satisfied with shorter matches the more places it has seen. Compression is given up when it does
not save a quarter, or when nothing has been repeated for a long time (`compressedLength?`).
-/

namespace OrgBilling.Store.Compression

/-- The longest part that one reference can repeat. -/
def maxMatch : Nat := 273

/-- References reach less far back than this. -/
def reach : Nat := 4095

/-- A place in the text: how many bytes stand before it, and the bytes from there on. -/
structure Place where
  /-- How many bytes stand before it. -/
  position : Nat
  /-- The bytes from there on. -/
  bytes : List UInt8

/-- Earlier places by their hash, nearest first. -/
abbrev History := Array (List Place)

/-- The number of hashes that are told apart in a text of a given length. -/
def hashCount (length : Nat) : Nat :=
  if length < 128 then 512
  else if length < 256 then 1024
  else if length < 512 then 2048
  else if length < 1024 then 4096
  else 8192

/-- A byte as a number of sixteen bits with its sign. -/
def extend (b : UInt8) : Nat :=
  if b < 128 then b.toNat else b.toNat + (Nat.pow 2 16 - Nat.pow 2 8)

/-- The hash of the bytes at a place, where `count` hashes are told apart. -/
def hash (count : Nat) : List UInt8 → Nat
  | a :: b :: c :: d :: _ =>
    (extend a <<< 6 ^^^ extend b <<< 4 ^^^ extend c <<< 2 ^^^ extend d) % count
  | a :: _ => extend a % count
  | [] => 0

/-- The length of the part at the start of both texts, up to a limit. -/
def commonLength : Nat → List UInt8 → List UInt8 → Nat
  | limit + 1, a :: as, b :: bs => if a = b then commonLength limit as bs + 1 else 0
  | _, _, _ => 0

/-- The longest match for the bytes at `here` among earlier places. Once a match of length `enough`
is known the search ends, and `enough` falls by a tenth with each place. -/
def matchLength (here : Place) : Nat → Nat → List Place → Nat
  | _, best, [] => best
  | enough, best, p :: earlier =>
    if here.position - p.position ≥ reach then best
    else
      let best := max best (commonLength maxMatch here.bytes p.bytes)
      if best ≥ enough then best
      else matchLength here (enough - enough * 10 / 100) best earlier

/-- Add the next `count` places from `here` on. -/
def remember (h : History) (here : Place) : Nat → History
  | 0 => h
  | count + 1 =>
    let h := h.modify (hash h.size here.bytes) (here :: ·)
    remember h ⟨here.position + 1, here.bytes.tail⟩ count

/-- What has been written: the number of items, and the length of all of them. -/
structure Output where
  /-- The number of items. -/
  items : Nat
  /-- The length of the items. -/
  length : Nat
  /-- A reference was among them. -/
  hasReference : Bool

/-- The bytes of what has been written. -/
def Output.size (o : Output) : Nat :=
  o.length + (o.items + 7) / 8

/-- Write the rest of a text in less than `limit` bytes. -/
def write (limit : Nat) (h : History) (o : Output) (here : Place) : Option Nat :=
  if here.bytes.isEmpty then if o.size ≥ limit then none else some o.size
  else if o.size ≥ limit || (!o.hasReference && o.size ≥ 1024) then none
  else
    let n := matchLength here 128 0 (h.getD (hash h.size here.bytes) [])
    if n > 2 then
      write limit (remember h here n) ⟨o.items + 1, o.length + (if n > 17 then 3 else 2), true⟩
        ⟨here.position + n, here.bytes.drop n⟩
    else
      write limit (remember h here 1) ⟨o.items + 1, o.length + 1, o.hasReference⟩
        ⟨here.position + 1, here.bytes.drop 1⟩
termination_by here.bytes.length
decreasing_by
  all_goals
    have : 0 < here.bytes.length := by
      simpa [List.length_pos_iff] using ‹¬here.bytes.isEmpty = true›
    simp only [List.length_drop]
    omega

/-- The length of a text after compression; nothing if it does not save a quarter. -/
def compressedLength? (bytes : List UInt8) : Option Nat :=
  write (bytes.length * 75 / 100) (Array.replicate (hashCount bytes.length) []) ⟨0, 0, false⟩
    ⟨0, bytes⟩

end OrgBilling.Store.Compression
