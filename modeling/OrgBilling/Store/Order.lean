/-!
# The order of query results

A query that asks for an order is answered with all its rows in that order. Texts are ordered by the
collation of the database, which is a setting of the database. Which of several rows with the same
key comes first is open: it depends on where the rows lie at the moment, and can be different at the
next query. An `Arrangement` is one way to choose, and whoever runs a query that leaves a choice is
given one.
-/

namespace OrgBilling.Store

/-- How a database compares texts: a linear order. -/
structure Collation where
  /-- The first text may come before the second one. -/
  le : String → String → Bool
  le_total : ∀ a b, (le a b || le b a) = true
  le_trans : ∀ {a b c}, le a b = true → le b c = true → le a c = true
  le_antisymm : ∀ {a b}, le a b = true → le b a = true → a = b

/-- The collation that compares texts by the numbers of their characters. -/
def Collation.codePoints : Collation where
  le a b := !decide (b < a)
  le_total a b := by
    simp only [Bool.or_eq_true, Bool.not_eq_true', decide_eq_false_iff_not, String.not_lt]
    exact String.le_total a b
  le_trans {a b c} hab hbc := by
    simp only [Bool.not_eq_true', decide_eq_false_iff_not, String.not_lt] at hab hbc ⊢
    exact String.le_trans hab hbc
  le_antisymm {a b} hab hba := by
    simp only [Bool.not_eq_true', decide_eq_false_iff_not, String.not_lt] at hab hba
    exact String.le_antisymm hab hba

/-- A way to put rows in order. `before x y` says that `x` may come before `y`; where it says so of
two rows both ways, the arrangement chooses. -/
structure Arrangement {α : Type} (before : α → α → Prop) where
  /-- The rows in their order. -/
  arrange : List α → List α
  perm : ∀ rows, (arrange rows).Perm rows
  ordered : ∀ rows, (arrange rows).Pairwise before

/-- A way to put rows in the order of a text. -/
abbrev Collation.Arrangement {α : Type} (c : Collation) (key : α → String) :=
  Store.Arrangement fun x y : α => c.le (key x) (key y) = true

namespace Arrangement

variable {α : Type} {before : α → α → Prop}

@[simp] theorem mem_arrange (order : Arrangement before) {rows : List α} {x : α} :
    x ∈ order.arrange rows ↔ x ∈ rows :=
  (order.perm rows).mem_iff

@[simp] theorem length_arrange (order : Arrangement before) (rows : List α) :
    (order.arrange rows).length = rows.length :=
  (order.perm rows).length_eq

/-- The arrangement that leaves rows as they stand where it may. -/
def stable (le : α → α → Bool) (total : ∀ x y, (le x y || le y x) = true)
    (trans : ∀ x y z, le x y = true → le y z = true → le x z = true) :
    Arrangement fun x y => le x y = true where
  arrange rows := rows.mergeSort le
  perm rows := List.mergeSort_perm rows le
  ordered rows := List.pairwise_mergeSort trans total rows

end Arrangement

/-- Rows in the order of a text; those with the same text stay as they stand. -/
def Collation.stable {α : Type} (c : Collation) (key : α → String) : c.Arrangement key :=
  .stable (fun x y => c.le (key x) (key y)) (fun _ _ => c.le_total _ _) fun _ _ _ => c.le_trans

end OrgBilling.Store
