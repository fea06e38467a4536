import Mathlib.Data.List.Nodup
import OrgBilling.Store.Order

/-!
# What the order of query results leaves open

Two arrangements of the same rows differ at most in the places of rows that may come before each
other. Rows with different texts have only one order by these texts, whatever the arrangement
(`Arrangement.arrange_eq_of_keys`).
-/

namespace OrgBilling.Store.Arrangement

variable {α : Type}

/-- Rows of which no two may change places have one arrangement. -/
theorem arrange_eq {before : α → α → Prop} (first second : Arrangement before) {xs ys : List α}
    (h : xs.Perm ys)
    (antisymm : ∀ x ∈ xs, ∀ y ∈ ys, before x y → before y x → x = y) :
    first.arrange xs = second.arrange ys :=
  List.Perm.eq_of_pairwise (fun x y hx hy => antisymm x (by simpa using hx) y (by simpa using hy))
    (first.ordered xs) (second.ordered ys)
    (((first.perm xs).trans h).trans (second.perm ys).symm)

section Keys

variable {c : Collation} {key : α → String} {xs : List α}

/-- Rows with different texts have one arrangement. -/
theorem arrange_eq_of_keys (first second : c.Arrangement key) (h : (xs.map key).Nodup) :
    first.arrange xs = second.arrange xs :=
  arrange_eq first second .rfl fun _ hx _ hy hxy hyx =>
    List.inj_on_of_nodup_map h hx hy (c.le_antisymm hxy hyx)

/-- Rows with different texts are arranged strictly. -/
theorem arrange_strict (order : c.Arrangement key) (h : (xs.map key).Nodup) :
    (order.arrange xs).Pairwise fun x y => c.le (key x) (key y) = true ∧ key x ≠ key y :=
  (order.ordered xs).and (List.pairwise_map.1 (((order.perm xs).map key).nodup_iff.2 h))

@[simp] theorem arrange_nil (order : c.Arrangement key) : order.arrange [] = [] :=
  (order.perm []).eq_nil

end Keys

end OrgBilling.Store.Arrangement
