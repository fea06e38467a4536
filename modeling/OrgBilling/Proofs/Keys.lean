import Mathlib.Data.List.Induction
import Mathlib.Data.List.Nodup

/-!
# Lists of items with keys

What is found and what is changed by a key, in lists whose items have different keys or that have no
item with the key; and the keys without their repetitions.
-/

namespace OrgBilling

variable {α κ : Type} [DecidableEq κ] {f : α → κ} {xs : List α} {k : κ}

theorem filter_eq_of_nodup (h : (xs.map f).Nodup) {x : α} (hx : xs.find? (f · == k) = some x) :
    xs.filter (f · == k) = [x] := by
  induction xs with
  | nil => cases hx
  | cons y ys ih =>
    rw [List.map_cons, List.nodup_cons] at h
    by_cases hy : f y = k
    · have hrest : ys.filter (f · == k) = [] := by
        rw [List.filter_eq_nil_iff]
        intro z hz hzk
        exact h.1 (List.mem_map.2 ⟨z, hz, (by simpa using hzk : f z = k).trans hy.symm⟩)
      rw [List.find?_cons_of_pos (by simpa using hy)] at hx
      rw [List.filter_cons_of_pos (by simpa using hy), hrest, Option.some.inj hx]
    · rw [List.find?_cons_of_neg (by simpa using hy)] at hx
      rw [List.filter_cons_of_neg (by simpa using hy)]
      exact ih h.2 hx

theorem find?_of_nodup (h : (xs.map f).Nodup) {x : α} (hx : x ∈ xs) :
    xs.find? (f · == f x) = some x := by
  cases hy : xs.find? (f · == f x) with
  | none => simpa using List.find?_eq_none.1 hy x hx
  | some y =>
    have : f y = f x := by simpa using List.find?_some hy
    rw [List.inj_on_of_nodup_map h (List.mem_of_find?_eq_some hy) hx this]

theorem find?_filter_of_nodup (h : (xs.map f).Nodup) (p : α → Bool) :
    (xs.filter p).find? (f · == k) = (xs.find? (f · == k)).filter p := by
  rw [← List.head?_filter, List.filter_comm]
  cases hx : xs.find? (f · == k) with
  | none =>
    have : xs.filter (f · == k) = [] := by
      rw [List.filter_eq_nil_iff]
      exact List.find?_eq_none.1 hx
    rw [this]
    rfl
  | some x =>
    rw [filter_eq_of_nodup h hx]
    cases hp : p x <;> simp [hp, Option.filter]

omit [DecidableEq κ] in
theorem mem_of_mem_map (h : (xs.map f).Nodup) {x : α} (hx : x ∈ xs) {ys : List α} (hys : ys ⊆ xs)
    (hk : f x ∈ ys.map f) : x ∈ ys := by
  obtain ⟨y, hy, hyx⟩ := List.mem_map.1 hk
  rwa [← List.inj_on_of_nodup_map h (hys hy) hx hyx]

/-- Of items with different keys, those whose keys do not occur among the first ones are the rest. -/
theorem filter_not_mem_take (h : (xs.map f).Nodup) (n : Nat) :
    (xs.filter fun x => f x ∉ (xs.take n).map f) = xs.drop n := by
  have front : ((xs.take n).filter fun x => f x ∉ (xs.take n).map f) = [] :=
    List.filter_eq_nil_iff.2 fun x hx hk => of_decide_eq_true hk (List.mem_map_of_mem hx)
  have back : ((xs.drop n).filter fun x => f x ∉ (xs.take n).map f) = xs.drop n := by
    have disjoint := h
    rw [← List.take_append_drop n xs, List.map_append, List.nodup_append] at disjoint
    refine List.filter_eq_self.2 fun x hx => decide_eq_true fun hk => ?_
    exact disjoint.2.2 _ hk _ (List.mem_map_of_mem hx) rfl
  have split := List.filter_append (p := fun x => f x ∉ (xs.take n).map f) (xs.take n) (xs.drop n)
  rwa [List.take_append_drop, front, back] at split

/-- An item with a new key is found by that key. -/
theorem find?_concat_of_new {x : α} (hx : ∀ y ∈ xs, f y ≠ f x) (k : κ) :
    (xs ++ [x]).find? (f · == k) = if f x = k then some x else xs.find? (f · == k) := by
  rw [List.find?_append]
  split
  · next hk =>
    have hold : xs.find? (f · == k) = none :=
      List.find?_eq_none.2 fun y hy => by simpa [hk] using hx y hy
    rw [hold, List.find?_singleton, if_pos (beq_iff_eq.2 hk), Option.none_or]
  · next hk => rw [List.find?_singleton, if_neg (by simpa using hk), Option.or_none]

/-- Nothing changes if nothing has the key. -/
theorem map_eq_self_of_find?_eq_none (h : xs.find? (f · == k) = none) (change : α → α) :
    (xs.map fun x => if f x = k then change x else x) = xs := by
  refine (List.map_congr_left fun x hx => ?_).trans (List.map_id xs)
  exact if_neg (by simpa using List.find?_eq_none.1 h x hx)

/-- A change that keeps keys does not show when one looks at them. -/
theorem beq_comp_change {c : α → Prop} [DecidablePred c] (change : α → α)
    (h : ∀ x, c x → f (change x) = f x) (j : κ) :
    (f · == j) ∘ (fun x => if c x then change x else x) = (f · == j) := by
  funext x
  simp only [Function.comp]
  split
  · next hx => rw [h x hx]
  · rfl

/-- A change of the items with a key, which keep it, shows only when one looks for that key. -/
theorem find?_map_change (change : α → α) (hf : ∀ x, f x = k → f (change x) = k) (j : κ) :
    (xs.map fun x => if f x = k then change x else x).find? (f · == j) =
      (xs.find? (f · == j)).map fun x => if j = k then change x else x := by
  rw [List.find?_map, beq_comp_change change (fun x hx => (hf x hx).trans hx.symm)]
  cases hx : xs.find? (f · == j) with
  | none => rfl
  | some x =>
    have : f x = j := by simpa using List.find?_some hx
    simp [this]

/-- What is found after a change of the item with a key: the item as it is now under its key, and what
there was under others. -/
theorem find?_change (change : α → α)
    (hf : ∀ x, f (change x) = f x) (k j : κ) :
    (xs.map fun x => if f x = k then change x else x).find? (f · == j) =
      (xs.find? (f · == k)).elim (xs.find? (f · == j)) fun x =>
        if k = j then some (change x) else xs.find? (f · == j) := by
  rw [find?_map_change change (fun x hx => (hf x).trans hx)]
  by_cases hkj : k = j
  · subst hkj
    cases xs.find? (f · == k) <;> simp
  · cases xs.find? (f · == k) <;> simp [hkj, Ne.symm hkj]

/-- What is found with a key is changed, and takes the place of all items with the key. -/
theorem find?_map_replace (change : α → α) {old : α} (hold : xs.find? (f · == k) = some old)
    (hf : ∀ x, f (change x) = f x) (j : κ) :
    (xs.map fun x => if f x = k then change old else x).find? (f · == j) =
      (xs.find? (f · == j)).map fun x => if j = k then change x else x := by
  have hkey : f old = k := by simpa using List.find?_some hold
  rw [find?_map_change (fun _ => change old) (fun _ _ => (hf old).trans hkey)]
  by_cases hj : j = k
  · subst hj
    rw [hold]
    rfl
  · simp [hj]

section Only

variable (h : (xs.map f).Nodup) {old : α} (hold : xs.find? (f · == k) = some old)

include h hold

theorem eq_of_find?_of_nodup {x : α} (hx : x ∈ xs) (hk : f x = k) : x = old := by
  have hkey : f old = k := by simpa using List.find?_some hold
  exact List.inj_on_of_nodup_map h hx (List.mem_of_find?_eq_some hold) (hk.trans hkey.symm)

/-- Where items have different keys, what is found with a key is all that has it, and changing one is
changing the other. -/
theorem map_replace_eq_change (change : α → α) :
    (xs.map fun x => if f x = k then change old else x) =
      xs.map fun x => if f x = k then change x else x := by
  refine List.map_congr_left fun x hx => ?_
  split
  · next hk => rw [eq_of_find?_of_nodup h hold hx hk]
  · rfl

theorem map_change_eq_self (change : α → α) (fixed : change old = old) :
    (xs.map fun x => if f x = k then change x else x) = xs := by
  refine (List.map_congr_left fun x hx => ?_).trans (List.map_id xs)
  split
  · next hk => rw [eq_of_find?_of_nodup h hold hx hk]; exact fixed
  · rfl

end Only

/-! ### Lists that agree but for a part of their items -/

section Agree

variable {g : α → α} {ys : List α}

omit [DecidableEq κ] in
theorem map_key_eq (h : ys.map g = xs.map g) (hg : ∀ x, f (g x) = f x) : ys.map f = xs.map f := by
  have key (zs : List α) : zs.map f = (zs.map g).map f := by
    rw [List.map_map]
    exact List.map_congr_left fun z _ => (hg z).symm
  rw [key, h, ← key]

theorem find?_agree (h : ys.map g = xs.map g) (hg : ∀ x, f (g x) = f x) (k : κ) :
    (ys.find? (f · == k)).map g = (xs.find? (f · == k)).map g := by
  have key (zs : List α) : (zs.map g).find? (f · == k) = (zs.find? (f · == k)).map g := by
    rw [List.find?_map]
    simp only [Function.comp_def, hg]
  rw [← key, h, key]

/-- What is collected from the items is the same if it is the same for items that agree. -/
theorem flatMap_eq_of_agree {β : Type} (h : ys.map g = xs.map g) {F G : α → List β}
    (hFG : ∀ y ∈ ys, ∀ x ∈ xs, g y = g x → F y = G x) : ys.flatMap F = xs.flatMap G := by
  induction ys generalizing xs with
  | nil => rw [List.map_eq_nil_iff.1 h.symm]; rfl
  | cons y ys ih =>
    obtain ⟨x, xs, rfl, hx, hxs⟩ := List.map_eq_cons_iff.1 h.symm
    rw [List.flatMap_cons, List.flatMap_cons,
      hFG y (List.mem_cons_self ..) x (List.mem_cons_self ..) hx.symm,
      ih hxs.symm fun y hy x hx => hFG y (List.mem_cons_of_mem _ hy) x (List.mem_cons_of_mem _ hx)]

/-- An item is found by its key, up to the part in which the lists may differ. -/
theorem exists_find?_of_agree (h : ys.map g = xs.map g) (hd : (xs.map f).Nodup)
    (hg : ∀ x, f (g x) = f x) {x : α} (hx : x ∈ xs) :
    ∃ y, ys.find? (f · == f x) = some y ∧ g y = g x := by
  obtain ⟨y, hy, hyx⟩ := List.mem_map.1 (h ▸ List.mem_map_of_mem hx : g x ∈ ys.map g)
  have hkey : f y = f x := by rw [← hg y, hyx, hg]
  refine ⟨y, ?_, hyx⟩
  rw [← hkey]
  exact find?_of_nodup (map_key_eq h hg ▸ hd) hy

/-- The lists still agree when an item is replaced by one that differs from it in that part only. -/
theorem map_replace_of_agree (h : ys.map g = xs.map g) (hd : (xs.map f).Nodup)
    (hg : ∀ x, f (g x) = f x) {old new : α} (hold : ys.find? (f · == k) = some old)
    (hnew : g new = g old) : (ys.map fun y => if f y = k then new else y).map g = xs.map g := by
  have hkey : f old = k := by simpa using List.find?_some hold
  rw [← h, List.map_map]
  refine List.map_congr_left fun y hy => ?_
  simp only [Function.comp]
  split
  · next hyk =>
    have hd' : (ys.map f).Nodup := map_key_eq h hg ▸ hd
    rw [List.inj_on_of_nodup_map hd' hy (List.mem_of_find?_eq_some hold) (hyk.trans hkey.symm),
      hnew]
  · rfl

end Agree

/-! ### Repetitions -/

theorem eraseDups_concat (ks : List κ) (k : κ) :
    (ks ++ [k]).eraseDups = if k ∈ ks then ks.eraseDups else ks.eraseDups ++ [k] := by
  rw [List.eraseDups_append]
  split
  · next h => simp [List.removeAll, h]
  · next h => simp [List.removeAll, List.eraseDups_cons, h]

theorem nodup_eraseDups (ks : List κ) : ks.eraseDups.Nodup := by
  induction ks using List.reverseRecOn with
  | nil => exact List.nodup_nil
  | append_singleton ks k ih =>
    rw [eraseDups_concat]
    split
    · exact ih
    · next hk =>
      refine List.nodup_append.2 ⟨ih, List.nodup_singleton k, fun a ha b hb => ?_⟩
      rintro rfl
      exact hk (List.mem_singleton.1 hb ▸ List.mem_eraseDups.1 ha)

end OrgBilling
