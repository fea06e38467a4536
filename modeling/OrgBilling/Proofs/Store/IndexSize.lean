import OrgBilling.Store.Index

/-!
# Texts that no index holds

Compression writes at least one byte for every ninety-one that it reads (`write_length`), so a text
that is long enough is refused by every index, however well it can be compressed
(`refusal?_of_length`), and there are such texts (`exists_refused`).
-/

namespace OrgBilling.Store

namespace Compression

theorem commonLength_le (limit : Nat) (as bs : List UInt8) : commonLength limit as bs ≤ limit := by
  fun_induction commonLength limit as bs with
  | case1 limit a as bs ih => omega
  | case2 => exact Nat.zero_le _
  | case3 => exact Nat.zero_le _

theorem matchLength_le {here : Place} {enough best : Nat} {earlier : List Place}
    (h : best ≤ maxMatch) : matchLength here enough best earlier ≤ maxMatch := by
  induction earlier generalizing enough best with
  | nil => exact h
  | cons p earlier ih =>
    have hbest : max best (commonLength maxMatch here.bytes p.bytes) ≤ maxMatch :=
      Nat.max_le.2 ⟨h, commonLength_le _ _ _⟩
    simp only [matchLength]
    split
    · exact h
    · split
      · exact hbest
      · exact ih hbest

/-- A reference of three bytes stands for at most 273 bytes, and everything else for fewer. -/
theorem write_length {limit n : Nat} {h : History} {o : Output} {here : Place}
    (hw : write limit h o here = some n) : here.bytes.length + 91 * o.length ≤ 91 * n := by
  fun_induction write limit h o here with
  | case1 => cases hw
  | case2 h o here hempty hsize =>
    have hempty : here.bytes = [] := by simpa using hempty
    obtain rfl := Option.some.inj hw
    simp only [hempty, List.length_nil, Output.size]
    omega
  | case3 => cases hw
  | case4 h o here hrest hsize m hm ih =>
    have hle : m ≤ 273 := matchLength_le (Nat.zero_le _)
    have := ih hw
    simp only [List.length_drop] at this
    split at this <;> omega
  | case5 h o here hrest hsize m hm ih =>
    have := ih hw
    simp only [List.length_drop] at this
    omega

end Compression

namespace Index

open Compression

theorem le_align (unit n : Nat) (h : 0 < unit) : n ≤ align unit n := by
  have := Nat.div_add_mod (n + unit - 1) unit
  have := Nat.mod_lt (n + unit - 1) h
  rw [align, Nat.mul_comm]
  omega

theorem endOfText_bounds (offset : Nat) (text : String) :
    offset ≤ endOfText offset text ∧ (Text.utf8 text).length ≤ 91 * endOfText offset text := by
  have halign := le_align 4 offset (by omega)
  simp only [endOfText]
  split
  · omega
  · split
    · omega
    · cases hc : compressedLength? (Text.utf8 text) with
      | none => simp only; omega
      | some n =>
        have := write_length hc
        simp only at this ⊢
        omega

theorem le_foldl_endOfText (offset : Nat) (texts : List String) :
    offset ≤ texts.foldl endOfText offset := by
  induction texts generalizing offset with
  | nil => exact Nat.le_refl _
  | cons text texts ih => exact Nat.le_trans (endOfText_bounds offset text).1 (ih _)

theorem length_le_rowSize {text : String} {texts : List String} (h : text ∈ texts) :
    text.toList.length ≤ 91 * rowSize texts := by
  have hfold (offset : Nat) : text.toList.length ≤ 91 * texts.foldl endOfText offset := by
    induction h generalizing offset with
    | head texts =>
      have := Text.length_le_length_utf8 text
      have := (endOfText_bounds offset text).2
      have := le_foldl_endOfText (endOfText offset text) texts
      rw [List.foldl_cons]
      omega
    | tail t _ ih => exact ih _
  have := hfold 0
  have := le_align 8 (8 + texts.foldl endOfText 0) (by omega)
  rw [rowSize]
  omega

/-- An index refuses a row with a text that is too long even if it is compressed as far as can be. -/
theorem refusal?_of_length {text : String} {texts : List String} (index : String) (h : text ∈ texts)
    (hlength : 91 * maxPageSize < text.toList.length) :
    ∃ cause, refusal? index texts = some cause := by
  have := length_le_rowSize h
  have hsize : rowSize texts > maxPageSize := by omega
  simp only [refusal?, if_pos hsize]
  split <;> exact ⟨_, rfl⟩

/-- So there are texts that can be stored, but not in a column with an index. -/
theorem exists_refused (index : String) :
    ∃ text, Transaction.isStorable text = true ∧
      ∀ texts, text ∈ texts → ∃ cause, refusal? index texts = some cause := by
  have storable (n : Nat) : Transaction.isStorable (String.ofList (List.replicate n 'a')) = true := by
    simp [Transaction.isStorable, List.all_replicate]
  refine ⟨_, storable (91 * maxPageSize + 1), fun texts mem => refusal?_of_length index mem ?_⟩
  rw [String.toList_ofList, List.length_replicate]
  exact Nat.lt_succ_self _

end Index

end OrgBilling.Store
