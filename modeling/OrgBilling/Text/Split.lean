/-!
# Splitting texts

A text cut at every separator: there is one part more than there are separators, and parts may be
empty. The text that parts without separators make up determines the parts
(`splitAtEach_intercalate`). In the same way a text and what precedes its first separator determine
what follows it (`append_cons_inj`), and what follows its last one determines what precedes it
(`append_cons_inj_right`).
-/

namespace OrgBilling.Text

/-- The parts of a text between the characters that pass a test. -/
def splitWhere (isSeparator : Char → Bool) : List Char → List (List Char)
  | [] => [[]]
  | c :: cs =>
    if isSeparator c then [] :: splitWhere isSeparator cs
    else
      match splitWhere isSeparator cs with
      | part :: parts => (c :: part) :: parts
      | [] => [[c]]

/-- The parts of a text between the occurrences of a character. -/
def splitAtEach (separator : Char) : List Char → List (List Char) :=
  splitWhere (· == separator)

theorem splitWhere_ne_nil (p : Char → Bool) (cs : List Char) : splitWhere p cs ≠ [] := by
  cases cs with
  | nil => simp [splitWhere]
  | cons c cs =>
    rw [splitWhere]
    split
    · simp
    · split <;> simp

/-! ### Parts put together -/

theorem splitWhere_eq_splitOnP (p : Char → Bool) (cs : List Char) :
    splitWhere p cs = cs.splitOnP p := by
  induction cs with
  | nil => rfl
  | cons c cs ih =>
    rw [splitWhere, List.splitOnP_cons_eq_if_modifyHead, ← ih]
    split
    · rfl
    · split
      · next heq => rw [heq]; rfl
      · next heq => exact absurd heq (splitWhere_ne_nil p cs)

theorem splitAtEach_eq_splitOn (separator : Char) (cs : List Char) :
    splitAtEach separator cs = cs.splitOn separator :=
  splitWhere_eq_splitOnP (· == separator) cs

/-- A text is split before and after a separator. -/
theorem splitWhere_append_cons {p : Char → Bool} {c : Char} (h : p c = true) (cs ds : List Char) :
    splitWhere p (cs ++ c :: ds) = splitWhere p cs ++ splitWhere p ds := by
  simp only [splitWhere_eq_splitOnP, List.splitOnP_append_cons cs ds h]

theorem splitWhere_of_forall {p : Char → Bool} {cs : List Char} (h : ∀ c ∈ cs, p c = false) :
    splitWhere p cs = [cs] := by
  rw [splitWhere_eq_splitOnP, List.splitOnP_eq_singleton h]

/-- No part holds a separator. -/
theorem forall_mem_splitWhere {p : Char → Bool} {cs part : List Char} (h : part ∈ splitWhere p cs) :
    ∀ c ∈ part, p c = false := by
  induction cs generalizing part with
  | nil => simp [List.mem_singleton.1 h]
  | cons c cs ih =>
    rw [splitWhere] at h
    split at h
    · rcases List.mem_cons.1 h with rfl | h
      · simp
      · exact ih h
    · next hc =>
      split at h
      · next first rest heq =>
        rw [heq] at ih
        rcases List.mem_cons.1 h with rfl | h
        · exact List.forall_mem_cons.2 ⟨by simpa using hc, ih List.mem_cons_self⟩
        · exact ih (List.mem_cons_of_mem first h)
      · next heq => exact absurd heq (splitWhere_ne_nil p cs)

theorem sublist_of_mem_splitWhere {p : Char → Bool} {cs part : List Char}
    (h : part ∈ splitWhere p cs) : part.Sublist cs := by
  induction cs generalizing part with
  | nil => simp [List.mem_singleton.1 h]
  | cons c cs ih =>
    rw [splitWhere] at h
    split at h
    · rcases List.mem_cons.1 h with rfl | h
      · exact List.nil_sublist _
      · exact (ih h).cons c
    · split at h
      · next first rest heq =>
        rw [heq] at ih
        rcases List.mem_cons.1 h with rfl | h
        · exact (ih List.mem_cons_self).cons_cons c
        · exact (ih (List.mem_cons_of_mem first h)).cons c
      · next heq => exact absurd heq (splitWhere_ne_nil p cs)

theorem notMem_of_mem_splitAtEach {separator : Char} {cs part : List Char}
    (h : part ∈ splitAtEach separator cs) : separator ∉ part :=
  fun hs => by simpa using forall_mem_splitWhere h separator hs

/-- The parts put together and cut again. -/
theorem splitAtEach_intercalate {separator : Char} {parts : List (List Char)}
    (h : ∀ part ∈ parts, separator ∉ part) (ne : parts ≠ []) :
    splitAtEach separator ([separator].intercalate parts) = parts := by
  rw [splitAtEach_eq_splitOn, List.splitOn_intercalate separator h ne]

/-! ### The first separator and the last one -/

/-- A text is cut in one way at its first separator. -/
theorem append_cons_inj {separator : Char} {before before' after after' : List Char}
    (h : separator ∉ before) (h' : separator ∉ before') :
    before ++ separator :: after = before' ++ separator :: after' ↔
      before = before' ∧ after = after' := by
  have cut (cs rest : List Char) (hcs : separator ∉ cs) :
      (cs ++ separator :: rest).takeWhile (· != separator) = cs := by
    rw [List.takeWhile_append_of_pos fun c hc => by simpa using ne_of_mem_of_not_mem hc hcs]
    simp
  constructor
  · intro heq
    obtain rfl : before = before' := by
      rw [← cut before after h, heq, cut before' after' h']
    exact ⟨rfl, (List.cons.inj (List.append_cancel_left heq)).2⟩
  · rintro ⟨rfl, rfl⟩
    rfl

/-- A text is cut in one way at its last separator. -/
theorem append_cons_inj_right {separator : Char} {before before' after after' : List Char}
    (h : separator ∉ after) (h' : separator ∉ after') :
    before ++ separator :: after = before' ++ separator :: after' ↔
      before = before' ∧ after = after' := by
  rw [← List.reverse_inj, List.reverse_append, List.reverse_append, List.reverse_cons,
    List.reverse_cons, List.append_assoc, List.append_assoc, List.singleton_append,
    List.singleton_append, append_cons_inj (by simpa using h) (by simpa using h'),
    List.reverse_inj, List.reverse_inj, and_comm]

end OrgBilling.Text
