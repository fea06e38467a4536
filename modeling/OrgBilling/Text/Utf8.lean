/-!
# Texts as bytes

Hashing and transport work on bytes. A text becomes bytes in UTF-8, and bytes become a text if they
are one in UTF-8; the two agree (`ofUtf8?_utf8`). The bytes of a text are those of its characters, so
a text that lacks some characters of another has fewer bytes (`eq_of_sublist_of_length_utf8`).
-/

namespace OrgBilling.Text

/-- The bytes of a text in UTF-8. -/
def utf8 (s : String) : List UInt8 :=
  s.toUTF8.data.toList

/-- The text whose bytes in UTF-8 these are, if there is one. -/
def ofUtf8? (bytes : List UInt8) : Option String :=
  String.fromUTF8? ⟨bytes.toArray⟩

/-- The bytes of a text read back as the text. -/
theorem ofUtf8?_utf8 (s : String) : ofUtf8? (utf8 s) = some s := by
  simp [ofUtf8?, utf8, String.fromUTF8?, String.toUTF8, String.fromUTF8, s.isValidUTF8]

/-- Different texts have different bytes. -/
theorem utf8_inj {s t : String} : utf8 s = utf8 t ↔ s = t := by
  constructor
  · intro h
    have := ofUtf8?_utf8 s
    rw [h, ofUtf8?_utf8] at this
    exact (Option.some.inj this).symm
  · rintro rfl
    rfl

/-! ### Characters one by one -/

theorem utf8_ofList_cons (c : Char) (cs : List Char) :
    utf8 (String.ofList (c :: cs)) = utf8 (String.singleton c) ++ utf8 (String.ofList cs) := by
  simp only [utf8, String.toUTF8, String.toByteArray_ofList, String.toByteArray_singleton]
  rw [List.utf8Encode_cons, ByteArray.data_append, Array.toList_append]

theorem length_utf8_singleton_pos (c : Char) : 0 < (utf8 (String.singleton c)).length := by
  simp only [utf8, String.toUTF8, String.toByteArray_singleton, List.utf8Encode_singleton,
    List.data_toByteArray, String.length_utf8EncodeChar, c.utf8Size_pos]

/-- A text has at least as many bytes as characters. -/
theorem length_le_length_utf8 (s : String) : s.toList.length ≤ (utf8 s).length := by
  have bytes (cs : List Char) : cs.length ≤ (utf8 (String.ofList cs)).length := by
    induction cs with
    | nil => exact Nat.zero_le _
    | cons c cs ih =>
      have := length_utf8_singleton_pos c
      rw [utf8_ofList_cons, List.length_append, List.length_cons]
      omega
  have := bytes s.toList
  rwa [String.ofList_toList] at this

theorem length_utf8_le_of_sublist {cs ds : List Char} (h : cs.Sublist ds) :
    (utf8 (String.ofList cs)).length ≤ (utf8 (String.ofList ds)).length := by
  induction h with
  | slnil => exact Nat.le_refl _
  | cons c _ ih =>
    rw [utf8_ofList_cons, List.length_append]
    omega
  | cons_cons c _ ih =>
    rw [utf8_ofList_cons, utf8_ofList_cons, List.length_append, List.length_append]
    omega

/-- A text from which characters are left out is the whole text if it has as many bytes. -/
theorem eq_of_sublist_of_length_utf8 {cs ds : List Char} (h : cs.Sublist ds)
    (length : (utf8 (String.ofList ds)).length ≤ (utf8 (String.ofList cs)).length) : cs = ds := by
  induction h with
  | slnil => rfl
  | cons c h ih =>
    rw [utf8_ofList_cons, List.length_append] at length
    have := length_utf8_le_of_sublist h
    have := length_utf8_singleton_pos c
    omega
  | cons_cons c h ih =>
    rw [utf8_ofList_cons, utf8_ofList_cons, List.length_append, List.length_append] at length
    rw [ih (by omega)]

end OrgBilling.Text
