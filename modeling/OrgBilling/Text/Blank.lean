import OrgBilling.Text.Class

/-!
# White space

The characters that Unicode gives the property `White_Space`. They separate the clauses of a search
query, and they are what trimming a text removes from its two ends. JSON's own white space is a
smaller set and stands with the JSON reader.
-/

namespace OrgBilling.Text

/-- The ranges of the Unicode property `White_Space`. -/
def blankClass : Class where
  ranges :=
    [(0x9, 0xD), (0x20, 0x20), (0x85, 0x85), (0xA0, 0xA0), (0x1680, 0x1680), (0x2000, 0x200A),
     (0x2028, 0x2029), (0x202F, 0x202F), (0x205F, 0x205F), (0x3000, 0x3000)]

/-- A character is white space. -/
def isBlank (c : Char) : Bool :=
  blankClass.contains c

/-- Drop the white space in front. -/
def trimLeft (cs : List Char) : List Char :=
  cs.dropWhile isBlank

/-- Drop the white space in front and behind. -/
def trimChars (cs : List Char) : List Char :=
  (trimLeft (trimLeft cs).reverse).reverse

/-- Drop the white space at both ends of a text. -/
def trim (s : String) : String :=
  String.ofList (trimChars s.toList)

/-- A text with nothing in it but white space. -/
def isAllBlank (s : String) : Bool :=
  s.toList.all isBlank

/-- A text that does not start with white space loses nothing in front. -/
theorem trimLeft_cons_of_not_isBlank {c : Char} {cs : List Char} (h : isBlank c = false) :
    trimLeft (c :: cs) = c :: cs := by
  simp [trimLeft, List.dropWhile, h]

/-- Printable ASCII other than the space is no white space. -/
theorem isBlank_eq_false {c : Char} (h : 0x20 < c.toNat ∧ c.toNat < 0x7F) : isBlank c = false := by
  rw [isBlank, Bool.eq_false_iff, Ne, Class.contains_iff]
  rintro ⟨r, hr, hlo, hhi⟩
  simp only [blankClass, List.mem_cons, List.not_mem_nil, or_false] at hr
  rcases hr with rfl | rfl | rfl | rfl | rfl | rfl | rfl | rfl | rfl | rfl <;> omega

theorem trimLeft_of_forall {cs : List Char} (h : ∀ c ∈ cs, isBlank c = false) :
    trimLeft cs = cs := by
  cases cs with
  | nil => rfl
  | cons c cs => exact trimLeft_cons_of_not_isBlank (h c List.mem_cons_self)

/-- A text without white space loses nothing. -/
theorem trimChars_of_forall {cs : List Char} (h : ∀ c ∈ cs, isBlank c = false) :
    trimChars cs = cs := by
  have back : trimLeft cs.reverse = cs.reverse :=
    trimLeft_of_forall fun c hc => h c (List.mem_reverse.1 hc)
  rw [trimChars, trimLeft_of_forall h, back, List.reverse_reverse]

end OrgBilling.Text
