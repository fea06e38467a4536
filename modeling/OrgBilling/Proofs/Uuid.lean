import Mathlib.Algebra.Order.Ring.Nat
import OrgBilling.Uuid

/-!
# Reading written ids

The text of a UUID is read back as the UUID, if it has no more than 128 bits (`Uuid.parse?_text`).
The groups of the text are pieces of one row of 32 digits (`Uuid.hexDigits_append`), and the text is
none of the other forms that are accepted: it has 36 characters and begins with a digit.
-/

namespace OrgBilling.Uuid

@[simp] theorem length_hexDigits (width n : Nat) : (hexDigits width n).length = width := by
  induction width generalizing n with
  | zero => rfl
  | succ width ih => simp [hexDigits, ih]

/-- Digits of the leading part and the digits after them are digits of the whole. -/
theorem hexDigits_append (a b n : Nat) :
    hexDigits a (n / 16 ^ b) ++ hexDigits b n = hexDigits (a + b) n := by
  induction b generalizing n with
  | zero => simp [hexDigits]
  | succ b ih =>
    have hdiv : n / 16 ^ (b + 1) = n / 16 / 16 ^ b := by
      rw [Nat.div_div_eq_div_mul, Nat.pow_succ']
    rw [hexDigits, ← List.append_assoc, hdiv, ih]
    rfl

/-- Digits are read onto what has been read before. -/
theorem readHex?_hexDigits (width n acc : Nat) (cs : List Char) :
    readHex? acc (hexDigits width n ++ cs) = readHex? (16 ^ width * acc + n % 16 ^ width) cs := by
  induction width generalizing n cs with
  | zero => simp [hexDigits, Nat.mod_one]
  | succ width ih =>
    have hdigit := Text.Hex.digitValue?_digit (Nat.mod_lt n (by decide : 0 < 16))
    have hvalue : 16 * (16 ^ width * acc + n / 16 % 16 ^ width) + n % 16 =
        16 ^ (width + 1) * acc + n % 16 ^ (width + 1) := by
      rw [Nat.pow_succ', Nat.mod_mul, Nat.mul_add, Nat.mul_assoc]
      omega
    rw [hexDigits, List.append_assoc, ih, List.singleton_append, readHex?, hdigit,
      Option.bind_eq_bind, Option.bind_some, hvalue]

/-- Groups of digits with hyphens between them are read as one row of digits. -/
theorem readHyphenated?_groups {a b c d e : List Char} (ha : a.length = 8) (hb : b.length = 4)
    (hc : c.length = 4) (hd : d.length = 4) (he : e.length = 12) :
    readHyphenated? (a ++ '-' :: (b ++ '-' :: (c ++ '-' :: (d ++ '-' :: e)))) =
      (readHex? 0 (a ++ (b ++ (c ++ (d ++ e))))).map (⟨·⟩) := by
  generalize hcs : a ++ '-' :: (b ++ '-' :: (c ++ '-' :: (d ++ '-' :: e))) = cs
  have take8 : cs.take 8 = a := by
    rw [← hcs, List.take_left' ha]
  have drop8 : cs.drop 8 = '-' :: (b ++ '-' :: (c ++ '-' :: (d ++ '-' :: e))) := by
    rw [← hcs, List.drop_left' ha]
  have drop13 : cs.drop 13 = '-' :: (c ++ '-' :: (d ++ '-' :: e)) := by
    have hsplit : cs = (a ++ '-' :: b) ++ '-' :: (c ++ '-' :: (d ++ '-' :: e)) := by simp [← hcs]
    rw [hsplit, List.drop_left' (by simp [ha, hb])]
  have drop18 : cs.drop 18 = '-' :: (d ++ '-' :: e) := by
    have hsplit : cs = (a ++ '-' :: (b ++ '-' :: c)) ++ '-' :: (d ++ '-' :: e) := by simp [← hcs]
    rw [hsplit, List.drop_left' (by simp [ha, hb, hc])]
  have drop23 : cs.drop 23 = '-' :: e := by
    have hsplit : cs = (a ++ '-' :: (b ++ '-' :: (c ++ '-' :: d))) ++ '-' :: e := by simp [← hcs]
    rw [hsplit, List.drop_left' (by simp [ha, hb, hc, hd])]
  simp only [readHyphenated?, drop8, drop13, drop18, drop23, take8, he, if_true,
    List.take_left' hb, List.take_left' hc, List.take_left' hd, List.append_assoc]

/-- No digit opens a brace, or begins the mark in front of the hyphenated form. -/
theorem digit_ne {n : Nat} (h : n < 16) :
    Text.Hex.digit n ≠ '\x7b' ∧ (Text.Hex.digit n).toLower ≠ 'u' := by
  have key : ∀ m : Fin 16,
      Text.Hex.digit m ≠ '\x7b' ∧ (Text.Hex.digit m).toLower ≠ 'u' := by decide
  exact key ⟨n, h⟩

theorem hexDigits_eq_cons (width n : Nat) :
    ∃ d cs, d < 16 ∧ hexDigits (width + 1) n = Text.Hex.digit d :: cs := by
  induction width generalizing n with
  | zero => exact ⟨n % 16, [], Nat.mod_lt n (by decide), rfl⟩
  | succ width ih =>
    obtain ⟨d, cs, hd, hcs⟩ := ih (n / 16)
    exact ⟨d, _, hd, by rw [hexDigits, hcs, List.cons_append]⟩

/-- The text of a UUID of 128 bits is read back. -/
theorem parse?_text {u : Uuid} (h : u.value < 2 ^ 128) : parse? u.text = some u := by
  have hchars : u.chars = hexDigits 8 (u.value / 16 ^ 24) ++ '-' ::
      (hexDigits 4 (u.value / 16 ^ 20) ++ '-' :: (hexDigits 4 (u.value / 16 ^ 16) ++ '-' ::
        (hexDigits 4 (u.value / 16 ^ 12) ++ '-' :: hexDigits 12 u.value))) := by
    simp [chars]
  have hrow : hexDigits 8 (u.value / 16 ^ 24) ++ (hexDigits 4 (u.value / 16 ^ 20) ++
      (hexDigits 4 (u.value / 16 ^ 16) ++ (hexDigits 4 (u.value / 16 ^ 12) ++
        hexDigits 12 u.value))) = hexDigits 32 u.value := by
    rw [hexDigits_append 4 12, hexDigits_append 4 16, hexDigits_append 4 20, hexDigits_append 8 24]
  have hlength : u.chars.length = 36 := by simp [hchars]
  have hread : readHyphenated? u.chars = some u := by
    have hvalue := readHex?_hexDigits 32 u.value 0 []
    rw [List.append_nil, Nat.mul_zero, Nat.zero_add, Nat.mod_eq_of_lt (by omega), readHex?] at hvalue
    rw [hchars, readHyphenated?_groups (length_hexDigits ..) (length_hexDigits ..)
      (length_hexDigits ..) (length_hexDigits ..) (length_hexDigits ..), hrow, hvalue, Option.map_some]
  obtain ⟨d, cs, hd, hcs⟩ := hexDigits_eq_cons 7 (u.value / 16 ^ 24)
  obtain ⟨cs', hcs'⟩ : ∃ cs', u.chars = Text.Hex.digit d :: cs' :=
    ⟨_, by rw [hchars, hcs, List.cons_append]⟩
  obtain ⟨hbrace, hu⟩ := digit_ne hd
  have htext : u.text.toList = u.chars := String.toList_ofList
  have hbraced : ¬ (u.chars.head? = some '\x7b' && u.chars.getLast? = some '\x7d') = true := by
    simp [hcs', hbrace]
  have hurn : (u.chars.take urnPrefix.length).map Char.toLower ≠ urnPrefix := by
    rw [hcs']
    exact fun heq => hu (List.cons.inj heq).1
  rw [parse?, htext, if_neg (by omega), if_neg hbraced, if_neg hurn, hread]

end OrgBilling.Uuid
