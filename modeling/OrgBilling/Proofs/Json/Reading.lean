import Mathlib.Data.List.TakeDrop
import OrgBilling.Json.Decoder
import OrgBilling.Json.Printer

/-!
# Reading what has been written

The text of a JSON value is read back as the value is written (`Source.read?_text`): every character
of a string comes back, whether it is escaped or not, numbers come back digit by digit, and items and
members in their order.

Each reader is followed on the characters that the printer has put down, with whatever comes behind
them. Behind a number there must be something that ends it (`Source.EndsNumber`); behind a value
inside an array or an object there is a comma or a bracket, and behind a whole text nothing.
-/

namespace OrgBilling.Source

/-! ### Strings -/

theorem hexUnit?_digits {n : Nat} (h : n < 0x20) :
    hexUnit? '0' '0' (Text.Hex.digit (n / 16)) (Text.Hex.digit (n % 16)) = some n := by
  have zero : Text.Hex.digitValue? '0' = some 0 := by decide
  have high := Text.Hex.digitValue?_digit (n := n / 16) (by omega)
  have low := Text.Hex.digitValue?_digit (n := n % 16) (by omega)
  simp only [hexUnit?, zero, high, low, Option.bind_eq_bind, Option.bind_some]
  congr 1
  omega

theorem readUnits?_letter {e c : Char} (h : escapeLetter? e = some c) (cs : List Char) :
    readUnits? ('\\' :: e :: cs) =
      (readUnits? cs).map fun (units, left) => (c.toNat :: units, left) := by
  have hu : e ≠ 'u' := by
    rintro rfl
    cases h
  rw [readUnits?]
  · rw [h, Option.bind_eq_bind, Option.bind_some]
    cases readUnits? cs <;> rfl
  · simp [hu]

theorem readUnits?_code {a b c d : Char} {u : Nat} (h : hexUnit? a b c d = some u)
    (cs : List Char) : readUnits? ('\\' :: 'u' :: a :: b :: c :: d :: cs) =
      (readUnits? cs).map fun (units, left) => (u :: units, left) := by
  rw [readUnits?, h, Option.bind_eq_bind, Option.bind_some]
  cases readUnits? cs <;> rfl

theorem readUnits?_plain {c : Char} (hquote : c ≠ '"') (hback : c ≠ '\\') (hc : ¬ c.toNat < 0x20)
    (cs : List Char) : readUnits? (c :: cs) =
      (readUnits? cs).map fun (units, left) => (c.toNat :: units, left) := by
  rw [readUnits?]
  · rw [if_neg (by simp [hback, hc])]
    cases readUnits? cs <;> rfl
  · exact hquote
  · simp [hback]
  · simp [hback]

/-- A character of a string is read as it was written, with an escape or without. -/
theorem readUnits?_renderChar (c : Char) (cs : List Char) :
    readUnits? (Json.renderChar c ++ cs) =
      (readUnits? cs).map fun (units, left) => (c.toNat :: units, left) := by
  unfold Json.renderChar
  split_ifs with hquote hback h8 ht hn hc hr hcontrol
  · subst hquote
    exact readUnits?_letter rfl cs
  · subst hback
    exact readUnits?_letter rfl cs
  · subst h8
    exact readUnits?_letter rfl cs
  · subst ht
    exact readUnits?_letter rfl cs
  · subst hn
    exact readUnits?_letter rfl cs
  · subst hc
    exact readUnits?_letter rfl cs
  · subst hr
    exact readUnits?_letter rfl cs
  · exact readUnits?_code (hexUnit?_digits hcontrol) cs
  · exact readUnits?_plain hquote hback hcontrol cs

theorem readUnits?_flatMap (cs rest : List Char) :
    readUnits? (cs.flatMap Json.renderChar ++ '"' :: rest) = some (cs.map Char.toNat, rest) := by
  induction cs with
  | nil => rfl
  | cons c cs ih =>
    rw [List.flatMap_cons, List.append_assoc, readUnits?_renderChar, ih]
    rfl

/-- No character is half of a surrogate pair. -/
theorem isSurrogate_toNat (c : Char) :
    isHighSurrogate c.toNat = false ∧ isLowSurrogate c.toNat = false := by
  have hc := c.valid
  have hval : c.toNat = c.val.toNat := rfl
  simp only [isHighSurrogate, isLowSurrogate, hval]
  simp only [UInt32.isValidChar, Nat.isValidChar] at hc
  simp
  omega

theorem joinUnits?_map (cs : List Char) : joinUnits? (cs.map Char.toNat) = some cs := by
  induction cs with
  | nil => rfl
  | cons c cs ih =>
    obtain ⟨high, low⟩ := isSurrogate_toNat c
    cases cs with
    | nil => simp [joinUnits?, high, low, Char.ofNat_toNat]
    | cons d ds =>
      rw [List.map_cons, List.map_cons, joinUnits?, ← List.map_cons, ih]
      simp [high, low, Char.ofNat_toNat]

theorem readString?_render (s : String) (rest : List Char) :
    readString? (s.toList.flatMap Json.renderChar ++ '"' :: rest) = some (some s, rest) := by
  rw [readString?, readUnits?_flatMap, Option.bind_eq_bind, Option.bind_some]
  dsimp only
  rw [joinUnits?_map, Option.map_some, String.ofList_toList]

/-! ### Numbers -/

/-- The digits of a natural number. -/
def digits (n : Nat) : List Nat :=
  (Text.Decimal.writeNat n).map fun c => c.toNat - '0'.toNat

/-- An integer as it is written. -/
def numeralOfInt : Int → Numeral
  | .ofNat n => ⟨false, digits n, none, none⟩
  | .negSucc n => ⟨true, digits (n + 1), none, none⟩

/-- A double as it is written. -/
def numeralOfDouble (x : Double) : Numeral :=
  ⟨x.negative, digits x.toDecimal.1, none, some x.toDecimal.2⟩

/-- What follows a number ends it. -/
def EndsNumber (rest : List Char) : Prop :=
  ∀ c ∈ rest.head?, c.isDigit = false ∧ c ≠ '.' ∧ c ≠ 'e' ∧ c ≠ 'E'

/-- What follows digits ends them. -/
def EndsDigits (rest : List Char) : Prop :=
  ∀ c ∈ rest.head?, c.isDigit = false

theorem EndsNumber.endsDigits {rest : List Char} (h : EndsNumber rest) : EndsDigits rest :=
  fun c hc => (h c hc).1

theorem readDigits?_writeNat (n : Nat) {rest : List Char} (h : EndsDigits rest) :
    readDigits? (Text.Decimal.writeNat n ++ rest) = some (digits n, rest) := by
  have hspan : (Text.Decimal.writeNat n ++ rest).span Char.isDigit =
      (Text.Decimal.writeNat n, rest) := by
    rw [List.span_eq_takeWhile_dropWhile,
      List.takeWhile_append_of_pos fun c hc => Text.Decimal.isDigit_of_mem_writeNat hc,
      List.dropWhile_append_of_pos fun c hc => Text.Decimal.isDigit_of_mem_writeNat hc]
    cases rest with
    | nil => simp
    | cons c cs =>
      have hc : ¬ c.isDigit = true := by simp [h c rfl]
      rw [List.takeWhile_cons_of_neg hc, List.dropWhile_cons_of_neg hc, List.append_nil]
  rw [readDigits?, hspan]
  split
  · next heq => exact absurd (Prod.mk.inj heq).1 (Text.Decimal.writeNat_ne_nil n)
  · next heq =>
    obtain ⟨rfl, rfl⟩ := Prod.mk.inj heq
    rfl

/-- A number begins with a digit, and with a zero only if it is zero. -/
theorem writeNat_eq_cons (n : Nat) :
    ∃ c cs, Text.Decimal.writeNat n = c :: cs ∧ c.isDigit = true ∧ (0 < n → c ≠ '0') := by
  induction n using Nat.strongRecOn with
  | ind n ih =>
    rw [Text.Decimal.writeNat, Nat.toDigits_eq_if (by decide)]
    split
    · next hlt =>
      refine ⟨n.digitChar, [], rfl, by simp [Nat.isDigit_digitChar, hlt], fun hn hzero => ?_⟩
      have hval := Nat.toNat_digitChar_of_lt_ten hlt
      rw [hzero] at hval
      have : '0'.toNat = 48 := rfl
      omega
    · next hge =>
      obtain ⟨c, cs, hcs, hdigit, hzero⟩ := ih (n / 10) (by omega)
      rw [← Text.Decimal.writeNat, hcs]
      exact ⟨c, cs ++ [(n % 10).digitChar], rfl, hdigit, fun _ => hzero (by omega)⟩

theorem readWhole?_writeNat (n : Nat) {rest : List Char} (h : EndsDigits rest) :
    readWhole? (Text.Decimal.writeNat n ++ rest) = some (digits n, rest) := by
  rcases Nat.eq_zero_or_pos n with rfl | hn
  · rfl
  · obtain ⟨c, cs, hcs, -, hzero⟩ := writeNat_eq_cons n
    rw [readWhole?]
    · exact readDigits?_writeNat n h
    · intro cs' heq
      rw [hcs] at heq
      exact hzero hn (List.cons.inj heq).1

theorem readFraction?_of_endsNumber {rest : List Char} (h : EndsNumber rest) :
    readFraction? rest = some (none, rest) := by
  rw [readFraction?]
  rintro cs rfl
  exact (h '.' rfl).2.1 rfl

theorem digitsValue_digits (n : Nat) : Numeral.digitsValue (digits n) = n := by
  have := Nat.ofDigitChars_ten_toDigits (n := n)
  rw [Numeral.digitsValue, digits, List.foldl_map]
  exact this

theorem readExponent?_of_endsNumber {rest : List Char} (h : EndsNumber rest) :
    readExponent? rest = some (none, rest) := by
  cases rest with
  | nil => rfl
  | cons c cs =>
    obtain ⟨-, -, he, hE⟩ := h c rfl
    unfold readExponent?
    exact if_neg (by simp [he, hE])

theorem readExponent?_writeInt (e : Int) {rest : List Char} (h : EndsDigits rest) :
    readExponent? ('e' :: (Text.Decimal.writeInt e ++ rest)) = some (some e, rest) := by
  cases e with
  | ofNat n =>
    obtain ⟨c, cs, hcs, hdigit, -⟩ := writeNat_eq_cons n
    rw [Text.Decimal.writeInt, hcs, readExponent?]
    · rw [← hcs, readDigits?_writeNat n h, Option.map_some, if_pos (by decide)]
      exact congrArg (fun v : Nat => some (some (v : Int), rest)) (digitsValue_digits n)
    · intro rest' heq
      rw [(List.cons.inj heq).1] at hdigit
      exact absurd hdigit (by decide)
    · intro rest' heq
      rw [(List.cons.inj heq).1] at hdigit
      exact absurd hdigit (by decide)
  | negSucc n =>
    rw [Text.Decimal.writeInt, List.cons_append, readExponent?, readDigits?_writeNat (n + 1) h,
      Option.map_some, if_pos (by decide)]
    exact congrArg (fun v : Nat => some (some (-(v : Int)), rest)) (digitsValue_digits (n + 1))

theorem readMagnitude?_writeNat (negative : Bool) (n : Nat) {rest : List Char}
    (h : EndsNumber rest) : readMagnitude? negative (Text.Decimal.writeNat n ++ rest) =
      some (⟨negative, digits n, none, none⟩, rest) := by
  simp only [readMagnitude?, readWhole?_writeNat n h.endsDigits, readFraction?_of_endsNumber h,
    readExponent?_of_endsNumber h, Option.bind_eq_bind, Option.bind_some]

/-- A number without a minus sign is read by its digits. -/
theorem readNumeral?_writeNat (n : Nat) (rest : List Char) :
    readNumeral? (Text.Decimal.writeNat n ++ rest) =
      readMagnitude? false (Text.Decimal.writeNat n ++ rest) := by
  rw [readNumeral?]
  intro cs heq
  obtain ⟨c, cs', hcs, hdigit, -⟩ := writeNat_eq_cons n
  rw [hcs] at heq
  rw [(List.cons.inj heq).1] at hdigit
  exact absurd hdigit (by decide)

theorem readNumeral?_writeInt (i : Int) {rest : List Char} (h : EndsNumber rest) :
    readNumeral? (Text.Decimal.writeInt i ++ rest) = some (numeralOfInt i, rest) := by
  cases i with
  | ofNat n => exact (readNumeral?_writeNat n rest).trans (readMagnitude?_writeNat false n h)
  | negSucc n => exact readMagnitude?_writeNat true (n + 1) h

theorem readMagnitude?_decimal (negative : Bool) (n : Nat) (e : Int) {rest : List Char}
    (h : EndsDigits rest) :
    readMagnitude? negative
        (Text.Decimal.writeNat n ++ 'e' :: (Text.Decimal.writeInt e ++ rest)) =
      some (⟨negative, digits n, none, some e⟩, rest) := by
  have hmark : EndsDigits ('e' :: (Text.Decimal.writeInt e ++ rest)) := by
    intro c hc
    cases hc
    rfl
  have hfraction : readFraction? ('e' :: (Text.Decimal.writeInt e ++ rest)) =
      some (none, 'e' :: (Text.Decimal.writeInt e ++ rest)) := rfl
  simp only [readMagnitude?, readWhole?_writeNat n hmark, hfraction, readExponent?_writeInt e h,
    Option.bind_eq_bind, Option.bind_some]

theorem readNumeral?_renderDouble (x : Double) {rest : List Char} (h : EndsNumber rest) :
    readNumeral? (Json.renderDouble x ++ rest) = some (numeralOfDouble x, rest) := by
  have hread := readMagnitude?_decimal x.negative x.toDecimal.1 x.toDecimal.2 h.endsDigits
  have htext : Json.renderDouble x ++ rest =
      (if x.negative then ['-'] else []) ++
        (Text.Decimal.writeNat x.toDecimal.1 ++
          'e' :: (Text.Decimal.writeInt x.toDecimal.2 ++ rest)) := by
    simp [Json.renderDouble, List.append_assoc]
  rw [htext, numeralOfDouble]
  cases hx : x.negative with
  | true =>
    rw [hx] at hread
    exact hread
  | false =>
    rw [hx] at hread
    exact (readNumeral?_writeNat _ _).trans hread

/-- An integer is read back from its digits. -/
theorem toInt?_numeralOfInt (i : Int) : (numeralOfInt i).toInt? = some i := by
  cases i with
  | ofNat n =>
    simp [numeralOfInt, Numeral.toInt?, digitsValue_digits]
  | negSucc n =>
    simp [numeralOfInt, Numeral.toInt?, digitsValue_digits, Int.negSucc_eq]

/-! ### Values -/

mutual

/-- A value as it is written. -/
def ofJson : Json → Source
  | .null => .null
  | .bool b => .bool b
  | .int i => .number (numeralOfInt i)
  | .double x => .number (numeralOfDouble x)
  | .string s => .string (some s)
  | .array items => .array (ofItems items)
  | .object members => .object (ofMembers members)

/-- The items of an array as they are written. -/
def ofItems : List Json → List Source
  | [] => []
  | v :: vs => ofJson v :: ofItems vs

/-- The members of an object as they are written. -/
def ofMembers : List (String × Json) → List (Option String × Source)
  | [] => []
  | (name, v) :: rest => (some name, ofJson v) :: ofMembers rest

end

/-- What may follow a value inside an array or an object. -/
theorem endsNumber_cons {c : Char} (cs : List Char) (h : c = ',' ∨ c = ']' ∨ c = '\x7d') :
    EndsNumber (c :: cs) := by
  intro d hd
  obtain rfl : c = d := Option.some.inj hd
  rcases h with rfl | rfl | rfl <;> decide

theorem endsNumber_nil : EndsNumber [] := by
  intro c hc
  cases hc

/-- A number begins with this character. -/
def beginsNumber (c : Char) : Bool :=
  c.isDigit || c == '-'

theorem ne_of_beginsNumber {c d : Char} (hc : beginsNumber c = true)
    (hd : beginsNumber d = false) : c ≠ d := by
  rintro rfl
  rw [hc] at hd
  cases hd

theorem isSpace_of_beginsNumber {c : Char} (hc : beginsNumber c = true) : isSpace c = false := by
  simp [isSpace, ne_of_beginsNumber hc (show beginsNumber ' ' = false by decide),
    ne_of_beginsNumber hc (show beginsNumber '\t' = false by decide),
    ne_of_beginsNumber hc (show beginsNumber '\n' = false by decide),
    ne_of_beginsNumber hc (show beginsNumber '\r' = false by decide)]

theorem writeNat_beginsNumber (n : Nat) :
    ∃ c cs, Text.Decimal.writeNat n = c :: cs ∧ beginsNumber c = true := by
  obtain ⟨c, cs, hcs, hdigit, -⟩ := writeNat_eq_cons n
  exact ⟨c, cs, hcs, by simp [beginsNumber, hdigit]⟩

theorem writeInt_beginsNumber (i : Int) :
    ∃ c cs, Text.Decimal.writeInt i = c :: cs ∧ beginsNumber c = true := by
  cases i with
  | ofNat n => exact writeNat_beginsNumber n
  | negSucc n => exact ⟨'-', _, rfl, rfl⟩

theorem renderDouble_beginsNumber (x : Double) :
    ∃ c cs, Json.renderDouble x = c :: cs ∧ beginsNumber c = true := by
  obtain ⟨c, cs, hcs, hc⟩ := writeNat_beginsNumber x.toDecimal.1
  rw [Json.renderDouble]
  cases x.negative with
  | true => exact ⟨'-', _, rfl, rfl⟩
  | false => exact ⟨c, _, congrArg (· ++ _) hcs, hc⟩

theorem skipSpace_cons {c : Char} (hc : isSpace c = false) (cs : List Char) :
    skipSpace (c :: cs) = c :: cs :=
  List.dropWhile_cons_of_neg (by simp [hc])

/-- A value begins with a character that is no space and closes no array. -/
theorem render_eq_cons (j : Json) :
    ∃ c cs, Json.render j = c :: cs ∧ isSpace c = false ∧ c ≠ ']' := by
  have number {cs : List Char} (h : ∃ c cs', cs = c :: cs' ∧ beginsNumber c = true) :
      ∃ c cs', cs = c :: cs' ∧ isSpace c = false ∧ c ≠ ']' := by
    obtain ⟨c, cs', hcs, hc⟩ := h
    exact ⟨c, cs', hcs, isSpace_of_beginsNumber hc, ne_of_beginsNumber hc rfl⟩
  cases j with
  | null => exact ⟨'n', _, rfl, rfl, by decide⟩
  | bool b =>
    cases b with
    | true => exact ⟨'t', _, rfl, rfl, by decide⟩
    | false => exact ⟨'f', _, rfl, rfl, by decide⟩
  | int i => exact number (writeInt_beginsNumber i)
  | double x => exact number (renderDouble_beginsNumber x)
  | string s => exact ⟨'"', _, rfl, rfl, by decide⟩
  | array items => exact ⟨'[', _, rfl, rfl, by decide⟩
  | object members => exact ⟨'\x7b', _, rfl, rfl, by decide⟩

/-! ### Values by their first character -/

/-- A text that begins like a number is read as one. -/
theorem readValue?_of_beginsNumber {cs : List Char}
    (h : ∃ c cs', cs = c :: cs' ∧ beginsNumber c = true) (rest : List Char) (steps : Nat) :
    readValue? (steps + 1) (cs ++ rest) =
      (readNumeral? (cs ++ rest)).map fun (n, left) => (.number n, left) := by
  obtain ⟨c, cs', rfl, hc⟩ := h
  have other {d : Char} {ds : List Char} (hd : beginsNumber d = false) :
      skipSpace (c :: (cs' ++ rest)) ≠ d :: ds := by
    rw [skipSpace_cons (isSpace_of_beginsNumber hc)]
    exact fun heq => ne_of_beginsNumber hc hd (List.cons.inj heq).1
  rw [List.cons_append, readValue?]
  split
  · next heq => exact absurd heq (other rfl)
  · next heq => exact absurd heq (other rfl)
  · next heq => exact absurd heq (other rfl)
  · next heq => exact absurd heq (other rfl)
  · next heq => exact absurd heq (other rfl)
  · next heq => exact absurd heq (other rfl)
  · rw [skipSpace_cons (isSpace_of_beginsNumber hc)]
    cases readNumeral? (c :: (cs' ++ rest)) <;> rfl

theorem readValue?_quote (cs : List Char) (steps : Nat) :
    readValue? (steps + 1) ('"' :: cs) =
      (readString? cs).map fun (text, left) => (.string text, left) := by
  have hread : readValue? (steps + 1) ('"' :: cs) =
      (readString? cs).bind fun (text, left) => some (.string text, left) := rfl
  rw [hread]
  cases readString? cs <;> rfl

theorem readValue?_bracket {cs : List Char}
    (h : ∃ c cs', cs = c :: cs' ∧ isSpace c = false ∧ c ≠ ']') (steps : Nat) :
    readValue? (steps + 1) ('[' :: cs) =
      (readItems? steps cs).map fun (items, left) => (.array items, left) := by
  obtain ⟨c, cs', rfl, hspace, hc⟩ := h
  rw [readValue?, skipSpace_cons rfl]
  simp only [skipSpace_cons hspace]
  split
  · next heq => exact absurd (List.cons.inj heq).1 hc
  · cases readItems? steps (c :: cs') <;> rfl

theorem readValue?_brace (cs : List Char) (steps : Nat) :
    readValue? (steps + 1) ('\x7b' :: '"' :: cs) =
      (readMembers? steps ('"' :: cs)).map fun (members, left) => (.object members, left) := by
  have hread : readValue? (steps + 1) ('\x7b' :: '"' :: cs) =
      (readMembers? steps ('"' :: cs)).bind fun (members, left) => some (.object members, left) := rfl
  rw [hread]
  cases readMembers? steps ('"' :: cs) <;> rfl

theorem readItems?_cons {v : Source} {cs left : List Char} {steps : Nat}
    (h : readValue? steps cs = some (v, ',' :: left)) :
    readItems? (steps + 1) cs = (readItems? steps left).map fun (vs, left) => (v :: vs, left) := by
  rw [readItems?, h]
  change ((readItems? steps left).bind fun (vs, left) => some (v :: vs, left)) = _
  cases readItems? steps left <;> rfl

/-- The marks between the parts of arrays and objects are no spaces. -/
theorem skipSpace_mark {c : Char} (h : c = '"' ∨ c = ':' ∨ c = ',' ∨ c = '\x7d') (cs : List Char) :
    skipSpace (c :: cs) = c :: cs := by
  rcases h with rfl | rfl | rfl | rfl <;> exact skipSpace_cons rfl cs

theorem readMembers?_last {name : Option String} {v : Source} {cs cs' left : List Char}
    {steps : Nat} (hname : readString? cs = some (name, ':' :: cs'))
    (h : readValue? steps cs' = some (v, '\x7d' :: left)) :
    readMembers? (steps + 1) ('"' :: cs) = some ([(name, v)], left) := by
  simp [readMembers?, hname, h, skipSpace_mark]

theorem readMembers?_cons {name : Option String} {v : Source} {cs cs' left : List Char}
    {steps : Nat} (hname : readString? cs = some (name, ':' :: cs'))
    (h : readValue? steps cs' = some (v, ',' :: left)) :
    readMembers? (steps + 1) ('"' :: cs) =
      (readMembers? steps left).map fun (ms, left) => ((name, v) :: ms, left) := by
  cases hms : readMembers? steps left <;> simp [readMembers?, hname, h, skipSpace_mark, hms]

/-! ### Values -/

/-- A value is read back, if there are two steps for each of its characters. -/
def ReadsBack (j : Json) : Prop :=
  ∀ (steps : Nat) (rest : List Char), EndsNumber rest → 2 * (Json.render j).length ≤ steps →
    readValue? steps (Json.render j ++ rest) = some (ofJson j, rest)

/-- There is a step for a value. -/
theorem exists_step {j : Json} {steps : Nat} (h : 2 * (Json.render j).length ≤ steps) :
    ∃ n, steps = n + 1 := by
  obtain ⟨c, cs, hcs, -⟩ := render_eq_cons j
  rw [hcs, List.length_cons] at h
  exact ⟨steps - 1, by omega⟩

theorem renderItems_cons_cons (v w : Json) (ws : List Json) :
    Json.renderItems (v :: w :: ws) = Json.render v ++ ',' :: Json.renderItems (w :: ws) := by
  simp [Json.renderItems]

theorem renderMembers_singleton (name : String) (v : Json) :
    Json.renderMembers [(name, v)] =
      '"' :: (name.toList.flatMap Json.renderChar ++ '"' :: ':' :: Json.render v) := by
  simp [Json.renderMembers, Json.renderString]

theorem renderMembers_cons_cons (name : String) (v : Json) (m : String × Json)
    (ms : List (String × Json)) : Json.renderMembers ((name, v) :: m :: ms) =
      '"' :: (name.toList.flatMap Json.renderChar ++
        '"' :: ':' :: (Json.render v ++ ',' :: Json.renderMembers (m :: ms))) := by
  simp [Json.renderMembers, Json.renderString]

theorem renderItems_eq_cons (v : Json) (vs : List Json) :
    ∃ c cs, Json.renderItems (v :: vs) = c :: cs ∧ isSpace c = false ∧ c ≠ ']' := by
  obtain ⟨c, cs, hcs, hc⟩ := render_eq_cons v
  cases vs with
  | nil => exact ⟨c, cs, hcs, hc⟩
  | cons w ws =>
    rw [renderItems_cons_cons, hcs]
    exact ⟨c, _, rfl, hc⟩

theorem renderMembers_eq_cons (m : String × Json) (ms : List (String × Json)) :
    ∃ cs, Json.renderMembers (m :: ms) = '"' :: cs := by
  cases ms with
  | nil => exact ⟨_, renderMembers_singleton m.1 m.2⟩
  | cons m' ms => exact ⟨_, renderMembers_cons_cons m.1 m.2 m' ms⟩

/-- Items are read back one after another. -/
theorem readItems?_render {v : Json} {vs : List Json} (h : ∀ w ∈ v :: vs, ReadsBack w) {steps : Nat}
    (rest : List Char) (hsteps : 2 * (Json.renderItems (v :: vs)).length + 1 ≤ steps) :
    readItems? steps (Json.renderItems (v :: vs) ++ ']' :: rest) =
      some (ofItems (v :: vs), rest) := by
  obtain ⟨hv, hvs⟩ := List.forall_mem_cons.1 h
  obtain ⟨steps, rfl⟩ : ∃ n, steps = n + 1 := ⟨steps - 1, by omega⟩
  cases vs with
  | nil =>
    rw [Json.renderItems] at hsteps ⊢
    rw [readItems?, hv _ _ (endsNumber_cons rest (by decide)) (by omega)]
    rfl
  | cons w ws =>
    rw [renderItems_cons_cons, List.length_append, List.length_cons] at hsteps
    rw [renderItems_cons_cons, List.append_assoc, List.cons_append,
      readItems?_cons (hv _ _ (endsNumber_cons _ (by decide)) (by omega)),
      readItems?_render hvs rest (by omega)]
    rfl

/-- Members are read back one after another. -/
theorem readMembers?_render {m : String × Json} {ms : List (String × Json)}
    (h : ∀ m' ∈ m :: ms, ReadsBack m'.2) {steps : Nat} (rest : List Char)
    (hsteps : 2 * (Json.renderMembers (m :: ms)).length + 1 ≤ steps) :
    readMembers? steps (Json.renderMembers (m :: ms) ++ '\x7d' :: rest) =
      some (ofMembers (m :: ms), rest) := by
  obtain ⟨hm, hms⟩ := List.forall_mem_cons.1 h
  obtain ⟨steps, rfl⟩ : ∃ n, steps = n + 1 := ⟨steps - 1, by omega⟩
  cases ms with
  | nil =>
    rw [renderMembers_singleton] at hsteps ⊢
    simp only [List.length_cons, List.length_append] at hsteps
    rw [List.cons_append, List.append_assoc, List.cons_append, List.cons_append,
      readMembers?_last (readString?_render m.1 _)
        (hm _ _ (endsNumber_cons rest (by decide)) (by omega))]
    rfl
  | cons m' ms =>
    rw [renderMembers_cons_cons] at hsteps ⊢
    simp only [List.length_cons, List.length_append] at hsteps
    rw [List.cons_append, List.append_assoc, List.cons_append, List.cons_append, List.append_assoc,
      List.cons_append, readMembers?_cons (readString?_render m.1 _)
        (hm _ _ (endsNumber_cons _ (by decide)) (by omega)),
      readMembers?_render hms rest (by omega)]
    rfl

theorem readsBack_array {items : List Json} (h : ∀ v ∈ items, ReadsBack v) :
    ReadsBack (.array items) := by
  intro steps rest _ hsteps
  obtain ⟨steps, rfl⟩ := exists_step hsteps
  cases items with
  | nil => rfl
  | cons v vs =>
    have htext : Json.render (.array (v :: vs)) = '[' :: (Json.renderItems (v :: vs) ++ [']']) := by
      rw [Json.render, List.cons_append]
    obtain ⟨c, cs, hcs, hc⟩ := renderItems_eq_cons v vs
    simp only [htext, List.length_cons, List.length_append, List.length_nil] at hsteps
    rw [htext, List.cons_append, List.append_assoc, List.singleton_append,
      readValue?_bracket ⟨c, _, congrArg (· ++ _) hcs, hc⟩, readItems?_render h rest (by omega)]
    rfl

theorem readsBack_object {members : List (String × Json)} (h : ∀ m ∈ members, ReadsBack m.2) :
    ReadsBack (.object members) := by
  intro steps rest _ hsteps
  obtain ⟨steps, rfl⟩ := exists_step hsteps
  cases members with
  | nil => rfl
  | cons m ms =>
    have htext : Json.render (.object (m :: ms)) =
        '\x7b' :: (Json.renderMembers (m :: ms) ++ ['\x7d']) := by
      rw [Json.render, List.cons_append]
    simp only [htext, List.length_cons, List.length_append, List.length_nil] at hsteps
    have henough : 2 * (Json.renderMembers (m :: ms)).length + 1 ≤ steps := by omega
    have hread := readMembers?_render h rest henough
    obtain ⟨cs, hcs⟩ := renderMembers_eq_cons m ms
    rw [hcs, List.cons_append] at hread
    rw [htext, List.cons_append, List.append_assoc, List.singleton_append, hcs, List.cons_append,
      readValue?_brace, hread]
    rfl

theorem readsBack (j : Json) : ReadsBack j := by
  intro steps rest hrest hsteps
  match j with
  | .null =>
    obtain ⟨steps, rfl⟩ := exists_step hsteps
    rfl
  | .bool b =>
    obtain ⟨steps, rfl⟩ := exists_step hsteps
    cases b <;> rfl
  | .int i =>
    obtain ⟨steps, rfl⟩ := exists_step hsteps
    rw [Json.render, readValue?_of_beginsNumber (writeInt_beginsNumber i),
      readNumeral?_writeInt i hrest, Option.map_some, ofJson]
  | .double x =>
    obtain ⟨steps, rfl⟩ := exists_step hsteps
    rw [Json.render, readValue?_of_beginsNumber (renderDouble_beginsNumber x),
      readNumeral?_renderDouble x hrest, Option.map_some, ofJson]
  | .string s =>
    obtain ⟨steps, rfl⟩ := exists_step hsteps
    rw [Json.render, Json.renderString, List.append_assoc, List.cons_append, List.singleton_append,
      readValue?_quote, readString?_render, Option.map_some, ofJson]
  | .array items => exact readsBack_array (fun v _ => readsBack v) _ _ hrest hsteps
  | .object members => exact readsBack_object (fun m _ => readsBack m.2) _ _ hrest hsteps
termination_by sizeOf j
decreasing_by
  · have := List.sizeOf_lt_of_mem ‹v ∈ items›
    simp only [Json.array.sizeOf_spec]
    omega
  · have := List.sizeOf_lt_of_mem ‹m ∈ members›
    have : sizeOf m = 1 + sizeOf m.1 + sizeOf m.2 := by cases m; rfl
    simp only [Json.object.sizeOf_spec]
    omega

/-- The text of a value is read back as the value is written. -/
theorem read?_text (j : Json) : read? j.text = some (ofJson j) := by
  have hread := readsBack j (2 * (Json.render j).length + 2) [] endsNumber_nil (Nat.le_add_right _ 2)
  rw [List.append_nil] at hread
  rw [read?, readFirst?, Json.text, String.toList_ofList, hread]
  rfl

end OrgBilling.Source
