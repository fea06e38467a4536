/-!
# Decimal integers

How integers are written, and the reading of a signed integer with a fixed range. A reader may be
given a plus sign and leading zeros (`+5`, `007`, `-0`); the written form has neither, so reading
and writing again gives the canonical form. What is read is what the text denotes
(`readInt64?_eq_some_iff`), and that is what was written (`readInt64?_writeInt`).
-/

namespace OrgBilling.Text.Decimal

/-- The value of a digit. -/
def digitValue? (c : Char) : Option Nat :=
  if '0' ≤ c ∧ c ≤ '9' then some (c.toNat - 48) else none

/-- Read digits onto the value already read. -/
def readDigits (acc : Nat) : List Char → Option Nat
  | [] => some acc
  | c :: cs => do
    let d ← digitValue? c
    readDigits (10 * acc + d) cs

/-- A natural number with at least one digit. -/
def readNat? : List Char → Option Nat
  | [] => none
  | cs => readDigits 0 cs

/-- An integer with an optional sign. -/
def readInt? : List Char → Option Int
  | '-' :: cs => (readNat? cs).map fun n => -(n : Int)
  | '+' :: cs => (readNat? cs).map Int.ofNat
  | cs => (readNat? cs).map Int.ofNat

/-- The digits of a natural number. -/
def writeNat (n : Nat) : List Char :=
  Nat.toDigits 10 n

/-- The digits of an integer, after a minus sign if it is negative. -/
def writeInt : Int → List Char
  | .ofNat n => writeNat n
  | .negSucc n => '-' :: writeNat (n + 1)

/-- The text of an integer. -/
def ofInt (i : Int) : String :=
  String.ofList (writeInt i)

/-- A natural number with zeros in front, so that it has at least `width` digits. -/
def padded (width n : Nat) : String :=
  let ds := writeNat n
  String.ofList (List.replicate (width - ds.length) '0' ++ ds)

/-- An integer fits into a signed word of `bits` bits. -/
def fitsSigned (bits : Nat) (i : Int) : Bool :=
  -Int.pow 2 (bits - 1) ≤ i && i < Int.pow 2 (bits - 1)

/-- Read a signed integer of 64 bits; a value outside the range is refused. -/
def readInt64? (cs : List Char) : Option Int :=
  (readInt? cs).filter (fitsSigned 64)

/-! ### What can be read -/

theorem isDigit_iff_toNat {c : Char} : c.isDigit = true ↔ 48 ≤ c.toNat ∧ c.toNat ≤ 57 := by
  rw [Char.isDigit, Bool.and_eq_true, decide_eq_true_eq, decide_eq_true_eq, ge_iff_le,
    UInt32.le_iff_toNat_le, UInt32.le_iff_toNat_le]
  rfl

theorem digitValue?_eq (c : Char) :
    digitValue? c = if c.isDigit then some (c.toNat - 48) else none := by
  have digit : ('0' ≤ c ∧ c ≤ '9') ↔ c.isDigit = true := by
    rw [isDigit_iff_toNat, Char.le_def, Char.le_def, UInt32.le_iff_toNat_le, UInt32.le_iff_toNat_le]
    rfl
  simp only [digitValue?, digit]

/-- Digits are read to their end if they are digits. -/
theorem readDigits_eq_some_iff {acc n : Nat} {cs : List Char} :
    readDigits acc cs = some n ↔
      (∀ c ∈ cs, c.isDigit = true) ∧ n = Nat.ofDigitChars 10 cs acc := by
  induction cs generalizing acc with
  | nil =>
    rw [readDigits, Option.some.injEq, Nat.ofDigitChars, List.foldl_nil, eq_comm]
    exact (and_iff_right nofun).symm
  | cons c cs ih =>
    rw [readDigits, digitValue?_eq]
    by_cases hc : c.isDigit = true
    · simp [hc, ih, Nat.ofDigitChars]
    · simp [hc]

theorem readNat?_eq_some_iff {n : Nat} {cs : List Char} :
    readNat? cs = some n ↔
      cs ≠ [] ∧ (∀ c ∈ cs, c.isDigit = true) ∧ n = Nat.ofDigitChars 10 cs 0 := by
  cases cs with
  | nil => simp [readNat?]
  | cons c cs => simp [readNat?, readDigits_eq_some_iff]

/-- The text denotes an integer: there are digits in it, and before them a sign or nothing. -/
inductive Denotes : List Char → Int → Prop
  | plain {ds : List Char} (ne : ds ≠ []) (digits : ∀ c ∈ ds, c.isDigit = true) :
      Denotes ds (Nat.ofDigitChars 10 ds 0)
  | plus {ds : List Char} (ne : ds ≠ []) (digits : ∀ c ∈ ds, c.isDigit = true) :
      Denotes ('+' :: ds) (Nat.ofDigitChars 10 ds 0)
  | minus {ds : List Char} (ne : ds ≠ []) (digits : ∀ c ∈ ds, c.isDigit = true) :
      Denotes ('-' :: ds) (-(Nat.ofDigitChars 10 ds 0 : Int))

theorem readInt?_eq_some_iff {i : Int} {cs : List Char} :
    readInt? cs = some i ↔ Denotes cs i := by
  constructor
  · intro h
    unfold readInt? at h
    split at h
    · obtain ⟨_, hn, rfl⟩ := Option.map_eq_some_iff.1 h
      obtain ⟨n, hn, hcast⟩ := Option.bind_eq_some_iff.1 hn
      obtain ⟨ne, digits, rfl⟩ := readNat?_eq_some_iff.1 hn
      cases hcast
      exact .minus ne digits
    · obtain ⟨n, hn, rfl⟩ := Option.map_eq_some_iff.1 h
      obtain ⟨ne, digits, rfl⟩ := readNat?_eq_some_iff.1 hn
      exact .plus ne digits
    · obtain ⟨n, hn, rfl⟩ := Option.map_eq_some_iff.1 h
      obtain ⟨ne, digits, rfl⟩ := readNat?_eq_some_iff.1 hn
      exact .plain ne digits
  · intro h
    cases h with
    | plain ne digits =>
      have hn := readNat?_eq_some_iff.2 ⟨ne, digits, rfl⟩
      unfold readInt?
      split
      · exact absurd (digits '-' List.mem_cons_self) (by decide)
      · exact absurd (digits '+' List.mem_cons_self) (by decide)
      · rw [hn]
        rfl
    | plus ne digits =>
      rw [readInt?, readNat?_eq_some_iff.2 ⟨ne, digits, rfl⟩]
      rfl
    | minus ne digits =>
      rw [readInt?, readNat?_eq_some_iff.2 ⟨ne, digits, rfl⟩]
      rfl

theorem isDigit_of_mem_writeNat {n : Nat} {c : Char} (h : c ∈ writeNat n) : c.isDigit = true :=
  Nat.isDigit_of_mem_toDigits (by decide) (by decide) h

theorem writeNat_ne_nil (n : Nat) : writeNat n ≠ [] :=
  Nat.toDigits_ne_nil

theorem denotes_writeInt (i : Int) : Denotes (writeInt i) i := by
  have value (n : Nat) : Nat.ofDigitChars 10 (writeNat n) 0 = n := Nat.ofDigitChars_ten_toDigits
  cases i with
  | ofNat n =>
    have h := Denotes.plain (writeNat_ne_nil n) fun _ => isDigit_of_mem_writeNat
    rwa [value] at h
  | negSucc n =>
    have h := Denotes.minus (writeNat_ne_nil (n + 1)) fun _ => isDigit_of_mem_writeNat
    rwa [value] at h

/-- What is written is a minus sign and digits. -/
theorem eq_or_isDigit_of_mem_writeInt {i : Int} {c : Char} (h : c ∈ writeInt i) :
    c = '-' ∨ c.isDigit = true := by
  cases i with
  | ofNat n => exact .inr (isDigit_of_mem_writeNat h)
  | negSucc n => exact (List.mem_cons.1 h).imp_right isDigit_of_mem_writeNat

theorem toNat_of_mem_writeInt {i : Int} {c : Char} (h : c ∈ writeInt i) :
    45 ≤ c.toNat ∧ c.toNat ≤ 57 := by
  rcases eq_or_isDigit_of_mem_writeInt h with rfl | digit
  · decide
  · have := isDigit_iff_toNat.1 digit
    omega

/-- Different integers are written differently. -/
theorem writeInt_inj {i j : Int} : writeInt i = writeInt j ↔ i = j := by
  refine ⟨fun h => ?_, congrArg writeInt⟩
  have hi := readInt?_eq_some_iff.2 (denotes_writeInt i)
  rw [h, readInt?_eq_some_iff.2 (denotes_writeInt j)] at hi
  exact (Option.some.inj hi).symm

theorem readInt64?_eq_some_iff {i : Int} {cs : List Char} :
    readInt64? cs = some i ↔ Denotes cs i ∧ fitsSigned 64 i = true := by
  rw [readInt64?, Option.filter_eq_some_iff, readInt?_eq_some_iff]

/-- Reading what was written gives the integer back. -/
theorem readInt64?_writeInt {i : Int} (h : fitsSigned 64 i = true) :
    readInt64? (writeInt i) = some i :=
  readInt64?_eq_some_iff.2 ⟨denotes_writeInt i, h⟩

end OrgBilling.Text.Decimal
