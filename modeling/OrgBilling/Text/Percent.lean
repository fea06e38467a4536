import OrgBilling.Text.Hex
import OrgBilling.Text.Utf8

/-!
# Percent-encoding

How addresses write bytes that they cannot hold as they are: a percent sign and two hexadecimal
digits, capital when written and of either case when read. Reading takes every text, since a percent
sign without two digits behind it stands for itself. A text in which each percent sign does so is read
as its own bytes, and no other text is (`decode_eq_utf8_iff`).
-/

namespace OrgBilling.Text.Percent

/-- The digit for a number below sixteen, in upper case. -/
def digit (n : Nat) : Char :=
  if n < 10 then Char.ofNat (48 + n) else Char.ofNat (55 + n)

/-- A byte in percent-encoding. -/
def encodeByte (b : UInt8) : List Char :=
  ['%', digit (b.toNat / 16), digit (b.toNat % 16)]

/-- The bytes that a percent-encoded text stands for. -/
def decode : List Char → List UInt8
  | '%' :: a :: b :: rest =>
    match Hex.digitValue? a, Hex.digitValue? b with
    | some high, some low => UInt8.ofNat (16 * high + low) :: decode rest
    | _, _ => 0x25 :: decode (a :: b :: rest)
  | c :: rest => utf8 (String.singleton c) ++ decode rest
  | [] => []

theorem digitValue?_digit {n : Nat} (h : n < 16) : Hex.digitValue? (digit n) = some n := by
  have key : ∀ m : Fin 16, Hex.digitValue? (digit m.val) = some m.val := by decide
  exact key ⟨n, h⟩

/-- An encoded byte reads back as itself, whatever follows. -/
theorem decode_encodeByte (b : UInt8) (rest : List Char) :
    decode (encodeByte b ++ rest) = b :: decode rest := by
  have hb : b.toNat < 256 := b.toNat_lt
  have hhigh : b.toNat / 16 < 16 := by omega
  have hlow : b.toNat % 16 < 16 := by omega
  have hsum : 16 * (b.toNat / 16) + b.toNat % 16 = b.toNat := by omega
  simp only [encodeByte, List.cons_append, List.nil_append, decode, digitValue?_digit hhigh,
    digitValue?_digit hlow, hsum, UInt8.ofNat_toNat]

theorem decode_flatMap_encodeByte (bytes : List UInt8) (rest : List Char) :
    decode (bytes.flatMap encodeByte ++ rest) = bytes ++ decode rest := by
  induction bytes with
  | nil => rfl
  | cons b bytes ih =>
    rw [List.flatMap_cons, List.append_assoc, decode_encodeByte, ih, List.cons_append]

/-! ### Percent signs that stand for themselves -/

/-- A byte in percent-encoding stands first. -/
def isEscape : List Char → Bool
  | c :: a :: b :: _ => c == '%' && (Hex.digitValue? a).isSome && (Hex.digitValue? b).isSome
  | _ => false

theorem isEscape_of_ne {c : Char} (h : c ≠ '%') (cs : List Char) : isEscape (c :: cs) = false := by
  match cs with
  | [] => rfl
  | [a] => rfl
  | a :: b :: cs => simp [isEscape, h]

theorem isEscape_of_first {c a : Char} (h : Hex.digitValue? a = none) (cs : List Char) :
    isEscape (c :: a :: cs) = false := by
  cases cs with
  | nil => rfl
  | cons b cs => simp [isEscape, h]

theorem isEscape_of_second {c a b : Char} (h : Hex.digitValue? b = none) (cs : List Char) :
    isEscape (c :: a :: b :: cs) = false := by
  simp [isEscape, h]

theorem digitValue?_percent : Hex.digitValue? '%' = none := by decide

/-- Every percent sign of a text stands for itself. -/
def IsLiteral (cs : List Char) : Prop :=
  ∀ rest, rest <:+ cs → isEscape rest = false

theorem isLiteral_nil : IsLiteral [] := by
  intro rest h
  rw [List.suffix_nil.1 h]
  rfl

theorem isLiteral_cons_iff {c : Char} {cs : List Char} :
    IsLiteral (c :: cs) ↔ isEscape (c :: cs) = false ∧ IsLiteral cs := by
  simp only [IsLiteral, List.suffix_cons_iff, forall_eq_or_imp]

instance decidableIsLiteral : (cs : List Char) → Decidable (IsLiteral cs)
  | [] => isTrue isLiteral_nil
  | _ :: cs =>
    have := decidableIsLiteral cs
    decidable_of_iff _ isLiteral_cons_iff.symm

theorem decode_escape {a b : Char} {high low : Nat} (ha : Hex.digitValue? a = some high)
    (hb : Hex.digitValue? b = some low) (rest : List Char) :
    decode ('%' :: a :: b :: rest) = UInt8.ofNat (16 * high + low) :: decode rest := by
  rw [decode]
  simp only [ha, hb]

theorem decode_cons {c : Char} {cs : List Char} (h : isEscape (c :: cs) = false) :
    decode (c :: cs) = utf8 (String.singleton c) ++ decode cs := by
  rw [decode.eq_def]
  split
  · next a b rest heq =>
    cases heq
    split
    · next ha hb => simp [isEscape, ha, hb] at h
    · rfl
  · next heq => cases heq; rfl
  · next heq => cases heq

/-- A text is read from its beginning, a byte in percent-encoding or a character at a time. -/
theorem induction_on_escapes {motive : List Char → Prop} (nil : motive [])
    (escape : ∀ a b high low rest, Hex.digitValue? a = some high → Hex.digitValue? b = some low →
      motive rest → motive ('%' :: a :: b :: rest))
    (plain : ∀ c rest, isEscape (c :: rest) = false → motive rest → motive (c :: rest))
    (cs : List Char) : motive cs := by
  induction cs using decode.induct with
  | case1 a b rest high low hb ha ih => exact escape a b high low rest ha hb ih
  | case2 a b rest h ih =>
    refine plain _ _ ?_ ih
    cases ha : Hex.digitValue? a with
    | none => exact isEscape_of_first ha _
    | some high =>
      cases hb : Hex.digitValue? b with
      | none => exact isEscape_of_second hb _
      | some low => exact absurd hb (h high low ha)
  | case3 c rest h ih =>
    refine plain _ _ ?_ ih
    match rest with
    | [] => rfl
    | [a] => rfl
    | a :: b :: rest => exact isEscape_of_ne (fun hc => h a b rest hc rfl) _
  | case4 => exact nil

/-- Reading adds no bytes. -/
theorem length_decode_le (cs : List Char) :
    (decode cs).length ≤ (utf8 (String.ofList cs)).length := by
  induction cs using induction_on_escapes with
  | nil => exact Nat.le_refl _
  | escape a b high low rest ha hb ih =>
    rw [decode_escape ha hb, utf8_ofList_cons, utf8_ofList_cons, utf8_ofList_cons]
    simp only [List.length_append, List.length_cons]
    have := length_utf8_singleton_pos '%'
    omega
  | plain c rest h ih =>
    rw [decode_cons h, utf8_ofList_cons, List.length_append, List.length_append]
    omega

/-- A text is read as its own bytes if its percent signs stand for themselves. Else some bytes of it
are lost, since three characters become one byte. -/
theorem decode_eq_utf8_iff {cs : List Char} :
    decode cs = utf8 (String.ofList cs) ↔ IsLiteral cs := by
  induction cs using induction_on_escapes with
  | nil => exact iff_of_true rfl isLiteral_nil
  | escape a b high low rest ha hb ih =>
    refine iff_of_false (fun heq => ?_) fun h => ?_
    · have length := congrArg List.length heq
      rw [decode_escape ha hb, utf8_ofList_cons, utf8_ofList_cons, utf8_ofList_cons] at length
      simp only [List.length_append, List.length_cons] at length
      have := length_decode_le rest
      have := length_utf8_singleton_pos '%'
      have := length_utf8_singleton_pos a
      have := length_utf8_singleton_pos b
      omega
    · have escape := (isLiteral_cons_iff.1 h).1
      simp [isEscape, ha, hb] at escape
  | plain c rest h ih =>
    rw [decode_cons h, utf8_ofList_cons, List.append_cancel_left_eq, ih, isLiteral_cons_iff,
      and_iff_right h]

end OrgBilling.Text.Percent
