/-!
# Hexadecimal text of bytes

Each byte is two digits, the high half first. Writing uses small letters; reading accepts either
case and nothing else, so a text of odd length or with any other character is refused
(`decode?_eq_some_iff`).
-/

namespace OrgBilling.Text.Hex

/-- The digit for a number below sixteen, in lower case. -/
def digit (n : Nat) : Char :=
  if n < 10 then Char.ofNat (48 + n) else Char.ofNat (87 + n)

/-- The number a hexadecimal digit of either case stands for. -/
def digitValue? (c : Char) : Option Nat :=
  if '0' ≤ c ∧ c ≤ '9' then some (c.toNat - 48)
  else if 'a' ≤ c ∧ c ≤ 'f' then some (c.toNat - 87)
  else if 'A' ≤ c ∧ c ≤ 'F' then some (c.toNat - 55)
  else none

/-- The digits of a list of bytes. -/
def encode (bytes : List UInt8) : List Char :=
  bytes.flatMap fun b => [digit (b.toNat / 16), digit (b.toNat % 16)]

/-- The bytes a text of digits stands for. -/
def decode? : List Char → Option (List UInt8)
  | [] => some []
  | [_] => none
  | a :: b :: rest => do
    let high ← digitValue? a
    let low ← digitValue? b
    let bytes ← decode? rest
    some (UInt8.ofNat (16 * high + low) :: bytes)

theorem digitValue?_digit {n : Nat} (h : n < 16) : digitValue? (digit n) = some n := by
  have key : ∀ m : Fin 16, digitValue? (digit m.val) = some m.val := by decide
  exact key ⟨n, h⟩

/-- Reading what was written gives the bytes back. -/
theorem decode?_encode (bytes : List UInt8) : decode? (encode bytes) = some bytes := by
  induction bytes with
  | nil => rfl
  | cons b rest ih =>
    have hb : b.toNat < 256 := b.toNat_lt
    have hhigh : b.toNat / 16 < 16 := by omega
    have hlow : b.toNat % 16 < 16 := by omega
    have hsum : 16 * (b.toNat / 16) + b.toNat % 16 = b.toNat := by omega
    change decode? (digit (b.toNat / 16) :: digit (b.toNat % 16) :: encode rest) = _
    simp only [decode?, digitValue?_digit hhigh, digitValue?_digit hlow, ih, hsum, bind,
      Option.bind_some, UInt8.ofNat_toNat]

/-! ### Either letter case -/

theorem toNat_digit {n : Nat} (h : n < 16) : (digit n).toNat = if n < 10 then 48 + n else 87 + n := by
  have key : ∀ m : Fin 16, (digit m.val).toNat = if m.val < 10 then 48 + m.val else 87 + m.val := by
    decide
  exact key ⟨n, h⟩

/-- What is written is digits and small letters. -/
theorem toNat_of_mem_encode {bytes : List UInt8} {c : Char} (h : c ∈ encode bytes) :
    48 ≤ c.toNat ∧ c.toNat ≤ 102 := by
  obtain ⟨b, -, hc⟩ := List.mem_flatMap.1 h
  have hb : b.toNat < 256 := b.toNat_lt
  have bounds {n : Nat} (hn : n < 16) : 48 ≤ (digit n).toNat ∧ (digit n).toNat ≤ 102 := by
    rw [toNat_digit hn]
    split <;> omega
  simp only [List.mem_cons, List.not_mem_nil, or_false] at hc
  rcases hc with rfl | rfl
  · exact bounds (by omega)
  · exact bounds (by omega)

theorem toNat_toLower (c : Char) :
    c.toLower.toNat = if 65 ≤ c.toNat ∧ c.toNat ≤ 90 then c.toNat + 32 else c.toNat := by
  have upper : (c.val ≥ 'A'.val ∧ c.val ≤ 'Z'.val) ↔ 65 ≤ c.toNat ∧ c.toNat ≤ 90 := by
    rw [ge_iff_le, UInt32.le_iff_toNat_le, UInt32.le_iff_toNat_le]
    rfl
  unfold Char.toLower
  split
  · next h =>
    have hc := upper.1 h
    have small : c.val.toNat + 32 < 2 ^ 32 := by
      have : c.val.toNat ≤ 90 := hc.2
      omega
    rw [if_pos hc]
    exact (UInt32.toNat_add c.val 32).trans (Nat.mod_eq_of_lt small)
  · next h => rw [if_neg fun hc => h (upper.2 hc)]

theorem digitValue?_eq_some_iff {c : Char} {n : Nat} :
    digitValue? c = some n ↔ n < 16 ∧ c.toLower = digit n := by
  have le (a b : Char) : a ≤ b ↔ a.toNat ≤ b.toNat := by
    rw [Char.le_def, UInt32.le_iff_toNat_le]
    rfl
  have : '0'.toNat = 48 ∧ '9'.toNat = 57 ∧ 'a'.toNat = 97 ∧ 'f'.toNat = 102 ∧ 'A'.toNat = 65 ∧
    'F'.toNat = 70 := by decide
  simp only [digitValue?, le]
  rw [← Char.toNat_inj, toNat_toLower]
  constructor
  · intro h
    have hn : n < 16 := by grind
    refine ⟨hn, ?_⟩
    rw [toNat_digit hn]
    grind
  · rintro ⟨hn, h⟩
    rw [toNat_digit hn] at h
    grind

theorem encode_cons (b : UInt8) (bytes : List UInt8) :
    encode (b :: bytes) = digit (b.toNat / 16) :: digit (b.toNat % 16) :: encode bytes := rfl

/-- A text stands for bytes if it is how they are written, up to the case of its letters. -/
theorem decode?_eq_some_iff {cs : List Char} {bytes : List UInt8} :
    decode? cs = some bytes ↔ cs.map Char.toLower = encode bytes := by
  induction cs using decode?.induct generalizing bytes with
  | case1 => cases bytes <;> simp [decode?, encode]
  | case2 c => cases bytes <;> simp [decode?, encode]
  | case3 a b rest ih =>
    constructor
    · intro h
      simp only [decode?, Option.bind_eq_bind, Option.bind_eq_some_iff] at h
      obtain ⟨high, hhigh, low, hlow, rest', hrest, heq⟩ := h
      obtain rfl := Option.some.inj heq
      obtain ⟨hhigh, ha⟩ := digitValue?_eq_some_iff.1 hhigh
      obtain ⟨hlow, hb⟩ := digitValue?_eq_some_iff.1 hlow
      have value : (UInt8.ofNat (16 * high + low)).toNat = 16 * high + low :=
        UInt8.toNat_ofNat_of_lt' (Nat.lt_of_lt_of_le (by omega : 16 * high + low < 256) (by decide))
      have hdiv : (16 * high + low) / 16 = high := by omega
      have hmod : (16 * high + low) % 16 = low := by omega
      rw [encode_cons, value, hdiv, hmod, List.map_cons, List.map_cons, ha, hb, ih.1 hrest]
    · intro h
      cases bytes with
      | nil => cases h
      | cons byte bytes =>
        rw [encode_cons, List.map_cons, List.map_cons, List.cons.injEq, List.cons.injEq] at h
        obtain ⟨ha, hb, hrest⟩ := h
        have hbyte := byte.toNat_lt
        have hhigh := digitValue?_eq_some_iff.2 ⟨(by omega : byte.toNat / 16 < 16), ha⟩
        have hlow := digitValue?_eq_some_iff.2 ⟨(by omega : byte.toNat % 16 < 16), hb⟩
        rw [decode?, hhigh, hlow, ih.2 hrest]
        simp only [Option.bind_eq_bind, Option.bind_some, Nat.div_add_mod, UInt8.ofNat_toNat]

end OrgBilling.Text.Hex
