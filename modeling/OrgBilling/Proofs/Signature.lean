import OrgBilling.Proofs.Json.Wire
import OrgBilling.Signature
import Mathlib.Data.List.Infix

/-!
# What a signature header attests

A header is a list of entries, cut at the commas and trimmed; an entry with an `=` is a field, whose
key ends at the first one. What reading a header entry by entry comes to is said here of the whole
list. The header carries the time that the last of its `t` fields denotes (`Carries`), and it offers
the value of every `v1` field (`Offers`). It is accepted if the time is within the tolerance and some
offer is the authentication code of time and payload in hexadecimal digits (`WellSigned`,
`verify_eq_ok_iff`), so entries that are no `t` field may be added anywhere (`WellSigned.inserted`).

A header that was made by signing carries its time and offers its code and nothing else
(`carries_sign`, `offers_sign_iff`). Whether it is accepted is thus a matter of the distance in time
alone (`wellSigned_sign_iff`), which a computation in 64-bit words gets right up to the ends of the
range (`toNat_absDiff`, `toNat_unsignedAbs`).
-/

namespace OrgBilling.Signature

open Text

/-! ### Fields -/

/-- An entry has a value under a key: the key is what precedes the first `=`. -/
def IsField (key value entry : List Char) : Prop :=
  '=' ∉ key ∧ entry = key ++ '=' :: value

/-- An entry is one field only. -/
theorem IsField.unique {key key' value value' entry : List Char} (h : IsField key value entry)
    (h' : IsField key' value' entry) : key = key' ∧ value = value' := by
  obtain ⟨hkey, rfl⟩ := h
  obtain ⟨hkey', heq⟩ := h'
  exact (append_cons_inj hkey hkey').1 heq

theorem isField_t_iff {value entry : List Char} :
    IsField ['t'] value entry ↔ entry = 't' :: '=' :: value :=
  and_iff_right (by decide)

theorem isField_v1_iff {value entry : List Char} :
    IsField ['v', '1'] value entry ↔ entry = 'v' :: '1' :: '=' :: value :=
  and_iff_right (by decide)

/-- A value stands under a key in the last of the entries that have this key. -/
def LastField (key value : List Char) (entries : List (List Char)) : Prop :=
  ∃ before entry after, entries = before ++ entry :: after ∧ IsField key value entry ∧
    ∀ e ∈ after, ∀ v, ¬ IsField key v e

theorem not_lastField_nil (key value : List Char) : ¬ LastField key value [] := by
  rintro ⟨before, entry, after, heq, -⟩
  simp at heq

/-- An entry read after others replaces what they said, if it has the key. -/
theorem lastField_append_singleton {key value entry : List Char} {entries : List (List Char)} :
    LastField key value (entries ++ [entry]) ↔
      IsField key value entry ∨ (∀ v, ¬ IsField key v entry) ∧ LastField key value entries := by
  constructor
  · rintro ⟨before, last, after, heq, hfield, hafter⟩
    rcases List.eq_nil_or_concat' after with rfl | ⟨after, e, rfl⟩
    · obtain ⟨-, rfl⟩ := List.append_singleton_inj.1 heq
      exact .inl hfield
    · rw [← List.cons_append, ← List.append_assoc] at heq
      obtain ⟨rfl, rfl⟩ := List.append_singleton_inj.1 heq
      exact .inr ⟨hafter entry (by simp), before, last, after, rfl, hfield,
        fun e he => hafter e (List.mem_append_left _ he)⟩
  · rintro (hfield | ⟨hentry, before, last, after, rfl, hfield, hafter⟩)
    · exact ⟨entries, entry, [], rfl, hfield, by simp⟩
    · refine ⟨before, last, after ++ [entry], by simp, hfield, fun e he => ?_⟩
      rcases List.mem_append.1 he with he | he
      · exact hafter e he
      · rwa [List.mem_singleton.1 he]

/-! ### Reading a header -/

/-- The parts of a header, as they stand between its commas. -/
def parts (header : String) : List (List Char) :=
  splitAtEach ',' header.toList

/-- The header with the given parts. -/
def ofParts (ps : List (List Char)) : String :=
  String.ofList ([','].intercalate ps)

/-- The parts that a header is put together from are its parts. -/
theorem parts_ofParts {ps : List (List Char)} (h : ∀ part ∈ ps, ',' ∉ part) (ne : ps ≠ []) :
    parts (ofParts ps) = ps := by
  rw [parts, ofParts, String.toList_ofList, splitAtEach_intercalate h ne]

/-- The entries of a header. -/
def entries (header : String) : List (List Char) :=
  (parts header).map trimChars

/-- The time that a header carries: what its last `t` field denotes, if that is a 64-bit integer. -/
def Carries (header : String) (time : Int) : Prop :=
  ∃ value, LastField ['t'] value (entries header) ∧ Decimal.Denotes value time ∧ IsInt64 time

/-- A code that a header offers: the value of some `v1` field. -/
def Offers (header : String) (code : List Char) : Prop :=
  ∃ entry ∈ entries header, IsField ['v', '1'] code entry

namespace Header

/-- All that an entry can do to what was read before it. -/
theorem addEntry_cases (h : Header) (entry : List Char) :
    (∃ value, IsField ['t'] value (trimChars entry) ∧
      h.addEntry entry = { h with time := Decimal.readInt64? value }) ∨
    (∃ value, IsField ['v', '1'] value (trimChars entry) ∧
      h.addEntry entry = { h with candidates := h.candidates ++ [value] }) ∨
    ((∀ value, ¬ IsField ['t'] value (trimChars entry)) ∧
      (∀ value, ¬ IsField ['v', '1'] value (trimChars entry)) ∧ h.addEntry entry = h) := by
  simp only [isField_t_iff, isField_v1_iff]
  unfold addEntry
  split
  · next value heq => exact .inl ⟨value, heq, rfl⟩
  · next value heq => exact .inr (.inl ⟨value, heq, rfl⟩)
  · next ht hv => exact .inr (.inr ⟨ht, hv, rfl⟩)

/-- The last `t` field decides the time, also when its value cannot be read. -/
theorem time_foldl_eq_some_iff {parts : List (List Char)} {time : Int} :
    (parts.foldl addEntry empty).time = some time ↔
      ∃ value, LastField ['t'] value (parts.map trimChars) ∧
        Decimal.readInt64? value = some time := by
  -- By induction from the end: the entry read last overrules those before it.
  induction parts using List.reverseRecOn with
  | nil => simp [empty, not_lastField_nil]
  | append_singleton parts part ih =>
    rw [List.foldl_append, List.foldl_cons, List.foldl_nil, List.map_append, List.map_singleton]
    simp only [lastField_append_singleton]
    rcases (parts.foldl addEntry empty).addEntry_cases part with
      ⟨value, hfield, heq⟩ | ⟨value, hfield, heq⟩ | ⟨ht, -, heq⟩
    · rw [heq]
      constructor
      · exact fun h => ⟨value, .inl hfield, h⟩
      · rintro ⟨value', hfield' | ⟨hno, -⟩, h⟩
        · rwa [(hfield.unique hfield').2]
        · exact absurd hfield (hno value)
    · -- A `v1` field is no `t` field, since an entry has one key.
      have ht (v : List Char) : ¬ IsField ['t'] v (trimChars part) := fun h =>
        absurd (hfield.unique h).1 (by decide)
      rw [heq]
      simp only [ht, not_false_eq_true, implies_true, true_and, false_or]
      exact ih
    · rw [heq, ih]
      simp only [ht, not_false_eq_true, implies_true, true_and, false_or]

/-- Every `v1` field adds its value to the candidates. -/
theorem mem_candidates_foldl_iff {parts : List (List Char)} {code : List Char} :
    code ∈ (parts.foldl addEntry empty).candidates ↔
      ∃ entry ∈ parts.map trimChars, IsField ['v', '1'] code entry := by
  induction parts using List.reverseRecOn with
  | nil => simp [empty]
  | append_singleton parts part ih =>
    rw [List.foldl_append, List.foldl_cons, List.foldl_nil, List.map_append, List.map_singleton]
    simp only [List.mem_append, List.mem_singleton, or_and_right, exists_or, exists_eq_left, ← ih]
    rcases (parts.foldl addEntry empty).addEntry_cases part with
      ⟨value, hfield, heq⟩ | ⟨value, hfield, heq⟩ | ⟨-, hv, heq⟩
    · have hv : ¬ IsField ['v', '1'] code (trimChars part) := fun h =>
        absurd (hfield.unique h).1 (by decide)
      rw [heq, or_iff_left hv]
    · have hcode : IsField ['v', '1'] code (trimChars part) ↔ code = value :=
        ⟨fun h => (h.unique hfield).2, fun h => h ▸ hfield⟩
      rw [heq, hcode, List.mem_append, List.mem_singleton]
    · rw [heq, or_iff_left (hv code)]

theorem time_read_eq_some_iff {header : String} {time : Int} :
    (read header).time = some time ↔ Carries header time := by
  have range : Decimal.fitsSigned 64 time = true ↔ IsInt64 time := by
    rw [Decimal.fitsSigned, Bool.and_eq_true, decide_eq_true_eq, decide_eq_true_eq]
    rfl
  simp only [read, time_foldl_eq_some_iff, Decimal.readInt64?_eq_some_iff, range]
  rfl

theorem mem_candidates_read_iff {header : String} {code : List Char} :
    code ∈ (read header).candidates ↔ Offers header code :=
  mem_candidates_foldl_iff

end Header

theorem Carries.unique {header : String} {time time' : Int} (h : Carries header time)
    (h' : Carries header time') : time = time' :=
  Option.some.inj
    ((Header.time_read_eq_some_iff.2 h).symm.trans (Header.time_read_eq_some_iff.2 h'))

/-! ### Verification -/

/-- A header signs a payload, as seen at a given time: it carries a time close enough, and it offers
the authentication code of that time, a point and the payload, in hexadecimal digits of either
case. -/
def WellSigned (payload header secret : String) (now tolerance : Int) : Prop :=
  ∃ time, Carries header time ∧ (now - time).natAbs ≤ tolerance.natAbs ∧
    ∃ code, Offers header code ∧ code.map Char.toLower =
      Hex.encode (Hash.Hmac.code (utf8 secret) (utf8 (toString time ++ "." ++ payload)))

theorem signedText_eq (time : Int) (payload : String) :
    signedText time payload = toString time ++ "." ++ payload := by
  have digits : String.ofList (Decimal.writeInt time) = toString time := by
    cases time with
    | ofNat n => rfl
    | negSucc n => exact String.ofList_cons
  rw [signedText, ← digits]
  apply String.toList_inj.1
  simp

theorem verify_eq_ok_iff {payload header secret : String} {now tolerance : Int} :
    verify payload header secret now tolerance = .ok () ↔
      WellSigned payload header secret now tolerance := by
  have candidate (code : List Char) (time : Int) :
      (Hex.decode? code == some (mac secret time payload)) = true ↔ code.map Char.toLower =
        Hex.encode (Hash.Hmac.code (utf8 secret) (utf8 (toString time ++ "." ++ payload))) := by
    rw [beq_iff_eq, Hex.decode?_eq_some_iff, mac, signedText_eq]
  unfold verify
  dsimp only
  cases htime : (Header.read header).time with
  | none =>
    refine iff_of_false (by simp) ?_
    rintro ⟨time, hcarries, -⟩
    rw [Header.time_read_eq_some_iff.2 hcarries] at htime
    cases htime
  | some time =>
    have hcarries := Header.time_read_eq_some_iff.1 htime
    constructor
    · intro h
      dsimp only at h
      split at h
      · cases h
      · next hclose =>
        split at h
        · next hany =>
          obtain ⟨code, hmem, hcode⟩ := List.any_eq_true.1 hany
          exact ⟨time, hcarries, Nat.le_of_not_gt hclose, code,
            Header.mem_candidates_read_iff.1 hmem, (candidate code time).1 hcode⟩
        · cases h
    · rintro ⟨time', hcarries', hclose, code, hoffers, hcode⟩
      obtain rfl := hcarries.unique hcarries'
      dsimp only
      rw [if_neg (Nat.not_lt_of_ge hclose), if_pos]
      exact List.any_eq_true.2
        ⟨code, Header.mem_candidates_read_iff.2 hoffers, (candidate code time).2 hcode⟩

/-- There is one way to be refused. -/
theorem verify_error {payload header secret : String} {now tolerance : Int} {e : BillingError}
    (h : verify payload header secret now tolerance = .error e) : e = .signatureInvalid := by
  unfold verify at h
  dsimp only at h
  split at h
  · cases h
    rfl
  · split at h
    · cases h
      rfl
    · split at h
      · cases h
      · cases h
        rfl

/-! ### Signing -/

section Sign

/-- The parts of a header made by signing. -/
def signedParts (payload secret : String) (time : Int) : List (List Char) :=
  ['t' :: '=' :: Decimal.writeInt time,
    'v' :: '1' :: '=' :: Hex.encode (mac secret time payload)]

variable {payload secret : String} {time : Int}

theorem sign_eq_ofParts : sign payload secret time = ofParts (signedParts payload secret time) := by
  rw [sign, ofParts, signedParts]
  simp

/-- What signing writes neither ends a part nor is trimmed. -/
theorem plain_of_mem_signedParts {part : List Char} {c : Char}
    (hpart : part ∈ signedParts payload secret time) (hc : c ∈ part) :
    44 < c.toNat ∧ c.toNat < 0x7F := by
  have letters : ∀ d ∈ ['t', '=', 'v', '1'], 44 < d.toNat ∧ d.toNat < 0x7F := by simp
  simp only [signedParts, List.mem_cons, List.not_mem_nil, or_false] at hpart
  rcases hpart with rfl | rfl
  · simp only [List.mem_cons] at hc
    rcases hc with rfl | rfl | hc
    · exact letters _ (by simp)
    · exact letters _ (by simp)
    · have := Decimal.toNat_of_mem_writeInt hc
      omega
  · simp only [List.mem_cons] at hc
    rcases hc with rfl | rfl | rfl | hc
    · exact letters _ (by simp)
    · exact letters _ (by simp)
    · exact letters _ (by simp)
    · have := Hex.toNat_of_mem_encode hc
      omega

theorem parts_sign : parts (sign payload secret time) = signedParts payload secret time := by
  rw [sign_eq_ofParts]
  refine parts_ofParts (fun part hpart hcomma => ?_) (List.cons_ne_nil _ _)
  -- The comma is character 44.
  exact absurd (plain_of_mem_signedParts hpart hcomma).1 (by decide)

theorem entries_sign : entries (sign payload secret time) = signedParts payload secret time := by
  rw [entries, parts_sign]
  refine (List.map_congr_left fun part hpart => trimChars_of_forall fun c hc => ?_).trans
    (List.map_id _)
  have := plain_of_mem_signedParts hpart hc
  exact isBlank_eq_false (by omega)

/-- A header made by signing carries its time. -/
theorem carries_sign (ht : IsInt64 time) : Carries (sign payload secret time) time := by
  refine ⟨Decimal.writeInt time, ?_, Decimal.denotes_writeInt time, ht⟩
  rw [entries_sign]
  refine ⟨[], _, _, rfl, isField_t_iff.2 rfl, fun e he v hfield => ?_⟩
  rw [List.mem_singleton.1 he, isField_t_iff] at hfield
  cases hfield

/-- It offers one code. -/
theorem offers_sign_iff {code : List Char} :
    Offers (sign payload secret time) code ↔ code = Hex.encode (mac secret time payload) := by
  rw [Offers, entries_sign]
  constructor
  · rintro ⟨entry, hentry, hfield⟩
    rw [isField_v1_iff] at hfield
    simp only [signedParts, List.mem_cons, List.not_mem_nil, or_false] at hentry
    rcases hentry with rfl | rfl
    · cases hfield
    · cases hfield
      rfl
  · rintro rfl
    exact ⟨_, List.mem_cons_of_mem _ List.mem_cons_self, isField_v1_iff.2 rfl⟩

/-- So it is good for its payload exactly as long as its time is. -/
theorem wellSigned_sign_iff {now tolerance : Int} (ht : IsInt64 time) :
    WellSigned payload (sign payload secret time) secret now tolerance ↔
      (now - time).natAbs ≤ tolerance.natAbs := by
  have hcarries : Carries (sign payload secret time) time := carries_sign ht
  constructor
  · rintro ⟨time', hcarries', hclose, -⟩
    rwa [hcarries.unique hcarries']
  · intro hclose
    refine ⟨time, hcarries, hclose, _, offers_sign_iff.2 rfl, ?_⟩
    rw [← signedText_eq, ← mac, ← Hex.decode?_eq_some_iff, Hex.decode?_encode]

end Sign

/-! ### Distances in 64-bit words -/

/-- The distance of two signed words as an unsigned one. -/
def absDiff (a b : Int64) : UInt64 :=
  if a < b then b.toUInt64 - a.toUInt64 else a.toUInt64 - b.toUInt64

/-- The absolute value of a signed word as an unsigned one. -/
def unsignedAbs (a : Int64) : UInt64 :=
  a.abs.toUInt64

/-- A signed word and its bits. -/
theorem toInt_eq_bits (a : Int64) : a.toInt =
    if a.toUInt64.toNat < 2 ^ 63 then (a.toUInt64.toNat : Int) else a.toUInt64.toNat - 2 ^ 64 := by
  have half : 2 * a.toBitVec.toNat < 2 ^ 64 ↔ a.toUInt64.toNat < 2 ^ 63 := by
    show 2 * a.toUInt64.toNat < 2 ^ 64 ↔ _
    omega
  have h : a.toInt = _ := BitVec.toInt_eq_toNat_cond a.toBitVec
  rw [h]
  simp only [half]
  rfl

/-- The subtraction never wraps around below zero. -/
theorem toNat_absDiff (a b : Int64) : (absDiff a b).toNat = (a.toInt - b.toInt).natAbs := by
  have ha := toInt_eq_bits a
  have hb := toInt_eq_bits b
  have ha' := a.toUInt64.toNat_lt
  have hb' := b.toUInt64.toNat_lt
  unfold absDiff
  split
  · next hlt =>
    have hlt := Int64.lt_iff_toInt_lt.1 hlt
    rw [UInt64.toNat_sub]
    split at ha <;> split at hb <;> omega
  · next hle =>
    have hle := mt Int64.lt_iff_toInt_lt.2 hle
    rw [UInt64.toNat_sub]
    split at ha <;> split at hb <;> omega

/-- The least word has no negative, but the bits of its absolute value are right. -/
theorem toNat_unsignedAbs (a : Int64) : (unsignedAbs a).toNat = a.toInt.natAbs := by
  have h : (unsignedAbs a).toNat = a.toBitVec.abs.toNat := rfl
  have hbits : a.toBitVec.toNat = a.toUInt64.toNat := rfl
  rw [h, BitVec.toNat_abs, BitVec.msb_eq_decide, hbits]
  simp only [decide_eq_true_eq]
  have ha := toInt_eq_bits a
  have hlt := a.toUInt64.toNat_lt
  split at ha
  · rw [if_neg (by omega)]
    omega
  · rw [if_pos (by omega)]
    omega

/-- What was signed is accepted within the tolerance and refused beyond it. Distance and tolerance are
those of the integers, and so they are when they are computed in 64-bit words, whichever these are. -/
theorem verify_sign (payload secret : String) (time now tolerance : Int64) :
    (verify payload (sign payload secret time.toInt) secret now.toInt tolerance.toInt =
      if (now.toInt - time.toInt).natAbs ≤ tolerance.toInt.natAbs then .ok ()
      else .error .signatureInvalid) ∧
    (absDiff now time ≤ unsignedAbs tolerance ↔
      (now.toInt - time.toInt).natAbs ≤ tolerance.toInt.natAbs) := by
  constructor
  · have hiff : verify payload (sign payload secret time.toInt) secret now.toInt tolerance.toInt =
        .ok () ↔ (now.toInt - time.toInt).natAbs ≤ tolerance.toInt.natAbs :=
      verify_eq_ok_iff.trans (wellSigned_sign_iff ⟨time.le_toInt, time.toInt_lt⟩)
    split
    · next hclose => exact hiff.2 hclose
    · next hfar =>
      cases h : verify payload (sign payload secret time.toInt) secret now.toInt tolerance.toInt with
      | ok u => exact absurd (hiff.1 h) hfar
      | error e => rw [verify_error h]
  · rw [UInt64.le_iff_toNat_le, toNat_absDiff, toNat_unsignedAbs]

/-! ### Further entries -/

/-- A list with further elements, all with a property, in between. -/
inductive Inserted {α : Type} (P : α → Prop) : List α → List α → Prop where
  /-- Nothing is left. -/
  | done : Inserted P [] []
  /-- The next element was there before. -/
  | keep {a : α} {old new : List α} : Inserted P old new → Inserted P (a :: old) (a :: new)
  /-- The next element is a further one. -/
  | insert {a : α} {old new : List α} (ha : P a) : Inserted P old new → Inserted P old (a :: new)

namespace Inserted

variable {α β : Type} {P : α → Prop} {old new : List α}

theorem map {Q : β → Prop} {f : α → β} (hf : ∀ a, P a → Q (f a)) (h : Inserted P old new) :
    Inserted Q (old.map f) (new.map f) := by
  induction h with
  | done => exact .done
  | keep _ ih => exact .keep ih
  | insert ha _ ih => exact .insert (hf _ ha) ih

theorem sublist (h : Inserted P old new) : old.Sublist new := by
  induction h with
  | done => exact .slnil
  | keep _ ih => exact ih.cons_cons _
  | insert _ _ ih => exact ih.cons _

theorem mem_or {a : α} (h : Inserted P old new) (ha : a ∈ new) : a ∈ old ∨ P a := by
  induction h with
  | done => exact .inl ha
  | keep _ ih =>
    rcases List.mem_cons.1 ha with rfl | ha
    · exact .inl List.mem_cons_self
    · exact (ih ha).imp_left (List.mem_cons_of_mem _)
  | insert hb _ ih =>
    rcases List.mem_cons.1 ha with rfl | ha
    · exact .inr hb
    · exact ih ha

/-- The last field with a key stays the last one if the further entries do not have the key. -/
theorem lastField {key value : List Char} {old new : List (List Char)}
    (h : Inserted (fun e => ∀ v, ¬ IsField key v e) old new) (hlast : LastField key value old) :
    LastField key value new := by
  induction h with
  | done => exact hlast
  | @keep a old new hins ih =>
    obtain ⟨before, entry, after, heq, hfield, hafter⟩ := hlast
    -- The last field is the element that is kept, or it comes later.
    rcases List.cons_eq_append_iff.1 heq with ⟨rfl, hcons⟩ | ⟨before, rfl, rfl⟩
    · obtain ⟨rfl, rfl⟩ := List.cons.inj hcons
      refine ⟨[], entry, new, rfl, hfield, fun e he => ?_⟩
      exact (hins.mem_or he).elim (hafter e) id
    · obtain ⟨before', entry', after', rfl, hlast'⟩ := ih ⟨before, entry, after, rfl, hfield, hafter⟩
      exact ⟨a :: before', entry', after', rfl, hlast'⟩
  | @insert a old new _ _ ih =>
    obtain ⟨before, entry, after, rfl, hlast'⟩ := ih hlast
    exact ⟨a :: before, entry, after, rfl, hlast'⟩

end Inserted

/-- An entry that can be added to a header: it has no comma and, trimmed, does not begin like a
time. -/
def Harmless (part : List Char) : Prop :=
  ',' ∉ part ∧ ¬ ['t', '='] <+: trimChars part

theorem entries_inserted {header : String} {new : List (List Char)}
    (h : Inserted Harmless (parts header) new) :
    Inserted (fun e => ∀ v, ¬ IsField ['t'] v e) (entries header) (entries (ofParts new)) := by
  have hcomma : ∀ part ∈ new, ',' ∉ part := fun part hpart =>
    (h.mem_or hpart).elim notMem_of_mem_splitAtEach (·.1)
  have ne : new ≠ [] := by
    rintro rfl
    exact splitWhere_ne_nil _ _ (List.sublist_nil.1 h.sublist)
  rw [entries, entries, parts_ofParts hcomma ne]
  refine h.map fun part hpart v hfield => hpart.2 ?_
  rw [isField_t_iff.1 hfield]
  exact ⟨v, rfl⟩

/-- A header stays good with further entries. -/
theorem WellSigned.inserted {payload header secret : String} {now tolerance : Int}
    {new : List (List Char)} (h : WellSigned payload header secret now tolerance)
    (hnew : Inserted Harmless (parts header) new) :
    WellSigned payload (ofParts new) secret now tolerance := by
  have hentries := entries_inserted hnew
  obtain ⟨time, ⟨value, hlast, hvalue⟩, hclose, code, ⟨entry, hentry, hfield⟩, hcode⟩ := h
  exact ⟨time, ⟨value, hentries.lastField hlast, hvalue⟩, hclose, code,
    ⟨entry, hentries.sublist.mem hentry, hfield⟩, hcode⟩

/-- Exactly the well-signed headers are accepted, and they are with further entries too. -/
theorem accepted_iff_wellSigned (payload header secret : String) (now tolerance : Int) :
    (verify payload header secret now tolerance = .ok () ↔
      WellSigned payload header secret now tolerance) ∧
    ∀ new, Inserted Harmless (parts header) new →
      verify payload header secret now tolerance = .ok () →
      verify payload (ofParts new) secret now tolerance = .ok () := by
  refine ⟨verify_eq_ok_iff, fun new hnew hok => ?_⟩
  exact verify_eq_ok_iff.2 ((verify_eq_ok_iff.1 hok).inserted hnew)

/-- An unknown scheme before the time, a wrong code after it and an empty entry at the end. -/
theorem accepted_iff_wellSigned_of_rolled :
    let header := sign "" "whsec_1" 0
    let code := 'v' :: '1' :: '=' :: Hex.encode (mac "whsec_1" 0 "")
    let new := ["v0=ab".toList, "t=0".toList, " v1=00".toList, code, []]
    Inserted Harmless (parts header) new ∧ verify "" header "whsec_1" 0 300 = .ok () ∧
      verify "" (ofParts new) "whsec_1" 0 300 = .ok () := by
  intro header code new
  have hnew : Inserted Harmless (parts header) new := by
    rw [show parts header = ["t=0".toList, code] from parts_sign]
    refine .insert ?_ (.keep (.insert ?_ (.keep (.insert ?_ .done)))) <;>
      exact ⟨by decide, by decide +kernel⟩
  have hok : verify "" header "whsec_1" 0 300 = .ok () :=
    verify_eq_ok_iff.2 ((wellSigned_sign_iff ⟨by decide, by decide⟩).2 (by decide))
  exact ⟨hnew, hok, (accepted_iff_wellSigned "" header "whsec_1" 0 300).2 new hnew hok⟩

end OrgBilling.Signature
