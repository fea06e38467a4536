import OrgBilling.Url.Path
import Mathlib.Data.List.Infix

/-!
# What a path keeps of a text

A path that is sent (`requestPath`) is made from text in four steps: some characters are dropped, the
rest is cut at slashes of both kinds, the segments `.` and `..` are resolved, and reserved characters
are percent-encoded. The last step loses nothing, since what is encoded reads back (`decode_encode`),
but it leaves the percent signs of the text as they are, and the other steps each lose something.

A text behind the path of a collection is therefore found again as one segment exactly if it is plain
(`addresses_iff`): none of its characters is dropped or is a slash, its percent signs stand for
themselves, and it is neither `.` nor `..`. If it is not, some of its bytes are lost on the way, and
there is no segment that reads back as the text.
-/

namespace OrgBilling.Url

open Text Text.Percent

/-! ### Encoded segments -/

theorem isReserved_of_digit {c : Char} {n : Nat} (h : Hex.digitValue? c = some n) :
    isReserved c = false := by
  have reserved : '"'.toNat = 34 ∧ '#'.toNat = 35 ∧ '<'.toNat = 60 ∧ '>'.toNat = 62 ∧
    '?'.toNat = 63 ∧ '`'.toNat = 96 ∧ '\x7b'.toNat = 123 ∧ '\x7d'.toNat = 125 := by decide
  obtain ⟨hn, hlower⟩ := Hex.digitValue?_eq_some_iff.1 h
  have code := congrArg Char.toNat hlower
  rw [Hex.toNat_toLower, Hex.toNat_digit hn] at code
  simp only [isReserved, Bool.or_eq_false_iff, decide_eq_false_iff_not, beq_eq_false_iff_ne, ne_eq,
    ← Char.toNat_inj]
  split at code <;> split at code <;> omega

/-- A segment as the path holds it. -/
def encode (s : List Char) : List Char :=
  s.flatMap encodeChar

theorem encode_cons (c : Char) (s : List Char) : encode (c :: s) = encodeChar c ++ encode s := rfl

theorem encode_cons_of_not_isReserved {c : Char} (h : isReserved c = false) (s : List Char) :
    encode (c :: s) = c :: encode s := by
  rw [encode_cons, encodeChar, h, if_neg Bool.false_ne_true, List.singleton_append]

/-- The first character stays, or it is no digit and a percent sign comes in its place. -/
theorem encode_cons_cases (c : Char) (s : List Char) :
    encode (c :: s) = c :: encode s ∨
      Hex.digitValue? c = none ∧ ∃ rest, encode (c :: s) = '%' :: rest := by
  cases h : isReserved c with
  | false => exact .inl (encode_cons_of_not_isReserved h s)
  | true =>
    refine .inr ⟨?_, ?_⟩
    · cases hc : Hex.digitValue? c with
      | none => rfl
      | some n =>
        rw [isReserved_of_digit hc] at h
        cases h
    · rw [encode_cons, encodeChar, if_pos h]
      have pos := length_utf8_singleton_pos c
      cases hbytes : utf8 (String.singleton c) with
      | nil =>
        rw [hbytes, List.length_nil] at pos
        omega
      | cons b bytes => exact ⟨_, rfl⟩

/-- Two digits stand behind a character in the encoded text just if they do so in the text. -/
theorem isEscape_encode (c : Char) (s : List Char) :
    isEscape (c :: encode s) = isEscape (c :: s) := by
  match s with
  | [] => rfl
  | a :: s =>
    rcases encode_cons_cases a s with h | ⟨ha, rest, h⟩
    · rw [h]
      match s with
      | [] => rfl
      | b :: s =>
        rcases encode_cons_cases b s with h | ⟨hb, rest, h⟩
        · rw [h]
          rfl
        · rw [h, isEscape_of_second digitValue?_percent, isEscape_of_second hb]
    · rw [h, isEscape_of_first digitValue?_percent, isEscape_of_first ha]

/-- An encoded text reads as the text does. -/
theorem decode_encode (s : List Char) : decode (encode s) = decode s := by
  induction s using induction_on_escapes with
  | nil => rfl
  | escape a b high low rest ha hb ih =>
    have percent : isReserved '%' = false := by decide
    rw [encode_cons_of_not_isReserved percent,
      encode_cons_of_not_isReserved (isReserved_of_digit ha),
      encode_cons_of_not_isReserved (isReserved_of_digit hb), decode_escape ha hb,
      decode_escape ha hb, ih]
  | plain c rest h ih =>
    rw [decode_cons h]
    cases hc : isReserved c with
    | false => rw [encode_cons_of_not_isReserved hc, decode_cons (by rw [isEscape_encode, h]), ih]
    | true => rw [encode_cons, encodeChar, if_pos hc, decode_flatMap_encodeByte, ih]

theorem slash_notMem_encodeByte (b : UInt8) : '/' ∉ encodeByte b := by
  have key : ∀ m : Fin 16, digit m.val ≠ '/' := by decide
  have hb : b.toNat < 256 := b.toNat_lt
  have high : digit (b.toNat / 16) ≠ '/' := key ⟨b.toNat / 16, by omega⟩
  have low : digit (b.toNat % 16) ≠ '/' := key ⟨b.toNat % 16, by omega⟩
  simp [encodeByte, high.symm, low.symm]

theorem slash_notMem_encode {s : List Char} (h : '/' ∉ s) : '/' ∉ encode s := by
  intro hmem
  obtain ⟨c, hc, hmem⟩ := List.mem_flatMap.1 hmem
  rw [encodeChar] at hmem
  split at hmem
  · obtain ⟨b, -, hb⟩ := List.mem_flatMap.1 hmem
    exact slash_notMem_encodeByte b hb
  · exact h (List.mem_singleton.1 hmem ▸ hc)

/-! ### Segments of points -/

/-- A segment that has no name: `.` is where it stands and `..` is one segment further up. -/
def IsDotSegment (s : List Char) : Prop :=
  undot s = ['.'] ∨ undot s = ['.', '.']

instance (s : List Char) : Decidable (IsDotSegment s) :=
  inferInstanceAs (Decidable (_ ∨ _))

theorem undot_of_isLiteral {s : List Char} (h : IsLiteral s) : undot s = s := by
  induction s with
  | nil => rfl
  | cons c s ih =>
    obtain ⟨escape, hs⟩ := isLiteral_cons_iff.1 h
    rw [undot.eq_def]
    split
    · next heq =>
      cases heq
      simp [isEscape, Hex.digitValue?] at escape
    · next heq =>
      cases heq
      simp [isEscape, Hex.digitValue?] at escape
    · next heq =>
      cases heq
      rw [ih hs]
    · next heq => cases heq

theorem resolve_cons {s : List Char} (h : ¬ IsDotSegment s) (kept rest : List (List Char)) :
    resolve kept (s :: rest) = resolve (encode s :: kept) rest := by
  obtain ⟨one, two⟩ := not_or.1 h
  rw [resolve, if_neg two, if_neg one]
  rfl

theorem resolve_append {front : List (List Char)} (h : ∀ s ∈ front, ¬ IsDotSegment s)
    (kept rest : List (List Char)) :
    resolve kept (front ++ rest) = resolve ((front.map encode).reverse ++ kept) rest := by
  induction front generalizing kept with
  | nil => rfl
  | cons s front ih =>
    obtain ⟨hs, hfront⟩ := List.forall_mem_cons.1 h
    rw [List.cons_append, resolve_cons hs, ih hfront, List.map_cons, List.reverse_cons,
      List.append_assoc, List.singleton_append]

/-- Two points take the name before them away. -/
theorem resolve_up {name : List Char} (h : isDrive name = false) (kept : List (List Char))
    {rest : List (List Char)} (ne : rest ≠ []) :
    resolve (name :: kept) (['.', '.'] :: rest) = resolve kept rest := by
  rw [resolve, if_pos (by decide)]
  simp [h, ne]

/-- The last segment of a text is the last one of the path, but for points the path ends with a
slash. -/
theorem exists_resolve_concat (kept front : List (List Char)) (s : List Char) :
    ∃ names, resolve kept (front ++ [s]) =
      names ++ [if IsDotSegment s then [] else encode s] := by
  induction front generalizing kept with
  | nil =>
    by_cases h : IsDotSegment s
    · rw [if_pos h, List.nil_append, resolve]
      rcases h with h | h
      · rw [h, if_neg (by decide), if_pos rfl]
        exact ⟨_, List.reverse_cons⟩
      · rw [h, if_pos rfl]
        exact ⟨_, List.reverse_cons⟩
    · rw [if_neg h, List.nil_append, resolve_cons h]
      exact ⟨_, List.reverse_cons⟩
  | cons t front ih =>
    rw [List.cons_append, resolve]
    split
    · exact ih _
    · split
      · exact ih _
      · exact ih _

/-! ### Paths -/

/-- The characters of a text that are not dropped. -/
def retained (cs : List Char) : List Char :=
  cs.filter fun c => !isDropped c

/-- The path through segments. -/
def through (names : List (List Char)) : List Char :=
  names.flatMap fun s => '/' :: s

theorem through_concat (names : List (List Char)) (s : List Char) :
    through (names ++ [s]) = through names ++ '/' :: s := by
  simp [through]

theorem segments_append_slash (cs ds : List Char) :
    segments (retained (cs ++ '/' :: ds)) = segments (retained cs) ++ segments (retained ds) := by
  have slash : isDropped '/' = false := by decide
  rw [retained, List.filter_append, List.filter_cons_of_pos (by rw [slash]; rfl), segments,
    splitWhere_append_cons (by decide)]
  rfl

theorem segments_up (cs : List Char) :
    segments (retained ('.' :: '.' :: '/' :: cs)) = ['.', '.'] :: segments (retained cs) :=
  segments_append_slash ['.', '.'] cs

theorem toList_requestPath {path : String} {front cs : List Char}
    (h : 'v' :: '1' :: '/' :: path.toList.dropWhile (· == '/') = front ++ '/' :: cs) :
    (requestPath path).toList =
      through (resolve [] (segments (retained front) ++ segments (retained cs))) := by
  rw [requestPath, h, ← segments_append_slash, String.toList_ofList]
  rfl

/-- A text that does not begin with a slash stands behind the version. -/
theorem toList_requestPath_of_head {path : String} (h : path.toList.head? ≠ some '/') :
    (requestPath path).toList =
      through (resolve [['v', '1']] (segments (retained path.toList))) := by
  have same : path.toList.dropWhile (· == '/') = path.toList := by
    cases hpath : path.toList with
    | nil => rfl
    | cons c cs =>
      rw [hpath, List.head?_cons] at h
      exact List.dropWhile_cons_of_neg (by simpa using h)
  have version : segments (retained ['v', '1']) = [['v', '1']] := by decide
  have split : 'v' :: '1' :: '/' :: path.toList.dropWhile (· == '/') =
      ['v', '1'] ++ '/' :: path.toList := by
    rw [same]
    rfl
  rw [toList_requestPath split, version, List.singleton_append, resolve_cons (by decide)]
  rfl

/-! ### Texts that name themselves -/

/-- A text of which a path loses nothing. -/
structure IsPlain (text : String) : Prop where
  /-- No character is dropped. -/
  retained : ∀ c ∈ text.toList, isDropped c = false
  /-- There is no slash of either kind. -/
  whole : ∀ c ∈ text.toList, c ≠ '/' ∧ c ≠ '\\'
  /-- Each percent sign stands for itself. -/
  literal : IsLiteral text.toList
  /-- The text is a name, be it an empty one. -/
  named : text ≠ "." ∧ text ≠ ".."

theorem isPlain_iff {text : String} :
    IsPlain text ↔ (text.toList.all fun c => !isDropped c && c != '/' && c != '\\') = true ∧
      IsLiteral text.toList ∧ text ≠ "." ∧ text ≠ ".." := by
  simp only [List.all_eq_true, Bool.and_eq_true, Bool.not_eq_true', bne_iff_ne]
  constructor
  · intro h
    exact ⟨fun c hc => ⟨⟨h.retained c hc, (h.whole c hc).1⟩, (h.whole c hc).2⟩, h.literal, h.named⟩
  · rintro ⟨chars, literal, named⟩
    exact ⟨fun c hc => (chars c hc).1.1, fun c hc => ⟨(chars c hc).1.2, (chars c hc).2⟩, literal,
      named⟩

instance (text : String) : Decidable (IsPlain text) :=
  decidable_of_iff _ isPlain_iff.symm

namespace IsPlain

variable {text : String}

theorem segments_eq (h : IsPlain text) : segments (Url.retained text.toList) = [text.toList] := by
  rw [Url.retained, List.filter_eq_self.2 fun c hc => by rw [h.retained c hc]; rfl]
  exact splitWhere_of_forall fun c hc => by simp [h.whole c hc]

theorem not_isDotSegment (h : IsPlain text) : ¬ IsDotSegment text.toList := by
  rw [IsDotSegment, undot_of_isLiteral h.literal]
  rintro (heq | heq)
  · exact h.named.1 (String.toList_inj.1 heq)
  · exact h.named.2 (String.toList_inj.1 heq)

theorem slash_notMem (h : IsPlain text) : '/' ∉ text.toList :=
  fun hmem => (h.whole '/' hmem).1 rfl

end IsPlain

/-- A path leads to what has an id in a collection: behind the path of the collection stands one
segment, and it reads as the id. -/
def Addresses (collection path id : String) : Prop :=
  ∃ segment : List Char, '/' ∉ segment ∧ path = collection ++ String.ofList segment ∧
    decode segment = utf8 id

/-- A path leads to one id at most. -/
theorem Addresses.unique {collection path id id' : String} (h : Addresses collection path id)
    (h' : Addresses collection path id') : id = id' := by
  obtain ⟨segment, -, rfl, hid⟩ := h
  obtain ⟨segment', -, heq, hid'⟩ := h'
  rw [String.append_right_inj, String.ofList_inj] at heq
  subst heq
  exact utf8_inj.1 (hid.symm.trans hid')

section Behind

variable {collection path id : String} {names : List (List Char)}

/-- Behind a collection, a plain text is a segment that reads as the text. -/
theorem IsPlain.addresses (h : IsPlain id)
    (hcollection : collection.toList = through names.reverse ++ ['/'])
    (hpath : path.toList = through (resolve names (segments (Url.retained id.toList)))) :
    Addresses collection path id := by
  refine ⟨encode id.toList, slash_notMem_encode h.slash_notMem, ?_, ?_⟩
  · rw [← String.toList_inj, String.toList_append, String.toList_ofList, hcollection,
      List.append_assoc, List.singleton_append, ← through_concat, hpath, h.segments_eq,
      resolve_cons h.not_isDotSegment, resolve, List.reverse_cons]
  · rw [decode_encode, decode_eq_utf8_iff.2 h.literal, String.ofList_toList]

/-- The segment behind a collection that reads as a text is the last one of the text, encoded. -/
theorem Addresses.exists_segment (h : Addresses collection path id)
    (hcollection : collection.toList = through names.reverse ++ ['/'])
    (hpath : path.toList = through (resolve names (segments (Url.retained id.toList)))) :
    ∃ s ∈ segments (Url.retained id.toList), ¬ IsDotSegment s ∧ decode s = utf8 id := by
  obtain ⟨segment, hsegment, hsplit, hdecode⟩ := h
  obtain ⟨front, s, hs⟩ : ∃ front s, segments (Url.retained id.toList) = front ++ [s] :=
    (List.eq_nil_or_concat' _).resolve_left (splitWhere_ne_nil _ _)
  have mem : s ∈ segments (Url.retained id.toList) := by
    rw [hs]
    exact List.mem_append_right front List.mem_cons_self
  have slash : '/' ∉ s := fun hmem => by simpa using forall_mem_splitWhere mem '/' hmem
  obtain ⟨names', hresolve⟩ := exists_resolve_concat names front s
  rw [← String.toList_inj, String.toList_append, String.toList_ofList, hcollection,
    List.append_assoc, List.singleton_append, hpath, hs, hresolve, through_concat] at hsplit
  by_cases dots : IsDotSegment s
  · -- The path ends with a slash, so the text is empty; but the empty text has no points.
    rw [if_pos dots, append_cons_inj_right (List.not_mem_nil) hsegment] at hsplit
    obtain rfl := hsplit.2
    have empty : id = "" := by
      rw [← utf8_inj, ← hdecode]
      rfl
    subst empty
    obtain rfl : s = [] := List.mem_singleton.1 mem
    exact absurd dots (by decide)
  · rw [if_neg dots, append_cons_inj_right (slash_notMem_encode slash) hsegment] at hsplit
    rw [← hsplit.2, decode_encode] at hdecode
    exact ⟨s, mem, dots, hdecode⟩

/-- A text that a segment of it reads as is that segment, and is plain. -/
theorem isPlain_of_segment {s : List Char} (mem : s ∈ segments (Url.retained id.toList))
    (dots : ¬ IsDotSegment s) (hdecode : decode s = utf8 id) : IsPlain id := by
  have sub : s.Sublist (Url.retained id.toList) := sublist_of_mem_splitWhere mem
  have sub' : (Url.retained id.toList).Sublist id.toList := List.filter_sublist
  -- Nothing has been left out, since reading adds no bytes.
  have all : s = id.toList := by
    refine eq_of_sublist_of_length_utf8 (sub.trans sub') ?_
    rw [String.ofList_toList, ← hdecode]
    exact length_decode_le s
  subst all
  have kept : Url.retained id.toList = id.toList := sub'.eq_of_length_le sub.length_le
  refine ⟨fun c hc => ?_, fun c hc => ?_, ?_, ?_, ?_⟩
  · simpa using List.filter_eq_self.1 kept c hc
  · simpa using forall_mem_splitWhere mem c hc
  · rw [← decode_eq_utf8_iff, String.ofList_toList, hdecode]
  · rintro rfl
    exact dots (by decide)
  · rintro rfl
    exact dots (by decide)

/-- Behind a collection, a text is found as one segment exactly if it is plain. -/
theorem addresses_iff (hcollection : collection.toList = through names.reverse ++ ['/'])
    (hpath : path.toList = through (resolve names (segments (Url.retained id.toList)))) :
    Addresses collection path id ↔ IsPlain id := by
  refine ⟨fun h => ?_, fun h => h.addresses hcollection hpath⟩
  obtain ⟨s, mem, dots, hdecode⟩ := h.exists_segment hcollection hpath
  exact isPlain_of_segment mem dots hdecode

end Behind

end OrgBilling.Url
