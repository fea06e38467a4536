import Mathlib.Data.List.TakeDrop
import OrgBilling.Provider.Api

/-!
# Queries say what they are meant to say

A query that is written with quoted values reads back as the clauses it was written from, with white
space around them or without (`parse_written`). So whatever stands in a name, an id or a currency,
the queries of the create-or-update rules have the clauses that they are meant to have
(`parse_productQuery` and `parse_priceQuery`).
-/

namespace OrgBilling.Provider.SearchQuery

open Text

/-- A clause as it is written, with its value quoted. -/
def written (c : Clause) : List Char :=
  c.1.toList ++ ':' :: (quoteValue c.2).toList

/-- Clauses as they are written, each after some text. -/
def writtenAll (cs : List (List Char × Clause)) : List Char :=
  cs.flatMap fun c => c.1 ++ written c.2

/-- The query that is written from clauses, each after some text, with some text at the end. -/
def queryOf (cs : List (String × Clause)) (last : String) : String :=
  cs.foldr (fun c rest => c.1 ++ c.2.1 ++ ":" ++ quoteValue c.2.2 ++ rest) last

theorem toList_queryOf (cs : List (String × Clause)) (last : String) :
    (queryOf cs last).toList = writtenAll (cs.map fun c => (c.1.toList, c.2)) ++ last.toList := by
  induction cs with
  | nil => rfl
  | cons c cs ih =>
    have step : queryOf (c :: cs) last =
        c.1 ++ c.2.1 ++ ":" ++ quoteValue c.2.2 ++ queryOf cs last := rfl
    have colon : ":".toList = [':'] := rfl
    rw [step, String.toList_append, ih]
    simp only [String.toList_append, colon, writtenAll, written, List.map_cons, List.flatMap_cons,
      List.append_assoc, List.cons_append, List.nil_append]

theorem isBlank_colon : isBlank ':' = false := by decide

theorem isBlank_space : isBlank ' ' = true := by decide

theorem trimLeft_append {blank cs : List Char} (h : ∀ c ∈ blank, isBlank c = true) :
    trimLeft (blank ++ cs) = trimLeft cs :=
  List.dropWhile_append_of_pos h

/-- A field does not start with white space. -/
theorem trimLeft_field {field : List Char} (h : ∀ c ∈ field, isFieldChar c = true)
    (rest : List Char) : trimLeft (field ++ ':' :: rest) = field ++ ':' :: rest := by
  cases field with
  | nil => exact trimLeft_cons_of_not_isBlank isBlank_colon
  | cons c cs =>
    have hc : isFieldChar c = true := h c (List.mem_cons_self ..)
    refine trimLeft_cons_of_not_isBlank ?_
    simpa [isFieldChar] using (Bool.and_eq_true_iff.1 hc).2

theorem span_field {field : List Char} (h : ∀ c ∈ field, isFieldChar c = true) (rest : List Char) :
    (field ++ ':' :: rest).span isFieldChar = (field, ':' :: rest) := by
  have colon : isFieldChar ':' = false := rfl
  rw [List.span_eq_takeWhile_dropWhile, List.takeWhile_append_of_pos h,
    List.dropWhile_append_of_pos h]
  simp [colon]

/-- A written clause reads back as itself, whatever follows. -/
theorem readClause?_written {c : Clause} (h : ∀ x ∈ c.1.toList, isFieldChar x = true)
    (rest : List Char) : readClause? (written c ++ rest) = some (c, rest) := by
  have hwritten : written c ++ rest =
      c.1.toList ++ ':' :: '"' :: (escape c.2.toList ++ '"' :: rest) := by
    simp [written, quoteValue]
  rw [hwritten, readClause?, trimLeft_field h, span_field h]
  simp [readValue, readQuoted_escape]

theorem readClause?_blank {blank cs : List Char} (h : ∀ c ∈ blank, isBlank c = true) :
    readClause? (blank ++ cs) = readClause? cs := by
  rw [readClause?, trimLeft_append h, readClause?]

theorem readClauses_blank {blank : List Char} (h : ∀ c ∈ blank, isBlank c = true) (n : Nat) :
    readClauses n blank = [] := by
  cases n with
  | zero => rfl
  | succ n =>
    have : readClause? blank = none := by
      rw [← List.append_nil blank, readClause?_blank h]
      rfl
    rw [readClauses, this]

theorem readClauses_writtenAll {cs : List (List Char × Clause)} {blank : List Char}
    (blanks : ∀ c ∈ cs, ∀ x ∈ c.1, isBlank x = true)
    (fields : ∀ c ∈ cs, ∀ x ∈ c.2.1.toList, isFieldChar x = true)
    (last : ∀ x ∈ blank, isBlank x = true) {n : Nat} (hn : cs.length ≤ n) :
    readClauses n (writtenAll cs ++ blank) = cs.map (·.2) := by
  induction cs generalizing n with
  | nil => exact readClauses_blank last n
  | cons c cs ih =>
    obtain ⟨hblank, blanks⟩ := List.forall_mem_cons.1 blanks
    obtain ⟨hfield, fields⟩ := List.forall_mem_cons.1 fields
    obtain ⟨n, rfl⟩ : ∃ m, n = m + 1 := ⟨n - 1, by simp at hn; omega⟩
    have hread : readClause? (writtenAll (c :: cs) ++ blank) =
        some (c.2, writtenAll cs ++ blank) := by
      rw [writtenAll, List.flatMap_cons, List.append_assoc, List.append_assoc,
        readClause?_blank hblank, readClause?_written hfield, writtenAll]
    rw [readClauses, hread]
    exact congrArg (c.2 :: ·) (ih blanks fields (by simpa using hn))

theorem length_le_writtenAll (cs : List (List Char × Clause)) :
    cs.length ≤ (writtenAll cs).length := by
  induction cs with
  | nil => exact Nat.le_refl _
  | cons c cs ih =>
    simp only [writtenAll, List.flatMap_cons, written, List.length_append, List.length_cons] at ih ⊢
    omega

/-- Clauses that are written with quoted values, with white space around them or without, read back
as themselves. -/
theorem parse_written {query : String} {cs : List (List Char × Clause)} {blank : List Char}
    (h : query.toList = writtenAll cs ++ blank) (blanks : ∀ c ∈ cs, ∀ x ∈ c.1, isBlank x = true)
    (fields : ∀ c ∈ cs, ∀ x ∈ c.2.1.toList, isFieldChar x = true)
    (last : ∀ x ∈ blank, isBlank x = true) : parse query = cs.map (·.2) := by
  rw [parse, h]
  refine readClauses_writtenAll blanks fields last ?_
  rw [List.length_append]
  exact Nat.le_add_right_of_le (length_le_writtenAll cs)

end SearchQuery

/-! ### The queries of the create-or-update rules -/

open SearchQuery

theorem toList_productQuery (name : String) :
    (productQuery name).toList =
      writtenAll [([], ("active", "true")), ([' '], ("name", name))] := by
  have literal : "active:\"true\" name:".toList =
      written ("active", "true") ++ ' ' :: ("name".toList ++ [':']) := by decide +kernel
  show ("active:\"true\" name:" ++ quoteValue name).toList = _
  simp only [String.toList_append, literal, writtenAll, written, List.flatMap_cons,
    List.flatMap_nil, List.append_assoc, List.cons_append, List.nil_append, List.append_nil]

theorem toList_priceQuery (product currency : String) :
    (priceQuery product currency).toList =
      writtenAll [([], ("active", "true")), ([' '], ("product", product)),
        ([' '], ("currency", currency))] := by
  have first : "active:\"true\" product:".toList =
      written ("active", "true") ++ ' ' :: ("product".toList ++ [':']) := by decide +kernel
  have second : " currency:".toList = ' ' :: ("currency".toList ++ [':']) := by decide +kernel
  show ("active:\"true\" product:" ++ quoteValue product ++ " currency:" ++
    quoteValue currency).toList = _
  simp only [String.toList_append, first, second, writtenAll, written, List.flatMap_cons,
    List.flatMap_nil, List.append_assoc, List.cons_append, List.nil_append, List.append_nil]

theorem isFieldChar_active : ∀ c ∈ "active".toList, isFieldChar c = true :=
  List.all_eq_true.1 (by decide)

theorem parse_productQuery (name : String) :
    parse (productQuery name) = [("active", "true"), ("name", name)] := by
  have named : ∀ c ∈ "name".toList, isFieldChar c = true := List.all_eq_true.1 (by decide)
  refine parse_written ((toList_productQuery name).trans (List.append_nil _).symm) ?blanks ?fields
    (List.forall_mem_nil _)
  all_goals simp only [List.forall_mem_cons, List.not_mem_nil, false_imp_iff, implies_true,
    and_true, true_and]
  case blanks => exact isBlank_space
  case fields => exact ⟨isFieldChar_active, named⟩

theorem parse_priceQuery (product currency : String) :
    parse (priceQuery product currency) =
      [("active", "true"), ("product", product), ("currency", currency)] := by
  have ofProduct : ∀ c ∈ "product".toList, isFieldChar c = true := List.all_eq_true.1 (by decide)
  have inCurrency : ∀ c ∈ "currency".toList, isFieldChar c = true := List.all_eq_true.1 (by decide)
  refine parse_written ((toList_priceQuery product currency).trans (List.append_nil _).symm)
    ?blanks ?fields (List.forall_mem_nil _)
  all_goals simp only [List.forall_mem_cons, List.not_mem_nil, false_imp_iff, implies_true,
    and_true, true_and]
  case blanks => exact ⟨isBlank_space, isBlank_space⟩
  case fields => exact ⟨isFieldChar_active, ofProduct, inCurrency⟩

/-- A query says what it was written from. Clauses whose fields have no colon and no white space are
read back as they are, whatever their values are, with any white space before, between and after
them. So the queries of the create-or-update rules have the clauses that they are meant to have,
whatever stands in the name, the product's id and the currency. -/
theorem clauses_round_trip {cs : List (String × Clause)} {last : String}
    (blanks : ∀ c ∈ cs, Text.isAllBlank c.1 = true)
    (fields : ∀ c ∈ cs, ∀ x ∈ c.2.1.toList, x ≠ ':' ∧ Text.isBlank x = false)
    (lastBlank : Text.isAllBlank last = true) :
    parse (queryOf cs last) = cs.map (·.2) ∧
      (∀ name, parse (productQuery name) = [("active", "true"), ("name", name)]) ∧
      ∀ product currency, parse (priceQuery product currency) =
        [("active", "true"), ("product", product), ("currency", currency)] := by
  refine ⟨?_, parse_productQuery, parse_priceQuery⟩
  have read := parse_written (toList_queryOf cs last) ?blanks ?fields (List.all_eq_true.1 lastBlank)
  · rw [read, List.map_map]
    rfl
  case blanks => exact List.forall_mem_map.2 fun c hc => List.all_eq_true.1 (blanks c hc)
  case fields =>
    refine List.forall_mem_map.2 fun c hc x hx => ?_
    obtain ⟨hcolon, hblank⟩ := fields c hc x hx
    simp [isFieldChar, hcolon, hblank]

/-- Quotes, backslashes and colons in a value, and a clause right behind it. -/
theorem clauses_round_trip_of_hostile :
    parse (queryOf [("\n", ("name", "5\" \\: name:\"x\" \\")), ("", ("tag", ""))] " ") =
      [("name", "5\" \\: name:\"x\" \\"), ("tag", "")] := by
  have blanks : ∀ c ∈ [("\n", ("name", "5\" \\: name:\"x\" \\")), ("", ("tag", ""))],
      Text.isAllBlank c.1 = true := by decide
  have checked : ∀ c ∈ [("\n", ("name", "5\" \\: name:\"x\" \\")), ("", ("tag", ""))],
      c.2.1.toList.all isFieldChar = true := by decide
  have fields : ∀ c ∈ [("\n", ("name", "5\" \\: name:\"x\" \\")), ("", ("tag", ""))],
      ∀ x ∈ c.2.1.toList, x ≠ ':' ∧ Text.isBlank x = false := by
    intro c hc x hx
    simpa [isFieldChar] using List.all_eq_true.1 (checked c hc) x hx
  exact (clauses_round_trip blanks fields (by decide)).1

end OrgBilling.Provider
