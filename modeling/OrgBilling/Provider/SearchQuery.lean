import OrgBilling.Text.Blank

/-!
# Search queries

The provider's objects are searched by clauses such as `active:"true" name:"Widgets"`, separated by
white space. A value may stand between double or single quotes, where a backslash takes the next
character as it is; without quotes it ends at white space.

`quoteValue` writes any text as a double-quoted value that reads back as that text, whatever follows
(`readQuoted_escape`).
-/

namespace OrgBilling.Provider.SearchQuery

/-- A clause of a query: a field and the value it must have. -/
abbrev Clause := String × String

/-- Characters with every `c` among them replaced by `replacement`. -/
def replace (c : Char) (replacement cs : List Char) : List Char :=
  cs.flatMap fun d => if d = c then replacement else [d]

/-- The characters of a text inside double quotes. Backslashes are doubled first, so that those in
front of the quotes stay single. -/
def escape (cs : List Char) : List Char :=
  replace '"' ['\\', '"'] (replace '\\' ['\\', '\\'] cs)

/-- A text as a double-quoted value. -/
def quoteValue (value : String) : String :=
  String.ofList ('"' :: escape value.toList ++ ['"'])

/-- The value in front up to the closing quote, and what follows it. A value that is not closed ends
with the query, and a backslash at the very end stands for nothing. -/
def readQuoted (quote : Char) : List Char → List Char × List Char
  | [] => ([], [])
  | '\\' :: c :: rest =>
    let (value, left) := readQuoted quote rest
    (c :: value, left)
  | ['\\'] => ([], [])
  | c :: rest =>
    if c = quote then ([], rest)
    else
      let (value, left) := readQuoted quote rest
      (c :: value, left)

/-- The value after a field's colon, and what follows it. -/
def readValue : List Char → List Char × List Char
  | '"' :: rest => readQuoted '"' rest
  | '\'' :: rest => readQuoted '\'' rest
  | cs => cs.span fun c => !Text.isBlank c

/-- A character of a field's name. -/
def isFieldChar (c : Char) : Bool :=
  c != ':' && !Text.isBlank c

/-- One clause, with white space allowed in front, and what follows it. Nothing if no colon ends the
field. -/
def readClause? (cs : List Char) : Option (Clause × List Char) :=
  let (field, rest) := (Text.trimLeft cs).span isFieldChar
  match rest with
  | ':' :: rest =>
    let (value, left) := readValue rest
    some ((String.ofList field, String.ofList value), left)
  | _ => none

/-- The clauses of a query, of which at most `steps` are read. -/
def readClauses : Nat → List Char → List Clause
  | 0, _ => []
  | steps + 1, cs =>
    match readClause? cs with
    | some (clause, left) => clause :: readClauses steps left
    | none => []

/-- The clauses of a query. Reading stops where no clause follows; each clause takes at least its
colon, so the number of characters bounds their number. -/
def parse (query : String) : List Clause :=
  readClauses query.toList.length query.toList

/-- The two replacements in one pass: a backslash comes in front of each backslash and each quote. -/
theorem escape_eq (cs : List Char) :
    escape cs = cs.flatMap fun c => if c = '\\' || c = '"' then ['\\', c] else [c] := by
  rw [escape, replace, replace, List.flatMap_assoc]
  congr 1
  funext c
  by_cases hs : c = '\\' <;> by_cases hq : c = '"' <;> simp_all

/-- A quoted text reads back as itself, whatever follows the closing quote. -/
theorem readQuoted_escape (cs rest : List Char) :
    readQuoted '"' (escape cs ++ '"' :: rest) = (cs, rest) := by
  induction cs with
  | nil => simp [escape, replace, readQuoted]
  | cons c cs ih =>
    have hcons : escape (c :: cs) =
        (if c = '\\' || c = '"' then ['\\', c] else [c]) ++ escape cs := by
      simp [escape_eq]
    rw [hcons]
    by_cases hs : c = '\\'
    · subst hs
      simp [readQuoted, ih]
    · by_cases hq : c = '"'
      · subst hq
        simp [readQuoted, ih]
      · simp only [hs, hq, decide_false, Bool.or_self, Bool.false_eq_true, if_false,
          List.cons_append, List.nil_append]
        rw [readQuoted]
        · simp [hq, ih]
        · intro d r h
          simp_all
        · intro h
          simp_all

end OrgBilling.Provider.SearchQuery
