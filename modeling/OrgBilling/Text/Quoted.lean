import OrgBilling.Text.Escaped

/-!
# Quoted text

The form in which a text is shown inside a diagnostic message: between double quotes, with the
characters that would be ambiguous or invisible there written as escapes. `\t`, `\n`, `\r` and `\0`
have short forms; every other character of `escapedClass` is written by its code point in
hexadecimal, as in `\u{200b}`.
-/

namespace OrgBilling.Text

/-- A natural number in lower-case hexadecimal. -/
def hexOfNat (n : Nat) : List Char :=
  Nat.toDigits 16 n

/-- One character of a quoted text. -/
def quoteChar (c : Char) : List Char :=
  if c = '"' then ['\\', '"']
  else if c = '\\' then ['\\', '\\']
  else if c = '\t' then ['\\', 't']
  else if c = '\n' then ['\\', 'n']
  else if c = '\r' then ['\\', 'r']
  else if c.toNat = 0 then ['\\', '0']
  else if escapedClass.contains c then
    ['\\', 'u', '\x7b'] ++ hexOfNat c.toNat ++ ['\x7d']
  else [c]

/-- A text between double quotes, with its special characters escaped. -/
def quoted (s : String) : String :=
  String.ofList ('"' :: s.toList.flatMap quoteChar ++ ['"'])

end OrgBilling.Text
