import OrgBilling.Text.Percent
import OrgBilling.Text.Split

/-!
# Paths of requests

The path that is sent when text is put behind the version prefix of a REST interface. Characters
that a path cannot hold are percent-encoded, percent signs stay as they are, and the segments `.`
and `..` are resolved, so a path says less about the text it was made from than its caller may
think.
-/

namespace OrgBilling.Url

/-- Characters that are dropped from a URL wherever they stand. -/
def isDropped (c : Char) : Bool :=
  c == '\t' || c == '\n' || c == '\r'

/-- The parts between slashes and backslashes. -/
def segments : List Char → List (List Char) :=
  Text.splitWhere fun c => c == '/' || c == '\\'

/-- A character that a path does not hold as it is. -/
def isReserved (c : Char) : Bool :=
  c.toNat < 0x21 || 0x7E < c.toNat || c == '"' || c == '#' || c == '<' || c == '>' || c == '?' ||
    c == '`' || c == '\x7b' || c == '\x7d'

/-- A character of a path, encoded where it has to be. -/
def encodeChar (c : Char) : List Char :=
  if isReserved c then (Text.utf8 (String.singleton c)).flatMap Text.Percent.encodeByte else [c]

/-- A segment with `%2e` in either case read as a point. -/
def undot : List Char → List Char
  | '%' :: '2' :: 'e' :: rest => '.' :: undot rest
  | '%' :: '2' :: 'E' :: rest => '.' :: undot rest
  | c :: rest => c :: undot rest
  | [] => []

/-- A drive, which stands where a file URL may have a host. -/
def isDrive : List Char → Bool
  | [letter, mark] => letter.isAlpha && (mark == ':' || mark == '|')
  | _ => false

/-- Walk over segments, with the ones kept so far in reverse. A segment `..` takes the one before it
away, unless that is a drive; after `.` or `..` at the end the path still ends with a slash. -/
def resolve (kept : List (List Char)) : List (List Char) → List (List Char)
  | [] => kept.reverse
  | s :: rest =>
    if undot s = ['.', '.'] then
      let kept := if kept.head?.any isDrive then kept else kept.drop 1
      resolve (if rest.isEmpty then [] :: kept else kept) rest
    else if undot s = ['.'] then resolve (if rest.isEmpty then [] :: kept else kept) rest
    else resolve (s.flatMap encodeChar :: kept) rest

/-- The path that is sent for a path of the interface. -/
def requestPath (path : String) : String :=
  let cs := ('v' :: '1' :: '/' :: path.toList.dropWhile (· == '/')).filter fun c => !isDropped c
  String.ofList ((resolve [] (segments cs)).flatMap fun s => '/' :: s)

end OrgBilling.Url
