import OrgBilling.Url.Host
import OrgBilling.Url.Path

/-!
# Absolute URLs

Which texts are absolute URLs, by the URL standard, and so can be a client's base. A URL starts with
its scheme. Behind `//`, and always with the special schemes of the network, stands the authority: a
user's name and password before the last `@`, the host, and a port behind a colon. What follows the
authority is never wrong, so only the scheme and the authority decide.
-/

namespace OrgBilling.Url

/-- A character that ends an authority. -/
def endsAuthority (special : Bool) (c : Char) : Bool :=
  c == '/' || c == '?' || c == '#' || (special && c == '\\')

/-- A host and what stands behind it, from its colon on. A colon inside brackets is part of the
host. -/
def splitPort (bracketed : Bool) : List Char → List Char × List Char
  | [] => ([], [])
  | c :: cs =>
    if c = ':' && !bracketed then ([], c :: cs)
    else
      let (host, port) := splitPort (c == '[' || (bracketed && c != ']')) cs
      (c :: host, port)

/-- A port, which may be left out behind its colon. A backslash ends it with every scheme. -/
def isPort (cs : List Char) : Bool :=
  let digits := cs.takeWhile (· != '\\')
  digits.all Char.isDigit &&
    digits.foldl (fun n c => min (10 * n + (c.toNat - '0'.toNat)) (Nat.pow 2 16)) 0 < Nat.pow 2 16

/-- A host with an optional port. Without a host there is no port, and a URL with a special scheme
or with a user's name or password has a host. -/
def isHostAndPort (special hasCredentials : Bool) (cs : List Char) : Bool :=
  let (host, port) := splitPort false cs
  if host.isEmpty then !special && !hasCredentials && port.isEmpty
  else isHost special host && isPort (port.drop 1)

/-- What stands before and after the last `@`. -/
def splitUserInfo? (cs : List Char) : Option (List Char × List Char) :=
  if cs.contains '@' then
    let back := (cs.reverse.takeWhile (· != '@')).reverse
    some (cs.take (cs.length - back.length - 1), back)
  else none

/-- The text behind the slashes starts with an authority. An `@` without a user's name is passed
over, unless nothing but the path stands behind it; a colon alone is neither name nor password. -/
def startsWithAuthority (special : Bool) (cs : List Char) : Bool :=
  let authority := cs.takeWhile fun c => !endsAuthority special c
  match splitUserInfo? authority with
  | none => isHostAndPort special false authority
  | some ([], back) =>
    (!back.isEmpty || authority.length == cs.length) && isHostAndPort special false back
  | some (userInfo, back) => isHostAndPort special (userInfo != [':']) back

/-- A slash of either kind. -/
def isSlash (c : Char) : Bool :=
  c == '/' || c == '\\'

/-- The text behind the scheme of a file URL is well formed. Two slashes in front of it start a
host, which may be missing. -/
def isFileRest : List Char → Bool
  | c :: d :: cs =>
    if isSlash c && isSlash d then
      let host := cs.takeWhile fun c => !endsAuthority true c
      host.isEmpty || isDrive host || isHost true host
    else true
  | _ => true

/-- The special schemes of the network. -/
def networkSchemes : List String :=
  ["http", "https", "ws", "wss", "ftp"]

/-- The scheme in small letters, and what stands behind its colon. -/
def splitScheme? (cs : List Char) : Option (String × List Char) :=
  let isSchemeChar (c : Char) : Bool :=
    c.isAlpha || c.isDigit || c == '+' || c == '-' || c == '.'
  match cs.span (· != ':') with
  | (scheme, _ :: rest) =>
    if scheme.head?.any Char.isAlpha && scheme.all isSchemeChar then
      some (String.ofList (scheme.map Char.toLower), rest)
    else none
  | (_, []) => none

/-- A text without the white space and control characters around it and without the characters that
are dropped. -/
def trim (text : String) : List Char :=
  let isEdge (c : Char) : Bool := c.toNat ≤ 0x20
  (((text.toList.dropWhile isEdge).reverse.dropWhile isEdge).reverse).filter fun c => !isDropped c

/-- A text is an absolute URL. -/
def isAbsolute (text : String) : Bool :=
  match splitScheme? (trim text) with
  | none => false
  | some (scheme, rest) =>
    if networkSchemes.contains scheme then startsWithAuthority true (rest.dropWhile isSlash)
    else if scheme == "file" then isFileRest rest
    else
      match rest with
      | '/' :: '/' :: cs => startsWithAuthority false cs
      | _ => true

end OrgBilling.Url
