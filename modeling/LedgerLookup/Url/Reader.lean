import LedgerLookup.Url.Basic
import LedgerLookup.Url.Host
import LedgerLookup.Url.Path

/-!
# Reading URLs

A text is read as a URL in the way of the web: blanks around it and line breaks and tabs in it do
not count, a scheme comes first, and what follows is read according to the kind of the scheme.
Reading yields the written forms of the parts, so that two texts of one URL yield the same.
-/

namespace LedgerLookup.Url

open Text (breakAt)

/-- A text without the characters that are dropped before a URL is read. -/
def cleaned (cs : List Char) : List Char :=
  let blank := fun c : Char => c.toNat ≤ 0x20
  let cs := ((cs.dropWhile blank).reverse.dropWhile blank).reverse
  cs.filter fun c => c ≠ '\t' ∧ c ≠ '\n' ∧ c ≠ '\r'

/-- The scheme of a URL in lower case and what follows its colon. -/
def readScheme? (cs : List Char) : Option (List Char × List Char) :=
  let (scheme, rest) := breakAt (· == ':') cs
  let part := fun c : Char => c.isAlphanum || c == '+' || c == '-' || c == '.'
  match scheme.head?, rest with
  | some c, _ :: rest =>
    if c.isAlpha ∧ scheme.all part then some (scheme.map lower, rest) else none
  | _, _ => none

/-! ## Query and fragment -/

/-- The query and the fragment of a URL, the text starting at the mark of either. -/
def readTail (special : Bool) (cs : List Char) : Option (List Char) × Option (List Char) :=
  let (front, back) := breakAt (· == '#') cs
  let escaped := if special then escapedInSpecialQuery else escapedInQuery
  let query := match front with
    | '?' :: q => some (escapeWhere escaped q)
    | _ => none
  let fragment := match back with
    | _ :: f => some (escapeWhere escapedInFragment f)
    | [] => none
  (query, fragment)

/-! ## Authorities -/

/-- An authority cut at its last at sign: the user, if there is such a sign, and the rest. -/
def cutAtUser (authority : List Char) : Option (List Char) × List Char :=
  let host := (authority.reverse.takeWhile (· ≠ '@')).reverse
  if authority.contains '@' then (some (authority.take (authority.length - host.length - 1)), host)
  else (none, host)

/-- The name and password of a user.  An empty password is none. -/
def readUser (user : List Char) : List Char × Option (List Char) :=
  let (name, rest) := breakAt (· == ':') user
  let password := rest.drop 1
  (escapeWhere escapedInUser name,
    if password.isEmpty then none else some (escapeWhere escapedInUser password))

/-- The host of an authority and what follows it, from the colon before the port on.  Colons between
brackets belong to the host. -/
def cutAtPort (inBrackets : Bool) : List Char → List Char × List Char
  | [] => ([], [])
  | c :: rest =>
    if c = ':' ∧ !inBrackets then ([], c :: rest)
    else
      let (host, port) := cutAtPort (c == '[' || inBrackets && c != ']') rest
      (c :: host, port)

/-- The port after a host, unless it is the usual one, and what follows it, which can only be a
backslash that starts a path. -/
def readPort? (usual : Option Nat) : List Char → Option (Option Nat × List Char)
  | ':' :: cs =>
    let (ds, rest) := breakAt (fun c => !Text.isDigit c) cs
    let port := Text.readDigits? ds
    if port.any (65535 < ·) ∨ !rest.head?.all (· == '\\') then none
    else some (if port = usual then none else port, rest)
  | cs => some (none, cs)

/-- An authority and what follows its port, `followed` telling whether anything follows the text in
turn. -/
def readAuthority? (kind : SchemeKind) (followed : Bool) (cs : List Char) :
    Option (Authority × List Char) := do
  let (user, rest) := cutAtUser cs
  guard (¬(user = some [] ∧ rest.isEmpty ∧ followed))
  let (name, password) := readUser (user.getD [])
  let (hostText, portText) := cutAtPort false rest
  let host ← if kind.isSpecial then domainHost? hostText else plainHost? hostText
  guard (¬(host.isEmpty ∧ (!portText.isEmpty ∨ !name.isEmpty ∨ password.isSome)))
  let (port, rest) ← readPort? kind.usualPort? portText
  return (⟨name, password, host, port⟩, rest)

/-! ## The kinds of URLs -/

/-- The parts of a URL that stand before its query. -/
abbrev Front := Option Authority × Path

/-- The authority and path of a URL with a host, given what follows its two slashes; `more` tells
whether a query or fragment follows. -/
def readHosted? (kind : SchemeKind) (more : Bool) (cs : List Char) : Option Front := do
  let special := kind.isSpecial
  let (authorityText, pathText) := breakAt (isSlash special) cs
  let (authority, rest) ← readAuthority? kind (more || !pathText.isEmpty) authorityText
  let pathText := rest ++ pathText
  let segments :=
    if pathText.isEmpty && !special then [] else pathSegments special pathText
  return (some authority, .segments segments)

/-- The authority of a file URL on a host, which may be empty. -/
def fileAuthority (host : List Char) : Authority :=
  { host }

/-- The segments of the path of a file URL, given those that are written. -/
def fileSegments (raw : List (List Char)) : List (List Char) :=
  normalSegments true [] raw

/-- The authority and path of a file URL without a host, given the text of its path. -/
def fileWithoutHost (pathText : List Char) : Front :=
  (some (fileAuthority []),
    .segments (withoutEmptyFront (fileSegments (rawSegments true pathText))))

/-- The authority and path of a file URL that starts with two slashes, given what follows them.  A
drive in place of the host starts the path, and a drive at the start of the path leaves no host; the
host `localhost` is left out. -/
def readFileHost? (cs : List Char) : Option Front := do
  let (hostText, pathText) := breakAt (isSlash true) cs
  if isDrive hostText then return fileWithoutHost cs
  if hostText.isEmpty then return fileWithoutHost pathText
  let host ← domainHost? hostText
  if host = "localhost".toList then return fileWithoutHost pathText
  let segments := fileSegments (rawSegments true (afterSlash true pathText))
  let host := if segments.head?.any isDrive then [] else host
  return (some (fileAuthority host), .segments (withoutEmptyFront segments))

/-- The authority and path of a file URL, given what follows the colon of its scheme. -/
def readFile? (cs : List Char) : Option Front :=
  match cs with
  | a :: b :: rest =>
    if isSlash true a && isSlash true b then readFileHost? rest
    else some (fileWithoutHost (afterSlash true cs))
  | cs => some (fileWithoutHost (afterSlash true cs))

/-- The authority and path of a URL of a scheme that is not special, given what follows the colon of
the scheme. -/
def readOther? (more : Bool) (cs : List Char) : Option Front :=
  match cs with
  | '/' :: '/' :: rest => readHosted? .other more rest
  | '/' :: rest => some (none, .segments (normalSegments false [] (rawSegments false rest)))
  | text => some (none, .plain (escapeWhere escapedAnywhere text))

/-- The URL of a text. -/
def parse? (s : String) : Option Url := do
  let (scheme, rest) ← readScheme? (cleaned s.toList)
  let kind := schemeKind scheme
  let (front, tail) := breakAt (fun c => c == '?' || c == '#') rest
  let more := !tail.isEmpty
  let (authority, path) ← match kind with
    | .file => readFile? front
    | .served _ => readHosted? kind more (front.dropWhile (isSlash true))
    | .other => readOther? more front
  let (query, fragment) := readTail kind.isSpecial tail
  return ⟨scheme, authority, path, query, fragment⟩

end LedgerLookup.Url
