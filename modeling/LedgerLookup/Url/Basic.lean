import LedgerLookup.Text.Digits

/-!
# URLs

The parts of a URL in their written forms, and the URL that they make up.
-/

namespace LedgerLookup

/-- The path of a URL: segments after slashes, or a text that is no hierarchy. -/
inductive Url.Path where
  | segments (parts : List (List Char))
  | plain (text : List Char)
deriving DecidableEq

/-- Where a URL leads before its path: a host, which may be empty, with a user and a port.  The port
is present only if it is not the usual one of the scheme. -/
structure Url.Authority where
  user : List Char := []
  password : Option (List Char) := none
  host : List Char
  port : Option Nat := none
deriving DecidableEq

/-- A URL. -/
structure Url where
  scheme : List Char
  authority : Option Url.Authority
  path : Url.Path
  query : Option (List Char)
  fragment : Option (List Char)
deriving DecidableEq

namespace Url

/-- The kinds of schemes.  Special ones have domain names as hosts and backslashes for slashes; of
these, files need no host, and the others have a usual port. -/
inductive SchemeKind where
  | file
  | served (usualPort : Nat)
  | other
deriving DecidableEq, Repr

/-- The kind of a scheme. -/
def schemeKind (scheme : List Char) : SchemeKind :=
  if scheme = "file".toList then .file
  else if scheme = "http".toList ∨ scheme = "ws".toList then .served 80
  else if scheme = "https".toList ∨ scheme = "wss".toList then .served 443
  else if scheme = "ftp".toList then .served 21
  else .other

/-- Whether schemes of a kind are special. -/
def SchemeKind.isSpecial : SchemeKind → Bool
  | file | served _ => true
  | other => false

/-- The usual port of a kind. -/
def SchemeKind.usualPort? : SchemeKind → Option Nat
  | served port => some port
  | file | other => none

/-! ## Writing -/

/-- The text of a user before a host. -/
def Authority.userText (a : Authority) : List Char :=
  match a.password with
  | some p => a.user ++ ':' :: p ++ ['@']
  | none => if a.user.isEmpty then [] else a.user ++ ['@']

/-- The text of an authority after its two slashes. -/
def Authority.text (a : Authority) : List Char :=
  a.userText ++ a.host ++
    match a.port with
    | some n => ':' :: Text.digits n
    | none => []

/-- The text of a path. -/
def Path.text : Path → List Char
  | segments parts => parts.flatMap fun part => '/' :: part
  | plain text => text

/-- Whether a path would be read as an authority if it stood after a scheme. -/
def Path.looksLikeAuthority : Path → Bool
  | segments ([] :: _ :: _) => true
  | _ => false

/-- The text of a URL. -/
def text (u : Url) : String :=
  let front := match u.authority with
    | some a => '/' :: '/' :: a.text
    | none => if u.path.looksLikeAuthority then ['/', '.'] else []
  let query := match u.query with
    | some q => '?' :: q
    | none => []
  let fragment := match u.fragment with
    | some f => '#' :: f
    | none => []
  String.ofList (u.scheme ++ ':' :: front ++ u.path.text ++ query ++ fragment)

/-! ## Parts -/

/-- The host of a URL that has one. -/
def host? (u : Url) : Option (List Char) :=
  match u.authority with
  | some a => if a.host.isEmpty then none else some a.host
  | none => none

end Url

end LedgerLookup
