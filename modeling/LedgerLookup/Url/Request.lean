import LedgerLookup.Url.Reader

/-!
# URLs of requests

The URL that a request goes to, and whether it can be sent there.
-/

namespace LedgerLookup.Url

/-- Whether a user stands before a host in a form that can be read, so that it can be sent in a
header. -/
def Authority.hasReadableUser (a : Authority) : Bool :=
  match Text.Percent.decode? a.user with
  | none => false
  | some name => !name.isEmpty || (a.password.bind Text.Percent.decode?).isSome

/-- An authority without a user that goes into a header. -/
def Authority.withoutUser (a : Authority) : Authority :=
  if a.hasReadableUser then { a with user := [], password := none } else a

/-- A URL without a user that goes into a header. -/
def withoutUser (u : Url) : Url :=
  { u with authority := u.authority.map Authority.withoutUser }

/-- A URL without its fragment, which stays with the sender. -/
def withoutFragment (u : Url) : Url :=
  { u with fragment := none }

/-- The longest URL that a request can be sent to. -/
def maxRequestLength : Nat := 65534

/-- The characters that may stand in the name of a host but not in that of a host to connect to. -/
def isUnreachable (c : Char) : Bool := "\"`\x7b\x7d".toList.contains c

/-- Whether the scheme of a URL is one of the web. -/
def isWeb (u : Url) : Bool :=
  u.scheme == "http".toList || u.scheme == "https".toList

/-- Whether a request can be written for a URL: it is not too long, and it has a host that can be
connected to. -/
def isWritable (u : Url) : Bool :=
  u.text.length ≤ maxRequestLength && u.host?.any fun host => !host.any isUnreachable

/-- Whether a request can be sent to a URL. -/
def isUsable (u : Url) : Bool :=
  u.isWeb && u.isWritable

end LedgerLookup.Url
