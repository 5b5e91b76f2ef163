import LedgerLookup.Text.Percent

/-!
# Escapes in URLs

Every part of a URL has its own set of ASCII characters that cannot stand in it as themselves.
Controls and everything beyond ASCII are escaped in all parts, and percent signs in none.
-/

namespace LedgerLookup.Url

/-- Escapes for the characters of a part of a URL that cannot stand there. -/
def escapeWhere (escaped : Char → Bool) (cs : List Char) : List Char :=
  cs.flatMap fun c =>
    if c.toNat < 0x20 || 0x7F ≤ c.toNat || escaped c then
      (Text.Utf8.encodeChar c).flatMap Text.Percent.escape
    else [c]

/-- No printable ASCII character is escaped in every part. -/
def escapedAnywhere (_ : Char) : Bool := false

/-- The ASCII characters that are escaped in a fragment. -/
def escapedInFragment (c : Char) : Bool := " \"<>`".toList.contains c

/-- The ASCII characters that are escaped in a query. -/
def escapedInQuery (c : Char) : Bool := " \"#<>".toList.contains c

/-- The ASCII characters that are escaped in the query of a URL with a special scheme. -/
def escapedInSpecialQuery (c : Char) : Bool := c == '\'' || escapedInQuery c

/-- The ASCII characters that are escaped in a path. -/
def escapedInPath (c : Char) : Bool := escapedInFragment c || "#?\x7b\x7d".toList.contains c

/-- The ASCII characters that are escaped in the name and password of a user. -/
def escapedInUser (c : Char) : Bool := escapedInPath c || "/:;=@[\\]^|".toList.contains c

end LedgerLookup.Url
