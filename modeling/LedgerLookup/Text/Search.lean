/-!
# Occurrence in a text

Whether one text stands somewhere inside another, letter by letter and without regard to what is
around it.
-/

namespace LedgerLookup.Text

/-- Whether `needle` occurs in a text as a contiguous run. -/
def occurs (needle : List Char) : List Char → Bool
  | [] => needle.isEmpty
  | c :: rest => needle.isPrefixOf (c :: rest) || occurs needle rest

/-- Whether a string occurs in another. -/
def occursIn (needle s : String) : Bool :=
  occurs needle.toList s.toList

end LedgerLookup.Text
