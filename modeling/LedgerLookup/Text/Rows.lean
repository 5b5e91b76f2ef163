import LedgerLookup.Text.Percent
import LedgerLookup.Text.Pieces

/-!
# Tables written as text

A table of numbers is written as lines of rows with semicolons between them; a row is hexadecimal
numbers with spaces between them.  A set of code points is a table of ranges, each row of which
gives the first and the last code point of a range, or the only one.
-/

namespace LedgerLookup.Text.Rows

/-- The number that hexadecimal digits stand for. -/
def hexNumber (ds : List Char) : Nat :=
  ds.foldl (fun acc d => acc * 16 + (Percent.hexValue? d).getD 0) 0

/-- The rows of a line. -/
def readLine (line : String) : List (List Nat) :=
  (cutAt ';' line.toList).map fun row => (cutAt ' ' row).map hexNumber

/-- The rows of a table. -/
def read (lines : List String) : List (List Nat) :=
  lines.flatMap readLine

/-- A row as a range. -/
def range? : List Nat → Option (Nat × Nat)
  | [n] => some (n, n)
  | [low, high] => some (low, high)
  | _ => none

/-- The ranges of a table. -/
def ranges (lines : List String) : List (Nat × Nat) :=
  (read lines).filterMap range?

end LedgerLookup.Text.Rows

namespace LedgerLookup.Text

/-- Whether a number lies in one of several closed ranges. -/
def inRanges (ranges : List (Nat × Nat)) (n : Nat) : Bool :=
  ranges.any fun (low, high) => low ≤ n && n ≤ high

end LedgerLookup.Text
