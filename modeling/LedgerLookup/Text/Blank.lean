/-!
# Blank characters

White space in the sense of the Unicode property `White_Space`, and the trimming of a text at
either end.  Trimming removes the longest blank run at an end and nothing else.
-/

namespace LedgerLookup.Text

/-- Whether a character has the property `White_Space`: the ASCII blanks with vertical tab and form
feed, the next-line control, and the spaces and separators of the later blocks. -/
def isBlank (c : Char) : Bool :=
  let n := c.toNat
  (9 ≤ n && n ≤ 13) || n == 0x20 || n == 0x85 || n == 0xA0 || n == 0x1680 ||
    (0x2000 ≤ n && n ≤ 0x200A) || n == 0x2028 || n == 0x2029 || n == 0x202F || n == 0x205F ||
    n == 0x3000

/-- A text without the blanks at its start. -/
def trimStart (cs : List Char) : List Char :=
  cs.dropWhile isBlank

/-- A text without the characters at its end that satisfy `p`. -/
def trimEndWhile (p : Char → Bool) (cs : List Char) : List Char :=
  (cs.reverse.dropWhile p).reverse

/-- A text without the blanks at its end. -/
def trimEnd (cs : List Char) : List Char :=
  trimEndWhile isBlank cs

/-- A text without the blanks at either end. -/
def trim (cs : List Char) : List Char :=
  trimEnd (trimStart cs)

/-- A string without the blanks at either end. -/
def trimmed (s : String) : String :=
  String.ofList (trim s.toList)

/-- A string with every slash at its end removed, so that a path can be appended. -/
def withoutTrailingSlashes (s : String) : String :=
  String.ofList (trimEndWhile (· == '/') s.toList)

end LedgerLookup.Text
