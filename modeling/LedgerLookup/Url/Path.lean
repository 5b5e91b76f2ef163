import LedgerLookup.Text.Pieces
import LedgerLookup.Url.Escape

/-!
# Paths of URLs

The segments of a path in their written form.  The segments `.` and `..` are removed as they are
read, the latter with the segment before it unless that looks like a drive; where one of them stands
last an empty segment takes its place.
-/

namespace LedgerLookup.Url

/-- An ASCII letter in lower case; other characters stay. -/
def lower (c : Char) : Char :=
  if 'A' ≤ c ∧ c ≤ 'Z' then Char.ofNat (c.toNat + 32) else c

/-- Whether a segment stands for the directory itself. -/
def isSingleDot (segment : List Char) : Bool :=
  [".", "%2e"].contains (String.ofList (segment.map lower))

/-- Whether a segment stands for the directory above. -/
def isDoubleDot (segment : List Char) : Bool :=
  ["..", ".%2e", "%2e.", "%2e%2e"].contains (String.ofList (segment.map lower))

/-- Whether a text is a letter and a mark of drives. -/
def isDrive : List Char → Bool
  | [letter, mark] => letter.isAlpha && (mark == ':' || mark == '|')
  | _ => false

/-- Whether a text is a drive, or starts with one before a backslash. -/
def startsWithDrive (cs : List Char) : Bool :=
  isDrive (cs.take 2) && (cs.drop 2).head?.all (· == '\\')

/-- Segments, given from the last, without the last one. -/
def dropSegment : List (List Char) → List (List Char)
  | [] => []
  | last :: kept => if startsWithDrive last then last :: kept else kept

/-- A segment in its written form.  The first one of a file's path may be a drive, whose mark is
written as a colon. -/
def writtenSegment (inFile first : Bool) (segment : List Char) : List Char :=
  if inFile && first && isDrive segment then segment.take 1 ++ [':']
  else escapeWhere escapedInPath segment

/-- The segments of a path once `.` and `..` are removed.  `kept` holds those kept so far, the
last one first. -/
def normalSegments (inFile : Bool) (kept : List (List Char)) :
    List (List Char) → List (List Char)
  | [] => kept.reverse
  | segment :: rest =>
    let kept :=
      if isDoubleDot segment then dropSegment kept
      else if isSingleDot segment then kept
      else writtenSegment inFile kept.isEmpty segment :: kept
    if rest.isEmpty && (isDoubleDot segment || isSingleDot segment) then ([] :: kept).reverse
    else normalSegments inFile kept rest

/-- Whether a character ends a segment, `special` telling whether backslashes do. -/
def isSlash (special : Bool) (c : Char) : Bool :=
  c == '/' || special && c == '\\'

/-- A text cut into segments, `special` telling whether backslashes count as slashes. -/
def rawSegments (special : Bool) (cs : List Char) : List (List Char) :=
  Text.cutAt '/' (cs.map fun c => if isSlash special c then '/' else c)

/-- A text without the slash at its start. -/
def afterSlash (special : Bool) : List Char → List Char
  | [] => []
  | c :: rest => if isSlash special c then rest else c :: rest

/-- The segments of a path that has at least one, given its text with the slash at its start or
without it. -/
def pathSegments (special : Bool) (cs : List Char) : List (List Char) :=
  normalSegments false [] (rawSegments special (afterSlash special cs))

/-- Segments without the empty ones at their start; one stays if there are no others. -/
def withoutEmptyFront : List (List Char) → List (List Char)
  | [] :: next :: rest => withoutEmptyFront (next :: rest)
  | parts => parts

end LedgerLookup.Url
