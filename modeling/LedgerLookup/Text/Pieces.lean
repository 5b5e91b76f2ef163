/-!
# Texts in pieces

Cutting a text at every occurrence of a separator and joining pieces with one between them.  A text
with `n` separators has `n + 1` pieces, some of which may be empty.
-/

namespace LedgerLookup.Text

/-- A text cut at every occurrence of a character. -/
def cutAt (sep : Char) : List Char → List (List Char)
  | [] => [[]]
  | c :: rest =>
    if c = sep then [] :: cutAt sep rest
    else
      match cutAt sep rest with
      | [] => [[c]]
      | part :: parts => (c :: part) :: parts

/-- Parts joined with a character between them. -/
def joinWith (sep : Char) : List (List Char) → List Char
  | [] => []
  | [part] => part
  | part :: parts => part ++ sep :: joinWith sep parts

/-- A text up to the first character that satisfies `p`, and the text from there. -/
def breakAt (p : Char → Bool) (cs : List Char) : List Char × List Char :=
  (cs.takeWhile fun c => !p c, cs.dropWhile fun c => !p c)

end LedgerLookup.Text
