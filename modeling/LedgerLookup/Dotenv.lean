import LedgerLookup.Text.Alphanumeric
import LedgerLookup.Text.Blank
import LedgerLookup.Variables

/-!
# Variable files

A file of variables, one assignment `KEY=VALUE` to a line, with an optional `export` in front,
blank lines, comments after `#`, and values in single or double quotes.  A quoted value may run
over several lines.  Outside single quotes a dollar sign refers to a variable.  The file is first
cut into logical lines and each of these is then read by itself.  Loading takes the lines in order,
with the variables that are set so far, and stops at the first one that is malformed; the lines
before it stand.
-/

namespace LedgerLookup.Dotenv

/-- Where the search for the end of a logical line stands: after a blank, after a backslash, in a
plain part, in quotes of either kind, or after a backslash there. -/
inductive Place where
  | blank | escape | plain | double | doubleEscape | single | singleEscape
deriving DecidableEq, Repr

/-- The place after one more character of a plain part. -/
def Place.enter (c : Char) (otherwise : Place) : Place :=
  if c = '\\' then .escape
  else if c = '"' then .double
  else if c = '\'' then .single
  else otherwise

/-- The place after one more character; nothing when a comment starts there. -/
def Place.next? (p : Place) (c : Char) : Option Place :=
  match p with
  | .blank => if c = '#' then none else some (.enter c .plain)
  | .escape => some .plain
  | .plain =>
    some (if Text.isBlank c ∧ c ≠ '\n' ∧ c ≠ '\r' then .blank else .enter c .plain)
  | .double => some (if c = '\\' then .doubleEscape else if c = '"' then .plain else .double)
  | .doubleEscape => some .double
  | .single => some (if c = '\\' then .singleEscape else if c = '\'' then .plain else .single)
  | .singleEscape => some .single

/-- A physical line read from a place: the part of it before a comment and the place at its end,
which is plain when a comment was found. -/
def scanLine : Place → List Char → List Char × Place
  | p, [] => ([], p)
  | p, c :: rest =>
    match p.next? c with
    | none => ([], .plain)
    | some q =>
      let (kept, last) := scanLine q rest
      (c :: kept, last)

/-- The physical lines of a text, each with its line break. -/
def physicalLines : List Char → List (List Char)
  | [] => []
  | c :: rest =>
    if c = '\n' then [c] :: physicalLines rest
    else
      match physicalLines rest with
      | [] => [[c]]
      | line :: lines => (c :: line) :: lines

/-- A line without its line break. -/
def withoutBreak (line : List Char) : List Char :=
  match line.reverse with
  | '\n' :: '\r' :: rest => rest.reverse
  | '\n' :: rest => rest.reverse
  | _ => line

/-- The logical lines of physical lines, `held` being the start of one and `p` the place after it; a
logical line that is not ended is nothing.  A line whose first visible character is `#` is blank. -/
def logicalLines : List Char → Place → List (List Char) → List (Option (List Char))
  | _, p, [] => if p = .plain then [] else [none]
  | held, p, line :: lines =>
    if (Text.trimStart (held ++ line)).head? = some '#' then some [] :: logicalLines [] .plain lines
    else
      let (kept, last) := scanLine p line
      if last = .plain then some (withoutBreak (held ++ kept)) :: logicalLines [] .plain lines
      else logicalLines (held ++ line) last lines

/-- Whether a character can stand at the start of a name. -/
def isNameStart (c : Char) : Bool := c.isAlpha || c == '_'

/-- Whether a character can stand in a name. -/
def isNamePart (c : Char) : Bool := c.isAlphanum || c == '_' || c == '.'

/-- The name at the start of a text and what follows it, blanks removed. -/
def readName? : List Char → Option (List Char × List Char)
  | [] => none
  | c :: rest =>
    if isNameStart c then
      some ((c :: rest).takeWhile isNamePart, Text.trimStart ((c :: rest).dropWhile isNamePart))
    else none

/-- A part of a value: a character, or the value of a variable. -/
inductive Part where
  | char (c : Char)
  | reference (name : String)
deriving DecidableEq, Repr

/-- Where the reading of a value stands. -/
inductive ValuePlace where
  | plain | double | single
  /-- After a blank outside quotes only blanks and a comment may follow. -/
  | ending
  /-- In the name of a variable after a dollar sign, in double quotes or in a plain part. -/
  | name (quoted : Bool) (name : List Char)
  /-- In a name that braces enclose. -/
  | braced (quoted : Bool) (name : List Char)
deriving DecidableEq, Repr

/-- The place around a reference. -/
def ValuePlace.around (quoted : Bool) : ValuePlace :=
  if quoted then .double else .plain

/-- The character that a backslash and another character stand for. -/
def escaped? (c : Char) : Option Char :=
  if c = 'n' then some '\n'
  else if c = '\\' ∨ c = '\'' ∨ c = '"' ∨ c = '$' ∨ c = ' ' then some c
  else none

/-- The value that a text assigns.  The character that ends a name without braces stands for
itself, a quote too, unless it is the dollar sign of another reference. -/
def readValue? : ValuePlace → List Char → Option (List Part)
  | .plain, [] | .ending, [] => some []
  | .name false name, [] => some [.reference (String.ofList name)]
  | .double, [] | .single, [] | .name true _, [] | .braced _ _, [] => none
  | .ending, c :: rest =>
    if c = ' ' ∨ c = '\t' then readValue? .ending rest
    else if c = '#' then some []
    else none
  | .single, c :: rest =>
    if c = '\'' then readValue? .plain rest else (readValue? .single rest).map (.char c :: ·)
  | .name quoted name, c :: rest =>
    if Text.isAlphanumeric c then readValue? (.name quoted (name ++ [c])) rest
    else if c = '{' ∧ name = [] then readValue? (.braced quoted []) rest
    else if c = '$' then
      (readValue? (.name quoted []) rest).map (.reference (String.ofList name) :: ·)
    else
      (readValue? (.around quoted) rest).map (.reference (String.ofList name) :: .char c :: ·)
  | .braced quoted name, c :: rest =>
    if c = '}' then
      (readValue? (.around quoted) rest).map (.reference (String.ofList name) :: ·)
    else readValue? (.braced quoted (name ++ [c])) rest
  | p, '\\' :: c :: rest =>
    match escaped? c with
    | some c => (readValue? p rest).map (.char c :: ·)
    | none => none
  | p, ['\\'] => readValue? p []
  | .double, c :: rest =>
    if c = '$' then readValue? (.name true []) rest
    else if c = '"' then readValue? .plain rest
    else (readValue? .double rest).map (.char c :: ·)
  | .plain, c :: rest =>
    if c = '$' then readValue? (.name false []) rest
    else if c = '\'' then readValue? .single rest
    else if c = '"' then readValue? .double rest
    else if c = ' ' ∨ c = '\t' then readValue? .ending rest
    else (readValue? .plain rest).map (.char c :: ·)

/-- What a logical line says. -/
inductive Line where
  | nothing
  | assign (key : String) (value : List Part)
  | malformed
deriving DecidableEq, Repr

/-- The assignment of a value to a name, the text starting at the equals sign. -/
def readAssignment (name : List Char) : List Char → Line
  | '=' :: rest =>
    let rest := Text.trimStart rest
    if rest.head? = some '#' then .assign (String.ofList name) []
    else
      match readValue? .plain rest with
      | some value => .assign (String.ofList name) value
      | none => .malformed
  | _ => .malformed

/-- What a logical line says.  The word `export` is a name only when an equals sign follows it. -/
def readLine (line : List Char) : Line :=
  let text := Text.trim line
  if text.isEmpty || text.head? == some '#' then .nothing
  else
    match readName? text with
    | none => .malformed
    | some (name, rest) =>
      if String.ofList name = "export" ∧ rest.head? ≠ some '=' then
        match readName? rest with
        | none => .malformed
        | some (name, rest) => readAssignment name rest
      else readAssignment name rest

/-- What the logical lines of a file say, in order.  A byte-order mark at the start does not
count. -/
def lines (file : String) : List Line :=
  let text := match file.toList with
    | '\uFEFF' :: rest => rest
    | text => text
  (logicalLines [] .plain (physicalLines text)).map fun
    | some line => readLine line
    | none => .malformed

/-- What a part of a value stands for; a variable that is unset stands for nothing. -/
def Part.expand (vars : Lookup) : Part → List Char
  | .char c => [c]
  | .reference name => ((vars name).getD "").toList

/-- A value with its references replaced. -/
def expand (vars : Lookup) (value : List Part) : String :=
  String.ofList (value.flatMap (Part.expand vars))

/-- The variables after the lines of a file.  A variable that is set already keeps its value. -/
def load (vars : Lookup) : List Line → Lookup
  | [] => vars
  | .nothing :: rest => load vars rest
  | .assign key value :: rest => load (vars.setDefault key (expand vars value)) rest
  | .malformed :: _ => vars

end LedgerLookup.Dotenv
