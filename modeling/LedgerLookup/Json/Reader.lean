import LedgerLookup.Json.Node

/-!
# Reading texts into trees

A recursive-descent reader.  It never fails: where the text goes wrong it leaves a flaw in the
tree and stops.  No more than two calls in a row leave the text as it is, so a fuel of twice the
number of letters and two more is never used up.  The depth left tells how many more arrays and
objects may be nested; where none is left they are marked and gone through all the same, since a
reader that skips them does not count them.
-/

namespace LedgerLookup.Json

open Text.Utf8 (Letter)

/-- The greatest depth to which arrays and objects that are read may be nested. -/
def maxDepth : Nat := 127

/-- Whether a character may stand between the parts of a text. -/
def isJsonBlank (c : Char) : Bool :=
  c == ' ' || c == '\n' || c == '\t' || c == '\r'

/-- A text without the blanks at its start. -/
def skipBlanks : List Letter → List Letter
  | some c :: rest => if isJsonBlank c then skipBlanks rest else some c :: rest
  | rest => rest
termination_by structural text => text

/-- The rest of a word, given the letters that are still expected. -/
def lexWord (node : Node) : List Char → List Letter → Node × Option (List Letter)
  | [], text => (node, some text)
  | _ :: _, [] => (.flawed (.same .endInValue), none)
  | c :: cs, l :: rest =>
    if l = some c then lexWord node cs rest else (.flawed (.same .expectedWord), none)

/-- A numeral as a node. -/
def numeralNode (negative : Bool) (text : List Letter) : Node × Option (List Letter) :=
  match lexNumeral negative text with
  | .ok (n, rest) => (.numeral n, some rest)
  | .error f => (.flawed f, none)

/-- The literal at the start of a text, its opening quote already read. -/
def lexLiteral (text : List Letter) : Except Flaw (List LiteralUnit × List Letter) :=
  let (units, ending, rest) := lexString text
  match ending.skipError? with
  | none => .ok (units, rest)
  | some skipping =>
    match readUnits units ending with
    | .error reading => .error ⟨reading, skipping⟩
    | .ok _ => .error (.same skipping)

/-- A literal as a node, its opening quote already read. -/
def literalNode (text : List Letter) : Node × Option (List Letter) :=
  match lexLiteral text with
  | .ok (units, rest) => (.literal units, some rest)
  | .error f => (.flawed f, none)

/-- The colon after a key. -/
def lexColon (text : List Letter) : Except Flaw (List Letter) :=
  match skipBlanks text with
  | [] => .error (.same .endInObject)
  | some ':' :: rest => .ok rest
  | _ => .error (.same .expectedColon)

/-- What comes next in an array or object: a part, given by the text where it starts; the end, given
by the text after it; or a flaw. -/
inductive Next where
  | part (text : List Letter)
  | ended (rest : List Letter)
  | flawed (f : Flaw)

/-- What comes next in an array, `first` telling whether its bracket stands just before. -/
def nextItem (first : Bool) (text : List Letter) : Next :=
  match skipBlanks text with
  | [] => .flawed (.same .endInArray)
  | some ']' :: rest => .ended rest
  | some ',' :: rest =>
    if first then .part (some ',' :: rest)
    else
      match skipBlanks rest with
      | [] => .flawed (.same .endInValue)
      | some ']' :: _ => .flawed ⟨.trailingComma, .expectedValue⟩
      | rest => .part rest
  | rest => if first then .part rest else .flawed (.same .expectedCommaOrBracket)

/-- What comes next in an object, `first` telling whether its brace stands just before.  A member
starts after the opening quote of its key. -/
def nextMember (first : Bool) (text : List Letter) : Next :=
  match skipBlanks text with
  | [] => .flawed (.same .endInObject)
  | some '\x7d' :: rest => .ended rest
  | some ',' :: rest =>
    if first then .flawed (.same .keyNotString)
    else
      match skipBlanks rest with
      | [] => .flawed ⟨.endInValue, .endInObject⟩
      | some '"' :: rest => .part rest
      | some '\x7d' :: _ => .flawed ⟨.trailingComma, .keyNotString⟩
      | _ => .flawed (.same .keyNotString)
  | some '"' :: rest => if first then .part rest else .flawed (.same .expectedCommaOrBrace)
  | _ => .flawed (.same (if first then .keyNotString else .expectedCommaOrBrace))

mutual

/-- The node at the start of a text and what follows it, unless the text breaks off. -/
def readNode : Nat → Nat → List Letter → Node × Option (List Letter)
  | 0, _, _ => (.flawed (.same .endInValue), none)
  | fuel + 1, depth, text =>
    match skipBlanks text with
    | [] => (.flawed (.same .endInValue), none)
    | some 'n' :: rest => lexWord .null ['u', 'l', 'l'] rest
    | some 't' :: rest => lexWord (.bool true) ['r', 'u', 'e'] rest
    | some 'f' :: rest => lexWord (.bool false) ['a', 'l', 's', 'e'] rest
    | some '-' :: rest => numeralNode true rest
    | some '"' :: rest => literalNode rest
    | some '[' :: rest =>
      let (items, rest) := readItems fuel (depth - 1) true rest
      (.array (if depth = 0 then .tooDeep items else items), rest)
    | some '\x7b' :: rest =>
      let (members, rest) := readMembers fuel (depth - 1) true rest
      (.object (if depth = 0 then .tooDeep members else members), rest)
    | some c :: rest =>
      if Text.isDigit c then numeralNode false (some c :: rest)
      else (.flawed (.same .expectedValue), none)
    | none :: _ => (.flawed (.same .expectedValue), none)
termination_by structural fuel => fuel

/-- The items at the start of a text, `first` telling whether the bracket stands just before. -/
def readItems : Nat → Nat → Bool → List Letter → Items × Option (List Letter)
  | 0, _, _, _ => (.flawed (.same .endInArray), none)
  | fuel + 1, depth, first, text =>
    match nextItem first text with
    | .flawed f => (.flawed f, none)
    | .ended rest => (.closed, some rest)
    | .part text =>
      match readNode fuel depth text with
      | (node, some rest) =>
        let (items, rest) := readItems fuel depth false rest
        (.item node items, rest)
      | (node, none) => (.item node (.flawed (.same .endInArray)), none)
termination_by structural fuel => fuel

/-- The members at the start of a text, `first` telling whether the brace stands just before. -/
def readMembers : Nat → Nat → Bool → List Letter → MemberNodes × Option (List Letter)
  | 0, _, _, _ => (.flawed (.same .endInObject), none)
  | fuel + 1, depth, first, text =>
    match nextMember first text with
    | .flawed f => (.flawed f, none)
    | .ended rest => (.closed, some rest)
    | .part text =>
      match lexLiteral text with
      | .error f => (.flawed f, none)
      | .ok (key, rest) =>
        match lexColon rest with
        | .error f => (.member key (.flawed f) (.flawed f), none)
        | .ok rest =>
          match readNode fuel depth rest with
          | (node, some rest) =>
            let (members, rest) := readMembers fuel depth false rest
            (.member key node members, rest)
          | (node, none) => (.member key node (.flawed (.same .endInObject)), none)
termination_by structural fuel => fuel

end

/-- The tree of a sequence of letters. -/
def Document.ofLetters (text : List Letter) : Document :=
  match readNode (2 * text.length + 2) maxDepth text with
  | (root, some rest) => ⟨root, !(skipBlanks rest).isEmpty⟩
  | (root, none) => ⟨root, false⟩

/-- The tree of a text. -/
def Document.ofString (s : String) : Document :=
  .ofLetters (s.toList.map some)

/-- The tree of a text given as bytes. -/
def Document.ofBytes (bytes : List UInt8) : Document :=
  .ofLetters (Text.Utf8.letters bytes)

/-- The value that a string is the text of. -/
def Value.parse (s : String) : Except Error Value :=
  (Document.ofString s).value

end LedgerLookup.Json
