import LedgerLookup.Json.Value

/-!
# Writing JSON

The compact text of a value.  Strings escape the quote, the backslash and the controls, and nothing
else; numbers are integers in decimal and doubles in shortest digits.
-/

namespace LedgerLookup.Json

/-- One character of a string. -/
def escapeChar (c : Char) : List Char :=
  if c = '"' then ['\\', '"']
  else if c = '\\' then ['\\', '\\']
  else if c = '\x08' then ['\\', 'b']
  else if c = '\x0c' then ['\\', 'f']
  else if c = '\n' then ['\\', 'n']
  else if c = '\r' then ['\\', 'r']
  else if c = '\t' then ['\\', 't']
  else if c.toNat < 0x20 then
    ['\\', 'u', '0', '0', Nat.digitChar (c.toNat / 16), Nat.digitChar (c.toNat % 16)]
  else [c]

/-- A string between quotes. -/
def stringText (s : String) : List Char :=
  '"' :: s.toList.flatMap escapeChar ++ ['"']

/-- The text of a number. -/
def Number.text : Number → List Char
  | whole i => (Text.signedDecimal i.val).toList
  | double x => (doubleText x).toList

namespace Value

mutual

/-- The text of a value. -/
def text : Value → List Char
  | null => ['n', 'u', 'l', 'l']
  | bool true => ['t', 'r', 'u', 'e']
  | bool false => ['f', 'a', 'l', 's', 'e']
  | number n => n.text
  | string s => stringText s
  | array items => '[' :: itemsText items ++ [']']
  | object members => '\x7b' :: membersText members ++ ['\x7d']
termination_by structural v => v

/-- The texts of the items of an array, with commas between. -/
def itemsText : List Value → List Char
  | [] => []
  | v :: rest => v.text ++ moreItemsText rest
termination_by structural items => items

/-- The texts of further items, each after a comma. -/
def moreItemsText : List Value → List Char
  | [] => []
  | v :: rest => ',' :: v.text ++ moreItemsText rest
termination_by structural items => items

/-- The texts of the members of an object, with commas between. -/
def membersText : List (String × Value) → List Char
  | [] => []
  | m :: rest => memberText m ++ moreMembersText rest
termination_by structural members => members

/-- The texts of further members, each after a comma. -/
def moreMembersText : List (String × Value) → List Char
  | [] => []
  | m :: rest => ',' :: memberText m ++ moreMembersText rest
termination_by structural members => members

/-- The text of a member. -/
def memberText : String × Value → List Char
  | (k, v) => stringText k ++ ':' :: v.text
termination_by structural m => m

end

/-- The compact text of a value as a string. -/
def render (v : Value) : String :=
  String.ofList v.text

end Value

end LedgerLookup.Json
