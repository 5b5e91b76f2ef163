import LedgerLookup.Json.StringLiteral

/-!
# JSON texts as trees

A text is first made into a tree that keeps what is written: members in their order with repeated
keys, numerals digit by digit, and, where the text breaks off, a flaw in place of what is missing.
Arrays and objects that are nested too deeply are marked: their contents may be skipped but not
read. Every reader of a text is a walk over this tree, so that the first failure that it reports is
the first one that it meets, whether that lies in the text or in the shape of the value.
-/

namespace LedgerLookup.Json

mutual

/-- What stands in a text where a value is called for. -/
inductive Node where
  | null
  | bool (b : Bool)
  | numeral (n : Numeral)
  | literal (units : List LiteralUnit)
  | array (items : Items)
  | object (members : MemberNodes)
  | flawed (f : Flaw)

/-- The items of an array as far as they are written. -/
inductive Items where
  | closed
  | item (node : Node) (rest : Items)
  | flawed (f : Flaw)
  | tooDeep (items : Items)

/-- The members of an object as far as they are written. -/
inductive MemberNodes where
  | closed
  | member (key : List LiteralUnit) (node : Node) (rest : MemberNodes)
  | flawed (f : Flaw)
  | tooDeep (members : MemberNodes)

end

/-- A text as a tree, and whether something other than blanks follows the value. -/
structure Document where
  root : Node
  trailing : Bool

namespace Node

/-- The number of a numeral, with the failure as a failure of reading. -/
def readNumeral (n : Numeral) : Except Error Number :=
  n.number.mapError .text

/-- The string of a closed literal, with the failure as a failure of reading. -/
def readLiteral (units : List LiteralUnit) : Except Error String :=
  (readUnits units .closed).mapError .text

/-- The outermost form of a node.  Scalars are read to the end; arrays and objects are not. -/
def form : Node → Except Error Form
  | null => .ok .null
  | bool b => .ok (.bool b)
  | numeral n => (readNumeral n).map fun
    | .whole i => .integer i.val
    | .double x => .double x
  | literal units => (readLiteral units).map .string
  | array _ => .ok .array
  | object _ => .ok .object
  | flawed f => .error (.text f.reading)

mutual

/-- The first failure that a reader meets which skips the node. -/
def skip : Node → Except Error Unit
  | array items => skipItems items
  | object members => skipMembers members
  | flawed f => .error (.text f.skipping)
  | _ => .ok ()
termination_by structural n => n

/-- The first failure that a reader meets which skips the items. -/
def skipItems : Items → Except Error Unit
  | .closed => .ok ()
  | .item node rest => do
    skip node
    skipItems rest
  | .flawed f => .error (.text f.skipping)
  | .tooDeep items => skipItems items
termination_by structural items => items

/-- The first failure that a reader meets which skips the members. -/
def skipMembers : MemberNodes → Except Error Unit
  | .closed => .ok ()
  | .member _ node rest => do
    skip node
    skipMembers rest
  | .flawed f => .error (.text f.skipping)
  | .tooDeep members => skipMembers members
termination_by structural members => members

end

mutual

/-- The value of a node.  Of several members with one key the last stays, and members are sorted by
key. -/
def value : Node → Except Error Value
  | null => .ok .null
  | bool b => .ok (.bool b)
  | numeral n => (readNumeral n).map .number
  | literal units => (readLiteral units).map .string
  | array items => (itemValues items).map .array
  | object members => (memberValues members []).map .object
  | flawed f => .error (.text f.reading)
termination_by structural n => n

/-- The values of the items. -/
def itemValues : Items → Except Error (List Value)
  | .closed => .ok []
  | .item node rest => do
    let v ← value node
    let vs ← itemValues rest
    return v :: vs
  | .flawed f => .error (.text f.reading)
  | .tooDeep _ => .error (.text .tooDeep)
termination_by structural items => items

/-- The members read, put into those gathered so far. -/
def memberValues : MemberNodes → Members → Except Error Members
  | .closed, acc => .ok acc
  | .member key node rest, acc => do
    let k ← readLiteral key
    let v ← value node
    memberValues rest (Members.insert k v acc)
  | .flawed f, _ => .error (.text f.reading)
  | .tooDeep _, _ => .error (.text .tooDeep)
termination_by structural members => members

end

end Node

/-- What follows the root of a text has to be blank. -/
def Document.finish {α : Type} (d : Document) (result : Except Error α) : Except Error α := do
  let a ← result
  if d.trailing then throw (.text .trailingText)
  return a

/-- The value of a text. -/
def Document.value (d : Document) : Except Error Value :=
  d.finish d.root.value

end LedgerLookup.Json
