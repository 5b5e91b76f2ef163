import LedgerLookup.Json.Reader
import LedgerLookup.Json.Printer

/-!
# Codecs

A codec reads values of a type from JSON and writes them as JSON.  It reads along two routes:
straight from the tree of a text, where it stops at the first thing that is wrong with either the
text or the shape; and from a value, where the text has been read before.  Both routes of a codec
for a scalar look at the outermost form only, and both routes of a compound codec follow the same
order.
-/

namespace LedgerLookup.Json

/-- Reading and writing of one type. -/
structure Codec (α : Type) where
  ofNode : Node → Except Error α
  ofValue : Value → Except Error α
  toValue : α → Value

/-- The refusal of a form where something else is called for. -/
def refuse {α : Type} (expected : Expected) (form : Form) : Except Error α :=
  .error (.shape (.wrongType form expected))

namespace Codec

variable {α : Type}

/-- Reading straight from a text. -/
def ofDocument (c : Codec α) (d : Document) : Except Error α :=
  d.finish (c.ofNode d.root)

/-- Reading straight from a string. -/
def fromText (c : Codec α) (s : String) : Except Error α :=
  c.ofDocument (.ofString s)

/-- Reading a string as a value first and then from the value. -/
def fromValueOf (c : Codec α) (s : String) : Except Error α := do
  c.ofValue (← Value.parse s)

/-- The text that is written for a value of the type. -/
def render (c : Codec α) (a : α) : String :=
  (c.toValue a).render

/-- A codec for what can be told from the outermost form. -/
def scalar (read : Form → Except Error α) (toValue : α → Value) : Codec α where
  ofNode n := do read (← n.form)
  ofValue v := read v.form
  toValue := toValue

/-- Any value. -/
def any : Codec Value where
  ofNode := Node.value
  ofValue := .ok
  toValue := id

/-- A string. -/
def string : Codec String :=
  scalar (fun | .string s => .ok s | f => refuse .string f) .string

/-- A truth value. -/
def bool : Codec Bool :=
  scalar (fun | .bool b => .ok b | f => refuse .boolean f) .bool

/-- A double, which may be written as an integer. -/
def double : Codec Binary64 :=
  scalar
    (fun
      | .integer i => .ok (Binary64.ofInt i)
      | .double x => .ok x
      | f => refuse .double f)
    (fun x => .number (.double x))

/-- The name of a range in messages. -/
def widthName : Width → String
  | .u16 => "u16"
  | .u64 => "u64"
  | .i32 => "i32"
  | .i64 => "i64"
  | .wide => "integer"

/-- An integer of a range.  It may not be written as a double. -/
def word (w : Width) : Codec (Word w) :=
  scalar
    (fun
      | .integer i =>
        match Word.ofInt? i with
        | some x => .ok x
        | none => .error (.shape (.wrongValue (.integer i) (.word (widthName w))))
      | f => refuse (.word (widthName w)) f)
    (fun x => .number (.ofWord x))

/-- A value that may be null. -/
def option (c : Codec α) : Codec (Option α) where
  ofNode
    | .null => .ok none
    | n => (c.ofNode n).map some
  ofValue
    | .null => .ok none
    | v => (c.ofValue v).map some
  toValue
    | none => .null
    | some a => c.toValue a

/-- The items of an array, each read with one codec. -/
def itemsOfNodes (c : Codec α) : Items → Except Error (List α)
  | .closed => .ok []
  | .item node rest => do
    let a ← c.ofNode node
    let as ← itemsOfNodes c rest
    return a :: as
  | .flawed f => .error (.text f.reading)
  | .tooDeep _ => .error (.text .tooDeep)
termination_by structural items => items

/-- An array of any length. -/
def list (c : Codec α) : Codec (List α) where
  ofNode
    | .array items => c.itemsOfNodes items
    | n => do refuse .sequence (← n.form)
  ofValue
    | .array items => items.mapM c.ofValue
    | v => refuse .sequence v.form
  toValue as := .array (as.map c.toValue)

/-- The members of an object, each value read with one codec; the last of several with one key
stays. -/
def membersOfNodes (c : Codec α) :
    MemberNodes → List (String × α) → Except Error (List (String × α))
  | .closed, acc => .ok acc
  | .member key node rest, acc => do
    let k ← Node.readLiteral key
    let a ← c.ofNode node
    membersOfNodes c rest ((k, a) :: acc.filter (·.1 ≠ k))
  | .flawed f, _ => .error (.text f.reading)
  | .tooDeep _, _ => .error (.text .tooDeep)
termination_by structural members => members

/-- An object with values of one type under any keys. -/
def dictionary (c : Codec α) : Codec (List (String × α)) where
  ofNode
    | .object members => c.membersOfNodes members []
    | n => do refuse .map (← n.form)
  ofValue
    | .object members => members.mapM fun (k, v) => (c.ofValue v).map (k, ·)
    | v => refuse .map v.form
  toValue as := .object (as.map fun (k, a) => (k, c.toValue a))

end Codec

end LedgerLookup.Json
