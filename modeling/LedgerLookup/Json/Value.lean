import LedgerLookup.Json.Error
import LedgerLookup.Word

/-!
# JSON values

Numbers are whole when they are written without fraction or exponent and fit 64 bits, and doubles
otherwise.  An object is a list of members in the order in which they are written; `Members.insert`
keeps a list sorted by key with one member for each key, which is the order of every object that was
read from a text.
-/

namespace LedgerLookup.Json

/-- A JSON number. -/
inductive Number where
  | whole (i : Word .wide)
  | double (x : Binary64)
deriving DecidableEq

/-- A JSON value. -/
inductive Value where
  | null
  | bool (b : Bool)
  | number (n : Number)
  | string (s : String)
  | array (items : List Value)
  | object (members : List (String × Value))
deriving BEq

/-- The members of an object. -/
abbrev Members := List (String × Value)

instance : Inhabited Value := ⟨.null⟩

/-- The number with the value of a whole number in any range. -/
def Number.ofWord {w : Width} (i : Word w) : Number := .whole i.widen

namespace Members

/-- A member put into a list that is sorted by key; it replaces the member with the same key. -/
def insert (key : String) (value : Value) : Members → Members
  | [] => [(key, value)]
  | (k, v) :: rest =>
    if key = k then (key, value) :: rest
    else if key < k then (key, value) :: (k, v) :: rest
    else (k, v) :: insert key value rest

/-- The value of the first member with a key. -/
def get? (key : String) : Members → Option Value
  | [] => none
  | (k, v) :: rest => if k = key then some v else get? key rest

end Members

namespace Value

/-- The value of a member, if the value is an object that has it. -/
def get? (key : String) : Value → Option Value
  | object members => Members.get? key members
  | _ => none

/-- The outermost form of a value. -/
def form : Value → Form
  | null => .null
  | bool b => .bool b
  | number (.whole i) => .integer i.val
  | number (.double x) => .double x
  | string s => .string s
  | array _ => .array
  | object _ => .object

/-- Whether a value is null. -/
def isNull : Value → Bool
  | null => true
  | _ => false

mutual

/-- A value with the members of every object sorted by key, the last of several with one key
staying. -/
def sorted : Value → Value
  | array items => .array (sortedItems items)
  | object members => .object (sortedMembers members [])
  | v => v
termination_by structural v => v

/-- The sorted forms of the items of an array. -/
def sortedItems : List Value → List Value
  | [] => []
  | v :: rest => v.sorted :: sortedItems rest
termination_by structural items => items

/-- The sorted forms of members, put into those gathered so far. -/
def sortedMembers : List (String × Value) → Members → Members
  | [], acc => acc
  | m :: rest, acc => sortedMembers rest (Members.insert m.1 (sortedMember m) acc)
termination_by structural members => members

/-- The sorted form of the value of a member. -/
def sortedMember : String × Value → Value
  | (_, v) => v.sorted
termination_by structural m => m

end

end Value

end LedgerLookup.Json
