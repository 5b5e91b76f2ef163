import LedgerLookup.Json.Codec

/-!
# Records

Structures as JSON objects.  A record is described by its fields in order; each knows how to read
itself into the structure and how to write itself.  A record is read from an object, whose unknown
members are skipped, or from an array of its fields in order, and is always written as an object
with every field.

Along both routes a field that is written is read once.  From a text a second member of the same
name is refused; in a value there is only one.
-/

namespace LedgerLookup.Json

/-- What becomes of a field that is not written: it keeps its value in the empty structure; it is
null in an object but may not be left out of an array; or its absence is a failure. -/
inductive Absence where
  | filled
  | nullable
  | required
deriving DecidableEq

/-- A field of a structure. -/
structure Field (σ : Type) where
  name : String
  absence : Absence
  ofNode : Node → σ → Except Error σ
  ofValue : Value → σ → Except Error σ
  toValue : σ → Value

namespace Field

variable {σ α : Type}

/-- The field with the given absence that `get` and `set` address. -/
def make (absence : Absence) (name : String) (codec : Codec α) (get : σ → α) (set : σ → α → σ) :
    Field σ where
  name := name
  absence := absence
  ofNode n s := (codec.ofNode n).map (set s)
  ofValue v s := (codec.ofValue v).map (set s)
  toValue s := codec.toValue (get s)

/-- A field that keeps its value in the empty structure when it is not written. -/
def filled (name : String) (codec : Codec α) (get : σ → α) (set : σ → α → σ) : Field σ :=
  make .filled name codec get set

/-- A field that is null when it is not written in an object. -/
def nullable (name : String) (codec : Codec α) (get : σ → α) (set : σ → α → σ) : Field σ :=
  make .nullable name codec get set

/-- A field that must be written. -/
def required (name : String) (codec : Codec α) (get : σ → α) (set : σ → α → σ) : Field σ :=
  make .required name codec get set

end Field

/-- A structure as a record: its name in messages, the structure with no field written, and its
fields. -/
structure Record (σ : Type) where
  name : String
  empty : σ
  fields : List (Field σ)

/-- The failure at the end of an array when every field of a record has been read, unless the array
ends there. -/
def Items.endError? : Items → Option TextError
  | .closed => none
  | .item _ _ => some .trailingText
  | .flawed f =>
    match f.reading with
    | .endInArray => some .endInArray
    | .trailingComma => some .trailingComma
    | _ => some .trailingText
  | .tooDeep _ => some .tooDeep

namespace Record

variable {σ : Type}

/-- The field of a name. -/
def field? (r : Record σ) (name : String) : Option (Field σ) :=
  r.fields.find? (·.name == name)

/-- The fields of an object read into a structure, with the names of those read so far. -/
def ofMembers (r : Record σ) : MemberNodes → List String → σ → Except Error (List String × σ)
  | .closed, seen, s => .ok (seen, s)
  | .member key node rest, seen, s => do
    let k ← Node.readLiteral key
    match r.field? k with
    | none =>
      node.skip
      ofMembers r rest seen s
    | some f =>
      if k ∈ seen then throw (.shape (.duplicateField k))
      let s ← f.ofNode node s
      ofMembers r rest (k :: seen) s
  | .flawed f, _, _ => .error (.text f.reading)
  | .tooDeep _, _, _ => .error (.text .tooDeep)
termination_by structural members => members

/-- The members of a value read into a structure, with the names of those read so far. -/
def ofEntries (r : Record σ) : Members → List String → σ → Except Error (List String × σ)
  | [], seen, s => .ok (seen, s)
  | (k, v) :: rest, seen, s =>
    match r.field? k with
    | none => ofEntries r rest seen s
    | some f => do
      let s ← f.ofValue v s
      ofEntries r rest (k :: seen) s

/-- A required field that was not read is a failure, the first such field first. -/
def complete (r : Record σ) (seen : List String) (s : σ) : Except Error σ :=
  match r.fields.find? fun f => f.absence == .required && !seen.contains f.name with
  | some f => .error (.shape (.missingField f.name))
  | none => .ok s

/-- What is left of the fields when an array has ended after `count` items: all of them must be ones
that are filled. -/
def finishArray (r : Record σ) (count : Nat) (fields : List (Field σ)) (s : σ) : Except Error σ :=
  match fields.findIdx? (·.absence != .filled) with
  | some i => .error (.shape (.wrongLength (count + i) (.recordOfSize r.name r.fields.length)))
  | none => .ok s

/-- Fields read from the items of an array in a text, of which `count` have been read before. -/
def ofItems (r : Record σ) : Nat → List (Field σ) → Items → σ → Except Error σ
  | _, [], items, s =>
    match items.endError? with
    | some e => .error (.text e)
    | none => .ok s
  | count, f :: fields, .item node rest, s => do
    let s ← f.ofNode node s
    ofItems r (count + 1) fields rest s
  | count, fields, .closed, s => r.finishArray count fields s
  | _, _, .flawed f, _ => .error (.text f.reading)
  | _, _, .tooDeep _, _ => .error (.text .tooDeep)
termination_by structural _ fields => fields

/-- Fields read from the items of an array value of length `size`, of which `count` have been read
before. -/
def ofElements (r : Record σ) (size : Nat) :
    Nat → List (Field σ) → List Value → σ → Except Error σ
  | _, [], [], s => .ok s
  | _, [], _ :: _, _ => .error (.shape (.wrongLength size .fewerItems))
  | count, f :: fields, v :: rest, s => do
    let s ← f.ofValue v s
    ofElements r size (count + 1) fields rest s
  | count, f :: fields, [], s => r.finishArray count (f :: fields) s
termination_by structural _ fields => fields

/-- The codec of a record. -/
def codec (r : Record σ) : Codec σ where
  ofNode
    | .object members => do
      let (seen, s) ← r.ofMembers members [] r.empty
      r.complete seen s
    | .array items => r.ofItems 0 r.fields items r.empty
    | n => do refuse (.record r.name) (← n.form)
  ofValue
    | .object members => do
      let (seen, s) ← r.ofEntries members [] r.empty
      r.complete seen s
    | .array items => r.ofElements items.length 0 r.fields items r.empty
    | v => refuse (.record r.name) v.form
  toValue s := .object (r.fields.map fun f => (f.name, f.toValue s))

end Record

end LedgerLookup.Json
