import LedgerLookup.Json.Codec

/-!
# Variants

A choice among names, written as a string or as an object with one member whose key is the name and
whose value is null.  In a text anything else is simply not a value; in a value its form is named.
-/

namespace LedgerLookup.Json

/-- A choice among named values. -/
structure Variants (α : Type) where
  table : List (String × α)

namespace Variants

variable {α : Type}

/-- The value of a name. -/
def named (c : Variants α) (name : String) : Except Error α :=
  match c.table.find? (·.1 == name) with
  | some (_, a) => .ok a
  | none => .error (.shape (.unknownVariant name (c.table.map (·.1))))

/-- The null that an object with the name of a choice must hold. -/
def requireUnit (form : Form) : Except Error Unit :=
  match form with
  | .null => .ok ()
  | f => refuse .unit f

/-- The closing brace after the only member, and nothing but blanks after it. -/
def closeObject (text : List Text.Utf8.Letter) : Except Error Unit :=
  match skipBlanks text with
  | [] => .error (.text .endInObject)
  | some '\x7d' :: rest =>
    if (skipBlanks rest).isEmpty then .ok () else .error (.text .trailingText)
  | _ => .error (.text .expectedValue)

/-- The choice that a literal names, and the text after it. -/
def ofLiteral (c : Variants α) (text : List Text.Utf8.Letter) :
    Except Error (α × List Text.Utf8.Letter) := do
  let (units, rest) ← (lexLiteral text).mapError (.text ·.reading)
  let name ← Node.readLiteral units
  let a ← c.named name
  return (a, rest)

/-- The choice that an object in a text makes, the brace already read. -/
def ofObjectText (c : Variants α) (text : List Text.Utf8.Letter) : Except Error α := do
  match skipBlanks text with
  | some '"' :: rest =>
    let (a, rest) ← c.ofLiteral rest
    let rest ← (lexColon rest).mapError (.text ·.reading)
    let (node, rest) := readNode (2 * rest.length + 2) maxDepth rest
    requireUnit (← node.form)
    closeObject (rest.getD [])
    return a
  | text =>
    let (node, _) := readNode (2 * text.length + 2) maxDepth text
    refuse .variantName (← node.form)

/-- The choice that a text makes. -/
def fromText (c : Variants α) (s : String) : Except Error α := do
  match skipBlanks (s.toList.map some) with
  | [] => throw (.text .endInValue)
  | some '"' :: rest =>
    let (a, rest) ← c.ofLiteral rest
    if (skipBlanks rest).isEmpty then return a else throw (.text .trailingText)
  | some '\x7b' :: rest => c.ofObjectText rest
  | _ => throw (.text .expectedValue)

/-- The choice that a value makes. -/
def ofValue (c : Variants α) : Value → Except Error α
  | .string s => c.named s
  | .object [(k, v)] => do
    let a ← c.named k
    requireUnit v.form
    return a
  | .object _ => .error (.shape (.wrongValue .object .singleMember))
  | v => refuse .stringOrMap v.form

/-- The choice that a string makes once it has been read as a value. -/
def fromValueOf (c : Variants α) (s : String) : Except Error α := do
  c.ofValue (← Value.parse s)

end Variants

end LedgerLookup.Json
