import LedgerLookup.Json.Record

/-!
# Paging

What part of a long payload a lookup asks for.  A caller may leave out either bound; a window has
both. An offset must not be negative and a limit must be positive, and of two bad bounds the
offset is the one that is reported.
-/

namespace LedgerLookup

/-- Paging as a caller gives it. -/
structure Page where
  offset : Option (Word .i64) := none
  limit : Option (Word .i64) := none
deriving DecidableEq

/-- Paging as it is sent. -/
structure Window where
  offset : Word .u64
  limit : Word .u64
deriving DecidableEq

/-- The window that is sent when a caller asks for no page: the first twenty-five items. -/
def Window.standard : Window where
  offset := { val := 0 }
  limit := { val := 25 }

/-- A bound of a page. -/
inductive Page.Bound where
  | offset | limit
deriving DecidableEq, Repr

/-- A bound of a page that cannot be sent. -/
structure Page.Invalid where
  bound : Page.Bound
  value : Int
deriving DecidableEq, Repr

namespace Page

/-- The name of a bound. -/
def Bound.name : Bound → String
  | offset => "offset"
  | limit => "limit"

/-- A page with both bounds. -/
def ofBounds (offset limit : Word .i64) : Page :=
  ⟨some offset, some limit⟩

/-- A signed integer that is not negative, as an unsigned one. -/
def unsigned? (i : Word .i64) : Option (Word .u64) :=
  Word.ofInt? i.val

/-- The offset that is sent. -/
def sentOffset (p : Page) : Except Invalid (Word .u64) :=
  match p.offset with
  | none => .ok Window.standard.offset
  | some i =>
    match unsigned? i with
    | some n => .ok n
    | none => .error ⟨.offset, i.val⟩

/-- The limit that is sent. -/
def sentLimit (p : Page) : Except Invalid (Word .u64) :=
  match p.limit with
  | none => .ok Window.standard.limit
  | some i =>
    match unsigned? i with
    | some n => if n.val = 0 then .error ⟨.limit, i.val⟩ else .ok n
    | none => .error ⟨.limit, i.val⟩

/-- The window of a page, with the defaults for what was left out. -/
def window (p : Page) : Except Invalid Window := do
  let offset ← p.sentOffset
  let limit ← p.sentLimit
  return ⟨offset, limit⟩

/-- Pages as they are written in JSON. -/
def record : Json.Record Page where
  name := "Pagination"
  empty := {}
  fields := [
    .nullable "offset" (.option (.word .i64)) (·.offset) ({ · with offset := · }),
    .nullable "limit" (.option (.word .i64)) (·.limit) ({ · with limit := · })]

end Page

namespace Window

/-- The window as the query of a URL. -/
def query (w : Window) : String :=
  "offset=" ++ Text.decimal w.offset.toNat ++ "&limit=" ++ Text.decimal w.limit.toNat

/-- The window as a JSON object. -/
def toValue (w : Window) : Json.Value :=
  .object [("offset", .number (.ofWord w.offset)), ("limit", .number (.ofWord w.limit))]

end Window

end LedgerLookup
