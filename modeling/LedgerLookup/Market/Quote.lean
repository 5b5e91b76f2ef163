import LedgerLookup.Decimal.Reader
import LedgerLookup.Json.Record
import LedgerLookup.Timestamp

/-!
# Quotes

The price of one unit of an asset in a currency, with its source; and a quote, which is such a rate
together with the moment at which it was taken.
-/

namespace LedgerLookup

/-- The price of one unit of `base` in `quote`. -/
structure Rate where
  base : String := ""
  quote : String := ""
  price : Decimal := .zero
  source : String := ""
deriving DecidableEq

/-- A rate and the moment at which it was taken. -/
structure Quote extends Rate where
  timestamp : Timestamp := ⟨0, 0⟩
deriving DecidableEq

namespace Quote

/-- The decimal that a string in either notation stands for, as a field. -/
def readPrice (form : Json.Form) : Except Json.Error Decimal :=
  let plain (text : List Char) : Except Json.Error Decimal :=
    match Decimal.readPlain text with
    | .ok d => .ok d
    | .error _ => .error (.shape (.wrongValue form .decimal))
  match form with
  | .integer i => plain (Text.signedDecimal i).toList
  | .double x => plain (Json.plainDoubleText x)
  | .string s =>
    match Decimal.read s.toList with
    | .ok d => .ok d
    | .error _ => .error (.shape (.wrongValue form .decimal))
  | form => Json.refuse .decimal form

/-- A price: a number, or a string in either notation.  It is written as a double. -/
def priceCodec : Json.Codec Decimal :=
  .scalar readPrice fun d => .number (.double d.toDouble)

/-- The moment that a string names, as a field. -/
def readTimestamp : Json.Form → Except Json.Error Timestamp
  | .string s =>
    match Timestamp.read s.toList with
    | .ok t => .ok t
    | .error e => .error (.shape (.refused e.message))
  | form => Json.refuse .timestamp form

/-- A moment, as a string. -/
def timestampCodec : Json.Codec Timestamp :=
  .scalar readTimestamp fun t => .string t.text

/-- Quotes as they are written in JSON. -/
def record : Json.Record Quote where
  name := "Quote"
  empty := {}
  fields := [
    .required "timestamp" timestampCodec (·.timestamp) ({ · with timestamp := · }),
    .required "base" .string (·.base) ({ · with base := · }),
    .required "quote" .string (·.quote) ({ · with quote := · }),
    .required "price" priceCodec (·.price) ({ · with price := · }),
    .required "source" .string (·.source) ({ · with source := · })]

end Quote

end LedgerLookup
