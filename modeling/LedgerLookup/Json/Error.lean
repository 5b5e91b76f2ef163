import LedgerLookup.Binary64.Shortest
import LedgerLookup.Text.Quoted

/-!
# Failures of reading JSON

A text can fail to be JSON, and a value can fail to have the shape that is wanted of it.  Both are
given as causes; the wording is in one function each.
-/

namespace LedgerLookup.Json

/-- What is wrong with a text as JSON. -/
inductive TextError where
  | endInValue | endInString | endInArray | endInObject
  | expectedValue | expectedWord | expectedColon | expectedCommaOrBracket | expectedCommaOrBrace
  | keyNotString | trailingComma | trailingText
  | badNumber | numberTooLarge
  | badEscape | cutSurrogate | loneSurrogate | controlCharacter | notUnicode
  | tooDeep
deriving DecidableEq, Repr

namespace TextError

/-- Whether the text ended too early, rather than going wrong before its end. -/
def isEnd : TextError → Bool
  | endInValue | endInString | endInArray | endInObject => true
  | _ => false

/-- The wording of a failure. -/
def message : TextError → String
  | endInValue => "EOF while parsing a value"
  | endInString => "EOF while parsing a string"
  | endInArray => "EOF while parsing a list"
  | endInObject => "EOF while parsing an object"
  | expectedValue => "expected value"
  | expectedWord => "expected ident"
  | expectedColon => "expected `:`"
  | expectedCommaOrBracket => "expected `,` or `]`"
  | expectedCommaOrBrace => "expected `,` or `\x7d`"
  | keyNotString => "key must be a string"
  | trailingComma => "trailing comma"
  | trailingText => "trailing characters"
  | badNumber => "invalid number"
  | numberTooLarge => "number out of range"
  | badEscape => "invalid escape"
  | cutSurrogate => "unexpected end of hex escape"
  | loneSurrogate => "lone leading surrogate in hex escape"
  | controlCharacter =>
    "control character (\\u0000-\\u001F) found while parsing a string"
  | notUnicode => "invalid unicode code point"
  | tooDeep => "recursion limit exceeded"

end TextError

/-- Digits with a point where their exponent puts it: with zeros in front of a small number, and
with `tail` after a whole one. -/
def positional (d : Binary64.Decimals) (tail : List Char) : List Char :=
  let ds := Text.digits d.digits
  let n : Int := ds.length
  if d.exponent < 0 then
    '0' :: '.' :: List.replicate (-d.exponent - 1).toNat '0' ++ ds
  else if n ≤ d.exponent + 1 then
    ds ++ List.replicate (d.exponent + 1 - n).toNat '0' ++ tail
  else
    ds.take (d.exponent + 1).toNat ++ '.' :: ds.drop (d.exponent + 1).toNat

/-- Digits with a point after the first and an exponent with its sign. -/
def scientific (d : Binary64.Decimals) : List Char :=
  let mantissa := match Text.digits d.digits with
    | c :: d :: rest => c :: '.' :: d :: rest
    | ds => ds
  mantissa ++ 'e' :: (if d.exponent < 0 then '-' else '+') :: Text.digits d.exponent.natAbs

/-- The text of a double: its shortest digits, positional when the exponent of the first digit is
from -5 to 15 and scientific otherwise. -/
def doubleText (x : Binary64) : String :=
  let d := Binary64.shortest x.rank
  let body :=
    if x.rank = 0 then ['0', '.', '0']
    else if d.exponent < -5 ∨ 15 < d.exponent then scientific d
    else positional d ['.', '0']
  String.ofList (if x.negative then '-' :: body else body)

/-- The shortest digits of a double in positional notation whatever its size, without a point when
it is whole. -/
def plainDoubleText (x : Binary64) : List Char :=
  let body := if x.rank = 0 then ['0'] else positional (Binary64.shortest x.rank) []
  if x.negative then '-' :: body else body

/-- The outermost form of a value, as far as a message tells it. -/
inductive Form where
  | null
  | bool (b : Bool)
  | integer (i : Int)
  | double (x : Binary64)
  | string (s : String)
  | array
  | object
deriving DecidableEq

/-- The wording of a form. -/
def Form.text : Form → String
  | null => "null"
  | bool b => "boolean `" ++ (if b then "true" else "false") ++ "`"
  | integer i => "integer `" ++ Text.signedDecimal i ++ "`"
  | double x => "floating point `" ++ doubleText x ++ "`"
  | string s => "string " ++ Text.quoted s
  | array => "sequence"
  | object => "map"

/-- What a place in a value calls for. -/
inductive Expected where
  | string | boolean | double
  | word (name : String)
  | sequence | map | unit | stringOrMap | variantName | singleMember | decimal | timestamp
  | record (name : String)
  | recordOfSize (name : String) (size : Nat)
  | fewerItems
deriving DecidableEq

/-- The wording of an expectation. -/
def Expected.text : Expected → String
  | string => "a string"
  | boolean => "a boolean"
  | double => "f64"
  | word name => name
  | sequence => "a sequence"
  | map => "a map"
  | unit => "unit"
  | stringOrMap => "string or map"
  | variantName => "variant identifier"
  | singleMember => "map with a single key"
  | decimal => "a Decimal type representing a fixed-point number"
  | timestamp => "an RFC 3339 formatted date and time string"
  | record name => "struct " ++ name
  | recordOfSize name size =>
    "struct " ++ name ++ " with " ++ Text.decimal size ++
      (if size = 1 then " element" else " elements")
  | fewerItems => "fewer elements in array"

/-- How a value misses the shape that is wanted of it. -/
inductive ShapeError where
  | wrongType (found : Form) (expected : Expected)
  | wrongValue (found : Form) (expected : Expected)
  | wrongLength (found : Nat) (expected : Expected)
  | unknownVariant (name : String) (known : List String)
  | missingField (name : String)
  | duplicateField (name : String)
  | refused (reason : String)
deriving DecidableEq

/-- The wording of a missed shape. -/
def ShapeError.message : ShapeError → String
  | wrongType found expected => "invalid type: " ++ found.text ++ ", expected " ++ expected.text
  | wrongValue found expected => "invalid value: " ++ found.text ++ ", expected " ++ expected.text
  | wrongLength found expected =>
    "invalid length " ++ Text.decimal found ++ ", expected " ++ expected.text
  | unknownVariant name known =>
    "unknown variant `" ++ name ++ "`, expected one of " ++
      ", ".intercalate (known.map fun k => "`" ++ k ++ "`")
  | missingField name => "missing field `" ++ name ++ "`"
  | duplicateField name => "duplicate field `" ++ name ++ "`"
  | refused reason => reason

/-- A failure of reading a value from JSON. -/
inductive Error where
  | text (e : TextError)
  | shape (e : ShapeError)
deriving DecidableEq

/-- The wording of a failure. -/
def Error.message : Error → String
  | text e => e.message
  | shape e => e.message

end LedgerLookup.Json
