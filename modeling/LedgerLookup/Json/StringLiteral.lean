import LedgerLookup.Json.Numeral
import LedgerLookup.Text.Percent

/-!
# String literals

The strings of JSON as they are written.  A literal is first cut into units: characters, code units
written as `\u` escapes, and gaps where the bytes of the text form no character.  Skipping a literal
needs no more than that.  Reading it also joins surrogate pairs, and refuses a surrogate without its
partner and a gap.
-/

namespace LedgerLookup.Json

open Text.Utf8 (Letter letterSize)

/-- A unit of a string literal. -/
inductive LiteralUnit where
  | char (c : Char)
  | codeUnit (u : Nat)
  | gap
deriving DecidableEq

/-- How a string literal ends. -/
inductive LiteralEnd where
  | closed
  | textEnds
  | control
  | unknownEscape
  | badHex
deriving DecidableEq

/-- What a reader that only skips the literal reports about its end, if anything. -/
def LiteralEnd.skipError? : LiteralEnd → Option TextError
  | closed => none
  | textEnds => some .endInString
  | control => some .controlCharacter
  | unknownEscape | badHex => some .badEscape

/-- The character that a short escape stands for. -/
def shortEscape? (c : Char) : Option Char :=
  match c with
  | '"' => some '"'
  | '\\' => some '\\'
  | '/' => some '/'
  | 'b' => some '\x08'
  | 'f' => some '\x0c'
  | 'n' => some '\n'
  | 'r' => some '\r'
  | 't' => some '\t'
  | _ => none

/-- The value of a hexadecimal digit in a text. -/
def hexLetter? : Letter → Option Nat
  | some c => Text.Percent.hexValue? c
  | none => none

/-- How a literal ends where four hexadecimal digits are missing: with the text when fewer than four
bytes are left. -/
def hexEnd (text : List Letter) : LiteralEnd :=
  if (text.take 4).foldl (fun n l => n + letterSize l) 0 < 4 then .textEnds else .badHex

/-- The units of a string literal after its opening quote, how it ends, and what follows it. -/
def lexString : List Letter → List LiteralUnit × LiteralEnd × List Letter
  | [] => ([], .textEnds, [])
  | some '"' :: rest => ([], .closed, rest)
  | some '\\' :: some 'u' :: a :: b :: c :: d :: rest =>
    match hexLetter? a, hexLetter? b, hexLetter? c, hexLetter? d with
    | some a, some b, some c, some d =>
      let (units, ending, rest) := lexString rest
      (.codeUnit (((a * 16 + b) * 16 + c) * 16 + d) :: units, ending, rest)
    | _, _, _, _ => ([], hexEnd (a :: b :: c :: d :: rest), [])
  | some '\\' :: some 'u' :: rest => ([], hexEnd rest, [])
  | some '\\' :: some c :: rest =>
    match shortEscape? c with
    | some c =>
      let (units, ending, rest) := lexString rest
      (.char c :: units, ending, rest)
    | none => ([], .unknownEscape, [])
  | some '\\' :: none :: _ => ([], .unknownEscape, [])
  | [some '\\'] => ([], .textEnds, [])
  | some c :: rest =>
    if c.toNat < 0x20 then ([], .control, [])
    else
      let (units, ending, rest) := lexString rest
      (.char c :: units, ending, rest)
  | none :: rest =>
    let (units, ending, rest) := lexString rest
    (.gap :: units, ending, rest)
termination_by structural text => text

/-- What a reader reports after a leading surrogate that no escape follows. -/
def cutSurrogateError : LiteralEnd → TextError
  | .textEnds => .endInString
  | .badHex => .badEscape
  | _ => .cutSurrogate

/-- The characters of a literal, gaps being kept as `none`.  A leading surrogate joins the
trailing one that must follow it. -/
def joinUnits (ending : LiteralEnd) : List LiteralUnit → Except TextError (List Letter)
  | [] => match ending.skipError? with
    | some e => .error e
    | none => .ok []
  | .char c :: rest => (joinUnits ending rest).map (some c :: ·)
  | .gap :: rest => (joinUnits ending rest).map (none :: ·)
  | .codeUnit u :: rest =>
    if 0xDC00 ≤ u ∧ u ≤ 0xDFFF then .error .loneSurrogate
    else if 0xD800 ≤ u ∧ u ≤ 0xDBFF then
      match rest with
      | .codeUnit v :: rest =>
        if 0xDC00 ≤ v ∧ v ≤ 0xDFFF then
          (joinUnits ending rest).map
            (some (Char.ofNat (0x10000 + (u - 0xD800) * 0x400 + (v - 0xDC00))) :: ·)
        else .error .loneSurrogate
      | [] => .error (cutSurrogateError ending)
      | _ => .error .cutSurrogate
    else (joinUnits ending rest).map (some (Char.ofNat u) :: ·)
termination_by structural units => units

/-- The string that a literal stands for. -/
def readUnits (units : List LiteralUnit) (ending : LiteralEnd) : Except TextError String := do
  let letters ← joinUnits ending units
  match letters.mapM id with
  | some cs => return String.ofList cs
  | none => throw .notUnicode

end LedgerLookup.Json
