import LedgerLookup.Json.Value
import LedgerLookup.Text.Utf8

/-!
# Numerals

The numbers of JSON as they are written, and the numbers they stand for.  A numeral without
fraction and exponent stands for an integer when that fits 64 bits.  Every other numeral stands
for a double that is found from a 64-bit significand and a power of ten with one rounding each, so
it is not always the nearest one: digits that no longer fit the significand are dropped, and a
power of ten beyond `10 ^ 308` is divided out in steps.
-/

namespace LedgerLookup.Json

open Text.Utf8 (Letter)

/-- A numeral: its sign, the digits before the point, the digits after it (none when there is no
point), and the sign and digits of its exponent. -/
structure Numeral where
  negative : Bool
  whole : List Char
  fraction : List Char
  exponent : Option (Bool × List Char)
deriving DecidableEq

namespace Numeral

/-- The significand after as many more digits as 64 bits hold, and the digits left over. -/
def accumulate (significand : Nat) : List Char → Nat × List Char
  | [] => (significand, [])
  | d :: ds =>
    let next := significand * 10 + (d.toNat - 48)
    if next < 18446744073709551616 then accumulate next ds else (significand, d :: ds)

/-- The double nearest to a power of ten. -/
def powerOfTen (e : Nat) : Fraction :=
  Binary64.magnitude (Binary64.nearestRank ⟨Nat.pow 10 e, 1⟩)

/-- A fraction rounded to a double. -/
def rounded (a : Fraction) : Fraction :=
  Binary64.magnitude (Binary64.nearestRank a)

/-- The double `f * 10 ^ e`, where `f` is a double.  Three steps of `10 ^ 308` bring every double
that comes from a 64-bit significand to zero. -/
def scale (negative : Bool) : Nat → Fraction → Int → Option Binary64
  | 0, _, _ => some { Binary64.zero with negative }
  | fuel + 1, f, e =>
    if e.natAbs ≤ 308 then
      if 0 ≤ e then Binary64.ofFraction? negative (f.mul (powerOfTen e.toNat))
      else Binary64.ofFraction? negative (f.div (powerOfTen e.natAbs))
    else if f.num = 0 then some { Binary64.zero with negative }
    else if 0 ≤ e then none
    else scale negative fuel (rounded (f.div (powerOfTen 308))) (e + 308)

/-- The value of an exponent. -/
def exponentValue : Option (Bool × List Char) → Int
  | none => 0
  | some (true, ds) => -(Text.digitsValue ds : Int)
  | some (false, ds) => Text.digitsValue ds

/-- The double that a numeral stands for, if it is finite. -/
def double? (n : Numeral) : Option Binary64 :=
  let (significand, dropped) := accumulate 0 n.whole
  let (significand, unused) := accumulate significand n.fraction
  let places : Int := dropped.length - (n.fraction.length - unused.length : Nat)
  scale n.negative 4 (rounded ⟨significand, 1⟩) (places + exponentValue n.exponent)

/-- The integer that a numeral without fraction and exponent stands for, if it fits 64 bits.  A
minus sign before zero makes it a double. -/
def integer? (n : Numeral) : Option (Word .wide) :=
  if !n.fraction.isEmpty || n.exponent.isSome then none
  else
    let value := Text.digitsValue n.whole
    if n.negative then if value = 0 then none else Word.ofInt? (-(value : Int))
    else Word.ofInt? value

/-- The number that a numeral stands for. -/
def number (n : Numeral) : Except TextError Number :=
  match n.integer? with
  | some i => .ok (.whole i)
  | none =>
    match n.double? with
    | some x => .ok (.double x)
    | none => .error .numberTooLarge

end Numeral

/-- What goes wrong at a point of a text, once for a reader that needs the value there and once
for a reader that skips it. -/
structure Flaw where
  reading : TextError
  skipping : TextError
deriving DecidableEq

/-- A flaw that both readers report alike. -/
def Flaw.same (e : TextError) : Flaw := ⟨e, e⟩

/-- A place where a numeral breaks off.  Only a reader that needs the number tells the end of the
text from a wrong character. -/
def Flaw.numeral (rest : List Letter) : Flaw :=
  if rest.isEmpty then ⟨.endInValue, .badNumber⟩ else .same .badNumber

/-- The digits at the start of a text and what follows them. -/
def spanDigits : List Letter → List Char × List Letter
  | some c :: rest =>
    if Text.isDigit c then
      let (ds, rest') := spanDigits rest
      (c :: ds, rest')
    else ([], some c :: rest)
  | rest => ([], rest)
termination_by structural text => text

/-- The digits before the point: a zero alone, or a run that starts with another digit. -/
def lexWhole (text : List Letter) : Except Flaw (List Char × List Letter) :=
  match spanDigits text with
  | ([], rest) => .error (.numeral rest)
  | ('0' :: _ :: _, _) => .error (.same .badNumber)
  | (ds, rest) => .ok (ds, rest)

/-- A point and at least one digit, or nothing. -/
def lexFraction : List Letter → Except Flaw (List Char × List Letter)
  | some '.' :: rest =>
    match spanDigits rest with
    | ([], rest) => .error (.numeral rest)
    | (ds, rest) => .ok (ds, rest)
  | rest => .ok ([], rest)

/-- The sign and digits after an exponent letter. -/
def lexExponentDigits (text : List Letter) : Except Flaw ((Bool × List Char) × List Letter) :=
  let (negative, rest) := match text with
    | some '-' :: rest => (true, rest)
    | some '+' :: rest => (false, rest)
    | rest => (false, rest)
  match spanDigits rest with
  | ([], rest) => .error (.numeral rest)
  | (ds, rest) => .ok ((negative, ds), rest)

/-- An exponent, or nothing. -/
def lexExponent : List Letter → Except Flaw (Option (Bool × List Char) × List Letter)
  | some 'e' :: rest => (lexExponentDigits rest).map fun (e, rest) => (some e, rest)
  | some 'E' :: rest => (lexExponentDigits rest).map fun (e, rest) => (some e, rest)
  | rest => .ok (none, rest)

/-- The numeral at the start of a text, its sign already read. -/
def lexNumeral (negative : Bool) (text : List Letter) : Except Flaw (Numeral × List Letter) := do
  let (whole, rest) ← lexWhole text
  let (fraction, rest) ← lexFraction rest
  let (exponent, rest) ← lexExponent rest
  return (⟨negative, whole, fraction, exponent⟩, rest)

end LedgerLookup.Json
