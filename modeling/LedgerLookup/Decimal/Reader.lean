import LedgerLookup.Decimal.Basic

/-!
# Reading decimals

Two notations.  A plain numeral is a sign, digits with at most one point, and underscores after
the first digit; a fraction with more digits than a decimal holds is rounded at the first character
that does not fit, a half away from zero, where an underscore counts as the digit zero.  A
scientific numeral is a plain one followed by `e` and an exponent of at most 28 either way.
-/

namespace LedgerLookup.Decimal

/-- Why a text is not read as a decimal. -/
inductive ReadError where
  | empty
  | unknownCharacter
  | secondPoint
  | leadingUnderscore
  | noDigits
  | tooManyDigits
  | roundedTooLarge
  | notScientific
  | scaleTooLarge (scale : Nat)
  | tooLarge
deriving DecidableEq, Repr

/-- The wording of a failure. -/
def ReadError.message : ReadError → String
  | empty => "Invalid decimal: empty"
  | unknownCharacter => "Invalid decimal: unknown character"
  | secondPoint => "Invalid decimal: two decimal points"
  | leadingUnderscore => "Invalid decimal: must start lead with a number"
  | noDigits => "Invalid decimal: no digits found"
  | tooManyDigits => "Invalid decimal: overflow from too many digits"
  | roundedTooLarge => "Invalid decimal: overflow from mantissa after rounding"
  | notScientific => "Failed to parse"
  | scaleTooLarge scale =>
    "Scale exceeds the maximum precision allowed: " ++ Text.decimal scale ++ " > 28"
  | tooLarge => "Number exceeds maximum value that can be represented."

/-- What has been read of a plain numeral: the mantissa, the places after the point if there was
one, and whether there was a digit. -/
structure Reading where
  mantissa : Nat := 0
  scale : Nat := 0
  pointed : Bool := false
  hasDigit : Bool := false

/-- The failure at a character that cannot stand where it does. -/
def misplaced (c : Char) : ReadError :=
  if c = '.' then .secondPoint
  else if c = '_' then .leadingUnderscore
  else .unknownCharacter

/-- Digits that no longer count, and underscores. -/
def skipTail : List Char → Except ReadError Unit
  | [] => .ok ()
  | c :: rest => if Text.isDigit c || c == '_' then skipTail rest else .error (misplaced c)

/-- The mantissa and scale rounded at a digit that no longer fits.  When the mantissa no longer fits
after that, its last digit goes as well. -/
def roundAt (p : Reading) (digit : Nat) : Except ReadError (Nat × Nat) :=
  if digit < 5 then .ok (p.mantissa, p.scale)
  else if p.mantissa + 1 < mantissaBound then .ok (p.mantissa + 1, p.scale)
  else if p.scale = 0 then .error .roundedTooLarge
  else .ok ((p.mantissa + 5) / 10, p.scale - 1)

/-- The digit that stands after the greatest number of places. -/
def firstDropped (c : Char) : Except ReadError Nat :=
  if Text.isDigit c then .ok (c.toNat - 48)
  else if c = '_' then .ok 0
  else .error (misplaced c)

/-- The mantissa and scale of a plain numeral whose sign has been read. -/
def readUnsigned (p : Reading) : List Char → Except ReadError (Nat × Nat)
  | [] => if p.hasDigit then .ok (p.mantissa, p.scale) else .error .noDigits
  | c :: rest =>
    if p.pointed && p.scale == maxScale then do
      let digit ← firstDropped c
      skipTail rest
      roundAt p digit
    else if Text.isDigit c then
      let digit := c.toNat - 48
      let mantissa := p.mantissa * 10 + digit
      if p.pointed && mantissaBound ≤ mantissa then do
        skipTail rest
        roundAt p digit
      else if mantissaBound ≤ mantissa then .error .tooManyDigits
      else
        readUnsigned
          { p with
            mantissa
            scale := if p.pointed then p.scale + 1 else 0
            hasDigit := true } rest
    else if c = '.' ∧ !p.pointed then readUnsigned { p with pointed := true } rest
    else if c = '_' ∧ p.hasDigit then readUnsigned p rest
    else .error (misplaced c)

/-- The sign at the start of a text, and what follows it. -/
def readSign : List Char → Bool × List Char
  | '-' :: rest => (true, rest)
  | '+' :: rest => (false, rest)
  | rest => (false, rest)

/-- The sign, mantissa and scale of a plain numeral. -/
def readParts (cs : List Char) : Except ReadError (Bool × Nat × Nat) :=
  if cs.isEmpty then .error .empty
  else
    let (negative, rest) := readSign cs
    (readUnsigned {} rest).map fun (mantissa, scale) => (negative, mantissa, scale)

/-- The decimal of its parts. -/
def ofParts (negative : Bool) (mantissa scale : Nat) : Except ReadError Decimal :=
  if maxScale < scale then .error (.scaleTooLarge scale)
  else
    match make? negative mantissa scale with
    | some d => .ok d
    | none => .error .tooLarge

/-- The decimal that a plain numeral stands for. -/
def readPlain (cs : List Char) : Except ReadError Decimal := do
  let (negative, mantissa, scale) ← readParts cs
  ofParts negative mantissa scale

/-- A text cut at the first exponent letter. -/
def cutAtExponent : List Char → Option (List Char × List Char)
  | [] => none
  | c :: rest =>
    if c = 'e' ∨ c = 'E' then some ([], rest)
    else (cutAtExponent rest).map fun (front, back) => (c :: front, back)

/-- The sign and size of an exponent: a minus sign or nothing, then a number of 32 bits that may
have a plus sign. -/
def readExponent? (cs : List Char) : Option (Bool × Nat) :=
  let (negative, rest) := match cs with
    | '-' :: rest => (true, rest)
    | rest => (false, rest)
  match Text.readUnsigned? rest with
  | some n => if n < 4294967296 then some (negative, n) else none
  | none => none

/-- A decimal times a power of ten.  The scale takes up the exponent as far as it can; beyond that
the result is rounded or a whole number. -/
def scaleBy (d : Decimal) (negative : Bool) (exponent : Nat) : Except ReadError Decimal :=
  if maxScale < exponent then .error (.scaleTooLarge exponent)
  else if negative then .ok (d.shiftDown exponent)
  else if exponent ≤ d.scale then ofParts d.negative d.mantissa (d.scale - exponent)
  else ofParts d.negative (d.mantissa * Nat.pow 10 (exponent - d.scale)) 0

/-- The decimal that a scientific numeral stands for. -/
def readScientific (cs : List Char) : Except ReadError Decimal :=
  match cutAtExponent cs with
  | none => .error .notScientific
  | some (front, back) => do
    let d ← readPlain front
    match readExponent? back with
    | none => throw .notScientific
    | some (negative, exponent) => d.scaleBy negative exponent

/-- The decimal that a numeral in either notation stands for.  The failure is that of the second
notation. -/
def read (cs : List Char) : Except ReadError Decimal :=
  match readPlain cs with
  | .ok d => .ok d
  | .error _ => readScientific cs

end LedgerLookup.Decimal
