import LedgerLookup.Text.Blank
import LedgerLookup.Text.Digits
import LedgerLookup.Text.Utf8

/-!
# Timestamps

Moments of time in the notation of RFC 3339, read with the liberties that many writers take:
blanks around the parts, a blank or a small `t` between date and time, years of more than four
digits after a sign, and an offset with or without a colon.  A moment is written in Coordinated
Universal Time, with as many digits of the second in groups of three as it needs.  Leap seconds
are kept.
-/

namespace LedgerLookup

/-- A moment: seconds since the start of 1970 and nanoseconds after that.  Nanoseconds
from `10 ^ 9` on lie in the leap second that follows. -/
structure Timestamp where
  second : Int
  nano : Nat
deriving DecidableEq, Repr

namespace Timestamp

/-- The number of nanoseconds in a second. -/
def nanosPerSecond : Nat := 1000000000

/-- Why a text is not read as a moment. -/
inductive ReadError where
  | outOfRange
  | noSuchMoment
  | invalid
  | tooShort
  | tooLong
deriving DecidableEq, Repr

/-- The wording of a failure. -/
def ReadError.message : ReadError → String
  | outOfRange => "input is out of range"
  | noSuchMoment => "no possible date and time matching input"
  | invalid => "input contains invalid characters"
  | tooShort => "premature end of input"
  | tooLong => "trailing input"

/-- The number of days from the start of 1970 to a day of the Gregorian calendar. -/
def daysOfDate (year : Int) (month day : Nat) : Int :=
  let y := if month ≤ 2 then year - 1 else year
  let era := y.fdiv 400
  let yearOfEra := y - era * 400
  let dayOfYear : Nat := (153 * ((month + 9) % 12) + 2) / 5 + day - 1
  era * 146097 + (yearOfEra * 365 + yearOfEra / 4 - yearOfEra / 100 + dayOfYear) - 719468

/-- The year, month and day that lie a number of days after the start of 1970. -/
def dateOfDays (days : Int) : Int × Nat × Nat :=
  let z := days + 719468
  let era := z.fdiv 146097
  let d := (z - era * 146097).toNat
  let yearOfEra := (d - d / 1460 + d / 36524 - d / 146096) / 365
  let dayOfYear := d - (365 * yearOfEra + yearOfEra / 4 - yearOfEra / 100)
  let mp := (5 * dayOfYear + 2) / 153
  let month := if mp < 10 then mp + 3 else mp - 9
  let year := era * 400 + yearOfEra + (if month ≤ 2 then 1 else 0)
  (year, month, dayOfYear - (153 * mp + 2) / 5 + 1)

/-- Whether a year has a leap day. -/
def isLeapYear (year : Int) : Bool :=
  year % 4 == 0 && (year % 100 != 0 || year % 400 == 0)

/-- The number of days of a month. -/
def daysInMonth (year : Int) (month : Nat) : Nat :=
  if month = 2 then if isLeapYear year then 29 else 28
  else if month = 4 ∨ month = 6 ∨ month = 9 ∨ month = 11 then 30
  else 31

/-- The years that are kept. -/
def isKeptYear (year : Int) : Bool :=
  -262143 ≤ year && year ≤ 262142

/-- A number of at least one and at most `width` digits, and what follows it. -/
def readNumber (width : Nat) (cs : List Char) : Except ReadError (Nat × List Char) :=
  let ds := (cs.take width).takeWhile Text.isDigit
  if cs.isEmpty then .error .tooShort
  else if ds.isEmpty then .error .invalid
  else if 9223372036854775808 ≤ Text.digitsValue ds then .error .outOfRange
  else .ok (Text.digitsValue ds, cs.drop ds.length)

/-- A number of two digits that may be short, from `low` to `high`, after blanks. -/
def readPart (low high : Nat) (cs : List Char) : Except ReadError (Nat × List Char) := do
  let (n, rest) ← readNumber 2 (Text.trimStart cs)
  if low ≤ n ∧ n ≤ high then return (n, rest) else throw .outOfRange

/-- A year: four digits at most, or any number of them after a sign. -/
def readYear (cs : List Char) : Except ReadError (Int × List Char) := do
  let (year, rest) ← match Text.trimStart cs with
    | '-' :: rest => (readNumber rest.length rest).map fun (n, rest) => (-(n : Int), rest)
    | '+' :: rest => (readNumber rest.length rest).map fun (n, rest) => ((n : Int), rest)
    | rest => (readNumber 4 rest).map fun (n, rest) => ((n : Int), rest)
  if -2147483648 ≤ year ∧ year < 2147483648 then return (year, rest) else throw .outOfRange

/-- A character that has to come next, after blanks. -/
def readMark (mark : Char) (cs : List Char) : Except ReadError (List Char) :=
  match Text.trimStart cs with
  | [] => .error .tooShort
  | c :: rest => if c = mark then .ok rest else .error .invalid

/-- The nanoseconds after a point, if there is one.  Digits after the ninth do not count. -/
def readFraction : List Char → Except ReadError (Nat × List Char)
  | '.' :: rest => do
    let (n, after) ← readNumber 9 rest
    let count := rest.length - after.length
    return (n * Nat.pow 10 (9 - count), after.dropWhile Text.isDigit)
  | rest => .ok (0, rest)

/-- Two digits that have to come next. -/
def readTwoDigits (cs : List Char) : Except ReadError (Nat × List Char) :=
  if (Text.Utf8.encode (cs.take 2)).length < 2 then .error .tooShort
  else
    match cs with
    | a :: b :: rest =>
      if Text.isDigit a ∧ Text.isDigit b then .ok (Text.digitsValue [a, b], rest)
      else .error .invalid
    | _ => .error .invalid

/-- The sign of an offset and what follows it. -/
def readOffsetSign : List Char → Except ReadError (Bool × List Char)
  | [] => .error .tooShort
  | c :: rest =>
    if c = '+' then .ok (false, rest)
    else if c = '-' ∨ c = '\u2212' then .ok (true, rest)
    else .error .invalid

/-- The offset from Coordinated Universal Time in seconds. -/
def readOffset (cs : List Char) : Except ReadError (Int × List Char) :=
  if (cs.take 3).map Char.toUpper = ['U', 'T', 'C'] then .ok (0, cs.drop 3)
  else
    match cs with
    | 'Z' :: rest | 'z' :: rest => .ok (0, rest)
    | cs => do
      let (negative, rest) ← readOffsetSign cs
      let (hours, rest) ← readTwoDigits rest
      let rest := rest.dropWhile fun c => c == ':' || Text.isBlank c
      let (minutes, rest) ← readTwoDigits rest
      if 60 ≤ minutes then throw .outOfRange
      let seconds : Int := hours * 3600 + minutes * 60
      return (if negative then -seconds else seconds, rest)

/-- The mark between date and time. -/
def readSeparator : List Char → Except ReadError (List Char)
  | [] => .error .tooShort
  | c :: rest => if c = 'T' ∨ c = 't' ∨ c = ' ' then .ok rest else .error .invalid

/-- The moment that a text names. -/
def read (cs : List Char) : Except ReadError Timestamp := do
  let (year, rest) ← readYear cs
  let rest ← readMark '-' rest
  let (month, rest) ← readPart 1 12 rest
  let rest ← readMark '-' rest
  let (day, rest) ← readPart 1 31 rest
  let rest ← readSeparator rest
  let (hour, rest) ← readPart 0 23 rest
  let rest ← readMark ':' rest
  let (minute, rest) ← readPart 0 59 rest
  let rest ← readMark ':' rest
  let (second, rest) ← readPart 0 60 rest
  let (nano, rest) ← readFraction rest
  let (offset, rest) ← readOffset (Text.trimStart rest)
  if !(Text.trimStart rest).isEmpty then throw .tooLong
  if !isKeptYear year || daysInMonth year month < day then throw .outOfRange
  if 86400 ≤ offset.natAbs then throw .outOfRange
  let leap := second = 60
  let clock : Nat := hour * 3600 + minute * 60 + (if leap then 59 else second)
  let moment : Int := daysOfDate year month day * 86400 + clock - offset
  if !isKeptYear (dateOfDays (moment.fdiv 86400)).1 then throw .noSuchMoment
  return ⟨moment, if leap then nano + nanosPerSecond else nano⟩

/-- A number with zeros in front of it up to a width. -/
def padded (width n : Nat) : List Char :=
  let ds := Text.digits n
  List.replicate (width - ds.length) '0' ++ ds

/-- A year with four digits, or with a sign and at least four when it lies outside 0 to 9999. -/
def yearText (year : Int) : List Char :=
  if 0 ≤ year ∧ year ≤ 9999 then padded 4 year.toNat
  else (if year < 0 then '-' else '+') :: padded 4 year.natAbs

/-- The digits of the second after the point, in as few groups of three as show all of them. -/
def fractionText (nano : Nat) : List Char :=
  if nano = 0 then []
  else if nano % 1000000 = 0 then '.' :: padded 3 (nano / 1000000)
  else if nano % 1000 = 0 then '.' :: padded 6 (nano / 1000)
  else '.' :: padded 9 nano

/-- The text of a moment. -/
def text (t : Timestamp) : String :=
  let days := t.second.fdiv 86400
  let clock := (t.second - days * 86400).toNat
  let (year, month, day) := dateOfDays days
  let leap := nanosPerSecond ≤ t.nano
  let second := clock % 60 + (if leap then 1 else 0)
  let nano := if leap then t.nano - nanosPerSecond else t.nano
  String.ofList
    (yearText year ++ '-' :: padded 2 month ++ '-' :: padded 2 day ++ 'T' ::
      padded 2 (clock / 3600) ++ ':' :: padded 2 (clock / 60 % 60) ++ ':' ::
      padded 2 second ++ fractionText nano ++ ['Z'])

end Timestamp

end LedgerLookup
