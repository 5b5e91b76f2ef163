/-!
# Decimal digits

Natural numbers as ASCII decimal digits.  Writing gives no leading zero; reading takes any run of
digits, so every number is read back from what is written for it.
-/

namespace LedgerLookup.Text

/-- Whether a character is one of the ten ASCII digits. -/
def isDigit (c : Char) : Bool :=
  '0' ≤ c && c ≤ '9'

/-- The decimal digits of a number, most significant first. -/
def digits (n : Nat) : List Char :=
  Nat.toDigits 10 n

/-- The number that a run of digits stands for. -/
def digitsValue (ds : List Char) : Nat :=
  Nat.ofDigitChars 10 ds 0

/-- The text of a number. -/
def decimal (n : Nat) : String :=
  String.ofList (digits n)

/-- The text of an integer, with a minus sign when it is negative. -/
def signedDecimal (i : Int) : String :=
  if i < 0 then "-" ++ decimal i.natAbs else decimal i.natAbs

/-- The number a text stands for when it is one or more digits and nothing else. -/
def readDigits? (ds : List Char) : Option Nat :=
  if ds.isEmpty || !ds.all isDigit then none else some (digitsValue ds)

/-- The number a text stands for when it is one or more digits after an optional plus sign. -/
def readUnsigned? : List Char → Option Nat
  | '+' :: ds => readDigits? ds
  | ds => readDigits? ds

end LedgerLookup.Text
