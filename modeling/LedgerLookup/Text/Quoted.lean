import LedgerLookup.Text.Printable

/-!
# Quoted texts in messages

A text as a message shows it: between double quotes, with short escapes for the usual controls and
`\u{..}` for every character that does not show as itself.
-/

namespace LedgerLookup.Text

/-- The lower-case hexadecimal digits of a number, without leading zeros. -/
def lowerHex (n : Nat) : List Char :=
  Nat.toDigits 16 n

/-- One character of a quoted text. -/
def quoteChar (c : Char) : List Char :=
  if c = '\x00' then ['\\', '0']
  else if c = '\t' then ['\\', 't']
  else if c = '\n' then ['\\', 'n']
  else if c = '\r' then ['\\', 'r']
  else if c = '"' then ['\\', '"']
  else if c = '\\' then ['\\', '\\']
  else if isPrintable c then [c]
  else ['\\', 'u', '\x7b'] ++ lowerHex c.toNat ++ ['\x7d']

/-- A string between double quotes. -/
def quoted (s : String) : String :=
  String.ofList ('"' :: s.toList.flatMap quoteChar ++ ['"'])

end LedgerLookup.Text
