import LedgerLookup.Text.Utf8

/-!
# Percent-encoding

A text as one component of a URL.  Letters, digits, `-`, `_`, `.` and `~` stand for themselves;
every other byte of the UTF-8 form is written as a percent sign and two upper-case hexadecimal
digits.  `decode?` is the reading side: it undoes the escapes and then reads UTF-8.
-/

namespace LedgerLookup.Text.Percent

/-- The characters that need no escape in any component of a URL. -/
def isUnreserved (c : Char) : Bool :=
  ('A' ≤ c && c ≤ 'Z') || ('a' ≤ c && c ≤ 'z') || ('0' ≤ c && c ≤ '9') ||
    c == '-' || c == '_' || c == '.' || c == '~'

/-- The upper-case hexadecimal digit of a number below sixteen. -/
def hexDigit (n : Nat) : Char :=
  if n < 10 then Char.ofNat (48 + n) else Char.ofNat (55 + n)

/-- The value of a hexadecimal digit of either case. -/
def hexValue? (c : Char) : Option Nat :=
  if '0' ≤ c ∧ c ≤ '9' then some (c.toNat - 48)
  else if 'A' ≤ c ∧ c ≤ 'F' then some (c.toNat - 55)
  else if 'a' ≤ c ∧ c ≤ 'f' then some (c.toNat - 87)
  else none

/-- A byte as an escape. -/
def escape (b : UInt8) : List Char :=
  ['%', hexDigit (b.toNat / 16), hexDigit (b.toNat % 16)]

/-- A byte as it stands in a component. -/
def encodeByte (b : UInt8) : List Char :=
  let c := Char.ofNat b.toNat
  if b.toNat < 0x80 && isUnreserved c then [c] else escape b

/-- A text as a component. -/
def encode (cs : List Char) : List Char :=
  (Utf8.encode cs).flatMap encodeByte

/-- The bytes that a component stands for; a percent sign without two digits stands for itself. -/
def bytes : List Char → List UInt8
  | [] => []
  | c :: rest =>
    if c = '%' then
      match rest with
      | h :: l :: rest' =>
        match hexValue? h, hexValue? l with
        | some hi, some lo => .ofNat (hi * 16 + lo) :: bytes rest'
        | _, _ => Utf8.encodeChar c ++ bytes (h :: l :: rest')
      | rest => Utf8.encodeChar c ++ bytes rest
    else Utf8.encodeChar c ++ bytes rest

/-- The text that a component stands for, if its bytes are well-formed UTF-8. -/
def decode? (cs : List Char) : Option (List Char) :=
  Utf8.decode? (bytes cs)

/-- A string as a component. -/
def encoded (s : String) : String :=
  String.ofList (encode s.toList)

end LedgerLookup.Text.Percent
