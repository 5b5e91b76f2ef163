import LedgerLookup.Domain.Label
import LedgerLookup.Domain.Punycode

/-!
# Domain names

The ASCII form of a domain name.  A name is read character by character and composed; a label with
characters beyond ASCII is then written in Punycode after `xn--`, and a label that is already so
written has to stand for a label that would be written that way.
-/

namespace LedgerLookup.Domain

/-- What a label in Punycode starts with. -/
def punycodeMark : List Char := ['x', 'n', '-', '-']

/-- The longest label that is written in Punycode. -/
def maxWritten : Nat := 1000

/-- The longest label that is read from Punycode. -/
def maxRead : Nat := 2000

/-- Whether a text is of ASCII characters only. -/
def isAscii (cs : List Char) : Bool :=
  cs.all (·.toNat < 128)

/-- The label that a label in Punycode stands for, given what follows the mark. -/
def readPunycode? (cs : List Char) : Option (List Char) :=
  if maxRead < cs.length ∨ !isAscii cs then none
  else
    match Punycode.decode? cs with
    | some label => if !isAscii label && isNormalLabel label then some label else none
    | none => none

/-- The label that is meant by a written one. -/
def readLabel? (label : List Char) : Option (List Char) := do
  let label ←
    if punycodeMark.isPrefixOf label then readPunycode? (label.drop punycodeMark.length)
    else some label
  if isValidLabel label then some label else none

/-- A label in ASCII. -/
def writeLabel? (label : List Char) : Option (List Char) :=
  if isAscii label then some label
  else if maxWritten < label.length then none
  else some (punycodeMark ++ Punycode.encode label)

/-- The characters that may not stand in a name. -/
def isForbidden (c : Char) : Bool :=
  c.toNat ≤ 0x20 || c.toNat == 0x7F || "#/:<>?@[\\]^|%".toList.contains c

/-- The ASCII form of a domain name. -/
def toAscii? (name : List Char) : Option (List Char) := do
  let characters ← name.mapM readChar?
  let labels ← (Text.cutAt '.' (Text.Normal.composed characters.flatten)).mapM readLabel?
  if labels.any (·.any isRightward) && !labels.all oneDirection then none
  else
    let text := Text.joinWith '.' (← labels.mapM writeLabel?)
    if text.any isForbidden then none else some text

end LedgerLookup.Domain
