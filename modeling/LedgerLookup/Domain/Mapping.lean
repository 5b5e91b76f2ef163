import LedgerLookup.Domain.MappingTable

/-!
# Reading the characters of a domain name

What a character of a domain name is read as: itself, other characters, nothing at all, or an error.
Capital letters are read as small ones, and the many forms of a letter or dot as the plain one.
-/

namespace LedgerLookup.Domain

/-- The code point that stands for one of a run. -/
def shifted? (n : Nat) : Option Nat :=
  shiftRows.findSome? fun
    | [low, high, step, target] =>
      if low ≤ n ∧ n ≤ high ∧ (n - low) % step = 0 then some (target + (n - low)) else none
    | _ => none

/-- The code points that are listed in place of a code point. -/
def listed? (n : Nat) : Option (List Nat) :=
  replacementRows.findSome? fun
    | m :: parts => if m = n then some parts else none
    | [] => none

/-- The code points that a code point is read as, unless it may not be written.  Every ASCII
character may be written here; a name as a whole admits fewer of them. -/
def readCodePoint? (n : Nat) : Option (List Nat) :=
  if n < 128 then some [if 65 ≤ n ∧ n ≤ 90 then n + 32 else n]
  else if !Text.inRanges admittedRanges n then none
  else if Text.inRanges droppedRanges n then some []
  else
    match shifted? n with
    | some m => some [m]
    | none => some ((listed? n).getD [n])

/-- The characters that a character is read as, unless it may not be written. -/
def readChar? (c : Char) : Option (List Char) :=
  (readCodePoint? c.toNat).map (·.map Char.ofNat)

/-- Whether a character is read as itself. -/
def isKept (c : Char) : Bool :=
  readCodePoint? c.toNat == some [c.toNat]

end LedgerLookup.Domain
