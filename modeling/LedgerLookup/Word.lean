/-!
# Integers of a fixed width

The integer ranges that settings and payload fields have, and integers that are known to lie in
one of them.  Reading an integer into a range refuses what lies outside; nothing wraps around.
-/

namespace LedgerLookup

/-- A range of integers that a field can have.  `wide` is the union of the two 64-bit ranges. -/
inductive Width where
  | u16 | u64 | i32 | i64 | wide
deriving DecidableEq, Repr

namespace Width

/-- The least integer of a range. -/
def low : Width → Int
  | u16 | u64 => 0
  | i32 => -2147483648
  | i64 | wide => -9223372036854775808

/-- The integer just above a range. -/
def high : Width → Int
  | u16 => 65536
  | i32 => 2147483648
  | i64 => 9223372036854775808
  | u64 | wide => 18446744073709551616

end Width

/-- An integer in the range `w`. -/
structure Word (w : Width) where
  val : Int
  low_le : w.low ≤ val := by decide
  lt_high : val < w.high := by decide
deriving DecidableEq

namespace Word

variable {w : Width}

protected theorem ext {i j : Word w} (h : i.val = j.val) : i = j := by
  cases i
  cases j
  cases h
  rfl

/-- An integer as a member of a range, if it lies there. -/
def ofInt? (i : Int) : Option (Word w) :=
  if h : w.low ≤ i ∧ i < w.high then some ⟨i, h.1, h.2⟩ else none

@[simp] theorem ofInt?_val (i : Word w) : (ofInt? i.val : Option (Word w)) = some i :=
  dif_pos ⟨i.low_le, i.lt_high⟩

/-- Every range contains zero. -/
def zero : Word w :=
  ⟨0, by cases w <;> decide, by cases w <;> decide⟩

/-- A member of any range as a member of the widest. -/
def widen (i : Word w) : Word .wide :=
  ⟨i.val, by have := i.low_le; cases w <;> simp [Width.low] at * <;> omega,
    by have := i.lt_high; cases w <;> simp [Width.high] at * <;> omega⟩

/-- The absolute value as a natural number. -/
def toNat (i : Word w) : Nat := i.val.toNat

end Word

end LedgerLookup
