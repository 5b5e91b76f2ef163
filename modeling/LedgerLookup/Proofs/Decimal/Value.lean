import LedgerLookup.Decimal.Basic
import Mathlib.Algebra.Order.Field.Rat
import Mathlib.Tactic.Positivity

/-!
# Values of decimals

The number that a decimal stands for.  Decimals of different scales, and zeros of either sign, can
stand for the same number.
-/

namespace LedgerLookup.Decimal

/-- The number that a decimal stands for. -/
def toRat (d : Decimal) : ℚ :=
  (if d.negative then -1 else 1) * (d.mantissa / 10 ^ d.scale)

/-- A decimal is above zero exactly when its number is. -/
theorem isPositive_iff {d : Decimal} : d.isPositive = true ↔ 0 < d.toRat := by
  have hunit : (0 : ℚ) < 10 ^ d.scale := by positivity
  have hsize : (0 : ℚ) ≤ d.mantissa / 10 ^ d.scale := by positivity
  cases hneg : d.negative with
  | true => simp [isPositive, toRat, hneg, hsize]
  | false => simp [isPositive, toRat, hneg, hunit, Nat.pos_iff_ne_zero]

end LedgerLookup.Decimal
