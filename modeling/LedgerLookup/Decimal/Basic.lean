import LedgerLookup.Binary64.Basic
import LedgerLookup.Text.Digits

/-!
# Decimals

Decimal numbers with a mantissa of at most 96 bits and at most 28 decimal places.  The number of
places is part of a decimal, so that `1.50` and `1.5` are different decimals of the same value.  A
sign before zero is kept only where a number that is not zero was rounded to it.
-/

namespace LedgerLookup

/-- A decimal number: `mantissa / 10 ^ scale`, negated if `negative`. -/
structure Decimal where
  negative : Bool
  mantissa : Nat
  scale : Nat
  mantissa_lt : mantissa < 79228162514264337593543950336
  scale_le : scale ≤ 28
deriving DecidableEq

namespace Decimal

/-- The greatest number of decimal places. -/
def maxScale : Nat := 28

/-- The mantissas lie below this bound, the ninety-sixth power of two. -/
def mantissaBound : Nat := 79228162514264337593543950336

/-- The decimal of a sign, a mantissa and a scale that fit.  Zero gets no sign. -/
def make? (negative : Bool) (mantissa scale : Nat) : Option Decimal :=
  if h : mantissa < 79228162514264337593543950336 ∧ scale ≤ 28 then
    some ⟨negative && mantissa != 0, mantissa, scale, h.1, h.2⟩
  else none

/-- Zero without decimal places. -/
def zero : Decimal := ⟨false, 0, 0, by decide, by decide⟩

/-- A number without its last `count` digits, rounded at the first of them, a half away from
zero. -/
def dropDigits (count n : Nat) : Nat :=
  if count = 0 then n else (n / Nat.pow 10 (count - 1) + 5) / 10

theorem dropDigits_le (count n : Nat) : dropDigits count n ≤ n := by
  unfold dropDigits
  split
  · exact Nat.le_refl n
  · have h := Nat.div_le_self n (Nat.pow 10 (count - 1))
    by_cases hn : n / Nat.pow 10 (count - 1) = 0
    · rw [hn]
      exact Nat.zero_le n
    · omega

/-- A decimal divided by a power of ten.  The places beyond the greatest scale are rounded off; the
sign stays even when nothing else does. -/
def shiftDown (d : Decimal) (exponent : Nat) : Decimal where
  negative := d.negative
  mantissa := dropDigits (d.scale + exponent - maxScale) d.mantissa
  scale := min (d.scale + exponent) maxScale
  mantissa_lt := Nat.lt_of_le_of_lt (dropDigits_le _ _) d.mantissa_lt
  scale_le := Nat.min_le_right _ _

/-- Whether a decimal is above zero. -/
def isPositive (d : Decimal) : Bool :=
  !d.negative && d.mantissa != 0

/-- The text of a decimal, with as many places as it has. -/
def text (d : Decimal) : String :=
  let ds := Text.digits d.mantissa
  let ds := List.replicate (d.scale + 1 - ds.length) '0' ++ ds
  let whole := ds.take (ds.length - d.scale)
  let fraction := ds.drop (ds.length - d.scale)
  String.ofList
    ((if d.negative then ['-'] else []) ++ whole ++
      (if d.scale = 0 then [] else '.' :: fraction))

/-- A fraction rounded to a double, as a fraction again. -/
def roundedDouble (a : Fraction) : Fraction :=
  Binary64.magnitude (Binary64.nearestRank a)

/-- The double that a decimal is written as.  Whole and fractional part are rounded apart, added,
and then rounded to as many places as the decimal has. -/
def toDouble (d : Decimal) : Binary64 :=
  let unit := Nat.pow 10 d.scale
  let whole := roundedDouble ⟨d.mantissa / unit, 1⟩
  let part := roundedDouble ⟨d.mantissa % unit, 1⟩
  let unit := roundedDouble ⟨unit, 1⟩
  let fraction := roundedDouble (part.div unit)
  let value :=
    if fraction.num = 0 then whole
    else
      let scaled := roundedDouble ((roundedDouble (whole.add fraction)).mul unit)
      .div ⟨scaled.round, 1⟩ unit
  (Binary64.ofFraction? d.negative value).getD .zero

end Decimal

end LedgerLookup
