/-!
# Finite double-precision numbers

A finite double is a sign and a rank: its place among the non-negative doubles in increasing order.
The rank is also the bit pattern without the sign, so that the neighbours of a double are one rank
away and a carry out of the significand needs no care.  Arithmetic is exact arithmetic on fractions
followed by one rounding to the nearest double, ties to the even rank.
-/

namespace LedgerLookup

/-- The number of doubles between one power of two and the next, which is the fifty-second power
of two and the value of the leading bit of a significand. -/
def Binary64.octave : Nat := 4503599627370496

/-- The rank of infinity: one above the rank of the greatest finite double. -/
def Binary64.infiniteRank : Nat := 2047 * octave

/-- A finite double-precision number. -/
structure Binary64 where
  negative : Bool
  rank : Nat
  finite : rank < Binary64.infiniteRank
deriving DecidableEq, Repr

/-- A non-negative fraction. -/
structure Fraction where
  num : Nat
  den : Nat
deriving DecidableEq, Repr

namespace Fraction

/-- The fraction `m * 2 ^ e`. -/
def scaled (m : Nat) (e : Int) : Fraction :=
  if 0 ≤ e then ⟨m * Nat.pow 2 e.toNat, 1⟩ else ⟨m, Nat.pow 2 (-e).toNat⟩

/-- The product of two fractions. -/
def mul (a b : Fraction) : Fraction := ⟨a.num * b.num, a.den * b.den⟩

/-- The quotient of two fractions. -/
def div (a b : Fraction) : Fraction := ⟨a.num * b.den, a.den * b.num⟩

/-- The sum of two fractions. -/
def add (a b : Fraction) : Fraction := ⟨a.num * b.den + b.num * a.den, a.den * b.den⟩

/-- Whether one fraction is at most another. -/
def le (a b : Fraction) : Bool := a.num * b.den ≤ b.num * a.den

/-- Whether one fraction is below another. -/
def lt (a b : Fraction) : Bool := a.num * b.den < b.num * a.den

/-- The nearest whole number, a half going up. -/
def round (a : Fraction) : Nat := (2 * a.num + a.den) / (2 * a.den)

end Fraction

namespace Binary64

/-- Positive zero. -/
def zero : Binary64 := ⟨false, 0, by decide⟩

/-- The significand and the binary exponent of a rank. -/
def split (rank : Nat) : Nat × Int :=
  if rank < octave then (rank, -1074) else (octave + rank % octave, (rank / octave : Nat) - 1075)

/-- The exact value of the non-negative double of a rank. -/
def magnitude (rank : Nat) : Fraction :=
  let (m, e) := split rank
  .scaled m e

/-- A quotient of natural numbers as a whole number, ties to the even one. -/
def roundHalfEven (num den : Nat) : Nat :=
  let q := num / den
  let r := num % den
  if 2 * r < den then q else if den < 2 * r then q + 1 else q + q % 2

/-- The rank nearest to a fraction with a positive denominator; it may be the rank of infinity or
above.  The unit in the last place is chosen so that the quotient has fifty-three bits, or is that
of the least doubles. -/
def nearestRank (a : Fraction) : Nat :=
  if a.num = 0 then 0
  else
    let guess : Int := (a.num.log2 : Int) - a.den.log2 - 52
    let shifted (e : Int) : Nat × Nat :=
      if 0 ≤ e then (a.num, a.den * Nat.pow 2 e.toNat) else (a.num * Nat.pow 2 (-e).toNat, a.den)
    let e :=
      let (n, d) := shifted guess
      if n / d < octave then guess - 1 else guess
    let e := max e (-1074)
    let (n, d) := shifted e
    (e + 1074).toNat * octave + roundHalfEven n d

/-- The double nearest to a fraction with the given sign, unless that is infinite. -/
def ofFraction? (negative : Bool) (a : Fraction) : Option Binary64 :=
  let rank := nearestRank a
  if h : rank < infiniteRank then some ⟨negative, rank, h⟩ else none

/-- The exact absolute value of a double. -/
def abs (x : Binary64) : Fraction := magnitude x.rank

/-- The double nearest to an integer of at most 128 bits. -/
def ofInt (i : Int) : Binary64 :=
  (ofFraction? (i < 0) ⟨i.natAbs, 1⟩).getD zero

/-- A double with the opposite sign. -/
def neg (x : Binary64) : Binary64 := { x with negative := !x.negative }

/-- Equality as numbers: the two zeros are equal. -/
def equal (x y : Binary64) : Bool :=
  x.rank == y.rank && (x.negative == y.negative || x.rank == 0)

instance : BEq Binary64 := ⟨equal⟩

end Binary64

end LedgerLookup
