import LedgerLookup.Binary64.Basic
import LedgerLookup.Text.Digits

/-!
# Shortest decimal digits

The decimal digits of a double: as few as read back as the same double, and of those the nearest
to it.  The reals that round to a double of significand `m` and exponent `e` lie between the
midpoints to its two neighbours; the midpoints belong to it when `m` is even.  On each decimal
grid, from the coarsest, only the two points around the value need a test.
-/

namespace LedgerLookup.Binary64

/-- Decimal digits without trailing zeros and the decimal exponent of the first of them. -/
structure Decimals where
  digits : Nat
  exponent : Int
deriving DecidableEq, Repr

/-- Whether a fraction rounds to the positive double of a rank. -/
def roundsTo (rank : Nat) (a : Fraction) : Bool :=
  let (m, e) := split rank
  let even := m % 2 == 0
  let below : Fraction :=
    if m = octave ∧ 2 * octave ≤ rank then .scaled (4 * m - 1) (e - 2)
    else .scaled (2 * m - 1) (e - 1)
  let above : Fraction := .scaled (2 * m + 1) (e - 1)
  if even then below.le a && a.le above else below.lt a && a.lt above

/-- The fraction `c * 10 ^ k`. -/
def onGrid (c : Nat) (k : Int) : Fraction :=
  if 0 ≤ k then ⟨c * Nat.pow 10 k.toNat, 1⟩ else ⟨c, Nat.pow 10 (-k).toNat⟩

/-- The decimal exponent of a positive fraction below one, found by counting up the decimal places
until a digit shows. -/
def negativeExponent (a : Fraction) : Nat → Nat → Int
  | 0, places => -places
  | fuel + 1, places =>
    if a.den ≤ a.num * Nat.pow 10 places then -places else negativeExponent a fuel (places + 1)

/-- The exponent of the power of ten just at or below a positive fraction. -/
def decimalExponent (a : Fraction) : Int :=
  if a.den ≤ a.num then ((Text.digits (a.num / a.den)).length : Int) - 1
  else negativeExponent a 330 1

/-- A number without its trailing zeros, with the count of them. -/
def stripZeros : Nat → Nat → Nat × Nat
  | 0, n => (n, 0)
  | fuel + 1, n =>
    if n ≠ 0 ∧ n % 10 = 0 then
      let (m, k) := stripZeros fuel (n / 10)
      (m, k + 1)
    else (n, 0)

/-- The point of the grid `10 ^ k` nearest to a double among its two neighbours there that read
back, the even one at a tie. -/
def gridPoint? (rank : Nat) (k : Int) : Option Nat :=
  let v := magnitude rank
  let unit := onGrid 1 k
  let q := v.div unit
  let low := q.num / q.den
  let high := low + 1
  let lowOk := 0 < low && roundsTo rank (onGrid low k)
  let highOk := roundsTo rank (onGrid high k)
  let twice := 2 * (q.num % q.den)
  if lowOk && highOk then
    if twice < q.den then some low
    else if q.den < twice then some high
    else some (if low % 2 = 0 then low else high)
  else if lowOk then some low
  else if highOk then some high
  else none

/-- The search through the grids, from one digit up. -/
def searchGrids (rank : Nat) (top : Int) : Nat → Nat → Nat × Int
  | 0, n => (0, top - n)
  | fuel + 1, n =>
    let k := top - n
    match gridPoint? rank k with
    | some c => (c, k)
    | none => searchGrids rank top fuel (n + 1)

/-- The shortest digits of the positive double of a rank. -/
def shortest (rank : Nat) : Decimals :=
  let (c, k) := searchGrids rank (decimalExponent (magnitude rank)) 20 0
  let (digits, zeros) := stripZeros 20 c
  ⟨digits, k + zeros + (Text.digits digits).length - 1⟩

end LedgerLookup.Binary64
