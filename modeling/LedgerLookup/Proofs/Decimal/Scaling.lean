import LedgerLookup.Decimal.Reader
import LedgerLookup.Proofs.Decimal.Value
import Mathlib.Algebra.Order.Round
import Mathlib.Data.Rat.Floor
import Mathlib.Tactic.FieldSimp
import Mathlib.Tactic.Linarith
import Mathlib.Tactic.Ring

/-!
# Decimals times powers of ten

What a decimal becomes when its scale takes up an exponent: the number times the power of ten, as
long as a decimal has that many places, and this product rounded to the nearest that a decimal has,
a half upwards, otherwise.
-/

namespace LedgerLookup.Decimal

/-! ### Decimals of given parts -/

theorem toRat_of_not_negative {d : Decimal} (h : d.negative = false) :
    d.toRat = d.mantissa / 10 ^ d.scale := by
  simp [toRat, h]

/-- Parts that fit make a decimal. -/
theorem ofParts_of_fits (negative : Bool) {mantissa scale : Nat} (hm : mantissa < mantissaBound)
    (hs : scale ≤ maxScale) :
    ofParts negative mantissa scale =
      .ok ⟨negative && mantissa != 0, mantissa, scale, hm, hs⟩ := by
  rw [ofParts, if_neg (not_lt.mpr hs), make?, dif_pos ⟨hm, hs⟩]

theorem ofParts_eq_ok {negative : Bool} {mantissa scale : Nat} {d : Decimal}
    (h : ofParts negative mantissa scale = .ok d) :
    d.negative = (negative && mantissa != 0) ∧ d.mantissa = mantissa ∧ d.scale = scale := by
  by_cases hfits : mantissa < mantissaBound ∧ scale ≤ maxScale
  · rw [ofParts_of_fits negative hfits.1 hfits.2] at h
    cases h
    exact ⟨rfl, rfl, rfl⟩
  · have hnone : make? negative mantissa scale = none := dif_neg hfits
    rw [ofParts, hnone] at h
    split at h <;> cases h

/-- The sign of zero makes no difference to the number. -/
theorem toRat_of_ofParts {negative : Bool} {mantissa scale : Nat} {d : Decimal}
    (h : ofParts negative mantissa scale = .ok d) :
    d.toRat = (if negative then -1 else 1) * (mantissa / 10 ^ scale) := by
  obtain ⟨hneg, hm, hs⟩ := ofParts_eq_ok h
  rw [toRat, hneg, hm, hs]
  cases negative with
  | false => rfl
  | true =>
    by_cases hzero : mantissa = 0
    · simp [hzero]
    · simp [hzero]

/-- A decimal above zero is at least one in its last place. -/
theorem one_div_le_toRat {d : Decimal} (h : 0 < d.toRat) : 1 / 10 ^ d.scale ≤ d.toRat := by
  have hd := isPositive_iff.mpr h
  simp only [isPositive, Bool.and_eq_true, Bool.not_eq_true', bne_iff_ne] at hd
  have hm : (1 : ℚ) ≤ d.mantissa := by exact_mod_cast Nat.one_le_iff_ne_zero.mpr hd.2
  rw [toRat_of_not_negative hd.1]
  exact div_le_div_of_nonneg_right hm (by positivity)

/-- The place that a decimal below a unit is rounded at comes after that unit. -/
theorem abs_sub_le_of_toRat_lt {d : Decimal} {v : ℚ} {n : Nat} (hpos : 0 < d.toRat)
    (hlt : d.toRat < 1 / 10 ^ n) (hnear : |d.toRat - v| ≤ 1 / 2 / 10 ^ d.scale) :
    |d.toRat - v| ≤ 1 / 2 / 10 ^ (n + 1) := by
  have hpow : (10 : ℚ) ^ n < 10 ^ d.scale :=
    (one_div_lt_one_div (by positivity) (by positivity)).mp
      (lt_of_le_of_lt (one_div_le_toRat hpos) hlt)
  have hplaces : n + 1 ≤ d.scale := (pow_lt_pow_iff_right₀ (by norm_num)).mp hpow
  refine hnear.trans (div_le_div_of_nonneg_left (by norm_num) (by positivity) ?_)
  exact pow_le_pow_right₀ (by norm_num) hplaces

/-! ### Rounding to the greatest number of places -/

/-- A number rounded to as many places as a decimal can have, a half upwards. -/
def roundedAtMaxScale (v : ℚ) : ℚ :=
  round (v * 10 ^ maxScale) / 10 ^ maxScale

/-- Dropping digits rounds the quotient by their power of ten, a half upwards. -/
theorem dropDigits_eq_round (count n : Nat) :
    (dropDigits count n : ℤ) = round ((n : ℚ) / 10 ^ count) := by
  cases count with
  | zero => rw [pow_zero, div_one, round_natCast, dropDigits, if_pos rfl]
  | succ k =>
    have hdrop : dropDigits (k + 1) n = (n + 5 * 10 ^ k) / 10 ^ (k + 1) := by
      have hpow : 0 < 10 ^ k := Nat.pow_pos (by decide)
      rw [dropDigits, if_neg (Nat.succ_ne_zero k), Nat.add_sub_cancel, pow_succ,
        ← Nat.div_div_eq_div_mul, Nat.add_mul_div_right _ _ hpow]
      rfl
    have hsum : (n : ℚ) / 10 ^ (k + 1) + 1 / 2 = (n + 5 * 10 ^ k : ℕ) / (10 ^ (k + 1) : ℕ) := by
      push_cast
      rw [pow_succ]
      field_simp
      ring
    rw [round_eq, hsum, Rat.floor_natCast_div_natCast, hdrop]
    rfl

variable {d p : Decimal} {e : Nat}

/-- A division that needs no more places than a decimal has is exact. -/
theorem toRat_shiftDown_of_le (h : d.scale + e ≤ maxScale) :
    (d.shiftDown e).toRat = d.toRat / 10 ^ e := by
  have hcount : d.scale + e - maxScale = 0 := Nat.sub_eq_zero_of_le h
  have hscale : min (d.scale + e) maxScale = d.scale + e := min_eq_left h
  simp only [toRat, shiftDown, hcount, hscale, dropDigits, if_true, pow_add]
  field_simp

/-- Any other is rounded. -/
theorem toRat_shiftDown_of_lt (hneg : d.negative = false) (h : maxScale < d.scale + e) :
    (d.shiftDown e).toRat = roundedAtMaxScale (d.toRat / 10 ^ e) := by
  have hscale : min (d.scale + e) maxScale = maxScale := min_eq_right h.le
  have hunits : d.toRat / 10 ^ e * 10 ^ maxScale =
      d.mantissa / 10 ^ (d.scale + e - maxScale) := by
    have hpow : (10 : ℚ) ^ d.scale * 10 ^ e =
        10 ^ maxScale * 10 ^ (d.scale + e - maxScale) := by
      rw [← pow_add, ← pow_add, Nat.add_sub_cancel' h.le]
    rw [toRat_of_not_negative hneg, div_div, hpow]
    field_simp
  rw [roundedAtMaxScale, hunits, ← dropDigits_eq_round,
    toRat_of_not_negative (d := d.shiftDown e) hneg]
  simp only [shiftDown, hscale, Int.cast_natCast]

/-! ### Scaling -/

/-- Only a decimal above zero becomes one. -/
theorem isPositive_of_scaleBy {negative : Bool} (h : d.scaleBy negative e = .ok p)
    (hpos : p.isPositive = true) : d.isPositive = true := by
  have hparts : ∀ {m s : Nat}, ofParts d.negative m s = .ok p → (d.mantissa = 0 → m = 0) →
      d.isPositive = true := by
    intro m s hofParts hzero
    obtain ⟨hneg, hm, -⟩ := ofParts_eq_ok hofParts
    rw [isPositive, hneg, hm] at hpos
    cases hd : d.negative <;> simp_all [isPositive]
  unfold scaleBy at h
  split_ifs at h with hlarge hnegative hle
  · cases h
    have hzero : d.mantissa = 0 → dropDigits (d.scale + e - maxScale) d.mantissa = 0 := fun hm =>
      Nat.le_zero.mp (hm ▸ dropDigits_le _ d.mantissa)
    simp only [isPositive, shiftDown, Bool.and_eq_true, Bool.not_eq_true', bne_iff_ne] at hpos ⊢
    exact ⟨hpos.1, mt hzero hpos.2⟩
  · exact hparts h id
  · exact hparts h fun hm => by rw [hm, Nat.zero_mul]

/-- **A decimal times a power of ten.**  The exponent is at most 28 either way.  The product is
exact if it has no more places than a decimal can have, and rounded to these otherwise. -/
theorem scaleBy_eq_ok {negative : Bool} (h : d.scaleBy negative e = .ok p)
    (hpos : 0 < p.toRat) :
    e ≤ maxScale ∧
      let x : ℤ := if negative then -e else e
      (d.scale - x ≤ maxScale → p.toRat = d.toRat * 10 ^ x) ∧
      (maxScale < d.scale - x → p.toRat = roundedAtMaxScale (d.toRat * 10 ^ x)) := by
  have hdpos := isPositive_of_scaleBy h (isPositive_iff.mpr hpos)
  have hdneg : d.negative = false := by
    simp only [isPositive, Bool.and_eq_true, Bool.not_eq_true'] at hdpos
    exact hdpos.1
  have hsmall := d.scale_le
  unfold scaleBy at h
  split_ifs at h with hlarge hnegative hle
  · cases h
    have hdiv : d.toRat * 10 ^ (-(e : ℤ)) = d.toRat / 10 ^ e := by
      rw [zpow_neg, zpow_natCast, div_eq_mul_inv]
    refine ⟨not_lt.mp hlarge, ?_⟩
    simp only [hnegative, if_true, hdiv, sub_neg_eq_add]
    exact ⟨fun hplaces => toRat_shiftDown_of_le (by exact_mod_cast hplaces),
      fun hplaces => toRat_shiftDown_of_lt hdneg (by exact_mod_cast hplaces)⟩
  all_goals
    refine ⟨not_lt.mp hlarge, ?_⟩
    simp only [hnegative, Bool.false_eq_true, if_false, zpow_natCast]
    refine ⟨fun _ => ?_, fun hplaces => absurd hplaces (by simp only [maxScale]; omega)⟩
    rw [toRat_of_ofParts h, hdneg, toRat_of_not_negative hdneg]
    simp only [Bool.false_eq_true, if_false, one_mul]
  · rw [div_mul_eq_mul_div, div_eq_div_iff (by positivity) (by positivity), mul_assoc, ← pow_add,
      Nat.add_sub_cancel' hle]
  · have hpow : (10 : ℚ) ^ e = 10 ^ (e - d.scale) * 10 ^ d.scale := by
      rw [← pow_add, Nat.sub_add_cancel (not_le.mp hle).le]
    show ((d.mantissa * 10 ^ (e - d.scale) : ℕ) : ℚ) / 10 ^ 0 = _
    rw [hpow]
    push_cast
    field_simp

end LedgerLookup.Decimal
