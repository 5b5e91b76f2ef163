import LedgerLookup.Proofs.Decimal.Ordinary
import LedgerLookup.Proofs.Market.Rates
import Mathlib.Tactic.NormNum

/-!
# Texts of rates

Which texts are rates, and what they are rates of.  A text is read to its end, so that a price is
never that of a part of it.  A rate as it is usually written is the price that is written; only an
exponent that asks for more places than a decimal has makes it a rounded one.
-/

namespace LedgerLookup

open Decimal

namespace ExchangeRates

variable {raw : String} {p : Decimal}

/-! ### The whole text -/

/-- **A rate is read whole.**  Its text without the blanks around it is a plus sign or none, a
coefficient and an exponent.  The price is above zero, and it is what counts of the coefficient,
rounded if a decimal has no room for it, times the power of ten, rounded once more if that has too
many places. -/
theorem parseRate_reads_whole (h : parseRate raw = .ok p) :
    0 < p.toRat ∧
      ∃ sign coefficient exponent counted, ∃ x : ℤ, ∃ d : Decimal,
        Text.trim raw.toList = sign ++ coefficient ++ exponent ∧ (sign = [] ∨ sign = ['+']) ∧
        Counts coefficient counted ∧ IsExponent exponent x ∧
        |d.toRat - coefficientValue counted| ≤ 1 / 2 / 10 ^ d.scale ∧
        (d.toRat = coefficientValue counted ∨ IsFull d.mantissa d.scale) ∧
        (d.scale - x ≤ maxScale → p.toRat = d.toRat * 10 ^ x) ∧
        (maxScale < d.scale - x → p.toRat = roundedAtMaxScale (d.toRat * 10 ^ x)) := by
  obtain ⟨hread, hpos⟩ := parseRate_eq_ok_iff.mp h
  exact ⟨hpos, read_eq_ok hread hpos⟩

/-- A rate with a sign, an underscore, a point and an exponent, between blanks. -/
theorem parseRate_reads_whole_padded :
    parseRate " +1_000.5e-3\n" = .ok ⟨false, 10005, 4, by decide, by decide⟩ ∧
      0 < toRat ⟨false, 10005, 4, by decide, by decide⟩ ∧
      ∃ sign coefficient exponent counted, ∃ x : ℤ, ∃ d : Decimal,
        Text.trim " +1_000.5e-3\n".toList = sign ++ coefficient ++ exponent ∧
        (sign = [] ∨ sign = ['+']) ∧
        Counts coefficient counted ∧ IsExponent exponent x ∧
        |d.toRat - coefficientValue counted| ≤ 1 / 2 / 10 ^ d.scale ∧
        (d.toRat = coefficientValue counted ∨ IsFull d.mantissa d.scale) ∧
        (d.scale - x ≤ maxScale →
          toRat ⟨false, 10005, 4, by decide, by decide⟩ = d.toRat * 10 ^ x) ∧
        (maxScale < d.scale - x →
          toRat ⟨false, 10005, 4, by decide, by decide⟩ =
            roundedAtMaxScale (d.toRat * 10 ^ x)) := by
  have h : parseRate " +1_000.5e-3\n" = .ok ⟨false, 10005, 4, by decide, by decide⟩ := rfl
  exact ⟨h, parseRate_reads_whole h⟩

/-! ### Marks out of place -/

/-- A price that is what a tidy text stands for: the coefficient, rounded to a decimal, times the
power of ten. -/
def IsTidyReading (cs : List Char) (p : Decimal) : Prop :=
  ∃ coefficient x, ∃ d : Decimal, IsTidy cs coefficient x ∧
    |d.toRat - coefficientValue coefficient| ≤ 1 / 2 / 10 ^ d.scale ∧ p.toRat = d.toRat * 10 ^ x

/-- Two signs in an exponent. -/
theorem not_isTidyReading_of_two_signs : ¬ IsTidyReading (Text.trim "1e-+3".toList) p := by
  rintro ⟨coefficient, x, d, htidy, -, -⟩
  have htext : Text.trim "1e-+3".toList = ['1', 'e', '-', '+', '3'] := rfl
  rw [htext] at htidy
  obtain ⟨-, e, he, -⟩ := htidy.eq_of_letter (c := '1') rfl rfl
  exact absurd (e.isDigit_of_mem_tail (c := '+') (by simp [← he])) (by decide)

/-- An underscore that no digit follows. -/
theorem not_isTidyReading_of_last_underscore : ¬ IsTidyReading (Text.trim "1_".toList) p := by
  rintro ⟨coefficient, x, d, htidy, -, -⟩
  obtain ⟨rfl, -⟩ := htidy.eq_of_no_letter rfl rfl rfl
  exact htidy.isTidyCoefficient.between ['1'] [] rfl rfl

/-- A digit that an underscore keeps from being read. -/
theorem not_isTidyReading_of_late_underscore (hp : p.toRat = 1 / 10 ^ 28) :
    ¬ IsTidyReading (Text.trim "0.0000000000000000000000000001_9".toList) p := by
  rintro ⟨coefficient, x, d, htidy, hnear, hvalue⟩
  obtain ⟨rfl, rfl⟩ := htidy.eq_of_no_letter rfl rfl rfl
  rw [zpow_zero, mul_one, hp] at hvalue
  have hwritten : coefficientValue (Text.trim "0.0000000000000000000000000001_9".toList) =
      ((19 : ℕ) : ℚ) / 10 ^ 29 := rfl
  have hclose := abs_sub_le_of_toRat_lt (n := 27) (by rw [← hvalue]; positivity)
    (by rw [← hvalue]; norm_num) hnear
  rw [hwritten, ← hvalue, abs_le] at hclose
  norm_num at hclose

/-- Digits that are rounded twice. -/
theorem not_isTidyReading_of_two_roundings (hp : p.toRat = 2 / 10 ^ 28) :
    ¬ IsTidyReading (Text.trim "0.14999999999999999999999999995e-27".toList) p := by
  rintro ⟨coefficient, x, d, htidy, hnear, hvalue⟩
  obtain ⟨rfl, e, he, rfl⟩ := htidy.eq_of_letter (c := '0') rfl rfl
  have hx : e.value = -27 := by
    have hread := readExponent?_text e
    have hwritten : readExponent? e.text = some (true, 27) := by rw [← he]; rfl
    rw [hwritten] at hread
    split_ifs at hread
    obtain ⟨hsign, hdigits⟩ := Prod.mk.inj (Option.some.inj hread)
    rw [WholeNumeral.value, of_decide_eq_true hsign.symm, ← hdigits]
    rfl
  have hd : d.toRat = 1 / 5 := by
    rw [hp, hx, zpow_neg, ← div_eq_mul_inv, eq_div_iff (by norm_num)] at hvalue
    rw [← hvalue]
    norm_num
  have hcoefficient : coefficientValue ('0' :: ".14999999999999999999999999995".toList) =
      ((14999999999999999999999999995 : ℕ) : ℚ) / 10 ^ 29 := rfl
  have hclose := abs_sub_le_of_toRat_lt (n := 0) (by rw [hd]; norm_num) (by rw [hd]; norm_num) hnear
  change |_ - coefficientValue ('0' :: ".14999999999999999999999999995".toList)| ≤ _ at hclose
  rw [hcoefficient, hd, abs_le] at hclose
  norm_num at hclose

/-- **Not every rate is tidy.**  A second sign in an exponent and an underscore at the end are
accepted; an underscore after the last place hides the digits after it, and a price can be rounded
twice. -/
theorem exists_untidy_rate :
    (∃ p, parseRate "1e-+3" = .ok p ∧ ¬ IsTidyReading (Text.trim "1e-+3".toList) p) ∧
    (∃ p, parseRate "1_" = .ok p ∧ ¬ IsTidyReading (Text.trim "1_".toList) p) ∧
    (∃ p, parseRate "0.0000000000000000000000000001_9" = .ok p ∧
      ¬ IsTidyReading (Text.trim "0.0000000000000000000000000001_9".toList) p) ∧
    ∃ p, parseRate "0.14999999999999999999999999995e-27" = .ok p ∧
      ¬ IsTidyReading (Text.trim "0.14999999999999999999999999995e-27".toList) p := by
  refine ⟨⟨⟨false, 1, 3, by decide, by decide⟩, rfl, not_isTidyReading_of_two_signs⟩,
    ⟨⟨false, 1, 0, by decide, by decide⟩, rfl, not_isTidyReading_of_last_underscore⟩,
    ⟨⟨false, 1, 28, by decide, by decide⟩, rfl, not_isTidyReading_of_late_underscore ?_⟩,
    ⟨⟨false, 2, 28, by decide, by decide⟩, rfl, not_isTidyReading_of_two_roundings ?_⟩⟩
  · simp [toRat]
  · simp [toRat]

/-! ### Ordinary rates -/

/-- **An ordinary rate is what is written.**  A plain numeral of at most twenty-eight digits between
blanks is the price that it stands for, with as many places, if that is above zero, and invalid
otherwise.  With an exponent it is that number times the power of ten, rounded if this has more
places than a decimal. -/
theorem parseRate_of_ordinary (n : Numeral) (hsize : n.size ≤ maxScale) {front back : List Char}
    (hfront : ∀ c ∈ front, Text.isBlank c = true) (hback : ∀ c ∈ back, Text.isBlank c = true) :
    (0 < n.value → ∃ p, parseRate (String.ofList (front ++ n.text ++ back)) = .ok p ∧
      p.toRat = n.value ∧ p.scale = n.fraction.length) ∧
    (n.value ≤ 0 → ∃ message,
      parseRate (String.ofList (front ++ n.text ++ back)) = .error (.invalid message)) ∧
    ∀ (letter : Char) (x : WholeNumeral) (p : Decimal), letter = 'e' ∨ letter = 'E' →
      parseRate (String.ofList (front ++ n.scientific letter x ++ back)) = .ok p →
      (n.fraction.length - x.value ≤ maxScale → p.toRat = n.value * 10 ^ x.value) ∧
        (maxScale < n.fraction.length - x.value →
          p.toRat = roundedAtMaxScale (n.value * 10 ^ x.value)) := by
  have hplain : Text.trim (String.ofList (front ++ n.text ++ back)).toList = n.text := by
    rw [String.toList_ofList]
    exact Text.trim_of_padded hfront (n.isCoefficient.isBlank_eq_false n.sign) hback
  obtain ⟨p, hread, hvalue, hscale⟩ := n.read_text hsize
  rw [← hplain] at hread
  refine ⟨fun hpos => ?_, fun hnonpos => ?_, fun letter x p hletter h => ?_⟩
  · exact ⟨p, parseRate_of_pos hread (hvalue ▸ hpos), hvalue, hscale⟩
  · exact ⟨_, parseRate_of_nonpos hread (hvalue ▸ hnonpos)⟩
  · obtain ⟨hread, hpos⟩ := parseRate_eq_ok_iff.mp h
    rw [String.toList_ofList, Text.trim_of_padded hfront
      (Numeral.isBlank_of_mem_scientific x hletter) hback] at hread
    exact Numeral.read_scientific x hsize hletter hread hpos

/-- The numeral `1.5`. -/
def oneAndAHalf : Numeral where
  sign := .none
  digits := ['1']
  digits_ne_nil := List.cons_ne_nil _ _
  isDigit := List.forall_mem_singleton.mpr rfl
  fraction := ['5']
  isDigit_fraction := List.forall_mem_singleton.mpr rfl

/-- The exponent `-28`. -/
def minusTwentyEight : WholeNumeral where
  sign := .minus
  digits := ['2', '8']
  digits_ne_nil := List.cons_ne_nil _ _
  isDigit := List.forall_mem_cons.mpr ⟨rfl, List.forall_mem_singleton.mpr rfl⟩

/-- One and a half between blanks, alone and with an exponent that leaves no place for the half. -/
theorem parseRate_of_one_and_a_half :
    oneAndAHalf.size ≤ maxScale ∧ (∀ c ∈ ['\u00a0'], Text.isBlank c = true) ∧
      (∀ c ∈ ['\n'], Text.isBlank c = true) ∧
      (∃ p, parseRate "\u00a01.5\n" = .ok p ∧ p.toRat = oneAndAHalf.value ∧ p.scale = 1) ∧
      parseRate "\u00a01.5e-28\n" = .ok ⟨false, 2, 28, by decide, by decide⟩ ∧
      toRat ⟨false, 2, 28, by decide, by decide⟩ =
        roundedAtMaxScale (oneAndAHalf.value * 10 ^ minusTwentyEight.value) := by
  have hsize : oneAndAHalf.size ≤ maxScale := by decide
  have hfront : ∀ c ∈ ['\u00a0'], Text.isBlank c = true := List.forall_mem_singleton.mpr rfl
  have hback : ∀ c ∈ ['\n'], Text.isBlank c = true := List.forall_mem_singleton.mpr rfl
  have hpos : 0 < oneAndAHalf.value := by
    have hvalue : oneAndAHalf.value = (1 : ℤ) * (((15 : ℕ) : ℚ) / 10 ^ 1) := rfl
    rw [hvalue]
    norm_num
  have hread : parseRate "\u00a01.5e-28\n" = .ok ⟨false, 2, 28, by decide, by decide⟩ := rfl
  obtain ⟨hplain, -, hscientific⟩ := parseRate_of_ordinary oneAndAHalf hsize hfront hback
  exact ⟨hsize, hfront, hback, hplain hpos, hread,
    (hscientific 'e' minusTwentyEight _ (.inl rfl) hread).2 (by decide)⟩

/-- **An exponent can cost a place.**  One and a half of the smallest unit is read as two of
them. -/
theorem exists_rounded_rate :
    "1.5e-28".toList = oneAndAHalf.scientific 'e' minusTwentyEight ∧
      oneAndAHalf.size ≤ maxScale ∧
      ∃ p, parseRate "1.5e-28" = .ok p ∧
        p.toRat ≠ oneAndAHalf.value * 10 ^ minusTwentyEight.value := by
  refine ⟨rfl, by decide, ⟨false, 2, 28, by decide, by decide⟩, rfl, ?_⟩
  have hvalue : oneAndAHalf.value = (1 : ℤ) * (((15 : ℕ) : ℚ) / 10 ^ 1) := rfl
  have hexponent : minusTwentyEight.value = -28 := rfl
  rw [hvalue, hexponent, toRat]
  norm_num

end ExchangeRates

end LedgerLookup
