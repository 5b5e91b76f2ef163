import LedgerLookup.Proofs.Decimal.Numeral
import LedgerLookup.Proofs.Text.Blank

/-!
# Ordinary numerals

The numerals that rates are usually written as: a sign or none, digits, and possibly a point with
digits after it.  With at most twenty-eight digits such a numeral is read as exactly the number that
is written, with as many places; with an exponent after it, it is scaled by that power of ten.
-/

namespace LedgerLookup.Decimal

/-! ### What is written -/

/-- The sign before a number, if there is one. -/
inductive Sign where
  | none
  | plus
  | minus
deriving DecidableEq

/-- How a sign is written. -/
def Sign.text : Sign → List Char
  | none => []
  | plus => ['+']
  | minus => ['-']

/-- The sign as a factor. -/
def Sign.factor : Sign → ℤ
  | none | plus => 1
  | minus => -1

theorem Sign.eq_of_mem_text {sign : Sign} {c : Char} (h : c ∈ sign.text) : c = '+' ∨ c = '-' := by
  cases sign with
  | none => cases h
  | plus => exact .inl (List.mem_singleton.mp h)
  | minus => exact .inr (List.mem_singleton.mp h)

/-- A sign and at least one digit. -/
structure WholeNumeral where
  sign : Sign
  digits : List Char
  digits_ne_nil : digits ≠ []
  isDigit : ∀ c ∈ digits, Text.isDigit c = true

namespace WholeNumeral

/-- How a whole numeral is written. -/
def text (n : WholeNumeral) : List Char :=
  n.sign.text ++ n.digits

/-- The integer that a whole numeral stands for. -/
def value (n : WholeNumeral) : ℤ :=
  n.sign.factor * Text.digitsValue n.digits

/-- After the first character only digits stand. -/
theorem isDigit_of_mem_tail (n : WholeNumeral) {c : Char} (h : c ∈ n.text.tail) :
    Text.isDigit c = true := by
  refine n.isDigit c ?_
  rw [text] at h
  cases hsign : n.sign <;> rw [hsign] at h
  · exact List.mem_of_mem_tail h
  · exact h
  · exact h

end WholeNumeral

/-- A whole numeral, and the digits after the point; there is a point only if there are any. -/
structure Numeral extends WholeNumeral where
  fraction : List Char
  isDigit_fraction : ∀ c ∈ fraction, Text.isDigit c = true

/-! ### Signs and exponents -/

/-- No exponent letter stands before the end of a coefficient. -/
theorem IsCoefficient.not_letter {coefficient : List Char} (h : IsCoefficient coefficient)
    (sign : Sign) : ∀ c ∈ sign.text ++ coefficient, ¬(c = 'e' ∨ c = 'E') := by
  intro c hc
  rcases List.mem_append.mp hc with hc | hc
  · rcases Sign.eq_of_mem_text hc with rfl | rfl <;> decide
  · rintro (rfl | rfl) <;> exact absurd (h.mem _ hc) (by decide)

/-- Nor does a blank. -/
theorem IsCoefficient.isBlank_eq_false {coefficient : List Char} (h : IsCoefficient coefficient)
    (sign : Sign) : ∀ c ∈ sign.text ++ coefficient, Text.isBlank c = false := by
  intro c hc
  rcases List.mem_append.mp hc with hc | hc
  · rcases Sign.eq_of_mem_text hc with rfl | rfl <;> rfl
  · rcases h.mem c hc with hdigit | rfl | rfl
    · exact Text.isBlank_of_isDigit hdigit
    · rfl
    · rfl

/-- An exponent is read with its sign. -/
theorem readExponent?_text (x : WholeNumeral) :
    readExponent? x.text =
      if Text.digitsValue x.digits < 4294967296 then
        some (decide (x.sign = .minus), Text.digitsValue x.digits)
      else none := by
  have hdigits := Text.readDigits?_of_forall x.digits_ne_nil x.isDigit
  have hunsigned := Text.readUnsigned?_of_forall x.digits_ne_nil x.isDigit
  rw [WholeNumeral.text]
  cases x.sign with
  | none =>
    have hminus : ∀ rest, x.digits ≠ '-' :: rest := fun rest heq =>
      absurd (x.isDigit '-' (by simp [heq])) (by decide)
    rw [Sign.text, List.nil_append, readExponent?, hunsigned]
    · simp
    · exact hminus
  | plus =>
    unfold readExponent?
    simp [Sign.text, Text.readUnsigned?, hdigits]
  | minus =>
    unfold readExponent?
    simp [Sign.text, hunsigned]

namespace Numeral

/-- The numeral without its sign. -/
def coefficient (n : Numeral) : List Char :=
  n.digits ++ if n.fraction = [] then [] else '.' :: n.fraction

/-- How a numeral is written. -/
def text (n : Numeral) : List Char :=
  n.sign.text ++ n.coefficient

/-- The number that a numeral stands for. -/
def value (n : Numeral) : ℚ :=
  n.sign.factor * (Text.digitsValue (n.digits ++ n.fraction) / 10 ^ n.fraction.length)

/-- How many digits a numeral has. -/
def size (n : Numeral) : Nat :=
  n.digits.length + n.fraction.length

variable (n : Numeral)

theorem mem_coefficient {c : Char} (h : c ∈ n.coefficient) : Text.isDigit c = true ∨ c = '.' := by
  rw [coefficient, List.mem_append] at h
  rcases h with h | h
  · exact .inl (n.isDigit c h)
  · split_ifs at h with hfraction
    · cases h
    · rcases List.mem_cons.mp h with rfl | h
      · exact .inr rfl
      · exact .inl (n.isDigit_fraction c h)

theorem no_point_of_digits {ds : List Char} (h : ∀ c ∈ ds, Text.isDigit c = true) : '.' ∉ ds :=
  fun hmem => absurd (h '.' hmem) (by decide)

theorem digitsIn_coefficient : digitsIn n.coefficient = n.digits ++ n.fraction := by
  rw [coefficient, digitsIn_append, digitsIn_of_forall n.isDigit]
  split_ifs with hfraction
  · rw [hfraction]
    rfl
  · exact congrArg _ (digitsIn_of_forall n.isDigit_fraction)

theorem placesIn_coefficient : placesIn n.coefficient = n.fraction.length := by
  have hno := no_point_of_digits n.isDigit
  rw [coefficient]
  split_ifs with hfraction
  · rw [List.append_nil, placesIn_of_no_point hno, hfraction]
    rfl
  · rw [← List.singleton_append, ← List.append_assoc,
      placesIn_append_of_point (List.mem_append_right _ (List.mem_singleton_self _)),
      placesIn_append_point hno, digitsIn_of_forall n.isDigit_fraction, Nat.zero_add]

theorem isCoefficient : IsCoefficient n.coefficient where
  mem c hc := (n.mem_coefficient hc).imp id .inr
  point := by
    have hdigits := List.count_eq_zero_of_not_mem (no_point_of_digits n.isDigit)
    have hfraction := List.count_eq_zero_of_not_mem (no_point_of_digits n.isDigit_fraction)
    rw [coefficient, List.count_append, hdigits]
    split_ifs
    · simp
    · rw [List.count_cons_self, hfraction]
  leads := by
    obtain ⟨c, ds, hds⟩ := List.exists_cons_of_ne_nil n.digits_ne_nil
    refine ⟨[], c, ds ++ if n.fraction = [] then [] else '.' :: n.fraction, ?_, ?_, by simp⟩
    · rw [coefficient, hds]
      rfl
    · exact n.isDigit c (by simp [hds])

/-! ### Reading -/

/-- A sign before a digit is read as that. -/
theorem readSign_text : readSign n.text = (decide (n.sign = .minus), n.coefficient) := by
  obtain ⟨c, ds, hds⟩ := List.exists_cons_of_ne_nil n.digits_ne_nil
  have hc : Text.isDigit c = true := n.isDigit c (by simp [hds])
  have hminus : c ≠ '-' := Text.ne_of_isDigit hc (by decide)
  have hplus : c ≠ '+' := Text.ne_of_isDigit hc (by decide)
  rw [text, coefficient, hds]
  cases n.sign with
  | none =>
    simp only [Sign.text, List.nil_append, List.cons_append]
    unfold readSign
    split <;> simp_all
  | plus => rfl
  | minus => rfl

/-- **A plain numeral of few digits is read as what is written**, with as many places. -/
theorem readPlain_text (h : n.size ≤ maxScale) :
    ∃ d, readPlain n.text = .ok d ∧ d.toRat = n.value ∧ d.scale = n.fraction.length := by
  have hne : 0 < n.digits.length := List.length_pos_iff.mpr n.digits_ne_nil
  have hdigits : ∀ c ∈ n.digits ++ n.fraction, Text.isDigit c = true := fun c hc =>
    (List.mem_append.mp hc).elim (n.isDigit c) (n.isDigit_fraction c)
  have hlen : (n.digits ++ n.fraction).length ≤ maxScale := by rwa [List.length_append]
  have hplaces : n.fraction.length < maxScale := by
    rw [size] at h
    omega
  have hread : readUnsigned {} n.coefficient =
      .ok (Text.digitsValue (n.digits ++ n.fraction), n.fraction.length) := by
    have hshort := readUnsigned_of_short n.isCoefficient
    rw [digitsIn_coefficient, placesIn_coefficient] at hshort
    exact hshort hlen hplaces
  have hofParts := ofParts_of_fits (decide (n.sign = .minus))
    (digitsValue_lt_mantissaBound hdigits hlen) hplaces.le
  refine ⟨_, ?_, (toRat_of_ofParts hofParts).trans ?_, rfl⟩
  · have hempty : n.text.isEmpty = false := by
      obtain ⟨c, ds, hds⟩ := List.exists_cons_of_ne_nil n.digits_ne_nil
      simp [text, coefficient, hds]
    rw [readPlain, readParts, hempty, readSign_text]
    simp only [Bool.false_eq_true, if_false, hread]
    exact hofParts
  · rw [value]
    cases n.sign <;> simp [Sign.factor]

theorem read_text (h : n.size ≤ maxScale) :
    ∃ d, read n.text = .ok d ∧ d.toRat = n.value ∧ d.scale = n.fraction.length := by
  obtain ⟨d, hplain, hvalue, hscale⟩ := n.readPlain_text h
  exact ⟨d, by rw [read, hplain], hvalue, hscale⟩

/-! ### Exponents -/

/-- How a numeral with an exponent is written. -/
def scientific (letter : Char) (x : WholeNumeral) : List Char :=
  n.text ++ letter :: x.text

variable {n} {letter : Char} (x : WholeNumeral)

theorem isBlank_of_mem_scientific (hletter : letter = 'e' ∨ letter = 'E') :
    ∀ c ∈ n.scientific letter x, Text.isBlank c = false := by
  intro c hc
  rw [scientific, WholeNumeral.text, List.mem_append, List.mem_cons, List.mem_append] at hc
  rcases hc with hc | rfl | hc | hc
  · exact n.isCoefficient.isBlank_eq_false n.sign c hc
  · rcases hletter with rfl | rfl <;> rfl
  · rcases Sign.eq_of_mem_text hc with rfl | rfl <;> rfl
  · exact Text.isBlank_of_isDigit (x.isDigit c hc)

/-- **A numeral of few digits with an exponent.**  What is read of it is the number that is written
if that needs no more places than a decimal has, and this number rounded to these places
otherwise. -/
theorem read_scientific {p : Decimal} (hsize : n.size ≤ maxScale)
    (hletter : letter = 'e' ∨ letter = 'E') (h : read (n.scientific letter x) = .ok p)
    (hpos : 0 < p.toRat) :
    (n.fraction.length - x.value ≤ maxScale → p.toRat = n.value * 10 ^ x.value) ∧
      (maxScale < n.fraction.length - x.value →
        p.toRat = roundedAtMaxScale (n.value * 10 ^ x.value)) := by
  have hcut : cutAtExponent (n.scientific letter x) = some (n.text, x.text) :=
    cutAtExponent_append (n.isCoefficient.not_letter n.sign) hletter
  obtain ⟨d, hd, hvalue, hscale⟩ := n.readPlain_text hsize
  unfold read at h
  cases hplain : readPlain (n.scientific letter x) with
  | ok d' =>
    -- No plain numeral has a letter in it.
    have hmem := mem_of_readPlain hplain letter (by simp [scientific])
    rcases hletter with rfl | rfl <;> exact absurd hmem (by decide)
  | error cause =>
    rw [hplain] at h
    simp only [readScientific, hcut, hd, ok_bind, readExponent?_text] at h
    split_ifs at h with hlt
    obtain ⟨-, hexact, hround⟩ := scaleBy_eq_ok h hpos
    have hx : (if decide (x.sign = .minus) then -(Text.digitsValue x.digits : ℤ)
        else Text.digitsValue x.digits) = x.value := by
      rw [WholeNumeral.value]
      cases x.sign <;> simp [Sign.factor]
    rw [hx, hvalue, hscale] at hexact hround
    exact ⟨hexact, hround⟩

end Numeral

/-! ### Tidy numerals -/

/-- A coefficient in which every underscore stands between digits. -/
structure IsTidyCoefficient (cs : List Char) : Prop extends IsCoefficient cs where
  between : ∀ front back, cs = front ++ '_' :: back → digitsIn back ≠ []

/-- A numeral in which every mark has its place: a sign, a coefficient and an exponent of at most
one sign, with what the last two of them are. -/
inductive IsTidy : List Char → List Char → ℤ → Prop
  | plain (sign : Sign) {coefficient : List Char} (h : IsTidyCoefficient coefficient) :
      IsTidy (sign.text ++ coefficient) coefficient 0
  | scientific (sign : Sign) {coefficient : List Char} (h : IsTidyCoefficient coefficient)
      {letter : Char} (hletter : letter = 'e' ∨ letter = 'E') (x : WholeNumeral) :
      IsTidy (sign.text ++ coefficient ++ letter :: x.text) coefficient x.value

variable {cs coefficient front back : List Char} {x : ℤ} {c : Char}

theorem IsTidy.isTidyCoefficient (h : IsTidy cs coefficient x) : IsTidyCoefficient coefficient := by
  cases h <;> assumption

/-- No sign stands before a text that starts with a digit. -/
theorem eq_of_sign_append {sign : Sign} (hc : Text.isDigit c = true)
    (h : c :: cs = sign.text ++ coefficient) : coefficient = c :: cs := by
  cases sign with
  | none => exact h.symm
  | plus =>
    obtain ⟨rfl, -⟩ := List.cons.inj h
    exact absurd hc (by decide)
  | minus =>
    obtain ⟨rfl, -⟩ := List.cons.inj h
    exact absurd hc (by decide)

/-- Without an exponent letter the coefficient is all there is. -/
theorem IsTidy.eq_of_no_letter (h : IsTidy cs coefficient x) (hcut : cutAtExponent cs = none)
    (hcs : cs = c :: front) (hc : Text.isDigit c = true) : coefficient = cs ∧ x = 0 := by
  cases h with
  | plain sign h => exact ⟨(eq_of_sign_append hc hcs.symm).trans hcs.symm, rfl⟩
  | scientific sign h hletter x =>
    rw [cutAtExponent_append (h.toIsCoefficient.not_letter sign) hletter] at hcut
    cases hcut

/-- The exponent letter stands between the coefficient and the exponent. -/
theorem IsTidy.eq_of_letter (h : IsTidy cs coefficient x)
    (hcut : cutAtExponent cs = some (c :: front, back)) (hc : Text.isDigit c = true) :
    coefficient = c :: front ∧ ∃ e : WholeNumeral, back = e.text ∧ x = e.value := by
  cases h with
  | plain sign h =>
    rw [cutAtExponent_eq_none (h.toIsCoefficient.not_letter sign)] at hcut
    cases hcut
  | scientific sign h hletter e =>
    rw [cutAtExponent_append (h.toIsCoefficient.not_letter sign) hletter,
      Option.some.injEq, Prod.mk.injEq] at hcut
    exact ⟨eq_of_sign_append hc hcut.1.symm, e, hcut.2.symm, rfl⟩

end LedgerLookup.Decimal
