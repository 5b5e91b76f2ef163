import LedgerLookup.Proofs.Decimal.Coefficient
import LedgerLookup.Proofs.Decimal.Scaling

/-!
# Numerals

A numeral is a sign, a coefficient and an exponent, the first and the last of which may be missing.
Nothing else is read as a decimal, and the decimal is that of the whole text: the coefficient as a
decimal holds it, times the power of ten.
-/

namespace LedgerLookup.Decimal

/-! ### Signs and exponents -/

/-- The part of a numeral after its coefficient, and the exponent that it stands for. -/
inductive IsExponent : List Char → ℤ → Prop
  | none : IsExponent [] 0
  | written {letter : Char} {plus ds : List Char} (negative : Bool)
      (hletter : letter = 'e' ∨ letter = 'E') (hplus : plus = [] ∨ plus = ['+'])
      (hne : ds ≠ []) (hds : ∀ c ∈ ds, Text.isDigit c = true)
      (hle : Text.digitsValue ds ≤ maxScale) :
      IsExponent (letter :: ((if negative then ['-'] else []) ++ plus ++ ds))
        (if negative then -(Text.digitsValue ds : ℤ) else Text.digitsValue ds)

variable {cs rest front back : List Char} {d p : Decimal}

theorem append_of_readSign {negative : Bool} (h : readSign cs = (negative, rest)) :
    cs = (if negative then ['-'] else []) ++ rest ∨ (negative = false ∧ cs = '+' :: rest) := by
  unfold readSign at h
  split at h <;> cases h <;> simp

theorem append_of_cutAtExponent (h : cutAtExponent cs = some (front, back)) :
    ∃ letter, (letter = 'e' ∨ letter = 'E') ∧ cs = front ++ letter :: back := by
  induction cs generalizing front with
  | nil => cases h
  | cons c cs ih =>
    rw [cutAtExponent] at h
    split_ifs at h with hletter
    · cases h
      exact ⟨c, hletter, rfl⟩
    · obtain ⟨⟨front', back'⟩, hcut, hpair⟩ := Option.map_eq_some_iff.mp h
      obtain ⟨rfl, rfl⟩ := Prod.mk.inj hpair
      obtain ⟨letter, hletter, rfl⟩ := ih hcut
      exact ⟨letter, hletter, rfl⟩

theorem cutAtExponent_append {letter : Char} (h : ∀ c ∈ front, ¬(c = 'e' ∨ c = 'E'))
    (hletter : letter = 'e' ∨ letter = 'E') :
    cutAtExponent (front ++ letter :: back) = some (front, back) := by
  induction front with
  | nil => rw [List.nil_append, cutAtExponent, if_pos hletter]
  | cons c front ih =>
    rw [List.forall_mem_cons] at h
    rw [List.cons_append, cutAtExponent, if_neg h.1, ih h.2]
    rfl

theorem cutAtExponent_eq_none (h : ∀ c ∈ cs, ¬(c = 'e' ∨ c = 'E')) : cutAtExponent cs = none := by
  induction cs with
  | nil => rfl
  | cons c cs ih =>
    rw [List.forall_mem_cons] at h
    rw [cutAtExponent, if_neg h.1, ih h.2]
    rfl

/-- What is read as an exponent stands after the letter. -/
theorem isExponent_of_readExponent? {negative : Bool} {e : Nat} {letter : Char}
    (h : readExponent? cs = some (negative, e)) (hle : e ≤ maxScale)
    (hletter : letter = 'e' ∨ letter = 'E') :
    IsExponent (letter :: cs) (if negative then -(e : ℤ) else e) := by
  have hwritten : ∀ rest, Text.readUnsigned? rest = some e →
      IsExponent (letter :: ((if negative then ['-'] else []) ++ rest))
        (if negative then -(e : ℤ) else e) := by
    intro rest hrest
    obtain ⟨plus, ds, rfl, hplus, hread⟩ := Text.append_of_readUnsigned? hrest
    obtain ⟨hne, hds, rfl⟩ := Text.readDigits?_eq_some hread
    have hexponent := IsExponent.written negative hletter hplus hne hds hle
    rwa [List.append_assoc] at hexponent
  unfold readExponent? at h
  dsimp only at h
  split at h
  · next n hread =>
    split_ifs at h
    cases h
    have hexponent := hwritten _ hread
    split at hexponent <;> exact hexponent
  · cases h

/-! ### Reading -/

/-- A plain numeral is a sign and a coefficient. -/
theorem isReading_of_readPlain (h : readPlain cs = .ok d) :
    ∃ negative coefficient, readSign cs = (negative, coefficient) ∧
      d.negative = (negative && d.mantissa != 0) ∧ IsReading coefficient d.mantissa d.scale := by
  simp only [readPlain, readParts, bind_eq_ok_iff] at h
  obtain ⟨⟨negative, m, s⟩, hparts, hofParts⟩ := h
  split_ifs at hparts with hempty
  obtain ⟨⟨m', s'⟩, hread, hpair⟩ := map_eq_ok_iff.mp hparts
  simp only [Prod.mk.injEq] at hpair
  obtain ⟨hnegative, rfl, rfl⟩ := hpair
  dsimp only at hofParts
  obtain ⟨hneg, hm, hs⟩ := ofParts_eq_ok hofParts
  refine ⟨negative, _, Prod.ext hnegative rfl, by rw [hneg, hm], ?_⟩
  rw [hm, hs]
  exact isReading_of_readUnsigned hread

/-- Nothing else stands in a plain numeral. -/
theorem mem_of_readPlain (h : readPlain cs = .ok d) :
    ∀ c ∈ cs, Text.isDigit c = true ∨ c = '_' ∨ c = '.' ∨ c = '+' ∨ c = '-' := by
  obtain ⟨negative, coefficient, hsign, -, hreading⟩ := isReading_of_readPlain h
  obtain ⟨counted, hcounts, -, -⟩ := hreading
  have hcoefficient : ∀ c ∈ coefficient,
      Text.isDigit c = true ∨ c = '_' ∨ c = '.' ∨ c = '+' ∨ c = '-' := fun c hc =>
    (hcounts.mem c hc).imp id (Or.imp id .inl)
  rcases append_of_readSign hsign with rfl | ⟨-, rfl⟩
  · intro c hc
    rcases List.mem_append.mp hc with hc | hc
    · split at hc <;> simp_all
    · exact hcoefficient c hc
  · exact List.forall_mem_cons.mpr ⟨by simp, hcoefficient⟩

/-- A decimal above zero is read from a coefficient that no minus sign stands before. -/
theorem readPlain_eq_ok (h : readPlain cs = .ok d) (hpos : d.isPositive = true) :
    ∃ sign coefficient counted, cs = sign ++ coefficient ∧ (sign = [] ∨ sign = ['+']) ∧
      Counts coefficient counted ∧
      |d.toRat - coefficientValue counted| ≤ 1 / 2 / 10 ^ d.scale ∧
      (d.toRat = coefficientValue counted ∨ IsFull d.mantissa d.scale) := by
  obtain ⟨negative, coefficient, hsign, hneg, hreading⟩ := isReading_of_readPlain h
  obtain ⟨counted, hcounts, hnear, hfull⟩ := hreading
  have hplus : negative = false := by
    simp only [isPositive, hneg, Bool.and_eq_true, bne_iff_ne, Bool.not_eq_true'] at hpos
    simpa [hpos.2] using hpos.1
  rw [hplus, Bool.false_and] at hneg
  rw [← toRat_of_not_negative hneg] at hnear hfull
  rcases append_of_readSign hsign with hcs | ⟨-, hcs⟩
  · rw [hplus] at hcs
    exact ⟨[], _, counted, hcs, .inl rfl, hcounts, hnear, hfull⟩
  · exact ⟨['+'], _, counted, hcs, .inr rfl, hcounts, hnear, hfull⟩

/-- **What is read as a number above zero.**  The text is a sign, a coefficient and an exponent,
with nothing left over.  What counts of the coefficient, rounded if a decimal has no room for it,
times the power of ten is the number; it is rounded once more if it has more places than a decimal
can have. -/
theorem read_eq_ok (h : read cs = .ok p) (hpos : 0 < p.toRat) :
    ∃ sign coefficient exponent counted, ∃ x : ℤ, ∃ d : Decimal,
      cs = sign ++ coefficient ++ exponent ∧ (sign = [] ∨ sign = ['+']) ∧
      Counts coefficient counted ∧ IsExponent exponent x ∧
      |d.toRat - coefficientValue counted| ≤ 1 / 2 / 10 ^ d.scale ∧
      (d.toRat = coefficientValue counted ∨ IsFull d.mantissa d.scale) ∧
      (d.scale - x ≤ maxScale → p.toRat = d.toRat * 10 ^ x) ∧
      (maxScale < d.scale - x → p.toRat = roundedAtMaxScale (d.toRat * 10 ^ x)) := by
  unfold read at h
  cases hplain : readPlain cs with
  | ok d =>
    rw [hplain] at h
    cases h
    obtain ⟨sign, coefficient, counted, rfl, hsign, hcounts, hnear, hfull⟩ :=
      readPlain_eq_ok hplain (isPositive_iff.mpr hpos)
    refine ⟨sign, coefficient, [], counted, 0, p, by simp, hsign, hcounts, .none, hnear, hfull,
      by simp, fun hplaces => absurd hplaces ?_⟩
    rw [sub_zero, not_lt]
    exact_mod_cast p.scale_le
  | error cause =>
    rw [hplain] at h
    simp only [readScientific] at h
    cases hcut : cutAtExponent cs with
    | none => rw [hcut] at h; cases h
    | some parts =>
      obtain ⟨front, back⟩ := parts
      simp only [hcut, bind_eq_ok_iff] at h
      obtain ⟨d, hfront, hscaled⟩ := h
      cases hexponent : readExponent? back with
      | none => rw [hexponent] at hscaled; cases hscaled
      | some exponent =>
        obtain ⟨negative, e⟩ := exponent
        rw [hexponent] at hscaled
        have hd := isPositive_of_scaleBy hscaled (isPositive_iff.mpr hpos)
        obtain ⟨hle, hexact, hround⟩ := scaleBy_eq_ok hscaled hpos
        obtain ⟨letter, hletter, rfl⟩ := append_of_cutAtExponent hcut
        obtain ⟨sign, coefficient, counted, rfl, hsign, hcounts, hnear, hfull⟩ :=
          readPlain_eq_ok hfront hd
        exact ⟨sign, coefficient, letter :: back, counted, _, d, rfl, hsign, hcounts,
          isExponent_of_readExponent? hexponent hle hletter, hnear, hfull, hexact, hround⟩

end LedgerLookup.Decimal
