import LedgerLookup.Decimal.Reader
import LedgerLookup.Proofs.Results
import LedgerLookup.Proofs.Text.Digits
import Mathlib.Algebra.Order.Field.Rat
import Mathlib.Data.List.TakeWhile
import Mathlib.Tactic.FieldSimp
import Mathlib.Tactic.Linarith
import Mathlib.Tactic.Positivity
import Mathlib.Tactic.Ring

/-!
# Coefficients

A coefficient is a plain numeral without its sign: digits with at most one point, and underscores
after the first digit.  It is read digit by digit as long as the digits fit a decimal.  At the first
one that does not, the number so far is rounded to the nearest, and the rest is looked at only to
make sure that nothing but digits and underscores follows.
-/

namespace LedgerLookup.Decimal

/-! ### What is written -/

/-- The digits of a text, in their order. -/
def digitsIn (cs : List Char) : List Char :=
  cs.filter Text.isDigit

/-- How many digits stand after the first point. -/
def placesIn (cs : List Char) : Nat :=
  (digitsIn (cs.dropWhile (· ≠ '.'))).length

/-- The number that a coefficient stands for. -/
def coefficientValue (cs : List Char) : ℚ :=
  Text.digitsValue (digitsIn cs) / 10 ^ placesIn cs

/-- There is a digit, and no underscore stands before the first one. -/
def LeadsWithDigit (cs : List Char) : Prop :=
  ∃ before c after, cs = before ++ c :: after ∧ Text.isDigit c = true ∧ '_' ∉ before

/-- A coefficient: digits with at most one point, and underscores after the first digit. -/
structure IsCoefficient (cs : List Char) : Prop where
  mem : ∀ c ∈ cs, Text.isDigit c = true ∨ c = '_' ∨ c = '.'
  point : cs.count '.' ≤ 1
  leads : LeadsWithDigit cs

/-- What of a coefficient counts: all of it, or, where an underscore stands right after the
twenty-eighth place, only what stands before this underscore. -/
inductive Counts : List Char → List Char → Prop
  | whole {cs : List Char} (h : IsCoefficient cs) : Counts cs cs
  | before {cs tail : List Char} (h : IsCoefficient cs) (hplaces : placesIn cs = 28)
      (htail : ∀ c ∈ tail, Text.isDigit c = true ∨ c = '_') : Counts (cs ++ '_' :: tail) cs

theorem digitsIn_append (front back : List Char) :
    digitsIn (front ++ back) = digitsIn front ++ digitsIn back :=
  List.filter_append front back

theorem digitsIn_singleton {c : Char} (h : Text.isDigit c = true) : digitsIn [c] = [c] :=
  List.filter_cons_of_pos h

theorem digitsIn_of_forall {cs : List Char} (h : ∀ c ∈ cs, Text.isDigit c = true) :
    digitsIn cs = cs :=
  List.filter_eq_self.mpr h

theorem isDigit_of_mem_digitsIn {cs : List Char} {c : Char} (h : c ∈ digitsIn cs) :
    Text.isDigit c = true :=
  List.of_mem_filter h

theorem placesIn_of_no_point {cs : List Char} (h : '.' ∉ cs) : placesIn cs = 0 := by
  have hall : ∀ c ∈ cs, decide (c ≠ '.') = true := fun c hc =>
    decide_eq_true fun hpoint => h (hpoint ▸ hc)
  rw [placesIn, List.dropWhile_eq_nil_iff.mpr hall]
  rfl

theorem placesIn_le (cs : List Char) : placesIn cs ≤ (digitsIn cs).length := by
  refine List.Sublist.length_le (List.Sublist.filter _ ?_)
  exact List.dropWhile_sublist _

/-- After the point every digit is a place. -/
theorem placesIn_append_of_point {front : List Char} (h : '.' ∈ front) (back : List Char) :
    placesIn (front ++ back) = placesIn front + (digitsIn back).length := by
  have hne : (front.dropWhile (· ≠ '.')).isEmpty = false := by
    rw [List.isEmpty_eq_false_iff, ne_eq, List.dropWhile_eq_nil_iff]
    exact fun hall => by simpa using hall '.' h
  rw [placesIn, List.dropWhile_append, hne, if_neg (by simp), digitsIn_append, List.length_append,
    placesIn]

theorem placesIn_append_point {front : List Char} (h : '.' ∉ front) :
    placesIn (front ++ ['.']) = 0 := by
  have hall : ∀ c ∈ front, decide (c ≠ '.') = true := fun c hc =>
    decide_eq_true fun hpoint => h (hpoint ▸ hc)
  rw [placesIn, List.dropWhile_append, List.dropWhile_eq_nil_iff.mpr hall]
  rfl

theorem LeadsWithDigit.append {front : List Char} (h : LeadsWithDigit front) (back : List Char) :
    LeadsWithDigit (front ++ back) := by
  obtain ⟨before, c, after, rfl, hc, hbefore⟩ := h
  exact ⟨before, c, after ++ back, by simp, hc, hbefore⟩

/-! ### Steps of the reader -/

namespace Reading

/-- A reading with one more digit. -/
def push (p : Reading) (c : Char) : Reading :=
  { p with
    mantissa := p.mantissa * 10 + (c.toNat - 48)
    scale := if p.pointed then p.scale + 1 else 0
    hasDigit := true }

/-- Whether there is room for another place. -/
def HasRoom (p : Reading) : Prop :=
  p.pointed = true → p.scale ≠ maxScale

/-- A character that is read, and what has been read then. -/
inductive Step (p : Reading) : Char → Reading → Prop
  | digit {c : Char} (h : Text.isDigit c = true)
      (hfits : p.mantissa * 10 + (c.toNat - 48) < mantissaBound) : Step p c (p.push c)
  | point (h : p.pointed = false) : Step p '.' { p with pointed := true }
  | underscore (h : p.hasDigit = true) : Step p '_' p

/-- A character at which the reader stops and rounds, and the digit that it counts as. -/
inductive Stop (p : Reading) : Char → Nat → Prop
  | digit {c : Char} (h : Text.isDigit c = true)
      (hfull : p.scale = maxScale ∨ mantissaBound ≤ p.mantissa * 10 + (c.toNat - 48)) :
      Stop p c (c.toNat - 48)
  | underscore (hfull : p.scale = maxScale) : Stop p '_' 0

end Reading

open Reading

variable {p q : Reading} {c : Char} {front rest : List Char} {r : Nat × Nat}

theorem firstDropped_eq_ok {digit : Nat} (h : firstDropped c = .ok digit) :
    (Text.isDigit c = true ∧ digit = c.toNat - 48) ∨ (c = '_' ∧ digit = 0) := by
  unfold firstDropped at h
  split_ifs at h with hdigit hunderscore
  · exact .inl ⟨hdigit, (Except.ok.inj h).symm⟩
  · exact .inr ⟨hunderscore, (Except.ok.inj h).symm⟩

/-- Nothing but digits and underscores follows the place where the reader stops. -/
theorem mem_of_skipTail (h : skipTail rest = .ok ()) :
    ∀ d ∈ rest, Text.isDigit d = true ∨ d = '_' := by
  induction rest with
  | nil => simp
  | cons d rest ih =>
    rw [skipTail] at h
    split_ifs at h with hd
    rw [Bool.or_eq_true, beq_iff_eq] at hd
    exact List.forall_mem_cons.mpr ⟨hd, ih h⟩

/-- What the reader can do with a character: read it, or stop there and round. -/
theorem readUnsigned_cons (h : readUnsigned p (c :: rest) = .ok r) :
    (p.HasRoom ∧ ∃ q, p.Step c q ∧ readUnsigned q rest = .ok r) ∨
      (p.pointed = true ∧ ∃ digit, p.Stop c digit ∧ skipTail rest = .ok () ∧
        roundAt p digit = .ok r) := by
  rw [readUnsigned] at h
  change (if _ then _ else if _ then
    (if _ then _ else if _ then _ else readUnsigned (p.push c) rest) else _) = _ at h
  split_ifs at h with hfull hdigit hstop hmany hpoint hunderscore
  · simp only [Bool.and_eq_true, beq_iff_eq] at hfull
    simp only [bind_eq_ok_iff] at h
    obtain ⟨digit, hdropped, _, htail, hround⟩ := h
    refine .inr ⟨hfull.1, digit, ?_, htail, hround⟩
    rcases firstDropped_eq_ok hdropped with ⟨hc, rfl⟩ | ⟨rfl, rfl⟩
    · exact .digit hc (.inl hfull.2)
    · exact .underscore hfull.2
  · simp only [Bool.and_eq_true, decide_eq_true_eq] at hstop
    simp only [bind_eq_ok_iff] at h
    obtain ⟨_, htail, hround⟩ := h
    exact .inr ⟨hstop.1, _, .digit hdigit (.inr hstop.2), htail, hround⟩
  · exact .inl ⟨by simpa [HasRoom] using hfull, _, .digit hdigit (not_le.mp hmany), h⟩
  · obtain ⟨rfl, hp⟩ := hpoint
    exact .inl ⟨by simpa [HasRoom] using hfull, _, .point (by simpa using hp), h⟩
  · obtain ⟨rfl, hp⟩ := hunderscore
    exact .inl ⟨by simpa [HasRoom] using hfull, _, .underscore hp, h⟩

/-- The reader goes on after a character that it can read. -/
theorem readUnsigned_of_step (hroom : p.HasRoom) (hstep : p.Step c q) :
    readUnsigned p (c :: rest) = readUnsigned q rest := by
  have hfull : (p.pointed && p.scale == maxScale) = false := by
    rw [Bool.and_eq_false_imp]
    exact fun hp => by simpa using hroom hp
  rw [readUnsigned, hfull]
  cases hstep with
  | digit hc hfits =>
    have hmany : ¬ mantissaBound ≤ p.mantissa * 10 + (c.toNat - 48) := not_le.mpr hfits
    simp [hc, hmany, push]
  | point hp => simp [Text.isDigit, hp]
  | underscore hp => simp [Text.isDigit, hp]

/-! ### What has been read -/

namespace Reading

/-- The reading is that of the characters so far. -/
structure StandsFor (p : Reading) (front : List Char) : Prop where
  mem : ∀ c ∈ front, Text.isDigit c = true ∨ c = '_' ∨ c = '.'
  point : front.count '.' ≤ 1
  leads : p.hasDigit = true → LeadsWithDigit front
  fresh : p.hasDigit = false → digitsIn front = [] ∧ '_' ∉ front
  pointed : p.pointed = true ↔ '.' ∈ front
  mantissa : p.mantissa = Text.digitsValue (digitsIn front)
  scale : p.scale = placesIn front
  fits : p.mantissa < mantissaBound

theorem standsFor_nil : StandsFor {} [] where
  mem := by simp
  point := by simp
  leads := by simp
  fresh := fun _ => ⟨rfl, List.not_mem_nil⟩
  pointed := by simp
  mantissa := rfl
  scale := rfl
  fits := by decide

theorem StandsFor.isCoefficient (h : p.StandsFor front) (hdigit : p.hasDigit = true) :
    IsCoefficient front :=
  ⟨h.mem, h.point, h.leads hdigit⟩

theorem StandsFor.value (h : p.StandsFor front) :
    coefficientValue front = p.mantissa / 10 ^ p.scale := by
  rw [coefficientValue, h.mantissa, h.scale]

/-- A digit after what has been read makes a coefficient of it. -/
theorem StandsFor.leads_digit (h : p.StandsFor front) (hc : Text.isDigit c = true) :
    LeadsWithDigit (front ++ [c]) := by
  cases hdigit : p.hasDigit with
  | true => exact (h.leads hdigit).append [c]
  | false => exact ⟨front, c, [], rfl, hc, (h.fresh hdigit).2⟩

theorem StandsFor.digit (h : p.StandsFor front) (hc : Text.isDigit c = true)
    (hfits : p.mantissa * 10 + (c.toNat - 48) < mantissaBound) :
    (p.push c).StandsFor (front ++ [c]) := by
  have hdigits := digitsIn_singleton hc
  have hne : c ≠ '.' := Text.ne_of_isDigit hc (by decide)
  refine ⟨?_, ?_, fun _ => h.leads_digit hc, by simp [push], ?_, ?_, ?_, hfits⟩
  · exact fun d hd => (List.mem_append.mp hd).elim (h.mem d) (by simp +contextual [hc])
  · simpa [List.count_append, hne] using h.point
  · simpa [push, hne.symm] using h.pointed
  · rw [digitsIn_append, hdigits, Text.digitsValue_append_singleton, ← h.mantissa]
    rfl
  · by_cases hp : p.pointed = true
    · rw [placesIn_append_of_point (h.pointed.mp hp), hdigits, ← h.scale]
      simp [push, hp]
    · have hno : '.' ∉ front ++ [c] := by simpa [hne.symm] using mt h.pointed.mpr hp
      rw [placesIn_of_no_point hno]
      simp [push, hp]

theorem StandsFor.addPoint (h : p.StandsFor front) (hp : p.pointed = false) :
    StandsFor { p with pointed := true } (front ++ ['.']) := by
  have hno : '.' ∉ front := fun hmem => by simpa [hp] using h.pointed.mpr hmem
  refine ⟨?_, ?_, fun hd => (h.leads hd).append _, ?_, by simp, ?_, ?_, h.fits⟩
  · exact fun d hd => (List.mem_append.mp hd).elim (h.mem d) (by simp +contextual)
  · simp [List.count_append, List.count_eq_zero_of_not_mem hno]
  · intro hd
    obtain ⟨hnone, hno⟩ := h.fresh hd
    rw [digitsIn_append, hnone]
    exact ⟨rfl, by simpa using hno⟩
  · rw [digitsIn_append, h.mantissa]
    simp [digitsIn, Text.isDigit]
  · rw [placesIn_append_point hno, ← placesIn_of_no_point hno]
    exact h.scale

theorem StandsFor.underscore (h : p.StandsFor front) (hdigit : p.hasDigit = true) :
    p.StandsFor (front ++ ['_']) := by
  have hdigits : digitsIn ['_'] = [] := rfl
  refine ⟨?_, ?_, fun hd => (h.leads hd).append _, by simp [hdigit], ?_, ?_, ?_, h.fits⟩
  · exact fun d hd => (List.mem_append.mp hd).elim (h.mem d) (by simp +contextual)
  · simpa [List.count_append] using h.point
  · simpa using h.pointed
  · rw [digitsIn_append, hdigits, List.append_nil, h.mantissa]
  · by_cases hp : p.pointed = true
    · rw [placesIn_append_of_point (h.pointed.mp hp), hdigits, h.scale]
      rfl
    · have hno : '.' ∉ front := mt h.pointed.mpr hp
      rw [h.scale, placesIn_of_no_point hno, placesIn_of_no_point (by simpa using hno)]

/-- **A step keeps the reading that of the characters so far.** -/
theorem StandsFor.step (h : p.StandsFor front) (hstep : p.Step c q) :
    q.StandsFor (front ++ [c]) := by
  cases hstep with
  | digit hc hfits => exact h.digit hc hfits
  | point hp => exact h.addPoint hp
  | underscore hdigit => exact h.underscore hdigit

end Reading

/-! ### Rounding -/

theorem abs_div_sub_div_le {a b u e : ℚ} (hu : 0 < u) (h : |a - b| ≤ e) :
    |a / u - b / u| ≤ e / u := by
  rw [← sub_div, abs_div, abs_of_pos hu]
  exact div_le_div_of_nonneg_right h hu.le

/-- Where the reader stops, it rounds to the nearest of the numbers that have no more places. -/
theorem roundAt_near {digit m s : Nat} (h : roundAt p digit = .ok (m, s))
    (hfits : p.mantissa < mantissaBound) {f : ℚ} (hlow : (digit : ℚ) / 10 ≤ f)
    (hhigh : f < (digit + 1) / 10) (hdigit : digit ≤ 9) :
    |(m : ℚ) / 10 ^ s - (p.mantissa + f) / 10 ^ p.scale| ≤ 1 / 2 / 10 ^ s := by
  have hpos : ∀ n : Nat, (0 : ℚ) < 10 ^ n := fun n => by positivity
  have hzero : (0 : ℚ) ≤ f := le_trans (by positivity) hlow
  have hone : f < 1 := by
    have : (digit : ℚ) ≤ 9 := by exact_mod_cast hdigit
    linarith
  unfold roundAt at h
  split_ifs at h with hless hroom hnone
  · cases h
    refine abs_div_sub_div_le (hpos _) ?_
    have : (digit : ℚ) ≤ 4 := by exact_mod_cast Nat.le_of_lt_succ hless
    rw [abs_le]
    constructor <;> linarith
  · cases h
    refine abs_div_sub_div_le (hpos _) ?_
    have : (5 : ℚ) ≤ digit := by exact_mod_cast not_lt.mp hless
    push_cast
    rw [abs_le]
    constructor <;> linarith
  · -- The greatest mantissa is one below the bound, and five more than it is a multiple of ten.
    obtain ⟨hm, hs⟩ := Prod.mk.inj (Except.ok.inj h)
    have hlast : p.mantissa = 79228162514264337593543950335 := by
      simp only [mantissaBound] at hfits hroom
      omega
    have hten : m * 10 = p.mantissa + 5 := by omega
    have hplaces : p.scale = s + 1 := by omega
    have hunit : (p.mantissa + f) / 10 ^ p.scale = (p.mantissa + f) / 10 / 10 ^ s := by
      rw [hplaces, pow_succ']
      field_simp
    rw [hunit]
    refine abs_div_sub_div_le (hpos _) ?_
    have hcast : (m : ℚ) * 10 = p.mantissa + 5 := by exact_mod_cast hten
    rw [abs_le]
    constructor <;> linarith

/-- Nothing is rounded at the digit zero. -/
theorem roundAt_zero (p : Reading) : roundAt p 0 = .ok (p.mantissa, p.scale) := by
  rw [roundAt, if_pos (by decide)]

/-- All places are taken, or two more digits would not fit. -/
def IsFull (m s : Nat) : Prop :=
  s = maxScale ∨ mantissaBound ≤ m * 100

/-- What is rounded since a digit does not fit is full. -/
theorem isFull_of_roundAt {digit m s : Nat} (h : roundAt p digit = .ok (m, s)) (hdigit : digit ≤ 9)
    (hfull : p.scale = maxScale ∨ mantissaBound ≤ p.mantissa * 10 + digit) : IsFull m s := by
  unfold roundAt at h
  split_ifs at h with hless hroom hnone
  · cases h
    exact hfull.imp id fun hbound => by simp only [mantissaBound] at hbound ⊢; omega
  · cases h
    exact hfull.imp id fun hbound => by simp only [mantissaBound] at hbound ⊢; omega
  · obtain ⟨hm, -⟩ := Prod.mk.inj (Except.ok.inj h)
    right
    simp only [mantissaBound] at hroom ⊢
    omega

/-- What follows the point adds a fraction of the last place. -/
theorem coefficientValue_append (h : '.' ∈ front) (back : List Char) :
    coefficientValue (front ++ back) =
      (Text.digitsValue (digitsIn front) +
        Text.digitsValue (digitsIn back) / 10 ^ (digitsIn back).length) / 10 ^ placesIn front := by
  rw [coefficientValue, placesIn_append_of_point h, digitsIn_append, Text.digitsValue_append,
    pow_add]
  push_cast
  field_simp

/-- The digits after a point stand for less than one more in the first of them. -/
theorem fraction_bounds (c : Char) {ds : List Char} (hds : ∀ d ∈ ds, Text.isDigit d = true) :
    ((c.toNat - 48 : Nat) : ℚ) / 10 ≤ Text.digitsValue (c :: ds) / 10 ^ (c :: ds).length ∧
      (Text.digitsValue (c :: ds) : ℚ) / 10 ^ (c :: ds).length <
        ((c.toNat - 48 : Nat) + 1) / 10 := by
  have hvalue : Text.digitsValue (c :: ds) =
      (c.toNat - 48) * 10 ^ ds.length + Text.digitsValue ds := by
    rw [← List.singleton_append, Text.digitsValue_append]
    simp [Text.digitsValue, Nat.ofDigitChars_cons]
  have hlt : (Text.digitsValue ds : ℚ) < 10 ^ ds.length := by
    exact_mod_cast Text.digitsValue_lt_pow hds
  have hpos : (0 : ℚ) < 10 ^ ds.length := by positivity
  have hnonneg : (0 : ℚ) ≤ Text.digitsValue ds := Nat.cast_nonneg _
  rw [hvalue, List.length_cons, pow_succ, Nat.cast_add, Nat.cast_mul, Nat.cast_pow,
    Nat.cast_ofNat]
  constructor
  · rw [div_le_div_iff₀ (by norm_num) (by positivity)]
    nlinarith
  · rw [div_lt_div_iff₀ (by positivity) (by norm_num)]
    nlinarith

/-- A mantissa and a scale that a coefficient may be read as: they are what counts of the
coefficient, rounded to the nearest if there is no room for it. -/
def IsReading (cs : List Char) (m s : Nat) : Prop :=
  ∃ counted, Counts cs counted ∧
    |(m : ℚ) / 10 ^ s - coefficientValue counted| ≤ 1 / 2 / 10 ^ s ∧
    ((m : ℚ) / 10 ^ s = coefficientValue counted ∨ IsFull m s)

namespace Reading

/-- Where the reader stops, the coefficient has been read all the same. -/
theorem StandsFor.stop {digit m s : Nat} (h : p.StandsFor front) (hp : p.pointed = true)
    (hstop : p.Stop c digit) (htail : skipTail rest = .ok ())
    (hround : roundAt p digit = .ok (m, s)) : IsReading (front ++ c :: rest) m s := by
  have hmem := mem_of_skipTail htail
  cases hstop with
  | digit hc hfull =>
    have hdigits : digitsIn (c :: rest) = c :: digitsIn rest := List.filter_cons_of_pos hc
    obtain ⟨hlow, hhigh⟩ :=
      fraction_bounds c fun d (hd : d ∈ digitsIn rest) => isDigit_of_mem_digitsIn hd
    have hnine : c.toNat - 48 ≤ 9 := by
      have := Text.toNat_of_isDigit hc
      omega
    have hnear := roundAt_near hround h.fits hlow hhigh hnine
    refine ⟨front ++ c :: rest, .whole ⟨?_, ?_, ?_⟩, ?_,
      .inr (isFull_of_roundAt hround hnine hfull)⟩
    · intro d hd
      rw [List.mem_append, List.mem_cons] at hd
      rcases hd with hd | rfl | hd
      · exact h.mem d hd
      · exact .inl hc
      · exact (hmem d hd).imp id .inl
    · have hnone : '.' ∉ c :: rest := by
        intro hpoint
        rcases List.mem_cons.mp hpoint with rfl | hpoint
        · exact absurd hc (by decide)
        · exact absurd (hmem '.' hpoint) (by decide)
      rw [List.count_append, List.count_eq_zero_of_not_mem hnone]
      exact h.point
    · rw [← List.singleton_append, ← List.append_assoc]
      exact (h.leads_digit hc).append rest
    · rwa [coefficientValue_append (h.pointed.mp hp), hdigits, ← h.mantissa, ← h.scale]
  | underscore hfull =>
    have hdigit : p.hasDigit = true := by
      by_contra hno
      have hle := placesIn_le front
      rw [← h.scale, hfull, (h.fresh (by simpa using hno)).1] at hle
      cases hle
    rw [roundAt_zero] at hround
    cases hround
    refine ⟨front, .before (h.isCoefficient hdigit) ?_ hmem, ?_, .inl h.value.symm⟩
    · rw [← h.scale, hfull, maxScale]
    · rw [h.value, sub_self, abs_zero]
      positivity

/-- **What a coefficient is read as**, once a part of it has been. -/
theorem StandsFor.run {m s : Nat} (h : p.StandsFor front)
    (hread : readUnsigned p rest = .ok (m, s)) : IsReading (front ++ rest) m s := by
  induction rest generalizing p front with
  | nil =>
    rw [readUnsigned] at hread
    split_ifs at hread with hdigit
    cases hread
    rw [List.append_nil]
    refine ⟨front, .whole (h.isCoefficient hdigit), ?_, .inl h.value.symm⟩
    rw [h.value, sub_self, abs_zero]
    positivity
  | cons c rest ih =>
    rcases readUnsigned_cons hread with ⟨-, q, hstep, hq⟩ | ⟨hp, digit, hstop, htail, hround⟩
    · have hfront := ih (h.step hstep) hq
      rwa [List.append_assoc, List.singleton_append] at hfront
    · exact h.stop hp hstop htail hround

end Reading

/-- A coefficient is all that the reader accepts, and it is read as the nearest decimal. -/
theorem isReading_of_readUnsigned {cs : List Char} {m s : Nat}
    (h : readUnsigned {} cs = .ok (m, s)) : IsReading cs m s :=
  standsFor_nil.run h

theorem Counts.mem {cs counted : List Char} (h : Counts cs counted) :
    ∀ c ∈ cs, Text.isDigit c = true ∨ c = '_' ∨ c = '.' := by
  cases h with
  | whole h => exact h.mem
  | before h _ htail =>
    intro c hc
    rw [List.mem_append, List.mem_cons] at hc
    rcases hc with hc | rfl | hc
    · exact h.mem c hc
    · exact .inr (.inl rfl)
    · exact (htail c hc).imp id .inl

/-! ### Short coefficients -/

/-- Only a digit lets an underscore follow. -/
theorem LeadsWithDigit.digitsIn_ne_nil (h : LeadsWithDigit (front ++ '_' :: rest)) :
    digitsIn front ≠ [] := by
  obtain ⟨before, c, after, heq, hc, hbefore⟩ := h
  have hmem : c ∈ front := by
    rcases List.append_eq_append_iff.mp heq with ⟨cs, rfl, hcs⟩ | ⟨cs, rfl, hcs⟩
    · cases cs with
      | nil => exact absurd ((List.cons.inj hcs).1 ▸ hc) (by decide)
      | cons d cs =>
        obtain ⟨rfl, -⟩ := List.cons.inj hcs
        exact absurd (by simp) hbefore
    · cases cs with
      | nil => exact absurd ((List.cons.inj hcs).1 ▸ hc) (by decide)
      | cons d cs => simp [(List.cons.inj hcs).1]
  exact List.ne_nil_of_mem (List.mem_filter.mpr ⟨hmem, hc⟩)

/-- So many digits fit a decimal, whatever they are. -/
theorem digitsValue_lt_mantissaBound {ds : List Char} (hds : ∀ c ∈ ds, Text.isDigit c = true)
    (hlen : ds.length ≤ maxScale) : Text.digitsValue ds < mantissaBound :=
  calc Text.digitsValue ds < 10 ^ ds.length := Text.digitsValue_lt_pow hds
    _ ≤ 10 ^ maxScale := Nat.pow_le_pow_right (by decide) hlen
    _ < mantissaBound := by decide

theorem Reading.StandsFor.run_short (h : p.StandsFor front) (hall : IsCoefficient (front ++ rest))
    (hlen : (digitsIn (front ++ rest)).length ≤ maxScale)
    (hplaces : placesIn (front ++ rest) < maxScale) :
    readUnsigned p rest =
      .ok (Text.digitsValue (digitsIn (front ++ rest)), placesIn (front ++ rest)) := by
  induction rest generalizing p front with
  | nil =>
    rw [List.append_nil] at hall ⊢
    have hdigit : p.hasDigit = true := by
      by_contra hno
      obtain ⟨before, c, after, rfl, hc, -⟩ := hall.leads
      have hmem : c ∈ digitsIn (before ++ c :: after) := List.mem_filter.mpr ⟨by simp, hc⟩
      rw [(h.fresh (by simpa using hno)).1] at hmem
      cases hmem
    rw [readUnsigned, if_pos hdigit, h.mantissa, h.scale]
  | cons c rest ih =>
    have hsplit : front ++ c :: rest = front ++ [c] ++ rest := by simp
    have hroom : p.HasRoom := fun hp => by
      rw [placesIn_append_of_point (h.pointed.mp hp), ← h.scale] at hplaces
      omega
    obtain ⟨q, hstep⟩ : ∃ q, p.Step c q := by
      rcases hall.mem c (by simp) with hc | rfl | rfl
      · refine ⟨_, .digit hc ?_⟩
        rw [h.mantissa, ← Text.digitsValue_append_singleton, ← digitsIn_singleton hc,
          ← digitsIn_append]
        refine digitsValue_lt_mantissaBound (fun _ => isDigit_of_mem_digitsIn) (le_trans ?_ hlen)
        rw [hsplit, digitsIn_append _ rest, List.length_append]
        exact Nat.le_add_right _ _
      · refine ⟨_, .underscore ?_⟩
        by_contra hno
        exact hall.leads.digitsIn_ne_nil (h.fresh (by simpa using hno)).1
      · refine ⟨_, .point ?_⟩
        by_contra hp
        have hmem : '.' ∈ front := h.pointed.mp (by simpa using hp)
        have hpoint := hall.point
        rw [List.count_append, List.count_cons_self] at hpoint
        have := List.count_pos_iff.mpr hmem
        omega
    rw [readUnsigned_of_step hroom hstep]
    rw [hsplit] at hall hlen hplaces ⊢
    exact ih (h.step hstep) hall hlen hplaces

/-- A coefficient of few digits is read exactly, with its places. -/
theorem readUnsigned_of_short {cs : List Char} (h : IsCoefficient cs)
    (hlen : (digitsIn cs).length ≤ maxScale) (hplaces : placesIn cs < maxScale) :
    readUnsigned {} cs = .ok (Text.digitsValue (digitsIn cs), placesIn cs) :=
  Reading.standsFor_nil.run_short h hlen hplaces

end LedgerLookup.Decimal
