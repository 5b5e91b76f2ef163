import LedgerLookup.Text.Digits
import Mathlib.Algebra.Group.Nat.Defs
import Mathlib.Data.List.Induction
import Mathlib.Tactic.Common

/-!
# Decimal digits of numbers

What is written for a number is a run of digits, of which there is at least one, and it is read as
that number.
-/

namespace LedgerLookup.Text

theorem toNat_of_isDigit {c : Char} (h : isDigit c = true) : 48 ≤ c.toNat ∧ c.toNat ≤ 57 := by
  simp only [isDigit, Bool.and_eq_true, decide_eq_true_eq] at h
  exact h

theorem ne_of_isDigit {c d : Char} (hc : isDigit c = true) (hd : isDigit d = false) : c ≠ d := by
  rintro rfl
  rw [hc] at hd
  cases hd

theorem isDigit_of_mem_digits {n : Nat} {c : Char} (h : c ∈ digits n) : isDigit c = true :=
  Nat.isDigit_of_mem_toDigits (by decide) (by decide) h

/-- A number ends in a digit. -/
theorem exists_digits_eq_append_singleton (n : Nat) :
    ∃ front digit, digits n = front ++ [digit] ∧ isDigit digit = true := by
  have hne : digits n ≠ [] := Nat.toDigits_ne_nil
  exact ⟨_, _, (List.dropLast_concat_getLast hne).symm,
    isDigit_of_mem_digits (List.getLast_mem hne)⟩

theorem digitsValue_digits (n : Nat) : digitsValue (digits n) = n :=
  Nat.ofDigitChars_ten_toDigits

/-- Only zero starts with a zero. -/
theorem eq_nil_of_digits_eq_zero_cons {n : Nat} {ds : List Char} (h : digits n = '0' :: ds) :
    ds = [] := by
  rw [digits, Nat.toDigits_eq_if (by decide)] at h
  split_ifs at h with hsmall
  · exact (List.cons.inj h).2.symm
  · cases hfront : Nat.toDigits 10 (n / 10) with
    | nil => exact absurd hfront Nat.toDigits_ne_nil
    | cons c front =>
      rw [hfront, List.cons_append] at h
      obtain ⟨rfl, -⟩ := List.cons.inj h
      have hnil : front = [] := eq_nil_of_digits_eq_zero_cons hfront
      have hvalue : digitsValue (digits (n / 10)) = 0 := by
        rw [digits, hfront, hnil]
        rfl
      rw [digitsValue_digits] at hvalue
      omega
termination_by n
decreasing_by omega

/-- Digits are read as the number that they stand for. -/
theorem readDigits?_of_forall {ds : List Char} (hne : ds ≠ [])
    (hds : ∀ c ∈ ds, isDigit c = true) : readDigits? ds = some (digitsValue ds) := by
  have hall : ds.all isDigit = true := List.all_eq_true.mpr hds
  simp [readDigits?, hne, hall]

/-- A sign is not needed. -/
theorem readUnsigned?_of_forall {ds : List Char} (hne : ds ≠ [])
    (hds : ∀ c ∈ ds, isDigit c = true) : readUnsigned? ds = some (digitsValue ds) := by
  unfold readUnsigned?
  split
  · exact absurd (hds '+' List.mem_cons_self) (by decide)
  · exact readDigits?_of_forall hne hds

/-- Only digits are read as a number. -/
theorem readDigits?_eq_some {ds : List Char} {n : Nat} (h : readDigits? ds = some n) :
    ds ≠ [] ∧ (∀ c ∈ ds, isDigit c = true) ∧ digitsValue ds = n := by
  unfold readDigits? at h
  split_ifs at h with hds
  simp only [Bool.or_eq_true, not_or, Bool.not_eq_true', Bool.not_eq_false] at hds
  exact ⟨by simpa using hds.1, by simpa using hds.2, Option.some.inj h⟩

theorem append_of_readUnsigned? {cs : List Char} {n : Nat} (h : readUnsigned? cs = some n) :
    ∃ plus ds, cs = plus ++ ds ∧ (plus = [] ∨ plus = ['+']) ∧ readDigits? ds = some n := by
  unfold readUnsigned? at h
  split at h
  · next ds => exact ⟨['+'], ds, rfl, .inr rfl, h⟩
  · exact ⟨[], cs, rfl, .inl rfl, h⟩

/-- A number is read from one or more digits with or without a plus sign in front, and from nothing
else. -/
theorem readUnsigned?_eq_some_iff {cs : List Char} {n : Nat} : readUnsigned? cs = some n ↔
    ∃ plus ds, cs = plus ++ ds ∧ (plus = [] ∨ plus = ['+']) ∧ ds ≠ [] ∧
      (∀ c ∈ ds, isDigit c = true) ∧ digitsValue ds = n := by
  constructor
  · intro h
    obtain ⟨plus, ds, hcs, hplus, hread⟩ := append_of_readUnsigned? h
    exact ⟨plus, ds, hcs, hplus, readDigits?_eq_some hread⟩
  · rintro ⟨plus, ds, rfl, rfl | rfl, hne, hds, rfl⟩
    · exact readUnsigned?_of_forall hne hds
    · exact readDigits?_of_forall hne hds

/-- A number is read back from its digits. -/
theorem readDigits?_digits (n : Nat) : readDigits? (digits n) = some n := by
  have hne : digits n ≠ [] := Nat.toDigits_ne_nil
  rw [readDigits?_of_forall hne fun _ hc => isDigit_of_mem_digits hc, digitsValue_digits]

/-! ### Values -/

theorem digitsValue_append (front back : List Char) :
    digitsValue (front ++ back) = digitsValue front * 10 ^ back.length + digitsValue back := by
  simp only [digitsValue, Nat.ofDigitChars_append]
  rw [Nat.ofDigitChars_eq_ofDigitChars_zero, Nat.mul_comm]

theorem digitsValue_append_singleton (front : List Char) (c : Char) :
    digitsValue (front ++ [c]) = digitsValue front * 10 + (c.toNat - 48) := by
  simp [digitsValue, Nat.ofDigitChars_append, Nat.ofDigitChars_cons, Nat.mul_comm]

/-- So many digits stand for less than that power of ten. -/
theorem digitsValue_lt_pow {ds : List Char} (h : ∀ c ∈ ds, isDigit c = true) :
    digitsValue ds < 10 ^ ds.length := by
  induction ds using List.reverseRecOn with
  | nil => exact Nat.one_pos
  | append_singleton front c ih =>
    have hfront := ih fun d hd => h d (List.mem_append_left _ hd)
    have hc := toNat_of_isDigit (h c (by simp))
    rw [digitsValue_append_singleton, List.length_append, List.length_singleton, Nat.pow_succ]
    omega

end LedgerLookup.Text
